import ClauseTree.Identifier

/-!
# Dotted identifiers read back

Splitting a dotted identifier undoes writing it: parts joined by dots, the quoted ones with
their quotes doubled, are found again one by one, whatever stands inside the quotes.  So a
quoted identifier is split into its quoted parts and written once more as it is.

A text that nobody wrote part by part is split as well.  How many parts it has is counted
here by a reader that knows four positions and no parts: a dot is a separator unless it is
read inside of quotes that were opened at the start of a part.  The splitter agrees with the
reader up to one slip.  It decides by the last character of the text whether an empty part
follows, and a dot that an open quotation has swallowed then counts once more.
-/

namespace ClauseTree.Identifier

/-- A part as it stands in a dotted identifier. -/
def Part.written : Part → String
  | .bare text => text
  | .quoted text => Text.quotedName text

/-- Parts with dots between them. -/
def dotted (sequence : List Part) : String :=
  ".".intercalate (sequence.map Part.written)

/-- A bare part must neither hold a dot nor open with a quote; a quoted one may be any text. -/
def Part.Legible : Part → Prop
  | .bare text => '.' ∉ text.toList ∧ text.toList.head? ≠ some '"'
  | .quoted _ => True

instance : DecidablePred Part.Legible
  | .bare _ => inferInstanceAs (Decidable (_ ∧ _))
  | .quoted _ => inferInstanceAs (Decidable True)

/-! ### Well-formed quoted identifiers -/

/-- What stands between the quotes, and the text that it stands for: a quote is written
twice and everything else once. -/
inductive Body : List Char → List Char → Prop where
  | nil : Body [] []
  | quote {body text : List Char} (rest : Body body text) :
      Body ('"' :: '"' :: body) ('"' :: text)
  | char {c : Char} {body text : List Char} (other : c ≠ '"') (rest : Body body text) :
      Body (c :: body) (c :: text)

/-- Identifiers in double quotes with dots between them, and the texts that they stand for. -/
inductive QuotedSequence : List Char → List String → Prop where
  | last {body : List Char} {text : String} (inside : Body body text.toList) :
      QuotedSequence ('"' :: (body ++ ['"'])) [text]
  | cons {body rest : List Char} {text : String} {texts : List String}
      (inside : Body body text.toList) (others : QuotedSequence rest texts) :
      QuotedSequence ('"' :: (body ++ '"' :: '.' :: rest)) (text :: texts)

private theorem body_doubled (text : List Char) : Body (Text.doubled '"' text) text := by
  induction text with
  | nil => exact .nil
  | cons c rest ih =>
      rw [Text.doubled]
      split
      next isQuote =>
        subst isQuote
        exact .quote ih
      next other => exact .char other ih

/-! ### Splitting off the first part -/

/-- The parts of a text, an empty one behind a dot at its end included. -/
def split (text : List Char) : List Part :=
  partsFrom text ++ if text.getLast? = some '.' then [.bare ""] else []

/-- The cutting of the builder is the splitting defined here. -/
theorem parts_eq_split (text : String) : parts text = split text.toList := rfl

private theorem firstPart_of_bare {text : List Char} (bare : text.head? ≠ some '"') :
    firstPart text = (.bare (String.ofList (untilDot text).1), (untilDot text).2) := by
  unfold firstPart
  split
  next => exact absurd rfl bare
  next => rfl

private theorem firstPart_of_quoted (rest : List Char) :
    firstPart ('"' :: rest) =
      (.quoted (String.ofList ((untilQuote rest).1 ++ (untilDot (untilQuote rest).2).1)),
        (untilDot (untilQuote rest).2).2) := rfl

private theorem getLast?_behind_dot (front : List Char) {more : List Char} (nonempty : more ≠ []) :
    (front ++ '.' :: more).getLast? = more.getLast? := by
  rw [List.append_cons, List.getLast?_append, List.getLast?_eq_some_getLast nonempty,
    Option.some_or]

private theorem split_of_separator {front more : List Char} {part : Part}
    (first : firstPart (front ++ '.' :: more) = (part, more)) :
    split (front ++ '.' :: more) = part :: split more := by
  rw [split, partsFrom, first]
  cases more with
  | nil =>
      have nothing : partsFrom [] = [.bare ""] := by
        rw [partsFrom]
        rfl
      simp [split, nothing]
  | cons c rest =>
      have last := getLast?_behind_dot front (List.cons_ne_nil c rest)
      rw [if_neg (List.cons_ne_nil c rest), split, last, List.cons_append]

private theorem split_of_end {text : List Char} {part : Part} (first : firstPart text = (part, []))
    (last : text.getLast? ≠ some '.') : split text = [part] := by
  rw [split, partsFrom, first, if_pos rfl, if_neg last, List.append_nil]

/-! ### Splitting what was written -/

private theorem untilDot_of_not_mem {text : List Char} (absent : '.' ∉ text) :
    untilDot text = (text, []) := by
  induction text with
  | nil => rfl
  | cons c rest ih =>
      rw [List.mem_cons, not_or] at absent
      rw [untilDot, if_neg (Ne.symm absent.1), ih absent.2]

private theorem untilDot_append {text : List Char} (absent : '.' ∉ text) (rest : List Char) :
    untilDot (text ++ '.' :: rest) = (text, rest) := by
  induction text with
  | nil => rfl
  | cons c more ih =>
      rw [List.mem_cons, not_or] at absent
      rw [List.cons_append, untilDot, if_neg (Ne.symm absent.1), ih absent.2]

private theorem untilQuote_close {rest : List Char} (closed : rest.head? ≠ some '"') :
    untilQuote ('"' :: rest) = ([], rest) := by
  rw [untilQuote.eq_def]
  split
  next => contradiction
  next more same =>
    cases same
    exact absurd rfl closed
  next c more _ same =>
    cases same
    rfl

/-- Doubled quotes are passed over, and the quote behind them closes. -/
theorem untilQuote_doubled (text : List Char) {rest : List Char}
    (closed : rest.head? ≠ some '"') :
    untilQuote (Text.doubled '"' text ++ '"' :: rest) = (text, rest) := by
  induction text with
  | nil => exact untilQuote_close closed
  | cons c more ih =>
      rw [Text.doubled]
      split
      next isQuote =>
        subst isQuote
        rw [List.cons_append, List.cons_append, untilQuote, ih]
      next other =>
        rw [List.cons_append, untilQuote, if_neg other, ih]
        intro _ same
        exact absurd same other

private theorem toList_quotedName (text : String) :
    (Text.quotedName text).toList = '"' :: (Text.doubled '"' text.toList ++ ['"']) :=
  String.toList_ofList

private theorem head?_append_dot {text : String} (bare : text.toList.head? ≠ some '"')
    (rest : List Char) : (text.toList ++ '.' :: rest).head? ≠ some '"' := by
  cases chars : text.toList with
  | nil => simp
  | cons c more =>
      rw [chars] at bare
      exact bare

/-- A part that another one follows is split off at the dot between them. -/
theorem firstPart_written_append {part : Part} (legible : part.Legible) (rest : List Char) :
    firstPart (part.written.toList ++ '.' :: rest) = (part, rest) := by
  cases part with
  | bare text =>
      obtain ⟨noDot, bare⟩ := legible
      have next := untilDot_append noDot rest
      rw [Part.written, firstPart_of_bare (head?_append_dot bare rest), next,
        String.ofList_toList]
  | quoted text =>
      have closed : ('.' :: rest).head? ≠ some '"' := by simp
      have inside := untilQuote_doubled text.toList closed
      rw [Part.written, toList_quotedName, List.cons_append, List.append_assoc,
        List.singleton_append, firstPart_of_quoted, inside, untilDot, if_pos rfl,
        List.append_nil, String.ofList_toList]

/-- A legible part, written out on its own, is read back whole. -/
theorem firstPart_written {part : Part} (legible : part.Legible) :
    firstPart part.written.toList = (part, []) := by
  cases part with
  | bare text =>
      obtain ⟨noDot, bare⟩ := legible
      rw [Part.written, firstPart_of_bare bare, untilDot_of_not_mem noDot,
        String.ofList_toList]
  | quoted text =>
      have closed : ([] : List Char).head? ≠ some '"' := by simp
      have inside := untilQuote_doubled text.toList closed
      rw [Part.written, toList_quotedName, firstPart_of_quoted, inside, untilDot,
        List.append_nil, String.ofList_toList]

private theorem getLast?_written {part : Part} (legible : part.Legible) :
    part.written.toList.getLast? ≠ some '.' := by
  cases part with
  | bare text =>
      intro last
      exact legible.1 (List.mem_of_getLast? last)
  | quoted text =>
      rw [Part.written, toList_quotedName, ← List.cons_append, List.getLast?_concat]
      decide

private theorem toList_dotted_cons (part next : Part) (rest : List Part) :
    (dotted (part :: next :: rest)).toList =
      part.written.toList ++ '.' :: (dotted (next :: rest)).toList := by
  rw [dotted, List.map_cons, List.map_cons, String.intercalate_cons_cons,
    String.toList_append, String.toList_append, ← List.map_cons, ← dotted,
    List.append_assoc]
  rfl

/-- Cutting inverts writing: the parts of a dotted text of legible parts are those parts. -/
theorem parts_of_legible : ∀ {sequence : List Part}, sequence ≠ [] →
    (∀ part ∈ sequence, part.Legible) → parts (dotted sequence) = sequence
  | [part], _, legible => by
      have own := legible part List.mem_cons_self
      have single : dotted [part] = part.written := by simp [dotted]
      rw [parts_eq_split, single,
        split_of_end (firstPart_written own) (getLast?_written own)]
  | part :: next :: rest, _, legible => by
      have own := legible part List.mem_cons_self
      have others := parts_of_legible (List.cons_ne_nil next rest)
        fun other member => legible other (List.mem_cons_of_mem part member)
      rw [parts_eq_split, toList_dotted_cons,
        split_of_separator (firstPart_written_append own _), ← parts_eq_split, others]

/-! ### Quoting -/

/-- The parts of a text, all of them quoted. -/
def quotedParts (text : String) : List Part :=
  (parts text).map fun part => .quoted part.text

private theorem partsFrom_ne_nil (text : List Char) : partsFrom text ≠ [] := by
  rw [partsFrom]
  split <;> exact List.cons_ne_nil _ _

/-- Every text has at least one part. -/
theorem parts_ne_nil (text : String) : parts text ≠ [] :=
  List.append_ne_nil_of_left_ne_nil (partsFrom_ne_nil text.toList) _

/-- The quoted form is the dotted text of the parts, each one quoted. -/
theorem quoted_eq_dotted (text : String) : quoted text = dotted (quotedParts text) := by
  rw [quoted, dotted, quotedParts, List.map_map]
  rfl

/-- Quoting keeps the parts: cutting the quoted form gives the same texts, all of them
quoted. -/
theorem parts_quoted (text : String) : parts (quoted text) = quotedParts text := by
  rw [quoted_eq_dotted]
  apply parts_of_legible
  · intro nothing
    exact parts_ne_nil text (List.map_eq_nil_iff.mp nothing)
  · intro part member
    obtain ⟨_, _, rfl⟩ := List.mem_map.mp member
    trivial

/-- The dotted text of quoted parts is a well-formed sequence of quoted identifiers. -/
theorem quotedSequence_dotted : ∀ {texts : List String}, texts ≠ [] →
    QuotedSequence (dotted (texts.map .quoted)).toList texts
  | [text], _ => by
      have single : dotted [.quoted text] = Text.quotedName text := by simp [dotted, Part.written]
      rw [List.map_cons, List.map_nil, single, toList_quotedName]
      exact .last (body_doubled text.toList)
  | text :: next :: rest, _ => by
      have others := quotedSequence_dotted (List.cons_ne_nil next rest)
      rw [List.map_cons, List.map_cons, toList_dotted_cons, Part.written, toList_quotedName,
        List.cons_append, List.append_assoc, List.singleton_append]
      exact .cons (body_doubled text.toList) others

/-- Legible parts that are joined by dots are the parts that splitting finds.  So quoting any
text gives a sequence of well-formed quoted identifiers that stand for the texts of its parts,
and quoting it once more changes nothing. -/
theorem parts_dotted :
    (∀ sequence : List Part, sequence ≠ [] → (∀ part ∈ sequence, part.Legible) →
      parts (dotted sequence) = sequence) ∧
    ∀ text : String,
      QuotedSequence (quoted text).toList ((parts text).map Part.text) ∧
        quoted (quoted text) = quoted text := by
  refine ⟨fun sequence => parts_of_legible, fun text => ⟨?_, ?_⟩⟩
  · have nonempty : (parts text).map Part.text ≠ [] := by
      rw [Ne, List.map_eq_nil_iff]
      exact parts_ne_nil text
    have sequence := quotedSequence_dotted nonempty
    rw [List.map_map] at sequence
    rw [quoted_eq_dotted]
    exact sequence
  · calc quoted (quoted text)
        = ".".intercalate ((quotedParts text).map fun part => Text.quotedName part.text) := by
          rw [quoted, parts_quoted]
      _ = quoted text := by
          rw [quoted, quotedParts, List.map_map]
          rfl

/-- Empty parts at both ends, dots and quotes inside of quotes, and a quote inside of a bare
part. -/
theorem parts_dotted_adjacent_quotes :
    let sequence := [.bare "", .quoted ".\"", .quoted "", .bare "a\"b", .bare ""]
    dotted sequence = ".\".\"\"\".\"\".a\"b." ∧ parts (dotted sequence) = sequence := by
  refine ⟨by decide, ?_⟩
  exact parts_dotted.1 _ (by decide) (by decide)

/-! ### Counting the separators of any text -/

/-- Where the reader of a dotted identifier stands. -/
inductive Position where
  /-- Before a part, where a quote opens a quotation. -/
  | start
  /-- In bare text, or behind a quotation. -/
  | outside
  | inside
  /-- Behind a quote that ends the quotation, unless another one follows. -/
  | closing
deriving DecidableEq, Repr

namespace Position

/-- Where the reader stands behind a character. -/
def next : Position → Char → Position
  | start, c => if c = '"' then inside else if c = '.' then start else outside
  | outside, c => if c = '.' then start else outside
  | inside, c => if c = '"' then closing else inside
  | closing, c => if c = '"' then inside else if c = '.' then start else outside

/-- Where the reader stands behind a text. -/
def behind (position : Position) (text : List Char) : Position :=
  text.foldl next position

/-- The dots of a text that are read outside of quotations. -/
def separators : Position → List Char → Nat
  | _, [] => 0
  | position, c :: rest =>
      (position.next c).separators rest + if c = '.' ∧ position ≠ inside then 1 else 0

end Position

/-- The dots of a text that stand outside of quotations.  A quotation is opened at the start
of a part, is not closed by a doubled quote, and goes on to the end if nothing closes it. -/
def separators (text : String) : Nat :=
  Position.start.separators text.toList

/-- The text ends inside of a quotation. -/
def IsOpen (text : String) : Prop :=
  Position.start.behind text.toList = .inside

instance (text : String) : Decidable (IsOpen text) :=
  inferInstanceAs (Decidable (_ = _))

/-- What the reader finds while a part is split off from a text: the separator behind the
part, or none at all up to the end of the text.  In that case the text may still end in a
dot, if it ends inside of a quotation. -/
inductive Cut (position : Position) (text more : List Char) : Prop where
  | separator (front : List Char) (textEq : text = front ++ '.' :: more)
      (counted : position.separators text = Position.start.separators more + 1)
      (reached : position.behind text = Position.start.behind more)
  | finish (nothing : more = []) (counted : position.separators text = 0)
      (last : text.getLast? = some '.' → position.behind text = .inside)

namespace Cut

/-- A character that is no separator changes nothing but where the reader stands. -/
theorem cons {position : Position} {c : Char} {rest more : List Char}
    (plain : c = '.' → position = .inside) (cut : Cut (position.next c) rest more) :
    Cut position (c :: rest) more := by
  have same : position.separators (c :: rest) = (position.next c).separators rest := by
    rw [Position.separators, if_neg fun separator => separator.2 (plain separator.1),
      Nat.add_zero]
  cases cut with
  | separator front textEq counted reached =>
      refine .separator (c :: front) ?_ (same.trans counted) reached
      rw [textEq, List.cons_append]
  | finish nothing counted last =>
      refine .finish nothing (same.trans counted) ?_
      intro ends
      cases rest with
      | nil =>
          obtain rfl : c = '.' := by simpa using ends
          obtain rfl := plain rfl
          rfl
      | cons d others =>
          rw [List.getLast?_cons_cons] at ends
          exact last ends

private theorem dot {position : Position} (unquoted : position ≠ .inside) (rest : List Char) :
    Cut position ('.' :: rest) rest := by
  have opens : position.next '.' = .start := by
    cases position with
    | inside => exact absurd rfl unquoted
    | _ => rfl
  refine .separator [] rfl ?_ ?_
  · rw [Position.separators, if_pos ⟨rfl, unquoted⟩, opens]
  · rw [Position.behind, List.foldl_cons, opens]
    rfl

theorem nil (position : Position) : Cut position [] [] :=
  .finish rfl rfl fun ends => nomatch ends

theorem untilDot (text : List Char) : Cut .outside text (untilDot text).2 := by
  induction text with
  | nil => exact .nil _
  | cons c rest ih =>
      rw [Identifier.untilDot]
      split
      next isDot =>
        subst isDot
        exact .dot (by decide) rest
      next other =>
        have stays : Position.next .outside c = .outside := if_neg other
        refine .cons (fun isDot => absurd isDot other) ?_
        rw [stays]
        exact ih

/-- A text that does not go on with a quote is read on as bare text. -/
theorem bare {position : Position} (unquoted : position ≠ .inside) {text : List Char}
    (head : text.head? ≠ some '"') : Cut position text (Identifier.untilDot text).2 := by
  cases text with
  | nil => exact .nil _
  | cons c rest =>
      have noQuote : c ≠ '"' := fun isQuote => head (by rw [isQuote]; rfl)
      rw [Identifier.untilDot]
      split
      next isDot =>
        subst isDot
        exact .dot unquoted rest
      next other =>
        have leaves : position.next c = .outside := by
          cases position with
          | inside => exact absurd rfl unquoted
          | _ => simp [Position.next, noQuote, other]
        refine .cons (fun isDot => absurd isDot other) ?_
        rw [leaves]
        exact untilDot rest

/-- Behind an opening quote.  The cases are those of the search for the closing one. -/
theorem quoted (text : List Char) :
    Cut .inside text (Identifier.untilDot (untilQuote text).2).2 := by
  fun_induction untilQuote text with
  | case1 => exact .nil _
  | case2 rest ih =>
      have noDot : '"' ≠ '.' := by decide
      exact .cons (fun _ => rfl) (.cons (absurd · noDot) ih)
  | case3 rest closed =>
      have head : rest.head? ≠ some '"' := by
        intro isQuote
        obtain ⟨more, rfl⟩ := List.head?_eq_some_iff.mp isQuote
        exact closed more rfl rfl
      exact .cons (fun _ => rfl) (bare (by decide) head)
  | case4 c rest _ other ih =>
      have stays : Position.next .inside c = .inside := if_neg other
      refine .cons (fun _ => rfl) ?_
      rw [stays]
      exact ih

/-- The first part of a text ends at a dot outside of quotes, or else with the text. -/
theorem firstPart (text : List Char) : Cut .start text (Identifier.firstPart text).2 := by
  unfold Identifier.firstPart
  split
  next rest => exact .cons (nomatch ·) (quoted rest)
  next other =>
    refine bare (by decide) ?_
    intro isQuote
    obtain ⟨more, rfl⟩ := List.head?_eq_some_iff.mp isQuote
    exact other more rfl

end Cut

/-- The number of parts: one more than the dots outside quotes, and one more again where a
quoted segment that is never closed ends in a dot. -/
theorem length_split (text : List Char) :
    (split text).length =
      Position.start.separators text + 1 +
        if Position.start.behind text = .inside ∧ text.getLast? = some '.' then 1 else 0 := by
  cases first : firstPart text with
  | mk part more =>
      have cut : Cut .start text more := by
        have own := Cut.firstPart text
        rwa [first] at own
      -- Behind a separator the rest of the text starts anew; without one this part is the last.
      cases cut with
      | separator front textEq counted reached =>
          have shorter : more.length < text.length := by
            rw [textEq, List.length_append, List.length_cons]
            omega
          have others := length_split more
          rw [counted, reached]
          rw [textEq] at first ⊢
          rw [split_of_separator first, List.length_cons, others]
          cases more with
          | nil => rfl
          | cons c rest =>
              rw [getLast?_behind_dot front (List.cons_ne_nil c rest)]
              omega
      | finish nothing counted last =>
          obtain rfl : more = [] := nothing
          rw [split, partsFrom, first, if_pos rfl, counted]
          by_cases ends : text.getLast? = some '.'
          · rw [if_pos ends, if_pos ⟨last ends, ends⟩]
            rfl
          · rw [if_neg ends, if_neg fun both => ends both.2]
            rfl
termination_by text.length

/-- A text has one part more than it has separators, and yet another one if it ends in a dot
inside of a quotation that nothing closes. -/
theorem length_parts (text : String) :
    (parts text).length =
      separators text + 1 +
        if IsOpen text ∧ text.toList.getLast? = some '.' then 1 else 0 :=
  length_split text.toList

/-- The dot stands inside of the quotation, and still an empty part is added behind it. -/
theorem length_parts_open_quotation : (parts "\"a.").length ≠ separators "\"a." + 1 := by
  rw [parts_eq_split, length_split]
  decide

end ClauseTree.Identifier
