import ClauseTree.Proofs.Lexeme
import ClauseTree.Text.Quoted

/-!
# Quotations

A reader that looks at the quotes of a text and at nothing else.  From the left
it takes what stands between two single or two double quotes, and reads two
quotes inside as one.  Quoted texts that stand side by side would run into each
other, so every lemma on putting texts together says what keeps them apart.
-/

namespace ClauseTree.Sql

/-- A quoted text with the doubling undone. -/
structure Quotation where
  quote : Quote
  text : String
deriving DecidableEq, Repr

/-- The quote that a character is, if it is one. -/
def Quote.ofChar? (c : Char) : Option Quote :=
  if c = '\'' then some .single
  else if c = '"' then some .double
  else none

/-- What the reader is in the middle of. -/
inductive Quoting where
  | outside
  | inside (quote : Quote) (text : List Char)
  /-- Behind a quote that ends the text, unless the same quote follows. -/
  | closing (quote : Quote) (text : List Char)
deriving DecidableEq, Repr

namespace Quoting

/-- Behind a character outside of quotes. -/
def opening (c : Char) : Quoting :=
  match Quote.ofChar? c with
  | some quote => inside quote []
  | none => outside

/-- The quotations that are known to end before a character, and what the reader
is in the middle of behind it. -/
def step : Quoting → Char → List Quotation × Quoting
  | outside, c => ([], opening c)
  | inside quote text, c =>
      ([], if c = quote.char then closing quote text else inside quote (text ++ [c]))
  | closing quote text, c =>
      if c = quote.char then ([], inside quote (text ++ [c]))
      else ([⟨quote, String.ofList text⟩], opening c)

/-- The quotation that ends with the text, and nothing at all if the text ends
inside quotes. -/
def finish : Quoting → Option (List Quotation)
  | outside => some []
  | inside _ _ => none
  | closing quote text => some [⟨quote, String.ofList text⟩]

/-- The quotations of the rest of a text. -/
def quotations? : Quoting → List Char → Option (List Quotation)
  | state, [] => state.finish
  | state, c :: rest => ((state.step c).2.quotations? rest).map ((state.step c).1 ++ ·)

end Quoting

/-- The quotations of a text that leaves no quotes open. -/
def quotations? (text : String) : Option (List Quotation) :=
  Quoting.outside.quotations? text.toList

/-- The text holds no quote of either kind. -/
def Unquoted (text : String) : Prop :=
  ∀ c ∈ text.toList, Quote.ofChar? c = none

instance (text : String) : Decidable (Unquoted text) :=
  List.decidableBAll (fun c => Quote.ofChar? c = none) text.toList

/-- The text does not begin with a quote, so it may stand behind a quotation. -/
def Apart (text : String) : Prop :=
  ∀ c, text.toList.head? = some c → Quote.ofChar? c = none

/-- A text with no quote stands apart from whatever is before it. -/
theorem Unquoted.apart {text : String} (unquoted : Unquoted text) : Apart text := by
  intro c first
  exact unquoted c (List.mem_of_head? first)

/-- Two texts with no quote make a text with none. -/
theorem Unquoted.append {left right : String} (first : Unquoted left)
    (second : Unquoted right) : Unquoted (left ++ right) := by
  intro c member
  rw [String.toList_append] at member
  rcases List.mem_append.1 member with inLeft | inRight
  · exact first c inLeft
  · exact second c inRight

/-- What begins with a character that is no quote may stand behind a quotation,
whatever follows. -/
theorem Unquoted.apart_append {text : String} (unquoted : Unquoted text)
    (nonempty : text ≠ "") (rest : String) : Apart (text ++ rest) := by
  intro c first
  rw [String.toList_append, List.head?_append, Option.or_eq_some_iff] at first
  rcases first with inText | ⟨noChar, _⟩
  · exact unquoted.apart c inText
  · rw [List.head?_eq_none_iff, String.toList_eq_nil_iff] at noChar
    exact absurd noChar nonempty

/-! ### Reading on -/

namespace Quoting

private theorem step_outside {c : Char} (plain : Quote.ofChar? c = none) :
    outside.step c = ([], outside) := by
  rw [step, opening, plain]

/-- The character of a quote is that quote. -/
theorem ne_char_of_ofChar? {c : Char} (plain : Quote.ofChar? c = none) (quote : Quote) :
    c ≠ quote.char := by
  rintro rfl
  cases quote <;> cases plain

/-- Behind a text that leaves no quotes open, the reader goes on as at a start,
if the next character is no quote. -/
theorem quotations?_append {right : List Char}
    (apart : ∀ c, right.head? = some c → Quote.ofChar? c = none) :
    ∀ (left : List Char) {state : Quoting} {first : List Quotation},
      state.quotations? left = some first →
      state.quotations? (left ++ right) = (outside.quotations? right).map (first ++ ·)
  | [], state, first, read => by
      cases state with
      | outside =>
          cases read
          simp
      | inside quote text => cases read
      | closing quote text =>
          cases read
          cases right with
          | nil => rfl
          | cons c rest =>
              have plain := apart c rfl
              have other := ne_char_of_ofChar? plain quote
              rw [List.nil_append, quotations?, quotations?, step_outside plain, step,
                if_neg other, opening, plain]
              simp
  | c :: left, state, first, read => by
      rw [quotations?, Option.map_eq_some_iff] at read
      obtain ⟨others, readRest, firstEq⟩ := read
      have ih := quotations?_append apart left readRest
      rw [List.cons_append, quotations?, ih, Option.map_map, ← firstEq]
      congr 1
      funext more
      simp

/-- Text without quotes leaves the reader outside. -/
theorem quotations?_unquoted (rest : List Char) :
    ∀ {text : List Char}, (∀ c ∈ text, Quote.ofChar? c = none) →
      outside.quotations? (text ++ rest) = outside.quotations? rest
  | [], _ => rfl
  | c :: text, plain => by
      have ih := @quotations?_unquoted rest text
        fun d member => plain d (List.mem_cons_of_mem c member)
      rw [List.cons_append, quotations?, step_outside (plain c List.mem_cons_self), ih]
      simp

/-- Doubled quotes keep the reader inside, and the single one ends the text. -/
theorem quotations?_doubled (quote : Quote) : ∀ (text before : List Char),
    (inside quote before).quotations? (Text.doubled quote.char text ++ [quote.char]) =
      some [⟨quote, String.ofList (before ++ text)⟩]
  | [], before => by
      simp [Text.doubled, quotations?, step, finish]
  | c :: rest, before => by
      have ih := quotations?_doubled quote rest (before ++ [c])
      by_cases isQuote : c = quote.char
      · subst isQuote
        simp [Text.doubled, quotations?, step, ih]
      · simp [Text.doubled, quotations?, step, isQuote, ih]

/-! ### Trimming -/

private theorem ofChar?_of_isBlank {c : Char} (blank : Text.isBlank c = true) :
    Quote.ofChar? c = none := by
  have notSingle : c ≠ '\'' := by
    rintro rfl
    exact absurd blank (by decide)
  have notDouble : c ≠ '"' := by
    rintro rfl
    exact absurd blank (by decide)
  rw [Quote.ofChar?, if_neg notSingle, if_neg notDouble]

private theorem quotations?_dropWhile (text : List Char) :
    outside.quotations? (text.dropWhile Text.isBlank) = outside.quotations? text := by
  induction text with
  | nil => rfl
  | cons c rest ih =>
      by_cases blank : Text.isBlank c = true
      · rw [List.dropWhile_cons_of_pos blank, ih, quotations?,
          step_outside (ofChar?_of_isBlank blank)]
        simp
      · rw [List.dropWhile_cons_of_neg blank]

/-- A blank at the end stands outside of quotes or inside of open ones, and in
the second case the text is not read at all. -/
theorem finish_of_blank {state : Quoting} {c : Char} (blank : Text.isBlank c = true)
    {first : List Quotation} (read : state.quotations? [c] = some first) :
    state.finish = some first := by
  have plain := ofChar?_of_isBlank blank
  cases state with
  | outside =>
      rw [quotations?, step_outside plain] at read
      exact read
  | inside quote text =>
      have other := ne_char_of_ofChar? plain quote
      rw [quotations?, step, if_neg other] at read
      cases read
  | closing quote text =>
      have other := ne_char_of_ofChar? plain quote
      rw [quotations?, step, if_neg other, opening, plain] at read
      exact read

/-- By induction from the front, because trimming decides about a character by
what it keeps behind it. -/
theorem quotations?_trimEnd : ∀ (text : List Char) {state : Quoting}
    {first : List Quotation}, state.quotations? text = some first →
      state.quotations? (Text.trimEnd text) = some first
  | [], _, _, read => read
  | c :: rest, state, first, read => by
      rw [quotations?, Option.map_eq_some_iff] at read
      obtain ⟨others, readRest, firstEq⟩ := read
      have ih := quotations?_trimEnd rest readRest
      have kept : state.quotations? (c :: Text.trimEnd rest) = some first := by
        rw [quotations?, ih, ← firstEq]
        rfl
      rw [Text.trimEnd_cons]
      split
      next dropped =>
        rw [dropped.2] at kept
        exact finish_of_blank dropped.1 kept
      next => exact kept

end Quoting

/-! ### Whole texts -/

/-- Texts that stand apart are read one behind the other. -/
theorem quotations?_append {left right : String} {first second : List Quotation}
    (readLeft : quotations? left = some first) (readRight : quotations? right = some second)
    (apart : Apart right) : quotations? (left ++ right) = some (first ++ second) := by
  rw [quotations?] at readLeft readRight
  rw [quotations?, String.toList_append, Quoting.quotations?_append apart _ readLeft,
    readRight]
  rfl

/-- A text with no quote in front of another adds nothing to its quotations. -/
theorem quotations?_unquoted_append {left : String} (unquoted : Unquoted left)
    (right : String) : quotations? (left ++ right) = quotations? right := by
  rw [quotations?, String.toList_append, Quoting.quotations?_unquoted _ unquoted]
  rfl

/-- A text with no quote has no quotation. -/
theorem Unquoted.quotations? {text : String} (unquoted : Unquoted text) :
    quotations? text = some [] := by
  have read := quotations?_unquoted_append unquoted ""
  rwa [String.append_empty] at read

/-- A text with no quote behind another adds nothing to its quotations. -/
theorem quotations?_append_unquoted {left right : String} {first : List Quotation}
    (readLeft : quotations? left = some first) (unquoted : Unquoted right) :
    quotations? (left ++ right) = some first := by
  have read := quotations?_append readLeft unquoted.quotations? unquoted.apart
  rwa [List.append_nil] at read

/-- A separator keeps two texts apart. -/
theorem quotations?_separated {left separator right : String}
    {first second : List Quotation} (readLeft : quotations? left = some first)
    (unquoted : Unquoted separator) (nonempty : separator ≠ "")
    (readRight : quotations? right = some second) :
    quotations? (left ++ separator ++ right) = some (first ++ second) := by
  rw [String.append_assoc]
  refine quotations?_append readLeft ?_ (unquoted.apart_append nonempty right)
  rw [quotations?_unquoted_append unquoted, readRight]

/-- Unquoted text on both sides adds nothing to the quotations inside. -/
theorem quotations?_between {opening text closing : String} {inner : List Quotation}
    (openUnquoted : Unquoted opening) (read : quotations? text = some inner)
    (closeUnquoted : Unquoted closing) :
    quotations? (opening ++ text ++ closing) = some inner := by
  rw [String.append_assoc, quotations?_unquoted_append openUnquoted]
  exact quotations?_append_unquoted read closeUnquoted

/-- A text enclosed in quotes reads as one quotation, whatever the text. -/
theorem quotations?_enclosed (quote : Quote) (text : String) :
    quotations? (Text.enclosed quote.char text) = some [⟨quote, text⟩] := by
  have opens : Quoting.opening quote.char = .inside quote [] := by
    cases quote <;> rfl
  have closes := Quoting.quotations?_doubled quote text.toList []
  rw [quotations?, Text.enclosed, String.toList_ofList, Quoting.quotations?, Quoting.step,
    opens, closes]
  simp

/-- Trimming keeps the quotations. -/
theorem quotations?_trim {text : String} {inner : List Quotation}
    (read : quotations? text = some inner) : quotations? (Text.trim text) = some inner := by
  rw [quotations?, Text.trim, String.toList_ofList]
  apply Quoting.quotations?_trimEnd
  rw [Quoting.quotations?_dropWhile]
  exact read

/-! ### Several texts -/

/-- Texts that are read one by one, and the quotations of all of them. -/
inductive ReadEach : List String → List Quotation → Prop where
  | nil : ReadEach [] []
  | cons {text : String} {rest : List String} {first others : List Quotation}
      (head : quotations? text = some first) (tail : ReadEach rest others) :
      ReadEach (text :: rest) (first ++ others)

/-- Texts read one by one, two lists in a row. -/
theorem ReadEach.append {left right : List String} {first second : List Quotation}
    (readLeft : ReadEach left first) (readRight : ReadEach right second) :
    ReadEach (left ++ right) (first ++ second) := by
  induction readLeft with
  | nil => exact readRight
  | cons head _ ih =>
      rw [List.cons_append, List.append_assoc]
      exact .cons head ih

/-- An empty text holds no quotation, so leaving it out changes nothing. -/
theorem ReadEach.filter {texts : List String} {all : List Quotation}
    (read : ReadEach texts all) : ReadEach (texts.filter fun text => !text.isEmpty) all := by
  induction read with
  | nil => exact .nil
  | @cons text rest first others head tail ih =>
      by_cases empty : text.isEmpty = true
      · rw [String.isEmpty_iff] at empty
        subst empty
        cases head
        exact ih
      · rw [List.filter_cons_of_pos (by simpa using empty)]
        exact .cons head ih

/-- Texts read one by one are read in order when unquoted separators join them. -/
theorem ReadEach.intercalate {separator : String} (unquoted : Unquoted separator)
    (nonempty : separator ≠ "") {texts : List String} {all : List Quotation}
    (read : ReadEach texts all) : quotations? (separator.intercalate texts) = some all := by
  induction read with
  | nil => rfl
  | @cons text rest first others head tail ih =>
      cases tail with
      | nil =>
          rw [List.append_nil]
          simpa using head
      | cons _ _ =>
          rw [String.intercalate_cons_cons]
          exact quotations?_separated head unquoted nonempty ih

end ClauseTree.Sql
