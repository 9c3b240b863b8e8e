import ClauseTree.Proofs.Lexeme
import ClauseTree.Proofs.SolidText

/-!
# Matching parentheses

A reader that finds the parenthesis that matches an opening one.  It counts the
parentheses that are lexemes, so those in quotes, in dollar quotes and in comments
do not count.

A text is balanced if it closes every parenthesis that it opens and no other one, and
leaves no quotes and no comment open.  Exactly the balanced texts can stand between two
parentheses that match each other.  A sealed text stays balanced when the blanks at its
end are dropped, as they are where a statement is written out.  A line comment is the
difference: the line end that ends it is a blank.
-/

namespace ClauseTree.Sql

/-! ### Counting parentheses -/

/-- The number of open parentheses behind a lexeme.  None can be closed that is not open. -/
def deepen? (depth : Nat) (lexeme : Lexeme) : Option Nat :=
  if lexeme = .mark '(' then some (depth + 1)
  else if lexeme = .mark ')' then if depth = 0 then none else some (depth - 1)
  else some depth

def depthBehind? (depth : Nat) (lexemes : List Lexeme) : Option Nat :=
  lexemes.foldlM deepen? depth

/-- The text in front of the parenthesis that closes one more than the text opens, and what
stands behind it. -/
def Scan.closing? : Nat → Scan → List Char → Option (List Char × List Char)
  | _, _, [] => none
  | depth, scan, c :: rest =>
      match depthBehind? depth (scan.step c).1 with
      | none => some ([], rest)
      | some next =>
          (closing? next (scan.step c).2 rest).map fun found => (c :: found.1, found.2)

/-- What stands between the parenthesis that a text begins with and the one that matches it,
and what stands behind that one. -/
def enclosed? (text : String) : Option (String × String) :=
  match text.toList with
  | [] => none
  | c :: rest =>
      if c = '(' then
        (Scan.between.closing? 0 rest).map fun found =>
          (String.ofList found.1, String.ofList found.2)
      else none

/-- The characters leave nothing open and close nothing else. -/
def BalancedChars (text : List Char) : Prop :=
  (Scan.between.lexemes? text).bind (depthBehind? 0) = some 0

def Balanced (text : String) : Prop :=
  BalancedChars text.toList

/-- The text is balanced without the blanks at its end. -/
def Sealed (text : String) : Prop :=
  BalancedChars (Text.trimEnd text.toList)

/-- The last lexeme of a text ends where the other text begins. -/
def Separate (left right : String) : Prop :=
  ∀ c, right.toList.head? = some c →
    (Scan.between.after left.toList).step c = (Scan.between.after left.toList).breakAt c

instance (text : List Char) : Decidable (BalancedChars text) :=
  inferInstanceAs (Decidable (_ = _))

instance (text : String) : Decidable (Balanced text) :=
  inferInstanceAs (Decidable (BalancedChars _))

instance (text : String) : Decidable (Sealed text) :=
  inferInstanceAs (Decidable (BalancedChars _))

/-! ### Depths -/

/-- Brackets are counted from left to right: the depth behind the first lexemes is the depth
before the second. -/
theorem depthBehind?_append (depth : Nat) (first second : List Lexeme) :
    depthBehind? depth (first ++ second) =
      (depthBehind? depth first).bind fun next => depthBehind? next second :=
  List.foldlM_append

/-- What is open before a text stays open behind it. -/
theorem deepen?_add {depth next : Nat} {lexeme : Lexeme}
    (behind : deepen? depth lexeme = some next) (more : Nat) :
    deepen? (depth + more) lexeme = some (next + more) := by
  rw [deepen?] at behind ⊢
  split at behind
  next opens =>
    cases behind
    rw [if_pos opens]
    congr 1
    omega
  next =>
    rw [if_neg ‹_›]
    split at behind
    next closes =>
      rw [if_pos closes]
      split at behind
      next => cases behind
      next inside =>
        cases behind
        rw [if_neg (by omega)]
        congr 1
        omega
    next other =>
      cases behind
      rw [if_neg other]

private theorem depthBehind?_add (more : Nat) : ∀ (lexemes : List Lexeme) {depth next : Nat},
    depthBehind? depth lexemes = some next →
    depthBehind? (depth + more) lexemes = some (next + more)
  | [], _, _, behind => by
      cases behind
      rfl
  | lexeme :: rest, depth, next, behind => by
      rw [depthBehind?, List.foldlM_cons] at behind ⊢
      obtain ⟨between, first, others⟩ := Option.bind_eq_some_iff.mp behind
      rw [deepen?_add first more]
      exact depthBehind?_add more rest others

/-- The lexeme that a text breaks off in is no parenthesis. -/
theorem depthBehind?_pending (depth : Nat) (scan : Scan) :
    depthBehind? depth scan.pending = some depth := by
  cases scan <;> rfl

/-- A closing parenthesis is one that stands by itself. -/
theorem depthBehind?_closing (depth : Nat) (scan : Scan) :
    depthBehind? depth (scan.step ')').1 = none ↔ scan.isComplete = true ∧ depth = 0 := by
  have mark : charClass ')' = .mark := by decide
  by_cases complete : scan.isComplete = true
  · have last : depthBehind? depth [.mark ')'] = none ↔ depth = 0 := by
      cases depth <;> simp [depthBehind?, deepen?]
    rw [Scan.step_of_break complete (.inr mark), Scan.breakAt, Scan.fresh, mark,
      depthBehind?_append, depthBehind?_pending, Option.bind_some, last]
    simp [complete]
  · have stays : depthBehind? depth (scan.step ')').1 = some depth := by
      cases scan with
      | quoted quote body => cases quote <;> rfl
      | escaped letter body skipping => cases skipping <;> rfl
      | dollarQuoted tag body =>
          rw [Scan.step, Scan.extendDollarQuoted]
          split <;> rfl
      | lineComment => rfl
      | blockComment outer previous =>
          simp [Scan.step, depthBehind?]
      | between => exact absurd rfl complete
      | word => exact absurd rfl complete
      | symbol => exact absurd rfl complete
      | dollar => exact absurd rfl complete
    rw [stays]
    simp [complete]

private theorem Scan.bind_lexemes?_cons (depth : Nat) (scan : Scan) (c : Char) (rest : List Char) :
    (scan.lexemes? (c :: rest)).bind (depthBehind? depth) =
      (depthBehind? depth (scan.step c).1).bind fun next =>
        ((scan.step c).2.lexemes? rest).bind (depthBehind? next) := by
  rw [Scan.lexemes?]
  cases (scan.step c).2.lexemes? rest with
  | none => simp
  | some others =>
      rw [Option.map_some, Option.bind_some, depthBehind?_append]
      rfl

/-- The parenthesis behind a text is the matching one exactly if the text is balanced. -/
theorem Scan.closing?_append_iff (rest : List Char) :
    ∀ (text : List Char) (depth : Nat) (scan : Scan),
      scan.closing? depth (text ++ ')' :: rest) = some (text, rest) ↔
        (scan.lexemes? text).bind (depthBehind? depth) = some 0
  | [], depth, scan => by
      have closes := depthBehind?_closing depth scan
      rw [List.nil_append, closing?, Scan.lexemes?]
      cases behind : depthBehind? depth (scan.step ')').1 with
      | none =>
          obtain ⟨complete, rfl⟩ := closes.mp behind
          simp [complete, depthBehind?_pending]
      | some next =>
          have stays : ¬ (scan.isComplete = true ∧ depth = 0) := by
            rw [← closes, behind]
            exact Option.some_ne_none next
          by_cases complete : scan.isComplete = true
          · simp_all [depthBehind?_pending]
          · simp [complete]
  | c :: text, depth, scan => by
      rw [List.cons_append, closing?, Scan.bind_lexemes?_cons]
      cases depthBehind? depth (scan.step c).1 with
      | none => simp
      | some next =>
          have ih := closing?_append_iff rest text next (scan.step c).2
          simp [← ih]

/-- What is read between two parentheses that match is a balanced text, and every balanced
text is read there. -/
theorem enclosed?_parenthesised_iff (text rest : String) :
    enclosed? ("(" ++ text ++ ")" ++ rest) = some (text, rest) ↔ Balanced text := by
  have chars : ("(" ++ text ++ ")" ++ rest).toList =
      '(' :: (text.toList ++ ')' :: rest.toList) := by
    simp
  have found := Scan.closing?_append_iff rest.toList text.toList 0 .between
  rw [Balanced, BalancedChars, ← found, enclosed?, chars]
  simp only [if_true, Option.map_eq_some_iff]
  constructor
  · rintro ⟨⟨inside, behind⟩, read, same⟩
    simp only [Prod.mk.injEq] at same
    obtain ⟨rfl, rfl⟩ := same
    simpa using read
  · intro read
    exact ⟨_, read, by simp⟩

/-! ### Texts one behind the other -/

/-- Behind a text that leaves the scan between two lexemes, any text stands apart. -/
theorem separate_of_settled {left : String}
    (settled : Scan.between.after left.toList = .between) (right : String) :
    Separate left right := by
  intro c _
  rw [settled]
  simp [Scan.step, Scan.breakAt, Scan.pending]

/-- The text is empty, or it begins with a blank or a mark. -/
def Breaks (text : String) : Prop :=
  text.toList.head?.all fun c => charClass c = .blank || charClass c = .mark

instance (text : String) : Decidable (Breaks text) :=
  inferInstanceAs (Decidable (_ = true))

/-- A text that starts with a break keeps doing so with more behind it. -/
theorem Breaks.append {left right : String} (first : Breaks left)
    (second : left = "" → Breaks right) : Breaks (left ++ right) := by
  by_cases empty : left = ""
  · rw [empty, String.empty_append]
    exact second empty
  · rw [← String.toList_eq_nil_iff] at empty
    obtain ⟨c, rest, chars⟩ := List.exists_cons_of_ne_nil empty
    rw [Breaks, chars] at first
    rw [Breaks, String.toList_append, chars]
    exact first

/-- A parenthesis ends whatever lexeme stands before it. -/
theorem breaks_parenthesised (text : String) : Breaks ("(" ++ text ++ ")") := by
  have chars : ("(" ++ text ++ ")").toList = '(' :: (text.toList ++ [')']) := by simp
  rw [Breaks, chars]
  rfl

/-- Balanced text stands apart from a text that starts with a break. -/
theorem Balanced.separate {left right : String} (balanced : Balanced left)
    (breaks : Breaks right) : Separate left right := by
  intro c first
  obtain ⟨lexemes, read, -⟩ := Option.bind_eq_some_iff.mp balanced
  rw [Breaks, first] at breaks
  exact Scan.step_of_break (Scan.isComplete_after _ read) (by simpa using breaks)

/-- Balanced texts that stand apart make a balanced text. -/
theorem BalancedChars.append {left right : List Char} (first : BalancedChars left)
    (second : BalancedChars right)
    (separate : ∀ c, right.head? = some c →
      (Scan.between.after left).step c = (Scan.between.after left).breakAt c) :
    BalancedChars (left ++ right) := by
  obtain ⟨lexemes, readLeft, leftDepth⟩ := Option.bind_eq_some_iff.mp first
  obtain ⟨others, readRight, rightDepth⟩ := Option.bind_eq_some_iff.mp second
  rw [BalancedChars, Scan.lexemes?_append_of_step right left readLeft separate, readRight,
    Option.map_some, Option.bind_some, depthBehind?_append, leftDepth, Option.bind_some,
    rightDepth]

private theorem balancedChars_blanks : ∀ {blanks : List Char},
    (∀ c ∈ blanks, Text.isBlank c = true) → BalancedChars blanks
  | [], _ => rfl
  | c :: blanks, blank => by
      rw [BalancedChars, Scan.lexemes?_blank (blank c List.mem_cons_self)]
      exact balancedChars_blanks fun d member => blank d (List.mem_cons_of_mem c member)

theorem Sealed.balanced {text : String} (isSealed : Sealed text) : Balanced text := by
  obtain ⟨blanks, chars, blank⟩ := Text.exists_blanks text.toList
  rw [Balanced, chars]
  refine isSealed.append (balancedChars_blanks blank) fun c first => ?_
  obtain ⟨lexemes, read, -⟩ := Option.bind_eq_some_iff.mp isSealed
  have breaks := Scan.charClass_of_isBlank (blank c (List.mem_of_head? first))
  exact Scan.step_of_break (Scan.isComplete_after _ read) (.inl breaks)

/-- Balanced text whose last character is not a blank is sealed. -/
theorem Balanced.sealed {text : String} (balanced : Balanced text)
    (solid : ∀ c, text.toList.getLast? = some c → Text.isBlank c = false) : Sealed text := by
  rw [Sealed, Text.trimEnd_of_getLast solid]
  exact balanced

/-- Sealed texts that stand apart make a sealed text. -/
theorem Sealed.append {left right : String} (first : Sealed left) (second : Sealed right)
    (separate : Separate left right) : Sealed (left ++ right) := by
  rw [Sealed, String.toList_append, Text.trimEnd_append]
  split
  next => exact first
  next kept =>
    refine first.balanced.append second fun c head => separate c ?_
    obtain ⟨blanks, chars, -⟩ := Text.exists_blanks right.toList
    obtain ⟨d, more, trimmed⟩ := List.exists_cons_of_ne_nil kept
    rw [trimmed] at chars head
    rw [chars]
    exact head

/-- A sealed text and one that starts with a break make a sealed text. -/
theorem Sealed.append_break {left right : String} (first : Sealed left) (second : Sealed right)
    (breaks : Breaks right) : Sealed (left ++ right) :=
  first.append second (first.balanced.separate breaks)

/-- Parentheses round a sealed text make a sealed text. -/
theorem Sealed.parenthesised {text : String} (isSealed : Sealed text) :
    Sealed ("(" ++ text ++ ")") := by
  have balanced : Balanced ("(" ++ text ++ ")") := by
    obtain ⟨lexemes, read, behind⟩ := Option.bind_eq_some_iff.mp isSealed.balanced
    have inside : depthBehind? 1 lexemes = some 1 := depthBehind?_add 1 lexemes behind
    have opened : depthBehind? 0 (.mark '(' :: (lexemes ++ [.mark ')'])) =
        depthBehind? 1 (lexemes ++ [.mark ')']) := rfl
    have whole := lexemes?_parenthesised read
    rw [lexemes?] at whole
    rw [Balanced, BalancedChars, whole, Option.bind_some, opened, depthBehind?_append, inside]
    rfl
  refine balanced.sealed fun c last => ?_
  have chars : ("(" ++ text ++ ")").toList = '(' :: text.toList ++ [')'] := by simp
  rw [chars, List.getLast?_concat, Option.some.injEq] at last
  rw [← last]
  decide

/-! ### Separators and lists -/

/-- The text ends whatever lexeme stands before it, and leaves none to go on with. -/
def IsSeparator (text : String) : Prop :=
  text ≠ "" ∧ Sealed text ∧ Breaks text ∧ Scan.between.after text.toList = .between

instance (text : String) : Decidable (IsSeparator text) :=
  inferInstanceAs (Decidable (_ ∧ _ ∧ _ ∧ _))

/-- A separator in front of a sealed text leaves it sealed. -/
theorem Sealed.behind {separator right : String} (isSeparator : IsSeparator separator)
    (second : Sealed right) : Sealed (separator ++ right) :=
  isSeparator.2.1.append second (separate_of_settled isSeparator.2.2.2 right)

theorem IsSeparator.breaks_append {separator : String} (isSeparator : IsSeparator separator)
    (right : String) : Breaks (separator ++ right) :=
  isSeparator.2.2.1.append fun empty => absurd empty isSeparator.1

/-- Two sealed texts with a separator between them make a sealed text. -/
theorem Sealed.separated {left separator right : String} (first : Sealed left)
    (isSeparator : IsSeparator separator) (second : Sealed right) :
    Sealed (left ++ separator ++ right) := by
  rw [String.append_assoc]
  exact first.append_break (second.behind isSeparator) (isSeparator.breaks_append right)

/-- Sealed texts with a separator between each two make a sealed text. -/
theorem sealed_intercalate {separator : String} (isSeparator : IsSeparator separator) :
    ∀ {texts : List String}, (∀ text ∈ texts, Sealed text) →
      Sealed (separator.intercalate texts)
  | [], _ => rfl
  | [text], each => by simpa using each text List.mem_cons_self
  | text :: next :: rest, each => by
      rw [String.intercalate_cons_cons]
      exact (each text List.mem_cons_self).separated isSeparator
        (sealed_intercalate isSeparator fun other member =>
          each other (List.mem_cons_of_mem text member))

/-! ### Trimming -/

private theorem Scan.lexemes?_trimEnd_dropWhile (text : List Char) :
    between.lexemes? (Text.trimEnd (text.dropWhile Text.isBlank)) =
      between.lexemes? (Text.trimEnd text) := by
  induction text with
  | nil => rfl
  | cons c rest ih =>
      by_cases blank : Text.isBlank c = true
      · rw [List.dropWhile_cons_of_pos blank, ih, Text.trimEnd_cons]
        split
        next gone => rw [gone.2]
        next => rw [lexemes?_blank blank]
      · rw [List.dropWhile_cons_of_neg blank]

/-- Trimming keeps a text sealed. -/
theorem Sealed.trim {text : String} (isSealed : Sealed text) : Sealed (Text.trim text) := by
  have kept := Text.trimEnd_of_getLast fun c (last :
    (Text.trimEnd (text.toList.dropWhile Text.isBlank)).getLast? = some c) =>
      Text.trimEnd_getLast last
  rw [Sealed, Text.trim, String.toList_ofList, kept, BalancedChars,
    Scan.lexemes?_trimEnd_dropWhile]
  exact isSealed

/-! ### Quoted texts -/

theorem Scan.bind_lexemes?_cons_of_neutral {scan : Scan} {c : Char}
    (neutral : depthBehind? 0 (scan.step c).1 = some 0) (rest : List Char) :
    (scan.lexemes? (c :: rest)).bind (depthBehind? 0) =
      ((scan.step c).2.lexemes? rest).bind (depthBehind? 0) := by
  rw [Scan.bind_lexemes?_cons, neutral, Option.bind_some]

/-- A doubled quote ends one lexeme and begins another.  Behind the last quote the reader is in
the middle of nothing. -/
theorem Scan.reads_doubled (quote : Quote) : ∀ (text body : List Char),
    (quoted quote body).after (Text.doubled quote.char text ++ [quote.char]) = between ∧
      ((quoted quote body).lexemes? (Text.doubled quote.char text ++ [quote.char])).bind
        (depthBehind? 0) = some 0
  | [], body => by
      have ends : (quoted quote body).step quote.char =
          ([.quoted (quote.char :: body ++ [quote.char])], between) := by simp [step]
      rw [Text.doubled, List.nil_append]
      constructor
      · rw [after, List.foldl_cons, ends]
        rfl
      · rw [bind_lexemes?_cons_of_neutral (by rw [ends]; rfl), ends]
        rfl
  | c :: text, body => by
      by_cases isQuote : c = quote.char
      · have ih := reads_doubled quote text []
        have ends : (quoted quote body).step quote.char =
            ([.quoted (quote.char :: body ++ [quote.char])], between) := by simp [step]
        -- The first quote of the pair ends a lexeme and the second one begins the next, so the body
        -- starts anew.
        have opens : between.step quote.char = ([], quoted quote []) := by cases quote <;> decide
        rw [Text.doubled, if_pos isQuote, List.cons_append, List.cons_append]
        constructor
        · rw [after, List.foldl_cons, ends, List.foldl_cons, opens]
          exact ih.1
        · rw [bind_lexemes?_cons_of_neutral (by rw [ends]; rfl), ends,
            bind_lexemes?_cons_of_neutral (by rw [opens]; rfl), opens]
          exact ih.2
      · have ih := reads_doubled quote text (body ++ [c])
        have goesOn : (quoted quote body).step c = ([], quoted quote (body ++ [c])) := by
          simp [step, isQuote]
        rw [Text.doubled, if_neg isQuote, List.cons_append]
        constructor
        · rw [after, List.foldl_cons, goesOn]
          exact ih.1
        · rw [bind_lexemes?_cons_of_neutral (by rw [goesOn]; rfl), goesOn]
          exact ih.2

/-- Behind an enclosed text the scan stands between two lexemes. -/
theorem after_enclosed (quote : Quote) (text : String) :
    Scan.between.after (Text.enclosed quote.char text).toList = .between := by
  have opens : Scan.between.step quote.char = ([], .quoted quote []) := by cases quote <;> decide
  rw [Text.enclosed, String.toList_ofList, Scan.after, List.foldl_cons, opens]
  exact (Scan.reads_doubled quote text.toList []).1

/-- A text in quotes is sealed, whatever the text. -/
theorem sealed_enclosed (quote : Quote) (text : String) :
    Sealed (Text.enclosed quote.char text) := by
  have opens : Scan.between.step quote.char = ([], .quoted quote []) := by cases quote <;> decide
  have balanced : Balanced (Text.enclosed quote.char text) := by
    rw [Balanced, BalancedChars, Text.enclosed, String.toList_ofList,
      Scan.bind_lexemes?_cons_of_neutral (by rw [opens]; rfl), opens]
    exact (Scan.reads_doubled quote text.toList []).2
  refine balanced.sealed fun c last => ?_
  rw [Text.enclosed, String.toList_ofList, ← List.cons_append, List.getLast?_concat,
    Option.some.injEq] at last
  rw [← last]
  cases quote <;> decide

end ClauseTree.Sql
