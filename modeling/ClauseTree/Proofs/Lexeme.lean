import ClauseTree.Proofs.Trimming

/-!
# Lexemes

A reader of SQL text for the theorems to speak about.  It follows PostgreSQL:
words and operators run as far as they can, a quoted text and a dollar-quoted
text are one lexeme each, and comments are skipped.  The reader goes from
character to character with what it is in the middle of, so that a text can be
read up to a blank and on from there.

It departs from PostgreSQL in its white space, which is that of Unicode, as in
the SQL standard and as trimming takes it.  The blanks of PostgreSQL are in ASCII
only, and it takes a no-break space or an em space for a letter.  And a run of
operator characters is one lexeme here, where PostgreSQL may end an operator in
front of a sign.
-/

namespace ClauseTree.Sql

inductive Lexeme where
  /-- A keyword, an identifier, a number or a numbered parameter. -/
  | word (chars : List Char)
  /-- A text in single, double or dollar quotes, with the quotes.  A doubled
  quote ends one quoted text and begins another. -/
  | quoted (chars : List Char)
  | symbol (chars : List Char)
  /-- A bracket, a comma or another character that stands by itself. -/
  | mark (c : Char)
deriving DecidableEq, Repr

inductive Quote where
  | single
  | double
deriving DecidableEq, Repr

def Quote.char : Quote → Char
  | single => '\''
  | double => '"'

inductive CharClass where
  | blank
  | quote (quote : Quote)
  | dollar
  | word
  | symbol
  | mark
deriving DecidableEq, Repr

def symbolChars : List Char :=
  "+-*/<>=~!@#%^&|`?".toList

/-- Letters, digits, the underscore and everything beyond ASCII that is not
blank belong to words; in PostgreSQL a blank beyond ASCII does so too.  So does
the dot: what stands behind one is a name, even if it is spelled like a
keyword. -/
def charClass (c : Char) : CharClass :=
  if Text.isBlank c then .blank
  else if c = '\'' then .quote .single
  else if c = '"' then .quote .double
  else if c = '$' then .dollar
  else if c.isAlphanum ∨ c = '_' ∨ c = '.' ∨ 128 ≤ c.toNat then .word
  else if c ∈ symbolChars then .symbol
  else .mark

/-- What the reader is in the middle of. -/
inductive Scan where
  | between
  | word (chars : List Char)
  | symbol (chars : List Char)
  | quoted (quote : Quote) (body : List Char)
  /-- In a text behind a letter `E`, where a backslash keeps the next character
  from ending it. -/
  | escaped (letter : Char) (body : List Char) (skipping : Bool)
  /-- Behind a dollar sign: a parameter, or a delimiter that is not closed yet. -/
  | dollar (tag : List Char)
  | dollarQuoted (tag body : List Char)
  | lineComment
  /-- In nested comments, with the character before, if it counts. -/
  | blockComment (outer : Nat) (previous : Option Char)
deriving DecidableEq, Repr

namespace Scan

/-- The lexeme that ends here if the text ends, or breaks, here. -/
def pending : Scan → List Lexeme
  | word chars => [.word chars]
  | symbol chars => [.symbol chars]
  | dollar tag => [.word ('$' :: tag)]
  | _ => []

/-- A character after the end of a lexeme. -/
def fresh (c : Char) : List Lexeme × Scan :=
  match charClass c with
  | .blank => ([], between)
  | .quote quote => ([], quoted quote [])
  | .dollar => ([], dollar [])
  | .word => ([], word [c])
  | .symbol => ([], symbol [c])
  | .mark => ([.mark c], between)

def breakAt (scan : Scan) (c : Char) : List Lexeme × Scan :=
  (scan.pending ++ (fresh c).1, (fresh c).2)

/-- One more character of a word.  A quote makes the single letter `E` the head
of a text with escapes. -/
def extendWord (chars : List Char) (c : Char) : List Lexeme × Scan :=
  match charClass c, chars with
  | .word, _ => ([], word (chars ++ [c]))
  | .dollar, _ => ([], word (chars ++ [c]))
  | .quote .single, ['e'] => ([], escaped 'e' [] false)
  | .quote .single, ['E'] => ([], escaped 'E' [] false)
  | _, _ => breakAt (word chars) c

def extendEscaped (letter : Char) (body : List Char) (skipping : Bool) (c : Char) :
    List Lexeme × Scan :=
  if !skipping ∧ c = '\'' then ([.quoted (letter :: '\'' :: body ++ [c])], between)
  else ([], escaped letter (body ++ [c]) (!skipping && c = '\\'))

/-- One more operator character; two hyphens, or a slash with a star behind it,
begin a comment. -/
def extendSymbol (chars : List Char) (c : Char) : List Lexeme × Scan :=
  let before := if chars.dropLast = [] then [] else [Lexeme.symbol chars.dropLast]
  if chars.getLast? = some '-' ∧ c = '-' then (before, lineComment)
  else if chars.getLast? = some '/' ∧ c = '*' then (before, blockComment 0 none)
  else ([], symbol (chars ++ [c]))

/-- One more character behind a dollar sign.  A second dollar sign completes a
delimiter, unless the first one began a numbered parameter. -/
def extendDollar (tag : List Char) (c : Char) : List Lexeme × Scan :=
  match charClass c with
  | .word => ([], dollar (tag ++ [c]))
  | .dollar =>
      if tag.head?.any Char.isDigit then ([], word ('$' :: tag ++ [c]))
      else ([], dollarQuoted tag [])
  | _ => breakAt (dollar tag) c

/-- One more character of a dollar-quoted text.  The text ends with the first
copy of its delimiter. -/
def extendDollarQuoted (tag body : List Char) (c : Char) : List Lexeme × Scan :=
  let delimiter := '$' :: tag ++ ['$']
  if delimiter.isSuffixOf (body ++ [c]) then
    ([.quoted (delimiter ++ body ++ [c])], between)
  else ([], dollarQuoted tag (body ++ [c]))

/-- The lexemes that end with a character, and what the reader is in the middle
of behind it. -/
def step : Scan → Char → List Lexeme × Scan
  | between, c => fresh c
  | word chars, c => extendWord chars c
  | symbol chars, c =>
      match charClass c with
      | .symbol => extendSymbol chars c
      | _ => breakAt (symbol chars) c
  | quoted quote body, c =>
      if c = quote.char then ([.quoted (quote.char :: body ++ [c])], between)
      else ([], quoted quote (body ++ [c]))
  | escaped letter body skipping, c => extendEscaped letter body skipping c
  | dollar tag, c => extendDollar tag c
  | dollarQuoted tag body, c => extendDollarQuoted tag body c
  | lineComment, c => if c = '\n' ∨ c = '\r' then ([], between) else ([], lineComment)
  | blockComment outer previous, c =>
      if previous = some '*' ∧ c = '/' then
        ([], if outer = 0 then between else blockComment (outer - 1) none)
      else if previous = some '/' ∧ c = '*' then ([], blockComment (outer + 1) none)
      else ([], blockComment outer (some c))

/-- Whether a text may end here: not inside quotes or a comment. -/
def isComplete : Scan → Bool
  | between => true
  | word _ => true
  | symbol _ => true
  | dollar _ => true
  | _ => false

/-- The lexemes of the rest of a text. -/
def lexemes? : Scan → List Char → Option (List Lexeme)
  | scan, [] => if scan.isComplete then some scan.pending else none
  | scan, c :: rest => ((scan.step c).2.lexemes? rest).map ((scan.step c).1 ++ ·)

/-! ### Reading on behind a break -/

/-- A blank or a mark ends whatever lexeme stands before it. -/
theorem step_of_break {scan : Scan} (complete : scan.isComplete = true) {c : Char}
    (breaks : charClass c = .blank ∨ charClass c = .mark) :
    scan.step c = scan.breakAt c := by
  cases scan with
  | between => rfl
  | word chars => rcases breaks with blank | mark <;> simp [step, extendWord, *]
  | symbol chars => rcases breaks with blank | mark <;> simp [step, *]
  | dollar chars => rcases breaks with blank | mark <;> simp [step, extendDollar, *]
  | quoted => cases complete
  | escaped => cases complete
  | dollarQuoted => cases complete
  | lineComment => cases complete
  | blockComment => cases complete

/-- What the reader is in the middle of behind a text. -/
def after (scan : Scan) (text : List Char) : Scan :=
  text.foldl (fun scan c => (scan.step c).2) scan

/-- A text that can be read leaves the scan where a text may end. -/
theorem isComplete_after : ∀ (text : List Char) {scan : Scan} {lexemes : List Lexeme},
    scan.lexemes? text = some lexemes → (scan.after text).isComplete = true
  | [], scan, lexemes, read => by
      by_cases complete : scan.isComplete = true
      · exact complete
      · rw [Scan.lexemes?, if_neg complete] at read
        cases read
  | c :: text, scan, lexemes, read => by
      rw [Scan.lexemes?, Option.map_eq_some_iff] at read
      obtain ⟨others, readRest, -⟩ := read
      exact isComplete_after text readRest

/-- A text that is complete by itself is read in the same way in front of another
one, if its last lexeme ends where the other one begins. -/
theorem lexemes?_append_of_step (right : List Char) :
    ∀ (left : List Char) {scan : Scan} {lexemes : List Lexeme},
      scan.lexemes? left = some lexemes →
      (∀ c, right.head? = some c → (scan.after left).step c = (scan.after left).breakAt c) →
      scan.lexemes? (left ++ right) = (between.lexemes? right).map (lexemes ++ ·)
  | [], scan, lexemes, read, breaks => by
      have complete : scan.isComplete = true := isComplete_after [] read
      rw [Scan.lexemes?, if_pos complete, Option.some.injEq] at read
      cases right with
      | nil =>
          have none : between.lexemes? [] = some [] := rfl
          rw [List.append_nil, Scan.lexemes?, if_pos complete, none, read]
          simp
      | cons c rest =>
          have breakStep : scan.step c = scan.breakAt c := breaks c rfl
          rw [List.nil_append, Scan.lexemes?, Scan.lexemes?, breakStep, ← read, Option.map_map]
          congr 1
          funext others
          simp [breakAt, step]
  | d :: left, scan, lexemes, read, breaks => by
      rw [Scan.lexemes?, Option.map_eq_some_iff] at read
      obtain ⟨others, readRest, lexemesEq⟩ := read
      have ih := lexemes?_append_of_step right left readRest breaks
      rw [List.cons_append, Scan.lexemes?, ih, Option.map_map, ← lexemesEq]
      congr 1
      funext more
      simp

/-- A text that is complete by itself is read in the same way in front of a
break. -/
theorem lexemes?_append {c : Char}
    (breaks : charClass c = .blank ∨ charClass c = .mark) (right left : List Char)
    {scan : Scan} {lexemes : List Lexeme} (read : scan.lexemes? left = some lexemes) :
    scan.lexemes? (left ++ c :: right) =
      (between.lexemes? (c :: right)).map (lexemes ++ ·) := by
  refine lexemes?_append_of_step (c :: right) left read fun d first => ?_
  cases first
  exact step_of_break (isComplete_after left read) breaks

/-! ### Trimming

A line end is put behind a text that is read as a whole, because the last line
may end in a comment.  In front of that line end trimming changes nothing.
-/

/-- A blank to the builder is a blank to the reader. -/
theorem charClass_of_isBlank {c : Char} (blank : Text.isBlank c = true) :
    charClass c = .blank := by
  rw [charClass, if_pos blank]

private theorem step_of_isBlank {scan : Scan} (complete : scan.isComplete = true) {c : Char}
    (blank : Text.isBlank c = true) : scan.step c = (scan.pending, between) := by
  have c_class := charClass_of_isBlank blank
  rw [step_of_break complete (Or.inl c_class)]
  simp [breakAt, fresh, c_class]

/-- What a blank does behind a text that cannot end there: it stands inside the
quotes or the comment, and only a line comment may end with it. -/
theorem step_blank_of_incomplete {scan : Scan} (incomplete : scan.isComplete = false)
    (not_line : scan ≠ lineComment) {c : Char} (blank : Text.isBlank c = true) :
    (scan.step c).2 ≠ lineComment ∧ (scan.step c).2.isComplete = false := by
  -- A blank is none of the characters that end what the scan is inside of.
  cases scan with
  | between => cases incomplete
  | word => cases incomplete
  | symbol => cases incomplete
  | dollar => cases incomplete
  | lineComment => exact absurd rfl not_line
  | quoted quote body =>
      have inside : c ≠ quote.char := by
        rintro rfl
        cases quote <;> exact absurd blank (by decide)
      simp [step, inside, isComplete]
  | escaped letter body skipping =>
      have inside : c ≠ '\'' := by
        rintro rfl
        exact absurd blank (by decide)
      simp [step, extendEscaped, inside, isComplete]
  | dollarQuoted tag body =>
      have inside : ¬ ('$' :: (tag ++ ['$'])) <:+ body ++ [c] := by
        rintro ⟨front, frontEq⟩
        have last := congrArg List.getLast? frontEq
        rw [← List.cons_append, ← List.append_assoc, List.getLast?_concat,
          List.getLast?_concat, Option.some.injEq] at last
        rw [← last] at blank
        exact absurd blank (by decide)
      simp [step, extendDollarQuoted, inside, isComplete]
  | blockComment outer previous =>
      have slash : c ≠ '/' := by
        rintro rfl
        exact absurd blank (by decide)
      have star : c ≠ '*' := by
        rintro rfl
        exact absurd blank (by decide)
      simp [step, slash, star, isComplete]

private theorem lexemes?_newline_of_isComplete {scan : Scan}
    (complete : scan.isComplete = true) :
    scan.lexemes? ['\n'] = some scan.pending := by
  rw [Scan.lexemes?, step_of_isBlank complete (by decide)]
  simp [Scan.lexemes?, isComplete, pending]

private theorem lexemes?_newline_of_incomplete {scan : Scan}
    (incomplete : scan.isComplete = false) (not_line : scan ≠ lineComment) :
    scan.lexemes? ['\n'] = none := by
  have stays := (step_blank_of_incomplete incomplete not_line
    (show Text.isBlank '\n' = true by decide)).2
  rw [Scan.lexemes?, Scan.lexemes?, stays]
  rfl

private theorem lexemes?_newline_of_blank {scan : Scan} {c : Char}
    (blank : Text.isBlank c = true) {lexemes : List Lexeme}
    (read : scan.lexemes? [c, '\n'] = some lexemes) :
    scan.lexemes? ['\n'] = some lexemes := by
  rw [Scan.lexemes?] at read
  by_cases complete : scan.isComplete = true
  · rw [step_of_isBlank complete blank, lexemes?_newline_of_isComplete rfl] at read
    rw [lexemes?_newline_of_isComplete complete, ← read]
    simp [pending]
  · rw [Bool.not_eq_true] at complete
    by_cases line : scan = lineComment
    · subst line
      rw [← read]
      by_cases ends : c = '\n' ∨ c = '\r'
      · simp only [step, ends, if_true]
        rfl
      · simp only [step, ends, if_false]
        rfl
    · obtain ⟨not_line, incomplete⟩ := step_blank_of_incomplete complete line blank
      rw [lexemes?_newline_of_incomplete incomplete not_line] at read
      cases read

/-- By induction from the front, because trimming decides about a character by what
it keeps behind it. -/
theorem lexemes?_trimEnd : ∀ (text : List Char) {scan : Scan} {lexemes : List Lexeme},
    scan.lexemes? (text ++ ['\n']) = some lexemes →
    scan.lexemes? (Text.trimEnd text ++ ['\n']) = some lexemes
  | [], _, _, read => read
  | c :: rest, scan, lexemes, read => by
      rw [List.cons_append, Scan.lexemes?, Option.map_eq_some_iff] at read
      obtain ⟨others, readRest, lexemesEq⟩ := read
      have ih := lexemes?_trimEnd rest readRest
      have kept : scan.lexemes? (c :: Text.trimEnd rest ++ ['\n']) = some lexemes := by
        rw [List.cons_append, Scan.lexemes?, ih, ← lexemesEq]
        rfl
      rw [Text.trimEnd_cons]
      split
      next dropped =>
        rw [dropped.2] at kept
        exact lexemes?_newline_of_blank dropped.1 kept
      next => exact kept

/-- Leading blanks are not read. -/
theorem lexemes?_dropWhile (text rest : List Char) :
    between.lexemes? (text.dropWhile Text.isBlank ++ rest) =
      between.lexemes? (text ++ rest) := by
  induction text with
  | nil => rfl
  | cons c more ih =>
      by_cases blank : Text.isBlank c = true
      · rw [List.dropWhile_cons_of_pos blank, ih, List.cons_append, Scan.lexemes?,
          step_of_isBlank rfl blank]
        simp [pending]
      · rw [List.dropWhile_cons_of_neg blank]

private theorem lexemes?_mark {c : Char} (mark : charClass c = .mark) (rest : List Char) :
    between.lexemes? (c :: rest) = (between.lexemes? rest).map (.mark c :: ·) := by
  rw [Scan.lexemes?, step, fresh, mark]
  rfl

/-- Between two lexemes a blank is skipped. -/
theorem lexemes?_blank {c : Char} (blank : Text.isBlank c = true) (rest : List Char) :
    between.lexemes? (c :: rest) = between.lexemes? rest := by
  rw [Scan.lexemes?, step_of_isBlank rfl blank]
  simp [pending]

end Scan

/-! ### Whole texts -/

/-- The lexemes of a text that leaves no quotes and no comment open. -/
def lexemes? (text : String) : Option (List Lexeme) :=
  Scan.between.lexemes? text.toList

/-- Two texts with a blank between them are read one behind the other. -/
theorem lexemes?_spaced {left right : String} {first second : List Lexeme}
    (readLeft : lexemes? left = some first) (readRight : lexemes? right = some second) :
    lexemes? (left ++ " " ++ right) = some (first ++ second) := by
  have breaks : charClass ' ' = .blank ∨ charClass ' ' = .mark := Or.inl rfl
  have chars : (left ++ " " ++ right).toList = left.toList ++ ' ' :: right.toList := by
    simp
  rw [lexemes?] at readLeft readRight
  rw [lexemes?, chars, Scan.lexemes?_append breaks _ _ readLeft,
    Scan.lexemes?_blank rfl, readRight]
  rfl

/-- A text in parentheses is read as its lexemes between two marks. -/
theorem lexemes?_parenthesised {inner : String} {lexemes : List Lexeme}
    (read : lexemes? inner = some lexemes) :
    lexemes? ("(" ++ inner ++ ")") = some (.mark '(' :: (lexemes ++ [.mark ')'])) := by
  have breaks : charClass ')' = .blank ∨ charClass ')' = .mark := Or.inr rfl
  have chars : ("(" ++ inner ++ ")").toList = '(' :: (inner.toList ++ [')']) := by
    simp
  rw [lexemes?] at read
  rw [lexemes?, chars, Scan.lexemes?_mark rfl, Scan.lexemes?_append breaks _ _ read]
  rfl

/-- A line break behind a text adds no lexeme. -/
theorem lexemes?_lineEnd {text : String} {lexemes : List Lexeme}
    (read : lexemes? text = some lexemes) : lexemes? (text ++ "\n") = some lexemes := by
  have breaks : charClass '\n' = .blank ∨ charClass '\n' = .mark := Or.inl rfl
  have chars : (text ++ "\n").toList = text.toList ++ ['\n'] := by
    simp
  rw [lexemes?] at read
  rw [lexemes?, chars, Scan.lexemes?_append breaks _ _ read, Scan.lexemes?_blank rfl]
  simp [Scan.lexemes?, Scan.isComplete, Scan.pending]

/-- Trimming a line changes nothing about what is read. -/
theorem lexemes?_trim {text : String} {lexemes : List Lexeme}
    (read : lexemes? (text ++ "\n") = some lexemes) :
    lexemes? (Text.trim text ++ "\n") = some lexemes := by
  have lineChars (line : String) : (line ++ "\n").toList = line.toList ++ ['\n'] := by
    simp
  rw [lexemes?, lineChars] at read ⊢
  rw [Text.trim, String.toList_ofList]
  apply Scan.lexemes?_trimEnd
  rw [Scan.lexemes?_dropWhile]
  exact read

end ClauseTree.Sql
