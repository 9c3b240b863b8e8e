import ClauseTree.Proofs.Lexeme
import ClauseTree.Render
import Mathlib.Data.List.Induction

/-!
# Operators and their operands

An operator is written directly in front of its operand, so a reader that takes words and
operator symbols as far as they go may not find the end of the one and the beginning of
the other.  Whether it does depends on the symbol and on the first characters of the
operand's text, and on nothing else.

A word ends at a blank of Unicode, as `Sql.charClass` says.  In PostgreSQL only a blank of
ASCII ends it, and a keyword also runs into an operand that starts with another blank.
-/

namespace ClauseTree.Sql

open Scan

/-! ### Dots -/

/-- Characters in front of lexemes: they lengthen a word that stands first. -/
def prependWord (chars : List Char) : List Lexeme → List Lexeme
  | .word more :: others => .word (chars ++ more) :: others
  | others => .word chars :: others

/-- The dots of a dotted word and the words between them. -/
def dotParts : List Char → List Lexeme
  | [] => []
  | c :: rest =>
      if c = '.' then .mark '.' :: dotParts rest else prependWord [c] (dotParts rest)

def Lexeme.parts : Lexeme → List Lexeme
  | .word chars => dotParts chars
  | other => [other]

/-- The lexemes of a text, with dots as lexemes of their own.  So a dotted name is several
of them, and so is a number with a point. -/
def dottedLexemes? (text : List Char) : Option (List Lexeme) :=
  (between.lexemes? text).map (·.flatMap Lexeme.parts)

/-- The lexemes of a whole text.  A line end is read behind it, because the text may end in
a comment. -/
def fineLexemes? (text : String) : Option (List Lexeme) :=
  dottedLexemes? (text.toList ++ ['\n'])

private theorem prependWord_prependWord (first second : List Char) (lexemes : List Lexeme) :
    prependWord first (prependWord second lexemes) = prependWord (first ++ second) lexemes := by
  cases lexemes with
  | nil => rfl
  | cons lexeme others =>
      cases lexeme with
      | word more => simp [prependWord]
      | quoted => rfl
      | symbol => rfl
      | mark => rfl

private theorem dotParts_append {word : List Char} (nonempty : word ≠ [])
    (noDot : ∀ c ∈ word, c ≠ '.') (rest : List Char) :
    dotParts (word ++ rest) = prependWord word (dotParts rest) := by
  induction word with
  | nil => exact absurd rfl nonempty
  | cons c more ih =>
      rw [List.cons_append, dotParts, if_neg (noDot c List.mem_cons_self)]
      cases more with
      | nil => rfl
      | cons d others =>
          rw [ih (List.cons_ne_nil d others) fun e member =>
            noDot e (List.mem_cons_of_mem c member), prependWord_prependWord]
          rfl

private theorem dotParts_of_noDot {word : List Char} (nonempty : word ≠ [])
    (noDot : ∀ c ∈ word, c ≠ '.') : dotParts word = [.word word] := by
  have whole := dotParts_append nonempty noDot []
  simpa [dotParts, prependWord] using whole

private theorem exists_word_of_prependWord (chars : List Char) (lexemes : List Lexeme) :
    ∃ more others, prependWord chars lexemes = .word (chars ++ more) :: others := by
  cases lexemes with
  | nil => exact ⟨[], [], by simp [prependWord]⟩
  | cons lexeme others =>
      cases lexeme with
      | word more => exact ⟨more, others, rfl⟩
      | quoted inner => exact ⟨[], .quoted inner :: others, by simp [prependWord]⟩
      | symbol inner => exact ⟨[], .symbol inner :: others, by simp [prependWord]⟩
      | mark c => exact ⟨[], .mark c :: others, by simp [prependWord]⟩

/-! ### Words -/

/-- The characters that a word may go on with. -/
def goesOn (c : Char) : Bool :=
  charClass c = .word || charClass c = .dollar

/-- The words behind which a quote opens a text with escapes. -/
def OpensEscapes (chars : List Char) : Prop :=
  chars = ['e'] ∨ chars = ['E']

private theorem step_word {chars : List Char} (plain : ¬ OpensEscapes chars) (c : Char) :
    (word chars).step c =
      if goesOn c then ([], word (chars ++ [c])) else (word chars).breakAt c := by
  rw [OpensEscapes, not_or] at plain
  rw [step, extendWord.eq_def]
  split
  · simp [goesOn, *]
  · simp [goesOn, *]
  · exact absurd rfl plain.1
  · exact absurd rfl plain.2
  · simp_all [goesOn]

/-- A word ends with the last character that it may go on with. -/
theorem lexemes?_word (text : List Char) : ∀ {chars : List Char}, chars ≠ [] →
    ¬ OpensEscapes chars →
    (word chars).lexemes? text =
      (between.lexemes? (text.dropWhile goesOn)).map
        (.word (chars ++ text.takeWhile goesOn) :: ·) := by
  induction text with
  | nil => simp [Scan.lexemes?, isComplete, pending]
  | cons c rest ih =>
      intro chars nonempty plain
      rw [Scan.lexemes?, step_word plain]
      by_cases inside : goesOn c = true
      · have longer : ¬ OpensEscapes (chars ++ [c]) := by
          rintro (short | short) <;> simp_all [List.append_eq_singleton_iff]
        rw [if_pos inside, ih (by simp) longer, List.takeWhile_cons_of_pos inside,
          List.dropWhile_cons_of_pos inside]
        simp [Function.comp_def]
      · rw [if_neg inside, List.takeWhile_cons_of_neg inside,
          List.dropWhile_cons_of_neg inside, List.append_nil]
        simp [breakAt, pending, Scan.lexemes?, step, Function.comp_def]

/-- Characters of words in front of a text are the beginning of a word. -/
theorem lexemes?_letters {chars : List Char} (nonempty : chars ≠ [])
    (letters : ∀ c ∈ chars, charClass c = .word) (text : List Char) :
    between.lexemes? (chars ++ text) = (word chars).lexemes? text := by
  induction chars using List.reverseRecOn generalizing text with
  | nil => exact absurd rfl nonempty
  | append_singleton front c ih =>
      have cWord : charClass c = .word := letters c (by simp)
      cases front with
      | nil => simp [Scan.lexemes?, step, fresh, cWord]
      | cons d others =>
          rw [List.append_assoc, ih (by simp) fun e member =>
            letters e (List.mem_append_left _ member)]
          simp [Scan.lexemes?, step, extendWord, cWord]

/-! ### Operator symbols -/

/-- Whether characters make the beginning of a comment with the text behind them: two
hyphens, or a slash and a star. -/
def opensComment (chars text : List Char) : Bool :=
  (chars.getLast? = some '-' && text.head? = some '-') ||
    (chars.getLast? = some '/' && text.head? = some '*')

def beginsComment : List Char → Bool
  | [] => false
  | c :: rest => opensComment [c] rest

/-- A run of operator characters without the beginning of a comment in it. -/
def IsOperator (chars : List Char) : Prop :=
  chars ≠ [] ∧ (∀ c ∈ chars, charClass c = .symbol) ∧
    ¬ ['-', '-'] <:+: chars ∧ ¬ ['/', '*'] <:+: chars

@[simp] theorem opensComment_nil_right (chars : List Char) : opensComment chars [] = false := by
  simp [opensComment]

@[simp] theorem opensComment_concat (chars : List Char) (c : Char) (text : List Char) :
    opensComment (chars ++ [c]) text = opensComment [c] text := by
  simp [opensComment]

/-- The beginnings of comments stand next to each other. -/
theorem opensComment_cons_iff (chars : List Char) (c : Char) (rest : List Char) :
    opensComment chars (c :: rest) = true ↔
      chars.getLast? = some '-' ∧ c = '-' ∨ chars.getLast? = some '/' ∧ c = '*' := by
  simp [opensComment]

private theorem opensComment_of_isOperator {chars : List Char} {c : Char}
    (operator : IsOperator (chars ++ [c])) (rest : List Char) :
    opensComment chars (c :: rest) = false := by
  obtain ⟨-, -, noLine, noBlock⟩ := operator
  rw [← Bool.not_eq_true, opensComment_cons_iff]
  rintro (⟨last, rfl⟩ | ⟨last, rfl⟩)
  · obtain ⟨front, rfl⟩ := List.getLast?_eq_some_iff.mp last
    exact noLine ⟨front, [], by simp⟩
  · obtain ⟨front, rfl⟩ := List.getLast?_eq_some_iff.mp last
    exact noBlock ⟨front, [], by simp⟩

private theorem step_symbol {chars : List Char} {c : Char} (cSymbol : charClass c = .symbol)
    {rest : List Char} (apart : opensComment chars (c :: rest) = false) :
    (symbol chars).step c = ([], symbol (chars ++ [c])) := by
  rw [← Bool.not_eq_true, opensComment_cons_iff, not_or] at apart
  rw [step, cSymbol]
  simp only [extendSymbol, apart, if_false]

/-- A character that is no operator character ends the operator before it. -/
theorem step_symbol_of_break (chars : List Char) {c : Char} (breaks : charClass c ≠ .symbol) :
    (symbol chars).step c = (symbol chars).breakAt c := by
  rw [step]
  split
  · contradiction
  · rfl

/-- A comment takes the last character of the symbol in front of it. -/
theorem step_opensComment {chars : List Char} {c : Char} {rest : List Char}
    (opens : opensComment chars (c :: rest) = true) :
    (symbol chars).step c =
      (if chars.dropLast = [] then [] else [.symbol chars.dropLast],
        if c = '-' then lineComment else blockComment 0 none) := by
  rcases (opensComment_cons_iff chars c rest).mp opens with ⟨last, rfl⟩ | ⟨last, rfl⟩
  · have hyphen : charClass '-' = .symbol := by decide
    simp only [step, hyphen, extendSymbol, last, and_self, if_true]
  · have star : charClass '*' = .symbol := by decide
    simp only [step, star, extendSymbol, last]
    rfl

/-- An operator in front of a text is the beginning of a symbol. -/
theorem lexemes?_operator {chars : List Char} (operator : IsOperator chars)
    (text : List Char) : between.lexemes? (chars ++ text) = (symbol chars).lexemes? text := by
  induction chars using List.reverseRecOn generalizing text with
  | nil => exact absurd rfl operator.1
  | append_singleton front c ih =>
      have cSymbol : charClass c = .symbol := operator.2.1 c (by simp)
      cases front with
      | nil => simp [Scan.lexemes?, step, fresh, cSymbol]
      | cons d others =>
          have inFront : IsOperator (d :: others) := by
            obtain ⟨-, symbols, noLine, noBlock⟩ := operator
            have shorter : d :: others <:+: d :: others ++ [c] :=
              (List.prefix_append _ _).isInfix
            exact ⟨List.cons_ne_nil d others,
              fun e member => symbols e (List.mem_append_left _ member),
              fun line => noLine (line.trans shorter),
              fun block => noBlock (block.trans shorter)⟩
          rw [List.append_assoc, ih inFront, List.singleton_append, Scan.lexemes?,
            step_symbol cSymbol (opensComment_of_isOperator operator text)]
          simp

/-- A symbol that no comment is opened with is the beginning of the first lexeme. -/
theorem exists_symbol_of_lexemes? (text : List Char) : ∀ {chars : List Char}, chars ≠ [] →
    opensComment chars text = false → ∀ {lexemes : List Lexeme},
      (symbol chars).lexemes? text = some lexemes →
        ∃ more others, lexemes = .symbol (chars ++ more) :: others := by
  induction text with
  | nil =>
      intro chars _ _ lexemes read
      simp only [Scan.lexemes?, isComplete, pending, if_true, Option.some.injEq] at read
      exact ⟨[], [], by simp [← read]⟩
  | cons c rest ih =>
      intro chars nonempty apart lexemes read
      by_cases cSymbol : charClass c = .symbol
      · rw [Scan.lexemes?, step_symbol cSymbol apart] at read
        simp only [List.nil_append, Option.map_id'] at read
        -- A comment that opens here ends the symbol in front of its two characters.
        by_cases opens : opensComment (chars ++ [c]) rest = true
        · cases rest with
          | nil => simp at opens
          | cons d more =>
              rw [Scan.lexemes?, step_opensComment opens, List.dropLast_concat, if_neg nonempty,
                Option.map_eq_some_iff] at read
              obtain ⟨others, -, lexemesEq⟩ := read
              exact ⟨[], others, by simp [← lexemesEq]⟩
        · obtain ⟨more, others, lexemesEq⟩ :=
            ih (by simp) (Bool.not_eq_true _ ▸ opens) read
          exact ⟨c :: more, others, by simp [lexemesEq]⟩
      · rw [Scan.lexemes?, step_symbol_of_break chars cSymbol, Option.map_eq_some_iff] at read
        obtain ⟨others, -, lexemesEq⟩ := read
        exact ⟨[], (fresh c).1 ++ others, by simp [← lexemesEq, breakAt, pending]⟩

/-! ### A symbol in front of a text -/

/-- A word of at least two characters.  So it is not the head of a text with escapes. -/
def IsKeyword (chars : List Char) : Prop :=
  2 ≤ chars.length ∧ ∀ c ∈ chars, charClass c = .word ∧ c ≠ '.'

instance (chars : List Char) : Decidable (IsKeyword chars) :=
  have : Decidable (∀ c ∈ chars, charClass c = .word ∧ c ≠ '.') :=
    List.decidableBAll (fun c => charClass c = .word ∧ c ≠ '.') chars
  inferInstanceAs (Decidable (_ ∧ _))

/-- The symbols that are one lexeme. -/
inductive IsSymbol : List Char → Lexeme → Prop
  | keyword {chars : List Char} (keyword : IsKeyword chars) : IsSymbol chars (.word chars)
  | operator {chars : List Char} (operator : IsOperator chars) : IsSymbol chars (.symbol chars)

/-- Whether a reader goes on with a lexeme where a text begins.  A comment that begins
with the text is no part of a symbol. -/
def runsInto : Lexeme → List Char → Bool
  | .word _, c :: _ => goesOn c && c ≠ '.'
  | .symbol chars, c :: rest =>
      charClass c = .symbol && (opensComment chars (c :: rest) || !beginsComment (c :: rest))
  | _, _ => false

/-- A keyword has a letter. -/
theorem IsKeyword.nonempty {chars : List Char} (keyword : IsKeyword chars) : chars ≠ [] := by
  rintro rfl
  exact absurd keyword.1 (by decide)

/-- A keyword has no dot, so that its characters stay one word. -/
theorem IsKeyword.noDot {chars : List Char} (keyword : IsKeyword chars) :
    ∀ c ∈ chars, c ≠ '.' :=
  fun c member => (keyword.2 c member).2

/-- In front of any text a keyword takes in the word characters that follow it. -/
theorem IsKeyword.lexemes? {chars : List Char} (keyword : IsKeyword chars)
    (text : List Char) :
    between.lexemes? (chars ++ text) =
      (between.lexemes? (text.dropWhile goesOn)).map
        (.word (chars ++ text.takeWhile goesOn) :: ·) := by
  have plain : ¬ OpensEscapes chars := by
    rintro (rfl | rfl) <;> exact absurd keyword.1 (by decide)
  rw [lexemes?_letters keyword.nonempty fun c member => (keyword.2 c member).1,
    lexemes?_word text keyword.nonempty plain]

/-- Behind a keyword that does not run on, a text is read from its beginning.  If the text
begins with a dot, what is read up to the next break is one dotted word. -/
theorem IsKeyword.dottedLexemes?_of_apart {chars text : List Char}
    (keyword : IsKeyword chars) (apart : runsInto (.word chars) text = false) :
    dottedLexemes? (chars ++ text) = (dottedLexemes? text).map (.word chars :: ·) := by
  rw [dottedLexemes?, keyword.lexemes?, dottedLexemes?]
  by_cases dotted : ∃ rest, text = '.' :: rest
  · obtain ⟨rest, rfl⟩ := dotted
    have dot : goesOn '.' = true := by decide
    have notEscapes : ¬ OpensEscapes ['.'] := by simp [OpensEscapes]
    have dotWord : ∀ c ∈ ['.'], charClass c = .word := by
      intro c member
      rw [List.mem_singleton.mp member]
      decide
    have alone := lexemes?_letters (List.cons_ne_nil '.' []) dotWord rest
    rw [List.singleton_append, lexemes?_word rest (by simp) notEscapes] at alone
    rw [alone, List.takeWhile_cons_of_pos dot, List.dropWhile_cons_of_pos dot]
    simp [Lexeme.parts, dotParts_append keyword.nonempty keyword.noDot, dotParts, prependWord,
      Function.comp_def]
  · have breaks : text.takeWhile goesOn = [] ∧ text.dropWhile goesOn = text := by
      cases text with
      | nil => exact ⟨rfl, rfl⟩
      | cons c rest =>
          have notDot : c ≠ '.' := fun isDot => dotted ⟨rest, by rw [isDot]⟩
          have outside : goesOn c = false := by simpa [runsInto, notDot] using apart
          simp [outside]
    rw [breaks.1, breaks.2, List.append_nil]
    simp [Lexeme.parts, dotParts_of_noDot keyword.nonempty keyword.noDot, Function.comp_def]

private theorem IsKeyword.dottedLexemes?_of_runsInto {chars text : List Char}
    (keyword : IsKeyword chars) (runs : runsInto (.word chars) text = true)
    (others : List Lexeme) : dottedLexemes? (chars ++ text) ≠ some (.word chars :: others) := by
  intro read
  cases text with
  | nil => cases runs
  | cons c rest =>
      simp only [runsInto, Bool.and_eq_true, decide_eq_true_eq] at runs
      obtain ⟨inside, notDot⟩ := runs
      have noDot : ∀ d ∈ chars ++ [c], d ≠ '.' := by
        simpa [or_imp, forall_and] using ⟨keyword.noDot, notDot⟩
      rw [dottedLexemes?, keyword.lexemes?, List.takeWhile_cons_of_pos inside, Option.map_map,
        Option.map_eq_some_iff] at read
      obtain ⟨behind, -, lexemesEq⟩ := read
      obtain ⟨more, rest', parts⟩ :=
        exists_word_of_prependWord (chars ++ [c]) (dotParts (rest.takeWhile goesOn))
      rw [← dotParts_append (by simp) noDot] at parts
      simp only [Function.comp_apply, List.flatMap_cons, Lexeme.parts] at lexemesEq
      rw [List.append_cons, parts] at lexemesEq
      simp at lexemesEq

private theorem lexemes?_symbol_of_apart {chars text : List Char} (nonempty : chars ≠ [])
    (apart : runsInto (.symbol chars) text = false) :
    (symbol chars).lexemes? text = (between.lexemes? text).map (.symbol chars :: ·) := by
  cases text with
  | nil => rfl
  | cons c rest =>
      by_cases cSymbol : charClass c = .symbol
      · simp only [runsInto, cSymbol, decide_true, Bool.true_and, Bool.or_eq_false_iff,
          Bool.not_eq_eq_eq_not, Bool.not_false] at apart
        obtain ⟨closed, comment⟩ := apart
        rw [Scan.lexemes?, step_symbol cSymbol closed, Scan.lexemes?, step, fresh, cSymbol]
        cases rest with
        | nil => simp [beginsComment] at comment
        | cons d more =>
            have opens : opensComment (chars ++ [c]) (d :: more) = true := by
              rw [opensComment_concat]
              exact comment
            simp [Scan.lexemes?, step_opensComment opens, step_opensComment comment, nonempty,
              Function.comp_def]
      · rw [Scan.lexemes?, step_symbol_of_break chars cSymbol]
        simp [Scan.lexemes?, step, breakAt, pending, Function.comp_def]

private theorem IsOperator.dottedLexemes?_of_apart {chars text : List Char}
    (operator : IsOperator chars) (apart : runsInto (.symbol chars) text = false) :
    dottedLexemes? (chars ++ text) = (dottedLexemes? text).map (.symbol chars :: ·) := by
  rw [dottedLexemes?, lexemes?_operator operator, lexemes?_symbol_of_apart operator.1 apart,
    dottedLexemes?]
  simp [Lexeme.parts, Function.comp_def]

private theorem IsOperator.dottedLexemes?_of_runsInto {chars text : List Char}
    (operator : IsOperator chars) (runs : runsInto (.symbol chars) text = true)
    (closed : opensComment chars text = false) (others : List Lexeme) :
    dottedLexemes? (chars ++ text) ≠ some (.symbol chars :: others) := by
  intro read
  cases text with
  | nil => cases runs
  | cons c rest =>
      simp only [runsInto, closed, Bool.false_or, Bool.and_eq_true, decide_eq_true_eq,
        Bool.not_eq_eq_eq_not, Bool.not_true] at runs
      obtain ⟨cSymbol, noComment⟩ := runs
      rw [beginsComment, ← opensComment_concat chars] at noComment
      rw [dottedLexemes?, lexemes?_operator operator, Scan.lexemes?,
        step_symbol cSymbol closed, Option.map_eq_some_iff] at read
      obtain ⟨lexemes, readSymbol, lexemesEq⟩ := read
      simp only [List.nil_append, Option.map_id'] at readSymbol
      obtain ⟨more, behind, rfl⟩ :=
        exists_symbol_of_lexemes? rest (by simp) noComment readSymbol
      simp [Lexeme.parts] at lexemesEq

/-! ### The line end behind a text -/

private theorem opensComment_newline (chars text : List Char) :
    opensComment chars (text ++ ['\n']) = opensComment chars text := by
  cases text with
  | nil => simp [opensComment]
  | cons => rfl

private theorem runsInto_newline (lexeme : Lexeme) (text : List Char) :
    runsInto lexeme (text ++ ['\n']) = runsInto lexeme text := by
  cases text with
  | nil =>
      have lineEnd : charClass '\n' = .blank := by decide
      cases lexeme <;> simp [runsInto, goesOn, lineEnd]
  | cons c rest =>
      cases lexeme with
      | symbol chars =>
          have atHead : opensComment chars (c :: (rest ++ ['\n'])) =
              opensComment chars (c :: rest) := rfl
          simp only [List.cons_append, runsInto, beginsComment, atHead, opensComment_newline]
      | word => rfl
      | quoted => rfl
      | mark => rfl

/-- A symbol that the text behind it does not run into is read as a lexeme of its own. -/
theorem IsSymbol.fineLexemes?_of_apart {symbol text : String} {lexeme : Lexeme}
    (single : IsSymbol symbol.toList lexeme) (apart : runsInto lexeme text.toList = false) :
    fineLexemes? (symbol ++ text) = (fineLexemes? text).map (lexeme :: ·) := by
  rw [← runsInto_newline] at apart
  rw [fineLexemes?, String.toList_append, List.append_assoc, fineLexemes?]
  cases single with
  | keyword keyword => exact keyword.dottedLexemes?_of_apart apart
  | operator operator => exact operator.dottedLexemes?_of_apart apart

/-- A symbol that the text behind it runs into is never read as a lexeme of its own. -/
theorem IsSymbol.fineLexemes?_of_runsInto {symbol text : String} {lexeme : Lexeme}
    (single : IsSymbol symbol.toList lexeme) (runs : runsInto lexeme text.toList = true)
    (closed : opensComment symbol.toList text.toList = false) (others : List Lexeme) :
    fineLexemes? (symbol ++ text) ≠ some (lexeme :: others) := by
  rw [← runsInto_newline] at runs
  rw [← opensComment_newline] at closed
  rw [fineLexemes?, String.toList_append, List.append_assoc]
  cases single with
  | keyword keyword => exact keyword.dottedLexemes?_of_runsInto runs others
  | operator operator => exact operator.dottedLexemes?_of_runsInto runs closed others

/-! ### Tokens -/

/-- An operator is read as its symbol and the lexemes of the text behind it, unless the
symbol runs into that text.  Then the symbol is not the first lexeme, or a comment begins
with its last character. -/
theorem fineLexemes?_applied {symbol : String} {lexeme : Lexeme}
    (single : IsSymbol symbol.toList lexeme) (operand : Token) (castType : Option String)
    (outputName : Option Alias) (mode : Mode) (parameters : Parameters) :
    let behind := (operand.write mode parameters).1 ++ suffix castType outputName
    let whole := (Token.write mode ⟨.applied symbol operand, castType, outputName⟩ parameters).1
    (runsInto lexeme behind.toList = false →
      fineLexemes? whole = (fineLexemes? behind).map (lexeme :: ·)) ∧
    (runsInto lexeme behind.toList = true →
      opensComment symbol.toList behind.toList = true ∨
        ∀ others, fineLexemes? whole ≠ some (lexeme :: others)) := by
  intro behind whole
  have glued : whole = symbol ++ behind := by
    simp [whole, behind, Token.write, TokenKind.write, String.append_assoc]
  rw [glued]
  constructor
  · exact single.fineLexemes?_of_apart
  · intro runs
    rcases Bool.eq_false_or_eq_true (opensComment symbol.toList behind.toList) with
      opens | closed
    · exact .inl opens
    · exact .inr (single.fineLexemes?_of_runsInto runs closed)

/-- A list keeps a keyword and a numbered placeholder apart. -/
theorem fineLexemes?_applied_list :
    IsSymbol "NOT".toList (.word "NOT".toList) ∧
      fineLexemes? (Token.write (.prepared .dollar)
          (.applied "NOT" (.list [.constant (.bool true)])) .empty).1 =
        some [.word "NOT".toList, .mark '(', .word "$1".toList, .mark ')'] := by
  have single : IsSymbol "NOT".toList (.word "NOT".toList) := by
    simp only [String.reduceToList]
    exact .keyword (by decide)
  have apart := (fineLexemes?_applied single (.list [.constant (.bool true)]) none none
    (.prepared .dollar) .empty).1 (by decide)
  exact ⟨single, apart.trans (by decide)⟩

/-- A keyword is read as one word with a name, and with a numbered placeholder.  A minus and
a negative number are read as a comment. -/
theorem fineLexemes?_applied_fused :
    IsSymbol "NOT".toList (.word "NOT".toList) ∧
      fineLexemes? (Token.name "a").text = some [.word "a".toList] ∧
      fineLexemes? (Token.applied "NOT" (.name "a")).text = some [.word "NOTa".toList] ∧
      fineLexemes? (Token.write (.prepared .dollar)
          (.applied "NOT" (.constant (.bool true))) .empty).1 =
        some [.word "NOT$1".toList] ∧
      fineLexemes? (Token.applied "-" (.number (.int (-5)))).text = some [] := by
  constructor
  · simp only [String.reduceToList]
    exact .keyword (by decide)
  · decide

end ClauseTree.Sql
