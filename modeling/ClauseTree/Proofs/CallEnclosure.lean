import ClauseTree.Proofs.CastReach
import ClauseTree.Proofs.OperatorLexemes
import ClauseTree.Proofs.Parentheses

/-!
# What a call encloses

A call is written as its name and its argument in parentheses.  The two parentheses
match each other if the argument closes every parenthesis that it opens.  Literals and
quoted names do that themselves; names, types, operators and other texts that are
written as they are have to.  A list comes with parentheses, and a call puts no second
pair around them, so the cast and the alias of a list end up behind the call.
-/

namespace ClauseTree.Sql

open Scan

/-! ### Words and literals -/

private theorem charClass_of_isAlphanum {c : Char} (alphanum : c.isAlphanum = true) :
    charClass c = .word := by
  have plain : Text.isBlank c = false ∧ c ≠ '\'' ∧ c ≠ '"' ∧ c ≠ '$' := by
    refine ⟨?_, ?_, ?_, ?_⟩
    · delta Char.isAlphanum Char.isAlpha Char.isUpper Char.isLower Char.isDigit at alphanum
      simp only [Bool.or_eq_true, Bool.and_eq_true, decide_eq_true_eq,
        UInt32.le_iff_toNat_le, ge_iff_le] at alphanum
      have codes : '0'.val.toNat = 48 ∧ '9'.val.toNat = 57 ∧ 'A'.val.toNat = 65 ∧
          'Z'.val.toNat = 90 ∧ 'a'.val.toNat = 97 ∧ 'z'.val.toNat = 122 := by decide
      simp only [Text.isBlank, Text.blankRanges, List.any_cons, List.any_nil, Bool.or_false,
        Bool.or_eq_false_iff, decide_eq_false_iff_not, Bool.and_eq_false_iff, Char.toNat]
      omega
    all_goals
      rintro rfl
      exact absurd alphanum (by decide)
  simp [charClass, plain, alphanum]

/-- Digits go on with words. -/
theorem charClass_of_isDigit {c : Char} (digit : c.isDigit = true) : charClass c = .word :=
  charClass_of_isAlphanum (by simp [Char.isAlphanum, digit])

private theorem after_word {chars : List Char} (nonempty : chars ≠ [])
    (letters : ∀ c ∈ chars, charClass c = .word) : between.after chars = word chars := by
  induction chars using List.reverseRecOn with
  | nil => exact absurd rfl nonempty
  | append_singleton front c ih =>
      have cWord : charClass c = .word := letters c (by simp)
      cases front with
      | nil => simp [after, step, fresh, cWord]
      | cons d others =>
          have inFront := ih (List.cons_ne_nil d others) fun e member =>
            letters e (List.mem_append_left _ member)
          rw [after] at inFront
          rw [after, List.foldl_append, inFront]
          simp [step, extendWord, cWord]

/-- Words with blanks between them, read on from anywhere between two characters of them. -/
theorem Scan.reads_words : ∀ {chars : List Char} {scan : Scan},
    (∀ c ∈ chars, charClass c = .blank ∨ charClass c = .word) →
    scan = between ∨ (∃ front, scan = word front) →
      (scan.lexemes? chars).bind (depthBehind? 0) = some 0
  | [], scan, _, inWords => by
      obtain rfl | ⟨front, rfl⟩ := inWords <;> rfl
  | c :: rest, scan, each, inWords => by
      have more := fun d (member : d ∈ rest) => each d (List.mem_cons_of_mem c member)
      have read : depthBehind? 0 (scan.step c).1 = some 0 ∧
          ((scan.step c).2 = between ∨ ∃ front, (scan.step c).2 = word front) := by
        obtain rfl | ⟨front, rfl⟩ := inWords <;>
          obtain blank | letter := each c List.mem_cons_self <;>
          simp [step, fresh, extendWord, breakAt, pending, depthBehind?, deepen?, *]
      rw [bind_lexemes?_cons_of_neutral read.1]
      exact reads_words more read.2

/-- Words and blanks hold no parenthesis. -/
theorem balancedChars_words {chars : List Char}
    (each : ∀ c ∈ chars, charClass c = .blank ∨ charClass c = .word) : BalancedChars chars :=
  reads_words each (.inl rfl)

private theorem balancedChars_word {chars : List Char}
    (letters : ∀ c ∈ chars, charClass c = .word) :
    BalancedChars chars :=
  balancedChars_words fun c member => .inr (letters c member)

private theorem balancedChars_digits {digits : List Char} (isDigits : IsDigits digits) :
    BalancedChars digits :=
  balancedChars_word fun c member => charClass_of_isDigit (isDigits.2 c member)

/-- A sign in front of digits is a lexeme of its own. -/
theorem balancedChars_signed {sign : Char} (isSign : charClass sign = .symbol) {c : Char}
    (digit : c.isDigit = true) {rest : List Char} (balanced : BalancedChars (c :: rest)) :
    BalancedChars (sign :: c :: rest) := by
  have behind : between.after [sign] = symbol [sign] := by simp [after, step, fresh, isSign]
  have alone : BalancedChars [sign] := by
    simp [BalancedChars, Scan.lexemes?, step, fresh, isSign, isComplete, pending, depthBehind?,
      deepen?]
  refine alone.append balanced fun d first => ?_
  cases first
  rw [behind]
  apply step_symbol_of_break
  rw [charClass_of_isDigit digit]
  decide

/-- A sign behind letters and digits ends the word that they are. -/
theorem BalancedChars.signed {front : List Char} (nonempty : front ≠ [])
    (letters : ∀ c ∈ front, charClass c = .word) {sign : Char}
    (isSign : charClass sign = .symbol) {digits : List Char} (isDigits : IsDigits digits) :
    BalancedChars (front ++ sign :: digits) := by
  have behind : BalancedChars (sign :: digits) := by
    have unsigned := balancedChars_digits isDigits
    obtain ⟨c, more, rfl⟩ := List.exists_cons_of_ne_nil isDigits.1
    exact balancedChars_signed isSign (isDigits.2 c List.mem_cons_self) unsigned
  refine (balancedChars_word letters).append behind fun c first => ?_
  cases first
  rw [after_word nonempty letters]
  simp [step, extendWord, isSign]

/-- A number holds no parenthesis, its sign and its exponent included. -/
theorem balancedChars_number {number : List Char} (isNumber : IsNumber number) :
    BalancedChars number := by
  cases isNumber with
  | @parts whole fraction exponent isDigits isFraction isExponent =>
      have inFront : ∀ c ∈ whole ++ fraction, charClass c = .word := by
        intro c member
        rcases List.mem_append.mp member with inWhole | inFraction
        · exact charClass_of_isDigit (isDigits.2 c inWhole)
        · cases isFraction with
          | none => cases inFraction
          | digits isDigits =>
              rcases List.mem_cons.mp inFraction with rfl | inDigits
              · decide
              · exact charClass_of_isDigit (isDigits.2 c inDigits)
      have letter : charClass 'e' = .word := by decide
      have upTo : ∀ c ∈ whole ++ fraction ++ ['e'], charClass c = .word := by
        simpa [or_imp, forall_and, letter] using inFront
      rw [← List.append_assoc]
      cases isExponent with
      | none =>
          rw [List.append_nil]
          exact balancedChars_word inFront
      | @digits sign digits isSign powers =>
          rw [List.append_cons]
          cases isSign with
          | none =>
              refine balancedChars_word fun c member => ?_
              rcases List.mem_append.mp member with inUpTo | inDigits
              · exact upTo c inUpTo
              · exact charClass_of_isDigit (powers.2 c inDigits)
          | plus => exact .signed (by simp) upTo (by decide) powers
          | minus => exact .signed (by simp) upTo (by decide) powers

private theorem lexemes?_dollar : ∀ {digits : List Char} (tag : List Char),
    (∀ c ∈ digits, c.isDigit = true) →
      (dollar tag).lexemes? digits = some [.word ('$' :: (tag ++ digits))]
  | [], tag, _ => by simp [Scan.lexemes?, isComplete, pending]
  | c :: rest, tag, isDigit => by
      have cWord := charClass_of_isDigit (isDigit c List.mem_cons_self)
      have ih := lexemes?_dollar (tag ++ [c]) fun d member =>
        isDigit d (List.mem_cons_of_mem c member)
      simp [Scan.lexemes?, step, extendDollar, cWord, ih]

/-- What a cast can apply to has its parentheses matched. -/
theorem balancedChars_primary {text : List Char} (isPrimary : IsPrimary text) :
    BalancedChars text := by
  cases isPrimary with
  | keyword _ isLetters =>
      refine balancedChars_word fun c member => charClass_of_isAlphanum ?_
      simp [Char.isAlphanum, List.all_eq_true.mp isLetters c member]
  | quoted inner =>
      have whole := (sealed_enclosed .single (String.ofList inner)).balanced
      simpa [Balanced, Text.enclosed, Quote.char] using whole
  | number isNumber => exact balancedChars_number isNumber
  | question => decide
  | @dollar digits isDigits =>
      have read := lexemes?_dollar [] isDigits.2
      have sign : between.step '$' = ([], dollar []) := by decide
      rw [BalancedChars, bind_lexemes?_cons_of_neutral (by rw [sign]; rfl), sign, read]
      rfl

/-- The literal of a constant, its sign included, has its parentheses matched. -/
theorem LiteralShape.balanced {signed : Bool} {text : List Char}
    (shape : LiteralShape signed text) : BalancedChars text := by
  cases shape with
  | operand isPrimary => exact balancedChars_primary isPrimary
  | signed isNumber =>
      have unsigned := balancedChars_number isNumber
      obtain ⟨c, rest, rfl, digit⟩ := isNumber.exists_digit
      exact balancedChars_signed (by decide) digit unsigned

end ClauseTree.Sql

namespace ClauseTree

open Sql

/-! ### What tokens write themselves -/

/-- What the token writes itself opens nothing that it does not close, and its operator does
not run into the operand. -/
def Token.Sound (mode : Mode) (token : Token) : Prop :=
  (∀ text ∈ token.rawTexts, Sealed text) ∧
    match token.kind with
    | .dollarString body tag => Sealed (Text.dollarQuoted body tag)
    | .applied symbol operand =>
        ∀ parameters, Separate symbol (operand.write mode parameters).1
    | _ => True

private theorem suffix_eq_append (castType : Option String) (outputName : Option Alias) :
    suffix castType outputName = suffix castType none ++ suffix none outputName := by
  cases castType <;> cases outputName <;> simp [suffix]

/-- A cast or an alias begins with a character that ends the lexeme in front of it. -/
theorem breaks_suffix (castType : Option String) (outputName : Option Alias) :
    Breaks (suffix castType outputName) := by
  have castSign : IsSeparator "::" := by decide
  have nameSign : IsSeparator " AS " := by decide
  rw [suffix_eq_append]
  refine Breaks.append ?_ fun _ => ?_
  · cases castType with
    | none => decide
    | some type => simpa [suffix] using castSign.breaks_append type
  · cases outputName with
    | none => decide
    | some outputName =>
        have breaks := nameSign.breaks_append (outputName.name ++
          if outputName.columns.isEmpty then ""
          else "(" ++ commaSeparated outputName.columns ++ ")")
        simpa [suffix, String.append_assoc] using breaks

private theorem sealed_commaSeparated {texts : List String} (each : ∀ text ∈ texts, Sealed text) :
    Sealed (commaSeparated texts) :=
  sealed_intercalate (by decide) each

private theorem sealed_suffix {castType : Option String} {outputName : Option Alias}
    (castSealed : ∀ type ∈ castType.toList, Sealed type)
    (nameSealed : ∀ text ∈ (outputName.map Alias.rawTexts).getD [], Sealed text) :
    Sealed (suffix castType outputName) := by
  have castSign : IsSeparator "::" := by decide
  have nameSign : IsSeparator " AS " := by decide
  rw [suffix_eq_append]
  refine Sealed.append_break ?_ ?_ (breaks_suffix none outputName)
  · cases castType with
    | none => rfl
    | some type => simpa [suffix] using (castSealed type (by simp)).behind castSign
  · cases outputName with
    | none => rfl
    | some outputName =>
        obtain ⟨name, columns⟩ := outputName
        have named : Sealed (" AS " ++ name) :=
          (nameSealed name List.mem_cons_self).behind nameSign
        have listed : Sealed ("(" ++ commaSeparated columns ++ ")") :=
          (sealed_commaSeparated fun column member =>
            nameSealed column (List.mem_cons_of_mem name member)).parenthesised
        have whole := named.append_break listed (breaks_parenthesised _)
        cases none : columns.isEmpty with
        | true => simpa [suffix, none] using named
        | false => simpa [suffix, none] using whole

/-! ### Nodes -/

private theorem NodeKind.sealed_keyword (kind : NodeKind) : Sealed kind.layout.keyword := by
  have words : kind.layout.keyword.toList.all (fun c => c = ' ' || c.isAlphanum) = true := by
    cases kind <;> decide
  obtain ⟨blanks, chars, -⟩ := Text.exists_blanks kind.layout.keyword.toList
  rw [List.all_eq_true] at words
  refine balancedChars_words fun c member => ?_
  have kept : c ∈ kind.layout.keyword.toList := by
    rw [chars]
    exact List.mem_append_left blanks member
  rcases Bool.or_eq_true_iff.mp (words c kept) with blank | letter
  · rw [of_decide_eq_true blank]
    decide
  · exact .inr (charClass_of_isAlphanum letter)

private theorem NodeKind.isSeparator_separator (kind : NodeKind) :
    IsSeparator kind.layout.separator := by
  have separators : kind.layout.separator = " " ∨ kind.layout.separator = ", " := by
    cases kind <;> first | exact .inl rfl | exact .inr rfl
  rcases separators with blank | comma
  · rw [blank]
    decide
  · rw [comma]
    decide

private theorem NodeKind.isSeparator_before (kind : NodeKind) (glue : Glue) :
    IsSeparator (kind.layout.before glue) := by
  cases glue with
  | separator => exact kind.isSeparator_separator
  | space => exact (by decide : IsSeparator " ")

private theorem NodeKind.sealed_joinRest (kind : NodeKind) : ∀ {fragments : List Fragment},
    (∀ fragment ∈ fragments, Sealed fragment.text) → ∀ {left : String}, Sealed left →
      Sealed (left ++ kind.layout.joinRest fragments)
  | [], _, left, first => by simpa [Layout.joinRest] using first
  | fragment :: rest, each, left, first => by
      have joined := first.separated (kind.isSeparator_before fragment.glue)
        (each fragment List.mem_cons_self)
      have ih := kind.sealed_joinRest (fun other member =>
        each other (List.mem_cons_of_mem fragment member)) joined
      rwa [Layout.joinRest, ← String.append_assoc, ← String.append_assoc]

private theorem NodeKind.sealed_joinWritten (kind : NodeKind) {fragments : List Fragment}
    (each : ∀ fragment ∈ fragments, Sealed fragment.text) :
    Sealed (kind.layout.joinWritten fragments) := by
  cases fragments with
  | nil => rfl
  | cons fragment rest =>
      exact kind.sealed_joinRest (fun other member =>
        each other (List.mem_cons_of_mem fragment member)) (each fragment List.mem_cons_self)

private theorem NodeKind.sealed_headed (kind : NodeKind) {body : String} (isSealed : Sealed body) :
    Sealed (kind.layout.headed body) := by
  rw [Layout.headed]
  split
  next => exact isSealed
  next =>
    split
    next => exact kind.sealed_keyword
    next =>
      have blank : IsSeparator " " := by decide
      exact kind.sealed_keyword.separated blank isSealed

/-- A node of balanced parts is balanced: its keyword, its separators and its own
parentheses add nothing that stays open. -/
theorem NodeKind.sealed_compose (kind : NodeKind) {fragments : List Fragment}
    (each : ∀ fragment ∈ fragments, Sealed fragment.text) :
    Sealed (kind.layout.compose fragments) := by
  have body : Sealed (kind.layout.joinWritten
      (fragments.filter fun fragment => !fragment.text.isEmpty)) :=
    kind.sealed_joinWritten fun fragment member => each fragment (List.mem_filter.mp member).1
  rw [Layout.compose]
  refine kind.sealed_headed ?_
  split
  · exact body.parenthesised
  · exact body

/-- Trimming a balanced text leaves it balanced. -/
theorem sealed_treeText {fragments : List Fragment}
    (each : ∀ fragment ∈ fragments, Sealed fragment.text) : Sealed (treeText fragments) :=
  (NodeKind.root.sealed_compose each).trim

/-! ### The walk

One statement for each kind of thing that is walked over.  It is about sealed texts and not
about balanced ones, because a statement inside of a token loses the blanks at its ends.
-/

/-- Behind a dot a word could go on, but the quote of the next part ends it. -/
theorem sealed_dotted (part : String) : ∀ parts : List String,
    let text := ".".intercalate ((part :: parts).map Text.quotedName)
    Sealed text ∧ text.toList.head? = some '"'
  | [] => by
      constructor
      · rw [List.map_singleton, String.intercalate_singleton]
        exact sealed_enclosed .double part
      · simp [Text.quotedName, Text.enclosed]
  | next :: rest => by
      obtain ⟨behind, begins⟩ := sealed_dotted next rest
      have settled := separate_of_settled (after_enclosed .double part)
      have dot : Sealed "." := by decide
      have dotted := dot.append behind fun c first => by
        rw [begins, Option.some.injEq] at first
        rw [← first]
        decide
      intro text
      have parts : text = Text.quotedName part ++
          ("." ++ ".".intercalate ((next :: rest).map Text.quotedName)) := by
        rw [← String.append_assoc]
        exact String.intercalate_cons_cons
      rw [parts]
      constructor
      · exact (sealed_enclosed .double part).append dotted (settled _)
      · simp [Text.quotedName, Text.enclosed]

/-- A quoted identifier is balanced, whatever the parentheses inside its quotes. -/
theorem Identifier.sealed_quoted (text : String) : Sealed (Identifier.quoted text) := by
  have texts : (parts text).map (fun part => Text.quotedName part.text) =
      ((parts text).map Part.text).map Text.quotedName := by simp
  rw [Identifier.quoted, texts]
  cases (parts text).map Part.text with
  | nil => decide
  | cons part rest => exact (sealed_dotted part rest).1

private theorem TokenKind.sealed_constant (mode : Mode) (whole : Token) (value : Value)
    (prepared : Bool) (parameters : Parameters) :
    Sealed ((TokenKind.constant value prepared).write mode whole parameters).1 := by
  have balanced : Balanced ((TokenKind.constant value prepared).write mode whole parameters).1 :=
    (TokenKind.literalShape_constant value prepared mode whole parameters).balanced
  refine balanced.sealed (Text.Solid.last ?_)
  cases mode with
  | literal => exact value.solid_sql
  | prepared style =>
      cases prepared with
      | false => exact value.solid_sql
      | true => exact style.solid_text _

private theorem breaks_commaSeparated : ∀ {texts : List String}, (∀ text ∈ texts, Breaks text) →
    Breaks (commaSeparated texts)
  | [], _ => by decide
  | [text], each => by simpa [commaSeparated] using each text List.mem_cons_self
  | text :: next :: rest, each => by
      have comma : IsSeparator ", " := by decide
      rw [commaSeparated, String.intercalate_cons_cons, String.append_assoc]
      exact (each text List.mem_cons_self).append fun _ => comma.breaks_append _

private theorem breaks_writeRows (mode : Mode) :
    ∀ (rows : List (List Token)) (parameters : Parameters),
    ∀ text ∈ (writeRows mode rows parameters).1, Breaks text
  | [], _, _, member => absurd member List.not_mem_nil
  | row :: rest, parameters, text, member => by
      rcases List.mem_cons.mp member with rfl | inRest
      · exact breaks_parenthesised _
      · exact breaks_writeRows mode rest (writeTokens mode row parameters).2 text inRest

/-- A list begins with its parenthesis. -/
theorem Token.breaks_list {token : Token} (isList : token.kind.isList = true) (mode : Mode)
    (parameters : Parameters) : Breaks (token.write mode parameters).1 := by
  obtain ⟨kind, castType, outputName⟩ := token
  cases kind with
  | list items =>
      exact (breaks_parenthesised _).append fun _ => breaks_suffix castType outputName
  | _ => cases isList

private theorem Token.Sound.kind_rawTexts {mode : Mode} {token : Token} {kind : TokenKind}
    (sound : token.Sound mode) (same : token.kind = kind) :
    ∀ text ∈ kind.rawTexts, Sealed text := by
  intro text member
  subst same
  exact sound.1 text (by simp [Token.rawTexts, member])

mutual

/-- A token whose raw texts are balanced, and those of all it holds, is written as a
balanced text. -/
theorem Token.sealed_write (mode : Mode) : ∀ (token : Token) (parameters : Parameters),
    (∀ inner ∈ token.traversal, inner.Sound mode) → Sealed (token.write mode parameters).1
  | ⟨kind, castType, outputName⟩, parameters, sound => by
      have itself := sound ⟨kind, castType, outputName⟩ List.mem_cons_self
      have inner := TokenKind.sealed_write mode ⟨kind, castType, outputName⟩ kind rfl
        parameters sound
      refine inner.append_break ?_ (breaks_suffix castType outputName)
      apply sealed_suffix
      · intro type member
        exact itself.1 type (by simp [Token.rawTexts, member])
      · intro text member
        exact itself.1 text (by simp [Token.rawTexts, member])

private theorem TokenKind.sealed_write (mode : Mode) (whole : Token) :
    ∀ (kind : TokenKind), whole.kind = kind → ∀ (parameters : Parameters),
    (∀ inner ∈ whole :: kind.traversal, inner.Sound mode) →
    Sealed (kind.write mode whole parameters).1
  | .name text, same, _, sound =>
      (sound whole List.mem_cons_self).kind_rawTexts same text (by simp [TokenKind.rawTexts])
  | .quotedName text, _, _, _ => Identifier.sealed_quoted text
  | .constant value prepared, _, parameters, _ =>
      TokenKind.sealed_constant mode whole value prepared parameters
  | .dollarString body tag, same, _, sound => by
      have own := (sound whole List.mem_cons_self).2
      rw [same] at own
      exact own
  | .array items, _, parameters, sound => by
      have inner := sealed_writeTokens mode items parameters
        fun token member => sound token (List.mem_cons_of_mem _ member)
      have opening : Sealed "ARRAY[" := by decide
      have opened := opening.append (sealed_commaSeparated inner)
        (separate_of_settled (by decide) _)
      exact opened.append_break (by decide) (by decide)
  | .list items, _, parameters, sound => by
      have inner := sealed_writeTokens mode items parameters
        fun token member => sound token (List.mem_cons_of_mem _ member)
      exact (sealed_commaSeparated inner).parenthesised
  | .call function argument, same, parameters, sound => by
      have named := (sound whole List.mem_cons_self).kind_rawTexts same function
        (by simp [TokenKind.rawTexts])
      have inner := Token.sealed_write mode argument parameters
        fun token member => sound token (List.mem_cons_of_mem _ member)
      simp only [TokenKind.write, Writing.bind_apply, Writing.pure_apply]
      split
      next isList => exact named.append_break inner (argument.breaks_list isList mode parameters)
      next =>
        have parts (text : String) :
            function ++ "(" ++ text ++ ")" = function ++ ("(" ++ text ++ ")") := by
          simp only [String.append_assoc]
        rw [parts]
        exact named.append_break inner.parenthesised (breaks_parenthesised _)
  | .emptyCall function, same, _, sound => by
      have named := (sound whole List.mem_cons_self).kind_rawTexts same function
        (by simp [TokenKind.rawTexts])
      exact named.append_break (by decide) (by decide)
  | .operator symbol, same, _, sound =>
      (sound whole List.mem_cons_self).kind_rawTexts same symbol (by simp [TokenKind.rawTexts])
  | .applied symbol operand, same, parameters, sound => by
      have itself := sound whole List.mem_cons_self
      have first := itself.kind_rawTexts same symbol (by simp [TokenKind.rawTexts])
      have inner := Token.sealed_write mode operand parameters
        fun token member => sound token (List.mem_cons_of_mem _ member)
      have apart := itself.2
      rw [same] at apart
      exact first.append inner (apart parameters)
  | .subQuery tree, _, parameters, sound => by
      have inner := Tree.sealed_write mode tree parameters
        fun token member => sound token (List.mem_cons_of_mem _ member)
      exact (sealed_treeText inner).parenthesised
  | .statement tree, _, parameters, sound => by
      have inner := Tree.sealed_write mode tree parameters
        fun token member => sound token (List.mem_cons_of_mem _ member)
      exact sealed_treeText inner
  | .values rows, _, parameters, sound => by
      have inner := sealed_writeRows mode rows parameters
        fun token member => sound token (List.mem_cons_of_mem _ member)
      have keyword : Sealed "VALUES" := by decide
      have listed := keyword.append_break (sealed_commaSeparated inner)
        (breaks_commaSeparated (breaks_writeRows mode rows parameters))
      have opened (text : String) :
          "(" ++ ("VALUES" ++ text) ++ ")" = "(VALUES" ++ text ++ ")" := by
        rw [← String.append_assoc]
        rfl
      simp only [TokenKind.write, Writing.bind_apply, Writing.pure_apply]
      rw [← opened]
      exact listed.parenthesised

private theorem sealed_writeTokens (mode : Mode) : ∀ (items : List Token) (parameters : Parameters),
    (∀ inner ∈ tokensTraversal items, inner.Sound mode) →
    ∀ text ∈ (writeTokens mode items parameters).1, Sealed text
  | [], _, _, _, member => absurd member List.not_mem_nil
  | token :: rest, parameters, sound, text, member => by
      have first := Token.sealed_write mode token parameters
        fun inner member => sound inner (List.mem_append_left _ member)
      have others := sealed_writeTokens mode rest (token.write mode parameters).2
        fun inner member => sound inner (List.mem_append_right _ member)
      rcases List.mem_cons.mp member with rfl | inRest
      · exact first
      · exact others text inRest

private theorem sealed_writeRows (mode : Mode) :
    ∀ (rows : List (List Token)) (parameters : Parameters),
    (∀ inner ∈ rowsTraversal rows, inner.Sound mode) →
    ∀ text ∈ (writeRows mode rows parameters).1, Sealed text
  | [], _, _, _, member => absurd member List.not_mem_nil
  | row :: rest, parameters, sound, text, member => by
      have first := sealed_writeTokens mode row parameters
        fun inner member => sound inner (List.mem_append_left _ member)
      have others := sealed_writeRows mode rest (writeTokens mode row parameters).2
        fun inner member => sound inner (List.mem_append_right _ member)
      rcases List.mem_cons.mp member with rfl | inRest
      · exact (sealed_commaSeparated first).parenthesised
      · exact others text inRest

private theorem Child.sealed_write (mode : Mode) : ∀ (child : Child) (parameters : Parameters),
    (∀ inner ∈ child.traversal, inner.Sound mode) →
    Sealed (child.write mode parameters).1.text
  | .leaf token, parameters, sound => Token.sealed_write mode token parameters sound
  | .node kind children, parameters, sound =>
      kind.sealed_compose (sealed_writeChildren mode children parameters sound)

private theorem sealed_writeChildren (mode : Mode) :
    ∀ (children : List Child) (parameters : Parameters),
    (∀ inner ∈ childrenTraversal children, inner.Sound mode) →
    ∀ fragment ∈ (writeChildren mode children parameters).1, Sealed fragment.text
  | [], _, _, _, member => absurd member List.not_mem_nil
  | child :: rest, parameters, sound, fragment, member => by
      have first := Child.sealed_write mode child parameters
        fun inner member => sound inner (List.mem_append_left _ member)
      have others := sealed_writeChildren mode rest (child.write mode parameters).2
        fun inner member => sound inner (List.mem_append_right _ member)
      rcases List.mem_cons.mp member with rfl | inRest
      · exact first
      · exact others fragment inRest

private theorem Tree.sealed_write (mode : Mode) : ∀ (tree : Tree) (parameters : Parameters),
    (∀ inner ∈ tree.traversal, inner.Sound mode) →
    ∀ fragment ∈ (tree.write mode parameters).1, Sealed fragment.text
  | .here children, parameters, sound => sealed_writeChildren mode children parameters sound
  | .inside before kind rest, parameters, sound => by
      have first := sealed_writeChildren mode before parameters
        fun inner member => sound inner (List.mem_append_left _ member)
      have others := Tree.sealed_write mode rest (writeChildren mode before parameters).2
        fun inner member => sound inner (List.mem_append_right _ member)
      intro fragment member
      simp only [Tree.write, Writing.bind_apply, Writing.pure_apply, List.mem_append,
        List.mem_singleton] at member
      rcases member with inBefore | rfl
      · exact first fragment inBefore
      · exact kind.sealed_compose others

end

/-! ### Calls -/

/-- What a call writes between its parentheses: its argument, or the items of a list. -/
def Token.inside (mode : Mode) (parameters : Parameters) (argument : Token) : String :=
  match argument.kind with
  | .list items => commaSeparated (writeTokens mode items parameters).1
  | _ => (argument.write mode parameters).1

/-- What a call writes of its argument behind its parentheses: the cast and the alias of a
list. -/
def Token.outside (argument : Token) : String :=
  if argument.kind.isList then suffix argument.castType argument.outputName else ""

private theorem suffix_eq_empty_iff (castType : Option String) (outputName : Option Alias) :
    suffix castType outputName = "" ↔ castType = none ∧ outputName = none := by
  cases castType <;> cases outputName <;>
    simp [suffix, ← String.toList_inj, String.toList_append]

/-- Nothing stands behind the closing parenthesis of a call unless the argument is a list
with a cast or an alias of its own. -/
theorem Token.outside_eq_empty_iff (argument : Token) :
    argument.outside = "" ↔
      (argument.kind.isList = true →
        argument.castType = none ∧ argument.outputName = none) := by
  rw [outside]
  split
  next isList => simp [suffix_eq_empty_iff, isList]
  next other => simp [other]

/-- An argument is its inside; a list brings the parentheses and leaves its cast and its
alias behind them. -/
theorem Token.write_inside (mode : Mode) (parameters : Parameters) (argument : Token) :
    (argument.write mode parameters).1 =
      if argument.kind.isList then
        "(" ++ argument.inside mode parameters ++ ")" ++ argument.outside
      else argument.inside mode parameters := by
  obtain ⟨kind, castType, outputName⟩ := argument
  cases kind with
  | list items => rfl
  | _ => rfl

private theorem Token.sealed_inside (mode : Mode) (parameters : Parameters) (argument : Token)
    (sound : ∀ inner ∈ argument.traversal, inner.Sound mode) :
    Sealed (argument.inside mode parameters) := by
  obtain ⟨kind, castType, outputName⟩ := argument
  cases kind with
  | list items =>
      exact sealed_commaSeparated (sealed_writeTokens mode items parameters
        fun token member => sound token (List.mem_cons_of_mem _ member))
  | _ => exact Token.sealed_write mode _ parameters sound

/-- The argument of a call stands between the parentheses of the call, which match each other
exactly if it is balanced, with its own cast and alias unless it is a list.  The parentheses of
a list are those of the call, and its cast and its alias stand behind them, in front of those
of the call. -/
theorem Token.encloses_argument (mode : Mode) (function : String) (argument : Token)
    (castType : Option String) (outputName : Option Alias) (parameters : Parameters) :
    let whole : Token := ⟨.call function argument, castType, outputName⟩
    let written := argument.write mode parameters
    let body := argument.inside mode parameters
    let behind := argument.outside ++ suffix castType outputName
    whole.write mode parameters = (function ++ ("(" ++ body ++ ")" ++ behind), written.2) ∧
      (enclosed? ("(" ++ body ++ ")" ++ behind) = some (body, behind) ↔ Balanced body) ∧
      ((∀ inner ∈ argument.traversal, inner.Sound mode) → Balanced body) ∧
      written.1 =
        (if argument.kind.isList then "(" ++ body ++ ")" ++ argument.outside else body) ∧
      (argument.outside = "" ↔
        (argument.kind.isList = true →
          argument.castType = none ∧ argument.outputName = none)) := by
  intro whole written body behind
  have reading := argument.write_inside mode parameters
  refine ⟨?_, enclosed?_parenthesised_iff body behind, ?_, reading,
    argument.outside_eq_empty_iff⟩
  · simp only [whole, behind, body, Token.write, TokenKind.write, Writing.bind_apply,
      Writing.pure_apply, reading, Token.outside]
    split <;> simp [written, String.append_assoc]
  · intro sound
    exact (argument.sealed_inside mode parameters sound).balanced

/-- A parenthesis in quotes does not close that of the call. -/
theorem Token.encloses_argument_quoted :
    let argument := (Token.number (.text ")")).cast "text"
    (∀ inner ∈ argument.traversal, inner.Sound .literal) ∧
      Balanced (argument.inside .literal .empty) ∧
      argument.inside .literal .empty = "')'::text" := by
  intro argument
  have sound : ∀ inner ∈ argument.traversal, inner.Sound .literal := by
    intro inner member
    obtain rfl := List.mem_singleton.mp member
    exact ⟨by decide, trivial⟩
  have inside :=
    (encloses_argument .literal "length" argument (some "int") none .empty).2.2.1 sound
  exact ⟨sound, inside, by decide⟩

/-- The cast of a list, which a call of one argument is made with, applies to the call. -/
theorem Token.encloses_argument_cast_list :
    let argument := (Token.list [.name "a", .name "b"]).cast "pair"
    argument.text = "(a, b)::pair" ∧
      (Token.call "row_to_json" argument).text = "row_to_json(a, b)::pair" ∧
      enclosed? "(a, b)::pair" = some ("a, b", "::pair") := by
  decide

end ClauseTree
