import ClauseTree.Proofs.NumberGrammar
import ClauseTree.Proofs.TreeQuotation

/-!
# What a cast applies to

A cast applies to the operand directly in front of it, and a minus in front of that operand
applies to the result.  So a cast behind a constant covers the constant if its text is one
operand.  It is, with one exception: the literal of a negative number is a minus and a
number, and the cast covers the number alone.
-/

namespace ClauseTree.Sql

/-! ### Operands -/

/-- The texts of operands that stand by themselves. -/
inductive IsPrimary : List Char → Prop
  | keyword {letters : List Char} (nonempty : letters ≠ [])
      (isLetters : letters.all Char.isAlpha = true) : IsPrimary letters
  | quoted (text : List Char) : IsPrimary ('\'' :: (Text.doubled '\'' text ++ ['\'']))
  | number {number : List Char} (isNumber : IsNumber number) : IsPrimary number
  | question : IsPrimary ['?']
  | dollar {digits : List Char} (isDigits : IsDigits digits) : IsPrimary ('$' :: digits)

/-- The rest of a quoted text up to the quote that ends it, and what stands behind. -/
def readQuoted? : List Char → Option (List Char × List Char)
  | [] => none
  | c :: rest =>
      if c = '\'' then
        match rest with
        | '\'' :: more =>
            (readQuoted? more).map fun found => (c :: '\'' :: found.1, found.2)
        | _ => some ([c], rest)
      else (readQuoted? rest).map fun found => (c :: found.1, found.2)

/-- The operand that a text begins with, and what stands behind it. -/
def readPrimary? : List Char → Option (List Char × List Char)
  | [] => none
  | c :: rest =>
      if c.isDigit then some (readNumber (c :: rest))
      else if c.isAlpha then
        some ((c :: rest).takeWhile Char.isAlpha, (c :: rest).dropWhile Char.isAlpha)
      else if c = '$' then
        some (c :: rest.takeWhile Char.isDigit, rest.dropWhile Char.isDigit)
      else if c = '?' then some ([c], rest)
      else if c = '\'' then (readQuoted? rest).map fun found => (c :: found.1, found.2)
      else none

/-- How a text with a cast is read. -/
inductive CastReading where
  /-- The cast applies to an operand; the type and more stand behind it. -/
  | cast (operand behind : List Char)
  /-- A minus applies to what is read behind it. -/
  | minus (reading : CastReading)
deriving DecidableEq, Repr

def readCast? : List Char → Option CastReading
  | [] => none
  | c :: rest =>
      if c = '-' then (readCast? rest).map .minus
      else
        match readPrimary? (c :: rest) with
        | some (operand, ':' :: ':' :: behind) => some (.cast operand behind)
        | _ => none

private theorem readQuoted?_doubled (text : List Char) {rest : List Char} (atColon : AtColon rest) :
    readQuoted? (Text.doubled '\'' text ++ '\'' :: rest) =
      some (Text.doubled '\'' text ++ ['\''], rest) := by
  induction text with
  | nil => cases atColon <;> rfl
  | cons c more ih =>
      by_cases quote : c = '\''
      · simp [Text.doubled, quote, readQuoted?, ih]
      · rw [Text.doubled, if_neg quote, List.cons_append, readQuoted?.eq_def]
        simp [quote, ih]

private theorem isDigit_of_isAlpha {c : Char} (letter : c.isAlpha = true) : c.isDigit = false := by
  delta Char.isAlpha Char.isUpper Char.isLower at letter
  simp only [Char.isDigit, Bool.or_eq_true, Bool.and_eq_true, Bool.and_eq_false_iff,
    decide_eq_true_eq, decide_eq_false_iff_not, UInt32.le_iff_toNat_le, ge_iff_le] at letter ⊢
  have nine : '9'.val.toNat = 57 := rfl
  have upper : 'A'.val.toNat = 65 := rfl
  have lower : 'a'.val.toNat = 97 := rfl
  omega

/-- An operand is read whole in front of a colon. -/
theorem readPrimary?_append {operand rest : List Char} (isPrimary : IsPrimary operand)
    (atColon : AtColon rest) : readPrimary? (operand ++ rest) = some (operand, rest) := by
  cases isPrimary with
  | number isNumber =>
      have read := readNumber_append isNumber atColon
      obtain ⟨c, more, begins, digit⟩ := isNumber.exists_digit
      rw [begins, List.cons_append] at read ⊢
      rw [readPrimary?, if_pos digit, read]
  | keyword nonempty isLetters =>
      have isLetter := List.all_eq_true.mp isLetters
      obtain ⟨c, more, rfl⟩ := List.exists_cons_of_ne_nil nonempty
      have letter := isLetter c List.mem_cons_self
      have taken : (c :: more ++ rest).takeWhile Char.isAlpha = c :: more := by
        rw [List.takeWhile_append_of_pos isLetter]
        cases atColon <;> simp
      have dropped : (c :: more ++ rest).dropWhile Char.isAlpha = rest := by
        rw [List.dropWhile_append_of_pos isLetter]
        cases atColon <;> simp
      rw [List.cons_append] at taken dropped ⊢
      simp [readPrimary?, isDigit_of_isAlpha letter, letter, taken, dropped]
  | dollar isDigits =>
      obtain ⟨taken, dropped⟩ := span_digits isDigits fun c first =>
        (atColon.head c first).1
      simp [readPrimary?, taken, dropped]
  | question => rfl
  | quoted text =>
      rw [List.cons_append, List.append_assoc, List.singleton_append]
      simp [readPrimary?, readQuoted?_doubled text atColon]

/-! ### Literals -/

/-- A literal is an operand, or a minus with a number behind it. -/
inductive LiteralShape : Bool → List Char → Prop
  | operand {text : List Char} (isPrimary : IsPrimary text) : LiteralShape false text
  | signed {number : List Char} (isNumber : IsNumber number) : LiteralShape true ('-' :: number)

/-- What begins with a minus is no primary. -/
theorem not_isPrimary_minus (text : List Char) : ¬ IsPrimary ('-' :: text) := by
  intro isPrimary
  have read := readPrimary?_append isPrimary .nil
  cases read

/-- A literal is a primary exactly when it has no sign. -/
theorem LiteralShape.isPrimary_iff {signed : Bool} {text : List Char}
    (shape : LiteralShape signed text) : IsPrimary text ↔ signed = false := by
  cases shape with
  | operand isPrimary => simp [isPrimary]
  | signed => simp [not_isPrimary_minus]

/-- A cast behind a primary applies to the whole of it. -/
theorem readCast?_operand {operand : List Char} (isPrimary : IsPrimary operand)
    (behind : List Char) :
    readCast? (operand ++ ':' :: ':' :: behind) = some (.cast operand behind) := by
  have read := readPrimary?_append isPrimary (.colon (':' :: behind))
  cases operand with
  | nil => cases read
  | cons c more =>
      have notMinus : c ≠ '-' := by
        rintro rfl
        exact not_isPrimary_minus more isPrimary
      rw [List.cons_append] at read ⊢
      simp [readCast?, notMinus, read]

/-- A cast behind a literal applies to what follows the sign. -/
theorem LiteralShape.readCast? {signed : Bool} {text : List Char}
    (shape : LiteralShape signed text) (behind : List Char) :
    readCast? (text ++ ':' :: ':' :: behind) =
      some (if signed then .minus (.cast text.tail behind) else .cast text behind) := by
  cases shape with
  | operand isPrimary => exact readCast?_operand isPrimary behind
  | signed isNumber =>
      rw [List.cons_append, Sql.readCast?, if_pos rfl,
        readCast?_operand (.number isNumber) behind]
      rfl

private theorem literalShape_number {number : List Char} (isNumber : IsNumber number)
    (negative : Bool) :
    LiteralShape negative ((if negative then ['-'] else []) ++ number) := by
  cases negative with
  | false => exact .operand (.number isNumber)
  | true => exact .signed isNumber

private theorem literalShape_quoted (text : String) :
    LiteralShape false (Text.literal text).toList := by
  rw [Text.literal, Text.enclosed, String.toList_ofList]
  exact .operand (.quoted text.toList)

private theorem literalShape_placeholder (style : Placeholder) (position : Nat) :
    LiteralShape false (style.text position).toList := by
  cases style with
  | question =>
      have chars : (Placeholder.question.text position).toList = ['?'] := by
        simp [Placeholder.text]
      rw [chars]
      exact .operand .question
  | dollar =>
      have chars : (Placeholder.dollar.text position).toList = '$' :: position.repr.toList := by
        simp [Placeholder.text]
      rw [chars]
      exact .operand (.dollar (isDigits_repr position))

end ClauseTree.Sql

namespace ClauseTree

open Sql Numeral

/-- Whether the literal of a value is a number with a minus in front.  The negative zero is
one, of floats and of decimals; the infinities are not. -/
def Value.isSigned : Value → Bool
  | .int n => n.toInt < 0
  | .float x => !x.isNaN && !x.isInfinite && x.isNegative
  | .decimal x => x.negative
  | _ => false

/-- The literal of every value is a keyword, a number behind its sign, or a quoted text. -/
theorem Value.literalShape (value : Value) : LiteralShape value.isSigned value.sql.toList := by
  cases value with
  | null => exact .operand (.keyword (by decide) (by decide))
  | bool b => cases b <;> exact .operand (.keyword (by decide) (by decide))
  | int n =>
      have number := (isDigits_repr n.toInt.natAbs).isNumber_whole
      rw [sql, toList_toString_int]
      simpa [isSigned] using literalShape_number number (n.toInt < 0)
  | float x =>
      obtain ⟨number, isNumber, chars⟩ := floatLayout.exists_number_text x
      rw [sql, floatText, isSigned]
      by_cases nan : x.isNaN = true
      · have quoted : LiteralShape false "'NaN'".toList := literalShape_quoted "NaN"
        simpa [nan] using quoted
      · by_cases infinite : x.isInfinite = true
        · have below : LiteralShape false "'-Infinity'".toList := literalShape_quoted "-Infinity"
          have above : LiteralShape false "'Infinity'".toList := literalShape_quoted "Infinity"
          cases negative : x.isNegative with
          | true => simpa [nan, infinite] using below
          | false => simpa [nan, infinite] using above
        · rw [if_neg nan, if_neg infinite, chars]
          simpa [nan, infinite] using literalShape_number isNumber x.isNegative
  | decimal x =>
      obtain ⟨number, isNumber, chars⟩ := x.exists_number_text
      rw [sql, chars]
      simpa [isSigned] using literalShape_number isNumber x.negative
  | bytes bs =>
      rw [sql_bytes]
      exact literalShape_quoted _
  | text s => exact literalShape_quoted s
  | date d => exact literalShape_quoted d.text
  | time t => exact literalShape_quoted t.text
  | timestamp t => exact literalShape_quoted t.text
  | timestampTz t => exact literalShape_quoted t.zonedText
  | uuid u => exact literalShape_quoted u.text
  | json j => exact literalShape_quoted j.text

/-- Whether a constant becomes a placeholder. -/
def Mode.binds : Mode → Bool → Bool
  | .prepared _, true => true
  | _, _ => false

/-- A constant is written as the literal of its value, or as a placeholder where it is
bound. -/
theorem TokenKind.literalShape_constant (value : Value) (prepared : Bool) (mode : Mode)
    (whole : Token) (parameters : Parameters) :
    LiteralShape (value.isSigned && !mode.binds prepared)
      ((TokenKind.constant value prepared).write mode whole parameters).1.toList := by
  cases mode with
  | literal => simpa [Mode.binds, TokenKind.write] using value.literalShape
  | prepared style =>
      cases prepared with
      | false => simpa [Mode.binds, TokenKind.write] using value.literalShape
      | true =>
          simpa [Mode.binds, TokenKind.write, bindToken] using
            literalShape_placeholder style (parameters.push whole).1

/-- A cast applies to the whole constant in front of it, in either mode, unless the constant
is written out as a negative number.  Then the cast applies to the number without its sign,
and the minus to the result. -/
theorem Token.readCast?_constant (value : Value) (prepared : Bool) (type : String)
    (outputName : Option Alias) (mode : Mode) (parameters : Parameters) :
    let whole : Token := ⟨.constant value prepared, some type, outputName⟩
    let operand := (whole.kind.write mode whole parameters).1.toList
    let behind := type.toList ++ (suffix none outputName).toList
    let signed := value.isSigned && !mode.binds prepared
    (IsPrimary operand ↔ signed = false) ∧
      readCast? (whole.write mode parameters).1.toList =
        some (if signed then .minus (.cast operand.tail behind) else .cast operand behind) := by
  intro whole operand behind signed
  have shape : LiteralShape signed operand :=
    TokenKind.literalShape_constant value prepared mode whole parameters
  have chars : (whole.write mode parameters).1.toList = operand ++ ':' :: ':' :: behind := by
    simp [whole, operand, behind, Token.write, suffix]
  constructor
  · exact shape.isPrimary_iff
  · rw [chars]
    exact shape.readCast? behind

/-- The least integer of sixteen bits is cast as a whole where it is bound.  Where it is
written out, only its absolute value is cast, which does not fit. -/
theorem Token.readCast?_least_int2 :
    ¬ IsPrimary (Value.int (-32768)).sql.toList ∧
      readCast? (((constant (.int (-32768))).cast "int2").write .literal .empty).1.toList =
        some (.minus (.cast "32768".toList "int2".toList)) ∧
      readCast? (((constant (.int (-32768))).cast "int2").write (.prepared .dollar)
          .empty).1.toList =
        some (.cast "$1".toList "int2".toList) := by
  constructor
  · exact not_isPrimary_minus "32768".toList
  · decide

end ClauseTree
