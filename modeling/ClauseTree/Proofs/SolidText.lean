import ClauseTree.Parameters
import ClauseTree.Proofs.NumberGrammar
import ClauseTree.Proofs.Trimming

/-!
# Solid texts

A solid text is not empty and has no blank at either end, so trimming never
touches it and it is never skipped as empty.  What stands in the place of a
bound constant is solid in either mode: every placeholder is, and so is the
literal of every value, whatever the texts inside the values hold.  A value is
written either in quotes or with the characters of numbers.
-/

namespace ClauseTree

namespace Text

/-- No character of the text is blank. -/
def Unbroken (text : String) : Prop :=
  ∀ c ∈ text.toList, isBlank c = false

instance (text : String) : Decidable (Unbroken text) :=
  List.decidableBAll (fun c => isBlank c = false) text.toList

/-- The text is not empty, and neither its first nor its last character is
blank. -/
structure Solid (text : String) : Prop where
  nonempty : text.toList ≠ []
  head : ∀ c, text.toList.head? = some c → isBlank c = false
  last : ∀ c, text.toList.getLast? = some c → isBlank c = false

/-- The characters that numbers are written with. -/
def isNumeric (c : Char) : Bool :=
  c.isDigit || ['-', '+', '.', 'e'].contains c

/-- Every character of the text may stand in a number. -/
def Numeric (text : String) : Prop :=
  ∀ c ∈ text.toList, isNumeric c = true

instance (text : String) : Decidable (Numeric text) :=
  List.decidableBAll (fun c => isNumeric c = true) text.toList

/-- A text that is written with the characters of numbers, and with at least one
of them. -/
structure Numeral (text : String) : Prop where
  numeric : Numeric text
  nonempty : text.toList ≠ []

/-! ### Numeric texts -/

private theorem isNumeric_of_mem_digits {digits : List Char} (isDigits : Sql.IsDigits digits)
    {c : Char} (member : c ∈ digits) : isNumeric c = true := by
  have digit := isDigits.2 c member
  simp [isNumeric, digit]

private theorem isNumeric_of_mem_number {number : List Char} (isNumber : Sql.IsNumber number)
    {c : Char} (member : c ∈ number) : isNumeric c = true := by
  cases isNumber with
  | parts isDigits isFraction isExponent =>
      rw [List.mem_append, List.mem_append] at member
      rcases member with inWhole | inFraction | inExponent
      · exact isNumeric_of_mem_digits isDigits inWhole
      · cases isFraction with
        | none => cases inFraction
        | digits isDigits =>
            rcases List.mem_cons.mp inFraction with rfl | inDigits
            · decide
            · exact isNumeric_of_mem_digits isDigits inDigits
      · cases isExponent with
        | none => cases inExponent
        | digits isSign isDigits =>
            rw [List.mem_cons, List.mem_append] at inExponent
            rcases inExponent with rfl | inSign | inDigits
            · decide
            · cases isSign <;> simp_all [isNumeric]
            · exact isNumeric_of_mem_digits isDigits inDigits

/-- A number behind the sign in front of it, or behind nothing. -/
theorem numeral_of_isNumber {text : String} {number : List Char} {negative : Prop}
    [Decidable negative] (isNumber : Sql.IsNumber number)
    (chars : text.toList = (if negative then ['-'] else []) ++ number) : Numeral text where
  numeric := by
    intro c member
    rw [chars, List.mem_append] at member
    rcases member with inSign | inNumber
    · split at inSign
      · rw [List.mem_singleton.mp inSign]
        decide
      · cases inSign
    · exact isNumeric_of_mem_number isNumber inNumber
  nonempty := by
    obtain ⟨c, rest, rfl, -⟩ := isNumber.exists_digit
    rw [chars]
    exact List.append_ne_nil_of_right_ne_nil _ (List.cons_ne_nil c rest)

private theorem numeral_repr (n : Nat) : Numeral n.repr where
  numeric _ member := isNumeric_of_mem_digits (Sql.isDigits_repr n) member
  nonempty := (Sql.isDigits_repr n).1

/-- The decimal digits of an integer, its sign included, are a numeral. -/
theorem numeral_int (n : Int) : Numeral (toString n) :=
  numeral_of_isNumber (Sql.isDigits_repr n.natAbs).isNumber_whole
    (Numeral.toList_toString_int n)

private theorem isBlank_of_isDigit {c : Char} (digit : c.isDigit = true) : isBlank c = false := by
  have low : 48 ≤ c.toNat := by
    simp only [Char.isDigit, Bool.and_eq_true, decide_eq_true_eq] at digit
    exact digit.1
  have high : c.toNat ≤ 57 := by
    simp only [Char.isDigit, Bool.and_eq_true, decide_eq_true_eq] at digit
    exact digit.2
  simp only [isBlank, blankRanges, List.any_cons, List.any_nil, Bool.or_false,
    Bool.or_eq_false_iff, decide_eq_false_iff_not, Bool.and_eq_false_iff]
  omega

private theorem Numeric.unbroken {text : String} (numeric : Numeric text) : Unbroken text := by
  intro c member
  have kinds := numeric c member
  rw [isNumeric, Bool.or_eq_true, List.contains_iff_mem] at kinds
  rcases kinds with digit | other
  · exact isBlank_of_isDigit digit
  · have clean : ['-', '+', '.', 'e'].all (fun mark => !isBlank mark) = true := by decide
    exact Bool.not_eq_true' _ |>.mp (List.all_eq_true.mp clean c other)

/-! ### Solid texts -/

/-- A text that is not empty and has no blank keeps its ends when trimmed. -/
theorem Unbroken.solid {text : String} (unbroken : Unbroken text)
    (nonempty : text.toList ≠ []) : Solid text where
  nonempty := nonempty
  head c first := unbroken c (List.mem_of_head? first)
  last c final := unbroken c (List.mem_of_getLast? final)

/-- A numeral keeps its ends when trimmed. -/
theorem Numeral.solid {text : String} (numeral : Numeral text) : Solid text :=
  numeral.numeric.unbroken.solid numeral.nonempty

/-- What stands between two characters that are not blank does not matter. -/
theorem solid_of_ends {text : String} {first last : Char} {middle : List Char}
    (textEq : text.toList = first :: (middle ++ [last]))
    (firstSolid : isBlank first = false) (lastSolid : isBlank last = false) :
    Solid text where
  nonempty := by simp [textEq]
  head c isFirst := by
    rw [textEq, List.head?_cons, Option.some.injEq] at isFirst
    rw [← isFirst, firstSolid]
  last c isLast := by
    rw [textEq, ← List.cons_append, List.getLast?_concat, Option.some.injEq] at isLast
    rw [← isLast, lastSolid]

/-- Characters in front that are not blank leave a text solid. -/
theorem Solid.prepend {front text : String} (solid : Solid text)
    (unbroken : Unbroken front) : Solid (front ++ text) where
  nonempty := by
    rw [String.toList_append]
    exact List.append_ne_nil_of_right_ne_nil _ solid.nonempty
  head c isFirst := by
    rw [String.toList_append, List.head?_append, Option.or_eq_some_iff] at isFirst
    rcases isFirst with inFront | ⟨_, inText⟩
    · exact unbroken c (List.mem_of_head? inFront)
    · exact solid.head c inText
  last c isLast := by
    rw [String.toList_append, List.getLast?_append, Option.or_eq_some_iff] at isLast
    rcases isLast with inText | ⟨noLast, _⟩
    · exact solid.last c inText
    · exact absurd (List.getLast?_eq_none_iff.1 noLast) solid.nonempty

/-- A quoted text is solid, even if the text inside the quotes is blank. -/
theorem solid_literal (text : String) : Solid (literal text) :=
  solid_of_ends (String.toList_ofList) (by decide) (by decide)

/-- Trimming stops at a solid text. -/
theorem dropWhile_append_of_solid {text : String} (solid : Solid text)
    (rest : List Char) :
    (text.toList ++ rest).dropWhile isBlank = text.toList ++ rest := by
  obtain ⟨c, more, textEq⟩ := List.exists_cons_of_ne_nil solid.nonempty
  have first := solid.head c (by simp [textEq])
  simp [textEq, first]

end Text

open Text

/-! ### Numerals -/

namespace Numeral

/-- A floating-point number is written as a numeral in both layouts. -/
theorem FloatLayout.numeral_text (layout : FloatLayout) (x : Binary64) :
    Numeral (layout.text x) := by
  obtain ⟨number, isNumber, chars⟩ := layout.exists_number_text x
  exact numeral_of_isNumber isNumber chars

/-- An exact decimal is written as a numeral. -/
theorem Decimal.numeral_text (x : Decimal) : Numeral x.text := by
  obtain ⟨number, isNumber, chars⟩ := x.exists_number_text
  exact numeral_of_isNumber isNumber chars

end Numeral

/-! ### What stands for a bound constant -/

/-- The literal of a constant neither starts nor ends with a blank and is not empty. -/
theorem Value.solid_sql (value : Value) : Solid value.sql := by
  cases value with
  | null => exact Unbroken.solid (by decide) (by decide)
  | bool value => cases value <;> exact Unbroken.solid (by decide) (by decide)
  | int n => exact (numeral_int _).solid
  | float x =>
      change Solid (floatText x)
      unfold floatText
      split
      · exact Unbroken.solid (by decide) (by decide)
      · split
        · split <;> exact Unbroken.solid (by decide) (by decide)
        · exact (floatLayout.numeral_text x).solid
  | decimal x => exact x.numeral_text.solid
  | text s => exact solid_literal s
  | bytes bs =>
      have quoted : (Value.bytes bs).sql.toList =
          '\'' :: ('\\' :: 'x' :: (hex bs).toList ++ ['\'']) := by
        simp [Value.sql]
      exact solid_of_ends quoted (by decide) (by decide)
  | date d => exact solid_literal _
  | time t => exact solid_literal _
  | timestamp t => exact solid_literal _
  | timestampTz t => exact solid_literal _
  | uuid u => exact solid_literal _
  | json j => exact solid_literal _

/-- A placeholder neither starts nor ends with a blank and is not empty. -/
theorem Placeholder.solid_text (style : Placeholder) (position : Nat) :
    Solid (style.text position) := by
  cases style with
  | question =>
      have mark : Unbroken "?" := by decide
      exact mark.solid (by decide)
  | dollar =>
      have sign : Unbroken "$" := by decide
      exact (numeral_repr position).solid.prepend sign

end ClauseTree
