import ClauseTree.Value

/-!
# Numbers in SQL text

A number is a run of digits, with or without a fraction and an exponent.  It has no sign:
a minus in front of it is an operator.  Integers, decimals and finite floats are written
as numbers in this sense, with a minus in front of the negative ones.
-/

namespace ClauseTree.Sql

/-! ### The grammar -/

def IsDigits (chars : List Char) : Prop :=
  chars ≠ [] ∧ ∀ c ∈ chars, c.isDigit = true

inductive IsFraction : List Char → Prop
  | none : IsFraction []
  | digits {digits : List Char} (isDigits : IsDigits digits) : IsFraction ('.' :: digits)

inductive IsSign : List Char → Prop
  | none : IsSign []
  | plus : IsSign ['+']
  | minus : IsSign ['-']

inductive IsExponent : List Char → Prop
  | none : IsExponent []
  | digits {sign digits : List Char} (isSign : IsSign sign) (isDigits : IsDigits digits) :
      IsExponent ('e' :: (sign ++ digits))

/-- A number as it stands in SQL text. -/
inductive IsNumber : List Char → Prop
  | parts {whole fraction exponent : List Char} (isDigits : IsDigits whole)
      (isFraction : IsFraction fraction) (isExponent : IsExponent exponent) :
      IsNumber (whole ++ (fraction ++ exponent))

private theorem isDigits_append {left right : List Char} (nonempty : left ++ right ≠ [])
    (first : ∀ c ∈ left, c.isDigit = true) (second : ∀ c ∈ right, c.isDigit = true) :
    IsDigits (left ++ right) := by
  refine ⟨nonempty, fun c member => ?_⟩
  rcases List.mem_append.mp member with inLeft | inRight
  · exact first c inLeft
  · exact second c inRight

/-- Digits with a fraction behind them are a number. -/
theorem IsDigits.isNumber {digits fraction : List Char} (isDigits : IsDigits digits)
    (isFraction : IsFraction fraction) : IsNumber (digits ++ fraction) := by
  simpa using IsNumber.parts isDigits isFraction .none

/-- Digits alone are a number. -/
theorem IsDigits.isNumber_whole {digits : List Char} (isDigits : IsDigits digits) :
    IsNumber digits := by
  simpa using isDigits.isNumber .none

/-- A number starts with a digit. -/
theorem IsNumber.exists_digit {number : List Char} (isNumber : IsNumber number) :
    ∃ c rest, number = c :: rest ∧ c.isDigit = true := by
  cases isNumber with
  | @parts whole fraction exponent isDigits _ _ =>
      obtain ⟨c, more, rfl⟩ := List.exists_cons_of_ne_nil isDigits.1
      exact ⟨c, more ++ (fraction ++ exponent), rfl, isDigits.2 c List.mem_cons_self⟩

/-! ### Reading a number -/

def readFraction : List Char → List Char × List Char
  | [] => ([], [])
  | c :: text =>
      if c = '.' then (c :: text.takeWhile Char.isDigit, text.dropWhile Char.isDigit)
      else ([], c :: text)

def readSign : List Char → List Char × List Char
  | [] => ([], [])
  | c :: text => if c = '+' ∨ c = '-' then ([c], text) else ([], c :: text)

/-- An exponent has digits.  Without them the letter begins a word. -/
def readExponent : List Char → List Char × List Char
  | [] => ([], [])
  | c :: text =>
      let power := readSign text
      if (c = 'e' ∨ c = 'E') ∧ power.2.takeWhile Char.isDigit ≠ [] then
        (c :: (power.1 ++ power.2.takeWhile Char.isDigit), power.2.dropWhile Char.isDigit)
      else ([], c :: text)

/-- The number that a text begins with, and what stands behind it. -/
def readNumber (text : List Char) : List Char × List Char :=
  let fraction := readFraction (text.dropWhile Char.isDigit)
  let exponent := readExponent fraction.2
  (text.takeWhile Char.isDigit ++ (fraction.1 ++ exponent.1), exponent.2)

/-- The text ends here, or it goes on with a colon. -/
inductive AtColon : List Char → Prop
  | nil : AtColon []
  | colon (behind : List Char) : AtColon (':' :: behind)

/-- Digits are read up to the first other character. -/
theorem span_digits {digits rest : List Char} (isDigits : IsDigits digits)
    (stops : ∀ c, rest.head? = some c → c.isDigit = false) :
    (digits ++ rest).takeWhile Char.isDigit = digits ∧
      (digits ++ rest).dropWhile Char.isDigit = rest := by
  rw [List.takeWhile_append_of_pos isDigits.2, List.dropWhile_append_of_pos isDigits.2]
  cases rest with
  | nil => simp
  | cons c more => simp [stops c rfl]

private theorem readSign_append {sign digits rest : List Char} (isSign : IsSign sign)
    (isDigits : IsDigits digits) :
    readSign (sign ++ (digits ++ rest)) = (sign, digits ++ rest) := by
  cases isSign with
  | plus => rfl
  | minus => rfl
  | none =>
      obtain ⟨c, more, rfl⟩ := List.exists_cons_of_ne_nil isDigits.1
      have digit := isDigits.2 c List.mem_cons_self
      have notSign : ¬ (c = '+' ∨ c = '-') := by
        rintro (rfl | rfl) <;> exact absurd digit (by decide)
      simp [readSign, notSign]

/-- The end of a number is not followed by a further digit or a point. -/
theorem AtColon.head {rest : List Char} (atColon : AtColon rest) :
    ∀ c, rest.head? = some c → c.isDigit = false ∧ c ≠ '.' := by
  intro c first
  cases atColon with
  | nil => cases first
  | colon =>
      obtain rfl : ':' = c := by simpa using first
      decide

/-- Behind the digits of a number stands no further digit, and behind its fraction no
point. -/
theorem head_behind_digits {exponent rest : List Char} (isExponent : IsExponent exponent)
    (atColon : AtColon rest) :
    ∀ c, (exponent ++ rest).head? = some c → c.isDigit = false ∧ c ≠ '.' := by
  intro c first
  cases isExponent with
  | digits =>
      obtain rfl : 'e' = c := by simpa using first
      decide
  | none => exact atColon.head c first

private theorem readExponent_append {exponent rest : List Char} (isExponent : IsExponent exponent)
    (atColon : AtColon rest) : readExponent (exponent ++ rest) = (exponent, rest) := by
  cases isExponent with
  | none => cases atColon <;> rfl
  | digits isSign isDigits =>
      obtain ⟨taken, dropped⟩ := span_digits isDigits fun c first =>
        (atColon.head c first).1
      rw [List.cons_append, List.append_assoc]
      simp [readExponent, readSign_append isSign isDigits, taken, dropped, isDigits.1]

private theorem readFraction_append {fraction behind : List Char} (isFraction : IsFraction fraction)
    (stops : ∀ c, behind.head? = some c → c.isDigit = false ∧ c ≠ '.') :
    readFraction (fraction ++ behind) = (fraction, behind) := by
  cases isFraction with
  | digits isDigits =>
      obtain ⟨taken, dropped⟩ := span_digits isDigits fun c first => (stops c first).1
      simp [readFraction, taken, dropped]
  | none =>
      cases behind with
      | nil => rfl
      | cons c rest => simp [readFraction, (stops c rfl).2]

/-- A number is read whole in front of a colon. -/
theorem readNumber_append {number rest : List Char} (isNumber : IsNumber number)
    (atColon : AtColon rest) : readNumber (number ++ rest) = (number, rest) := by
  cases isNumber with
  | @parts whole fraction exponent isDigits isFraction isExponent =>
      have behind := head_behind_digits isExponent atColon
      have stops : ∀ c, (fraction ++ (exponent ++ rest)).head? = some c →
          c.isDigit = false := by
        intro c first
        cases isFraction with
        | none => exact (behind c first).1
        | digits =>
            obtain rfl : '.' = c := by simpa using first
            decide
      obtain ⟨taken, dropped⟩ := span_digits isDigits stops
      simp [readNumber, List.append_assoc, taken, dropped,
        readFraction_append isFraction behind, readExponent_append isExponent atColon]

/-! ### Numbers as they are written -/

/-- The decimal text of a natural number is digits. -/
theorem isDigits_repr (n : Nat) : IsDigits n.repr.toList := by
  rw [Nat.toList_repr]
  exact ⟨Nat.toDigits_ne_nil, fun c member =>
    Nat.isDigit_of_mem_toDigits (by omega) (by omega) member⟩

private theorem isDigits_zero : IsDigits ['0'] := by
  refine ⟨List.cons_ne_nil '0' [], fun c member => ?_⟩
  rw [List.mem_singleton.mp member]
  decide

private theorem isDigit_of_mem_replicate (count : Nat) {c : Char}
    (member : c ∈ List.replicate count '0') : c.isDigit = true := by
  rw [List.eq_of_mem_replicate member]
  decide

private theorem IsDigits.of_subset {digits part : List Char} (isDigits : IsDigits digits)
    (subset : part ⊆ digits) (nonempty : part ≠ []) : IsDigits part :=
  ⟨nonempty, fun c member => isDigits.2 c (subset member)⟩

/-- Digits that are cut in two by a point. -/
theorem IsDigits.isNumber_split {digits : List Char} (isDigits : IsDigits digits) (count : Nat)
    (positive : 0 < count) (inside : count < digits.length) :
    IsNumber (digits.take count ++ '.' :: digits.drop count) := by
  apply IsDigits.isNumber
  · apply isDigits.of_subset (List.take_subset count digits)
    rw [← List.length_pos_iff, List.length_take]
    omega
  · apply IsFraction.digits
    apply isDigits.of_subset (List.drop_subset count digits)
    rw [← List.length_pos_iff, List.length_drop]
    omega

end ClauseTree.Sql

namespace ClauseTree.Numeral

open Sql

/-- An integer is written as digits, with a minus in front if it is negative. -/
theorem toList_toString_int (n : Int) :
    (toString n).toList = (if n < 0 then ['-'] else []) ++ n.natAbs.repr.toList := by
  rw [Int.toString_eq_repr]
  cases n with
  | ofNat n => simp [Int.repr]
  | negSucc n => simp [Int.repr]

namespace FloatLayout

private theorem isNumber_plain {digits : String} (isDigits : IsDigits digits.toList)
    (places : Int) : IsNumber (plain digits places).toList := by
  unfold plain
  dsimp only
  split
  · have chars : ("0." ++ zeros (-places).toNat ++ digits).toList =
        ['0'] ++ '.' :: (List.replicate (-places).toNat '0' ++ digits.toList) := by
      simp [zeros]
    have fraction := isDigits_append (List.append_ne_nil_of_right_ne_nil _ isDigits.1)
      (fun _ => isDigit_of_mem_replicate (-places).toNat) isDigits.2
    rw [chars]
    exact isDigits_zero.isNumber (.digits fraction)
  · split
    · have chars : (digits ++ zeros (places - digits.length).toNat ++ ".0").toList =
          (digits.toList ++ List.replicate (places - digits.length).toNat '0') ++
            '.' :: ['0'] := by
        simp [zeros]
      have whole := isDigits_append (List.append_ne_nil_of_left_ne_nil isDigits.1 _) isDigits.2
        (fun _ => isDigit_of_mem_replicate (places - digits.length).toNat)
      rw [chars]
      exact whole.isNumber (.digits isDigits_zero)
    · have length : digits.toList.length = digits.length := String.length_toList
      have split := isDigits.isNumber_split places.toNat (by omega) (by omega)
      simpa using split

private theorem isExponent_text (plus : Bool) (exponent : Int) :
    IsExponent ('e' :: ((if plus ∧ 0 ≤ exponent then "+" else "").toList ++
      (toString exponent).toList)) := by
  have digits := isDigits_repr exponent.natAbs
  rw [toList_toString_int]
  by_cases negative : exponent < 0
  · have noPlus : ¬ (plus ∧ 0 ≤ exponent) := fun both => absurd both.2 (by omega)
    simpa [noPlus, negative] using IsExponent.digits .minus digits
  · rw [if_neg negative]
    split
    · exact .digits .plus digits
    · exact .digits .none digits

private theorem isNumber_scientific (layout : FloatLayout) {digits : String}
    (isDigits : IsDigits digits.toList) (exponent : Int) :
    IsNumber (layout.scientific digits exponent).toList := by
  obtain ⟨c, rest, chars⟩ := List.exists_cons_of_ne_nil isDigits.1
  have lead : IsDigits [c] :=
    isDigits.of_subset (by simp [chars]) (List.cons_ne_nil c [])
  have fraction : IsFraction (if rest = [] then [] else '.' :: rest) := by
    split
    · exact .none
    next nonempty => exact .digits (isDigits.of_subset (by simp [chars]) nonempty)
  have number := IsNumber.parts lead fraction (isExponent_text layout.exponentPlus exponent)
  have written : (layout.scientific digits exponent).toList =
      [c] ++ ((if rest = [] then [] else '.' :: rest) ++
        'e' :: ((if layout.exponentPlus ∧ 0 ≤ exponent then "+" else "").toList ++
          (toString exponent).toList)) := by
    unfold scientific
    by_cases short : rest = [] <;> simp [chars, short]
  rw [written]
  exact number

/-- A positive decimal is written as a number. -/
theorem isNumber_write (layout : FloatLayout) (d : Decimals) :
    IsNumber (layout.write d).toList := by
  have digits : IsDigits (toString d.digits).toList := isDigits_repr d.digits
  unfold write
  dsimp only
  split
  · exact isNumber_plain digits _
  · exact isNumber_scientific layout digits _

/-- A float is written as a number behind its sign. -/
theorem exists_number_text (layout : FloatLayout) (x : Binary64) :
    ∃ number, IsNumber number ∧
      (layout.text x).toList = (if x.isNegative then ['-'] else []) ++ number := by
  unfold text
  dsimp only
  split
  · exact ⟨['0'] ++ '.' :: ['0'], isDigits_zero.isNumber (.digits isDigits_zero),
      by split <;> simp⟩
  · exact ⟨(layout.write (shortest binary64 layout.tie x.magnitude)).toList,
      layout.isNumber_write _, by split <;> simp⟩

end FloatLayout

/-- A decimal is written as a number behind its sign. -/
theorem Decimal.exists_number_text (x : Decimal) :
    ∃ number, IsNumber number ∧
      x.text.toList = (if x.negative then ['-'] else []) ++ number := by
  let digits := (Nat.repr x.magnitude).toList
  let padded := List.replicate (x.scale + 1 - digits.length) '0' ++ digits
  have isDigits : IsDigits padded :=
    isDigits_append (List.append_ne_nil_of_right_ne_nil _ (isDigits_repr _).1)
      (fun _ => isDigit_of_mem_replicate _) (isDigits_repr _).2
  have longer : x.scale < padded.length := by
    simp only [padded, List.length_append, List.length_replicate]
    omega
  have written : x.text = (if x.negative then "-" else "") ++
      String.ofList (padded.take (padded.length - x.scale)) ++
        (if x.scale = 0 then "" else
          "." ++ String.ofList (padded.drop (padded.length - x.scale))) := rfl
  by_cases whole : x.scale = 0
  · refine ⟨padded, isDigits.isNumber_whole, ?_⟩
    rw [written, if_pos whole, whole]
    split <;> simp
  · refine ⟨_, isDigits.isNumber_split (padded.length - x.scale) (by omega)
      (by omega), ?_⟩
    rw [written, if_neg whole]
    split <;> simp

end ClauseTree.Numeral
