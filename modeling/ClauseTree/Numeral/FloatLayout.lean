import ClauseTree.Numeral.Shortest

/-!
# Float texts

How the digits of a finite float are laid out: positionally in a range of
magnitudes, always with a digit after the point, and otherwise with one digit
before the point and an exponent.
-/

namespace ClauseTree.Numeral

/-- The decisions of one output format. -/
structure FloatLayout where
  /-- Leading digits at this power of ten and above are written positionally. -/
  plainFrom : Int
  /-- Leading digits below this power of ten are written positionally. -/
  plainBelow : Int
  /-- Whether a positive exponent carries a plus sign. -/
  exponentPlus : Bool
  /-- Which of two equally near shortest decimals is written. -/
  tie : Tie
deriving DecidableEq, Repr

namespace FloatLayout

/-- As many zeros. -/
def zeros (count : Nat) : String :=
  String.ofList (List.replicate count '0')

/-- Digits with a point behind the first `places` of them, padded with zeros so
that a digit stands on either side of it. -/
def plain (digits : String) (places : Int) : String :=
  let count : Int := digits.length
  if places ≤ 0 then "0." ++ zeros (-places).toNat ++ digits
  else if count ≤ places then digits ++ zeros (places - count).toNat ++ ".0"
  else
    String.ofList (digits.toList.take places.toNat) ++ "." ++
      String.ofList (digits.toList.drop places.toNat)

/-- One digit before the point, none or more behind it, and an exponent. -/
def scientific (layout : FloatLayout) (digits : String) (exponent : Int) : String :=
  let lead := String.ofList (digits.toList.take 1)
  let rest := String.ofList (digits.toList.drop 1)
  let fraction := if rest.isEmpty then "" else "." ++ rest
  let sign := if layout.exponentPlus ∧ 0 ≤ exponent then "+" else ""
  lead ++ fraction ++ "e" ++ sign ++ toString exponent

/-- A positive decimal in the layout. -/
def write (layout : FloatLayout) (d : Decimals) : String :=
  let digits := toString d.digits
  let leading : Int := d.exponent + digits.length - 1
  if layout.plainFrom ≤ leading ∧ leading < layout.plainBelow
  then plain digits (leading + 1)
  else layout.scientific digits leading

/-- The text of a finite word: its sign, then its shortest decimal.  Both
zeros keep their sign. -/
def text (layout : FloatLayout) (x : Binary64) : String :=
  let sign := if x.isNegative then "-" else ""
  if x.magnitude = 0 then sign ++ "0.0"
  else sign ++ layout.write (shortest binary64 layout.tie x.magnitude)

end FloatLayout

namespace Binary64

/-- The binary64 word of a binary32 word, read through its shortest decimal, so
that a value written with few digits keeps them.  Every NaN becomes the quiet
one without a sign. -/
def ofBinary32 (word : UInt32) : Binary64 :=
  let negative : Bool := binary32.signWeight ≤ word.toNat
  let magnitude := word.toNat % binary32.signWeight
  if binary32.infinity < magnitude then ⟨0x7ff8000000000000⟩
  else if magnitude = binary32.infinity then ofMagnitude negative binary64.infinity
  else if magnitude = 0 then ofMagnitude negative 0
  else
    let d := shortest binary32 .upward magnitude
    ofMagnitude negative (binary64.nearestDecimal d.digits d.exponent)

end Binary64

end ClauseTree.Numeral
