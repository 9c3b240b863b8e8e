import ClauseTree.Json.Basic
import ClauseTree.Numeral.FloatLayout
import ClauseTree.Text.Hex

/-!
# JSON text

The compact text of a JSON value: no blanks between its parts, and only the
escapes that JSON demands.
-/

namespace ClauseTree.Json

open Numeral

/-- Floats stand positionally from `0.00001` and below `10 ^ 16`; an exponent
carries its sign, and of two equally near decimals the even one is written. -/
def floatLayout : FloatLayout :=
  { plainFrom := -5, plainBelow := 16, exponentPlus := true, tie := .toEven }

/-- A character inside a string: quote, backslash and control characters are
escaped, with a short form where JSON has one. -/
def escapeChar (c : Char) : List Char :=
  match c with
  | '"' => ['\\', '"']
  | '\\' => ['\\', '\\']
  | '\n' => ['\\', 'n']
  | '\r' => ['\\', 'r']
  | '\t' => ['\\', 't']
  | c =>
      if c.toNat = 8 then ['\\', 'b']
      else if c.toNat = 12 then ['\\', 'f']
      else if c.toNat < 32 then ['\\', 'u', '0', '0'] ++ Text.hexByte (UInt8.ofNat c.toNat)
      else [c]

/-- A string in double quotes. -/
def stringText (s : String) : String :=
  String.ofList ('"' :: (s.toList.flatMap escapeChar ++ ['"']))

mutual

/-- The compact text of a value. -/
def text : Json → String
  | .null => "null"
  | .bool true => "true"
  | .bool false => "false"
  | .int n => toString n
  | .float x => floatLayout.text x
  | .string s => stringText s
  | .array items => "[" ++ ",".intercalate (itemTexts items) ++ "]"
  | .object members => "\x7b" ++ ",".intercalate (memberTexts members) ++ "\x7d"

/-- The texts of the items of an array. -/
def itemTexts : List Json → List String
  | [] => []
  | item :: rest => text item :: itemTexts rest

/-- The texts of the members of an object: key, colon, value. -/
def memberTexts : List (String × Json) → List String
  | [] => []
  | (key, value) :: rest => (stringText key ++ ":" ++ text value) :: memberTexts rest

end

end ClauseTree.Json
