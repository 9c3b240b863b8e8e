import ClauseTree.Text.Quoted

/-!
# Dotted identifiers

A dotted identifier is a sequence of parts.  A part that opens with a double
quote runs to its closing quote, may hold dots, and writes an inner quote
twice; any other part runs to the next dot.  Text between a closing quote and
the next dot still belongs to its part.  Nothing is refused: a quoted part
without a closing quote runs to the end of the text.
-/

namespace ClauseTree.Identifier

/-- One part of a dotted identifier, with quotes and doubling removed. -/
inductive Part where
  | bare (text : String)
  | quoted (text : String)
deriving DecidableEq, Repr

/-- The text of a part, however it was written. -/
def Part.text : Part → String
  | .bare text => text
  | .quoted text => text

/-- The text before the next dot, and what follows that dot. -/
def untilDot : List Char → List Char × List Char
  | [] => ([], [])
  | c :: rest =>
      if c = '.' then ([], rest)
      else ((c :: (untilDot rest).1), (untilDot rest).2)

/-- After an opening quote: the decoded text before the closing quote, and what
follows that quote. -/
def untilQuote : List Char → List Char × List Char
  | [] => ([], [])
  | '"' :: '"' :: rest => ('"' :: (untilQuote rest).1, (untilQuote rest).2)
  | c :: rest =>
      if c = '"' then ([], rest)
      else (c :: (untilQuote rest).1, (untilQuote rest).2)

/-- The first part of a text, and what follows the dot after it. -/
def firstPart : List Char → Part × List Char
  | '"' :: rest =>
      let (name, after) := untilQuote rest
      let (tail, more) := untilDot after
      (.quoted (String.ofList (name ++ tail)), more)
  | text =>
      let (name, more) := untilDot text
      (.bare (String.ofList name), more)

private theorem untilDot_length (text : List Char) :
    (untilDot text).2.length ≤ text.length - 1 := by
  induction text with
  | nil => simp [untilDot]
  | cons c rest ih =>
      rw [untilDot]
      split
      · simp
      · simp only [List.length_cons]
        omega

private theorem untilQuote_length (text : List Char) :
    (untilQuote text).2.length ≤ text.length := by
  fun_induction untilQuote text with
  | case1 => simp
  | case2 rest ih => simp only [List.length_cons]; omega
  | case3 rest => simp
  | case4 c rest _ _ ih => simp only [List.length_cons]; omega

/-- Taking a part uses up at least one character, if there is one. -/
theorem firstPart_length (text : List Char) :
    (firstPart text).2.length ≤ text.length - 1 := by
  unfold firstPart
  split
  · rename_i rest
    have closing := untilQuote_length rest
    have dot := untilDot_length (untilQuote rest).2
    simp only [List.length_cons]
    omega
  · exact untilDot_length _

/-- The parts of a text up to the last character. -/
def partsFrom (text : List Char) : List Part :=
  if (firstPart text).2 = [] then [(firstPart text).1]
  else (firstPart text).1 :: partsFrom (firstPart text).2
termination_by text.length
decreasing_by
  rename_i more
  have shorter := firstPart_length text
  have nonempty := List.length_pos_iff.2 more
  omega

/-- The parts of a dotted identifier.  A text that ends in a dot has an empty
part behind that dot. -/
def parts (text : String) : List Part :=
  partsFrom text.toList ++
    if text.toList.getLast? = some '.' then [.bare ""] else []

/-- A dotted identifier with every part in double quotes. -/
def quoted (text : String) : String :=
  ".".intercalate ((parts text).map fun part => Text.quotedName part.text)

end ClauseTree.Identifier
