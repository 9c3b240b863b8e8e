/-!
# Quoted texts

Inside quotes the quote character is written twice, so that a reader can tell
it from the closing one.  String literals use the single quote and identifiers
the double quote.  A dollar-quoted text is written verbatim between two copies
of a delimiter.
-/

namespace ClauseTree.Text

/-- Write every occurrence of `quote` twice and everything else once. -/
def doubled (quote : Char) : List Char → List Char
  | [] => []
  | c :: rest =>
      if c = quote then quote :: quote :: doubled quote rest
      else c :: doubled quote rest

/-- A text between two quotes, with the quotes inside it doubled. -/
def enclosed (quote : Char) (text : String) : String :=
  String.ofList (quote :: (doubled quote text.toList ++ [quote]))

/-- A single-quoted string literal. -/
def literal (text : String) : String :=
  enclosed '\'' text

/-- A double-quoted identifier part. -/
def quotedName (text : String) : String :=
  enclosed '"' text

/-- The delimiter on either side of a dollar-quoted text: the tag, or nothing,
between two dollar signs. -/
def dollarDelimiter (tag : Option String) : String :=
  "$" ++ tag.getD "" ++ "$"

/-- A text between two copies of its dollar delimiter. -/
def dollarQuoted (body : String) (tag : Option String) : String :=
  dollarDelimiter tag ++ body ++ dollarDelimiter tag

/-- A text without the quote is written as it is. -/
theorem doubled_of_not_mem {quote : Char} {text : List Char}
    (absent : quote ∉ text) : doubled quote text = text := by
  induction text with
  | nil => rfl
  | cons c rest ih =>
      have hc : c ≠ quote := fun h => absent (by simp [h])
      simp [doubled, hc, ih fun h => absent (by simp [h])]

end ClauseTree.Text
