import ClauseTree.Text.Quoted

/-!
# Dollar-quoted texts

A dollar-quoted text is its body between two copies of a delimiter, and whatever the body
holds is written as it is.  A reader takes the first later copy of the delimiter for the
end.  So the body is read back if it holds no copy and makes none together with the
delimiter behind it.  A delimiter overlaps a copy of itself in a single dollar sign, which
leaves one way to make one: the body ends in the delimiter without its last dollar sign.
-/

namespace ClauseTree.Sql

/-! ### Reading -/

/-- The text in front of the first copy of a delimiter, and the text behind that copy. -/
def splitFirst? (delimiter : List Char) : List Char → Option (List Char × List Char)
  | [] => none
  | c :: rest =>
      if delimiter.isPrefixOf (c :: rest) then
        some ([], (c :: rest).drop delimiter.length)
      else (splitFirst? delimiter rest).map fun found => (c :: found.1, found.2)

/-- A character of an identifier other than a dollar sign. -/
def isTagChar (c : Char) : Bool :=
  c.isAlphanum || c = '_' || 128 ≤ c.toNat

/-- What may stand between the dollar signs of a delimiter: nothing, or an identifier
without a dollar sign. -/
def IsTag (tag : List Char) : Prop :=
  (∀ c ∈ tag, isTagChar c = true) ∧ tag.head?.all (fun c => !c.isDigit) = true

instance (tag : List Char) : Decidable (IsTag tag) :=
  have : Decidable (∀ c ∈ tag, isTagChar c = true) :=
    List.decidableBAll (fun c => isTagChar c = true) tag
  inferInstanceAs (Decidable (_ ∧ _))

/-- The body of the dollar-quoted text that a text begins with, and what follows it.  The
text ends with the first copy of its own opening delimiter. -/
def readDollarQuoted? : List Char → Option (List Char × List Char)
  | '$' :: text =>
      let tag := text.takeWhile isTagChar
      match text.dropWhile isTagChar with
      | '$' :: inner => if IsTag tag then splitFirst? ('$' :: (tag ++ ['$'])) inner else none
      | _ => none
  | _ => none

/-- The body of a dollar-quoted text and the rest of the text behind it. -/
def dollarQuotation? (text : String) : Option (String × String) :=
  (readDollarQuoted? text.toList).map fun found =>
    (String.ofList found.1, String.ofList found.2)

/-! ### The first copy of a delimiter -/

/-- A delimiter begins a body with the delimiter behind it if it begins the body, or if
the two copies share a dollar sign. -/
theorem delimiter_prefix_append_iff {tag body : List Char} (noDollar : '$' ∉ tag)
    (nonempty : body ≠ []) :
    '$' :: (tag ++ ['$']) <+: body ++ '$' :: (tag ++ ['$']) ↔
      '$' :: (tag ++ ['$']) <+: body ∨ body = '$' :: tag := by
  constructor
  · rintro ⟨behind, same⟩
    rcases List.append_eq_append_iff.mp same with ⟨more, bodyEq, -⟩ | ⟨shared, whole, tail⟩
    · exact .inl ⟨more, bodyEq.symm⟩
    · obtain ⟨c, inner, rfl⟩ := List.exists_cons_of_ne_nil nonempty
      cases shared with
      | nil => exact .inl ⟨[], by simpa using whole⟩
      | cons d others =>
          simp only [List.cons_append, List.cons.injEq] at whole tail
          obtain ⟨rfl, rest⟩ := whole
          obtain ⟨rfl, -⟩ := tail
          right
          -- The tag holds no dollar sign, so the shared one is the last of the delimiter.
          rcases List.append_eq_append_iff.mp rest with ⟨more, innerEq, last⟩ | ⟨more, tagEq, last⟩
          · cases more with
            | nil => simpa using innerEq
            | cons _ _ => simp at last
          · cases more with
            | nil => simpa using tagEq.symm
            | cons e _ =>
                simp only [List.cons_append, List.cons.injEq] at last
                obtain ⟨rfl, -⟩ := last
                simp [tagEq] at noDollar
  · rintro (⟨more, rfl⟩ | rfl)
    · exact ⟨more ++ '$' :: (tag ++ ['$']), by simp⟩
    · exact ⟨tag ++ ['$'], by simp⟩

/-- By induction on the body from the front, as the reader goes: a copy that begins at the
first character ends the reading there, and otherwise the rest decides. -/
theorem splitFirst?_append_delimiter {tag : List Char} (noDollar : '$' ∉ tag)
    (body : List Char) :
    splitFirst? ('$' :: (tag ++ ['$'])) (body ++ '$' :: (tag ++ ['$'])) = some (body, []) ↔
      ¬ '$' :: (tag ++ ['$']) <:+: body ∧ ¬ '$' :: tag <:+ body := by
  induction body with
  | nil => simp [splitFirst?]
  | cons c rest ih =>
      have begins := delimiter_prefix_append_iff noDollar (List.cons_ne_nil c rest)
      rw [List.cons_append] at begins
      rw [List.infix_cons_iff, List.suffix_cons_iff, List.cons_append, splitFirst?]
      by_cases copy : '$' :: (tag ++ ['$']) <+: c :: (rest ++ '$' :: (tag ++ ['$']))
      · rw [if_pos (List.isPrefixOf_iff_prefix.mpr copy)]
        rcases begins.mp copy with inBody | overlap
        · simp [inBody]
        · simp [overlap]
      · have notInBody : ¬ '$' :: (tag ++ ['$']) <+: c :: rest := fun inBody =>
          copy (begins.mpr (.inl inBody))
        have noOverlap : '$' :: tag ≠ c :: rest := fun overlap =>
          copy (begins.mpr (.inr overlap.symm))
        rw [if_neg fun isPrefix => copy (List.isPrefixOf_iff_prefix.mp isPrefix)]
        simp only [notInBody, noOverlap, false_or, ← ih, Option.map_eq_some_iff,
          Prod.exists, Prod.mk.injEq, List.cons.injEq, true_and]
        constructor
        · rintro ⟨_, _, found, rfl, rfl⟩
          exact found
        · intro found
          exact ⟨rest, [], found, rfl, rfl⟩

/-! ### Whole texts -/

private theorem IsTag.dollar_not_mem {tag : List Char} (isTag : IsTag tag) : '$' ∉ tag := by
  intro member
  exact absurd (isTag.1 '$' member) (by decide)

/-- The reader finds the delimiter that a text was written with. -/
theorem readDollarQuoted?_delimiter {tag : List Char} (isTag : IsTag tag)
    (inner : List Char) :
    readDollarQuoted? ('$' :: (tag ++ '$' :: inner)) =
      splitFirst? ('$' :: (tag ++ ['$'])) inner := by
  have stops : isTagChar '$' = false := by decide
  have taken : (tag ++ '$' :: inner).takeWhile isTagChar = tag := by
    rw [List.takeWhile_append_of_pos isTag.1]
    simp [stops]
  have dropped : (tag ++ '$' :: inner).dropWhile isTagChar = '$' :: inner := by
    rw [List.dropWhile_append_of_pos isTag.1]
    simp [stops]
  simp only [readDollarQuoted?, taken, dropped, isTag, if_true]

/-- A dollar-quoted text is read back whole, with nothing left behind it, exactly if its
body neither holds the delimiter nor ends in the delimiter without its last dollar sign. -/
theorem dollarQuotation?_dollarQuoted (body : String) (tag : Option String)
    (isTag : IsTag (tag.getD "").toList) :
    dollarQuotation? (Text.dollarQuoted body tag) = some (body, "") ↔
      ¬ (Text.dollarDelimiter tag).toList <:+: body.toList ∧
        ¬ ("$" ++ tag.getD "").toList <:+ body.toList := by
  have delimiter : (Text.dollarDelimiter tag).toList =
      '$' :: ((tag.getD "").toList ++ ['$']) := by
    simp [Text.dollarDelimiter]
  have chars : (Text.dollarQuoted body tag).toList =
      '$' :: ((tag.getD "").toList ++
        '$' :: (body.toList ++ '$' :: ((tag.getD "").toList ++ ['$']))) := by
    simp [Text.dollarQuoted, delimiter]
  have last : ("$" ++ tag.getD "").toList = '$' :: (tag.getD "").toList := by simp
  rw [delimiter, last, ← splitFirst?_append_delimiter isTag.dollar_not_mem, dollarQuotation?,
    chars, readDollarQuoted?_delimiter isTag, Option.map_eq_some_iff]
  constructor
  · rintro ⟨⟨inner, behind⟩, found, same⟩
    simp only [Prod.mk.injEq] at same
    obtain ⟨bodyEq, behindEq⟩ := same
    have behindNil : behind = [] := by simpa using congrArg String.toList behindEq
    subst behindNil
    rw [← bodyEq, String.toList_ofList] at found ⊢
    exact found
  · intro found
    exact ⟨_, found, by simp⟩

/-- Dollar signs inside of a body do no harm, and neither does one at its end where the
delimiter has a tag. -/
theorem dollarQuotation?_tagged_dollars :
    IsTag "fn".toList ∧
      dollarQuotation? (Text.dollarQuoted "$1 || $$ fn$" (some "fn")) =
        some ("$1 || $$ fn$", "") := by
  have isTag : IsTag "fn".toList := by
    simp only [String.reduceToList]
    decide
  have noDelimiter : ¬ (Text.dollarDelimiter (some "fn")).toList <:+: "$1 || $$ fn$".toList := by
    simp only [Text.dollarDelimiter, Option.getD_some, String.toList_append,
      String.reduceToList]
    decide
  have noOverlap : ¬ ("$" ++ (some "fn").getD "").toList <:+ "$1 || $$ fn$".toList := by
    simp only [Option.getD_some, String.toList_append, String.reduceToList]
    decide
  exact ⟨isTag,
    (dollarQuotation?_dollarQuoted "$1 || $$ fn$" (some "fn") isTag).mpr
      ⟨noDelimiter, noOverlap⟩⟩

/-- A body that ends in a dollar sign holds no delimiter without a tag, but that dollar
sign and the first of the delimiter behind it are read as one. -/
theorem dollarQuotation?_ending_dollar :
    ¬ (Text.dollarDelimiter none).toList <:+: "a$".toList ∧
      dollarQuotation? (Text.dollarQuoted "a$" none) = some ("a", "$") := by
  constructor
  · simp only [Text.dollarDelimiter, Option.getD_none, String.toList_append,
      String.reduceToList]
    decide
  · simp only [dollarQuotation?, Text.dollarQuoted, Text.dollarDelimiter, Option.getD_none,
      String.toList_append, String.reduceToList]
    rfl

end ClauseTree.Sql
