import Mathlib.Data.List.DropRight
import ClauseTree.Text.Blank

/-!
# Trimming

Blanks are dropped at the end of a text and at the end of a template by one
function, `List.rdropWhile`.  What is needed of it beyond the library is how it
acts on a list with a head and on two lists in a row.
-/

namespace ClauseTree

section

variable {α : Type} (p : α → Bool)

/-- Dropping at the end reaches into the first list only when it drops all of the
second one. -/
theorem rdropWhile_append (left right : List α) :
    (left ++ right).rdropWhile p =
      if right.rdropWhile p = [] then left.rdropWhile p else left ++ right.rdropWhile p := by
  simp only [List.rdropWhile, List.reverse_append, List.dropWhile_append, List.isEmpty_iff,
    List.reverse_eq_nil_iff]
  split
  · rfl
  · rw [List.reverse_append, List.reverse_reverse]

/-- The head is dropped only with all that stands behind it. -/
theorem rdropWhile_cons (a : α) (rest : List α) :
    (a :: rest).rdropWhile p =
      if p a = true ∧ rest.rdropWhile p = [] then [] else a :: rest.rdropWhile p := by
  rw [← List.singleton_append, rdropWhile_append, List.rdropWhile_singleton]
  by_cases gone : rest.rdropWhile p = [] <;> simp [gone]

/-- Dropping at the end uncovers nothing to drop at the front. -/
theorem dropWhile_rdropWhile_dropWhile (list : List α) :
    ((list.dropWhile p).rdropWhile p).dropWhile p = (list.dropWhile p).rdropWhile p := by
  induction list with
  | nil => rfl
  | cons a rest ih =>
      rw [List.dropWhile_cons]
      split
      next => exact ih
      next kept =>
        rw [rdropWhile_cons, if_neg fun dropped => kept dropped.1, List.dropWhile_cons,
          if_neg kept]

end

namespace Text

theorem trimEnd_cons (c : Char) (rest : List Char) :
    trimEnd (c :: rest) =
      if isBlank c = true ∧ trimEnd rest = [] then [] else c :: trimEnd rest :=
  rdropWhile_cons isBlank c rest

/-- Trimming the end reaches into the first text only when the second one is blank. -/
theorem trimEnd_append (left right : List Char) :
    trimEnd (left ++ right) =
      if trimEnd right = [] then trimEnd left else left ++ trimEnd right :=
  rdropWhile_append isBlank left right

/-- What is left ends in no blank. -/
theorem trimEnd_getLast {text : List Char} {c : Char}
    (last : (trimEnd text).getLast? = some c) : isBlank c = false := by
  have nonempty : trimEnd text ≠ [] := fun nothing => by simp [nothing] at last
  rw [List.getLast?_eq_some_getLast nonempty, Option.some.injEq] at last
  rw [← last, ← Bool.not_eq_true]
  exact List.rdropWhile_last_not isBlank text nonempty

/-- A text that ends in no blank is kept whole. -/
theorem trimEnd_of_getLast {text : List Char}
    (clean : ∀ c, text.getLast? = some c → isBlank c = false) : trimEnd text = text := by
  refine List.rdropWhile_eq_self_iff.mpr fun nonempty => ?_
  rw [clean _ (List.getLast?_eq_some_getLast nonempty)]
  exact Bool.false_ne_true

/-- Blanks behind a text that does not end in one are dropped, and nothing of
the text. -/
theorem trimEnd_append_of_last {text : List Char}
    (clean : ∀ c, text.getLast? = some c → isBlank c = false) (rest : List Char) :
    trimEnd (text ++ rest) = text ++ trimEnd rest := by
  rw [trimEnd_append]
  split
  next blank => rw [trimEnd_of_getLast clean, blank, List.append_nil]
  next => rfl

/-- What is dropped are blanks. -/
theorem exists_blanks (text : List Char) :
    ∃ blanks, text = trimEnd text ++ blanks ∧ ∀ c ∈ blanks, isBlank c = true :=
  ⟨text.rtakeWhile isBlank, List.rdropWhile_append_rtakeWhile.symm,
    fun _ => List.mem_rtakeWhile_imp⟩

end Text

end ClauseTree
