import ClauseTree.Arena.Edit

/-!
# What edits keep

Every edit comes down to three changes of an arena: a node is opened, a leaf is appended, or
a node is closed.  What these three keep is kept by every sequence of edits, whatever
closures it runs and wherever it fails.

The one fault that an edit can end in is a close without an open node.
-/

namespace ClauseTree

namespace Arena

/-! ### Invariants -/

/-- A property that the three changes keep, of arenas that always have a node to write
into. -/
structure Invariant (property : Arena → Prop) : Prop where
  top_lt : ∀ {arena}, property arena → arena.top < arena.size
  opening : ∀ {arena}, property arena → ∀ kind, property (arena.opening kind)
  withLeaf : ∀ {arena}, property arena → ∀ token, property (arena.withEntry (.leaf token))
  closing : ∀ {arena}, property arena → 1 < arena.opened.length → property arena.closing

/-- An operation leaves the property as it found it.  It fails only where a node is closed
that was not opened. -/
def Keeps (property : Arena → Prop) {α : Type} (edit : Editing α) : Prop :=
  ∀ arena, property arena →
    ∃ left, property left ∧
      ((∃ a, edit.run arena = .ok a left) ∨
        edit.run arena = .error (.misuse .unbalancedEnd) left)

section

variable {property : Arena → Prop}

/-- An edit that is attempted never fails, and what it did before it failed stays done. -/
theorem run_attempt (edit : Editing Unit) (arena : Arena) :
    (tryCatch edit fun _ => pure ()).run arena =
      match edit.run arena with
      | .ok _ left => .ok () left
      | .error _ left => .ok () left := by
  have caught : (tryCatch edit fun _ => pure ()).run arena =
      EStateM.tryCatch edit (fun _ => pure ()) arena := rfl
  rw [caught, EStateM.run]
  delta EStateM.tryCatch
  cases edit arena <;> rfl

namespace Keeps

/-- Doing nothing keeps every property. -/
theorem pure {α : Type} (a : α) : Keeps property (pure a : Editing α) := by
  intro arena holds
  exact ⟨arena, holds, .inl ⟨a, rfl⟩⟩

/-- Two operations in a row keep what both of them keep. -/
theorem bind {α β : Type} {first : Editing α} {next : α → Editing β}
    (keeps : Keeps property first) (keepsNext : ∀ a, Keeps property (next a)) :
    Keeps property (first >>= next) := by
  intro arena holds
  obtain ⟨between, holdsBetween, ⟨a, ran⟩ | failed⟩ := keeps arena holds
  · obtain ⟨left, holdsLeft, result⟩ := keepsNext a between holdsBetween
    refine ⟨left, holdsLeft, ?_⟩
    rw [EStateM.run_bind, ran]
    exact result
  · refine ⟨between, holdsBetween, .inr ?_⟩
    rw [EStateM.run_bind, failed]

/-- A loop keeps what every round of it keeps. -/
theorem forM {α : Type} {perform : α → Editing Unit}
    (keeps : ∀ element, Keeps property (perform element)) :
    ∀ elements : List α, Keeps property (elements.forM perform)
  | [] => pure ()
  | element :: rest => bind (keeps element) fun _ => forM keeps rest

/-- An attempted operation keeps what the operation keeps, whether it fails or not. -/
theorem attempt {edit : Editing Unit} (keeps : Keeps property edit) :
    Keeps property (tryCatch edit fun _ => Pure.pure ()) := by
  intro arena holds
  obtain ⟨left, holdsLeft, ⟨a, ran⟩ | failed⟩ := keeps arena holds
  · refine ⟨left, holdsLeft, .inl ⟨a, ?_⟩⟩
    rw [run_attempt, ran]
  · refine ⟨left, holdsLeft, .inl ⟨(), ?_⟩⟩
    rw [run_attempt, failed]

end Keeps

namespace Invariant

/-- Opening a node keeps an invariant. -/
theorem keeps_start (invariant : Invariant property) (kind : NodeKind) :
    Keeps property (start kind) := by
  intro arena holds
  exact ⟨_, invariant.opening holds kind, .inl ⟨(), run_start (invariant.top_lt holds) kind⟩⟩

/-- Adding a leaf keeps an invariant. -/
theorem keeps_addLeaf (invariant : Invariant property) (token : Token) :
    Keeps property (addLeaf token) := by
  intro arena holds
  exact ⟨_, invariant.withLeaf holds token,
    .inl ⟨(), run_addLeaf (invariant.top_lt holds) token⟩⟩

/-- Closing keeps an invariant, also when it is refused. -/
theorem keeps_tryClose (invariant : Invariant property) : Keeps property tryClose := by
  intro arena holds
  have ran := run_tryClose arena
  by_cases outermost : arena.opened.length ≤ 1
  · rw [if_pos outermost] at ran
    exact ⟨arena, holds, .inl ⟨_, ran⟩⟩
  · rw [if_neg outermost] at ran
    exact ⟨_, invariant.closing holds (Nat.lt_of_not_le outermost), .inl ⟨_, ran⟩⟩

private theorem keeps_close (invariant : Invariant property) : Keeps property close := by
  intro arena holds
  have ran := run_close arena
  by_cases outermost : arena.opened.length ≤ 1
  · rw [if_pos outermost] at ran
    exact ⟨arena, holds, .inr ran⟩
  · rw [if_neg outermost] at ran
    exact ⟨_, invariant.closing holds (Nat.lt_of_not_le outermost), .inl ⟨(), ran⟩⟩

/-- Steps keep an invariant, wherever they fail. -/
theorem keeps_play (invariant : Invariant property) (steps : List Step) :
    Keeps property (play steps) := by
  refine Keeps.forM (fun step => ?_) steps
  cases step with
  | start kind => exact invariant.keeps_start kind
  | leaf token => exact invariant.keeps_addLeaf token
  | close => exact invariant.keeps_close

private theorem keeps_withNode (invariant : Invariant property) (kind : NodeKind)
    {write : Editing Unit} (keeps : Keeps property write) : Keeps property (withNode kind write) :=
  (invariant.keeps_start kind).bind fun _ => keeps.bind fun _ => invariant.keeps_close

private theorem keeps_call (invariant : Invariant property) (call : Call) :
    Keeps property call.perform := by
  cases call with
  | start kind => exact invariant.keeps_start kind
  | leaf token => exact invariant.keeps_addLeaf token
  | leaves tokens => exact Keeps.forM invariant.keeps_addLeaf tokens
  | close => exact invariant.keeps_tryClose.bind fun _ => .pure ()

mutual

/-- An invariant of the three changes of an arena is kept by every edit, closures and
assembled statements included. -/
theorem keeps_perform (invariant : Invariant property) :
    ∀ edit : Edit, Keeps property edit.perform
  | .call call => invariant.keeps_call call
  | .close => invariant.keeps_close
  | .withNode kind edits => invariant.keeps_withNode kind (keeps_performAll invariant edits)
  | .assemble statement => invariant.keeps_play statement.steps
  | .conditions conditions => invariant.keeps_play conditions.steps
  | .attempt edits => (keeps_performAll invariant edits).attempt

/-- Edits one after the other keep an invariant. -/
theorem keeps_performAll (invariant : Invariant property) :
    ∀ edits : List Edit, Keeps property (performAll edits)
  | [] => .pure ()
  | edit :: rest => (keeps_perform invariant edit).bind fun _ => keeps_performAll invariant rest

end

/-- The step: an invariant that holds before an edit holds in the arena that it leaves. -/
theorem afterEdit (invariant : Invariant property) {arena : Arena} (holds : property arena)
    (edit : Edit) : property (arena.afterEdit edit) := by
  obtain ⟨left, holdsLeft, ⟨a, ran⟩ | failed⟩ := invariant.keeps_perform edit arena holds
  · rw [EStateM.run] at ran
    rw [Arena.afterEdit, ran]
    exact holdsLeft
  · rw [EStateM.run] at failed
    rw [Arena.afterEdit, failed]
    exact holdsLeft

/-- The run: an invariant that holds at first holds after any edits. -/
theorem after (invariant : Invariant property) {arena : Arena} (holds : property arena)
    (edits : List Edit) : property (arena.after edits) := by
  induction edits generalizing arena with
  | nil => exact holds
  | cons edit rest ih => exact ih (invariant.afterEdit holds edit)

end Invariant

end

end Arena

end ClauseTree
