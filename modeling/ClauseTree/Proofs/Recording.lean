import ClauseTree.Statement

/-!
# Statements that are recorded

A statement is recorded call by call, and each call speaks about one of its clauses or
about none.  Which one may depend on the calls before it.

Two laws make the clauses independent.  A call leaves every clause alone that it does
not speak about, and what it makes of its own clause depends on what that clause held,
not on the rest of the statement.  So a clause holds what the calls about it have made
of it, whatever came in between.
-/

namespace ClauseTree

/-- A recorded statement as separate clauses. -/
structure Recorder (State Call Clause : Type) where
  apply : State → Call → State
  /-- The clause that a call is about in a state, if any. -/
  clause? : State → Call → Option Clause
  Content : Clause → Type
  /-- What a state holds of a clause. -/
  content : State → (clause : Clause) → Content clause
  /-- A call leaves the clauses that it is not about. -/
  frame : ∀ (state : State) (call : Call) (clause : Clause),
    clause? state call ≠ some clause → content (apply state call) clause = content state clause
  /-- Of the clause that it is about, a call makes the same in any two states that hold
  the same of it. -/
  effect : ∀ (state other : State) (call : Call) (clause : Clause),
    clause? state call = some clause → clause? other call = some clause →
    content state clause = content other clause →
    content (apply state call) clause = content (apply other call) clause

namespace Recorder

variable {State Call Clause : Type}

/-- A recorder of calls that are about the same clause in every state. -/
def ofClause (apply : State → Call → State) (clause : Call → Clause) (Content : Clause → Type)
    (content : State → (clause : Clause) → Content clause)
    (frame : ∀ (state : State) (call : Call) (other : Clause), clause call ≠ other →
      content (apply state call) other = content state other)
    (effect : ∀ (state other : State) (call : Call),
      content state (clause call) = content other (clause call) →
      content (apply state call) (clause call) = content (apply other call) (clause call)) :
    Recorder State Call Clause where
  apply := apply
  clause? _ call := some (clause call)
  Content := Content
  content := content
  frame state call other apart :=
    frame state call other fun same => apart (congrArg some same)
  effect state other call _ about _ same := by
    cases about
    exact effect state other call same

variable (recorder : Recorder State Call Clause)

/-- The state after several calls. -/
def run (state : State) (calls : List Call) : State :=
  calls.foldl recorder.apply state

/-- The calls about a clause, each judged in the state in which it is made. -/
def addressed [DecidableEq Clause] (clause : Clause) : State → List Call → List Call
  | _, [] => []
  | state, call :: rest =>
      if recorder.clause? state call = some clause then
        call :: addressed clause (recorder.apply state call) rest
      else addressed clause (recorder.apply state call) rest

variable [DecidableEq Clause]

private theorem addressed_cons_of_eq {state : State} {call : Call} {clause : Clause}
    (about : recorder.clause? state call = some clause) (rest : List Call) :
    recorder.addressed clause state (call :: rest) =
      call :: recorder.addressed clause (recorder.apply state call) rest :=
  if_pos about

private theorem addressed_cons_of_ne {state : State} {call : Call} {clause : Clause}
    (other : recorder.clause? state call ≠ some clause) (rest : List Call) :
    recorder.addressed clause state (call :: rest) =
      recorder.addressed clause (recorder.apply state call) rest :=
  if_neg other

/-- Calls about other clauses leave a clause as it is. -/
theorem content_run_of_unaddressed {clause : Clause} (state : State) (calls : List Call)
    (unaddressed : recorder.addressed clause state calls = []) :
    recorder.content (recorder.run state calls) clause = recorder.content state clause := by
  induction calls generalizing state with
  | nil => rfl
  | cons call rest ih =>
      by_cases about : recorder.clause? state call = some clause
      · rw [recorder.addressed_cons_of_eq about] at unaddressed
        cases unaddressed
      · rw [recorder.addressed_cons_of_ne about] at unaddressed
        have others := ih (recorder.apply state call) unaddressed
        exact others.trans (recorder.frame state call clause about)

/-- Two runs with the same calls about a clause make the same of it. -/
theorem content_run_eq {clause : Clause} (state other : State) (first second : List Call)
    (same : recorder.content state clause = recorder.content other clause)
    (agree : recorder.addressed clause state first = recorder.addressed clause other second) :
    recorder.content (recorder.run state first) clause =
      recorder.content (recorder.run other second) clause := by
  induction first generalizing state other second with
  | nil =>
      have unchanged := recorder.content_run_of_unaddressed other second agree.symm
      exact same.trans unchanged.symm
  | cons call rest ih =>
      by_cases about : recorder.clause? state call = some clause
      · rw [recorder.addressed_cons_of_eq about] at agree
        -- The second run must come to the same call; what it meets before is a frame.
        induction second generalizing other with
        | nil => cases agree
        | cons met later meets =>
            by_cases meetsIt : recorder.clause? other met = some clause
            · rw [recorder.addressed_cons_of_eq meetsIt] at agree
              obtain ⟨rfl, agree⟩ := List.cons.inj agree
              have after := recorder.effect state other call clause about meetsIt same
              exact ih _ _ later after agree
            · rw [recorder.addressed_cons_of_ne meetsIt] at agree
              have kept := recorder.frame other met clause meetsIt
              exact meets _ (same.trans kept.symm) agree
      · rw [recorder.addressed_cons_of_ne about] at agree
        have kept := recorder.frame state call clause about
        exact ih _ other second (kept.trans same) agree

/-- The clauses of a history are those of any other with the same calls about each. -/
theorem contents_run_eq (state : State) {first second : List Call}
    (agree : ∀ clause, recorder.addressed clause state first =
      recorder.addressed clause state second) (clause : Clause) :
    recorder.content (recorder.run state first) clause =
      recorder.content (recorder.run state second) clause :=
  recorder.content_run_eq state state first second rfl (agree clause)

/-- A call that is about one clause in every state is found among the calls about it. -/
theorem mem_addressed_iff {call : Call} {clause : Clause}
    (about : ∀ state, recorder.clause? state call = some clause) (state : State)
    (calls : List Call) : call ∈ recorder.addressed clause state calls ↔ call ∈ calls := by
  induction calls generalizing state with
  | nil => exact Iff.rfl
  | cons first rest ih =>
      by_cases hits : recorder.clause? state first = some clause
      · rw [recorder.addressed_cons_of_eq hits, List.mem_cons, List.mem_cons, ih]
      · rw [recorder.addressed_cons_of_ne hits, List.mem_cons, ih]
        constructor
        · intro later
          exact .inr later
        · rintro (rfl | later)
          · exact absurd (about state) hits
          · exact later

/-- Histories with the same calls about each clause are written alike. -/
def OrderFree (statement : State → Statement) : Prop :=
  ∀ (start : State) (first second : List Call),
    (∀ clause, recorder.addressed clause start first =
      recorder.addressed clause start second) →
    (statement (recorder.run start first)).sql = (statement (recorder.run start second)).sql ∧
      ∀ style, (statement (recorder.run start first)).prepared style =
        (statement (recorder.run start second)).prepared style

end Recorder

end ClauseTree
