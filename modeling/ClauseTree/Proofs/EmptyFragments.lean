import ClauseTree.Proofs.Imprint

/-!
# Empty fragments

A leaf without text leaves no trace, and neither does a node without a keyword that holds only
such leaves and nodes.  They may be written anywhere among other edits, also inside the
closures that write a node.

Two runs are compared in lockstep, one with the blank edits and one without.  Each edit finds
alike trees and leaves alike trees, and it fails in both runs or in neither, since no more
nodes are open in one than in the other.
-/

namespace ClauseTree

namespace Arena

/-! ### Edits that leave no trace -/

/-- Whether an edit closes a node, and only that. -/
def Edit.isClose : Edit → Bool
  | .close => true
  | .call .close => true
  | _ => false

/-- Leaves without text, and nodes without a keyword around them. -/
inductive Blank : List Edit → Prop where
  | nil : Blank []
  | append {first second : List Edit} (left : Blank first) (right : Blank second) :
      Blank (first ++ second)
  | leaf {token : Token} (empty : token.text = "") : Blank [.call (.leaf token)]
  | leaves {tokens : List Token} (empty : ∀ token ∈ tokens, token.text = "") :
      Blank [.call (.leaves tokens)]
  /-- A tree by hand becomes one leaf. -/
  | assemble {tree : Tree} (empty : tree.sql = "") : Blank [.assemble (.tree tree)]
  | node {kind : NodeKind} {inner : List Edit} {closing : Edit}
      (bare : kind.layout.keyword = "") (content : Blank inner) (closes : closing.isClose = true) :
      Blank (.call (.start kind) :: (inner ++ [closing]))
  | withNode {kind : NodeKind} {inner : List Edit} (bare : kind.layout.keyword = "")
      (content : Blank inner) : Blank [.withNode kind inner]

mutual

/-- The second edit is the first, with blank edits written among those inside of it. -/
inductive Edit.Padded : Edit → Edit → Prop where
  | same (edit : Edit) : Edit.Padded edit edit
  | withNode {kind : NodeKind} {edits padded : List Edit} (inner : Padded edits padded) :
      Edit.Padded (.withNode kind edits) (.withNode kind padded)
  | attempt {edits padded : List Edit} (inner : Padded edits padded) :
      Edit.Padded (.attempt edits) (.attempt padded)

/-- The second sequence is the first, with blank edits written anywhere. -/
inductive Padded : List Edit → List Edit → Prop where
  | nil : Padded [] []
  | step {edit padding : Edit} {edits padded : List Edit} (first : Edit.Padded edit padding)
      (rest : Padded edits padded) : Padded (edit :: edits) (padding :: padded)
  | insert {added edits padded : List Edit} (blank : Blank added) (rest : Padded edits padded) :
      Padded edits (added ++ padded)

end

theorem Padded.refl (edits : List Edit) : Padded edits edits := by
  induction edits with
  | nil => exact .nil
  | cons edit rest ih => exact .step (.same edit) ih

/-- Blank edits at any one place. -/
theorem Padded.between {added : List Edit} (blank : Blank added) (after before : List Edit) :
    Padded (before ++ after) (before ++ added ++ after) := by
  induction before with
  | nil => exact .insert blank (.refl after)
  | cons edit rest ih => exact .step (.same edit) ih

/-! ### Running blank edits -/

private theorem performAll_append (first second : List Edit) :
    performAll (first ++ second) = (do performAll first; performAll second) := by
  induction first with
  | nil => rw [List.nil_append, performAll, pure_bind]
  | cons edit rest ih => rw [List.cons_append, performAll, ih, performAll, bind_assoc]

private theorem performAll_singleton (edit : Edit) : performAll [edit] = edit.perform := by
  rw [performAll, performAll]
  exact bind_pure_unit

private theorem run_isClose {closing : Edit} (closes : closing.isClose = true) {tree closed : Tree}
    (ran : tree.close = .ok closed) : closing.perform.run tree.arena = .ok () closed.arena := by
  cases closing with
  | close => exact Tree.run_close ran
  | call made =>
      cases made with
      | close =>
          have called := tree.run_call .close
          rw [Tree.call, ran] at called
          exact called
      | _ => cases closes
  | _ => cases closes

/-- Blank edits attach children without a trace, in every tree alike. -/
theorem Blank.run {edits : List Edit} (blank : Blank edits) :
    ∃ children, imprint children = [] ∧ ∀ tree : Tree,
      (performAll edits).run tree.arena = .ok () (tree.attach children).arena := by
  induction blank with
  | nil =>
      refine ⟨[], imprint_nil, fun tree => ?_⟩
      rw [tree.attach_nil]
      rfl
  | append _ _ first second =>
      obtain ⟨children, traceless, ran⟩ := first
      obtain ⟨others, othersTraceless, othersRan⟩ := second
      refine ⟨children ++ others, ?_, fun tree => ?_⟩
      · rw [imprint_append, traceless, othersTraceless, List.append_nil]
      · rw [performAll_append, EStateM.run_bind, ran, ← Tree.attach_attach]
        exact othersRan _
  | leaf empty =>
      refine ⟨_, imprint_leaf empty, fun tree => ?_⟩
      rw [performAll_singleton]
      exact tree.run_addLeaf _
  | leaves empty =>
      refine ⟨_, imprint_leaves empty, fun tree => ?_⟩
      rw [performAll_singleton]
      exact tree.run_addLeaves _
  | @assemble held empty =>
      rw [← Token.text_statement] at empty
      refine ⟨_, imprint_leaf empty, fun tree => ?_⟩
      rw [performAll_singleton]
      exact Tree.run_play ((Writes.leaf (.statement held)).play tree)
  -- Opening, the children and closing together attach one node, and a node that writes no
  -- keyword and no parentheses leaves no more trace than its children.
  | @node kind inner closing bare _ closes content =>
      obtain ⟨children, traceless, ran⟩ := content
      refine ⟨_, imprint_bare bare traceless, fun tree => ?_⟩
      rw [performAll, performAll_append, performAll_singleton, EStateM.run_bind,
        show (Edit.call (.start kind)).perform.run tree.arena = _ from tree.run_start kind]
      dsimp only
      rw [EStateM.run_bind, ran]
      exact run_isClose closes (tree.close_attach_start kind children)
  | @withNode kind inner bare _ content =>
      obtain ⟨children, traceless, ran⟩ := content
      refine ⟨_, imprint_bare bare traceless, fun tree => ?_⟩
      rw [performAll_singleton, Edit.perform, Arena.withNode, EStateM.run_bind, tree.run_start kind]
      dsimp only
      rw [EStateM.run_bind, ran]
      exact Tree.run_close (tree.close_attach_start kind children)

/-! ### Lockstep -/

/-- Two operations end alike. -/
inductive Ends : EStateM.Result Fault Arena Unit → EStateM.Result Fault Arena Unit → Prop where
  | well {left other : Tree} (alike : left.Alike other) :
      Ends (.ok () left.arena) (.ok () other.arena)
  | fault {left other : Tree} (fault : Fault) (alike : left.Alike other) :
      Ends (.error fault left.arena) (.error fault other.arena)

/-- From alike trees on, two operations end alike. -/
def Matches (first second : Editing Unit) : Prop :=
  ∀ tree other : Tree, tree.Alike other → Ends (first.run tree.arena) (second.run other.arena)

namespace Matches

theorem nothing : Matches (pure ()) (pure ()) :=
  fun _ _ alike => .well alike

/-- Matching actions stay matched one behind the other. -/
theorem bind {first second next other : Editing Unit} (matched : Matches first second)
    (matchedNext : Matches next other) :
    Matches (do first; next) (do second; other) := by
  intro tree others alike
  have ends := matched _ _ alike
  rw [EStateM.run_bind, EStateM.run_bind]
  generalize first.run tree.arena = one at ends
  generalize second.run others.arena = two at ends
  cases ends with
  | well left => exact matchedNext _ _ left
  | fault error left => exact .fault error left

/-- Matching actions stay matched when their faults are dropped. -/
theorem attempt {first second : Editing Unit} (matched : Matches first second) :
    Matches (tryCatch first fun _ => pure ()) (tryCatch second fun _ => pure ()) := by
  intro tree other alike
  have ends := matched _ _ alike
  rw [run_attempt, run_attempt]
  generalize first.run tree.arena = one at ends
  generalize second.run other.arena = two at ends
  cases ends with
  | well left => exact .well left
  | fault _ left => exact .well left

/-- A call matches itself. -/
theorem call (call : Call) : Matches call.perform call.perform := by
  intro tree other alike
  rw [tree.run_call, other.run_call]
  exact .well (alike.call call)

/-- Closing a node matches itself. -/
theorem close : Matches Arena.close Arena.close := by
  intro tree other alike
  obtain ⟨failed, otherFailed⟩ | ⟨_, _, ran, otherRan, closed⟩ := alike.close
  · rw [run_close, run_close, tree.length_opened, other.length_opened,
      tree.depth_eq_zero_of_close failed, other.depth_eq_zero_of_close otherFailed]
    exact .fault _ alike
  · rw [Tree.run_close ran, Tree.run_close otherRan]
    exact .well closed

/-- Matching bodies stay matched inside one kind of node. -/
theorem withNode {first second : Editing Unit} (matched : Matches first second)
    (kind : NodeKind) : Matches (Arena.withNode kind first) (Arena.withNode kind second) :=
  (call (.start kind)).bind (matched.bind close)

/-- Any steps match themselves. -/
theorem play : ∀ steps : List Step, Matches (Arena.play steps) (Arena.play steps)
  | [] => nothing
  | .start kind :: rest => (call (.start kind)).bind (play rest)
  | .leaf token :: rest => (call (.leaf token)).bind (play rest)
  | .close :: rest => close.bind (play rest)

mutual

/-- Any edit matches itself. -/
theorem perform : ∀ edit : Edit, Matches edit.perform edit.perform
  | .call made => call made
  | .close => close
  | .withNode kind edits => (performAll edits).withNode kind
  | .assemble statement => play statement.steps
  | .conditions conditions => play conditions.steps
  | .attempt edits => (performAll edits).attempt

/-- Any edits match themselves. -/
theorem performAll : ∀ edits : List Edit,
    Matches (Arena.performAll edits) (Arena.performAll edits)
  | [] => nothing
  | edit :: rest => (perform edit).bind (performAll rest)

end

/-- Blank edits in one of the runs go unnoticed. -/
theorem insert {added edits padded : List Edit} (blank : Blank added)
    (matched : Matches (Arena.performAll edits) (Arena.performAll padded)) :
    Matches (Arena.performAll edits) (Arena.performAll (added ++ padded)) := by
  obtain ⟨children, traceless, ran⟩ := blank.run
  intro tree other alike
  rw [performAll_append, EStateM.run_bind, ran]
  exact matched _ _ (alike.attach_traceless traceless)

end Matches

mutual

/-- An edit matches its padded form. -/
theorem Edit.Padded.matches : ∀ {edit padding : Edit}, Edit.Padded edit padding →
    Matches edit.perform padding.perform
  | _, _, .same edit => .perform edit
  | _, _, .withNode inner => inner.matches.withNode _
  | _, _, .attempt inner => inner.matches.attempt

/-- Edits match their padded form: blank edits go along with doing nothing. -/
theorem Padded.matches : ∀ {edits padded : List Edit}, Padded edits padded →
    Matches (performAll edits) (performAll padded)
  | _, _, .nil => .nothing
  | _, _, .step first rest => first.matches.bind rest.matches
  | _, _, .insert blank rest => rest.matches.insert blank

end

/-! ### Whole sequences -/

/-- The step of the simulation: matching edits take the arenas of alike trees to arenas of
alike trees. -/
theorem Matches.afterEdit {edit padding : Edit} (matched : Matches edit.perform padding.perform)
    {tree other : Tree} (alike : tree.Alike other) :
    ∃ left otherLeft : Tree, left.Alike otherLeft ∧ tree.arena.afterEdit edit = left.arena ∧
      other.arena.afterEdit padding = otherLeft.arena := by
  have ends := matched tree other alike
  rw [Arena.afterEdit, Arena.afterEdit]
  rw [EStateM.run, EStateM.run] at ends
  generalize edit.perform tree.arena = one at ends
  generalize padding.perform other.arena = two at ends
  cases ends with
  | @well left otherLeft leftAlike => exact ⟨left, otherLeft, leftAlike, rfl, rfl⟩
  | @fault left otherLeft _ leftAlike => exact ⟨left, otherLeft, leftAlike, rfl, rfl⟩

private theorem after_append (arena : Arena) (first second : List Edit) :
    arena.after (first ++ second) = (arena.after first).after second :=
  List.foldl_append

/-- Edits that go well together go well one by one. -/
theorem after_of_run : ∀ {edits : List Edit} {arena left : Arena},
    (performAll edits).run arena = .ok () left → arena.after edits = left
  | [], _, _, ran => by
      cases ran
      rfl
  | edit :: rest, arena, left, ran => by
      rw [performAll, EStateM.run_bind] at ran
      cases first : edit.perform.run arena with
      | ok _ between =>
          rw [first] at ran
          rw [EStateM.run] at first
          rw [after, List.foldl_cons, afterEdit, first]
          exact after_of_run ran
      | error fault between =>
          rw [first] at ran
          cases ran

/-- The run of the simulation: padded edits take alike trees to alike trees. -/
theorem Padded.after : ∀ {edits padded : List Edit}, Padded edits padded →
    ∀ {tree other : Tree}, tree.Alike other →
      ∃ left otherLeft : Tree, left.Alike otherLeft ∧ tree.arena.after edits = left.arena ∧
        other.arena.after padded = otherLeft.arena
  | _, _, .nil, tree, other, alike => ⟨tree, other, alike, rfl, rfl⟩
  | _, _, .step first rest, tree, other, alike => by
      obtain ⟨between, otherBetween, stillAlike, ran, otherRan⟩ := first.matches.afterEdit alike
      obtain ⟨left, otherLeft, leftAlike, after, otherAfter⟩ := rest.after stillAlike
      refine ⟨left, otherLeft, leftAlike, ?_, ?_⟩
      · rw [← after, ← ran]
        rfl
      · rw [← otherAfter, ← otherRan]
        rfl
  | _, _, .insert blank rest, tree, other, alike => by
      obtain ⟨children, traceless, ran⟩ := blank.run
      obtain ⟨left, otherLeft, leftAlike, after, otherAfter⟩ :=
        rest.after (alike.attach_traceless traceless)
      refine ⟨left, otherLeft, leftAlike, after, ?_⟩
      rw [after_append, after_of_run (ran other), otherAfter]

/-- Empty fragments leave no trace.  Blank edits may stand anywhere in a sequence of edits: the
arena is rendered as without them, in either mode, and binds the same. -/
theorem render_padded {edits padded : List Edit} (inserted : Padded edits padded) (mode : Mode) :
    (new.after padded).render mode = (new.after edits).render mode := by
  obtain ⟨left, otherLeft, alike, after, otherAfter⟩ := inserted.after (Tree.Alike.refl .empty)
  rw [new_eq, after, otherAfter, render_arena, render_arena, alike.render]

/-- A tree of blanks in a list inside of a group, and an empty name before the group. -/
theorem render_padded_nested :
    let term (name : String) : Edit := .call (.leaf (.name name))
    let value : Edit := .call (.leaf (Token.constant (.int 1)).prepared)
    let blanks : Edit := .call (.leaf (.statement (.here [.leaf (.name " ")])))
    let edits : List Edit :=
      [.call (.start .whereClause), .withNode .group [term "a", value], .close]
    let padded : List Edit :=
      [.call (.start .whereClause), .call (.start .nulls), term "", .close,
        .withNode .group [term "a", .withNode .items [blanks], value], .close]
    Padded edits padded ∧
      (new.after padded).render (.prepared .dollar) =
        (new.after edits).render (.prepared .dollar) := by
  intro term value blanks edits padded
  have name : Blank [term ""] := .leaf (by decide)
  have nulls : Blank [.call (.start .nulls), term "", .close] := .node rfl name rfl
  have items : Blank [.withNode .items [blanks]] := .withNode rfl (.leaf (by decide))
  have group : Padded [term "a", value] ([term "a"] ++ [.withNode .items [blanks]] ++ [value]) :=
    .between items [value] [term "a"]
  have inserted : Padded edits padded :=
    .step (.same _) (.insert nulls (.step (.withNode group) (.refl [.close])))
  exact ⟨inserted, render_padded inserted (.prepared .dollar)⟩

end Arena

end ClauseTree
