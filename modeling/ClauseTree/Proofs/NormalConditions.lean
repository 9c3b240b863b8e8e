import ClauseTree.Proofs.Proposition
import ClauseTree.Proofs.StatementPrinter
import Mathlib.Data.List.Basic

/-!
# Normal conditions

Conditions come from pushing, but also out of the slots of statements: a slot can be set
wholesale, and what stands in it can be borrowed and used again.  Still every sequence of
terms is normal.  Its first term leads, the others are joined to it, and a nested group
holds several terms or one that is negated, so no group could have been left out.

Whether a group is in parentheses is decided elsewhere, by how many of its terms leave a
trace.  When no predicate is written as the empty text, these are all of them, and the text
has a pair of parentheses just where a group has several terms.
-/

namespace ClauseTree

/-! ### Normal sequences -/

/-- The first of several terms leads and the others are joined. -/
def Linked : List Item → Prop
  | [] => True
  | first :: rest =>
      (first.link = .lead ∨ first.link = .leadNot) ∧
        ∀ item ∈ rest, ∃ connective, item.link = .joined connective

/-- A predicate, or a group that is needed: it holds several terms, or one that is negated. -/
inductive Term.Normal : Term → Prop where
  | predicate (tokens : List Token) : Normal (.predicate tokens)
  | group {items : List Item} (linked : Linked items)
      (needed : 2 ≤ items.length ∨ ∃ term, items = [⟨.leadNot, term⟩])
      (each : ∀ item ∈ items, item.term.Normal) : Normal (.group items)

/-- The level of the conditions themselves and all levels below it are as they should be. -/
structure Conditions.Normal (conditions : Conditions) : Prop where
  linked : Linked conditions.items
  each : ∀ item ∈ conditions.items, item.term.Normal

private theorem Linked.concat {items : List Item} (linked : Linked items) {item : Item}
    (leads : items = [] → item.link = .lead ∨ item.link = .leadNot)
    (joined : items ≠ [] → ∃ connective, item.link = .joined connective) :
    Linked (items ++ [item]) := by
  cases items with
  | nil => exact ⟨leads rfl, fun _ member => nomatch member⟩
  | cons first rest =>
      refine ⟨linked.1, ?_⟩
      intro other member
      rcases List.mem_append.mp member with earlier | last
      · exact linked.2 other earlier
      · cases List.mem_singleton.mp last
        exact joined (List.cons_ne_nil first rest)

namespace Conditions

/-- As one term the conditions are normal: they are unwrapped when they are one plain term,
so a group that is made of them is needed. -/
theorem Normal.asTerm {conditions : Conditions} (normal : conditions.Normal)
    (nonempty : conditions.isEmpty = false) : conditions.asTerm.Normal := by
  obtain ⟨linked, each⟩ := normal
  unfold Conditions.asTerm
  split
  next term single =>
    rw [single] at each
    exact each _ List.mem_cons_self
  next several =>
    refine .group linked ?_ each
    match itemsEq : conditions.items with
    | [] =>
        rw [isEmpty, itemsEq] at nonempty
        cases nonempty
    | [⟨link, term⟩] =>
        rw [itemsEq] at linked
        rcases linked.1 with lead | leadNot
        · cases lead
          exact absurd itemsEq (several term)
        · cases leadNot
          exact .inr ⟨term, rfl⟩
    | first :: second :: rest => exact .inl (by simp)

/-- Pushing one normal sequence onto another keeps the normal form. -/
theorem Normal.push {conditions other : Conditions} (normal : conditions.Normal)
    (connective : Connective) (otherNormal : other.Normal) :
    (conditions.push connective other).Normal := by
  unfold Conditions.push
  split
  next => exact normal
  next nonempty =>
    rw [Bool.not_eq_true] at nonempty
    refine ⟨?linked, ?each⟩
    case linked =>
      apply normal.linked.concat
      · intro none
        have empty : conditions.isEmpty = true := List.isEmpty_iff.mpr none
        rw [if_pos empty]
        cases connective <;> simp [Connective.isNegated]
      · intro some
        have filled : ¬conditions.isEmpty = true := fun empty => some (List.isEmpty_iff.mp empty)
        rw [if_neg filled]
        exact ⟨connective, rfl⟩
    case each =>
      intro item member
      rcases List.mem_append.mp member with earlier | last
      · exact normal.each item earlier
      · cases List.mem_singleton.mp last
        exact otherNormal.asTerm nonempty

/-- Every value the factories and pushes can build is in normal form. -/
theorem Built.normal {conditions : Conditions} (built : conditions.Built) :
    conditions.Normal := by
  induction built with
  | empty => exact ⟨trivial, fun _ member => nomatch member⟩
  | predicate tokens =>
      refine ⟨⟨.inl rfl, fun _ member => nomatch member⟩, ?_⟩
      intro item member
      cases List.mem_singleton.mp member
      exact .predicate tokens
  | push _ connective _ normal otherNormal => exact normal.push connective otherNormal

end Conditions

/-! ### Slots -/

/-- The conditions that a statement holds: of `WHERE`, of `HAVING`, of the `ON` of each join,
and of the update at a conflict. -/
def Statement.conditions : Statement → List Conditions
  | .select query => query.filter :: query.having :: query.joins.map Join.on
  | .insert insertion => (insertion.onConflict.map OnConflict.filter).toList
  | .update change => [change.filter]
  | .delete deletion => [deletion.filter]
  | .createSequence _ => []
  | .tree _ => []

/-- The conditions that are continued. -/
def Select.continued (query : Select) : Conditions :=
  match query.target with
  | .where => query.filter
  | .having => query.having
  | .join => (query.joins.getLast?.map Join.on).getD query.filter

/-- The conditions that a call brings along.  Where conditions are borrowed, these are the
ones that are put back. -/
def Select.Call.given (query : Select) : Select.Call → List Conditions
  | .on conditions => [conditions]
  | .onSequence conditions => [conditions]
  | .filter conditions => [conditions]
  | .filterSequence conditions => [conditions]
  | .filterChange change => [change query.filter]
  | .having conditions => [conditions]
  | .havingSequence conditions => [conditions]
  | .extend _ conditions => [conditions]
  | .activeChange change => [change query.continued]
  | _ => []

def Insert.Call.given : Insert.Call → List Conditions
  | .doUpdateWhere conditions => [conditions]
  | _ => []

def Update.Call.given (update : Update) : Update.Call → List Conditions
  | .filter _ conditions => [conditions]
  | .filterSequence conditions => [conditions]
  | .filterChange change => [change update.filter]
  | _ => []

def Delete.Call.given (delete : Delete) : Delete.Call → List Conditions
  | .filter _ conditions => [conditions]
  | .filterSequence conditions => [conditions]
  | .filterChange change => [change delete.filter]
  | _ => []

/-- One call on a statement, with the conditions that it brings along. -/
inductive Statement.Takes : Statement → List Conditions → Statement → Prop where
  | select (query : Select) (call : Select.Call) :
      Takes (.select query) (call.given query) (.select (query.apply call))
  | insert (insertion : Insert) (call : Insert.Call) :
      Takes (.insert insertion) call.given (.insert (insertion.apply call))
  | update (change : Update) (call : Update.Call) :
      Takes (.update change) (call.given change) (.update (change.apply call))
  | delete (deletion : Delete) (call : Delete.Call) :
      Takes (.delete deletion) (call.given deletion) (.delete (deletion.apply call))

mutual

/-- Conditions that can be had: made by the operations, or taken from the slot of a statement. -/
inductive Conditions.Obtained : Conditions → Prop where
  | empty : Conditions.Obtained .empty
  | predicate (tokens : List Token) : Conditions.Obtained (.predicate tokens)
  | push {conditions other : Conditions} (obtained : Conditions.Obtained conditions)
      (connective : Connective) (otherObtained : Conditions.Obtained other) :
      Conditions.Obtained (conditions.push connective other)
  | slot {statement : Statement} (recorded : Statement.Recorded statement)
      {conditions : Conditions} (held : conditions ∈ statement.conditions) :
      Conditions.Obtained conditions

/-- Statements that can be recorded: without terms, as every factory leaves them, or by calls
that bring along conditions that can be had. -/
inductive Statement.Recorded : Statement → Prop where
  | begun {statement : Statement}
      (blank : ∀ conditions ∈ statement.conditions, conditions = .empty) :
      Statement.Recorded statement
  | called {before after : Statement} {given : List Conditions}
      (recorded : Statement.Recorded before) (takes : Statement.Takes before given after)
      (each : ∀ conditions ∈ given, Conditions.Obtained conditions) :
      Statement.Recorded after

end

/-! ### One call -/

/-- Where conditions in a slot come from, after a call that brings some along. -/
inductive Conditions.Comes (before given : List Conditions) : Conditions → Prop where
  | nothing : Comes before given .empty
  | kept {conditions : Conditions} (held : conditions ∈ before) : Comes before given conditions
  | taken {conditions : Conditions} (brought : conditions ∈ given) :
      Comes before given conditions
  | pushed {conditions other : Conditions} (comes : Comes before given conditions)
      (connective : Connective) (brought : other ∈ given) :
      Comes before given (conditions.push connective other)

namespace Conditions.Comes

variable {before given : List Conditions}

private theorem installed {conditions other : Conditions} (held : conditions ∈ before)
    (brought : other ∈ given) : Comes before given (conditions.install other) := by
  unfold Conditions.install
  split
  · exact .taken brought
  · exact .pushed (.kept held) .and brought

/-- A slot without terms is as good as none. -/
theorem blank {conditions : Conditions} (comes : Comes [.empty] given conditions) :
    Comes before given conditions := by
  induction comes with
  | nothing => exact .nothing
  | kept held =>
      cases List.mem_singleton.mp held
      exact .nothing
  | taken brought => exact .taken brought
  | pushed _ connective brought ih => exact .pushed ih connective brought

/-- What comes of built conditions is built. -/
theorem built {conditions : Conditions} (comes : Comes before given conditions)
    (heldBuilt : ∀ held ∈ before, held.Built) (givenBuilt : ∀ brought ∈ given, brought.Built) :
    conditions.Built := by
  induction comes with
  | nothing => exact .empty
  | kept held => exact heldBuilt _ held
  | taken brought => exact givenBuilt _ brought
  | pushed _ connective brought ih => exact .push ih connective (givenBuilt _ brought)

end Conditions.Comes

private theorem Join.mem_modifyLast {change : Join → Join} {joins : List Join} {join : Join}
    (member : join ∈ modifyLast change joins) :
    join ∈ joins ∨ ∃ last, joins.getLast? = some last ∧ join = change last := by
  rcases List.eq_nil_or_concat' joins with rfl | ⟨earlier, last, rfl⟩
  · exact .inl member
  · rw [modifyLast_concat] at member
    rcases List.mem_append.mp member with before | changed
    · exact .inl (List.mem_append_left _ before)
    · exact .inr ⟨last, List.getLast?_concat, List.mem_singleton.mp changed⟩

open Conditions (Comes)

namespace Select

/-- The conditions of a query are its WHERE, its HAVING and the ON of each join. -/
theorem mem_conditions_iff {query : Select} {conditions : Conditions} :
    conditions ∈ (Statement.select query).conditions ↔
      conditions = query.filter ∨ conditions = query.having ∨
        ∃ join ∈ query.joins, join.on = conditions := by
  rw [Statement.conditions, List.mem_cons, List.mem_cons, List.mem_map]

private theorem filter_mem_conditions (query : Select) :
    query.filter ∈ (Statement.select query).conditions :=
  mem_conditions_iff.mpr (.inl rfl)

private theorem having_mem_conditions (query : Select) :
    query.having ∈ (Statement.select query).conditions :=
  mem_conditions_iff.mpr (.inr (.inl rfl))

private theorem on_mem_conditions {query : Select} {join : Join} (member : join ∈ query.joins) :
    join.on ∈ (Statement.select query).conditions :=
  mem_conditions_iff.mpr (.inr (.inr ⟨join, member, rfl⟩))

private theorem continued_mem_conditions (query : Select) :
    query.continued ∈ (Statement.select query).conditions := by
  unfold continued
  split
  · exact query.filter_mem_conditions
  · exact query.having_mem_conditions
  · cases last : query.joins.getLast? with
    | none => exact query.filter_mem_conditions
    | some join => exact on_mem_conditions (List.mem_of_getLast? last)

variable {query : Select} {given : List Conditions}

/-- It is enough to say where the new conditions of each clause come from. -/
theorem comes_of_clauses {after : Select}
    (filter : Comes (Statement.select query).conditions given after.filter)
    (having : Comes (Statement.select query).conditions given after.having)
    (on : ∀ join ∈ after.joins, Comes (Statement.select query).conditions given join.on) :
    ∀ conditions ∈ (Statement.select after).conditions,
      Comes (Statement.select query).conditions given conditions := by
  intro conditions held
  rcases mem_conditions_iff.mp held with rfl | rfl | ⟨join, member, rfl⟩
  · exact filter
  · exact having
  · exact on join member

private theorem comes_modifyLast {change : Join → Join}
    (last : ∀ join, query.joins.getLast? = some join →
      Comes (Statement.select query).conditions given (change join).on) :
    ∀ join ∈ Join.modifyLast change query.joins,
      Comes (Statement.select query).conditions given join.on := by
  intro join member
  rcases Join.mem_modifyLast member with kept | ⟨changed, isLast, rfl⟩
  · exact .kept (on_mem_conditions kept)
  · exact last changed isLast

private theorem comes_changeOn {change : Conditions → Conditions}
    (last : ∀ join, query.joins.getLast? = some join →
      Comes (Statement.select query).conditions given (change join.on)) :
    ∀ conditions ∈ (Statement.select (query.changeOn change)).conditions,
      Comes (Statement.select query).conditions given conditions := by
  unfold changeOn
  split
  · exact fun conditions held => .kept held
  · exact comes_of_clauses (.kept query.filter_mem_conditions)
      (.kept query.having_mem_conditions) (comes_modifyLast last)

private theorem comes_changeActive {change : Conditions → Conditions}
    (active : Comes (Statement.select query).conditions given (change query.continued)) :
    ∀ conditions ∈ (Statement.select (query.changeActive change)).conditions,
      Comes (Statement.select query).conditions given conditions := by
  have filter : Comes (Statement.select query).conditions given query.filter :=
    .kept query.filter_mem_conditions
  have having : Comes (Statement.select query).conditions given query.having :=
    .kept query.having_mem_conditions
  have on : ∀ join ∈ query.joins, Comes (Statement.select query).conditions given join.on :=
    fun join member => .kept (on_mem_conditions member)
  unfold changeActive
  unfold Select.continued at active
  split
  next target =>
    rw [target] at active
    exact comes_of_clauses active having on
  next target =>
    rw [target] at active
    exact comes_of_clauses filter active on
  next target =>
    rw [target] at active
    split
    next none =>
      rw [List.isEmpty_iff.mp none] at active
      exact comes_of_clauses active having on
    next =>
      refine comes_of_clauses filter having (comes_modifyLast ?_)
      intro join isLast
      rw [isLast] at active
      exact active

/-- Every condition of a query behind a call comes of those it held and those the call
brings. -/
theorem comes_apply (query : Select) (call : Call) :
    ∀ conditions ∈ (Statement.select (query.apply call)).conditions,
      Comes (Statement.select query).conditions (call.given query) conditions := by
  have filter : query.filter ∈ (Statement.select query).conditions :=
    query.filter_mem_conditions
  have having : query.having ∈ (Statement.select query).conditions :=
    query.having_mem_conditions
  have on : ∀ join, query.joins.getLast? = some join →
      join.on ∈ (Statement.select query).conditions :=
    fun join isLast => on_mem_conditions (List.mem_of_getLast? isLast)
  have others : ∀ {given : List Conditions} (join : Join), join ∈ query.joins →
      Comes (Statement.select query).conditions given join.on :=
    fun join member => .kept (on_mem_conditions member)
  cases call with
  | join joinKind item =>
      refine comes_of_clauses (.kept filter) (.kept having) ?_
      intro join member
      rcases List.mem_append.mp member with earlier | added
      · exact others join earlier
      · cases List.mem_singleton.mp added
        exact .nothing
  | on conditions =>
      exact comes_changeOn fun join isLast =>
        .pushed (.kept (on join isLast)) .and List.mem_cons_self
  | onSequence conditions =>
      exact comes_changeOn fun join isLast => .installed (on join isLast) List.mem_cons_self
  | usingColumns tokens =>
      exact comes_of_clauses (.kept filter) (.kept having)
        (comes_modifyLast fun join isLast => .kept (on join isLast))
  | filter conditions =>
      exact comes_of_clauses (.pushed (.kept filter) .and List.mem_cons_self) (.kept having) others
  | filterSequence conditions =>
      exact comes_of_clauses (.installed filter List.mem_cons_self) (.kept having) others
  | filterChange change =>
      exact comes_of_clauses (.taken List.mem_cons_self) (.kept having) others
  | having conditions =>
      exact comes_of_clauses (.kept filter) (.pushed (.kept having) .and List.mem_cons_self) others
  | havingSequence conditions =>
      exact comes_of_clauses (.kept filter) (.installed having List.mem_cons_self) others
  | extend connective conditions =>
      exact comes_changeActive
        (.pushed (.kept query.continued_mem_conditions) connective List.mem_cons_self)
  | activeChange change => exact comes_changeActive (.taken List.mem_cons_self)
  -- The other calls touch no conditions.
  | _ => exact fun conditions held => .kept held

end Select

/-- The conditions of a new conflict clause are empty. -/
theorem Insert.comes_changeConflict {insertion : Insert} {given : List Conditions}
    {change : OnConflict → OnConflict}
    (filter : ∀ conflict, Comes [conflict.filter] given (change conflict).filter) :
    ∀ conditions ∈ (Statement.insert (insertion.changeConflict change)).conditions,
      Comes (Statement.insert insertion).conditions given conditions := by
  intro conditions held
  cases List.mem_singleton.mp held
  cases conflict : insertion.onConflict with
  | none =>
      rw [Statement.conditions, conflict]
      exact (filter .empty).blank
  | some held =>
      rw [Statement.conditions, conflict]
      exact filter held

/-- Every condition of an insertion behind a call comes of those it held and those the call
brings. -/
theorem Insert.comes_apply (insertion : Insert) (call : Insert.Call) :
    ∀ conditions ∈ (Statement.insert (insertion.apply call)).conditions,
      Comes (Statement.insert insertion).conditions call.given conditions := by
  cases call with
  | conflictOn target => exact comes_changeConflict fun conflict => .kept List.mem_cons_self
  | doNothing => exact comes_changeConflict fun conflict => .kept List.mem_cons_self
  | doUpdateSet column value =>
      exact comes_changeConflict fun conflict => .kept List.mem_cons_self
  | doUpdateSetExcluded column =>
      exact comes_changeConflict fun conflict => .kept List.mem_cons_self
  | doUpdateWhere conditions =>
      exact comes_changeConflict fun conflict =>
        .pushed (.kept List.mem_cons_self) .and List.mem_cons_self
  | values row =>
      intro conditions held
      refine .kept ?_
      rw [Insert.apply, Insert.addRow] at held
      split at held <;> exact held
  | _ => exact fun conditions held => .kept held

/-- Every condition of an update behind a call comes of those it held and those the call
brings. -/
theorem Update.comes_apply (update : Update) (call : Update.Call) :
    ∀ conditions ∈ (Statement.update (update.apply call)).conditions,
      Comes (Statement.update update).conditions (call.given update) conditions := by
  have here : update.filter ∈ (Statement.update update).conditions := List.mem_cons_self
  intro conditions held
  cases List.mem_singleton.mp held
  cases call with
  | filter connective conditions => exact .pushed (.kept here) connective List.mem_cons_self
  | filterSequence conditions => exact .installed here List.mem_cons_self
  | filterChange change => exact .taken List.mem_cons_self
  | _ => exact .kept here

/-- Every condition of a deletion behind a call comes of those it held and those the call
brings. -/
theorem Delete.comes_apply (delete : Delete) (call : Delete.Call) :
    ∀ conditions ∈ (Statement.delete (delete.apply call)).conditions,
      Comes (Statement.delete delete).conditions (call.given delete) conditions := by
  have here : delete.filter ∈ (Statement.delete delete).conditions := List.mem_cons_self
  intro conditions held
  cases List.mem_singleton.mp held
  cases call with
  | filter connective conditions => exact .pushed (.kept here) connective List.mem_cons_self
  | filterSequence conditions => exact .installed here List.mem_cons_self
  | filterChange change => exact .taken List.mem_cons_self
  | _ => exact .kept here

/-- The step of the induction: a statement's conditions behind any call, wholesale setters
and borrows included, come of those before it and those it brings. -/
theorem Statement.Takes.comes {before after : Statement} {given : List Conditions}
    (takes : before.Takes given after) :
    ∀ conditions ∈ after.conditions, Comes before.conditions given conditions := by
  cases takes with
  | select query call => exact query.comes_apply call
  | insert insertion call => exact insertion.comes_apply call
  | update change call => exact change.comes_apply call
  | delete deletion call => exact deletion.comes_apply call

mutual

/-- Slots add nothing to what the operations make. -/
theorem Conditions.Obtained.built {conditions : Conditions} :
    conditions.Obtained → conditions.Built
  | .empty => .empty
  | .predicate tokens => .predicate tokens
  | .push obtained connective otherObtained =>
      .push obtained.built connective otherObtained.built
  | .slot recorded held => recorded.built _ held

/-- The run: every condition of a recorded statement can be built with the factories and
pushes. -/
theorem Statement.Recorded.built {statement : Statement} :
    statement.Recorded → ∀ conditions ∈ statement.conditions, conditions.Built
  | .begun blank => fun conditions held => blank conditions held ▸ .empty
  | .called recorded takes each => fun conditions held =>
      (takes.comes conditions held).built recorded.built
        fun other brought => (each other brought).built

end

/-! ### Parentheses -/

mutual

/-- The text with a pair of parentheses around every group of several terms. -/
def Proposition.bracketed : Proposition → String
  | .predicate text => text
  | .group places =>
      let level := " ".intercalate (placeTexts places)
      if 2 ≤ places.length then "(" ++ level ++ ")" else level

/-- A term behind what joins it to the terms before it. -/
def Place.bracketed : Place → String
  | ⟨link, proposition⟩ =>
      match link.keyword? with
      | none => proposition.bracketed
      | some keyword => keyword ++ " " ++ proposition.bracketed

def placeTexts : List Place → List String
  | [] => []
  | place :: rest => place.bracketed :: placeTexts rest

end

private theorem length_placeTexts (places : List Place) :
    (placeTexts places).length = places.length := by
  induction places with
  | nil => rfl
  | cons place rest ih => rw [placeTexts, List.length_cons, List.length_cons, ih]

private theorem placeTexts_ne_nil {places : List Place} (nonempty : places ≠ []) :
    placeTexts places ≠ [] := by
  rw [← List.length_pos_iff, length_placeTexts, List.length_pos_iff]
  exact nonempty

namespace Printer

/-- When every text leaves a trace, all of them do. -/
theorem written_eq_self {texts : List String} (filled : ∀ text ∈ texts, text ≠ "") :
    written texts = texts := by
  apply List.filter_eq_self.mpr
  intro text member
  simpa using filled text member

private theorem joined_eq_intercalate {separator : String} {texts : List String}
    (filled : ∀ text ∈ texts, text ≠ "") :
    joined separator texts = separator.intercalate texts := by
  rw [joined, written_eq_self filled]

private theorem intercalate_ne_empty (separator : String) {texts : List String}
    (someText : texts ≠ []) (filled : ∀ text ∈ texts, text ≠ "") :
    separator.intercalate texts ≠ "" := by
  match texts with
  | [text] => simpa using filled text
  | text :: next :: rest =>
      rw [String.intercalate_cons_cons]
      simp [filled text]

end Printer

open Printer

/-- When every child leaves a trace, all of them stand between the parentheses. -/
theorem Layout.compose_filled (layout : Layout) {texts : List String}
    (filled : ∀ text ∈ texts, text ≠ "") :
    layout.compose (texts.map (⟨.separator, ·⟩)) =
      layout.headed
        (if layout.wraps texts.length then "(" ++ layout.separator.intercalate texts ++ ")"
        else layout.separator.intercalate texts) := by
  have kept : ∀ fragment ∈ texts.map (Fragment.mk .separator ·),
      layout.before fragment.glue = layout.separator := by
    intro fragment member
    obtain ⟨text, _, rfl⟩ := List.mem_map.mp member
    rfl
  have same : (texts.map (Fragment.mk .separator ·)).map Fragment.text = texts := by
    rw [List.map_map]
    exact List.map_id texts
  rw [layout.compose_eq kept, same, written_eq_self filled, joined_eq_intercalate filled]

/-- Texts behind a keyword are never in parentheses. -/
theorem NodeKind.compose_spaced_filled {keyword : String} (named : keyword.isEmpty = false)
    {texts : List String} (someText : texts ≠ []) (filled : ∀ text ∈ texts, text ≠ "") :
    (NodeKind.spaced keyword).compose (texts.map (⟨.separator, ·⟩)) =
      keyword ++ " " ++ " ".intercalate texts := by
  have body := intercalate_ne_empty " " someText filled
  rw [(NodeKind.spaced keyword).compose_filled filled]
  simp [Layout.headed, Layout.wraps, NodeKind.spaced, named, body]

/-- A link writes its keyword and a blank. -/
theorem Place.fragment_eq_bracketed (link : Link) {proposition : Proposition}
    (same : proposition.text = proposition.bracketed) (filled : proposition.bracketed ≠ "") :
    Place.fragment ⟨link, proposition⟩ = ⟨.separator, Place.bracketed ⟨link, proposition⟩⟩ ∧
      Place.bracketed ⟨link, proposition⟩ ≠ "" := by
  have behind (keyword : String) (named : keyword.isEmpty = false) :
      (NodeKind.spaced keyword).compose [⟨.separator, proposition.text⟩] =
        keyword ++ " " ++ proposition.bracketed := by
    have composed := NodeKind.compose_spaced_filled named
      (List.cons_ne_nil proposition.bracketed []) fun text member => by
        cases List.mem_singleton.mp member
        exact filled
    rw [List.map_singleton, String.intercalate_singleton] at composed
    rw [same, composed]
  rw [Place.fragment, Place.bracketed]
  cases link with
  | lead => exact ⟨congrArg _ same, filled⟩
  | leadNot => exact ⟨congrArg _ (behind "NOT" rfl), by simp [Link.keyword?]⟩
  | joined connective =>
      cases connective with
      | and => exact ⟨congrArg _ (behind "AND" rfl), by simp [Link.keyword?]⟩
      | or => exact ⟨congrArg _ (behind "OR" rfl), by simp [Link.keyword?]⟩
      | andNot => exact ⟨congrArg _ (behind "AND NOT" rfl), by simp [Link.keyword?]⟩
      | orNot => exact ⟨congrArg _ (behind "OR NOT" rfl), by simp [Link.keyword?]⟩

mutual

/-- A linked proposition of written predicates reads as its bracketed text, which is not
empty. -/
theorem Proposition.text_eq_bracketed : ∀ proposition : Proposition,
    proposition.isLinked = true → (∀ text ∈ proposition.predicates, text ≠ "") →
      proposition.text = proposition.bracketed ∧ proposition.bracketed ≠ ""
  | .predicate text, _, filled => ⟨rfl, filled text List.mem_cons_self⟩
  | .group places, linked, filled => by
      rw [Proposition.isLinked, Bool.and_eq_true, Bool.not_eq_true',
        ← Bool.not_eq_true, List.isEmpty_iff] at linked
      obtain ⟨nonempty, level⟩ := linked
      obtain ⟨fragments, texts⟩ := placeFragments_eq_placeTexts places true level filled
      have body := intercalate_ne_empty " " (placeTexts_ne_nil nonempty) texts
      rw [Proposition.text, fragments, NodeKind.group.layout.compose_filled texts,
        Proposition.bracketed, length_placeTexts]
      by_cases several : 2 ≤ places.length
      · have wraps : NodeKind.group.layout.wraps places.length = true := decide_eq_true several
        rw [if_pos wraps, if_pos several]
        exact ⟨rfl, by simp⟩
      · have bare : ¬NodeKind.group.layout.wraps places.length = true :=
          mt of_decide_eq_true several
        rw [if_neg bare, if_neg several]
        exact ⟨rfl, body⟩

private theorem placeFragments_eq_placeTexts : ∀ (places : List Place) (leading : Bool),
    placesLinked leading places = true → (∀ text ∈ placePredicates places, text ≠ "") →
      placeFragments places = (placeTexts places).map (⟨.separator, ·⟩) ∧
        ∀ text ∈ placeTexts places, text ≠ ""
  | [], _, _, _ => ⟨rfl, fun _ member => nomatch member⟩
  | ⟨link, proposition⟩ :: rest, leading, linked, filled => by
      rw [placesLinked, Bool.and_eq_true, Bool.and_eq_true] at linked
      rw [placePredicates] at filled
      obtain ⟨same, someText⟩ := proposition.text_eq_bracketed linked.1.2 fun text member =>
        filled text (List.mem_append_left _ member)
      obtain ⟨fragments, texts⟩ := placeFragments_eq_placeTexts rest false linked.2
        fun text member => filled text (List.mem_append_right _ member)
      obtain ⟨fragment, bracketed⟩ :=
        Place.fragment_eq_bracketed link same someText
      rw [placeFragments, placeTexts, fragment, fragments]
      refine ⟨rfl, ?_⟩
      intro text member
      rcases List.mem_cons.mp member with rfl | later
      · exact bracketed
      · exact texts text later

end

namespace Conditions

/-- Conditions are normal wherever they come from.  When each predicate is written as some
text, the groups of several terms are in one pair of parentheses each, and nothing else is;
this holds for the terms by themselves and for those of a clause. -/
theorem Obtained.normal_bracketed {conditions : Conditions} (obtained : conditions.Obtained) :
    conditions.Normal ∧
      ∀ (mode : Mode) (parameters : Parameters),
        let places := (itemPlaces mode conditions.items parameters).1
        let level := " ".intercalate (placeTexts places)
        (∀ text ∈ placePredicates places, text ≠ "") →
          ((conditions.writeTo .empty).walk mode parameters).1 = Text.trim level ∧
            ∀ clause ∈ [(NodeKind.whereClause, "WHERE"), (.having, "HAVING"), (.on, "ON")],
              conditions.isEmpty = false →
                (writeChildren mode (conditions.clause clause.1) parameters).1 =
                  [⟨.separator, clause.2 ++ " " ++ level⟩] := by
  have built := obtained.built
  refine ⟨built.normal, ?_⟩
  intro mode parameters places level filled
  obtain ⟨fragments, texts⟩ := placeFragments_eq_placeTexts places true
    (built.placesLinked mode parameters) filled
  have written : (writeChildren mode conditions.children parameters).1 =
      (placeTexts places).map (⟨.separator, ·⟩) :=
    (congrArg Prod.fst (write_itemChildren mode conditions.items parameters)).trans fragments
  refine ⟨?alone, ?clauses⟩
  case alone =>
    rw [writeTo_eq_attach, Tree.empty, Tree.attach, List.nil_append, Tree.walk,
      Writing.bind_apply, Writing.pure_apply, Tree.write, written, treeText,
      NodeKind.root.layout.compose_filled texts]
    rfl
  case clauses =>
    intro clause member nonempty
    have somePlace : places ≠ [] := by
      rw [← List.isEmpty_eq_false_iff, isEmpty_itemPlaces]
      exact nonempty
    have behind {kind : NodeKind} {keyword : String}
        (layout : kind.layout = NodeKind.spaced keyword) (named : keyword.isEmpty = false) :
        (writeChildren mode [.node kind conditions.children] parameters).1 =
          [⟨.separator, keyword ++ " " ++ level⟩] := by
      have composed := NodeKind.compose_spaced_filled named (placeTexts_ne_nil somePlace) texts
      simp only [writeChildren, Child.write, Writing.bind_apply, Writing.pure_apply, written]
      rw [layout, composed]
      rfl
    rw [Conditions.clause, nonempty, if_neg Bool.false_ne_true]
    rcases List.mem_cons.mp member with rfl | member
    · exact behind rfl rfl
    rcases List.mem_cons.mp member with rfl | member
    · exact behind rfl rfl
    · cases List.mem_singleton.mp member
      exact behind rfl rfl

/-- Conditions that were installed as `HAVING`, continued there, taken out and pushed: the
group of one negated term stands without parentheses inside of the other. -/
theorem normal_bracketed_borrowed :
    let query : Select :=
      (((Select.ofColumns []).apply
        (.havingSequence ((predicate [.name "b"]).push .or (predicate [.name "c"])))).apply
        (.having (predicate [.name "a"]).negation))
    let conditions := (predicate [.name "d"]).push .and query.having
    conditions.Obtained ∧ conditions.Normal ∧
      (∀ text ∈ placePredicates (conditions.places .literal), text ≠ "") ∧
      conditions.isEmpty = false ∧
      ((conditions.writeTo .empty).walk .literal .empty).1 = "d AND (b OR c AND NOT a)" ∧
      (writeChildren .literal (conditions.clause .whereClause) .empty).1 =
        [⟨.separator, "WHERE d AND (b OR c AND NOT a)"⟩] := by
  intro query conditions
  have single (name : String) : (predicate [.name name]).Obtained := .predicate _
  have recorded : (Statement.select query).Recorded := by
    refine .called (.called (.begun ?blank) (.select _ _) ?sequence) (.select _ _) ?negated
    case blank =>
      intro held member
      rcases Select.mem_conditions_iff.mp member with rfl | rfl | ⟨join, joined, _⟩
      · rfl
      · rfl
      · cases joined
    case sequence =>
      intro given member
      cases List.mem_singleton.mp member
      exact .push (single "b") .or (single "c")
    case negated =>
      intro given member
      cases List.mem_singleton.mp member
      exact .push .empty .andNot (single "a")
  have obtained : conditions.Obtained :=
    .push (single "d") .and (.slot recorded query.having_mem_conditions)
  have filled : ∀ text ∈ placePredicates (conditions.places .literal), text ≠ "" := by
    decide +kernel
  have nonempty : conditions.isEmpty = false := rfl
  obtain ⟨normal, texts⟩ := obtained.normal_bracketed
  obtain ⟨alone, clauses⟩ := texts .literal .empty filled
  refine ⟨obtained, normal, filled, nonempty, alone.trans ?_,
    (clauses _ List.mem_cons_self nonempty).trans ?_⟩
  · decide +kernel
  · decide +kernel

end Conditions

end ClauseTree
