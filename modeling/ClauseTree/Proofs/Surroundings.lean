import ClauseTree.Proofs.TreeTemplate

/-!
# Surroundings

A tree that stands in another one leaves its own template there, untouched: what is written
around it goes in front and behind.  That holds for every layer between the two.  Lists
and nodes put separators, keywords and parentheses around what they hold, and trimming
stops at the template of a tree, which has no blanks at its ends.

What goes in front and behind does not depend on the tree, only on whether it leaves a
trace at all; one that does not would take its separator with it.
-/

namespace ClauseTree

namespace Template

/-! ### What a template binds -/

/-- The constants that prepared text binds in the holes. -/
def bound (template : Template) : List Token :=
  template.holes.map Binding.token

@[simp] private theorem bound_nil : bound [] = [] := rfl

/-- A hole binds its constant in front of those behind it. -/
@[simp] theorem bound_hole_cons (binding : Binding) (rest : Template) :
    bound (.hole binding :: rest) = binding.token :: rest.bound := rfl

/-- Two templates in a row bind the constants of the first and then those of the second. -/
@[simp] theorem bound_append (left right : Template) :
    bound (left ++ right) = left.bound ++ right.bound := by
  induction left with
  | nil => rfl
  | cons cell rest ih =>
      cases cell with
      | char c => exact ih
      | hole binding => simp [ih]

/-- A text without holes binds nothing. -/
@[simp] theorem bound_ofText (text : String) : bound (ofText text) = [] := by
  rw [ofText]
  induction text.toList with
  | nil => rfl
  | cons c rest ih => exact ih

/-- Prepared text binds the constants of the holes, behind those that were bound before. -/
theorem tokens_write (style : Placeholder) (template : Template) (parameters : Parameters) :
    (template.write (.prepared style) parameters).2.tokens =
      parameters.tokens ++ template.bound := by
  rw [write_prepared, bound]

/-- Blanks are no holes. -/
theorem bound_dropWhile (template : Template) :
    bound (template.dropWhile isBlankCell) = template.bound := by
  induction template with
  | nil => rfl
  | cons cell rest ih =>
      rw [List.dropWhile_cons]
      cases cell with
      | char c =>
          split
          · exact ih
          · rfl
      | hole binding => rfl

/-- Trimming the end drops no hole. -/
theorem bound_rdropWhile (template : Template) :
    bound (template.rdropWhile isBlankCell) = template.bound := by
  induction template with
  | nil => rfl
  | cons cell rest ih =>
      rw [rdropWhile_cons]
      cases cell with
      | char c =>
          split
          next dropped =>
            rw [dropped.2] at ih
            exact ih
          next => exact ih
      | hole binding =>
          rw [if_neg (by simp [isBlankCell]), bound_hole_cons, bound_hole_cons, ih]

/-! ### Filling -/

/-- The holes of the second template are counted on from those of the first. -/
theorem fillFrom_append (content : Nat → String) (position : Nat) (left right : Template) :
    fillFrom content position (left ++ right) =
      fillFrom content position left ++
        fillFrom content (position + left.bound.length) right := by
  induction left generalizing position with
  | nil => simp [fillFrom]
  | cons cell rest ih =>
      cases cell with
      | char c =>
          have unmoved : bound (.char c :: rest) = bound rest := rfl
          simp [fillFrom, ih, unmoved, String.append_assoc]
      | hole binding =>
          simp [fillFrom, ih, String.append_assoc, Nat.add_assoc, Nat.add_comm 1]

/-- Counting on from a position is moving the contents by it. -/
theorem fillFrom_add (content : Nat → String) (offset position : Nat) (template : Template) :
    fillFrom content (offset + position) template =
      fillFrom (fun k => content (offset + k)) position template := by
  induction template generalizing position with
  | nil => rfl
  | cons cell rest ih =>
      cases cell with
      | char c => rw [fillFrom, fillFrom, ih]
      | hole binding => rw [fillFrom, fillFrom, Nat.add_assoc, ih]

/-! ### Trimming -/

/-- There is something, and no blank at either end of it. -/
structure Solid (template : Template) : Prop where
  nonempty : template ≠ []
  head : template.dropWhile isBlankCell = template
  last : template.rdropWhile isBlankCell = template

/-- What trimming leaves has no blanks at its ends. -/
theorem solid_trim {template : Template} (nonempty : template.trim ≠ []) :
    Solid template.trim where
  nonempty := nonempty
  head := dropWhile_rdropWhile_dropWhile isBlankCell template
  last := List.rdropWhile_idempotent isBlankCell _

/-- Trimming stops at what has no blanks at its ends. -/
theorem Solid.trim_around {body : Template} (solid : body.Solid) (front back : Template) :
    (front ++ body ++ back).trim =
      front.dropWhile isBlankCell ++ body ++ back.rdropWhile isBlankCell := by
  have starts : (front ++ body ++ back).dropWhile isBlankCell =
      front.dropWhile isBlankCell ++ (body ++ back) := by
    have stops : (body ++ back).dropWhile isBlankCell = body ++ back := by
      rw [List.dropWhile_append, solid.head, if_neg (by simpa using solid.nonempty)]
    rw [List.append_assoc, List.dropWhile_append, stops]
    split
    next blank => rw [List.isEmpty_iff.mp blank, List.nil_append]
    next => rfl
  have ends : (body ++ back).rdropWhile isBlankCell = body ++ back.rdropWhile isBlankCell := by
    rw [rdropWhile_append]
    split
    next blank => rw [solid.last, blank, List.append_nil]
    next => rfl
  have kept : (body ++ back).rdropWhile isBlankCell ≠ [] := by
    rw [ends]
    exact List.append_ne_nil_of_left_ne_nil solid.nonempty _
  rw [trim, starts, rdropWhile_append, if_neg kept, ends, List.append_assoc]

end Template

open Template (bound between ofText)

/-! ### Layers -/

/-- Around what is inside, if it leaves a trace, the same is always written.  It binds these
constants in front and those behind. -/
def Surrounds {α : Type} (before after : List Token) (inside whole : α → Template) : Prop :=
  ∃ front back : Template, front.bound = before ∧ back.bound = after ∧
    ∀ a, inside a ≠ [] → whole a = front ++ inside a ++ back

/-- One layer of writing around anything. -/
def Layer (before after : List Token) (around : Template → Template) : Prop :=
  Surrounds before after (fun body => body) around

/-- Layers compose: what is written around the outside of a layer is written around its
inside too. -/
theorem Surrounds.within {α : Type} {before after more others : List Token}
    {inside whole : α → Template} {around : Template → Template}
    (surrounds : Surrounds before after inside whole) (layer : Layer more others around) :
    Surrounds (more ++ before) (after ++ others) inside fun a => around (whole a) := by
  obtain ⟨front, back, rfl, rfl, same⟩ := surrounds
  obtain ⟨lead, trail, rfl, rfl, wrapped⟩ := layer
  refine ⟨lead ++ front, back ++ trail, Template.bound_append lead front,
    Template.bound_append back trail, ?_⟩
  intro a trace
  have nonempty : whole a ≠ [] := by
    rw [same a trace]
    exact List.append_ne_nil_of_left_ne_nil (List.append_ne_nil_of_right_ne_nil _ trace) _
  calc around (whole a)
      = lead ++ whole a ++ trail := wrapped _ nonempty
    _ = lead ++ (front ++ inside a ++ back) ++ trail := by rw [same a trace]
    _ = lead ++ front ++ inside a ++ (back ++ trail) := by simp only [List.append_assoc]

private theorem layer_none : Layer [] [] fun body => body :=
  ⟨[], [], rfl, rfl, fun body _ => (List.append_nil body).symm⟩

/-- An opening and a closing text are a layer that binds nothing. -/
theorem layer_between (opening closing : String) :
    Layer [] [] fun body => between opening body closing :=
  ⟨ofText opening, ofText closing, Template.bound_ofText _, Template.bound_ofText _,
    fun _ _ => rfl⟩

namespace Template

private theorem commaSeparated_cons_of_ne_nil (template : Template) {rest : List Template}
    (nonempty : rest ≠ []) :
    commaSeparated (template :: rest) = template ++ ofText ", " ++ commaSeparated rest := by
  cases rest with
  | nil => exact absurd rfl nonempty
  | cons next rest => rfl

private theorem bound_commaSeparated (templates : List Template) :
    bound (commaSeparated templates) = templates.flatMap bound := by
  induction templates with
  | nil => rfl
  | cons template rest ih =>
      cases rest with
      | nil => simp [commaSeparated]
      | cons next rest =>
          rw [commaSeparated_cons_of_ne_nil _ (List.cons_ne_nil next rest), bound_append,
            bound_append, bound_ofText, List.append_nil, ih]
          rfl

end Template

/-- A list is a layer around each of its items. -/
theorem layer_commaSeparated (before after : List Template) :
    Layer (before.flatMap bound) (after.flatMap bound)
      fun body => Template.commaSeparated (before ++ body :: after) := by
  induction before with
  | nil =>
      cases after with
      | nil => exact ⟨[], [], rfl, rfl, fun body _ => (List.append_nil body).symm⟩
      | cons next rest =>
          refine ⟨[], ofText ", " ++ Template.commaSeparated (next :: rest), rfl, ?_, ?_⟩
          · rw [Template.bound_append, Template.bound_ofText, List.nil_append,
              Template.bound_commaSeparated]
          · intro body _
            exact List.append_assoc body (ofText ", ") _
  | cons first rest ih =>
      obtain ⟨front, back, frontBound, backBound, around⟩ := ih
      refine ⟨first ++ ofText ", " ++ front, back, ?_, backBound, ?_⟩
      · simp [frontBound]
      · intro body trace
        -- The item that is filled in stands behind the first one, so a comma follows the first.
        have others : rest ++ body :: after ≠ [] :=
          List.append_ne_nil_of_right_ne_nil _ (List.cons_ne_nil _ _)
        calc Template.commaSeparated (first :: (rest ++ body :: after))
            = first ++ ofText ", " ++ Template.commaSeparated (rest ++ body :: after) :=
              Template.commaSeparated_cons_of_ne_nil first others
          _ = first ++ ofText ", " ++ (front ++ body ++ back) := by rw [← around body trace]
          _ = first ++ ofText ", " ++ front ++ body ++ back := by
              simp only [List.append_assoc]

namespace Layout

variable (layout : Layout)

private theorem joinRestPieces_append (first second : List Piece) :
    layout.joinRestPieces (first ++ second) =
      layout.joinRestPieces first ++ layout.joinRestPieces second := by
  induction first with
  | nil => rfl
  | cons piece rest ih =>
      rw [List.cons_append, joinRestPieces, joinRestPieces, ih]
      simp only [List.append_assoc]

private theorem bound_joinRestPieces (pieces : List Piece) :
    (layout.joinRestPieces pieces).bound = pieces.flatMap (·.template.bound) := by
  induction pieces with
  | nil => rfl
  | cons piece rest ih => simp [joinRestPieces, ih]

private theorem bound_joinPieces (pieces : List Piece) :
    (layout.joinPieces pieces).bound = pieces.flatMap (·.template.bound) := by
  cases pieces with
  | nil => rfl
  | cons first rest => simp [joinPieces, bound_joinRestPieces]

end Layout

/-- What leaves no trace binds nothing. -/
theorem bound_filter (pieces : List Piece) :
    (pieces.filter fun piece => !piece.template.isEmpty).flatMap (·.template.bound) =
      pieces.flatMap (·.template.bound) := by
  induction pieces with
  | nil => rfl
  | cons piece rest ih =>
      rw [List.filter_cons, List.flatMap_cons, ← ih]
      split
      next => rw [List.flatMap_cons]
      next skipped =>
        have nothing : piece.template = [] := by simpa using skipped
        rw [nothing, Template.bound_nil, List.nil_append]

private theorem layer_joinPieces (layout : Layout) (before after : List Piece) (glue : Glue) :
    Layer (before.flatMap (·.template.bound)) (after.flatMap (·.template.bound))
      fun body => layout.joinPieces (before ++ ⟨glue, body⟩ :: after) := by
  cases before with
  | nil =>
      exact ⟨[], layout.joinRestPieces after, rfl, layout.bound_joinRestPieces after,
        fun _ _ => rfl⟩
  | cons first rest =>
      refine ⟨layout.joinPieces (first :: rest) ++ ofText (layout.before glue),
        layout.joinRestPieces after, ?_, layout.bound_joinRestPieces after, ?_⟩
      · rw [Template.bound_append, Template.bound_ofText, List.append_nil,
          layout.bound_joinPieces]
      · intro body _
        simp only [List.cons_append, Layout.joinPieces, layout.joinRestPieces_append,
          Layout.joinRestPieces, List.append_assoc]

private theorem layer_headed (layout : Layout) : Layer [] [] layout.headedTemplate := by
  by_cases noKeyword : layout.keyword.isEmpty = true
  · refine ⟨[], [], rfl, rfl, ?_⟩
    intro body _
    rw [Layout.headedTemplate, if_pos noKeyword, List.nil_append, List.append_nil]
  · refine ⟨ofText layout.keyword ++ ofText " ", [], by simp, rfl, ?_⟩
    intro body trace
    rw [Layout.headedTemplate, if_neg noKeyword, if_neg (by simpa using trace),
      List.append_nil]

private theorem layer_parentheses (wraps : Bool) :
    Layer [] [] fun body => if wraps then between "(" body ")" else body := by
  cases wraps with
  | true => exact layer_between "(" ")"
  | false => exact layer_none

/-- The siblings that leave a trace stand around a child with separators between them, and
then come the parentheses and the keyword of the node. -/
theorem layer_composePieces (layout : Layout) (before after : List Piece) (glue : Glue) :
    Layer (before.flatMap (·.template.bound)) (after.flatMap (·.template.bound))
      fun body => layout.composePieces (before ++ ⟨glue, body⟩ :: after) := by
  let leavesTrace := fun piece : Piece => !piece.template.isEmpty
  let count := (before.filter leavesTrace).length + 1 + (after.filter leavesTrace).length
  have joined := layer_joinPieces layout (before.filter leavesTrace)
    (after.filter leavesTrace) glue
  rw [bound_filter, bound_filter] at joined
  have wrapped := layer_parentheses (layout.wraps count)
  obtain ⟨front, back, frontBound, backBound, around⟩ :=
    (joined.within wrapped).within (layer_headed layout)
  refine ⟨front, back, by simpa using frontBound, by simpa using backBound, ?_⟩
  intro body trace
  rw [← around body trace]
  have kept : (before ++ ⟨glue, body⟩ :: after).filter leavesTrace =
      before.filter leavesTrace ++ ⟨glue, body⟩ :: after.filter leavesTrace := by
    rw [List.filter_append, List.filter_cons, if_pos (by simpa [leavesTrace] using trace)]
  have length : (before.filter leavesTrace ++ ⟨glue, body⟩ :: after.filter leavesTrace).length =
      count := by
    simp [count]
    omega
  show layout.composePieces _ = _
  simp only [Layout.composePieces, kept, length, leavesTrace]

end ClauseTree
