import ClauseTree.Proofs.SolidText
import ClauseTree.Render

/-!
# Templates

A template is a text with holes for bound constants.  Written in literal mode
a hole holds the literal of its value, written in prepared mode it holds a
placeholder, and either is solid.  So the decisions of the walk that look at
text, skipping an empty fragment, counting the written children and trimming a
tree, come out alike in both modes and can be made on the template.
-/

namespace ClauseTree

/-- A constant that prepared text binds. -/
structure Binding where
  value : Value
  castType : Option String
  outputName : Option Alias

def Binding.token (binding : Binding) : Token :=
  ⟨.constant binding.value true, binding.castType, binding.outputName⟩

/-- One place of a template. -/
inductive Cell where
  | char (c : Char)
  | hole (binding : Binding)

/-- A text with holes. -/
abbrev Template := List Cell

/-- A character writes itself, and a hole writes its constant without cast and
alias. -/
def Cell.write (mode : Mode) : Cell → Writing String
  | .char c => pure (String.singleton c)
  | .hole binding => binding.token.kind.write mode binding.token

namespace Template

/-- The text of a template in one of the modes, and what it binds. -/
def write (mode : Mode) : Template → Writing String
  | [] => pure ""
  | cell :: rest => do
      let first ← cell.write mode
      let others ← write mode rest
      pure (first ++ others)

def ofText (text : String) : Template :=
  text.toList.map .char

@[simp] theorem write_nil (mode : Mode) (parameters : Parameters) :
    write mode [] parameters = ("", parameters) := rfl

@[simp] theorem write_char (mode : Mode) (c : Char) (rest : Template)
    (parameters : Parameters) :
    write mode (.char c :: rest) parameters =
      (String.singleton c ++ (write mode rest parameters).1,
        (write mode rest parameters).2) := rfl

/-- The text of two templates in a row; the second starts from the parameters the first
leaves. -/
@[simp] theorem write_append (mode : Mode) :
    ∀ (left right : Template) (parameters : Parameters),
      write mode (left ++ right) parameters =
        ((write mode left parameters).1 ++
            (write mode right (write mode left parameters).2).1,
          (write mode right (write mode left parameters).2).2)
  | [], right, parameters => by simp
  | cell :: rest, right, parameters => by
      have ih := write_append mode rest right (cell.write mode parameters).2
      simp [write, ih, String.append_assoc]

/-- Literal text is written as it stands and binds nothing. -/
@[simp] theorem write_ofText (mode : Mode) (text : String) (parameters : Parameters) :
    write mode (ofText text) parameters = (text, parameters) := by
  have chars : ∀ chars : List Char,
      write mode (chars.map .char) parameters = (String.ofList chars, parameters) := by
    intro chars
    induction chars with
    | nil => rfl
    | cons c rest ih =>
        rw [List.map_cons, write_char, ih]
        simp
  rw [ofText, chars, String.ofList_toList]

def between (opening : String) (template : Template) (closing : String) : Template :=
  ofText opening ++ template ++ ofText closing

@[simp] theorem write_between (mode : Mode) (opening closing : String)
    (template : Template) (parameters : Parameters) :
    write mode (between opening template closing) parameters =
      (opening ++ (write mode template parameters).1 ++ closing,
        (write mode template parameters).2) := by
  simp [between, String.append_assoc]

end Template

/-! ### Emptiness and trimming -/

/-- What is written for a hole is solid in either mode. -/
theorem Cell.solid_hole (mode : Mode) (binding : Binding) (parameters : Parameters) :
    Text.Solid ((Cell.hole binding).write mode parameters).1 := by
  cases mode with
  | literal => exact binding.value.solid_sql
  | prepared style => exact style.solid_text _

namespace Template

/-- The places of a template that trimming may drop.  A hole is none of them. -/
def isBlankCell : Cell → Bool
  | .char c => Text.isBlank c
  | .hole _ => false

def trim (template : Template) : Template :=
  (template.dropWhile isBlankCell).rdropWhile isBlankCell

/-- Only the empty template is written as the empty text. -/
theorem toList_write_eq_nil (mode : Mode) (template : Template)
    (parameters : Parameters) :
    (write mode template parameters).1.toList = [] ↔ template = [] := by
  cases template with
  | nil => simp
  | cons cell rest =>
      cases cell with
      | char c => simp
      | hole binding =>
          have solid := Cell.solid_hole mode binding parameters
          simp [write, solid.nonempty]

private theorem isEmpty_write (mode : Mode) (template : Template) (parameters : Parameters) :
    (write mode template parameters).1.isEmpty = template.isEmpty := by
  rw [Bool.eq_iff_iff, String.isEmpty_iff, List.isEmpty_iff, ← String.toList_inj]
  exact toList_write_eq_nil mode template parameters

private theorem write_dropWhile (mode : Mode) :
    ∀ (template : Template) (parameters : Parameters),
      write mode (template.dropWhile isBlankCell) parameters =
        (String.ofList ((write mode template parameters).1.toList.dropWhile Text.isBlank),
          (write mode template parameters).2)
  | [], _ => rfl
  | .char c :: rest, parameters => by
      have ih := write_dropWhile mode rest parameters
      by_cases blank : Text.isBlank c = true
      · simp [isBlankCell, blank, ih]
      · simp [isBlankCell, blank]
  | .hole binding :: rest, parameters => by
      have solid := Cell.solid_hole mode binding parameters
      have kept := Text.dropWhile_append_of_solid solid
        (write mode rest ((Cell.hole binding).write mode parameters).2).1.toList
      simp [isBlankCell, write, kept]

private theorem write_rdropWhile (mode : Mode) :
    ∀ (template : Template) (parameters : Parameters),
      write mode (template.rdropWhile isBlankCell) parameters =
        (String.ofList (Text.trimEnd (write mode template parameters).1.toList),
          (write mode template parameters).2)
  | [], _ => rfl
  | .char c :: rest, parameters => by
      have ih := write_rdropWhile mode rest parameters
      have restGone := toList_write_eq_nil mode (rest.rdropWhile isBlankCell) parameters
      rw [ih, String.toList_ofList] at restGone
      rw [rdropWhile_cons, write_char, String.toList_append, String.toList_singleton,
        List.singleton_append, Text.trimEnd_cons]
      simp only [restGone]
      by_cases dropped : Text.isBlank c = true ∧ rest.rdropWhile isBlankCell = []
      · rw [dropped.2, write_nil, Prod.mk.injEq] at ih
        rw [if_pos dropped, isBlankCell, if_pos dropped, write_nil, ← ih.2]
      · rw [if_neg dropped, isBlankCell, if_neg dropped, write_char, ih,
          String.ofList_cons]
  | .hole binding :: rest, parameters => by
      have solid := Cell.solid_hole mode binding parameters
      have ih := write_rdropWhile mode rest ((Cell.hole binding).write mode parameters).2
      have kept := Text.trimEnd_append_of_last solid.last
        (write mode rest ((Cell.hole binding).write mode parameters).2).1.toList
      simp [rdropWhile_cons, isBlankCell, write, ih, kept]

/-- Trimming a template trims what is written for it. -/
theorem write_trim (mode : Mode) (template : Template) (parameters : Parameters) :
    write mode template.trim parameters =
      (Text.trim (write mode template parameters).1, (write mode template parameters).2) := by
  rw [trim, write_rdropWhile, write_dropWhile]
  simp [Text.trim]

end Template

/-! ### Composition

The composition of fragments, made on templates.  It takes its decisions before
anything is written, and they are those that the walk takes on the texts.
-/

/-- A child as a template, and how it is joined to the one before it. -/
structure Piece where
  glue : Glue
  template : Template

def writePieces (mode : Mode) : List Piece → Writing (List Fragment)
  | [] => pure []
  | piece :: rest => do
      let text ← piece.template.write mode
      let fragments ← writePieces mode rest
      pure (⟨piece.glue, text⟩ :: fragments)

def writeTemplates (mode : Mode) : List Template → Writing (List String)
  | [] => pure []
  | template :: rest => do
      let text ← template.write mode
      let texts ← writeTemplates mode rest
      pure (text :: texts)

namespace Template

def commaSeparated : List Template → Template
  | [] => []
  | [template] => template
  | template :: next :: rest =>
      template ++ ofText ", " ++ commaSeparated (next :: rest)

end Template

private theorem commaSeparated_cons_cons (text next : String) (rest : List String) :
    commaSeparated (text :: next :: rest) =
      text ++ ", " ++ commaSeparated (next :: rest) := by
  simp [commaSeparated]

/-- Commas between templates are commas between their texts. -/
theorem Template.write_commaSeparated (mode : Mode) :
    ∀ (templates : List Template) (parameters : Parameters),
      (commaSeparated templates).write mode parameters =
        (ClauseTree.commaSeparated (writeTemplates mode templates parameters).1,
          (writeTemplates mode templates parameters).2)
  | [], _ => rfl
  | [template], parameters => by
      simp [commaSeparated, writeTemplates, ClauseTree.commaSeparated]
  | template :: next :: rest, parameters => by
      have ih := write_commaSeparated mode (next :: rest) (template.write mode parameters).2
      simp [commaSeparated, writeTemplates, ih, commaSeparated_cons_cons, String.append_assoc]

namespace Layout

/-- Pieces behind another one, each with what joins it to the one before. -/
def joinRestPieces (layout : Layout) : List Piece → Template
  | [] => []
  | next :: rest =>
      Template.ofText (layout.before next.glue) ++ next.template ++
        layout.joinRestPieces rest

def joinPieces (layout : Layout) : List Piece → Template
  | [] => []
  | first :: rest => first.template ++ layout.joinRestPieces rest

def headedTemplate (layout : Layout) (body : Template) : Template :=
  if layout.keyword.isEmpty then body
  else if body.isEmpty then Template.ofText layout.keyword
  else Template.ofText layout.keyword ++ Template.ofText " " ++ body

/-- The template of a node from the pieces of its children. -/
def composePieces (layout : Layout) (pieces : List Piece) : Template :=
  let written := pieces.filter fun piece => !piece.template.isEmpty
  let body := layout.joinPieces written
  layout.headedTemplate
    (if layout.wraps written.length then Template.between "(" body ")" else body)

/-- The pieces that are left out are those whose fragments are skipped, and
they bind nothing. -/
theorem writePieces_filter (mode : Mode) :
    ∀ (pieces : List Piece) (parameters : Parameters),
      writePieces mode (pieces.filter fun piece => !piece.template.isEmpty) parameters =
        ((writePieces mode pieces parameters).1.filter fun fragment => !fragment.text.isEmpty,
          (writePieces mode pieces parameters).2)
  | [], _ => rfl
  | piece :: rest, parameters => by
      have ih := writePieces_filter mode rest (piece.template.write mode parameters).2
      have same := Template.isEmpty_write mode piece.template parameters
      by_cases skipped : piece.template.isEmpty = true
      · have binds : (piece.template.write mode parameters).2 = parameters := by
          rw [List.isEmpty_iff.1 skipped, Template.write_nil]
        rw [binds] at ih
        simp [writePieces, skipped, same, binds, ih]
      · simp [writePieces, skipped, same, ih]

private theorem length_writePieces (mode : Mode) :
    ∀ (pieces : List Piece) (parameters : Parameters),
      (writePieces mode pieces parameters).1.length = pieces.length
  | [], _ => rfl
  | piece :: rest, parameters => by
      simp [writePieces, length_writePieces mode rest]

private theorem write_joinRestPieces (layout : Layout) (mode : Mode) :
    ∀ (pieces : List Piece) (parameters : Parameters),
      (layout.joinRestPieces pieces).write mode parameters =
        (layout.joinRest (writePieces mode pieces parameters).1,
          (writePieces mode pieces parameters).2)
  | [], _ => rfl
  | piece :: rest, parameters => by
      have ih := write_joinRestPieces layout mode rest (piece.template.write mode parameters).2
      simp [joinRestPieces, writePieces, joinRest, ih, String.append_assoc]

/-- Joining templates and writing them out commute. -/
theorem write_joinPieces (layout : Layout) (mode : Mode) (pieces : List Piece)
    (parameters : Parameters) :
    (layout.joinPieces pieces).write mode parameters =
      (layout.joinWritten (writePieces mode pieces parameters).1,
        (writePieces mode pieces parameters).2) := by
  cases pieces with
  | nil => rfl
  | cons first rest =>
      simp [joinPieces, writePieces, joinWritten, write_joinRestPieces]

/-- Heading a template with a node's keyword and writing it out commute. -/
theorem write_headedTemplate (layout : Layout) (mode : Mode) (body : Template)
    (parameters : Parameters) :
    (layout.headedTemplate body).write mode parameters =
      (layout.headed (body.write mode parameters).1, (body.write mode parameters).2) := by
  have same := Template.isEmpty_write mode body parameters
  unfold headedTemplate headed
  by_cases noKeyword : layout.keyword.isEmpty = true
  · simp [noKeyword]
  · by_cases noBody : body.isEmpty = true
    · have binds : (body.write mode parameters).2 = parameters := by
        rw [List.isEmpty_iff.1 noBody, Template.write_nil]
      simp [noKeyword, noBody, same, binds]
    · simp [noKeyword, noBody, same, String.append_assoc]

/-- A node is composed alike from its pieces and from their fragments. -/
theorem write_composePieces (layout : Layout) (mode : Mode) (pieces : List Piece)
    (parameters : Parameters) :
    (layout.composePieces pieces).write mode parameters =
      (layout.compose (writePieces mode pieces parameters).1,
        (writePieces mode pieces parameters).2) := by
  have kept := writePieces_filter mode pieces parameters
  have count := length_writePieces mode
    (pieces.filter fun piece => !piece.template.isEmpty) parameters
  rw [kept] at count
  unfold composePieces compose
  dsimp only
  rw [write_headedTemplate, count]
  by_cases wrapped : layout.wraps
      (pieces.filter fun piece => !piece.template.isEmpty).length = true
  · simp [wrapped, write_joinPieces, kept]
  · simp [wrapped, write_joinPieces, kept]

end Layout

end ClauseTree
