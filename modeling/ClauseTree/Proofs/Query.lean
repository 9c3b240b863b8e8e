import ClauseTree.Proofs.Formula
import ClauseTree.Statement.Select

/-!
# Queries as they are read

The grammar of PostgreSQL for queries, as far as it decides what belongs to what, as a
reader from texts to queries.  Set operators associate to the left, and `INTERSECT` binds
tighter than the other two.  Named queries in front and what sorts, limits or locks rows at
the end belong to the whole query around them, unless parentheses keep them in an operand.
What a `SELECT` consists of is left as it is.

The words that mark these places are reserved, so a name is spelled like one of them only in
quotes, behind a dot or behind `AS`.  Words are told apart by the blanks of Unicode, as
`Sql.charClass` says, where PostgreSQL has those of ASCII only.
-/

namespace ClauseTree.Sql

/-! ### Queries -/

inductive Query where
  /-- `SELECT`, `VALUES` or `TABLE`, with all that belongs to it. -/
  | simple (parts : List Part)
  | combined (operator : SetOperator) (left right : Query)
  /-- A query with named queries in front and clauses behind. -/
  | clauses (named : List Part) (body : Query) (trailing : List Part)
deriving Repr

end ClauseTree.Sql

namespace ClauseTree

def SetOperator.isIntersection : SetOperator → Bool
  | .intersect => true
  | .intersectAll => true
  | .intersectDistinct => true
  | _ => false

/-- The words of a set operator. -/
def SetOperator.words : SetOperator → List String
  | .union => ["UNION"]
  | .unionAll => ["UNION", "ALL"]
  | .unionDistinct => ["UNION", "DISTINCT"]
  | .intersect => ["INTERSECT"]
  | .intersectAll => ["INTERSECT", "ALL"]
  | .intersectDistinct => ["INTERSECT", "DISTINCT"]
  | .except => ["EXCEPT"]
  | .exceptAll => ["EXCEPT", "ALL"]
  | .exceptDistinct => ["EXCEPT", "DISTINCT"]

namespace Sql

/-- A query behind the set operator before it, if there is one. -/
def Query.behind (front : Option (Query × SetOperator)) (query : Query) : Query :=
  front.elim query fun before => .combined before.2 before.1 query

/-- Operands with set operators between them.  In front of the current operand stand the
operators that do not bind tighter. -/
def grouped (front : Option (Query × SetOperator)) (current : Query) :
    List (SetOperator × Query) → Query
  | [] => current.behind front
  | (operator, operand) :: rest =>
      if operator.isIntersection then grouped front (.combined operator current operand) rest
      else grouped (some (current.behind front, operator)) operand rest

/-- A query before its set operators are grouped. -/
structure Outline where
  named : List Part
  first : Query
  rest : List (SetOperator × Query)
  trailing : List Part
deriving Repr

def Outline.query (outline : Outline) : Query :=
  let body := grouped none outline.first outline.rest
  if outline.named.isEmpty && outline.trailing.isEmpty then body
  else .clauses outline.named body outline.trailing

/-! ### Words -/

def Part.spells (keyword : String) : Part → Bool
  | .lexeme word => word.spells keyword
  | .enclosed .. => false

/-- The word of a set operator, and the operators that it stands for by itself and in front
of `ALL` and `DISTINCT`. -/
structure SetWord where
  keyword : String
  plain : SetOperator
  all : SetOperator
  distinct : SetOperator

namespace SetWord

def union : SetWord := ⟨"UNION", .union, .unionAll, .unionDistinct⟩
def intersect : SetWord := ⟨"INTERSECT", .intersect, .intersectAll, .intersectDistinct⟩
def except : SetWord := ⟨"EXCEPT", .except, .exceptAll, .exceptDistinct⟩

end SetWord

def setWords : List SetWord :=
  [.union, .intersect, .except]

/-- What a part does in a query. -/
inductive Joint where
  | operator (word : SetWord)
  /-- Sorting, limiting and locking begin here. -/
  | trailing
  /-- A name follows, however it is spelled. -/
  | label
  /-- The statement ends here, and no query goes on behind it. -/
  | stop
  | operand

def Part.isStop : Part → Bool
  | .lexeme word => word = .mark ';'
  | .enclosed .. => false

def Part.joint (part : Part) : Joint :=
  if part.spells "AS" then .label
  else if part.isStop then .stop
  else if ["ORDER", "LIMIT", "OFFSET", "FETCH", "FOR"].any part.spells then .trailing
  else ((setWords.find? fun word => part.spells word.keyword).map .operator).getD .operand

/-- Whether a part can stand among what is at the end of a query. -/
def Part.isTrailing (part : Part) : Bool :=
  match part.joint with
  | .operator _ => false
  | .stop => false
  | _ => true

/-- Whether a query without named queries can begin here, if not with a parenthesis. -/
def Part.isHead (part : Part) : Bool :=
  ["SELECT", "VALUES", "TABLE"].any part.spells

/-! ### Reading a query -/

/-- A part, with the query that it is by itself. -/
structure Component where
  part : Part
  query : Option Query

/-- The operands of a query with the operators between them, and what stands behind. -/
structure Split where
  first : List Component
  rest : List (SetOperator × List Component)
  trailing : List Component

namespace Split

/-- Components in front of the first operand. -/
def extend (more : List Component) (split : Split) : Split :=
  { split with first := more ++ split.first }

/-- The first operand behind an operator.  It may begin with `ALL` or `DISTINCT`, which
belong to the operator. -/
def behind (word : SetWord) (split : Split) : Split :=
  let operand :=
    match split.first with
    | [] => (word.plain, [])
    | head :: rest =>
        if head.part.spells "ALL" then (word.all, rest)
        else if head.part.spells "DISTINCT" then (word.distinct, rest)
        else (word.plain, head :: rest)
  { first := [], rest := operand :: split.rest, trailing := split.trailing }

end Split

/-- Split a query at its set operators.  None of them can stand behind the end of the last
operand. -/
def split? : List Component → Option Split
  | [] => some { first := [], rest := [], trailing := [] }
  | head :: rest =>
      match head.part.joint with
      | .operator word => (split? rest).map (.behind word)
      | .trailing =>
          if rest.all fun component => component.part.isTrailing then
            some { first := [], rest := [], trailing := head :: rest }
          else none
      | .stop => none
      | .label =>
          match rest with
          | [] => none
          | label :: rest => (split? rest).map (.extend [head, label])
      | .operand => (split? rest).map (.extend [head])

section

variable {head : Component} (rest : List Component)

/-- At a set operator the split starts a new operand. -/
theorem split?_operator {word : SetWord} (joint : head.part.joint = .operator word) :
    split? (head :: rest) = (split? rest).map (.behind word) := by
  rw [split?.eq_def]
  simp only [joint]

/-- At a trailing clause the split ends, if nothing but trailing clauses follows. -/
theorem split?_trailing (joint : head.part.joint = .trailing) :
    split? (head :: rest) =
      if rest.all fun component => component.part.isTrailing then
        some { first := [], rest := [], trailing := head :: rest }
      else none := by
  rw [split?.eq_def]
  simp only [joint]

theorem split?_stop (joint : head.part.joint = .stop) : split? (head :: rest) = none := by
  rw [split?.eq_def]
  simp only [joint]

/-- `AS` goes to its operand together with the component behind it. -/
theorem split?_label (joint : head.part.joint = .label) (label : Component) :
    split? (head :: label :: rest) = (split? rest).map (.extend [head, label]) := by
  rw [split?.eq_def]
  simp only [joint]

theorem split?_label_nil (joint : head.part.joint = .label) : split? [head] = none := by
  rw [split?.eq_def]
  simp only [joint]

/-- Any other component goes to the operand it stands in. -/
theorem split?_operand (joint : head.part.joint = .operand) :
    split? (head :: rest) = (split? rest).map (.extend [head]) := by
  rw [split?.eq_def]
  simp only [joint]

end

/-- An operand is a query in parentheses, or it begins with a word that queries begin
with. -/
def operand? : List Component → Option Query
  | [⟨.enclosed _ _, query⟩] => query
  | head :: rest =>
      if head.part.isHead then some (.simple ((head :: rest).map Component.part)) else none
  | [] => none

namespace Split

/-- The named queries in front of the first operand. -/
def named (split : Split) : List Component :=
  if split.first.head?.any fun head => head.part.spells "WITH" then
    split.first.takeWhile fun component => !component.part.isHead
  else []

def outline? (split : Split) : Option Outline := do
  let first ← operand? (split.first.drop split.named.length)
  let rest ← split.rest.mapM fun operand => (operand? operand.2).map (operand.1, ·)
  pure
    { named := split.named.map Component.part
      first := first
      rest := rest
      trailing := split.trailing.map Component.part }

end Split

mutual

/-- The query that a part is by itself: what parentheses enclose. -/
def Part.query? : Part → Option Query
  | .lexeme _ => none
  | .enclosed bracket parts =>
      if bracket = .parenthesis then
        ((split? (components parts)).bind Split.outline?).map Outline.query
      else none

def components : List Part → List Component
  | [] => []
  | part :: rest => ⟨part, part.query?⟩ :: components rest

end

def outline? (parts : List Part) : Option Outline :=
  (split? (components parts)).bind Split.outline?

/-- The outline of a text that may stand in front of others: no bracket, no quotes and no
comment is left open. -/
def fragmentOutline? (fragment : String) : Option Outline :=
  (parts? fragment).bind outline?

/-- The outline of a text as a whole.  The line end behind it ends a comment in the last
line. -/
def textOutline? (text : String) : Option Outline :=
  (parts? (text ++ "\n")).bind outline?

/-- The query of a text as a whole. -/
def query? (text : String) : Option Query :=
  (textOutline? text).map Outline.query

/-! ### Grouping -/

private theorem grouped_of_intersections (operator : SetOperator) (left : Query) :
    ∀ {rest : List (SetOperator × Query)} (current : Query),
      (∀ operation ∈ rest, operation.1.isIntersection = true) →
      grouped (some (left, operator)) current rest =
        .combined operator left (grouped none current rest)
  | [], _, _ => rfl
  | operation :: rest, current, tight => by
      have tighter := tight operation List.mem_cons_self
      have ih := grouped_of_intersections operator left (.combined operation.1 current operation.2)
        fun other member => tight other (List.mem_cons_of_mem _ member)
      rw [grouped, if_pos tighter, ih, grouped, if_pos tighter]

/-- An operator that does not bind tighter takes all that stands before it as its left
operand. -/
theorem grouped_of_not_intersections (operator : SetOperator) (left : Query) :
    ∀ {rest : List (SetOperator × Query)} (current : Query),
      (¬ ∀ operation ∈ rest, operation.1.isIntersection = true) →
      ∃ last all right, grouped (some (left, operator)) current rest = .combined last all right ∧
        sizeOf left < sizeOf all
  | [], _, loose => absurd (fun _ member => absurd member List.not_mem_nil) loose
  | operation :: rest, current, loose => by
      by_cases tighter : operation.1.isIntersection = true
      · have others : ¬ ∀ other ∈ rest, other.1.isIntersection = true := by
          intro tight
          exact loose (List.forall_mem_cons.mpr ⟨tighter, tight⟩)
        rw [grouped, if_pos tighter]
        exact grouped_of_not_intersections operator left _ others
      · have larger : sizeOf left < sizeOf (Query.combined operator left current) := by
          simp only [Query.combined.sizeOf_spec]
          omega
        rw [grouped, if_neg tighter]
        by_cases tight : ∀ other ∈ rest, other.1.isIntersection = true
        · exact ⟨_, _, _, grouped_of_intersections _ _ _ tight, larger⟩
        · obtain ⟨last, all, right, eq, largest⟩ :=
            grouped_of_not_intersections operation.1 (.combined operator left current)
              operation.2 tight
          exact ⟨last, all, right, eq, Nat.lt_trans larger largest⟩

/-- What has been combined stays within the left operand. -/
theorem grouped_combined (operator : SetOperator) (left right : Query) :
    ∀ rest : List (SetOperator × Query),
      ∃ last all others, grouped none (.combined operator left right) rest =
          .combined last all others ∧
        sizeOf left ≤ sizeOf all ∧ (rest ≠ [] → sizeOf left < sizeOf all)
  | [] => ⟨operator, left, right, rfl, Nat.le_refl _, fun nonempty => absurd rfl nonempty⟩
  | operation :: rest => by
      have larger : sizeOf left < sizeOf (Query.combined operator left right) := by
        simp only [Query.combined.sizeOf_spec]
        omega
      suffices found : ∃ last all others,
          grouped none (.combined operator left right) (operation :: rest) =
              .combined last all others ∧
            sizeOf (Query.combined operator left right) ≤ sizeOf all by
        obtain ⟨last, all, others, eq, inside⟩ := found
        have largest := Nat.lt_of_lt_of_le larger inside
        exact ⟨last, all, others, eq, Nat.le_of_lt largest, fun _ => largest⟩
      by_cases tighter : operation.1.isIntersection = true
      · rw [grouped, if_pos tighter]
        obtain ⟨last, all, others, eq, inside, -⟩ :=
          grouped_combined operation.1 (.combined operator left right) operation.2 rest
        exact ⟨last, all, others, eq, inside⟩
      · rw [grouped, if_neg tighter]
        by_cases tight : ∀ other ∈ rest, other.1.isIntersection = true
        · exact ⟨_, _, _, grouped_of_intersections _ _ _ tight, Nat.le_refl _⟩
        · obtain ⟨last, all, others, eq, inside⟩ :=
            grouped_of_not_intersections operation.1 (.combined operator left right)
              operation.2 tight
          exact ⟨last, all, others, eq, Nat.le_of_lt inside⟩

/-- The operators behind an operand stay with it only if all of them bind tighter than the
one before it. -/
theorem grouped_eq_combined_iff (left first : Query) (operator : SetOperator)
    (rest : List (SetOperator × Query)) :
    grouped none left ((operator, first) :: rest) =
        .combined operator left (grouped none first rest) ↔
      rest = [] ∨ operator.isIntersection = false ∧
        ∀ operation ∈ rest, operation.1.isIntersection = true := by
  constructor
  · intro same
    by_cases nonempty : rest = []
    · exact .inl nonempty
    · refine .inr ?_
      -- Any other grouping would put the left operand inside of itself, which the sizes exclude.
      by_cases tighter : operator.isIntersection = true
      · rw [grouped, if_pos tighter] at same
        obtain ⟨last, all, others, eq, -, larger⟩ := grouped_combined operator left first rest
        rw [eq, Query.combined.injEq] at same
        exact absurd (larger nonempty) (by rw [same.2.1]; exact Nat.lt_irrefl _)
      · refine ⟨Bool.not_eq_true _ ▸ tighter, ?_⟩
        refine Classical.byContradiction fun loose => ?_
        rw [grouped, if_neg tighter] at same
        obtain ⟨last, all, others, eq, larger⟩ :=
          grouped_of_not_intersections operator left first loose
        rw [show left.behind none = left from rfl, eq, Query.combined.injEq] at same
        exact absurd larger (by rw [same.2.1]; exact Nat.lt_irrefl _)
  · rintro (rfl | ⟨loose, tight⟩)
    · rw [grouped.eq_2]
      split
      · rfl
      · rfl
    · rw [grouped, loose]
      exact grouped_of_intersections operator left first tight

end Sql

end ClauseTree
