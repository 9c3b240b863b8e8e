import ClauseTree.Render

/-!
# Conditions

A sequence of predicates and nested groups, joined by connectives.  A sequence
is pushed onto another as one term: a single plain term as it is, anything
larger as a group.  Whether a group is put in parentheses is left to the layout
of its node.
-/

namespace ClauseTree

/-- How a term is joined to the terms before it. -/
inductive Connective where
  | and
  | or
  | andNot
  | orNot
deriving DecidableEq, Repr

namespace Connective

/-- The node that a joined term stands in. -/
def kind : Connective → NodeKind
  | .and => .and
  | .or => .or
  | .andNot => .andNot
  | .orNot => .orNot

def isNegated : Connective → Bool
  | .andNot => true
  | .orNot => true
  | _ => false

end Connective

/-- Where a term stands in its sequence. -/
inductive Link where
  /-- A plain first term. -/
  | lead
  /-- A negated first term. -/
  | leadNot
  /-- A term behind others. -/
  | joined (connective : Connective)
deriving DecidableEq, Repr

/-- The node that a term stands in, if it is not a plain first one. -/
def Link.kind? : Link → Option NodeKind
  | .lead => none
  | .leadNot => some .not
  | .joined connective => some connective.kind

mutual

/-- A predicate or a nested group. -/
inductive Term where
  /-- Tokens with blanks between them. -/
  | predicate (tokens : List Token)
  | group (items : List Item)

/-- A term in its place. -/
structure Item where
  link : Link
  term : Term

end

/-- A sequence of terms. -/
structure Conditions where
  items : List Item

mutual

def Term.same : Term → Term → Bool
  | .predicate a, .predicate b => sameTokens a b
  | .group a, .group b => sameItems a b
  | _, _ => false

def Item.same : Item → Item → Bool
  | ⟨link, term⟩, ⟨link', term'⟩ => link == link' && term.same term'

def sameItems : List Item → List Item → Bool
  | [], [] => true
  | a :: as, b :: bs => a.same b && sameItems as bs
  | _, _ => false

end

instance : BEq Conditions := ⟨fun a b => sameItems a.items b.items⟩

mutual

/-- The node of a term. -/
def Term.child : Term → Child
  | .predicate tokens => .node .phrase (tokens.map .leaf)
  | .group items => .node .group (itemChildren items)

/-- The node of a term, inside the node of its link. -/
def Item.child : Item → Child
  | ⟨link, term⟩ =>
      match link.kind? with
      | none => term.child
      | some kind => .node kind [term.child]

/-- The nodes of several terms. -/
def itemChildren : List Item → List Child
  | [] => []
  | item :: rest => item.child :: itemChildren rest

end

mutual

/-- Write a term. -/
def Term.steps : Term → List Step
  | .predicate tokens => [.start .phrase] ++ tokens.map .leaf ++ [.close]
  | .group items => [.start .group] ++ itemSteps items ++ [.close]

/-- Write a term inside the node of its link. -/
def Item.steps : Item → List Step
  | ⟨link, term⟩ =>
      match link.kind? with
      | none => term.steps
      | some kind => [.start kind] ++ term.steps ++ [.close]

/-- Write several terms. -/
def itemSteps : List Item → List Step
  | [] => []
  | item :: rest => item.steps ++ itemSteps rest

end

mutual

/-- The steps of a term write its node. -/
theorem Term.writes : ∀ term : Term, Writes term.steps [term.child]
  | .predicate tokens => (Writes.leaves tokens).node .phrase
  | .group items => (writes_itemSteps items).node .group

/-- The steps of a term write its node inside that of its link. -/
theorem Item.writes : ∀ item : Item, Writes item.steps [item.child]
  | ⟨.lead, term⟩ => term.writes
  | ⟨.leadNot, term⟩ => term.writes.node .not
  | ⟨.joined connective, term⟩ => term.writes.node connective.kind

/-- The steps of several terms write their nodes in a row. -/
theorem writes_itemSteps : ∀ items : List Item, Writes (itemSteps items) (itemChildren items)
  | [] => .nil
  | item :: rest => item.writes.append (writes_itemSteps rest)

end

namespace Conditions

/-- No terms; the first one pushed becomes the leading term. -/
def empty : Conditions := ⟨[]⟩

instance : Inhabited Conditions := ⟨empty⟩

/-- One predicate: tokens with blanks between them. -/
def predicate (tokens : List Token) : Conditions :=
  ⟨[⟨.lead, .predicate tokens⟩]⟩

/-- The number of terms of the sequence, a group counting once. -/
def size (conditions : Conditions) : Nat :=
  conditions.items.length

def isEmpty (conditions : Conditions) : Bool :=
  conditions.items.isEmpty

/-- The sequence as one term: a single plain term as it is, anything else as a
group. -/
def asTerm (conditions : Conditions) : Term :=
  match conditions.items with
  | [⟨.lead, term⟩] => term
  | items => .group items

/-- Append a sequence as one term.  On an empty sequence the connective is
dropped, except that a negated one leads with `NOT`; pushing nothing changes
nothing. -/
def push (conditions : Conditions) (connective : Connective) (other : Conditions) :
    Conditions :=
  if other.isEmpty then conditions
  else
    let link :=
      if conditions.isEmpty then
        if connective.isNegated then Link.leadNot else Link.lead
      else Link.joined connective
    ⟨conditions.items ++ [⟨link, other.asTerm⟩]⟩

/-- A sequence that is gathered into one term first is pushed as the same term. -/
theorem push_gathered (conditions group : Conditions) (connective : Connective) :
    conditions.push connective (empty.push .and group) = conditions.push connective group := by
  by_cases nothing : group.isEmpty = true
  · have gathered : empty.push .and group = empty := if_pos nothing
    have unchanged : conditions.push connective group = conditions := if_pos nothing
    rw [gathered, unchanged]
    rfl
  · have gathered : empty.push .and group = ⟨[⟨.lead, group.asTerm⟩]⟩ := if_neg nothing
    rw [gathered, push, push, if_neg nothing]
    rfl

/-- Take over a whole sequence without parentheses, or push it when there are
terms already. -/
def install (conditions other : Conditions) : Conditions :=
  if conditions.isEmpty then other else conditions.push .and other

/-- `left operator right` -/
def comparison (left operator right : Token) : Conditions :=
  predicate [left, operator, right]

/-- `field BETWEEN low AND high` -/
def between (field low high : Token) : Conditions :=
  predicate [field, .name "BETWEEN", low, .name "AND", high]

/-- `field NOT BETWEEN low AND high` -/
def notBetween (field low high : Token) : Conditions :=
  predicate [field, .name "NOT BETWEEN", low, .name "AND", high]

/-- `EXISTS (query)` -/
def existing (query : Tree) : Conditions :=
  predicate [.name "EXISTS", .subQuery query]

/-- `NOT EXISTS (query)` -/
def notExisting (query : Tree) : Conditions :=
  predicate [.name "NOT EXISTS", .subQuery query]

/-- `NOT` before a sequence. -/
def negation (conditions : Conditions) : Conditions :=
  empty.push .andNot conditions

/-- The nodes of the terms. -/
def children (conditions : Conditions) : List Child :=
  itemChildren conditions.items

/-- A clause of the terms behind a keyword, or nothing when there are none. -/
def clause (conditions : Conditions) (kind : NodeKind) : List Child :=
  if conditions.isEmpty then [] else [.node kind conditions.children]

/-- Write the terms. -/
def steps (conditions : Conditions) : List Step :=
  itemSteps conditions.items

/-- Write the terms behind a keyword, or nothing when there are none. -/
def clauseSteps (conditions : Conditions) (kind : NodeKind) : List Step :=
  if conditions.isEmpty then [] else [.start kind] ++ conditions.steps ++ [.close]

/-- The steps of a clause write its node, or nothing when there are no terms. -/
theorem writes_clauseSteps (conditions : Conditions) (kind : NodeKind) :
    Writes (conditions.clauseSteps kind) (conditions.clause kind) :=
  ((writes_itemSteps conditions.items).node kind).absentIf conditions.isEmpty

/-- Write the terms into the innermost open node of a tree. -/
def writeTo (conditions : Conditions) (tree : Tree) : Tree :=
  tree.written conditions.steps

/-- Writing conditions into a tree attaches the nodes of their terms. -/
theorem writeTo_eq_attach (conditions : Conditions) (tree : Tree) :
    conditions.writeTo tree = tree.attach conditions.children :=
  (writes_itemSteps conditions.items).written tree

/-- The literal text of the terms by themselves. -/
def sql (conditions : Conditions) : String :=
  (conditions.writeTo .empty).sql

end Conditions

end ClauseTree
