import ClauseTree.Proofs.Traversal

/-!
# Sites

A site is a tree with one place in it where another tree can stand: under a leaf, or inside
of the token there, at any depth and through the trees that tokens hold.  A token at the
place holds the tree as a sub-query or as a statement without parentheses.

A tree that is put at a site is met there by the traversal.  And speaking of sites loses
nothing: wherever the traversal of a tree comes upon a token that holds another tree, there
is a site that the other one stands at.
-/

namespace ClauseTree

mutual

/-- A token with a place in it. -/
structure TokenSite where
  kind : KindSite
  castType : Option String
  outputName : Option Alias

/-- The place itself, or a token around it. -/
inductive KindSite where
  | subQuery
  | statement
  | array (before : List Token) (site : TokenSite) (after : List Token)
  | list (before : List Token) (site : TokenSite) (after : List Token)
  | call (name : String) (site : TokenSite)
  | applied (symbol : String) (site : TokenSite)
  | inSubQuery (site : TreeSite)
  | inStatement (site : TreeSite)
  | values (rowsBefore : List (List Token)) (before : List Token) (site : TokenSite)
      (after : List Token) (rowsAfter : List (List Token))

/-- A child with a place in it. -/
inductive ChildSite where
  | leaf (site : TokenSite)
  | node (kind : NodeKind) (before : List Child) (site : ChildSite) (after : List Child)

/-- A tree with a place in it.  Behind a finished child there may be an open node. -/
inductive TreeSite where
  | here (before : List Child) (site : ChildSite) (after : List Child)
  | finished (before : List Child) (site : ChildSite) (after : List Child) (kind : NodeKind)
      (rest : Tree)
  | inside (before : List Child) (kind : NodeKind) (site : TreeSite)

end

/-! ### Filling the place -/

mutual

def TokenSite.fill (tree : Tree) : TokenSite → Token
  | ⟨kind, castType, outputName⟩ => ⟨kind.fill tree, castType, outputName⟩

def KindSite.fill (tree : Tree) : KindSite → TokenKind
  | .subQuery => .subQuery tree
  | .statement => .statement tree
  | .array before site after => .array (before ++ site.fill tree :: after)
  | .list before site after => .list (before ++ site.fill tree :: after)
  | .call name site => .call name (site.fill tree)
  | .applied symbol site => .applied symbol (site.fill tree)
  | .inSubQuery site => .subQuery (site.fill tree)
  | .inStatement site => .statement (site.fill tree)
  | .values rowsBefore before site after rowsAfter =>
      .values (rowsBefore ++ (before ++ site.fill tree :: after) :: rowsAfter)

def ChildSite.fill (tree : Tree) : ChildSite → Child
  | .leaf site => .leaf (site.fill tree)
  | .node kind before site after => .node kind (before ++ site.fill tree :: after)

def TreeSite.fill (tree : Tree) : TreeSite → Tree
  | .here before site after => .here (before ++ site.fill tree :: after)
  | .finished before site after kind rest =>
      .inside (before ++ site.fill tree :: after) kind rest
  | .inside before kind site => .inside before kind (site.fill tree)

end

/-! ### What is met before the place and behind it

The tokens around the place are neither: they are not done with before the tree at the
place is.
-/

mutual

def TokenSite.before : TokenSite → List Token
  | ⟨kind, _, _⟩ => kind.before

def KindSite.before : KindSite → List Token
  | .subQuery => []
  | .statement => []
  | .array before site _ => tokensTraversal before ++ site.before
  | .list before site _ => tokensTraversal before ++ site.before
  | .call _ site => site.before
  | .applied _ site => site.before
  | .inSubQuery site => site.before
  | .inStatement site => site.before
  | .values rowsBefore before site _ _ =>
      rowsTraversal rowsBefore ++ (tokensTraversal before ++ site.before)

def ChildSite.before : ChildSite → List Token
  | .leaf site => site.before
  | .node _ before site _ => childrenTraversal before ++ site.before

def TreeSite.before : TreeSite → List Token
  | .here before site _ => childrenTraversal before ++ site.before
  | .finished before site _ _ _ => childrenTraversal before ++ site.before
  | .inside before _ site => childrenTraversal before ++ site.before

end

mutual

def TokenSite.after : TokenSite → List Token
  | ⟨kind, _, _⟩ => kind.after

def KindSite.after : KindSite → List Token
  | .subQuery => []
  | .statement => []
  | .array _ site after => site.after ++ tokensTraversal after
  | .list _ site after => site.after ++ tokensTraversal after
  | .call _ site => site.after
  | .applied _ site => site.after
  | .inSubQuery site => site.after
  | .inStatement site => site.after
  | .values _ _ site after rowsAfter =>
      site.after ++ tokensTraversal after ++ rowsTraversal rowsAfter

def ChildSite.after : ChildSite → List Token
  | .leaf site => site.after
  | .node _ _ site after => site.after ++ childrenTraversal after

def TreeSite.after : TreeSite → List Token
  | .here _ site after => site.after ++ childrenTraversal after
  | .finished _ site after _ rest => site.after ++ childrenTraversal after ++ rest.traversal
  | .inside _ _ site => site.after

end

mutual

/-- How many tokens the traversal meets before the one that holds the tree at the place. -/
def TokenSite.index : TokenSite → Nat
  | ⟨kind, _, _⟩ => kind.index

/-- As for the whole token, which is met before what is inside of it. -/
def KindSite.index : KindSite → Nat
  | .subQuery => 0
  | .statement => 0
  | .array before site _ => (tokensTraversal before).length + site.index + 1
  | .list before site _ => (tokensTraversal before).length + site.index + 1
  | .call _ site => site.index + 1
  | .applied _ site => site.index + 1
  | .inSubQuery site => site.index + 1
  | .inStatement site => site.index + 1
  | .values rowsBefore before site _ _ =>
      (rowsTraversal rowsBefore).length + ((tokensTraversal before).length + site.index) + 1

def ChildSite.index : ChildSite → Nat
  | .leaf site => site.index
  | .node _ before site _ => (childrenTraversal before).length + site.index

def TreeSite.index : TreeSite → Nat
  | .here before site _ => (childrenTraversal before).length + site.index
  | .finished before site _ _ _ => (childrenTraversal before).length + site.index
  | .inside before _ site => (childrenTraversal before).length + site.index

end

/-! ### Every site is a place -/

/-- The token has the tree standing in it, with or without parentheses. -/
def Token.Holds (token : Token) (tree : Tree) : Prop :=
  token.kind = .subQuery tree ∨ token.kind = .statement tree

private theorem tokensTraversal_append (first second : List Token) :
    tokensTraversal (first ++ second) = tokensTraversal first ++ tokensTraversal second := by
  induction first with
  | nil => rfl
  | cons token rest ih =>
      rw [List.cons_append, tokensTraversal, tokensTraversal, ih, List.append_assoc]

private theorem rowsTraversal_append (first second : List (List Token)) :
    rowsTraversal (first ++ second) = rowsTraversal first ++ rowsTraversal second := by
  induction first with
  | nil => rfl
  | cons row rest ih =>
      rw [List.cons_append, rowsTraversal, rowsTraversal, ih, List.append_assoc]

/-- The children of two lists are met in a row. -/
theorem childrenTraversal_append (first second : List Child) :
    childrenTraversal (first ++ second) =
      childrenTraversal first ++ childrenTraversal second := by
  induction first with
  | nil => rfl
  | cons child rest ih =>
      rw [List.cons_append, childrenTraversal, childrenTraversal, ih, List.append_assoc]

/-- The token at this index has the tree standing in it. -/
def MeetsAt (tree : Tree) (index : Nat) (tokens : List Token) : Prop :=
  ∃ holder : Token, tokens[index]? = some holder ∧ holder.Holds tree

namespace MeetsAt

variable {tree : Tree} {index : Nat} {tokens : List Token}

/-- What stands in front of a place moves its index on by its length. -/
theorem between (meets : MeetsAt tree index tokens) (front back : List Token) :
    MeetsAt tree (front.length + index) (front ++ (tokens ++ back)) := by
  obtain ⟨holder, found, holds⟩ := meets
  refine ⟨holder, ?_, holds⟩
  have inside : index < tokens.length := (List.getElem?_eq_some_iff.mp found).1
  rw [List.getElem?_append_right (Nat.le_add_right _ _), Nat.add_sub_cancel_left,
    List.getElem?_append_left inside, found]

private theorem behind (meets : MeetsAt tree index tokens) (token : Token) :
    MeetsAt tree (index + 1) (token :: tokens) :=
  meets

end MeetsAt

section

variable (tree : Tree)

mutual

/-- A place in a token is met at its index. -/
theorem TokenSite.meetsAt : ∀ site : TokenSite,
    MeetsAt tree site.index (site.fill tree).traversal
  | ⟨kind, castType, outputName⟩ => kind.meetsAt castType outputName

/-- A place inside a kind of token is met at its index, the token itself counting first. -/
theorem KindSite.meetsAt (castType : Option String) (outputName : Option Alias) :
    ∀ site : KindSite,
      MeetsAt tree site.index (Token.traversal ⟨site.fill tree, castType, outputName⟩)
  | .subQuery => ⟨_, rfl, .inl rfl⟩
  | .statement => ⟨_, rfl, .inr rfl⟩
  | .array before site after => by
      have items := site.meetsAt.between (tokensTraversal before) (tokensTraversal after)
      rw [← tokensTraversal, ← tokensTraversal_append] at items
      exact items.behind _
  | .list before site after => by
      have items := site.meetsAt.between (tokensTraversal before) (tokensTraversal after)
      rw [← tokensTraversal, ← tokensTraversal_append] at items
      exact items.behind _
  | .call _ site => site.meetsAt.behind _
  | .applied _ site => site.meetsAt.behind _
  | .inSubQuery site => site.meetsAt.behind _
  | .inStatement site => site.meetsAt.behind _
  | .values rowsBefore before site after rowsAfter => by
      have row := site.meetsAt.between (tokensTraversal before) (tokensTraversal after)
      rw [← tokensTraversal, ← tokensTraversal_append] at row
      have rows := row.between (rowsTraversal rowsBefore) (rowsTraversal rowsAfter)
      rw [← rowsTraversal, ← rowsTraversal_append] at rows
      exact rows.behind _

/-- A place in a child is met at its index. -/
theorem ChildSite.meetsAt : ∀ site : ChildSite,
    MeetsAt tree site.index (site.fill tree).traversal
  | .leaf site => site.meetsAt
  | .node _ before site after => by
      have children := site.meetsAt.between (childrenTraversal before) (childrenTraversal after)
      rw [← childrenTraversal, ← childrenTraversal_append] at children
      exact children

/-- A tree that is put at a site is met there. -/
theorem TreeSite.meetsAt : ∀ site : TreeSite,
    MeetsAt tree site.index (site.fill tree).traversal
  | .here before site after => by
      have children := site.meetsAt.between (childrenTraversal before) (childrenTraversal after)
      rw [← childrenTraversal, ← childrenTraversal_append] at children
      exact children
  | .finished before site after kind rest => by
      have children := site.meetsAt.between (childrenTraversal before) (childrenTraversal after)
      rw [← childrenTraversal, ← childrenTraversal_append] at children
      have all := children.between [] rest.traversal
      rw [List.length_nil, Nat.zero_add] at all
      exact all
  | .inside before kind site => by
      have all := site.meetsAt.between (childrenTraversal before) []
      rw [List.append_nil] at all
      exact all

end

end

/-! ### Every place is a site -/

/-- A bound constant has no tokens inside of it. -/
theorem Token.isPrepared_eq_false {kind : TokenKind} {castType : Option String}
    {outputName : Option Alias} (inner : kind.traversal ≠ []) :
    Token.isPrepared ⟨kind, castType, outputName⟩ = false := by
  cases kind with
  | constant value prepared => exact absurd rfl inner
  | _ => rfl

private theorem not_occurs_nil {α : Type} {met later : List α} {element : α} :
    ¬[] = met ++ element :: later := by
  simp

/-- An element of two lists in a row is in the first or in the second. -/
theorem occurs_append {α : Type} {first second met later : List α} {element : α}
    (occurs : first ++ second = met ++ element :: later) :
    (∃ others, first = met ++ element :: others) ∨
      ∃ earlier, met = first ++ earlier ∧ second = earlier ++ element :: later := by
  rcases List.append_eq_append_iff.mp occurs with
    ⟨earlier, metEq, secondEq⟩ | ⟨others, firstEq, rest⟩
  · exact .inr ⟨earlier, metEq, secondEq⟩
  · cases others with
    | nil =>
        rw [List.append_nil] at firstEq
        exact .inr ⟨[], by rw [firstEq, List.append_nil], rest.symm⟩
    | cons other others =>
        rw [List.cons_append, List.cons.injEq] at rest
        exact .inl ⟨others, by rw [firstEq, rest.1]⟩

section

variable {tree : Tree} {holder : Token}

mutual

/-- Whatever the traversal of a token meets that holds a tree stands at a place of the
token. -/
theorem Token.exists_site (holds : holder.Holds tree) :
    ∀ (token : Token) {met later : List Token},
    token.traversal = met ++ holder :: later →
      ∃ site : TokenSite, site.fill tree = token ∧ site.index = met.length ∧
        site.before.filter Token.isPrepared = met.filter Token.isPrepared
  | ⟨kind, castType, outputName⟩, met, later, occurs => by
      rw [Token.traversal] at occurs
      cases met with
      | nil =>
          rw [List.nil_append, List.cons.injEq] at occurs
          cases occurs.1
          rcases holds with rfl | rfl
          · exact ⟨⟨.subQuery, castType, outputName⟩, rfl, rfl, rfl⟩
          · exact ⟨⟨.statement, castType, outputName⟩, rfl, rfl, rfl⟩
      | cons token met =>
          rw [List.cons_append, List.cons.injEq] at occurs
          obtain ⟨rfl, occurs⟩ := occurs
          have unbound : Token.isPrepared ⟨kind, castType, outputName⟩ = false :=
            Token.isPrepared_eq_false (by simp [occurs])
          obtain ⟨site, filled, index, same⟩ := kind.exists_site holds occurs
          refine ⟨⟨site, castType, outputName⟩, ?_, index, ?_⟩
          · rw [TokenSite.fill, filled]
          · rw [List.filter_cons, unbound, if_neg Bool.false_ne_true]
            exact same

/-- The same inside a kind of token. -/
theorem TokenKind.exists_site (holds : holder.Holds tree) :
    ∀ (kind : TokenKind) {met later : List Token},
    kind.traversal = met ++ holder :: later →
      ∃ site : KindSite, site.fill tree = kind ∧ site.index = met.length + 1 ∧
        site.before.filter Token.isPrepared = met.filter Token.isPrepared
  | .name _, _, _, occurs => absurd occurs not_occurs_nil
  | .quotedName _, _, _, occurs => absurd occurs not_occurs_nil
  | .constant _ _, _, _, occurs => absurd occurs not_occurs_nil
  | .dollarString _ _, _, _, occurs => absurd occurs not_occurs_nil
  | .emptyCall _, _, _, occurs => absurd occurs not_occurs_nil
  | .operator _, _, _, occurs => absurd occurs not_occurs_nil
  | .array items, _, _, occurs => by
      obtain ⟨before, site, after, rfl, index, same⟩ := exists_site_tokens holds items occurs
      exact ⟨.array before site after, rfl, congrArg (· + 1) index, same⟩
  | .list items, _, _, occurs => by
      obtain ⟨before, site, after, rfl, index, same⟩ := exists_site_tokens holds items occurs
      exact ⟨.list before site after, rfl, congrArg (· + 1) index, same⟩
  | .call name argument, _, _, occurs => by
      obtain ⟨site, rfl, index, same⟩ := argument.exists_site holds occurs
      exact ⟨.call name site, rfl, congrArg (· + 1) index, same⟩
  | .applied symbol operand, _, _, occurs => by
      obtain ⟨site, rfl, index, same⟩ := operand.exists_site holds occurs
      exact ⟨.applied symbol site, rfl, congrArg (· + 1) index, same⟩
  | .subQuery inner, _, _, occurs => by
      obtain ⟨site, rfl, index, same⟩ := inner.exists_site holds occurs
      exact ⟨.inSubQuery site, rfl, congrArg (· + 1) index, same⟩
  | .statement inner, _, _, occurs => by
      obtain ⟨site, rfl, index, same⟩ := inner.exists_site holds occurs
      exact ⟨.inStatement site, rfl, congrArg (· + 1) index, same⟩
  | .values rows, _, _, occurs => by
      obtain ⟨rowsBefore, before, site, after, rowsAfter, rfl, index, same⟩ :=
        exists_site_rows holds rows occurs
      exact ⟨.values rowsBefore before site after rowsAfter, rfl, congrArg (· + 1) index, same⟩

private theorem exists_site_tokens (holds : holder.Holds tree) :
    ∀ (tokens : List Token) {met later : List Token},
    tokensTraversal tokens = met ++ holder :: later →
      ∃ (before : List Token) (site : TokenSite) (after : List Token),
        before ++ site.fill tree :: after = tokens ∧
          (tokensTraversal before).length + site.index = met.length ∧
          (tokensTraversal before ++ site.before).filter Token.isPrepared =
            met.filter Token.isPrepared
  | [], _, _, occurs => absurd occurs not_occurs_nil
  | token :: rest, met, later, occurs => by
      rw [tokensTraversal] at occurs
      -- The holder is met in the first token or behind all of its traversal.
      rcases occurs_append occurs with ⟨others, here⟩ | ⟨earlier, rfl, there⟩
      · obtain ⟨site, rfl, index, same⟩ := token.exists_site holds here
        exact ⟨[], site, rest, rfl, (Nat.zero_add _).trans index, same⟩
      · obtain ⟨before, site, after, rfl, index, same⟩ := exists_site_tokens holds rest there
        refine ⟨token :: before, site, after, rfl, ?_, ?_⟩
        · rw [tokensTraversal, List.length_append, List.length_append, Nat.add_assoc, index]
        · rw [tokensTraversal, List.append_assoc, List.filter_append, same, List.filter_append]

private theorem exists_site_rows (holds : holder.Holds tree) :
    ∀ (rows : List (List Token)) {met later : List Token},
    rowsTraversal rows = met ++ holder :: later →
      ∃ (rowsBefore : List (List Token)) (before : List Token) (site : TokenSite)
        (after : List Token) (rowsAfter : List (List Token)),
        rowsBefore ++ (before ++ site.fill tree :: after) :: rowsAfter = rows ∧
          (rowsTraversal rowsBefore).length +
              ((tokensTraversal before).length + site.index) = met.length ∧
          (rowsTraversal rowsBefore ++ (tokensTraversal before ++ site.before)).filter
              Token.isPrepared =
            met.filter Token.isPrepared
  | [], _, _, occurs => absurd occurs not_occurs_nil
  | row :: rest, met, later, occurs => by
      rw [rowsTraversal] at occurs
      rcases occurs_append occurs with ⟨others, here⟩ | ⟨earlier, rfl, there⟩
      · obtain ⟨before, site, after, rfl, index, same⟩ := exists_site_tokens holds row here
        exact ⟨[], before, site, after, rest, rfl, (Nat.zero_add _).trans index, same⟩
      · obtain ⟨rowsBefore, before, site, after, rowsAfter, rfl, index, same⟩ :=
          exists_site_rows holds rest there
        refine ⟨row :: rowsBefore, before, site, after, rowsAfter, rfl, ?_, ?_⟩
        · rw [rowsTraversal, List.length_append, List.length_append, Nat.add_assoc, index]
        · rw [rowsTraversal, List.append_assoc, List.filter_append, same, List.filter_append]

/-- Whatever the traversal of a child meets that holds a tree stands at a place of the
child. -/
theorem Child.exists_site (holds : holder.Holds tree) :
    ∀ (child : Child) {met later : List Token},
    child.traversal = met ++ holder :: later →
      ∃ site : ChildSite, site.fill tree = child ∧ site.index = met.length ∧
        site.before.filter Token.isPrepared = met.filter Token.isPrepared
  | .leaf token, _, _, occurs => by
      obtain ⟨site, rfl, index, same⟩ := token.exists_site holds occurs
      exact ⟨.leaf site, rfl, index, same⟩
  | .node kind children, _, _, occurs => by
      obtain ⟨before, site, after, rfl, index, same⟩ := exists_site_children holds children occurs
      exact ⟨.node kind before site after, rfl, index, same⟩

private theorem exists_site_children (holds : holder.Holds tree) :
    ∀ (children : List Child) {met later : List Token},
    childrenTraversal children = met ++ holder :: later →
      ∃ (before : List Child) (site : ChildSite) (after : List Child),
        before ++ site.fill tree :: after = children ∧
          (childrenTraversal before).length + site.index = met.length ∧
          (childrenTraversal before ++ site.before).filter Token.isPrepared =
            met.filter Token.isPrepared
  | [], _, _, occurs => absurd occurs not_occurs_nil
  | child :: rest, met, later, occurs => by
      rw [childrenTraversal] at occurs
      rcases occurs_append occurs with ⟨others, here⟩ | ⟨earlier, rfl, there⟩
      · obtain ⟨site, rfl, index, same⟩ := child.exists_site holds here
        exact ⟨[], site, rest, rfl, (Nat.zero_add _).trans index, same⟩
      · obtain ⟨before, site, after, rfl, index, same⟩ := exists_site_children holds rest there
        refine ⟨child :: before, site, after, rfl, ?_, ?_⟩
        · rw [childrenTraversal, List.length_append, List.length_append, Nat.add_assoc, index]
        · rw [childrenTraversal, List.append_assoc, List.filter_append, same, List.filter_append]

/-- A tree that the traversal comes upon stands at a site, and the same constants are bound
before it. -/
theorem Tree.exists_site (holds : holder.Holds tree) :
    ∀ (outer : Tree) {met later : List Token},
    outer.traversal = met ++ holder :: later →
      ∃ site : TreeSite, site.fill tree = outer ∧ site.index = met.length ∧
        site.before.filter Token.isPrepared = met.filter Token.isPrepared
  | .here children, _, _, occurs => by
      obtain ⟨before, site, after, rfl, index, same⟩ := exists_site_children holds children occurs
      exact ⟨.here before site after, rfl, index, same⟩
  | .inside before kind rest, met, later, occurs => by
      rw [Tree.traversal] at occurs
      rcases occurs_append occurs with ⟨others, here⟩ | ⟨earlier, rfl, there⟩
      · obtain ⟨before, site, after, rfl, index, same⟩ := exists_site_children holds before here
        exact ⟨.finished before site after kind rest, rfl, index, same⟩
      · obtain ⟨site, rfl, index, same⟩ := rest.exists_site holds there
        refine ⟨.inside before kind site, rfl, ?_, ?_⟩
        · rw [TreeSite.index, index, List.length_append]
        · rw [TreeSite.before, List.filter_append, same, List.filter_append]

end

end

end ClauseTree
