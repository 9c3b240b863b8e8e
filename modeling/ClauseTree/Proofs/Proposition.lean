import ClauseTree.Conditions
import ClauseTree.Proofs.Formula

/-!
# The meaning of conditions

Conditions apart from how they are written: predicates, which are texts here,
and nested groups of them, each with the link that joins it to what stands
before it.  A group is one unit whatever its text looks like, and its link
negates it as a whole.
-/

namespace ClauseTree

/-- Whether a term is negated as a whole. -/
def Link.isNegated : Link → Bool
  | .lead => false
  | .leadNot => true
  | .joined connective => connective.isNegated

/-- Whether a term is an alternative to all that stands before it. -/
def Link.isAlternative : Link → Bool
  | .joined .or => true
  | .joined .orNot => true
  | _ => false

def Link.isLeading : Link → Bool
  | .joined _ => false
  | _ => true

mutual

/-- A term with its predicates as they are written. -/
inductive Proposition where
  | predicate (text : String)
  | group (places : List Place)

structure Place where
  link : Link
  proposition : Proposition

end

/-! ### Truth -/

mutual

/-- The truth of a proposition when the atoms of its predicates have these truth
values. -/
def Proposition.holds (truth : List Sql.Part → Bool) : Proposition → Bool
  | .predicate text => (Sql.unit? text).any (·.eval truth)
  | .group places => placesHold truth true places

/-- The truth of the terms of one level behind a conjunction.  The conjunction
goes on up to the next alternative: `AND` is stronger than `OR`. -/
def placesHold (truth : List Sql.Part → Bool) : Bool → List Place → Bool
  | soFar, [] => soFar
  | soFar, ⟨link, proposition⟩ :: rest =>
      let value := if link.isNegated then !proposition.holds truth else proposition.holds truth
      if link.isAlternative then soFar || placesHold truth value rest
      else placesHold truth (soFar && value) rest

end

/-- The truth of a level in two parts: of the alternatives that are complete, and of the
conjunction that the level ends in, which a further term may go on with. -/
def placesLevel (truth : List Sql.Part → Bool) : Bool → List Place → Bool × Bool
  | soFar, [] => (false, soFar)
  | soFar, ⟨link, proposition⟩ :: rest =>
      let value := if link.isNegated then !proposition.holds truth else proposition.holds truth
      if link.isAlternative then
        let level := placesLevel truth value rest
        (soFar || level.1, level.2)
      else placesLevel truth (soFar && value) rest

/-- Terms behind others go on with the conjunction that those end in. -/
theorem placesHold_append (truth : List Sql.Part → Bool) (more : List Place) :
    ∀ (places : List Place) (soFar : Bool),
      placesHold truth soFar (places ++ more) =
        ((placesLevel truth soFar places).1 ||
          placesHold truth (placesLevel truth soFar places).2 more)
  | [], soFar => by rw [List.nil_append, placesLevel, Bool.false_or]
  | ⟨link, proposition⟩ :: rest, soFar => by
      rw [List.cons_append, placesHold, placesLevel]
      split
      next => rw [placesHold_append truth more rest, Bool.or_assoc]
      next => rw [placesHold_append truth more rest]

/-- A level holds if one of its complete alternatives does, or the conjunction at its end. -/
theorem placesHold_eq_level (truth : List Sql.Part → Bool) (places : List Place) (soFar : Bool) :
    placesHold truth soFar places =
      ((placesLevel truth soFar places).1 || (placesLevel truth soFar places).2) := by
  have alone := placesHold_append truth [] places soFar
  rwa [List.append_nil, placesHold] at alone

/-- A level of one term. -/
theorem placesHold_singleton (truth : List Sql.Part → Bool) (soFar : Bool) (place : Place) :
    placesHold truth soFar [place] =
      let value := place.link.isNegated ^^ place.proposition.holds truth
      if place.link.isAlternative then soFar || value else soFar && value := by
  obtain ⟨link, proposition⟩ := place
  rw [placesHold, placesHold, placesHold]
  cases link.isNegated <;> simp

mutual

/-- The texts of the predicates, at every depth. -/
def Proposition.predicates : Proposition → List String
  | .predicate text => [text]
  | .group places => placePredicates places

def placePredicates : List Place → List String
  | [] => []
  | ⟨_, proposition⟩ :: rest => proposition.predicates ++ placePredicates rest

end

/-! ### The propositions of conditions -/

mutual

def Term.proposition (mode : Mode) : Term → Writing Proposition
  | .predicate tokens => do
      let fragments ← writeChildren mode (tokens.map .leaf)
      pure (.predicate (NodeKind.phrase.layout.compose fragments))
  | .group items => do
      let places ← itemPlaces mode items
      pure (.group places)

def Item.place (mode : Mode) : Item → Writing Place
  | ⟨link, term⟩ => do
      let proposition ← term.proposition mode
      pure ⟨link, proposition⟩

def itemPlaces (mode : Mode) : List Item → Writing (List Place)
  | [] => pure []
  | item :: rest => do
      let place ← item.place mode
      let places ← itemPlaces mode rest
      pure (place :: places)

end

def Conditions.places (conditions : Conditions) (mode : Mode) : List Place :=
  (itemPlaces mode conditions.items .empty).1

/-- The boolean function that conditions stand for. -/
def Conditions.holds (conditions : Conditions) (mode : Mode)
    (truth : List Sql.Part → Bool) : Bool :=
  placesHold truth true (conditions.places mode)

/-- The parameters that conditions bind when they are written by themselves. -/
def Conditions.parameters (conditions : Conditions) (mode : Mode) : Parameters :=
  (itemPlaces mode conditions.items .empty).2

/-- The boolean function of conditions whose values are bound behind the given parameters. -/
def Conditions.holdsBehind (conditions : Conditions) (mode : Mode) (parameters : Parameters)
    (truth : List Sql.Part → Bool) : Bool :=
  placesHold truth true (itemPlaces mode conditions.items parameters).1

/-! ### Their texts -/

mutual

def Proposition.text : Proposition → String
  | .predicate text => text
  | .group places => NodeKind.group.layout.compose (placeFragments places)

def Place.fragment : Place → Fragment
  | ⟨link, proposition⟩ =>
      match link.kind? with
      | none => ⟨.separator, proposition.text⟩
      | some kind => ⟨.separator, kind.layout.compose [⟨.separator, proposition.text⟩]⟩

def placeFragments : List Place → List Fragment
  | [] => []
  | place :: rest => place.fragment :: placeFragments rest

end

mutual

/-- Writing the node of a term writes the text of its proposition and binds the same
values. -/
theorem Term.write_child (mode : Mode) : ∀ (term : Term) (parameters : Parameters),
    term.child.write mode parameters =
      (⟨.separator, (term.proposition mode parameters).1.text⟩,
        (term.proposition mode parameters).2)
  | .predicate tokens, parameters => by
      rw [Term.child, Child.write, Term.proposition]
      rfl
  | .group items, parameters => by
      have written := write_itemChildren mode items parameters
      rw [Term.child, Child.write, Term.proposition, Writing.bind_apply, written]
      rfl

/-- Writing a term in its place writes the fragment of that place. -/
theorem Item.write_child (mode : Mode) : ∀ (item : Item) (parameters : Parameters),
    item.child.write mode parameters =
      ((item.place mode parameters).1.fragment, (item.place mode parameters).2)
  | ⟨link, term⟩, parameters => by
      have written := Term.write_child mode term parameters
      cases link with
      | lead =>
          rw [Item.child, Item.place]
          exact written
      | leadNot =>
          simp [Item.child, Item.place, Link.kind?, Child.write, writeChildren, written,
            Place.fragment]
          rfl
      | joined connective =>
          simp [Item.child, Item.place, Link.kind?, Child.write, writeChildren, written,
            Place.fragment]
          cases connective <;> rfl

/-- Writing the nodes of several terms writes the fragments of their places. -/
theorem write_itemChildren (mode : Mode) : ∀ (items : List Item) (parameters : Parameters),
    writeChildren mode (itemChildren items) parameters =
      (placeFragments (itemPlaces mode items parameters).1,
        (itemPlaces mode items parameters).2)
  | [], parameters => by
      rw [itemChildren, writeChildren, itemPlaces]
      rfl
  | item :: rest, parameters => by
      rw [itemChildren, writeChildren, itemPlaces, Writing.bind_apply, Writing.bind_apply,
        Item.write_child mode item parameters, write_itemChildren mode rest]
      rfl

end

/-- The text of conditions is that of their places, in either mode. -/
theorem Conditions.sql_render (conditions : Conditions) (mode : Mode) :
    ((conditions.writeTo .empty).render mode).sql =
      treeText (placeFragments (conditions.places mode)) := by
  have written := write_itemChildren mode conditions.items .empty
  rw [Conditions.writeTo_eq_attach, Tree.empty, Tree.attach, List.nil_append, Tree.render,
    Tree.write, Conditions.children, written]
  rfl

/-! ### Conditions that can be built

What pushing keeps: the first term of every sequence leads, the terms behind it
are joined, and no group is empty.
-/

/-- The conditions that the operations make.  Comparisons, `BETWEEN` and `EXISTS`
are predicates; a negation is pushed onto empty conditions. -/
inductive Conditions.Built : Conditions → Prop where
  | empty : Built .empty
  | predicate (tokens : List Token) : Built (.predicate tokens)
  | push {conditions other : Conditions} (built : Built conditions)
      (connective : Connective) (otherBuilt : Built other) :
      Built (conditions.push connective other)

mutual

def Proposition.isLinked : Proposition → Bool
  | .predicate _ => true
  | .group places => !places.isEmpty && placesLinked true places

/-- Whether terms are linked as they stand, given whether the first one leads. -/
def placesLinked : Bool → List Place → Bool
  | _, [] => true
  | leading, ⟨link, proposition⟩ :: rest =>
      link.isLeading == leading && proposition.isLinked && placesLinked false rest

end

private theorem placesLinked_append (more : List Place) : ∀ (places : List Place) (leading : Bool),
    placesLinked leading (places ++ more) =
      (placesLinked leading places && placesLinked (leading && places.isEmpty) more)
  | [], leading => by simp [placesLinked]
  | ⟨link, proposition⟩ :: rest, leading => by
      have ih := placesLinked_append more rest false
      rw [List.cons_append, placesLinked, placesLinked, ih, Bool.false_and,
        List.isEmpty_cons, Bool.and_false]
      simp only [Bool.and_assoc]

/-- The places of two sequences of terms stand in a row, and the values of the second ones
are bound behind those of the first. -/
theorem itemPlaces_append (mode : Mode) (more : List Item) :
    ∀ (items : List Item) (parameters : Parameters),
    (itemPlaces mode (items ++ more) parameters).1 =
      (itemPlaces mode items parameters).1 ++
        (itemPlaces mode more (itemPlaces mode items parameters).2).1
  | [], parameters => by
      rw [List.nil_append, itemPlaces, Writing.pure_apply, List.nil_append]
  | item :: rest, parameters => by
      have ih := itemPlaces_append mode more rest (item.place mode parameters).2
      rw [List.cons_append, itemPlaces, itemPlaces]
      simp only [Writing.bind_apply, Writing.pure_apply, ih, List.cons_append]

/-- The place of a single term. -/
theorem itemPlaces_singleton (mode : Mode) (link : Link) (term : Term) (parameters : Parameters) :
    (itemPlaces mode [⟨link, term⟩] parameters).1 =
      [⟨link, (term.proposition mode parameters).1⟩] := rfl

/-- No place is left out. -/
theorem isEmpty_itemPlaces (mode : Mode) (items : List Item) (parameters : Parameters) :
    (itemPlaces mode items parameters).1.isEmpty = items.isEmpty := by
  cases items with
  | nil => rfl
  | cons item rest => rfl

namespace Conditions

private theorem isLinked_asTerm {conditions : Conditions} (mode : Mode) (parameters : Parameters)
    (nonempty : conditions.isEmpty = false)
    (linked : placesLinked true (itemPlaces mode conditions.items parameters).1 = true) :
    (conditions.asTerm.proposition mode parameters).1.isLinked = true := by
  have grouped : ((Term.group conditions.items).proposition mode parameters).1.isLinked =
      true := by
    have some_place := isEmpty_itemPlaces mode conditions.items parameters
    rw [isEmpty] at nonempty
    rw [Term.proposition, Writing.bind_apply, Writing.pure_apply, Proposition.isLinked,
      some_place, nonempty, linked]
    rfl
  rw [asTerm]
  split
  next term single =>
    rw [single] at linked
    simpa [itemPlaces, Item.place, placesLinked, Link.isLeading] using linked
  next => exact grouped

/-- In conditions that are built by the operations the first term leads, the others are
joined, and no group is empty, at every depth. -/
theorem Built.placesLinked {conditions : Conditions} (built : conditions.Built)
    (mode : Mode) (parameters : Parameters) :
    placesLinked true (itemPlaces mode conditions.items parameters).1 = true := by
  induction built generalizing parameters with
  | empty => rfl
  | predicate tokens => rfl
  | @push conditions other built connective otherBuilt ih ihOther =>
      rw [Conditions.push]
      split
      next => exact ih parameters
      next nonempty =>
        rw [Bool.not_eq_true] at nonempty
        have otherLinked := isLinked_asTerm mode
          (itemPlaces mode conditions.items parameters).2 nonempty (ihOther _)
        have leads : (if conditions.isEmpty then
              if connective.isNegated then Link.leadNot else Link.lead
            else Link.joined connective).isLeading = conditions.isEmpty := by
          cases conditions.isEmpty with
          | true => cases connective <;> rfl
          | false => rfl
        rw [itemPlaces_append, placesLinked_append, ih parameters, isEmpty_itemPlaces,
          itemPlaces]
        simp only [Writing.bind_apply, Writing.pure_apply, Item.place,
          ClauseTree.placesLinked, otherLinked, leads, itemPlaces]
        simp [isEmpty]

/-- Conditions without terms are those without places. -/
theorem isEmpty_places (conditions : Conditions) (mode : Mode) :
    (conditions.places mode).isEmpty = conditions.isEmpty :=
  isEmpty_itemPlaces mode conditions.items .empty

end Conditions

end ClauseTree
