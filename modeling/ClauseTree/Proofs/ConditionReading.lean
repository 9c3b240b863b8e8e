import ClauseTree.Proofs.Proposition

/-!
# Reading conditions back

The text of conditions, read by the precedence of SQL, has the truth that the
conditions themselves have.  A proposition is always read as one operand,
because a group of several terms is in parentheses and a group of one term is
an operand by itself; the terms of one level are then read from left to right.
-/

namespace ClauseTree

open Sql

/-! ### The texts of the terms -/

def Link.keywords : Link → List String
  | .lead => []
  | .leadNot => ["NOT"]
  | .joined .and => ["AND"]
  | .joined .or => ["OR"]
  | .joined .andNot => ["AND", "NOT"]
  | .joined .orNot => ["OR", "NOT"]

def Link.parts (link : Link) : List Part :=
  link.keywords.map fun keyword => .lexeme (.word keyword.toList)

/-- The keyword of a link is read as the parts that stand for the link. -/
theorem Link.parts?_keyword {link : Link} {kind : NodeKind}
    (linked : link.kind? = some kind) : parts? kind.layout.keyword = some link.parts := by
  cases link with
  | lead => cases linked
  | leadNot =>
      cases linked
      rfl
  | joined connective =>
      cases linked
      cases connective <;> rfl

/-- A linked condition is written as the keyword, a blank and the condition. -/
theorem Link.compose_of_kind? {link : Link} {kind : NodeKind}
    (linked : link.kind? = some kind) {text : String} (nonempty : text.isEmpty = false) :
    kind.layout.compose [⟨.separator, text⟩] = kind.layout.keyword ++ " " ++ text := by
  have headed : kind.layout.keyword.isEmpty = false ∧ kind.layout.wraps 1 = false := by
    cases link with
    | lead => cases linked
    | leadNot =>
        cases linked
        exact ⟨rfl, rfl⟩
    | joined connective =>
        cases linked
        cases connective <;> exact ⟨rfl, rfl⟩
  simp [Layout.compose, Layout.joinWritten, Layout.joinRest, Layout.headed, nonempty, headed]

private theorem isEmpty_of_parts? {text : String} {parts : List Part}
    (read : parts? text = some parts) (nonempty : parts ≠ []) : text.isEmpty = false := by
  by_cases empty : text = ""
  · subst empty
    cases read
    exact absurd rfl nonempty
  · simpa using empty

private theorem ne_nil_of_unitOf? {parts : List Part} {formula : Formula}
    (unit : unitOf? parts = some formula) : parts ≠ [] := by
  rintro rfl
  cases unit

/-- The fragment of a place is read as the parts of its link and those of its
proposition. -/
theorem Place.parts?_fragment (link : Link) {proposition : Proposition}
    {parts : List Part} (read : parts? proposition.text = some parts)
    (nonempty : parts ≠ []) :
    parts? (Place.mk link proposition).fragment.text = some (link.parts ++ parts) := by
  rw [Place.fragment]
  cases linked : link.kind? with
  | none =>
      cases link with
      | lead => exact read
      | leadNot => cases linked
      | joined connective => cases linked
  | some kind =>
      have written := Link.compose_of_kind? linked (isEmpty_of_parts? read nonempty)
      simp only [written]
      exact parts?_spaced (Link.parts?_keyword linked) read

/-! ### Reading one level -/

namespace Sql

private theorem Formula.eval_conjoin (truth : List Part → Bool) (before : Option Formula)
    (formula : Formula) :
    (conjoin before formula).eval truth =
      (before.all (·.eval truth) && formula.eval truth) := by
  cases before <;> simp [conjoin, eval]

private theorem Formula.eval_negated (truth : List Part → Bool) (negative : Bool)
    (formula : Formula) :
    (negated (if negative then 1 else 0) formula).eval truth =
      if negative then !formula.eval truth else formula.eval truth := by
  cases negative <;> rfl

private theorem Formula.eval_disjoin (truth : List Part → Bool) (before : Option Formula)
    (formula : Formula) :
    (disjoin before formula).eval truth =
      (before.any (·.eval truth) || formula.eval truth) := by
  cases before <;> simp [disjoin, eval]

namespace Level

private theorem take?_and {level : Level} {product : Formula}
    (ends : level.product? = some product) {part : Part} (role : part.role = .and)
    (formula : Option Formula) :
    level.take? part formula = some (start level.sum (some product)) := by
  have complete : level.betweens = 0 := by
    by_cases complete : level.betweens = 0
    · exact complete
    · rw [product?, unit?, if_neg complete] at ends
      cases ends
  simp only [take?, role]
  rw [if_pos complete, ends]
  rfl

private theorem take?_or {level : Level} {product : Formula}
    (ends : level.product? = some product) {part : Part} (role : part.role = .or)
    (formula : Option Formula) :
    level.take? part formula =
      some (start (some (.disjoin level.sum product)) none) := by
  simp only [take?, role]
  rw [sum?, ends]
  rfl

/-- The level in front of an operand that is joined to what stands before it. -/
def frontOf (level : Level) (product : Formula) (link : Link) : Level :=
  { start (if link.isAlternative then some (.disjoin level.sum product) else level.sum)
      (if link.isAlternative then none else some product) with
    negations := if link.isNegated then 1 else 0 }

private theorem takeParts?_link {level : Level} {product : Formula}
    (ends : level.product? = some product) (connective : Connective) :
    level.takeParts? (Link.joined connective).parts =
      some (level.frontOf product (.joined connective)) := by
  cases connective with
  | and =>
      rw [Link.parts, Link.keywords, List.map_cons, takeParts?, take?_and ends rfl]
      rfl
  | or =>
      rw [Link.parts, Link.keywords, List.map_cons, takeParts?, take?_or ends rfl]
      rfl
  | andNot =>
      rw [Link.parts, Link.keywords, List.map_cons, takeParts?, take?_and ends rfl]
      rfl
  | orNot =>
      rw [Link.parts, Link.keywords, List.map_cons, takeParts?, take?_or ends rfl]
      rfl

/-- Whether the disjunction in front of the operand holds. -/
def sumHolds (level : Level) (truth : List Part → Bool) : Bool :=
  level.sum.any (·.eval truth)

/-- A joined operand is negated by its link alone.  An alternative begins a new
conjunction, any other operand continues the old one. -/
theorem takeParts?_joined {level : Level} {product : Formula}
    (ends : level.product? = some product) {link : Link} (joined : link.isLeading = false)
    {parts : List Part} {formula : Formula} (unit : unitOf? parts = some formula) :
    ∃ next conjunction,
      level.takeParts? (link.parts ++ parts) = some next ∧
      next.product? = some conjunction ∧
      ∀ truth,
        let value := if link.isNegated then !formula.eval truth else formula.eval truth
        if link.isAlternative then
          next.sumHolds truth = (level.sumHolds truth || product.eval truth) ∧
            conjunction.eval truth = value
        else
          next.sumHolds truth = level.sumHolds truth ∧
            conjunction.eval truth = (product.eval truth && value) := by
  obtain ⟨next, read, sumEq, productEq, unitEq⟩ := takeParts?_of_unitOf? unit
    (level.frontOf product link).sum (level.frontOf product link).product
    (level.frontOf product link).negations
  have words : level.takeParts? link.parts = some (level.frontOf product link) := by
    cases link with
    | lead => cases joined
    | leadNot => cases joined
    | joined connective => exact takeParts?_link ends connective
  have nextEnds : next.product? = some (.conjoin next.product
      (.negated (level.frontOf product link).negations formula)) := by
    rw [product?, unitEq]
    rfl
  refine ⟨next, _, ?_, nextEnds, ?_⟩
  · rw [takeParts?_append, words]
    exact read
  · intro truth
    rw [sumHolds, sumHolds, Formula.eval_conjoin, sumEq, productEq]
    simp only [frontOf, start, Formula.eval_negated]
    cases link.isAlternative with
    | true => simp [Formula.eval_disjoin]
    | false => simp

end Level

/-- A leading link reads as its negation, if it has one, of the unit behind it. -/
theorem unitOf?_leading {link : Link} (leading : link.isLeading = true)
    {parts : List Part} {formula : Formula} (unit : unitOf? parts = some formula) :
    unitOf? (link.parts ++ parts) =
      some (.negated (if link.isNegated then 1 else 0) formula) := by
  obtain ⟨next, read, sumEq, productEq, unitEq⟩ := takeParts?_of_unitOf? unit none none
    (if link.isNegated then 1 else 0)
  have words : (Level.start none none).takeParts? link.parts =
      some { Level.start none none with negations := if link.isNegated then 1 else 0 } := by
    cases link with
    | lead => rfl
    | leadNot => rfl
    | joined connective => cases leading
  have single : next.single = true := by
    rw [Level.single, sumEq, productEq]
    rfl
  rw [unitOf?, Level.takeParts?_append, words, Option.bind_some, read, Option.bind_some,
    if_pos single, unitEq]

end Sql

/-! ### Propositions are operands -/

/-- The text of a proposition is read as one operand, with the truth of the
proposition. -/
def Proposition.Reads (proposition : Proposition) : Prop :=
  ∃ parts formula, parts? proposition.text = some parts ∧
    unitOf? parts = some formula ∧
    ∀ truth, formula.eval truth = proposition.holds truth

/-- Joined terms behind a text are read behind it, and from the conjunction that
ends there. -/
theorem read_joinRest {layout : Layout} (spaced : layout.separator = " ") :
    ∀ (places : List Place) {text : String} {parts : List Part},
      placesLinked false places = true →
      (∀ place ∈ places, place.proposition.Reads) →
      parts? text = some parts →
      ∃ more,
        parts? (text ++ layout.joinRest (placeFragments places)) = some (parts ++ more) ∧
        ∀ {level : Level} {product : Formula}, level.product? = some product →
          ∃ formula, (level.takeParts? more).bind Level.sum? = some formula ∧
            ∀ truth, formula.eval truth =
              (level.sumHolds truth || placesHold truth (product.eval truth) places)
  | [], text, parts, _, _, read => by
      refine ⟨[], ?_, ?_⟩
      · rw [placeFragments, Layout.joinRest, String.append_empty, List.append_nil]
        exact read
      · intro level product ends
        refine ⟨.disjoin level.sum product, ?_, ?_⟩
        · rw [Level.takeParts?, Option.bind_some, Level.sum?, ends]
          rfl
        · intro truth
          rw [Formula.eval_disjoin, placesHold]
          rfl
  | ⟨link, proposition⟩ :: rest, text, parts, linked, reads, read => by
      rw [placesLinked, Bool.and_eq_true, Bool.and_eq_true, beq_iff_eq] at linked
      obtain ⟨⟨joined, -⟩, restLinked⟩ := linked
      obtain ⟨inner, unit, innerRead, unitRead, unitHolds⟩ :=
        reads ⟨link, proposition⟩ List.mem_cons_self
      have fragmentRead := Place.parts?_fragment link innerRead
        (ne_nil_of_unitOf? unitRead)
      have restReads : ∀ place ∈ rest, place.proposition.Reads :=
        fun place member => reads place (List.mem_cons_of_mem _ member)
      -- The text in front grows by this term; the level is only known behind it.
      obtain ⟨more, readMore, levelMore⟩ :=
        read_joinRest spaced rest restLinked restReads (parts?_spaced read fragmentRead)
      refine ⟨(link.parts ++ inner) ++ more, ?_, ?_⟩
      · have before (glue : Glue) : layout.before glue = " " := by
          cases glue with
          | separator => exact spaced
          | space => rfl
        rw [placeFragments, Layout.joinRest, before, ← List.append_assoc, ← readMore]
        simp only [String.append_assoc]
      · intro level product ends
        obtain ⟨next, conjunction, taken, nextEnds, nextHolds⟩ :=
          Level.takeParts?_joined ends joined unitRead
        obtain ⟨formula, formulaRead, formulaHolds⟩ := levelMore nextEnds
        refine ⟨formula, ?_, ?_⟩
        · rw [Level.takeParts?_append, taken]
          exact formulaRead
        · intro truth
          have step := nextHolds truth
          rw [formulaHolds, placesHold]
          rw [unitHolds] at step
          -- An alternative closes the conjunction before it, so the two sides differ
          -- in where they put the brackets of `||`.
          cases alternative : link.isAlternative with
          | true =>
              simp only [alternative, if_true] at step ⊢
              rw [step.1, step.2, Bool.or_assoc]
          | false =>
              simp only [alternative, Bool.false_eq_true, if_false] at step ⊢
              rw [step.1, step.2]

private theorem placesHold_leading (truth : List Part → Bool) {link : Link}
    (leading : link.isLeading = true) (proposition : Proposition) (rest : List Place) :
    placesHold truth true (⟨link, proposition⟩ :: rest) =
      placesHold truth
        (if link.isNegated then !proposition.holds truth else proposition.holds truth)
        rest := by
  cases link with
  | lead => rfl
  | leadNot => rfl
  | joined connective => cases leading

private theorem read_leading {link : Link} (leading : link.isLeading = true)
    {proposition : Proposition} (reads : proposition.Reads) :
    ∃ parts formula,
      parts? (Place.mk link proposition).fragment.text = some parts ∧
      unitOf? parts = some formula ∧
      ∀ truth, formula.eval truth =
        if link.isNegated then !proposition.holds truth else proposition.holds truth := by
  obtain ⟨inner, unit, innerRead, unitRead, unitHolds⟩ := reads
  refine ⟨_, _, Place.parts?_fragment link innerRead (ne_nil_of_unitOf? unitRead),
    unitOf?_leading leading unitRead, ?_⟩
  intro truth
  rw [Formula.eval_negated, unitHolds]

/-- The terms of one level, with blanks between them. -/
theorem read_joinWritten {layout : Layout} (spaced : layout.separator = " ")
    {places : List Place} (nonempty : places ≠ [])
    (linked : placesLinked true places = true)
    (reads : ∀ place ∈ places, place.proposition.Reads) :
    ∃ parts formula,
      parts? (layout.joinWritten (placeFragments places)) = some parts ∧
      formula? parts = some formula ∧
      ∀ truth, formula.eval truth = placesHold truth true places := by
  cases places with
  | nil => exact absurd rfl nonempty
  | cons place rest =>
      obtain ⟨link, proposition⟩ := place
      rw [placesLinked, Bool.and_eq_true, Bool.and_eq_true, beq_iff_eq] at linked
      obtain ⟨⟨leading, -⟩, restLinked⟩ := linked
      obtain ⟨parts, unit, read, unitRead, unitHolds⟩ :=
        read_leading leading (reads ⟨link, proposition⟩ List.mem_cons_self)
      have restReads : ∀ place ∈ rest, place.proposition.Reads :=
        fun place member => reads place (List.mem_cons_of_mem _ member)
      obtain ⟨more, readMore, levelMore⟩ := read_joinRest spaced rest restLinked restReads read
      obtain ⟨next, taken, sumEq, productEq, unitEq⟩ :=
        takeParts?_of_unitOf? unitRead none none 0
      have ends : next.product? = some unit := by
        rw [Level.product?, unitEq, productEq]
        rfl
      obtain ⟨formula, formulaRead, formulaHolds⟩ := levelMore ends
      refine ⟨parts ++ more, formula, readMore, ?_, ?_⟩
      · rw [formula?, Level.takeParts?_append]
        have started : (Level.start none none).takeParts? parts = some next := taken
        rw [started]
        exact formulaRead
      · intro truth
        rw [formulaHolds, unitHolds, Level.sumHolds, sumEq, Option.any_none,
          Bool.false_or, placesHold_leading truth leading]

private theorem isEmpty_fragment {place : Place} (reads : place.proposition.Reads) :
    place.fragment.text.isEmpty = false := by
  obtain ⟨link, proposition⟩ := place
  obtain ⟨inner, unit, innerRead, unitRead, -⟩ := reads
  have nonempty := ne_nil_of_unitOf? unitRead
  have read := Place.parts?_fragment link innerRead nonempty
  exact isEmpty_of_parts? read (List.append_ne_nil_of_right_ne_nil _ nonempty)

private theorem length_placeFragments (places : List Place) :
    (placeFragments places).length = places.length := by
  induction places with
  | nil => rfl
  | cons place rest ih => rw [placeFragments, List.length_cons, ih, List.length_cons]

private theorem filter_placeFragments {places : List Place}
    (reads : ∀ place ∈ places, place.proposition.Reads) :
    ((placeFragments places).filter fun fragment => !fragment.text.isEmpty) =
      placeFragments places := by
  induction places with
  | nil => rfl
  | cons place rest ih =>
      have written := isEmpty_fragment (reads place List.mem_cons_self)
      rw [placeFragments, List.filter_cons_of_pos (by rw [written]; rfl),
        ih fun other member => reads other (List.mem_cons_of_mem _ member)]

/-- A group is read as one operand: several terms are in parentheses, and one term
is an operand without them. -/
theorem reads_group {places : List Place} (nonempty : places ≠ [])
    (linked : placesLinked true places = true)
    (reads : ∀ place ∈ places, place.proposition.Reads) :
    (Proposition.group places).Reads := by
  have text : (Proposition.group places).text =
      if 1 < places.length then
        "(" ++ NodeKind.group.layout.joinWritten (placeFragments places) ++ ")"
      else NodeKind.group.layout.joinWritten (placeFragments places) := by
    rw [Proposition.text, Layout.compose, filter_placeFragments reads]
    simp [Layout.headed, Layout.wraps, NodeKind.layout, NodeKind.spaced,
      length_placeFragments]
  rw [Proposition.Reads, text]
  rcases places with _ | ⟨⟨link, proposition⟩, _ | ⟨second, rest⟩⟩
  case nil => exact absurd rfl nonempty
  case cons.nil =>
      rw [placesLinked, Bool.and_eq_true, Bool.and_eq_true, beq_iff_eq] at linked
      obtain ⟨⟨leading, -⟩, -⟩ := linked
      obtain ⟨parts, formula, read, unitRead, unitHolds⟩ :=
        read_leading leading (reads ⟨link, proposition⟩ List.mem_cons_self)
      refine ⟨parts, formula, ?_, unitRead, ?_⟩
      · rw [if_neg (by simp), placeFragments, placeFragments, Layout.joinWritten,
          Layout.joinRest, String.append_empty]
        exact read
      · intro truth
        rw [unitHolds, Proposition.holds, placesHold_leading truth leading, placesHold]
  case cons.cons =>
      have spaced : NodeKind.group.layout.separator = " " := rfl
      obtain ⟨parts, formula, read, formulaRead, formulaHolds⟩ :=
        read_joinWritten spaced nonempty linked reads
      refine ⟨_, formula, ?_, unitOf?_parenthesised formulaRead, formulaHolds⟩
      rw [if_pos (by simp)]
      exact parts?_parenthesised read

mutual

/-- Every proposition is read as one operand if its predicates are. -/
theorem Proposition.reads : ∀ (proposition : Proposition),
    proposition.isLinked = true →
    (∀ text ∈ proposition.predicates, (Sql.unit? text).isSome = true) →
    proposition.Reads
  | .predicate text, _, units => by
      obtain ⟨formula, unit⟩ := Option.isSome_iff_exists.mp
        (units text (List.mem_singleton.mpr rfl))
      obtain ⟨parts, read, unitRead⟩ := Option.bind_eq_some_iff.mp unit
      refine ⟨parts, formula, read, unitRead, ?_⟩
      intro truth
      rw [Proposition.holds, unit, Option.any_some]
  | .group places, linked, units => by
      rw [Proposition.isLinked, Bool.and_eq_true] at linked
      obtain ⟨nonempty, placesAreLinked⟩ := linked
      refine reads_group ?_ placesAreLinked (places_read places placesAreLinked units)
      rintro rfl
      cases nonempty

/-- Every proposition of a linked sequence over readable predicates can be read. -/
theorem places_read : ∀ (places : List Place) {leading : Bool},
    placesLinked leading places = true →
    (∀ text ∈ placePredicates places, (Sql.unit? text).isSome = true) →
    ∀ place ∈ places, place.proposition.Reads
  | [], _, _, _, _, member => by cases member
  | ⟨link, proposition⟩ :: rest, leading, linked, units, place, member => by
      rw [placesLinked, Bool.and_eq_true, Bool.and_eq_true] at linked
      obtain ⟨⟨-, propositionLinked⟩, restLinked⟩ := linked
      rw [placePredicates] at units
      rcases List.mem_cons.mp member with rfl | inRest
      · exact Proposition.reads proposition propositionLinked
          fun text inside => units text (List.mem_append_left _ inside)
      · exact places_read rest restLinked
          (fun text inside => units text (List.mem_append_right _ inside)) place inRest

end

/-! ### Conditions -/

namespace Conditions

/-- A sequence means the same as one term. -/
theorem holds_asTerm (conditions : Conditions) (mode : Mode) (parameters : Parameters)
    (truth : List Sql.Part → Bool) :
    (conditions.asTerm.proposition mode parameters).1.holds truth =
      conditions.holdsBehind mode parameters truth := by
  rw [holdsBehind, asTerm]
  split
  next term single =>
    rw [single, itemPlaces_singleton, placesHold_singleton]
    simp [Link.isNegated, Link.isAlternative]
  next => rw [Term.proposition, Writing.bind_apply, Writing.pure_apply, Proposition.holds]

/-- Pushed conditions are one operand of the connective, negated as a whole by a negated
one.  `OR` makes them an alternative to all that stands before them, `AND` goes on with the
last alternative. -/
theorem holds_push (conditions : Conditions) {other : Conditions} (connective : Connective)
    (nonempty : other.isEmpty = false) (mode : Mode) (truth : List Sql.Part → Bool) :
    let operand := connective.isNegated ^^
      other.holdsBehind mode (conditions.parameters mode) truth
    let level := placesLevel truth true (conditions.places mode)
    (conditions.push connective other).holds mode truth =
      if conditions.isEmpty then operand
      else if (Link.joined connective).isAlternative then
        conditions.holds mode truth || operand
      else level.1 || (level.2 && operand) := by
  intro operand level
  rw [push, nonempty, if_neg Bool.false_ne_true, holds, places, itemPlaces_append,
    itemPlaces_singleton, placesHold_append, placesHold_singleton]
  simp only [holds_asTerm]
  by_cases first : conditions.isEmpty = true
  · have nothing : conditions.items = [] := List.isEmpty_iff.mp first
    have leads : itemPlaces mode conditions.items .empty = ([], .empty) := by
      rw [nothing]
      rfl
    simp only [operand, parameters, leads, if_pos first, placesLevel, Bool.false_or]
    cases connective <;> rfl
  · simp only [if_neg first]
    split
    next => rw [holds, placesHold_eq_level, Bool.or_assoc]; rfl
    next => rfl

/-- Conditions mean what their text says by the precedence of SQL, however they
were built and however deep their groups are nested. -/
theorem Built.read?_render {conditions : Conditions} (built : conditions.Built)
    (mode : Mode)
    (units : ∀ text ∈ placePredicates (conditions.places mode),
      (Sql.unit? text).isSome = true) :
    if conditions.isEmpty then ((conditions.writeTo .empty).render mode).sql = ""
    else
      ∃ formula, read? ((conditions.writeTo .empty).render mode).sql = some formula ∧
        ∀ truth, formula.eval truth = conditions.holds mode truth := by
  rw [sql_render]
  by_cases empty : conditions.isEmpty = true
  · rw [if_pos empty]
    have nothing := isEmpty_places conditions mode
    rw [empty, List.isEmpty_iff] at nothing
    rw [nothing]
    rfl
  · rw [if_neg empty]
    have linked := built.placesLinked mode .empty
    have reads := places_read (conditions.places mode) linked units
    have nonempty : conditions.places mode ≠ [] := by
      intro nothing
      rw [← isEmpty_places conditions mode, nothing] at empty
      exact empty rfl
    have spaced : NodeKind.root.layout.separator = " " := rfl
    obtain ⟨parts, formula, read, formulaRead, formulaHolds⟩ :=
      read_joinWritten spaced nonempty linked reads
    refine ⟨formula, ?_, formulaHolds⟩
    have text : treeText (placeFragments (conditions.places mode)) =
        Text.trim (NodeKind.root.layout.joinWritten
          (placeFragments (conditions.places mode))) := by
      rw [treeText, Layout.compose, filter_placeFragments reads]
      rfl
    rw [text, read?, parts?_trim read]
    exact formulaRead

/-- A negated group that leads and holds a `BETWEEN`, behind it a doubly negated
`NOT EXISTS`: the parameters are numbered where they stand. -/
theorem read?_render_negations :
    let field := Token.name "a"
    let bound (value : String) := Token.string value
    let inner := (between field (bound "x") (bound "y' AND (")).push .or
      (comparison field (.name "=") (bound "z"))
    let conditions := ((negation inner).push .andNot
      (negation (notExisting (.here [.node .select [.leaf .null]])))).push .or
        (comparison field (.name "IS") .null)
    let sql := ((conditions.writeTo .empty).render (.prepared .dollar)).sql
    sql = "NOT (a BETWEEN $1 AND $2 OR a = $3) AND NOT NOT NOT EXISTS (SELECT NULL) OR a IS NULL" ∧
      ∃ formula, read? sql = some formula ∧
        ∀ truth, formula.eval truth = conditions.holds (.prepared .dollar) truth := by
  refine ⟨by decide +kernel, ?_⟩
  exact Built.read?_render
    (.push (.push (.push .empty .andNot (.push (.predicate _) .or (.predicate _))) .andNot
      (.push .empty .andNot (.predicate _))) .or (.predicate _))
    (.prepared .dollar) (by decide)

end Conditions

end ClauseTree
