import ClauseTree.Proofs.Lexeme

/-!
# Boolean formulas

The boolean grammar of SQL, as a reader from texts to formulas: `NOT` binds
tighter than `AND`, `AND` tighter than `OR`, and parentheses override both.
Everything that is not built by these three from smaller formulas is an atom,
however many lexemes it has.  The `AND` of a `BETWEEN` belongs to its atom, and
so does all that an atom holds in brackets.
-/

namespace ClauseTree.Sql

/-! ### Brackets -/

inductive Bracket where
  | parenthesis
  | square
  /-- From `CASE` to `END`. -/
  | caseEnd
deriving DecidableEq, Repr

/-- A lexeme, or a pair of brackets with what they enclose. -/
inductive Part where
  | lexeme (lexeme : Lexeme)
  | enclosed (bracket : Bracket) (parts : List Part)
deriving Repr

namespace Lexeme

/-- Keywords are spelled in capital or small letters. -/
def spells (keyword : String) : Lexeme → Bool
  | word chars => chars.map Char.toUpper == keyword.toList
  | _ => false

def opens? (lexeme : Lexeme) : Option Bracket :=
  if lexeme = mark '(' then some .parenthesis
  else if lexeme = mark '[' then some .square
  else if lexeme.spells "CASE" then some .caseEnd
  else none

def closes? (lexeme : Lexeme) : Option Bracket :=
  if lexeme = mark ')' then some .parenthesis
  else if lexeme = mark ']' then some .square
  else if lexeme.spells "END" then some .caseEnd
  else none

end Lexeme

/-- Parts behind which the text goes on, in brackets that are still open. -/
inductive Nest where
  | outermost (parts : List Part)
  | inside (outer : Nest) (bracket : Bracket) (parts : List Part)
deriving Repr

namespace Nest

def append (more : List Part) : Nest → Nest
  | outermost parts => outermost (parts ++ more)
  | inside outer bracket parts => inside outer bracket (parts ++ more)

def close? (bracket : Bracket) : Nest → Option Nest
  | outermost _ => none
  | inside outer opened parts =>
      if opened = bracket then some (outer.append [.enclosed bracket parts]) else none

def take? (nest : Nest) (lexeme : Lexeme) : Option Nest :=
  match lexeme.opens?, lexeme.closes? with
  | some bracket, _ => some (inside nest bracket [])
  | none, some bracket => nest.close? bracket
  | none, none => some (nest.append [.lexeme lexeme])

def parts? : Nest → Option (List Part)
  | outermost parts => some parts
  | inside .. => none

/-- A nest that was read by itself, behind what another one holds. -/
def behind (base : Nest) : Nest → Nest
  | outermost parts => base.append parts
  | inside outer bracket parts => inside (base.behind outer) bracket parts

private theorem append_append (nest : Nest) (first second : List Part) :
    (nest.append first).append second = nest.append (first ++ second) := by
  cases nest <;> simp [append]

private theorem append_nil (nest : Nest) : nest.append [] = nest := by
  cases nest <;> simp [append]

private theorem append_behind (base nest : Nest) (more : List Part) :
    (base.behind nest).append more = base.behind (nest.append more) := by
  cases nest with
  | outermost parts => exact append_append base parts more
  | inside outer bracket parts => rfl

/-- What a lexeme does to a nest that it does not break, it does to it behind
another one. -/
theorem take?_behind (base : Nest) {nest next : Nest} {lexeme : Lexeme}
    (taken : nest.take? lexeme = some next) :
    (base.behind nest).take? lexeme = some (base.behind next) := by
  rw [take?] at taken ⊢
  split at taken
  next bracket opens =>
    cases taken
    rfl
  next bracket opens closes =>
    cases nest with
    | outermost parts => cases taken
    | inside outer opened parts =>
        rw [close?] at taken
        split at taken
        next same =>
          cases taken
          rw [behind, close?, if_pos same, append_behind]
        next => cases taken
  next opens closes =>
    cases taken
    rw [append_behind]

private theorem foldlM_behind (base : Nest) : ∀ (lexemes : List Lexeme) {nest next : Nest},
    lexemes.foldlM take? nest = some next →
    lexemes.foldlM take? (base.behind nest) = some (base.behind next)
  | [], _, _, read => by
      cases read
      rfl
  | lexeme :: rest, nest, next, read => by
      rw [List.foldlM_cons] at read ⊢
      obtain ⟨between, taken, readRest⟩ := Option.bind_eq_some_iff.mp read
      rw [take?_behind base taken]
      exact foldlM_behind base rest readRest

end Nest

def nest? (lexemes : List Lexeme) : Option (List Part) :=
  (lexemes.foldlM Nest.take? (.outermost [])).bind Nest.parts?

/-- Lexemes that nest by themselves leave the open frames behind them as they are, and add
their parts to the innermost one. -/
theorem foldlM_of_nest? (base : Nest) {lexemes : List Lexeme} {parts : List Part}
    (balanced : nest? lexemes = some parts) :
    lexemes.foldlM Nest.take? base = some (base.append parts) := by
  obtain ⟨last, read, complete⟩ := Option.bind_eq_some_iff.mp balanced
  cases last with
  | outermost all =>
      cases complete
      have behind := Nest.foldlM_behind base lexemes read
      rw [Nest.behind, Nest.append_nil] at behind
      exact behind
  | inside outer bracket inner => cases complete

/-- Two sequences that nest by themselves nest in a row. -/
theorem nest?_append {first second : List Lexeme} {left right : List Part}
    (readFirst : nest? first = some left) (readSecond : nest? second = some right) :
    nest? (first ++ second) = some (left ++ right) := by
  rw [nest?, List.foldlM_append, foldlM_of_nest? _ readFirst, Option.bind_eq_bind,
    Option.bind_some, foldlM_of_nest? _ readSecond]
  rfl

private theorem nest?_parenthesised {lexemes : List Lexeme} {parts : List Part}
    (balanced : nest? lexemes = some parts) :
    nest? (.mark '(' :: (lexemes ++ [.mark ')'])) =
      some [.enclosed .parenthesis parts] := by
  have opened : (Nest.outermost []).take? (.mark '(') =
      some (.inside (.outermost []) .parenthesis []) := rfl
  rw [nest?, List.foldlM_cons, opened, Option.bind_eq_bind, Option.bind_some,
    List.foldlM_append, foldlM_of_nest? _ balanced]
  rfl

/-- The parts of a text. -/
def parts? (text : String) : Option (List Part) :=
  (lexemes? text).bind nest?

/-- Two texts with a blank between them have the parts of both. -/
theorem parts?_spaced {left right : String} {first second : List Part}
    (readLeft : parts? left = some first) (readRight : parts? right = some second) :
    parts? (left ++ " " ++ right) = some (first ++ second) := by
  obtain ⟨leftLexemes, leftRead, leftNest⟩ := Option.bind_eq_some_iff.mp readLeft
  obtain ⟨rightLexemes, rightRead, rightNest⟩ := Option.bind_eq_some_iff.mp readRight
  rw [parts?, lexemes?_spaced leftRead rightRead]
  exact nest?_append leftNest rightNest

/-- A text in parentheses is one enclosed part. -/
theorem parts?_parenthesised {inner : String} {parts : List Part}
    (read : parts? inner = some parts) :
    parts? ("(" ++ inner ++ ")") = some [.enclosed .parenthesis parts] := by
  obtain ⟨lexemes, innerRead, innerNest⟩ := Option.bind_eq_some_iff.mp read
  rw [parts?, lexemes?_parenthesised innerRead]
  exact nest?_parenthesised innerNest

/-- Trimming and the line end behind a text change nothing about its parts. -/
theorem parts?_trim {text : String} {parts : List Part}
    (read : parts? text = some parts) :
    parts? (Text.trim text ++ "\n") = some parts := by
  obtain ⟨lexemes, textRead, textNest⟩ := Option.bind_eq_some_iff.mp read
  rw [parts?, lexemes?_trim (lexemes?_lineEnd textRead)]
  exact textNest

/-! ### Reading a formula -/

inductive Formula where
  | atom (parts : List Part)
  | not (operand : Formula)
  | and (left right : Formula)
  | or (left right : Formula)
deriving Repr

/-- The value of a formula under an assignment of truth values to atoms. -/
def Formula.eval (truth : List Part → Bool) : Formula → Bool
  | atom parts => truth parts
  | not operand => !operand.eval truth
  | and left right => left.eval truth && right.eval truth
  | or left right => left.eval truth || right.eval truth

def Formula.negated : Nat → Formula → Formula
  | 0, formula => formula
  | count + 1, formula => .not (negated count formula)

/-- A formula behind the conjunction before it, if there is one. -/
def Formula.conjoin (before : Option Formula) (formula : Formula) : Formula :=
  before.elim formula (.and · formula)

def Formula.disjoin (before : Option Formula) (formula : Formula) : Formula :=
  before.elim formula (.or · formula)

/-- What a part means between the operands of a formula. -/
inductive Role where
  | and
  | or
  | not
  | between
  /-- The first word of a query. -/
  | query
  /-- The end of the formula. -/
  | separator
  | operand
deriving DecidableEq, Repr

def keywordRoles : List (String × Role) :=
  [("AND", .and), ("OR", .or), ("NOT", .not), ("BETWEEN", .between),
   ("SELECT", .query), ("WITH", .query), ("TABLE", .query)]

def Part.role : Part → Role
  | .lexeme (.mark ',') => .separator
  | .lexeme (.mark ';') => .separator
  | .lexeme word =>
      ((keywordRoles.find? fun entry => word.spells entry.1).map (·.2)).getD .operand
  | .enclosed .. => .operand

inductive Operand where
  | missing
  /-- One part, with the formula that it is by itself. -/
  | single (part : Part) (formula : Option Formula)
  | atom (parts : List Part)
deriving Repr

namespace Operand

/-- One more part.  Two parts or more are an atom, whatever the first one is by
itself. -/
def extend (part : Part) (formula : Option Formula) : Operand → Operand
  | missing => single part formula
  | single first _ => atom [first, part]
  | atom parts => atom (parts ++ [part])

def formula? : Operand → Option Formula
  | missing => none
  | single _ formula => formula
  | atom parts => some (.atom parts)

end Operand

/-- What has been read of a formula at one level of parentheses: the disjunction
and the conjunction in front of the operand, and the `NOT`s behind them. -/
structure Level where
  sum : Option Formula
  product : Option Formula
  negations : Nat
  operand : Operand
  /-- The number of `BETWEEN`s in the operand that wait for their `AND`. -/
  betweens : Nat
deriving Repr

namespace Level

/-- A level behind a disjunction and a conjunction, in front of an operand. -/
def start (sum product : Option Formula) : Level :=
  { sum := sum, product := product, negations := 0, operand := .missing, betweens := 0 }

def unit? (level : Level) : Option Formula :=
  if level.betweens = 0 then level.operand.formula?.map (.negated level.negations)
  else none

/-- The conjunction that ends here. -/
def product? (level : Level) : Option Formula :=
  level.unit?.map (.conjoin level.product)

/-- The whole formula, if it ends here. -/
def sum? (level : Level) : Option Formula :=
  level.product?.map (.disjoin level.sum)

/-- Whether nothing stands in front of the operand and its `NOT`s. -/
def single (level : Level) : Bool :=
  level.sum.isNone && level.product.isNone

def extend (level : Level) (part : Part) (formula : Option Formula) : Level :=
  { level with operand := level.operand.extend part formula }

def take? (level : Level) (part : Part) (formula : Option Formula) : Option Level :=
  match part.role, level.operand with
  | .and, _ =>
      if level.betweens = 0 then level.product?.map fun product => start level.sum (some product)
      else some { level.extend part formula with betweens := level.betweens - 1 }
  | .or, _ => level.sum?.map fun sum => start (some sum) none
  | .not, .missing => some { level with negations := level.negations + 1 }
  | .between, _ => some { level.extend part formula with betweens := level.betweens + 1 }
  | .query, .missing => none
  | .separator, _ => none
  | _, _ => some (level.extend part formula)

end Level

def isQuery (parts : List Part) : Bool :=
  parts.head?.any fun part => part.role = .query

mutual

/-- The formula that a part is by itself: in parentheses it is what they enclose,
unless that is a query. -/
def Part.formula? : Part → Option Formula
  | .lexeme word => some (.atom [.lexeme word])
  | .enclosed bracket parts =>
      if bracket = .parenthesis ∧ isQuery parts = false then
        (Level.takeParts? (.start none none) parts).bind Level.sum?
      else some (.atom [.enclosed bracket parts])

def Level.takeParts? : Level → List Part → Option Level
  | level, [] => some level
  | level, part :: rest =>
      (level.take? part part.formula?).bind fun next => next.takeParts? rest

end

/-- The formula of parts by SQL's precedence. -/
def formula? (parts : List Part) : Option Formula :=
  (Level.takeParts? (.start none none) parts).bind Level.sum?

/-- The formula of a text as a whole.  The line end behind it ends a comment in
the last line. -/
def read? (text : String) : Option Formula :=
  (parts? (text ++ "\n")).bind formula?

/-- The formula of parts that are one operand, with `NOT`s or without. -/
def unitOf? (parts : List Part) : Option Formula :=
  (Level.takeParts? (.start none none) parts).bind fun level =>
    if level.single then level.unit? else none

/-- The formula of a fragment that can stand as one operand among others: no
`AND` or `OR` stands outside its brackets, and it leaves no bracket, no quotes
and no comment open. -/
def unit? (fragment : String) : Option Formula :=
  (parts? fragment).bind unitOf?

/-! ### Reading an operand among others -/

private theorem Formula.negated_add (outer inner : Nat) (formula : Formula) :
    negated (outer + inner) formula = negated outer (negated inner formula) := by
  induction outer with
  | zero => rw [Nat.zero_add, negated]
  | succ count ih => rw [Nat.succ_add, negated, ih, negated]

namespace Level

/-- A level takes two stretches of parts one after the other. -/
theorem takeParts?_append (second : List Part) : ∀ (first : List Part) (level : Level),
    level.takeParts? (first ++ second) =
      (level.takeParts? first).bind fun next => next.takeParts? second
  | [], level => by rw [List.nil_append, takeParts?, Option.bind_some]
  | part :: rest, level => by
      rw [List.cons_append, takeParts?, takeParts?, Option.bind_assoc]
      congr 1
      funext next
      exact takeParts?_append second rest next

/-- A level that was read by itself, behind what stands in front of an operand. -/
def behind (front level : Level) : Level :=
  { level with
    sum := front.sum
    product := front.product
    negations := front.negations + level.negations }

private theorem behind_operand (front level : Level) :
    (front.behind level).operand = level.operand := rfl

private theorem behind_betweens (front level : Level) :
    (front.behind level).betweens = level.betweens := rfl

private theorem unit?_behind (front level : Level) :
    (front.behind level).unit? = level.unit?.map (.negated front.negations) := by
  rw [unit?, unit?, behind_betweens, behind_operand]
  by_cases complete : level.betweens = 0
  · rw [if_pos complete, if_pos complete, Option.map_map]
    congr 1
    funext formula
    exact Formula.negated_add _ _ _
  · rw [if_neg complete, if_neg complete, Option.map_none]

/-- A part that is neither a connective nor a `NOT` in front of the operand
belongs to the operand. -/
theorem take?_of_inside {level : Level} {part : Part}
    (inside : part.role = .operand ∨
      (part.role = .not ∨ part.role = .query) ∧ level.operand ≠ .missing)
    (formula : Option Formula) :
    level.take? part formula = some (level.extend part formula) := by
  rcases inside with role | ⟨role | role, present⟩
  · simp only [take?, role]
  · cases operand : level.operand with
    | missing => exact absurd operand present
    | single => simp only [take?, role, operand]
    | atom => simp only [take?, role, operand]
  · cases operand : level.operand with
    | missing => exact absurd operand present
    | single => simp only [take?, role, operand]
    | atom => simp only [take?, role, operand]

/-- A part that does not join operands does the same behind others. -/
theorem take?_behind (front : Level) {level next : Level} {part : Part}
    {formula : Option Formula} (taken : level.take? part formula = some next)
    (single : next.single = true) :
    level.single = true ∧
      (front.behind level).take? part formula = some (front.behind next) := by
  have extends_both
      (inside : part.role = .operand ∨
        (part.role = .not ∨ part.role = .query) ∧ level.operand ≠ .missing) :
      level.single = true ∧
        (front.behind level).take? part formula = some (front.behind next) := by
    rw [take?_of_inside inside] at taken
    cases taken
    exact ⟨single, @take?_of_inside (front.behind level) part inside formula⟩
  cases role : part.role with
  | and =>
      simp only [take?, role, behind_betweens] at taken ⊢
      by_cases closed : level.betweens = 0
      · -- A connective would leave something in front of the next operand.
        rw [if_pos closed, Option.map_eq_some_iff] at taken
        obtain ⟨product, -, rfl⟩ := taken
        simp [Level.single, start] at single
      · rw [if_neg closed] at taken
        cases taken
        exact ⟨single, if_neg closed⟩
  | or =>
      simp only [take?, role, Option.map_eq_some_iff] at taken
      obtain ⟨sum, -, rfl⟩ := taken
      simp [Level.single, start] at single
  | not =>
      by_cases missing : level.operand = .missing
      · simp only [take?, role, behind_operand, missing] at taken ⊢
        cases taken
        exact ⟨single, rfl⟩
      · exact extends_both (.inr ⟨.inl role, missing⟩)
  | between =>
      simp only [take?, role] at taken ⊢
      cases taken
      exact ⟨single, rfl⟩
  | query =>
      by_cases missing : level.operand = .missing
      · simp only [take?, role, missing] at taken
        cases taken
      · exact extends_both (.inr ⟨.inr role, missing⟩)
  | separator =>
      simp only [take?, role] at taken
      cases taken
  | operand => exact extends_both (.inl role)

private theorem takeParts?_behind (front : Level) : ∀ (parts : List Part) {level last : Level},
    level.takeParts? parts = some last → last.single = true →
    level.single = true ∧
      (front.behind level).takeParts? parts = some (front.behind last)
  | [], _, _, read, single => by
      rw [takeParts?] at read ⊢
      cases read
      exact ⟨single, rfl⟩
  | part :: rest, level, last, read, single => by
      rw [takeParts?, Option.bind_eq_some_iff] at read
      obtain ⟨next, taken, readRest⟩ := read
      obtain ⟨nextSingle, behindRest⟩ := takeParts?_behind front rest readRest single
      obtain ⟨levelSingle, behindPart⟩ := take?_behind front taken nextSingle
      refine ⟨levelSingle, ?_⟩
      rw [takeParts?, behindPart, Option.bind_some, behindRest]

end Level

/-- A stretch that is one unit by itself is one unit behind any sum, product and
negations. -/
theorem takeParts?_of_unitOf? {parts : List Part} {formula : Formula}
    (unit : unitOf? parts = some formula) (sum product : Option Formula)
    (negations : Nat) :
    ∃ level : Level,
      ({ Level.start sum product with negations := negations }).takeParts? parts =
          some level ∧
        level.sum = sum ∧ level.product = product ∧
        level.unit? = some (.negated negations formula) := by
  obtain ⟨last, read, lastUnit⟩ := Option.bind_eq_some_iff.mp unit
  split at lastUnit
  next single =>
    let front : Level := { Level.start sum product with negations := negations }
    refine ⟨front.behind last, (Level.takeParts?_behind front parts read single).2,
      rfl, rfl, ?_⟩
    rw [Level.unit?_behind, lastUnit]
    rfl
  next => cases lastUnit

private theorem isQuery_of_formula? {parts : List Part} {formula : Formula}
    (read : formula? parts = some formula) : isQuery parts = false := by
  cases parts with
  | nil => rfl
  | cons part rest =>
      by_cases role : part.role = .query
      · have stuck : (Level.start none none).take? part part.formula? = none := by
          simp [Level.take?, role, Level.start]
        rw [formula?, Level.takeParts?, stuck] at read
        cases read
      · simpa [isQuery] using role

/-- Parentheses make an operand of a formula. -/
theorem unitOf?_parenthesised {parts : List Part} {formula : Formula}
    (read : formula? parts = some formula) :
    unitOf? [.enclosed .parenthesis parts] = some formula := by
  have inner : (Part.enclosed .parenthesis parts).formula? = some formula := by
    rw [Part.formula?, if_pos ⟨rfl, isQuery_of_formula? read⟩]
    exact read
  rw [unitOf?, Level.takeParts?, inner]
  rfl

end ClauseTree.Sql
