import ClauseTree.Statement.Clause

/-!
# Sequences

A sequence is created by a utility statement, which takes no parameters, so its
numbers are written out in prepared text too.
-/

namespace ClauseTree

/-- A bound of a sequence. -/
inductive Bound where
  | value (n : Int64)
  | none
deriving DecidableEq, Repr

/-- A number with a short or a long spelling of its keyword. -/
structure Spelled where
  /-- Whether the keyword is followed by `BY` or `WITH`. -/
  long : Bool
  amount : Int64
deriving DecidableEq, Repr

/-- The creation of a sequence. -/
structure CreateSequence where
  temporary : Bool
  ifNotExists : Bool
  name : Token
  dataType : Option Token
  increment : Option Spelled
  minValue : Option Bound
  maxValue : Option Bound
  start : Option Spelled
  cache : Option Int64
  cycle : Option Bool
  ownedBy : Option Token
deriving BEq

namespace CreateSequence

/-- A sequence with no options. -/
def named (name : Token) : CreateSequence :=
  { temporary := false, ifNotExists := false, name := name, dataType := none,
    increment := none, minValue := none, maxValue := none, start := none, cache := none,
    cycle := none, ownedBy := none }

/-! ### Histories -/

/-- One option of a sequence. -/
inductive Call where
  | temporary
  | ifNotExists
  | dataType (name : String)
  | increment (step : Spelled)
  | minValue (bound : Bound)
  | maxValue (bound : Bound)
  | start (first : Spelled)
  | cache (count : Int64)
  | cycle (repeats : Bool)
  | ownedBy (column : Token)
  | ownedByNone

/-- The sequence with an option; an earlier choice of it is replaced. -/
def apply (sequence : CreateSequence) : Call → CreateSequence
  | .temporary => { sequence with temporary := true }
  | .ifNotExists => { sequence with ifNotExists := true }
  | .dataType name => { sequence with dataType := some (.name name) }
  | .increment step => { sequence with increment := some step }
  | .minValue bound => { sequence with minValue := some bound }
  | .maxValue bound => { sequence with maxValue := some bound }
  | .start first => { sequence with start := some first }
  | .cache count => { sequence with cache := some count }
  | .cycle repeats => { sequence with cycle := some repeats }
  | .ownedBy column => { sequence with ownedBy := some column }
  | .ownedByNone => { sequence with ownedBy := some (.name "NONE") }

/-- A temporary sequence with no options. -/
def temporaryNamed (name : Token) : CreateSequence :=
  (named name).apply .temporary

/-- A sequence with no options that is created only if it is missing. -/
def namedIfNotExists (name : Token) : CreateSequence :=
  (named name).apply .ifNotExists

/-- A temporary sequence with no options that is created only if it is missing. -/
def temporaryNamedIfNotExists (name : Token) : CreateSequence :=
  (temporaryNamed name).apply .ifNotExists

/-! ### Writing -/

/-- Write an option with a number behind its keyword. -/
def numberSteps (kind : NodeKind) (n : Int64) : List Step :=
  [.start kind, .leaf (.number (.int n)), .close]

/-- Write a bound, or its absence. -/
def boundSteps (bound : Option Bound) (present absent : NodeKind) : List Step :=
  match bound with
  | some (.value n) => numberSteps present n
  | some .none => [.start absent, .close]
  | none => []

/-- Write a number in its spelling. -/
def spelledSteps (number : Option Spelled) (short long : NodeKind) : List Step :=
  match number with
  | none => []
  | some ⟨isLong, n⟩ => numberSteps (if isLong then long else short) n

/-- Write whether the sequence starts over at its end. -/
def cycleSteps : Option Bool → List Step
  | none => []
  | some true => [.start .cycle, .close]
  | some false => [.start .noCycle, .close]

/-- Write the name behind its keyword. -/
def targetSteps (sequence : CreateSequence) : List Step :=
  [.start (if sequence.temporary then .createTempSequence else .createSequence)] ++
    (if sequence.ifNotExists then [.leaf (.name "IF NOT EXISTS")] else []) ++
    [.leaf sequence.name] ++
    [.close]

/-- Write the options in the order of the grammar. -/
def steps (sequence : CreateSequence) : List Step :=
  sequence.targetSteps ++
    optionSteps .asType sequence.dataType ++
    spelledSteps sequence.increment .increment .incrementBy ++
    boundSteps sequence.minValue .minValue .noMinValue ++
    boundSteps sequence.maxValue .maxValue .noMaxValue ++
    spelledSteps sequence.start .start .startWith ++
    ((sequence.cache.map (numberSteps .cache)).getD []) ++
    cycleSteps sequence.cycle ++
    optionSteps .ownedBy sequence.ownedBy

end CreateSequence

end ClauseTree
