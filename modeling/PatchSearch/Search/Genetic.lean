import PatchSearch.Edit.Mutation
import PatchSearch.Search.Config
import PatchSearch.Search.Report

namespace PatchSearch

structure GeneticSearch (ω : Type) where
  evaluator : Evaluator ω
  config : SearchConfig

namespace GeneticSearch

/-- What a genetic search knows between two generations. -/
structure State where
  rng : Random
  baseline : Float
  baselineFitness : Float
  /-- The best patch so far. -/
  best : Patch
  bestFitness : Float
  evaluations : Nat
  accepted : Nat
deriving Repr

/-- A patch with the bits of its fitness. -/
abbrev Scored := Patch × UInt64

variable {ω : Type}

def fresh (s : GeneticSearch ω) : State :=
  ⟨.ofSeed s.config.seed, worstFitness, worstFitness, .empty, worstFitness, 0, 0⟩

def mutator (s : GeneticSearch ω) : Mutator :=
  .ofKinds s.config.editKinds

/-- The part of the population that takes part in a tournament. -/
def tournamentFraction : Float := Float.ofBits 0x3fc999999999999a

def inheritProbability : Float := 0.5

/-- The least number that is not below a double from zero up to the largest word. -/
def ceiling (x : Float) : Nat :=
  let n := x.toUInt64
  if n.toFloat < x then n.toNat + 1 else n.toNat

/-- How many patches of a pool take part in a tournament. -/
def tournamentSize (s : GeneticSearch ω) (pool : Nat) : Nat :=
  let size := ceiling (s.config.populationSize.toUInt64.toFloat * tournamentFraction)
  max 1 (min size (max 1 pool))

/-- A key that orders the bits of doubles by their value, with the negative zero first and what is
not a number at the ends. -/
def orderKey (bits : UInt64) : Int :=
  if bits.toNat < Nat.pow 2 63 then bits.toNat else Nat.pow 2 63 - 1 - (bits.toNat : Int)

/-- The first entry of least fitness. -/
def fittest? : List Scored → Option Scored
  | [] => none
  | first :: others =>
    some (others.foldl
      (fun best entry => if orderKey entry.2 < orderKey best.2 then entry else best) first)

/-- The winners of `n` tournaments. The pool stays in the order that the last one left. -/
def tournaments (size : Nat) : (n : Nat) → List Scored → Random → List Patch × Random
  | 0, _, g => ([], g)
  | n + 1, pool, g =>
    let (pool, g) := g.shuffle pool
    let winner := ((fittest? (pool.take size)).map Prod.fst).getD Patch.empty
    let (rest, g) := tournaments size n pool g
    (winner :: rest, g)

/-- The scored patches, filled up with empty patches to the size of a population. -/
def pool (s : GeneticSearch ω) (st : State) (scored : List Scored) : List Scored :=
  scored ++
    List.replicate (s.config.populationSize - scored.length) (Patch.empty, st.baselineFitness.toBits)

def select (s : GeneticSearch ω) (scored : List Scored) (st : State) : List Patch × State :=
  let pool := s.pool st scored
  let (parents, rng) :=
    tournaments (s.tournamentSize pool.length) (s.config.populationSize / 2) pool st.rng
  (parents, { st with rng := rng })

def inherit : List Edit → Random → List Edit × Random
  | [], g => ([], g)
  | e :: es, g =>
    let (heads, g) := g.coin inheritProbability
    let (rest, g) := inherit es g
    (if heads then e :: rest else rest, g)

/-- Two independent draws from the same edits, coin by coin. -/
def inheritTwice : List Edit → Random → (List Edit × List Edit) × Random
  | [], g => (([], []), g)
  | e :: es, g =>
    let (left, g) := g.coin inheritProbability
    let (right, g) := g.coin inheritProbability
    let ((lefts, rights), g) := inheritTwice es g
    ((if left then e :: lefts else lefts, if right then e :: rights else rights), g)

/-- Both parents and their two children. The first child takes edits of the first parent and then of
the second, the other one the other way round. -/
def breed (first second : Patch) (g : Random) : List Patch × Random :=
  let (leftHead, g) := inherit first.edits g
  let ((leftTail, rightHead), g) := inheritTwice second.edits g
  let (rightTail, g) := inherit first.edits g
  ([first, second, ⟨leftHead ++ leftTail⟩, ⟨rightHead ++ rightTail⟩], g)

def breedAll : List (Patch × Patch) → Random → List Patch × Random
  | [], g => ([], g)
  | (first, second) :: couples, g =>
    let (family, g) := breed first second g
    let (rest, g) := breedAll couples g
    (family ++ rest, g)

/-- Pairs the first half of the parents, in random order, with the second half. -/
def couples (parents : List Patch) : List (Patch × Patch) :=
  let half := parents.length / 2
  (parents.take half).zip ((parents.drop half).take half)

/-- Parents and children; one parent of an odd number stays alone and is dropped. -/
def crossover (parents : List Patch) (st : State) : List Patch × State :=
  let (parents, g) := st.rng.shuffle parents
  let (offspring, g) := breedAll (couples parents) g
  (offspring, { st with rng := g })

/-- One mutation of each patch. -/
def mutateAll (m : Mutator) (base : SourceTree) : List Patch → Random → List Patch × Random
  | [], g => ([], g)
  | p :: ps, g =>
    let (first, g) := m.mutate p base g
    let (rest, g) := mutateAll m base ps g
    (first :: rest, g)

/-- The first population. -/
def firstPopulation (s : GeneticSearch ω) (st : State) : List Patch × State :=
  let (population, g) :=
    s.mutator.mutants Patch.empty s.evaluator.base s.config.populationSize st.rng
  (population, { st with rng := g })

def nextPopulation (s : GeneticSearch ω) (scored : List Scored) (st : State) : List Patch × State :=
  let (parents, st) := s.select scored st
  let (offspring, st) := crossover parents st
  let (mutated, g) := mutateAll s.mutator s.evaluator.base offspring st.rng
  let (added, g) :=
    s.mutator.mutants Patch.empty s.evaluator.base (s.config.populationSize - mutated.length) g
  (mutated ++ added, { st with rng := g })

/-- Measures the program before any edit and starts anew from there. -/
def measureBaseline (s : GeneticSearch ω) (sink : Sink ω) (st : State) : StateM ω State := do
  let v ← s.evaluator.baseline
  let metric := s.evaluator.measure v
  let fitness := s.evaluator.fitness v
  sink.offer (.baseline v.outcome metric)
  return { st with
    rng := .ofSeed s.config.seed
    baseline := metric
    baselineFitness := fitness
    best := .empty
    bestFitness := fitness
    evaluations := 0
    accepted := 0 }

def evaluateOne (s : GeneticSearch ω) (sink : Sink ω) (generation : Nat) (p : Patch) (st : State) :
    StateM ω (Scored × State) := do
  let v ← s.evaluator.evaluate p
  let metric := s.evaluator.measure v
  let fitness := s.evaluator.fitness v
  let better := fitness < st.bestFitness
  let st := { st with evaluations := st.evaluations + 1 }
  let st :=
    if better then { st with best := p, bestFitness := fitness, accepted := st.accepted + 1 } else st
  let what := if better then "new best" else v.outcome.message
  sink.offer
    { step := st.evaluations, accepted := st.accepted, outcome := v.outcome,
      message := s!"generation {generation}: " ++ what, metric := metric,
      improvement := v.outcome.improvement st.baseline metric, description := p.describe }
  return ((p, fitness.toBits), st)

def evaluateAll (s : GeneticSearch ω) (sink : Sink ω) (generation : Nat) :
    List Patch → State → StateM ω (List Scored × State)
  | [], st => pure ([], st)
  | p :: ps, st => do
    let (scored, st) ← s.evaluateOne sink generation p st
    let (rest, st) ← evaluateAll s sink generation ps st
    return (scored :: rest, st)

/-- Generations with the numbers from `number` on. -/
def generations (s : GeneticSearch ω) (sink : Sink ω) :
    (left number : Nat) → List Patch → State → StateM ω State
  | 0, _, _, st => pure st
  | left + 1, number, population, st => do
    let (scored, st) ← s.evaluateAll sink number population st
    let (next, st) := s.nextPopulation scored st
    generations s sink left (number + 1) next st

def summary (s : GeneticSearch ω) (st : State) : Summary :=
  .of "genetic" s.evaluator.base st.best st.baseline st.bestFitness st.evaluations st.accepted

/-- A whole search, unless a setting is out of its limits. -/
def run (s : GeneticSearch ω) (sink : Sink ω) (st : State) :
    StateM ω (Except Failure Summary × State) := do
  match s.config.validate with
  | .error e => return (.error (.ofText ("invalid search configuration: " ++ e.message)), st)
  | .ok () =>
    let st ← s.measureBaseline sink st
    let (population, st) := s.firstPopulation st
    let st ← s.generations sink s.config.generations 1 population st
    return (.ok (s.summary st), st)

end GeneticSearch

end PatchSearch
