import PatchSearch.Decimal.Layout
import PatchSearch.Edit.Basic
import PatchSearch.Evaluation.Usage
import PatchSearch.Failure

namespace PatchSearch

structure SearchConfig where
  steps : Nat
  seed : UInt64
  metric : Metric
  /-- How likely the local search drops an edit instead of adding one. -/
  simplifyProbability : Float
  /-- Samples for each candidate of the k-best search. -/
  repeats : Nat
  /-- Better candidates that the k-best search waits for. -/
  k : Nat
  populationSize : Nat
  generations : Nat
  /-- The kinds of edit of the k-best and the genetic search. -/
  editKinds : List EditKind
  projectName : String
deriving Repr, BEq

/-- A setting out of its limits. -/
inductive ConfigError where
  | noSteps
  | probability (p : Float)
  | noRepeats
  | noBuffer
  | smallPopulation
  | noGenerations
  | noKinds
deriving Repr

def ConfigError.message : ConfigError → String
  | .noSteps => "steps must be > 0"
  | .probability p => "simplify_probability must be within [0, 1], got " ++ Decimal.display p
  | .noRepeats => "repeats must be > 0"
  | .noBuffer => "k must be > 0"
  | .smallPopulation => "population_size must be >= 4"
  | .noGenerations => "generations must be > 0"
  | .noKinds => "at least one edit kind is required"

namespace SearchConfig

def standard : SearchConfig where
  steps := 100
  seed := 123
  metric := .executionTime
  simplifyProbability := 0.5
  repeats := 5
  k := 5
  populationSize := 10
  generations := 10
  editKinds := EditKind.all
  projectName := ""

/-- The first limit that is violated. Fewer than four patches leave no pairs to cross. -/
def validate (c : SearchConfig) : Except ConfigError Unit :=
  if c.steps = 0 then .error .noSteps
  else if !(0 ≤ c.simplifyProbability && c.simplifyProbability ≤ 1) then
    .error (.probability c.simplifyProbability)
  else if c.repeats = 0 then .error .noRepeats
  else if c.k = 0 then .error .noBuffer
  else if c.populationSize < 4 then .error .smallPopulation
  else if c.generations = 0 then .error .noGenerations
  else if c.editKinds.isEmpty then .error .noKinds
  else .ok ()

def toJson (c : SearchConfig) : Json :=
  .object [("steps", .natural c.steps), ("seed", .natural c.seed.toNat),
    ("metric", .string c.metric.name), ("simplify_probability", .real c.simplifyProbability),
    ("repeats", .natural c.repeats), ("k", .natural c.k),
    ("population_size", .natural c.populationSize), ("generations", .natural c.generations),
    ("edit_kinds", .array (c.editKinds.map fun k => .string k.name)),
    ("project_name", .string c.projectName)]

/-- Reads settings; those that are left out have their standard values. -/
def ofJson? (j : Json) : Option SearchConfig := do
  let r ← j.record? ["steps", "seed", "metric", "simplify_probability", "repeats", "k",
    "population_size", "generations", "edit_kinds", "project_name"]
  return {
    steps := ← r.defaulted "steps" standard.steps Json.nat?
    seed := ← r.defaulted "seed" standard.seed Json.word?
    metric := ← r.defaulted "metric" standard.metric (Json.choice? Metric.ofName?)
    simplifyProbability :=
      ← r.defaulted "simplify_probability" standard.simplifyProbability Json.float?
    repeats := ← r.defaulted "repeats" standard.repeats Json.nat?
    k := ← r.defaulted "k" standard.k Json.nat?
    populationSize := ← r.defaulted "population_size" standard.populationSize Json.nat?
    generations := ← r.defaulted "generations" standard.generations Json.nat?
    editKinds :=
      ← r.defaulted "edit_kinds" standard.editKinds (Json.list? (Json.choice? EditKind.ofName?))
    projectName := ← r.defaulted "project_name" standard.projectName Json.string? }

def parse (text : String) : Except Failure SearchConfig :=
  match (Json.parse? text).bind ofJson? with
  | none => .error ⟨[.malformed]⟩
  | some c =>
    match c.validate with
    | .ok () => .ok c
    | .error e => .error (.ofText e.message)

def save (c : SearchConfig) : String :=
  c.toJson.writePretty

end SearchConfig

end PatchSearch
