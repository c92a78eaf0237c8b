import PatchSearch.CommandLine.Grammar
import PatchSearch.Decimal.Literal
import PatchSearch.Edit.Basic
import PatchSearch.Evaluation.Usage
import PatchSearch.Generation.Service
import PatchSearch.Text.Blank
import PatchSearch.Text.Integer
import PatchSearch.Text.Search

namespace PatchSearch.CommandLine

structure RunOptions where
  workdir : String
  source : String
  className : String
  method : String
  tests : List String
  compileCommand : String
  testCommand : String
  skipStatus : Option Int32
  commandTimeout : Option UInt64
  config : Option String
  seed : Option UInt64
  metric : Option Metric
  report : Option String
  summary : Option String
  /-- Whether the source file is left with the best program. -/
  writeBest : Bool
deriving Repr

structure LocalOptions where
  steps : Option Nat
  simplifyProbability : Option Float
  template : Option String
  errorTemplate : Option String
  project : Option String
deriving Repr

structure KBestOptions where
  steps : Option Nat
  k : Option Nat
  repeats : Option Nat
  edits : List EditKind
deriving Repr

structure GeneticOptions where
  population : Option Nat
  generations : Option Nat
  edits : List EditKind
deriving Repr

inductive Command where
  | localSearch (run : RunOptions) (options : LocalOptions)
  | kbest (run : RunOptions) (options : KBestOptions)
  | genetic (run : RunOptions) (options : GeneticOptions)
  | checkBackend
deriving Repr

/-- A command with the service that it may use. -/
structure Invocation where
  service : ServiceConfig
  command : Command
deriving Repr

structure Draft where
  service : Option Service := none
  model : Option String := none
  endpoint : Option String := none
  serviceTimeout : Option UInt64 := none
  temperature : Option Decimal.Single := none
  workdir : Option String := none
  source : Option String := none
  className : Option String := none
  method : Option String := none
  tests : List String := []
  compileCommand : Option String := none
  testCommand : Option String := none
  skipStatus : Option Int32 := none
  commandTimeout : Option UInt64 := none
  config : Option String := none
  seed : Option UInt64 := none
  metric : Option Metric := none
  report : Option String := none
  summary : Option String := none
  writeBest : Bool := false
  steps : Option Nat := none
  simplifyProbability : Option Float := none
  template : Option String := none
  errorTemplate : Option String := none
  project : Option String := none
  k : Option Nat := none
  repeats : Option Nat := none
  population : Option Nat := none
  generations : Option Nat := none
  edits : List EditKind := []

/-- Reads a value with a function that may fail. -/
def readable {α : Type} (read? : String → Option α) (option value : String) :
    Except UsageError α :=
  match read? value with
  | some a => .ok a
  | none => .error (.unreadableValue option value)

def offered {α : Type} (read? : String → Option α) (option value : String) :
    Except UsageError α :=
  match read? value with
  | some a => .ok a
  | none => .error (.wrongValue option value)

/-- A path, which is never empty. -/
def path (option value : String) : Except UsageError String :=
  if value = "" then .error (.wrongValue option value) else .ok value

def count? (value : String) : Option Nat :=
  (Text.readNat (UInt64.size - 1) value.toList).toOption

def word? (value : String) : Option UInt64 :=
  (count? value).map Nat.toUInt64

def status? (value : String) : Option Int32 :=
  (Text.readInt (Nat.pow 2 31 - 1) value.toList).toOption.map Int32.ofInt

def metric? (value : String) : Option Metric :=
  Metric.all.find? fun m => Text.replaced m.name "_" "-" = value

def listed (value : String) : List String :=
  (Text.splitWhen (· == ',') value.toList).map String.ofList

/-- An option that occurs at most once. -/
def once {α : Type} (name : String) (read : (option value : String) → Except UsageError α)
    (store : α → Draft → Draft) : Parameter Draft :=
  ⟨name, .value false fun value draft => (read name value).map fun a => store a draft⟩

def text (name : String) (store : String → Draft → Draft) : Parameter Draft :=
  once name (fun _ value => .ok value) store

/-- An option with a list of values that grows each time. -/
def many {α : Type} (name : String) (read : (option value : String) → Except UsageError α)
    (store : List α → Draft → Draft) : Parameter Draft :=
  ⟨name, .value true fun value draft =>
    ((listed value).mapM (read name)).map fun values => store values draft⟩

def help : Parameter Draft := ⟨"help", .help⟩

def serviceParameters : List (Parameter Draft) := [
  help,
  once "backend" (offered Service.ofName?) fun s d => { d with service := some s },
  text "model" fun s d => { d with model := some s },
  text "endpoint" fun s d => { d with endpoint := some s },
  once "llm-timeout" (readable word?) fun n d => { d with serviceTimeout := some n },
  once "temperature" (readable Decimal.readSingle?) fun x d => { d with temperature := some x }]

def runParameters : List (Parameter Draft) := [
  once "workdir" path fun s d => { d with workdir := some s },
  once "source" path fun s d => { d with source := some s },
  text "class" fun s d => { d with className := some s },
  text "method" fun s d => { d with method := some s },
  many "tests" (fun _ s => .ok s) fun ss d => { d with tests := d.tests ++ ss },
  text "compile-cmd" fun s d => { d with compileCommand := some s },
  text "test-cmd" fun s d => { d with testCommand := some s },
  once "skip-exit-code" (readable status?) fun n d => { d with skipStatus := some n },
  once "command-timeout" (readable word?) fun n d => { d with commandTimeout := some n },
  once "config" path fun s d => { d with config := some s },
  once "seed" (readable word?) fun n d => { d with seed := some n },
  once "metric" (offered metric?) fun m d => { d with metric := some m },
  once "report" path fun s d => { d with report := some s },
  once "summary" path fun s d => { d with summary := some s },
  ⟨"write-best", .switch fun d => { d with writeBest := true }⟩]

def stepsParameter : Parameter Draft :=
  once "steps" (readable count?) fun n d => { d with steps := some n }

def editsParameter : Parameter Draft :=
  many "edits" (readable EditKind.read?) fun ks d => { d with edits := d.edits ++ ks }

def localParameters : List (Parameter Draft) := [
  stepsParameter,
  once "simplify-probability" (readable Decimal.readFloat?) fun x d =>
    { d with simplifyProbability := some x },
  once "template" path fun s d => { d with template := some s },
  once "error-template" path fun s d => { d with errorTemplate := some s },
  text "project" fun s d => { d with project := some s }]

def kbestParameters : List (Parameter Draft) := [
  stepsParameter,
  once "k" (readable count?) fun n d => { d with k := some n },
  once "repeats" (readable count?) fun n d => { d with repeats := some n },
  editsParameter]

def geneticParameters : List (Parameter Draft) := [
  once "population" (readable count?) fun n d => { d with population := some n },
  once "generations" (readable count?) fun n d => { d with generations := some n },
  editsParameter]

namespace Draft

def need {α : Type} (name : String) : Option α → Except UsageError α
  | some a => .ok a
  | none => .error (.missingArgument name)

/-- The options of a run, none of which may be missing. -/
def run (d : Draft) : Except UsageError RunOptions := do
  return {
    workdir := d.workdir.getD "."
    source := ← need "source" d.source
    className := ← need "class" d.className
    method := ← need "method" d.method
    tests := ← need "tests" (if d.tests = [] then none else some d.tests)
    compileCommand := ← need "compile-cmd" d.compileCommand
    testCommand := ← need "test-cmd" d.testCommand
    skipStatus := d.skipStatus
    commandTimeout := d.commandTimeout
    config := d.config
    seed := d.seed
    metric := d.metric
    report := d.report
    summary := d.summary
    writeBest := d.writeBest }

/-- The service that options behind and before the command describe. -/
def serviceConfig (behind before : Draft) : ServiceConfig where
  service := (behind.service.or before.service).getD .openai
  model := behind.model.or before.model
  endpoint := behind.endpoint.or before.endpoint
  timeout := behind.serviceTimeout.or before.serviceTimeout
  temperature := behind.temperature.or before.temperature

end Draft

/-- The names of the commands; one of them only asks for help. -/
def commandNames : List String := ["local", "kbest", "genetic", "check-backend", "help"]

/-- The options of a command, and the command that they make. -/
def commandOf (name : String) : List (Parameter Draft) × (Draft → Except UsageError Command) :=
  match name with
  | "local" => (runParameters ++ localParameters, fun d => do
      return .localSearch (← d.run)
        ⟨d.steps, d.simplifyProbability, d.template, d.errorTemplate, d.project⟩)
  | "kbest" => (runParameters ++ kbestParameters, fun d => do
      return .kbest (← d.run) ⟨d.steps, d.k, d.repeats, d.edits⟩)
  | "genetic" => (runParameters ++ geneticParameters, fun d => do
      return .genetic (← d.run) ⟨d.population, d.generations, d.edits⟩)
  | _ => ([], fun _ => .ok .checkBackend)

/-- What asking for help on commands leads to: each word has to be a command of the one before. -/
def helpOn : List String → UsageError
  | [] => .help
  | [name] => if commandNames.contains name then .help else .unknownCommand name
  | name :: next :: _ => .unknownCommand (if commandNames.contains name then next else name)

def Invocation.parse (args : List String) : Except UsageError Invocation := do
  let (outer, found) ← Reader.read serviceParameters commandNames ⟨{}, [], none⟩ args
  match found with
  | none =>
    let r ← outer.settle
    .error (if r.given.isEmpty then .nothing else .missingCommand)
  | some ("help", rest) => .error (helpOn rest)
  | some (name, rest) =>
    let (parameters, command) := commandOf name
    let (inner, _) ← Reader.read (serviceParameters ++ parameters) [] ⟨{}, [], none⟩ rest
    let behind ← inner.finish
    let command ← command behind
    let before ← outer.finish
    return ⟨Draft.serviceConfig behind before, command⟩

end PatchSearch.CommandLine
