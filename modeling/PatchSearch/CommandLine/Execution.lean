import PatchSearch.CommandLine.Options
import PatchSearch.Harness.Workplace
import PatchSearch.Search.Genetic
import PatchSearch.Search.KBest
import PatchSearch.Search.Local
import PatchSearch.Search.Storage

namespace PatchSearch.CommandLine

open HasFiles

/-- What a command does to a world, and the text that it prints unless it fails. -/
abbrev Session (ω : Type) := ExceptT Failure (StateM ω)

abbrev Strategy (ω : Type) := Sink ω → StateM ω (Except Failure Summary)

variable {ω : Type}

def validated (c : SearchConfig) : Session ω Unit :=
  match c.validate with
  | .ok () => pure ()
  | .error e => throw (.ofText ("invalid search configuration: " ++ e.message))

def connect (service : ServiceConfig) (env : Environment) : Session ω Client :=
  MonadExcept.ofExcept (service.connect env)

def checkBackend (service : ServiceConfig) (env : Environment) : Session ω String := do
  let client ← connect service env
  if client.isReachable then return client.service.name ++ " backend reachable\n"
  else throw (.ofText (client.service.name ++ " backend is not reachable"))

variable [HasFiles ω]

/-- Something that may fail and changes nothing. -/
def Session.look {α : Type} (f : Files → Except Failure α) : Session ω α := fun w =>
  (f (files w), w)

/-- A change of the files that may fail. -/
def Session.change (f : Files → Except Failure Files) : Session ω Unit := fun w =>
  match f (files w) with
  | .ok fs => (.ok (), setFiles w fs)
  | .error e => (.error e, w)

def meterRoot : String := "/sys/class/powercap"

namespace RunOptions

/-- The settings in the file that was named, or the standard ones, with the seed and the metric that
were given. -/
def searchConfig (run : RunOptions) (directory : List String) : Session ω SearchConfig := do
  let c ← match run.config with
    | some path => Session.look fun fs => SearchConfig.load fs directory path
    | none => pure SearchConfig.standard
  return { c with seed := run.seed.getD c.seed, metric := run.metric.getD c.metric }

def commandConfig (run : RunOptions) : CommandConfig where
  workdir := run.workdir
  sourceFile := run.source
  compileCommand := run.compileCommand
  testCommand := run.testCommand
  skipStatus := run.skipStatus
  timeout := run.commandTimeout

def meter (metric : Metric) (directory : List String) : Session ω EnergyMeter :=
  if metric = .energy then
    Session.look fun fs => (EnergyMeter.find fs directory meterRoot).mapError fun f =>
      f.within "the energy metric needs readable RAPL counters"
  else pure .absent

/-- The evaluator of the program in the source file. -/
def evaluator (run : RunOptions) (host : Host ω) (directory : List String) (metric : Metric) :
    Session ω (Evaluator ω) := do
  let c := run.commandConfig
  match c.validate with
  | .error e => throw (.ofText ("invalid harness configuration: " ++ e.message))
  | .ok () =>
    let target ← Session.look fun fs =>
      Target.load fs directory c.sourcePath run.className run.method run.tests
    let meter ← meter metric directory
    return ⟨(Workshop.ofHost host c directory meter).harness c, target, metric⟩

def finalSource (run : RunOptions) (before : String) (outcome : Except Failure Summary) : String :=
  match outcome with
  | .ok s => if run.writeBest then s.bestSource.getD before else before
  | .error _ => before

def restore (run : RunOptions) (directory : List String) (text : String) (fs : Files) : Files :=
  (fs.writeTextAt directory run.commandConfig.sourcePath text).toOption.getD fs

/-- Starts the report, if there is one, for the records of a search. -/
def sink (run : RunOptions) (directory : List String) : Session ω (Sink ω) := fun w =>
  match run.report with
  | none => (.ok Sink.silent, w)
  | some path =>
    match createReport (files w) directory path with
    | .ok (handle, fs) => (.ok fun r => onFiles (Sink.lines handle r), setFiles w fs)
    | .error f => (.error f, w)

/-- Runs a search and answers with the text of its summary. -/
def execute (run : RunOptions) (directory : List String) (search : Strategy ω) :
    Session ω String := do
  let before ← Session.look fun fs => fs.readFor directory "" run.commandConfig.sourcePath
  let sink ← run.sink directory
  let outcome ← ExceptT.lift (search sink)
  modify fun w => setFiles w (run.restore directory (run.finalSource before outcome) (files w))
  let summary ← MonadExcept.ofExcept outcome
  if let some path := run.summary then
    Session.change fun fs => (fs.writeTextAt directory path summary.save).mapError Failure.ofFile
  return summary.save ++ "\n"

end RunOptions

/-- The template in a file, or another one if no file was named. -/
def template (directory : List String) (path : Option String) (standard : Template) :
    Session ω Template :=
  match path with
  | some path => Session.look fun fs => Template.load fs directory path
  | none => pure standard

def runLocal (host : Host ω) (service : ServiceConfig) (env : Environment) (directory : List String)
    (run : RunOptions) (options : LocalOptions) : Session ω String := do
  let c ← run.searchConfig directory
  let project := options.project.getD c.projectName
  let c := { c with
    steps := options.steps.getD c.steps
    simplifyProbability := options.simplifyProbability.getD c.simplifyProbability
    projectName := if project = "" then run.className else project }
  validated c
  let regular ← template directory options.template Template.regular
  let afterFailure ← template directory options.errorTemplate Template.afterFailure
  let client ← connect service env
  let evaluator ← run.evaluator host directory c.metric
  let search : LocalSearch ω :=
    ⟨evaluator, ⟨host.ask client, c.projectName⟩, regular, afterFailure, c⟩
  run.execute directory fun sink => do
    let (summary, _) ← search.run sink search.fresh
    return .ok summary

def runKBest (host : Host ω) (directory : List String) (run : RunOptions) (options : KBestOptions) :
    Session ω String := do
  let c ← run.searchConfig directory
  let c := { c with
    steps := options.steps.getD c.steps
    k := options.k.getD c.k
    repeats := options.repeats.getD c.repeats
    editKinds := if options.edits = [] then c.editKinds else options.edits }
  validated c
  let search : KBestSearch ω := ⟨← run.evaluator host directory c.metric, c⟩
  run.execute directory fun sink => do
    let (summary, _) ← search.run sink search.fresh
    return .ok summary

def runGenetic (host : Host ω) (directory : List String) (run : RunOptions)
    (options : GeneticOptions) : Session ω String := do
  let c ← run.searchConfig directory
  let c := { c with
    populationSize := options.population.getD c.populationSize
    generations := options.generations.getD c.generations
    editKinds := if options.edits = [] then c.editKinds else options.edits }
  validated c
  let search : GeneticSearch ω := ⟨← run.evaluator host directory c.metric, c⟩
  run.execute directory fun sink => do
    let (summary, _) ← search.run sink search.fresh
    return summary

/-- Carries out an invocation in a directory of a host. -/
def Invocation.performOn (i : Invocation) (host : Host ω) (env : Environment)
    (directory : List String) : Session ω String :=
  match i.command with
  | .localSearch run options => runLocal host i.service env directory run options
  | .kbest run options => runKBest host directory run options
  | .genetic run options => runGenetic host directory run options
  | .checkBackend => checkBackend i.service env

end PatchSearch.CommandLine
