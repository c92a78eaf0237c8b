import PatchSearch.Evaluation.Evaluator
import PatchSearch.Harness.Energy

namespace PatchSearch

structure CommandConfig where
  workdir : String
  /-- The file of the candidate, below that directory. -/
  sourceFile : String
  compileCommand : String
  testCommand : String
  /-- The status with which a test says that it was skipped. -/
  skipStatus : Option Int32
  /-- Seconds that a command may take. -/
  timeout : Option UInt64
deriving Repr, DecidableEq

/-- A setting that makes no sense. -/
inductive CommandConfigError where
  | noCompileCommand
  | noTestCommand
  | absoluteSource
  | noTime
deriving Repr, DecidableEq

def CommandConfigError.message : CommandConfigError → String
  | .noCompileCommand => "compile command must not be empty"
  | .noTestCommand => "test command must not be empty"
  | .absoluteSource => "source file must be relative to the working directory"
  | .noTime => "timeout must be > 0"

namespace CommandConfig

/-- The first setting that makes no sense. -/
def validate (c : CommandConfig) : Except CommandConfigError Unit :=
  if Text.isBlankText c.compileCommand then .error .noCompileCommand
  else if Text.isBlankText c.testCommand then .error .noTestCommand
  else if Path.isAbsolute c.sourceFile then .error .absoluteSource
  else if c.timeout = some 0 then .error .noTime
  else .ok ()

def sourcePath (c : CommandConfig) : String :=
  Path.join c.workdir c.sourceFile

/-- A command line with the class and the source file in their places. -/
def fill (c : CommandConfig) (command className : String) : String :=
  Text.replaced (Text.replaced command "\x7bclass\x7d" className) "\x7bsource\x7d" c.sourceFile

def fillTest (c : CommandConfig) (className test : String) : String :=
  Text.replaced (c.fill c.testCommand className) "\x7btest\x7d" test

def ofJson? (j : Json) : Option CommandConfig := do
  let r ← j.record? ["workdir", "source_file", "compile_command", "test_command",
    "skip_exit_code", "timeout_secs"]
  return {
    workdir := ← r.required "workdir" Json.string?
    sourceFile := ← r.required "source_file" Json.string?
    compileCommand := ← r.required "compile_command" Json.string?
    testCommand := ← r.required "test_command" Json.string?
    skipStatus := ← r.defaulted "skip_exit_code" none (Json.option? Json.int32?)
    timeout := ← r.defaulted "timeout_secs" none (Json.option? Json.word?) }

end CommandConfig

structure CommandResult where
  /-- The exit status; none after a signal. -/
  status : Option Int32
  output : String
  errors : String
  /-- Whether it was killed because its time was over. -/
  timedOut : Bool
deriving Repr, DecidableEq

namespace CommandResult

def succeeded (r : CommandResult) : Bool :=
  !r.timedOut && r.status = some 0

/-- What was printed to both channels, errors first, without blanks around either. -/
def combined (r : CommandResult) : String :=
  let output := Text.trimmed r.output
  let errors := Text.trimmed r.errors
  if output = "" then errors
  else if errors = "" then output
  else errors ++ "\n" ++ output

/-- What a compile command that did not succeed is reported with. -/
def diagnostic (r : CommandResult) : String :=
  Text.trimmed (if r.timedOut then "compilation timed out\n" ++ r.combined else r.combined)

def exception (r : CommandResult) (test : String) : String :=
  if r.combined = "" then
    match r.status with
    | some status => test ++ " exited with status " ++ toString status.toInt
    | none => test ++ " terminated by signal"
  else r.combined

def report (r : CommandResult) (c : CommandConfig) (test : String) (usage : Usage) : TestReport :=
  if r.succeeded then .pass test usage
  else if r.timedOut then
    .fail test (test ++ " timed out after " ++ toString (c.timeout.getD 0).toNat ++ "s") usage
  else if r.status.isSome ∧ r.status = c.skipStatus then .skip test usage
  else .fail test (r.exception test) usage

end CommandResult

/-- What a clock shows at some moment, and what all commands used up to it. -/
structure Consumption where
  /-- Nanoseconds since the clock was started. -/
  time : Nat
  /-- Nanoseconds of processors. -/
  cpuTime : UInt64
  /-- The most memory that a command used, in kibibytes. -/
  peak : Int64
deriving Repr, DecidableEq

def Usage.between (start finish : Consumption) (energy : Float) : Usage where
  wallTime := (finish.time - start.time).toUInt64
  cpuTime := saturatingSub finish.cpuTime start.cpuTime
  memory := finish.peak - start.peak
  energy := energy

/-- Where candidates are put and commands run. `ω` is whatever that depends on and changes. -/
structure Workshop (ω : Type) where
  place : (source : String) → StateM ω (Except Failure Unit)
  run : (command : String) → StateM ω (Except Failure CommandResult)
  consumed : StateM ω Consumption
  sample : StateM ω (Except Failure EnergySample)
  joulesBetween : EnergySample → EnergySample → Float

namespace Workshop

variable {ω : Type}

/-- The energy between two samples; none if one of them failed. -/
def energy (w : Workshop ω) (start finish : Except Failure EnergySample) : Float :=
  match start, finish with
  | .ok start, .ok finish => w.joulesBetween start finish
  | _, _ => 0

def runTest (w : Workshop ω) (c : CommandConfig) (className test : String) :
    StateM ω (Except Failure TestReport) := do
  let start ← w.sample
  let before ← w.consumed
  match ← w.run (c.fillTest className test) with
  | .error f => return .error f
  | .ok r =>
    let after ← w.consumed
    let finish ← w.sample
    return .ok (r.report c test (.between before after (w.energy start finish)))

/-- Runs all tests, whatever becomes of each. -/
def runTests (w : Workshop ω) (c : CommandConfig) (className : String) :
    List String → StateM ω (Except Failure (List TestReport))
  | [] => return .ok []
  | test :: tests => do
    match ← w.runTest c className test with
    | .error f => return .error f
    | .ok report =>
      match ← w.runTests c className tests with
      | .error f => return .error f
      | .ok reports => return .ok (report :: reports)

/-- The harness that puts a candidate in its place, compiles it and, if that works, tests it. -/
def harness (w : Workshop ω) (c : CommandConfig) : Harness ω := fun className source tests => do
  match ← w.place source with
  | .error f => return .error f
  | .ok () =>
    match ← w.run (c.fill c.compileCommand className) with
    | .error f => return .error f
    | .ok r =>
      if r.succeeded then
        match ← w.runTests c className tests with
        | .error f => return .error f
        | .ok reports => return .ok ((Verdict.ofTests reports).withSource source)
      else return .ok ((Verdict.compileFailure r.diagnostic).withSource source)

end Workshop

end PatchSearch
