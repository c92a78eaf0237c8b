import PatchSearch.Evaluation.Usage

namespace PatchSearch

/-- The class of a verdict; the earlier ones win. -/
inductive Outcome where
  | invalidPatch
  | compileError
  | testFailure
  | success
deriving Repr, DecidableEq

def Outcome.name : Outcome → String
  | .invalidPatch => "invalid_patch"
  | .compileError => "compile_error"
  | .testFailure => "test_failure"
  | .success => "success"

/-- What became of one test. A skipped test counts as passed. -/
structure TestReport where
  name : String
  passed : Bool
  skipped : Bool
  exception : Option String
  usage : Usage
deriving Repr, BEq

namespace TestReport

def pass (name : String) (usage : Usage) : TestReport := ⟨name, true, false, none, usage⟩

def skip (name : String) (usage : Usage) : TestReport := ⟨name, true, true, none, usage⟩

def fail (name exception : String) (usage : Usage) : TestReport :=
  ⟨name, false, false, some exception, usage⟩

def toJson (t : TestReport) : Json :=
  Json.compactObject [("name", some (.string t.name)), ("passed", some (.bool t.passed)),
    ("skipped", some (.bool t.skipped)), ("exception", t.exception.map .string),
    ("metrics", some t.usage.toJson)]

def ofJson? (j : Json) : Option TestReport := do
  let r ← j.record? ["name", "passed", "skipped", "exception", "metrics"]
  return {
    name := ← r.required "name" Json.string?
    passed := ← r.required "passed" Json.bool?
    skipped := ← r.defaulted "skipped" false Json.bool?
    exception := ← r.defaulted "exception" none (Json.option? Json.string?)
    usage := ← r.required "metrics" Usage.ofJson? }

end TestReport

structure Verdict where
  validPatch : Bool
  cleanCompile : Bool
  compileError : Option String
  source : Option String
  tests : List TestReport
deriving Repr, BEq

namespace Verdict

def invalidPatch : Verdict := ⟨false, false, none, none, []⟩

def compileFailure (diagnostic : String) : Verdict := ⟨true, false, some diagnostic, none, []⟩

def ofTests (tests : List TestReport) : Verdict := ⟨true, true, none, none, tests⟩

def withSource (v : Verdict) (source : String) : Verdict := { v with source := some source }

def allPassed (v : Verdict) : Bool :=
  v.tests.all (·.passed)

def outcome (v : Verdict) : Outcome :=
  if !v.validPatch then .invalidPatch
  else if !v.cleanCompile then .compileError
  else if !v.allPassed then .testFailure
  else .success

def isSuccess (v : Verdict) : Bool :=
  v.outcome = .success

def total (v : Verdict) : Usage :=
  v.tests.foldl (fun u t => u.add t.usage) Usage.zero

def measure (v : Verdict) (m : Metric) : Float :=
  m.measure v.total

/-- The exceptions of the tests that failed, one a line. -/
def failureText (v : Verdict) : String :=
  "\n".intercalate ((v.tests.filter (!·.passed)).map fun t => t.exception.getD "unknown failure")

/-- What a failed candidate can be told: the words of the compiler or of the failed tests. -/
def diagnostic (v : Verdict) : Option String :=
  match v.outcome with
  | .compileError => some (v.compileError.getD "")
  | .testFailure => some v.failureText
  | .invalidPatch | .success => none

def toJson (v : Verdict) : Json :=
  Json.compactObject [("valid_patch", some (.bool v.validPatch)),
    ("clean_compile", some (.bool v.cleanCompile)),
    ("compile_error", v.compileError.map .string), ("patched_source", v.source.map .string),
    ("tests", some (.array (v.tests.map TestReport.toJson)))]

def ofJson? (j : Json) : Option Verdict := do
  let r ← j.record? ["valid_patch", "clean_compile", "compile_error", "patched_source", "tests"]
  return {
    validPatch := ← r.required "valid_patch" Json.bool?
    cleanCompile := ← r.required "clean_compile" Json.bool?
    compileError := ← r.defaulted "compile_error" none (Json.option? Json.string?)
    source := ← r.defaulted "patched_source" none (Json.option? Json.string?)
    tests := ← r.defaulted "tests" [] (Json.list? TestReport.ofJson?) }

end Verdict

end PatchSearch
