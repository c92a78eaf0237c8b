import PatchSearch.Edit.Basic
import PatchSearch.Evaluation.Target
import PatchSearch.Evaluation.Verdict

namespace PatchSearch

/-- Compiles and tests a program. `ω` is whatever the answers depend on and change. -/
abbrev Harness (ω : Type) :=
  (className source : String) → (tests : List String) → StateM ω (Except Failure Verdict)

/-- A harness with the program that it judges and the metric that counts. -/
structure Evaluator (ω : Type) where
  harness : Harness ω
  target : Target
  metric : Metric

structure Sampled where
  verdict : Verdict
  /-- The mean of the samples, or the largest double if the last one failed. -/
  mean : Float
  samples : Nat
deriving Repr

namespace Evaluator

variable {ω : Type}

/-- The program before any edit. -/
def base (e : Evaluator ω) : SourceTree :=
  e.target.tree

/-- The verdict on a program text. A harness that fails counts as a compiler that does. -/
def judge (e : Evaluator ω) (source : String) : StateM ω Verdict := do
  match ← e.harness e.target.className source e.target.tests with
  | .ok v => return v.withSource source
  | .error f => return (Verdict.compileFailure f.message).withSource source

/-- The verdict on a patch. The harness is not asked about a patch that does not apply. -/
def evaluate (e : Evaluator ω) (p : Patch) : StateM ω Verdict :=
  match p.apply e.base with
  | .ok t => e.judge t.render
  | .error _ => pure Verdict.invalidPatch

def baseline (e : Evaluator ω) : StateM ω Verdict :=
  e.evaluate Patch.empty

def measure (e : Evaluator ω) (v : Verdict) : Float :=
  v.measure e.metric

/-- The number that candidates are ranked by, the smaller the better. -/
def fitness (e : Evaluator ω) (v : Verdict) : Float :=
  if v.isSuccess then e.measure v else worstFitness

/-- Samples after `taken` that add up to `total`, at most `left` of them. -/
def sample (e : Evaluator ω) (p : Patch) : (left taken : Nat) → (total : Float) → StateM ω Sampled
  | left, taken, total => do
    let v ← e.evaluate p
    if !v.isSuccess then return ⟨v, worstFitness, taken + 1⟩
    else
      let total := total + e.measure v
      match left with
      | 0 => return ⟨v, total / (taken + 1).toUInt64.toFloat, taken + 1⟩
      | left + 1 => sample e p left (taken + 1) total

/-- Evaluates a patch `repeats` times, at least once, and stops at the first failure. -/
def evaluateRepeatedly (e : Evaluator ω) (p : Patch) (repeats : Nat) : StateM ω Sampled :=
  e.sample p (max 1 repeats - 1) 0 0

end Evaluator

end PatchSearch
