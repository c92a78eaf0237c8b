import PatchSearch.CommandLine.Execution
import PatchSearch.Proofs.Files.Growth

namespace PatchSearch

namespace CommandLine

open HasFiles

variable {ω α β : Type}

namespace Session

variable {x : Session ω α} {f : α → Session ω β} {w w' : ω}

theorem bind_ok {a : α} (h : x.run w = (.ok a, w')) : (x >>= f).run w = (f a).run w' := by
  change (match x.run w with
    | (r, w') => (ExceptT.bindCont f r).run w') = _
  rw [h]
  rfl

theorem bind_error {e : Failure} (h : x.run w = (.error e, w')) :
    (x >>= f).run w = (.error e, w') := by
  change (match x.run w with
    | (r, w') => (ExceptT.bindCont f r).run w') = _
  rw [h]
  rfl

/-- What is done changes nothing. -/
def Looks (x : Session ω α) : Prop :=
  ∀ w, (x.run w).2 = w

theorem Looks.cases (h : x.Looks) (w : ω) :
    (∃ e, x.run w = (.error e, w)) ∨ ∃ a, x.run w = (.ok a, w) := by
  have hsame := h w
  cases hx : x.run w with
  | mk r w' =>
    rw [hx] at hsame
    obtain rfl : w' = w := hsame
    cases r with
    | error e => exact .inl ⟨e, rfl⟩
    | ok a => exact .inr ⟨a, rfl⟩

theorem Looks.bind (h : x.Looks) (hf : ∀ a, (f a).Looks) : (x >>= f).Looks := by
  intro w
  rcases h.cases w with ⟨e, hx⟩ | ⟨a, hx⟩
  · rw [bind_error hx]
  · rw [bind_ok hx]
    exact hf a w

variable [HasFiles ω]

end Session

open Session

variable [HasFiles ω]

namespace RunOptions

variable {run : RunOptions} {host : Host ω} {directory : List String} {w : ω} {target : Target}

/-- The path of the program. -/
def sourcePath (run : RunOptions) : String :=
  run.commandConfig.sourcePath

/-- An evaluator that puts candidates in the source file and judges them by the commands. -/
def Judges (run : RunOptions) (host : Host ω) (directory : List String) (target : Target)
    (e : Evaluator ω) : Prop :=
  ∃ meter metric, e =
    ⟨(Workshop.ofHost host run.commandConfig directory meter).harness run.commandConfig, target,
      metric⟩

/-- The searches for a better target. What a generation service answers may depend on anything, but it
changes no file. -/
inductive Searches (run : RunOptions) (host : Host ω) (directory : List String) (target : Target) :
    Strategy ω → Prop
  | localSearch (s : LocalSearch ω) : run.Judges host directory target s.evaluator →
      (∀ prompt w, files ((s.generator.backend prompt).run w).2 = files w) →
      Searches run host directory target fun sink => do
        let (summary, _) ← s.run sink s.fresh
        return .ok summary
  | kbest (s : KBestSearch ω) : run.Judges host directory target s.evaluator →
      Searches run host directory target fun sink => do
        let (summary, _) ← s.run sink s.fresh
        return .ok summary
  | genetic (s : GeneticSearch ω) : run.Judges host directory target s.evaluator →
      Searches run host directory target fun sink => do
        let (summary, _) ← s.run sink s.fresh
        return summary

end RunOptions

section

variable (host : Host ω) (directory : List String) (run : RunOptions) (w : ω)

end

end CommandLine

end PatchSearch
