import PatchSearch.Harness.Command
import PatchSearch.Search.Genetic
import PatchSearch.Search.KBest
import PatchSearch.Search.Local

namespace PatchSearch

variable {ω α β : Type} {I : ω → Prop}

/-- The computation keeps a property of the world. -/
def Keeps (I : ω → Prop) (x : StateM ω α) : Prop :=
  ∀ w, I w → I (x.run w).2

theorem keeps_pure (a : α) : Keeps I (pure a : StateM ω α) :=
  fun _ h => h

theorem Keeps.bind {x : StateM ω α} {f : α → StateM ω β} (h : Keeps I x) (hf : ∀ a, Keeps I (f a)) :
    Keeps I (x >>= f) :=
  fun w hw => hf _ _ (h w hw)

theorem Keeps.map {x : StateM ω α} (f : α → β) (h : Keeps I x) : Keeps I (f <$> x) :=
  h

theorem keeps_offer {sink : Sink ω} (h : ∀ r, Keeps I (sink r)) (r : StepRecord) :
    Keeps I (sink.offer r) :=
  (h r).map _

namespace Evaluator

variable {e : Evaluator ω}

/-- Whatever the harness is asked to judge, it keeps a property of the world. -/
def Keeps (I : ω → Prop) (e : Evaluator ω) : Prop :=
  ∀ source, PatchSearch.Keeps I (e.harness e.target.className source e.target.tests)

theorem Keeps.evaluate (h : e.Keeps I) (p : Patch) : PatchSearch.Keeps I (e.evaluate p) := by
  unfold Evaluator.evaluate
  split
  next =>
    refine (h _).bind fun answer => ?_
    split
    next => exact keeps_pure _
    next => exact keeps_pure _
  next => exact keeps_pure _

theorem Keeps.sample (h : e.Keeps I) (p : Patch) (left taken : Nat) (total : Float) :
    PatchSearch.Keeps I (e.sample p left taken total) := by
  induction left generalizing taken total with
  | zero =>
    unfold Evaluator.sample
    refine (h.evaluate p).bind fun v => ?_
    split
    next => exact keeps_pure _
    next => exact keeps_pure _
  | succ left ih =>
    unfold Evaluator.sample
    refine (h.evaluate p).bind fun v => ?_
    split
    next => exact keeps_pure _
    next => exact ih _ _

theorem Keeps.evaluateRepeatedly (h : e.Keeps I) (p : Patch) (repeats : Nat) :
    PatchSearch.Keeps I (e.evaluateRepeatedly p repeats) :=
  h.sample p _ _ _

end Evaluator

/-- The command lines that judge a candidate. -/
def CommandConfig.commandLines (c : CommandConfig) (className : String) (tests : List String) :
    List String :=
  c.fill c.compileCommand className :: tests.map (c.fillTest className)

namespace Workshop

variable {w : Workshop ω} {c : CommandConfig} {className : String} {tests : List String}

theorem keeps_runTests (hsample : Keeps I w.sample) (hconsumed : Keeps I w.consumed)
    (hrun : ∀ test ∈ tests, Keeps I (w.run (c.fillTest className test))) :
    Keeps I (w.runTests c className tests) := by
  have hone : ∀ test ∈ tests, Keeps I (w.runTest c className test) := by
    intro test ht
    refine hsample.bind fun _ => hconsumed.bind fun _ => (hrun test ht).bind fun answer => ?_
    split
    next => exact keeps_pure _
    next => exact hconsumed.bind fun _ => hsample.bind fun _ => keeps_pure _
  induction tests with
  | nil => exact keeps_pure _
  | cons test tests ih =>
    have hrest := ih (fun t ht => hrun t (List.mem_cons_of_mem _ ht))
      (fun t ht => hone t (List.mem_cons_of_mem _ ht))
    unfold runTests
    refine (hone test List.mem_cons_self).bind fun answer => ?_
    split
    next => exact keeps_pure _
    next =>
      refine hrest.bind fun answer => ?_
      split
      next => exact keeps_pure _
      next => exact keeps_pure _

/-- A harness keeps what each part of its workshop keeps. -/
theorem keeps_harness (hplace : ∀ source, Keeps I (w.place source)) (hsample : Keeps I w.sample)
    (hconsumed : Keeps I w.consumed)
    (hrun : ∀ line ∈ c.commandLines className tests, Keeps I (w.run line)) (source : String) :
    Keeps I (w.harness c className source tests) := by
  refine (hplace source).bind fun placed => ?_
  split
  next => exact keeps_pure _
  next =>
    refine (hrun _ List.mem_cons_self).bind fun compiled => ?_
    split
    next => exact keeps_pure _
    next =>
      split
      next =>
        have htests : ∀ test ∈ tests, Keeps I (w.run (c.fillTest className test)) :=
          fun test ht => hrun _ (List.mem_cons_of_mem _ (List.mem_map_of_mem ht))
        refine (keeps_runTests hsample hconsumed htests).bind fun answer => ?_
        split
        next => exact keeps_pure _
        next => exact keeps_pure _
      next => exact keeps_pure _

end Workshop

theorem Generator.keeps_generate {g : Generator ω} (h : ∀ prompt, Keeps I (g.backend prompt))
    (t : SourceTree) (rng : Random) (template : Template) (known : Tag.Values) :
    Keeps I (g.generate t rng template known) := by
  unfold Generator.generate
  split
  next => exact keeps_pure _
  next =>
    refine (h _).bind fun answer => ?_
    split
    next => exact keeps_pure _
    next => exact keeps_pure _

section

variable {sink : Sink ω} (hsink : ∀ r, Keeps I (sink r))

include hsink

namespace LocalSearch

variable {s : LocalSearch ω}

theorem keeps_step (he : s.evaluator.Keeps I) (hb : ∀ prompt, Keeps I (s.generator.backend prompt))
    (number : Nat) (st : State) : Keeps I (s.step sink number st) := by
  have hneighbour : Keeps I (s.neighbour st) := by
    unfold neighbour
    simp only []
    generalize (if st.incumbent.isEmpty then (false, st.rng)
      else st.rng.coin s.config.simplifyProbability) = coin
    split
    next => exact keeps_pure _
    next =>
      refine (Generator.keeps_generate hb _ _ _ _).bind fun answer => ?_
      split
      next => exact keeps_pure _
      next => exact keeps_pure _
  refine hneighbour.bind fun (candidate, description, rng) => ?_
  refine (he.evaluate candidate).bind fun v => ?_
  exact (keeps_offer hsink _).bind fun _ => keeps_pure _

theorem keeps_run (he : s.evaluator.Keeps I) (hb : ∀ prompt, Keeps I (s.generator.backend prompt))
    (st : State) : Keeps I (s.run sink st) := by
  have hsteps : ∀ left number st, Keeps I (s.steps sink left number st) := by
    intro left
    induction left with
    | zero => exact fun _ _ => keeps_pure _
    | succ left ih =>
      exact fun number st => (keeps_step hsink he hb number st).bind fun _ => ih _ _
  have hbaseline : Keeps I (s.measureBaseline sink st) :=
    (he.evaluate .empty).bind fun _ => (keeps_offer hsink _).bind fun _ => keeps_pure _
  exact hbaseline.bind fun _ => (hsteps _ _ _).bind fun _ => keeps_pure _

end LocalSearch

namespace KBestSearch

variable {s : KBestSearch ω}

theorem keeps_step (he : s.evaluator.Keeps I) (number : Nat) (st : State) :
    Keeps I (s.step sink number st) :=
  (he.evaluateRepeatedly _ _).bind fun _ => (keeps_offer hsink _).bind fun _ => keeps_pure _

theorem keeps_run (he : s.evaluator.Keeps I) (st : State) : Keeps I (s.run sink st) := by
  have hsteps : ∀ left number st, Keeps I (s.steps sink left number st) := by
    intro left
    induction left with
    | zero => exact fun _ _ => keeps_pure _
    | succ left ih => exact fun number st => (keeps_step hsink he number st).bind fun _ => ih _ _
  have hbaseline : Keeps I (s.measureBaseline sink st) :=
    (he.evaluateRepeatedly _ _).bind fun _ => (keeps_offer hsink _).bind fun _ => keeps_pure _
  exact hbaseline.bind fun _ => (hsteps _ _ _).bind fun _ => keeps_pure _

end KBestSearch

namespace GeneticSearch

variable {s : GeneticSearch ω}

theorem keeps_evaluateAll (he : s.evaluator.Keeps I) (generation : Nat) (ps : List Patch)
    (st : State) : Keeps I (s.evaluateAll sink generation ps st) := by
  induction ps generalizing st with
  | nil => exact keeps_pure _
  | cons p ps ih =>
    have hone : Keeps I (s.evaluateOne sink generation p st) :=
      (he.evaluate p).bind fun _ => (keeps_offer hsink _).bind fun _ => keeps_pure _
    exact hone.bind fun _ => (ih _).bind fun _ => keeps_pure _

theorem keeps_run (he : s.evaluator.Keeps I) (st : State) : Keeps I (s.run sink st) := by
  have hgenerations : ∀ left number population st,
      Keeps I (s.generations sink left number population st) := by
    intro left
    induction left with
    | zero => exact fun _ _ _ => keeps_pure _
    | succ left ih =>
      exact fun number population st =>
        (keeps_evaluateAll hsink he number population st).bind fun _ => ih _ _ _
  have hbaseline : Keeps I (s.measureBaseline sink st) :=
    (he.evaluate .empty).bind fun _ => (keeps_offer hsink _).bind fun _ => keeps_pure _
  unfold run
  split
  next => exact keeps_pure _
  next => exact hbaseline.bind fun _ => (hgenerations _ _ _ _).bind fun _ => keeps_pure _

end GeneticSearch

end

end PatchSearch
