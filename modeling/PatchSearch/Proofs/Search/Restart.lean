import PatchSearch.Proofs.Search.Offers

namespace PatchSearch

variable {ω ω' α β : Type} {R : ω → ω' → Prop}

/-- From worlds that correspond the computations come to the same result and to worlds that correspond. -/
def Agree (R : ω → ω' → Prop) (x : StateM ω α) (y : StateM ω' α) : Prop :=
  ∀ w w', R w w' → (x.run w).1 = (y.run w').1 ∧ R (x.run w).2 (y.run w').2

theorem agree_pure (a : α) : Agree R (pure a) (pure a) :=
  fun _ _ h => ⟨rfl, h⟩

theorem Agree.bind {x : StateM ω α} {y : StateM ω' α} {f : α → StateM ω β} {g : α → StateM ω' β}
    (h : Agree R x y) (hf : ∀ a, Agree R (f a) (g a)) : Agree R (x >>= f) (y >>= g) := by
  intro w w' hw
  obtain ⟨ha, hw'⟩ := h w w' hw
  have hy : (y >>= g).run w' = (g (x.run w).1).run (y.run w').2 := by
    rw [ha]
    rfl
  rw [hy]
  exact hf (x.run w).1 (x.run w).2 (y.run w').2 hw'

/-- The sinks keep worlds in correspondence, whatever they answer. -/
def Sink.Agrees (R : ω → ω' → Prop) (sink : Sink ω) (sink' : Sink ω') : Prop :=
  ∀ r w w', R w w' → R ((sink r).run w).2 ((sink' r).run w').2

theorem Sink.Agrees.offer {sink : Sink ω} {sink' : Sink ω'} (h : sink.Agrees R sink')
    (r : StepRecord) : Agree R (sink.offer r) (sink'.offer r) :=
  fun w w' hw => ⟨rfl, h r w w' hw⟩

namespace Evaluator

/-- The evaluators judge the same program by the same metric, and their harnesses answer the same. -/
structure Agrees (R : ω → ω' → Prop) (e : Evaluator ω) (e' : Evaluator ω') : Prop where
  target : e'.target = e.target
  metric : e'.metric = e.metric
  harness : ∀ source, Agree R (e.harness e.target.className source e.target.tests)
    (e'.harness e.target.className source e.target.tests)

variable {e : Evaluator ω} {e' : Evaluator ω'}

namespace Agrees

theorem base (h : e.Agrees R e') : e'.base = e.base :=
  congrArg Target.tree h.target

theorem measure (h : e.Agrees R e') : e'.measure = e.measure := by
  funext v
  rw [Evaluator.measure, Evaluator.measure, h.metric]

theorem fitness (h : e.Agrees R e') : e'.fitness = e.fitness := by
  funext v
  rw [Evaluator.fitness, Evaluator.fitness, h.measure]

theorem judge (h : e.Agrees R e') (source : String) : Agree R (e.judge source) (e'.judge source) := by
  unfold Evaluator.judge
  rw [h.target]
  refine (h.harness source).bind fun answer => ?_
  cases answer with
  | ok v => exact agree_pure _
  | error f => exact agree_pure _

theorem evaluate (h : e.Agrees R e') (p : Patch) : Agree R (e.evaluate p) (e'.evaluate p) := by
  unfold Evaluator.evaluate
  rw [h.base]
  cases p.apply e.base with
  | ok t => exact h.judge t.render
  | error f => exact agree_pure _

theorem sample (h : e.Agrees R e') (p : Patch) (left taken : Nat) (total : Float) :
    Agree R (e.sample p left taken total) (e'.sample p left taken total) := by
  induction left generalizing taken total with
  | zero =>
    unfold Evaluator.sample
    refine (h.evaluate p).bind fun v => ?_
    rw [h.measure]
    cases v.isSuccess with
    | false => exact agree_pure _
    | true => exact agree_pure _
  | succ left ih =>
    unfold Evaluator.sample
    refine (h.evaluate p).bind fun v => ?_
    rw [h.measure]
    cases v.isSuccess with
    | false => exact agree_pure _
    | true => exact ih _ _

theorem evaluateRepeatedly (h : e.Agrees R e') (p : Patch) (repeats : Nat) :
    Agree R (e.evaluateRepeatedly p repeats) (e'.evaluateRepeatedly p repeats) :=
  h.sample p _ _ _

end Agrees

end Evaluator

namespace Generator

/-- The generators work for the same project, and their backends answer the same. -/
structure Agrees (R : ω → ω' → Prop) (g : Generator ω) (g' : Generator ω') : Prop where
  project : g'.project = g.project
  backend : ∀ prompt, Agree R (g.backend prompt) (g'.backend prompt)

theorem Agrees.generate {g : Generator ω} {g' : Generator ω'} (h : g.Agrees R g') (t : SourceTree)
    (rng : Random) (template : Template) (known : Tag.Values) :
    Agree R (g.generate t rng template known) (g'.generate t rng template known) := by
  have hvalues : ∀ id, g'.values t id known = g.values t id known := by
    intro id
    rw [values, values, h.project]
  unfold Generator.generate
  split
  next => exact agree_pure _
  next destination rng' _ =>
    dsimp only
    rw [hvalues]
    refine (h.backend _).bind fun answer => ?_
    cases answer with
    | ok response => exact agree_pure _
    | error f => exact agree_pure _

end Generator

namespace LocalSearch

/-- The searches have the same settings and templates, and what they call answers the same. -/
structure Agrees (R : ω → ω' → Prop) (s : LocalSearch ω) (s' : LocalSearch ω') : Prop where
  evaluator : s.evaluator.Agrees R s'.evaluator
  generator : s.generator.Agrees R s'.generator
  regular : s'.regular = s.regular
  afterFailure : s'.afterFailure = s.afterFailure
  config : s'.config = s.config

variable {s : LocalSearch ω} {s' : LocalSearch ω'} {sink : Sink ω} {sink' : Sink ω'}

theorem Agrees.prompting (h : s.Agrees R s') : s'.prompting = s.prompting := by
  funext st
  rw [LocalSearch.prompting, LocalSearch.prompting, h.regular, h.afterFailure]

theorem Agrees.adopt (h : s.Agrees R s') : s'.adopt = s.adopt := by
  funext p v st
  rw [LocalSearch.adopt, LocalSearch.adopt, h.evaluator.measure, h.evaluator.metric]

theorem Agrees.neighbour (h : s.Agrees R s') (st : State) :
    Agree R (s.neighbour st) (s'.neighbour st) := by
  unfold LocalSearch.neighbour
  rw [h.prompting, h.config, h.evaluator.base]
  dsimp only
  generalize (if st.incumbent.isEmpty then (false, st.rng)
    else st.rng.coin s.config.simplifyProbability) = coin
  cases coin.1 with
  | true => exact agree_pure _
  | false =>
    refine (h.generator.generate _ _ _ _).bind fun answer => ?_
    obtain ⟨edit?, rng⟩ := answer
    cases edit? with
    | none => exact agree_pure _
    | some e => exact agree_pure _

variable (hsink : sink.Agrees R sink')

include hsink

theorem Agrees.measureBaseline (h : s.Agrees R s') (st : State) :
    Agree R (s.measureBaseline sink st) (s'.measureBaseline sink' st) := by
  unfold LocalSearch.measureBaseline
  rw [h.evaluator.measure, h.evaluator.fitness, h.config]
  exact (h.evaluator.evaluate _).bind fun v => (hsink.offer _).bind fun _ => agree_pure _

theorem Agrees.step (h : s.Agrees R s') (number : Nat) (st : State) :
    Agree R (s.step sink number st) (s'.step sink' number st) := by
  unfold LocalSearch.step
  rw [h.evaluator.measure, h.adopt]
  refine (h.neighbour st).bind fun (candidate, description, rng) => ?_
  refine (h.evaluator.evaluate candidate).bind fun v => ?_
  exact (hsink.offer _).bind fun _ => agree_pure _

theorem Agrees.steps (h : s.Agrees R s') (left number : Nat) (st : State) :
    Agree R (s.steps sink left number st) (s'.steps sink' left number st) := by
  induction left generalizing number st with
  | zero => exact agree_pure _
  | succ left ih => exact (h.step hsink number st).bind fun (_, st) => ih (number + 1) st

theorem Agrees.run (h : s.Agrees R s') (st : State) :
    Agree R (s.run sink st) (s'.run sink' st) := by
  have hsummary : s'.summary = s.summary := by
    funext st
    rw [summary, summary, h.evaluator.base, h.config]
  unfold LocalSearch.run
  rw [hsummary, h.config]
  refine (h.measureBaseline hsink st).bind fun st => ?_
  exact (h.steps hsink _ _ st).bind fun st => agree_pure _

end LocalSearch

namespace KBestSearch

/-- The searches have the same settings, and their harnesses answer the same. -/
structure Agrees (R : ω → ω' → Prop) (s : KBestSearch ω) (s' : KBestSearch ω') : Prop where
  evaluator : s.evaluator.Agrees R s'.evaluator
  config : s'.config = s.config

variable {s : KBestSearch ω} {s' : KBestSearch ω'} {sink : Sink ω} {sink' : Sink ω'}

theorem Agrees.adopt (h : s.Agrees R s') : s'.adopt = s.adopt := by
  funext p sampled st
  rw [KBestSearch.adopt, KBestSearch.adopt, h.config]

variable (hsink : sink.Agrees R sink')

include hsink

theorem Agrees.step (h : s.Agrees R s') (number : Nat) (st : State) :
    Agree R (s.step sink number st) (s'.step sink' number st) := by
  unfold KBestSearch.step mutator
  rw [h.evaluator.measure, h.adopt, h.config, h.evaluator.base]
  refine (h.evaluator.evaluateRepeatedly _ _).bind fun sampled => ?_
  exact (hsink.offer _).bind fun _ => agree_pure _

theorem Agrees.steps (h : s.Agrees R s') (left number : Nat) (st : State) :
    Agree R (s.steps sink left number st) (s'.steps sink' left number st) := by
  induction left generalizing number st with
  | zero => exact agree_pure _
  | succ left ih => exact (h.step hsink number st).bind fun (_, st) => ih (number + 1) st

theorem Agrees.run (h : s.Agrees R s') (st : State) :
    Agree R (s.run sink st) (s'.run sink' st) := by
  have hbaseline : Agree R (s.measureBaseline sink st) (s'.measureBaseline sink' st) := by
    unfold measureBaseline
    rw [h.config]
    refine (h.evaluator.evaluateRepeatedly _ _).bind fun sampled => ?_
    exact (hsink.offer _).bind fun _ => agree_pure _
  have hsummary : s'.summary = s.summary := by
    funext st
    rw [summary, summary, h.evaluator.base, h.config]
  unfold KBestSearch.run
  rw [hsummary, h.config]
  refine hbaseline.bind fun st => ?_
  exact (h.steps hsink _ _ st).bind fun st => agree_pure _

end KBestSearch

namespace GeneticSearch

/-- The searches have the same settings, and their harnesses answer the same. -/
structure Agrees (R : ω → ω' → Prop) (s : GeneticSearch ω) (s' : GeneticSearch ω') : Prop where
  evaluator : s.evaluator.Agrees R s'.evaluator
  config : s'.config = s.config

variable {s : GeneticSearch ω} {s' : GeneticSearch ω'} {sink : Sink ω} {sink' : Sink ω'}

theorem run_of_invalid {e : ConfigError} (h : s.config.validate = .error e) (st : State) (w : ω) :
    (s.run sink st).run w =
      ((.error (.ofText ("invalid search configuration: " ++ e.message)), st), w) := by
  rw [GeneticSearch.run, h]
  rfl

theorem Agrees.firstPopulation (h : s.Agrees R s') : s'.firstPopulation = s.firstPopulation := by
  funext st
  rw [GeneticSearch.firstPopulation, GeneticSearch.firstPopulation, mutator, mutator, h.config,
    h.evaluator.base]

theorem Agrees.nextPopulation (h : s.Agrees R s') : s'.nextPopulation = s.nextPopulation := by
  have hselect : s'.select = s.select := by
    funext scored st
    rw [select, select, pool, pool, h.config]
    unfold tournamentSize
    rw [h.config]
  funext scored st
  rw [GeneticSearch.nextPopulation, GeneticSearch.nextPopulation, hselect, mutator, mutator,
    h.config, h.evaluator.base]

variable (hsink : sink.Agrees R sink')

include hsink

theorem Agrees.evaluateAll (h : s.Agrees R s') (generation : Nat) (ps : List Patch) (st : State) :
    Agree R (s.evaluateAll sink generation ps st) (s'.evaluateAll sink' generation ps st) := by
  induction ps generalizing st with
  | nil => exact agree_pure _
  | cons p ps ih =>
    have hone : Agree R (s.evaluateOne sink generation p st)
        (s'.evaluateOne sink' generation p st) := by
      unfold evaluateOne
      rw [h.evaluator.measure, h.evaluator.fitness]
      exact (h.evaluator.evaluate p).bind fun v => (hsink.offer _).bind fun _ => agree_pure _
    exact hone.bind fun (_, st) => (ih st).bind fun _ => agree_pure _

theorem Agrees.generations (h : s.Agrees R s') (left number : Nat) (population : List Patch)
    (st : State) : Agree R (s.generations sink left number population st)
      (s'.generations sink' left number population st) := by
  induction left generalizing number population st with
  | zero => exact agree_pure _
  | succ left ih =>
    unfold GeneticSearch.generations
    rw [h.nextPopulation]
    refine (h.evaluateAll hsink number population st).bind fun evaluated => ?_
    obtain ⟨scored, last⟩ := evaluated
    exact ih (number + 1) _ _

theorem Agrees.run (h : s.Agrees R s') (st : State) :
    Agree R (s.run sink st) (s'.run sink' st) := by
  have hbaseline : Agree R (s.measureBaseline sink st) (s'.measureBaseline sink' st) := by
    unfold measureBaseline Evaluator.baseline
    rw [h.evaluator.measure, h.evaluator.fitness, h.config]
    exact (h.evaluator.evaluate _).bind fun v => (hsink.offer _).bind fun _ => agree_pure _
  have hsummary : s'.summary = s.summary := by
    funext st
    rw [summary, summary, h.evaluator.base]
  unfold GeneticSearch.run
  rw [hsummary, h.firstPopulation, h.config]
  cases s.config.validate with
  | error e => exact agree_pure _
  | ok _ =>
    refine hbaseline.bind fun st => ?_
    exact (h.generations hsink _ _ _ _).bind fun st => agree_pure _

end GeneticSearch

section Observation

/-- What can be seen of a run while it goes on: what the backend is asked, what the harness is handed and
what the report is given. -/
inductive Event where
  | prompt (text : String)
  | source (text : String)
  | record (r : StepRecord)

/-- A computation that begins with an event, beside a list of the events so far. -/
def observe (event : Event) (x : StateM ω α) : StateM (ω × List Event) α := do
  modify fun w => (w.1, w.2 ++ [event])
  beside x

def Sink.observed (sink : Sink ω) : Sink (ω × List Event) :=
  fun r => observe (.record r) (sink r)

def Evaluator.observed (e : Evaluator ω) : Evaluator (ω × List Event) :=
  ⟨fun className source tests => observe (.source source) (e.harness className source tests),
    e.target, e.metric⟩

def Generator.observed (g : Generator ω) : Generator (ω × List Event) :=
  ⟨fun prompt => observe (.prompt prompt) (g.backend prompt), g.project⟩

def LocalSearch.observed (s : LocalSearch ω) : LocalSearch (ω × List Event) :=
  ⟨s.evaluator.observed, s.generator.observed, s.regular, s.afterFailure, s.config⟩

def KBestSearch.observed (s : KBestSearch ω) : KBestSearch (ω × List Event) :=
  ⟨s.evaluator.observed, s.config⟩

def GeneticSearch.observed (s : GeneticSearch ω) : GeneticSearch (ω × List Event) :=
  ⟨s.evaluator.observed, s.config⟩

/-- The worlds correspond, and the same events were seen in them. -/
def Alike (R : ω → ω' → Prop) (w : ω × List Event) (w' : ω' × List Event) : Prop :=
  R w.1 w'.1 ∧ w.2 = w'.2

theorem Agree.observe {x : StateM ω α} {y : StateM ω' α} (h : Agree R x y) (event : Event) :
    Agree (Alike R) (observe event x) (observe event y) := by
  rintro ⟨w, events⟩ ⟨w', _⟩ ⟨hw, rfl⟩
  obtain ⟨ha, hw'⟩ := h w w' hw
  exact ⟨ha, hw', rfl⟩

/-- Observing changes neither the result nor the world. -/
theorem agree_observe (event : Event) (x : StateM ω α) :
    Agree (fun w v => w = v.1) x (observe event x) := by
  rintro w ⟨_, events⟩ rfl
  exact ⟨rfl, rfl⟩

end Observation

section Fresh

variable {sink : Sink ω} {sink' : Sink ω'}

theorem Sink.Agrees.observed (h : sink.Agrees R sink') :
    sink.observed.Agrees (Alike R) sink'.observed := by
  rintro r ⟨w, events⟩ ⟨w', _⟩ ⟨hw, rfl⟩
  exact ⟨h r w w' hw, rfl⟩

theorem Sink.agrees_observed (sink : Sink ω) : sink.Agrees (fun w v => w = v.1) sink.observed :=
  fun r w v h => (agree_observe (.record r) (sink r) w v h).2

theorem Evaluator.Agrees.observed {e : Evaluator ω} {e' : Evaluator ω'} (h : e.Agrees R e') :
    e.observed.Agrees (Alike R) e'.observed :=
  ⟨h.target, h.metric, fun source => (h.harness source).observe (.source source)⟩

theorem Evaluator.agrees_observed (e : Evaluator ω) : e.Agrees (fun w v => w = v.1) e.observed :=
  ⟨rfl, rfl, fun source => agree_observe (.source source) _⟩

theorem LocalSearch.Agrees.observed {s : LocalSearch ω} {s' : LocalSearch ω'} (h : s.Agrees R s') :
    s.observed.Agrees (Alike R) s'.observed :=
  ⟨h.evaluator.observed,
    ⟨h.generator.project, fun prompt => (h.generator.backend prompt).observe (.prompt prompt)⟩,
    h.regular, h.afterFailure, h.config⟩

theorem LocalSearch.agrees_observed (s : LocalSearch ω) :
    s.Agrees (fun w v => w = v.1) s.observed :=
  ⟨s.evaluator.agrees_observed, ⟨rfl, fun prompt => agree_observe (.prompt prompt) _⟩, rfl, rfl, rfl⟩

theorem KBestSearch.Agrees.observed {s : KBestSearch ω} {s' : KBestSearch ω'} (h : s.Agrees R s') :
    s.observed.Agrees (Alike R) s'.observed :=
  ⟨h.evaluator.observed, h.config⟩

theorem KBestSearch.agrees_observed (s : KBestSearch ω) :
    s.Agrees (fun w v => w = v.1) s.observed :=
  ⟨s.evaluator.agrees_observed, rfl⟩

theorem GeneticSearch.Agrees.observed {s : GeneticSearch ω} {s' : GeneticSearch ω'}
    (h : s.Agrees R s') : s.observed.Agrees (Alike R) s'.observed :=
  ⟨h.evaluator.observed, h.config⟩

theorem GeneticSearch.agrees_observed (s : GeneticSearch ω) :
    s.Agrees (fun w v => w = v.1) s.observed :=
  ⟨s.evaluator.agrees_observed, rfl⟩

/-- Computations that agree beside the events, the first of which is another one observed, come to what
that one comes to, with the same events. -/
theorem Agree.same_events {x : StateM ω α} {y : StateM (ω × List Event) α}
    {z : StateM (ω' × List Event) α} (h : Agree (Alike R) y z) (hx : Agree (fun w v => w = v.1) x y)
    {w : ω} {w' : ω'} (hw : R w w') : ∃ a v v' events, x.run w = (a, v) ∧
      y.run (w, []) = (a, (v, events)) ∧ z.run (w', []) = (a, (v', events)) ∧ R v v' := by
  obtain ⟨hresult, hworld⟩ := hx w (w, []) rfl
  obtain ⟨hsame, hrelated, hevents⟩ := h (w, []) (w', []) ⟨hw, rfl⟩
  refine ⟨(x.run w).1, (x.run w).2, (z.run (w', [])).2.1, (y.run (w, [])).2.2, rfl, ?_, ?_, ?_⟩
  · rw [hresult, hworld]
    rfl
  · rw [hresult, hsame, hevents]
    rfl
  · rw [hworld]
    exact hrelated

/-- A run starts anew. Whatever state a search is in when it is run, and in whatever world: if harness
and backend answer as they answer to a search with the same settings that was just made, in its world,
then the two runs show the same prompts, programs and records in the same order and come to the same
summary, and to the same state unless the settings are out of their limits. -/
theorem run_starts_anew (hsink : sink.Agrees R sink') {w : ω} {w' : ω'} (hw : R w w') :
    (∀ (s : LocalSearch ω) (s' : LocalSearch ω') st, s.Agrees R s' → ∃ m last v v' events,
      (s.run sink st).run w = ((m, last), v) ∧
      (s.observed.run sink.observed st).run (w, []) = ((m, last), (v, events)) ∧
      (s'.observed.run sink'.observed s'.fresh).run (w', []) = ((m, last), (v', events)) ∧ R v v') ∧
    (∀ (s : KBestSearch ω) (s' : KBestSearch ω') st, s.Agrees R s' → ∃ m last v v' events,
      (s.run sink st).run w = ((m, last), v) ∧
      (s.observed.run sink.observed st).run (w, []) = ((m, last), (v, events)) ∧
      (s'.observed.run sink'.observed s'.fresh).run (w', []) = ((m, last), (v', events)) ∧ R v v') ∧
    (∀ (s : GeneticSearch ω) (s' : GeneticSearch ω') st, s.Agrees R s' →
      ∃ answer last last' v v' events, (s.run sink st).run w = ((answer, last), v) ∧
      (s.observed.run sink.observed st).run (w, []) = ((answer, last), (v, events)) ∧
      (s'.observed.run sink'.observed s'.fresh).run (w', []) = ((answer, last'), (v', events)) ∧
      R v v' ∧ (s.config.validate = .ok () → last' = last)) := by
  have hplain := sink.agrees_observed
  refine ⟨?_, ?_, ?_⟩
  · intro s s' st h
    have hanew : s'.observed.run sink'.observed st = s'.observed.run sink'.observed s'.fresh := rfl
    have hruns := h.observed.run hsink.observed st
    rw [hanew] at hruns
    obtain ⟨⟨m, last⟩, h⟩ := hruns.same_events (s.agrees_observed.run hplain st) hw
    exact ⟨m, last, h⟩
  · intro s s' st h
    have hanew : s'.observed.run sink'.observed st = s'.observed.run sink'.observed s'.fresh := rfl
    have hruns := h.observed.run hsink.observed st
    rw [hanew] at hruns
    obtain ⟨⟨m, last⟩, h⟩ := hruns.same_events (s.agrees_observed.run hplain st) hw
    exact ⟨m, last, h⟩
  · intro s s' st h
    cases hvalid : s.config.validate with
    | error e =>
      have hobserved : s.observed.config.validate = .error e := hvalid
      have hnew : s'.observed.config.validate = .error e := by
        rw [← hvalid, ← h.config]
        rfl
      exact ⟨_, st, s'.fresh, w, w', [], GeneticSearch.run_of_invalid hvalid st w,
        GeneticSearch.run_of_invalid hobserved st _, GeneticSearch.run_of_invalid hnew _ _, hw,
        fun hok => nomatch hok⟩
    | ok _ =>
      have hanew : s'.observed.run sink'.observed st = s'.observed.run sink'.observed s'.fresh := by
        have hvalid' : s'.observed.config.validate = .ok () := by
          rw [← hvalid, ← h.config]
          rfl
        unfold GeneticSearch.run
        rw [hvalid']
        rfl
      have hruns := h.observed.run hsink.observed st
      rw [hanew] at hruns
      obtain ⟨⟨answer, last⟩, v, v', events, hx, hy, hz, hv⟩ :=
        hruns.same_events (s.agrees_observed.run hplain st) hw
      exact ⟨answer, last, last, v, v', events, hx, hy, hz, hv, fun _ => rfl⟩

/-- Three searches are left with a failed candidate, with a better patch in the buffer, and after a crossover
in the middle of a run. They run in a world that has counted seven calls already, and see what new ones
see. -/
theorem run_starts_anew_abandoned :
    let run : List Statement := [.simple "a();", .block "while (c)" [.simple "b();"]]
    let base := { SourceTree.ofItems [.block "class K" [.block "void run()" run]] with target := some 2 }
    let verdict (source : String) : Verdict :=
      if source = base.render then .ofTests [.pass "t" ⟨5, 0, 0, 0⟩]
      else if source.utf8ByteSize < base.render.utf8ByteSize then .ofTests [.pass "t" ⟨3, 0, 0, 0⟩]
      else .compileFailure "too long"
    let harness : Harness Nat := fun _ source _ => do
      modify (· + 1)
      return .ok (verdict source)
    let backend : Backend Nat := fun _ => do
      modify (· + 1)
      return .ok "```\nf();\n```"
    let e : Evaluator Nat := ⟨harness, ⟨"K", "run", [], base⟩, .executionTime⟩
    let config : SearchConfig := { SearchConfig.standard with
      steps := 1, repeats := 2, k := 2, populationSize := 4, generations := 1, editKinds := [.delete] }
    let sink : Sink Nat := fun _ => pure true
    (∃ (s : LocalSearch Nat) (st last : LocalSearch.State) (m : Summary) (v v' : Nat)
      (events : List Event), s.evaluator = e ∧ s.generator.backend = backend ∧ s.config = config ∧
        st.failure.isSome = true ∧ events.length = 5 ∧
        (s.observed.run sink.observed st).run (7, []) = ((m, last), (v, events)) ∧
        (s.observed.run sink.observed s.fresh).run (0, []) = ((m, last), (v', events))) ∧
    (∃ (s : KBestSearch Nat) (st last : KBestSearch.State) (m : Summary) (v v' : Nat)
      (events : List Event), s.evaluator = e ∧ s.config = config ∧ st.buffer.length = 1 ∧
        events.length = 6 ∧
        (s.observed.run sink.observed st).run (7, []) = ((m, last), (v, events)) ∧
        (s.observed.run sink.observed s.fresh).run (0, []) = ((m, last), (v', events))) ∧
    (∃ (s : GeneticSearch Nat) (st last : GeneticSearch.State) (answer : Except Failure Summary)
      (v v' : Nat) (events : List Event), s.evaluator = e ∧ s.config = config ∧
        st.rng ≠ s.fresh.rng ∧ 0 < st.accepted ∧ events.length = 10 ∧
        (s.observed.run sink.observed st).run (7, []) = ((answer, last), (v, events)) ∧
        (s.observed.run sink.observed s.fresh).run (0, []) = ((answer, last), (v', events))) := by
  intro run base verdict harness backend e config sink
  let R : Nat → Nat → Prop := fun _ _ => True
  have hsink : sink.Agrees R sink := fun _ _ _ _ => trivial
  have he : e.Agrees R e := ⟨rfl, rfl, fun _ _ _ _ => ⟨rfl, trivial⟩⟩
  obtain ⟨hlocal, hkbest, hgenetic⟩ := run_starts_anew hsink (trivial : R 7 0)
  refine ⟨?_, ?_, ?_⟩
  · let s : LocalSearch Nat := ⟨e, ⟨backend, ""⟩, ⟨""⟩, ⟨""⟩, config⟩
    let st := ((s.step sink 1 ((s.measureBaseline sink s.fresh).run 0).1).run 0).1.2
    have hs : s.Agrees R s := ⟨he, ⟨rfl, fun _ _ _ _ => ⟨rfl, trivial⟩⟩, rfl, rfl, rfl⟩
    have hst : st.failure.isSome = true := by decide +kernel
    obtain ⟨m, last, v, v', events, _, hrun, hnew, _⟩ := hlocal s s st hs
    have hevents : events.length = 5 := by
      have hall : ((s.observed.run sink.observed s.fresh).run (0, [])).2.2.length = 5 := by
        decide +kernel
      rwa [hnew] at hall
    exact ⟨s, st, last, m, v, v', events, rfl, rfl, rfl, hst, hevents, hrun, hnew⟩
  · let s : KBestSearch Nat := ⟨e, config⟩
    let st := ((s.step sink 1 ((s.measureBaseline sink s.fresh).run 0).1).run 0).1.2
    have hst : st.buffer.length = 1 := by decide +kernel
    obtain ⟨m, last, v, v', events, _, hrun, hnew, _⟩ := hkbest s s st ⟨he, rfl⟩
    have hevents : events.length = 6 := by
      have hall : ((s.observed.run sink.observed s.fresh).run (0, [])).2.2.length = 6 := by
        decide +kernel
      rwa [hnew] at hall
    exact ⟨s, st, last, m, v, v', events, rfl, rfl, hst, hevents, hrun, hnew⟩
  · let s : GeneticSearch Nat := ⟨e, config⟩
    let first := s.firstPopulation ((s.measureBaseline sink s.fresh).run 0).1
    let evaluated := ((s.evaluateAll sink 1 first.1 first.2).run 0).1.2
    let st := (GeneticSearch.crossover [.empty, .empty] evaluated).2
    have hst : st.rng ≠ s.fresh.rng ∧ 0 < st.accepted := by decide +kernel
    have hvalid : s.config.validate = .ok () := by
      have hconfig : config.validate = .ok () := by
        subst config
        rfl
      exact hconfig
    obtain ⟨answer, last, last', v, v', events, _, hrun, hnew, _, hsame⟩ := hgenetic s s st ⟨he, rfl⟩
    have hevents : events.length = 10 := by
      have hall : ((s.observed.run sink.observed s.fresh).run (0, [])).2.2.length = 10 := by
        decide +kernel
      rwa [hnew] at hall
    rw [hsame hvalid] at hnew
    exact ⟨s, st, last, answer, v, v', events, rfl, rfl, hst.1, hst.2, hevents, hrun, hnew⟩

end Fresh

end PatchSearch
