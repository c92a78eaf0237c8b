import PatchSearch.Proofs.Search.Applicable
import PatchSearch.Proofs.Search.Offers

namespace PatchSearch

variable {ω : Type}

theorem Mutator.length_mutants (m : Mutator) (p : Patch) (base : SourceTree) (n : Nat) (g : Random) :
    (m.mutants p base n g).1.length = n := by
  induction n generalizing g with
  | zero => rfl
  | succ n ih => exact congrArg (· + 1) (ih _)

namespace GeneticSearch

theorem length_tournaments (size n : Nat) (pool : List Scored) (g : Random) :
    (tournaments size n pool g).1.length = n := by
  induction n generalizing pool g with
  | zero => rfl
  | succ n ih => exact congrArg (· + 1) (ih _ _)

theorem length_breedAll (cs : List (Patch × Patch)) (g : Random) :
    (breedAll cs g).1.length = 4 * cs.length := by
  induction cs generalizing g with
  | nil => rfl
  | cons c cs ih =>
    have hfamily : (breedAll (c :: cs) g).1 =
        (breed c.1 c.2 g).1 ++ (breedAll cs (breed c.1 c.2 g).2).1 := rfl
    have hbreed : (breed c.1 c.2 g).1.length = 4 := rfl
    rw [hfamily, List.length_append, ih, hbreed, List.length_cons]
    omega

theorem length_couples (parents : List Patch) : (couples parents).length = parents.length / 2 := by
  rw [couples, List.length_zip, List.length_take, List.length_take, List.length_drop]
  omega

/-- Each couple has two children and stays itself. -/
theorem length_crossover (parents : List Patch) (st : State) :
    (crossover parents st).1.length = 4 * (parents.length / 2) := by
  have hcrossover : (crossover parents st).1 = (breedAll (couples (st.rng.shuffle parents).1)
      (st.rng.shuffle parents).2).1 := rfl
  rw [hcrossover, length_breedAll, length_couples, (st.rng.shuffle_perm parents).length_eq]

theorem length_mutateAll (m : Mutator) (base : SourceTree) (ps : List Patch) (g : Random) :
    (mutateAll m base ps g).1.length = ps.length := by
  induction ps generalizing g with
  | nil => rfl
  | cons p ps ih => exact congrArg (· + 1) (ih _)

variable {s : GeneticSearch ω} {sink : Sink ω} {st st' st₀ : State} {w w' w₀ : ω}
  {generation : Nat} {scored : List Scored} {population pending : List Patch}
  {trials : List (Trial ω)}

theorem length_firstPopulation (h : s.firstPopulation st = (population, st')) :
    population.length = s.config.populationSize := by
  cases h
  exact s.mutator.length_mutants _ _ _ _

theorem length_select : (s.select scored st).1.length = s.config.populationSize / 2 :=
  length_tournaments _ _ _ _

/-- Half a population of parents has at most a population of children, and the rest is filled up. -/
theorem length_nextPopulation (h : s.nextPopulation scored st = (population, st')) :
    population.length = s.config.populationSize := by
  let offspring := crossover (s.select scored st).1 (s.select scored st).2
  let mutated := mutateAll s.mutator s.evaluator.base offspring.1 offspring.2.rng
  have hmutated : mutated.1.length = 4 * (s.config.populationSize / 2 / 2) := by
    rw [length_mutateAll, length_crossover, length_select]
  have hpopulation : population = mutated.1 ++ (s.mutator.mutants .empty s.evaluator.base
      (s.config.populationSize - mutated.1.length) mutated.2).1 :=
    (congrArg Prod.fst h).symm
  rw [hpopulation, List.length_append, Mutator.length_mutants, hmutated]
  omega

/-- Every generation has a full population, of which some patches are evaluated. -/
theorem Traces.counts (h : s.Traces sink st₀ w₀ generation scored pending trials st w) :
    1 ≤ generation ∧ scored.length + pending.length = s.config.populationSize ∧
      trials.length = (generation - 1) * s.config.populationSize + scored.length := by
  induction h with
  | start _ hp => exact ⟨Nat.le_refl 1, by simp [length_firstPopulation hp], by simp⟩
  | evaluate _ _ ih =>
    obtain ⟨hg, hsize, hcount⟩ := ih
    simp only [List.length_append, List.length_cons, List.length_nil] at hsize hcount ⊢
    exact ⟨hg, by omega, by omega⟩
  | @breed generation scored trials _ _ population _ _ hp ih =>
    obtain ⟨hg, hsize, hcount⟩ := ih
    have hnext : generation = generation - 1 + 1 := by omega
    refine ⟨Nat.le_add_left 1 _, by simp [length_nextPopulation hp], ?_⟩
    rw [List.length_nil, Nat.add_zero] at hsize
    rw [hcount, hsize, Nat.add_sub_cancel, hnext, Nat.succ_mul]
    rfl

theorem conclude_evaluations (p : Patch) (v : Verdict) (st : State) :
    (s.conclude p v st).evaluations = st.evaluations + 1 := by
  unfold conclude
  dsimp only
  split
  next => rfl
  next => rfl

/-- The evaluations are numbered. -/
theorem Traces.numbers (h : s.Traces sink st₀ w₀ generation scored pending trials st w) :
    st.evaluations = trials.length ∧
      trials.map (fun t => t.record.step) = List.range' 1 trials.length := by
  induction h with
  | start h hp =>
    cases hp
    cases h
    exact ⟨rfl, rfl⟩
  | @evaluate generation scored p pending trials st w entry st' w' _ h ih =>
    obtain ⟨hcount, hnumbers⟩ := ih
    obtain rfl : ((s.evaluateOne sink generation p st).run w).1.2 = st' :=
      congrArg (fun r => r.1.2) h
    have hstep : (s.trial generation p st w).record.step = st.evaluations + 1 :=
      conclude_evaluations _ _ _
    rw [evaluateOne_state, conclude_evaluations, List.length_append, List.length_singleton, hcount,
      List.map_append, hnumbers, List.map_singleton, hstep, hcount, List.range'_concat]
    exact ⟨rfl, by rw [Nat.one_mul, Nat.add_comm 1]⟩
  | breed _ hp ih =>
    cases hp
    exact ih

end GeneticSearch

/-- The numbers of the records if that of the baseline comes before those from 1 on. -/
theorem steps_of_cons {n : Nat} {first : ω × StepRecord} {offers : List (ω × StepRecord)}
    (hfirst : first.2.step = 0) (h : offers.map (fun o => o.2.step) = List.range' 1 n) :
    (first :: offers).map (fun o => o.2.step) = List.range (n + 1) := by
  rw [List.map_cons, hfirst, h, List.range_eq_range', List.range'_succ]

theorem LocalSearch.run_settles (s : LocalSearch ω) (sink : Sink ω) (st₀ : State) (w₀ : ω) :
    ∃ st w trials, (s.run sink st₀).run w₀ = ((s.summary st, st), w) ∧
      Settles sink (fun _ k => s.beside.run k st₀) w₀ (s.summary st, st) w
        (s.evaluator.baselineOffer w₀ :: trials.map s.evaluator.offer) ∧
      s.Traces sink st₀ w₀ trials st w ∧ trials.length = s.config.steps ∧
      trials.map (fun t => t.record.step) = List.range' 1 s.config.steps := by
  have hstart : s.Traces sink st₀ w₀ [] ((s.measureBaseline sink st₀).run w₀).1
      ((s.measureBaseline sink st₀).run w₀).2 := .start rfl
  obtain ⟨trials, htraces, hnumbers, hoffers⟩ := hstart.steps s.config.steps 1
  refine ⟨_, _, trials, rfl, fun τ k hk => ?_, htraces, ?_, hnumbers⟩
  · have hrun : Offers k (s.run sink st₀) (s.beside.run k st₀) w₀ _ :=
      (offers_measureBaseline hk).bind (hoffers τ k hk).bind_pure
    exact hrun
  · rw [← List.length_map, hnumbers, List.length_range']

theorem KBestSearch.run_reports (s : KBestSearch ω) (sink : Sink ω) (st₀ : State) (w₀ : ω) :
    ∃ st w rounds offers, (s.run sink st₀).run w₀ = ((s.summary st, st), w) ∧
      Settles sink (fun _ k => s.beside.run k st₀) w₀ (s.summary st, st) w
        (s.baselineOffer w₀ :: offers) ∧
      s.Traces sink st₀ w₀ rounds st w ∧ List.Forall₂ Round.Reported rounds offers ∧
      offers.map (fun o => o.2.step) = List.range' 1 s.config.steps := by
  have hstart : s.Traces sink st₀ w₀ [] ((s.measureBaseline sink st₀).run w₀).1
      ((s.measureBaseline sink st₀).run w₀).2 := .start rfl
  obtain ⟨rounds, offers, htraces, hnumbers, hreported, hoffers⟩ := hstart.steps s.config.steps 1
  refine ⟨_, _, rounds, offers, rfl, fun τ k hk => ?_, htraces, hreported, hnumbers⟩
  have hrun : Offers k (s.run sink st₀) (s.beside.run k st₀) w₀ _ :=
    (offers_measureBaseline hk).bind (hoffers τ k hk).bind_pure
  exact hrun

theorem KBestSearch.run_settles (s : KBestSearch ω) (sink : Sink ω) (st₀ : State) (w₀ : ω) :
    ∃ st w rounds offers, (s.run sink st₀).run w₀ = ((s.summary st, st), w) ∧
      Settles sink (fun _ k => s.beside.run k st₀) w₀ (s.summary st, st) w
        (s.baselineOffer w₀ :: offers) ∧
      s.Traces sink st₀ w₀ rounds st w ∧ rounds.length = s.config.steps ∧
      offers.map (fun o => o.2.outcome) = rounds.map (fun r => r.sampled.verdict.outcome) ∧
      offers.map (fun o => o.2.step) = List.range' 1 s.config.steps := by
  obtain ⟨st, w, rounds, offers, hrun, hsettles, htraces, hreported, hnumbers⟩ :=
    s.run_reports sink st₀ w₀
  refine ⟨st, w, rounds, offers, hrun, hsettles, htraces, ?_, map_outcome_of_reported hreported,
    hnumbers⟩
  rw [hreported.length_eq, ← List.length_map, hnumbers, List.length_range']

theorem GeneticSearch.run_eq {s : GeneticSearch ω} (hc : s.config.validate = .ok ()) (sink : Sink ω)
    (st₀ : State) : s.run sink st₀ = (do
      let st ← s.measureBaseline sink st₀
      let (population, st) := s.firstPopulation st
      let st ← s.generations sink s.config.generations 1 population st
      return (.ok (s.summary st), st)) := by
  rw [run, hc]

theorem GeneticSearch.run_settles {s : GeneticSearch ω} (hc : s.config.validate = .ok ())
    (sink : Sink ω) (st₀ : State) (w₀ : ω) : ∃ st w population trials,
      (s.run sink st₀).run w₀ = ((.ok (s.summary st), st), w) ∧
      Settles sink (fun _ k => s.beside.run k st₀) w₀ (.ok (s.summary st), st) w
        (s.evaluator.baselineOffer w₀ :: trials.map s.evaluator.offer) ∧
      s.Traces sink st₀ w₀ (s.config.generations + 1) [] population trials st w := by
  have hstart : s.Traces sink st₀ w₀ 1 []
      (s.firstPopulation ((s.measureBaseline sink st₀).run w₀).1).1 []
      (s.firstPopulation ((s.measureBaseline sink st₀).run w₀).1).2
      ((s.measureBaseline sink st₀).run w₀).2 := .start rfl rfl
  obtain ⟨population, trials, htraces, hoffers⟩ := hstart.generations s.config.generations
  rw [Nat.add_comm] at htraces
  refine ⟨_, _, population, trials, ?_, fun τ k hk => ?_, htraces⟩
  · rw [run_eq hc]
    rfl
  · have hbeside : (s.beside : GeneticSearch (ω × τ)).config.validate = .ok () := hc
    have hrun : Offers k (s.run sink st₀) (s.beside.run k st₀) w₀
        (s.evaluator.baselineOffer w₀ :: trials.map s.evaluator.offer) := by
      rw [run_eq hc, run_eq hbeside]
      exact (offers_measureBaseline hk).bind (hoffers τ k hk).bind_pure
    rw [run_eq hc] at hrun
    exact hrun

/-- A search does as much as its settings say, whatever the harness and the backend answer. With every
sink that does the same to the world, whatever state of its own it has and whichever records it refuses,
it ends with the same summary after the same sources were handed to the harness, and the sink is offered
the same records: one for the baseline and one for each evaluation, numbered from 0 on. -/
theorem budget_exact (sink : Sink ω) (w₀ : ω) :
    (∀ (s : LocalSearch ω) st₀, ∃ m st w calls trials offers,
      (s.logged.run sink.logged st₀).run (w₀, []) = ((m, st), (w, calls)) ∧
      Settles sink.logged (fun _ k => s.logged.beside.run k st₀) (w₀, []) (m, st) (w, calls)
        offers ∧
      s.logged.Traces sink.logged st₀ (w₀, []) trials st (w, calls) ∧
      trials.length = s.config.steps ∧ m.steps = s.config.steps ∧
      offers = s.logged.evaluator.baselineOffer (w₀, []) :: trials.map s.logged.evaluator.offer ∧
      offers.map (fun o => o.2.step) = List.range (s.config.steps + 1)) ∧
    (∀ (s : KBestSearch ω) st₀, ∃ m st w calls rounds offers,
      (s.logged.run sink.logged st₀).run (w₀, []) = ((m, st), (w, calls)) ∧
      Settles sink.logged (fun _ k => s.logged.beside.run k st₀) (w₀, []) (m, st) (w, calls)
        (s.logged.baselineOffer (w₀, []) :: offers) ∧
      s.logged.Traces sink.logged st₀ (w₀, []) rounds st (w, calls) ∧
      rounds.length = s.config.steps ∧ m.steps = s.config.steps ∧
      offers.map (fun o => o.2.outcome) = rounds.map (fun r => r.sampled.verdict.outcome) ∧
      (s.logged.baselineOffer (w₀, []) :: offers).map (fun o => o.2.step) =
        List.range (s.config.steps + 1)) ∧
    ∀ (s : GeneticSearch ω) st₀, s.config.validate = .ok () →
      (∃ m st w calls population trials offers,
        (s.logged.run sink.logged st₀).run (w₀, []) = ((.ok m, st), (w, calls)) ∧
        Settles sink.logged (fun _ k => s.logged.beside.run k st₀) (w₀, []) (.ok m, st) (w, calls)
          offers ∧
        s.logged.Traces sink.logged st₀ (w₀, []) (s.config.generations + 1) [] population trials st
          (w, calls) ∧
        trials.length = s.config.populationSize * s.config.generations ∧
        m.steps = s.config.populationSize * s.config.generations ∧
        offers = s.logged.evaluator.baselineOffer (w₀, []) :: trials.map s.logged.evaluator.offer ∧
        offers.map (fun o => o.2.step) =
          List.range (s.config.populationSize * s.config.generations + 1)) ∧
      ∀ generation scored pending trials st w,
        s.Traces sink st₀ w₀ generation scored pending trials st w →
        scored.length + pending.length = s.config.populationSize ∧
        trials.length = (generation - 1) * s.config.populationSize + scored.length := by
  refine ⟨fun s st₀ => ?_, fun s st₀ => ?_, fun s st₀ hc => ⟨?_, ?_⟩⟩
  · obtain ⟨st, w, trials, hrun, hsettles, htraces, hcount, hnumbers⟩ :=
      s.logged.run_settles sink.logged st₀ (w₀, [])
    refine ⟨_, st, w.1, w.2, trials, _, hrun, hsettles, htraces, hcount, rfl, rfl, ?_⟩
    refine steps_of_cons rfl ?_
    rw [List.map_map]
    exact hnumbers
  · obtain ⟨st, w, rounds, offers, hrun, hsettles, htraces, hcount, houtcomes, hnumbers⟩ :=
      s.logged.run_settles sink.logged st₀ (w₀, [])
    exact ⟨_, st, w.1, w.2, rounds, offers, hrun, hsettles, htraces, hcount, rfl, houtcomes,
      steps_of_cons rfl hnumbers⟩
  · have hlogged : s.logged.config.validate = .ok () := hc
    obtain ⟨st, w, population, trials, hrun, hsettles, htraces⟩ :=
      GeneticSearch.run_settles hlogged sink.logged st₀ (w₀, [])
    obtain ⟨_, _, hcount⟩ := htraces.counts
    obtain ⟨hsteps, hnumbers⟩ := htraces.numbers
    replace hcount : trials.length = s.config.populationSize * s.config.generations := by
      rw [hcount, Nat.add_sub_cancel, List.length_nil, Nat.add_zero, Nat.mul_comm]
      rfl
    rw [hcount] at hsteps hnumbers
    refine ⟨_, st, w.1, w.2, population, trials, _, hrun, hsettles, htraces, hcount, hsteps, rfl, ?_⟩
    refine steps_of_cons rfl ?_
    rw [List.map_map]
    exact hnumbers
  · exact fun _ _ _ _ _ _ h => h.counts.2

/-- With a harness and a backend that always fail and a sink that refuses every record, three steps and
two generations of six patches are made. -/
theorem budget_exact_refused :
    let base := { SourceTree.ofItems [.block "class K" [.block "void run()"
      [.simple "a();", .simple "b();"]]] with target := some 2 }
    let failure : Failure := .ofText "out of memory"
    let e : Evaluator Unit :=
      ⟨fun _ _ _ => pure (.error failure), ⟨"K", "run", [], base⟩, .executionTime⟩
    let config : SearchConfig :=
      { SearchConfig.standard with steps := 3, populationSize := 6, generations := 2 }
    (∃ (s : LocalSearch Unit) (m : Summary) (st : LocalSearch.State) (w : Unit) (calls : List String)
      (records : List StepRecord), s.evaluator = e ∧ s.config = config ∧
      (s.logged.beside.run .refusing s.fresh).run (((), []), []) = ((m, st), ((w, calls), records)) ∧
      m.steps = 3 ∧ records.map (fun r => r.step) = [0, 1, 2, 3]) ∧
    (∃ (s : KBestSearch Unit) (m : Summary) (st : KBestSearch.State) (w : Unit) (calls : List String)
      (records : List StepRecord), s.evaluator = e ∧ s.config = config ∧
      (s.logged.beside.run .refusing s.fresh).run (((), []), []) = ((m, st), ((w, calls), records)) ∧
      m.steps = 3 ∧ records.map (fun r => r.step) = [0, 1, 2, 3]) ∧
    ∃ (s : GeneticSearch Unit) (m : Summary) (st : GeneticSearch.State) (w : Unit) (calls : List String)
      (records : List StepRecord), s.evaluator = e ∧ s.config = config ∧
      s.config.validate = .ok () ∧
      (s.logged.beside.run .refusing s.fresh).run (((), []), []) =
        ((.ok m, st), ((w, calls), records)) ∧
      m.steps = 12 ∧ records.map (fun r => r.step) = List.range 13 := by
  intro base failure e config
  have hvalid : config.validate = .ok () := by
    subst config
    rfl
  obtain ⟨hlocal, hkbest, hgenetic⟩ := budget_exact (ω := Unit) .silent ()
  have hrecords : ∀ offers : List (Logged Unit × StepRecord),
      (Sink.refusing.after offers []).map (fun r => r.step) = offers.map (fun o => o.2.step) := by
    intro offers
    rw [Sink.after_refusing, List.nil_append, List.map_map]
    rfl
  refine ⟨?_, ?_, ?_⟩
  · let s : LocalSearch Unit := ⟨e, ⟨fun _ => pure (.error failure), ""⟩, ⟨""⟩, ⟨""⟩, config⟩
    obtain ⟨m, st, w, calls, trials, offers, _, hsettles, _, _, hsteps, _, hnumbers⟩ :=
      hlocal s s.fresh
    exact ⟨s, m, st, w, calls, _, rfl, rfl, hsettles _ .refusing Sink.covers_refusing [], hsteps,
      (hrecords _).trans hnumbers⟩
  · let s : KBestSearch Unit := ⟨e, config⟩
    obtain ⟨m, st, w, calls, rounds, offers, _, hsettles, _, _, hsteps, _, hnumbers⟩ :=
      hkbest s s.fresh
    exact ⟨s, m, st, w, calls, _, rfl, rfl, hsettles _ .refusing Sink.covers_refusing [], hsteps,
      (hrecords _).trans hnumbers⟩
  · let s : GeneticSearch Unit := ⟨e, config⟩
    obtain ⟨⟨m, st, w, calls, population, trials, offers, _, hsettles, _, _, hsteps, _, hnumbers⟩, _⟩ :=
      hgenetic s s.fresh hvalid
    exact ⟨s, m, st, w, calls, _, rfl, rfl, hvalid, hsettles _ .refusing Sink.covers_refusing [],
      hsteps, (hrecords _).trans hnumbers⟩

end PatchSearch
