import PatchSearch.Proofs.Search.Buffer
import PatchSearch.Proofs.Search.GeneticTrace
import PatchSearch.Proofs.Search.LocalTrace

namespace PatchSearch

variable {ω : Type}

/-- What a summary says of the program that a patch makes. -/
theorem Summary.bestSource_of_ok {strategy : String} {base t : SourceTree} {best : Patch}
    {baseline bestFitness : Float} {steps accepted : Nat} (h : best.apply base = .ok t) :
    (Summary.of strategy base best baseline bestFitness steps accepted).bestSource =
      some t.render := by
  simp [Summary.of, h]

/-- A text is what the harness was handed when the best fitness was measured: before any edit if
nothing was adopted, and else in a success among the evaluations of a run. -/
inductive Evaluator.Handed (e : Evaluator ω) (w₀ : ω) (trials : List (Trial ω)) (b : Standing)
    (text : String) : Prop
  | baseline : b.accepted = 0 → b.patch = .empty → b.fitness = e.baselineFitness w₀ →
      Logs e.baseline e.logged.baseline w₀ [text] → Handed e w₀ trials b text
  | adopted (t : Trial ω) : 0 < b.accepted → t ∈ trials → b.patch = t.patch →
      ((e.evaluate t.patch).run t.world).1 = t.verdict → t.verdict.isSuccess = true →
      b.fitness = e.measure t.verdict →
      Logs (e.evaluate t.patch) (e.logged.evaluate t.patch) t.world [text] →
      Handed e w₀ trials b text

/-- The best patch applies, and its program is what the harness was handed. -/
def Evaluator.Honest (e : Evaluator ω) (w₀ : ω) (trials : List (Trial ω)) (b : Standing) : Prop :=
  ∃ u, b.patch.apply e.base = .ok u ∧ e.Handed w₀ trials b u.render

namespace Evaluator

variable {e : Evaluator ω} {w₀ : ω} {trials : List (Trial ω)} {b b' : Standing}

theorem Handed.more {text : String} (h : e.Handed w₀ trials b text) (t : Trial ω) :
    e.Handed w₀ (trials ++ [t]) b text := by
  cases h with
  | baseline ha hp hf hl => exact .baseline ha hp hf hl
  | adopted u ha hm hp hv hs hf hl => exact .adopted u ha (List.mem_append_left _ hm) hp hv hs hf hl

theorem honest_start (e : Evaluator ω) (w₀ : ω) :
    e.Honest w₀ [] ⟨.empty, e.baselineFitness w₀, 0⟩ := by
  refine ⟨e.base, Patch.apply_empty _, .baseline rfl rfl rfl ?_⟩
  rw [← sources_of_ok (Patch.apply_empty e.base)]
  exact logs_evaluate .empty

/-- The evaluation of a patch keeps the best patch honest. -/
theorem Honest.move {p : Patch} {w : ω} {r : StepRecord} (h : e.Honest w₀ trials b)
    (hm : (e.trial p w r).Moves e.metric b b') : e.Honest w₀ (trials ++ [e.trial p w r]) b' := by
  cases hm with
  | adopt hs _ _ =>
    obtain ⟨u, hu⟩ := applies_of_success hs
    have hlogs : Logs (e.evaluate p) (e.logged.evaluate p) w [u.render] := by
      rw [← sources_of_ok hu]
      exact logs_evaluate p
    exact ⟨u, hu, .adopted (e.trial p w r) (Nat.succ_pos _)
      (List.mem_append_right _ (List.mem_singleton_self _)) rfl rfl hs rfl hlogs⟩
  | keep _ _ =>
    obtain ⟨u, hu, hh⟩ := h
    exact ⟨u, hu, hh.more _⟩

end Evaluator

theorem LocalSearch.Traces.honest {s : LocalSearch ω} {sink : Sink ω} {st₀ st : State} {w₀ w : ω}
    {trials : List (Trial ω)} (h : s.Traces sink st₀ w₀ trials st w) :
    s.evaluator.Honest w₀ trials st.standing := by
  induction h with
  | start h =>
    rw [measureBaseline_standing h]
    exact s.evaluator.honest_start _
  | next _ h ih => exact ih.move (step_moves h).2

theorem GeneticSearch.Traces.honest {s : GeneticSearch ω} {sink : Sink ω} {st₀ st : State} {w₀ w : ω}
    {generation : Nat} {scored : List Scored} {pending : List Patch} {trials : List (Trial ω)}
    (hw : ¬worstFitness < s.evaluator.baselineFitness w₀)
    (h : s.Traces sink st₀ w₀ generation scored pending trials st w) :
    s.evaluator.Honest w₀ trials st.standing := by
  induction h with
  | start h hp =>
    rw [firstPopulation_standing hp, measureBaseline_standing h]
    exact s.evaluator.honest_start _
  | evaluate ht h ih => exact ih.move (evaluateOne_moves (ht.not_worst_lt hw) h)
  | breed _ hp ih =>
    rw [nextPopulation_standing hp]
    exact ih

namespace KBestSearch

/-- The best patch of a state. -/
def State.standing (st : State) : Standing :=
  ⟨st.incumbent, st.fitness, st.accepted⟩

/-- A patch with the mean of a round of a run in which it succeeded. -/
def Measured (s : KBestSearch ω) (rounds : List (Round ω)) (entry : Patch × Float) : Prop :=
  ∃ r ∈ rounds, ((s.evaluator.evaluateRepeatedly r.patch s.config.repeats).run r.world).1 =
    r.sampled ∧ r.sampled.verdict.isSuccess = true ∧ entry = (r.patch, r.sampled.mean)

/-- A text is what the harness was handed in each sample when the best fitness was measured: before any
edit if nothing was adopted, and else in a round of the run that succeeded. -/
inductive Handed (s : KBestSearch ω) (w₀ : ω) (rounds : List (Round ω)) (b : Standing)
    (text : String) : Prop
  | baseline (sampled : PatchSearch.Sampled) : b.accepted = 0 → b.patch = .empty →
      ((s.evaluator.evaluateRepeatedly .empty s.config.repeats).run w₀).1 = sampled →
      b.fitness = sampled.mean →
      (sampled.verdict.isSuccess = true → sampled.samples = max 1 s.config.repeats) →
      Logs (s.evaluator.evaluateRepeatedly .empty s.config.repeats)
        (s.evaluator.logged.evaluateRepeatedly .empty s.config.repeats) w₀
        (List.replicate sampled.samples text) → Handed s w₀ rounds b text
  | adopted (r : Round ω) : 0 < b.accepted → r ∈ rounds → b.patch = r.patch →
      ((s.evaluator.evaluateRepeatedly r.patch s.config.repeats).run r.world).1 = r.sampled →
      r.sampled.verdict.isSuccess = true → b.fitness = r.sampled.mean →
      Logs (s.evaluator.evaluateRepeatedly r.patch s.config.repeats)
        (s.evaluator.logged.evaluateRepeatedly r.patch s.config.repeats) r.world
        (List.replicate (max 1 s.config.repeats) text) → Handed s w₀ rounds b text

/-- The best patch applies and its program is what the harness was handed, and all patches that wait
were measured. -/
structure Honest (s : KBestSearch ω) (w₀ : ω) (rounds : List (Round ω)) (st : State) : Prop where
  best : ∃ u, st.incumbent.apply s.evaluator.base = .ok u ∧
    s.Handed w₀ rounds st.standing u.render
  buffer : ∀ entry ∈ st.buffer, s.Measured rounds entry

variable {s : KBestSearch ω} {sink : Sink ω} {st st' st₀ : State} {w w' w₀ : ω}
  {rounds : List (Round ω)} {b : Standing}

theorem Measured.more {entry : Patch × Float} (h : s.Measured rounds entry) (r : Round ω) :
    s.Measured (rounds ++ [r]) entry := by
  obtain ⟨r', hm, h⟩ := h
  exact ⟨r', List.mem_append_left _ hm, h⟩

theorem Handed.more {text : String} (h : s.Handed w₀ rounds b text) (r : Round ω) :
    s.Handed w₀ (rounds ++ [r]) b text := by
  cases h with
  | baseline sampled ha hp hv hf hn hl => exact .baseline sampled ha hp hv hf hn hl
  | adopted r' ha hm hp hv hs hf hl =>
    exact .adopted r' ha (List.mem_append_left _ hm) hp hv hs hf hl

/-- A measured patch applies, and its program is what the harness was handed in each sample. -/
theorem Measured.handed {p : Patch} {mean : Float} (h : s.Measured rounds (p, mean))
    (accepted : Nat) : ∃ u, p.apply s.evaluator.base = .ok u ∧
      s.Handed w₀ rounds ⟨p, mean, accepted + 1⟩ u.render := by
  obtain ⟨r, hm, hv, hs, he⟩ := h
  obtain ⟨rfl, rfl⟩ := Prod.mk.inj he
  have hsuccess := hs
  rw [← hv] at hsuccess
  obtain ⟨u, hu⟩ := Evaluator.applies_of_sampled hsuccess
  obtain ⟨hlogs, hall⟩ := Evaluator.logs_evaluateRepeatedly hu s.config.repeats r.world
  rw [hall hsuccess] at hlogs
  exact ⟨u, hu, .adopted r (Nat.succ_pos _) hm rfl hv hs rfl hlogs⟩

theorem Honest.advance {r : Round ω} {k : Nat} (h : s.Honest w₀ rounds st)
    (hr : r.buffered = true → s.Measured (rounds ++ [r]) (r.patch, r.sampled.mean))
    (ha : Advances k r st st') : s.Honest w₀ (rounds ++ [r]) st' := by
  obtain ⟨u, hu, hh⟩ := h.best
  have hbuffer : ∀ entry ∈ st.buffer, s.Measured (rounds ++ [r]) entry :=
    fun entry he => (h.buffer entry he).more r
  have hpushed : r.buffered = true → ∀ entry ∈ st.buffer ++ [(r.patch, r.sampled.mean)],
      s.Measured (rounds ++ [r]) entry :=
    fun hb => List.forall_mem_append.mpr ⟨hbuffer, List.forall_mem_singleton.mpr (hr hb)⟩
  have hkept : st'.incumbent = st.incumbent → st'.fitness = st.fitness →
      st'.accepted = st.accepted → ∃ u, st'.incumbent.apply s.evaluator.base = .ok u ∧
        s.Handed w₀ (rounds ++ [r]) st'.standing u.render := by
    intro hi hf ha
    rw [State.standing, hi, hf, ha]
    exact ⟨u, hu, hh.more r⟩
  cases ha with
  | pass hb hnew hi hf ha =>
    refine ⟨hkept hi hf ha, ?_⟩
    rw [hnew]
    exact hbuffer
  | push hb hk hnew hi hf ha =>
    refine ⟨hkept hi hf ha, ?_⟩
    rw [hnew]
    exact hpushed hb
  | commit hb hk hnew hfirst _ ha =>
    have hm : s.Measured (rounds ++ [r]) (st'.incumbent, st'.fitness) := hpushed hb _ hfirst.mem
    refine ⟨?_, hnew ▸ List.forall_mem_nil _⟩
    rw [State.standing, ha]
    exact hm.handed st.accepted

theorem Traces.honest (h : s.Traces sink st₀ w₀ rounds st w) : s.Honest w₀ rounds st := by
  induction h with
  | start h =>
    obtain ⟨hi, hb, ha, hf⟩ := measureBaseline_state h
    have happly := Patch.apply_empty s.evaluator.base
    obtain ⟨hlogs, hall⟩ := Evaluator.logs_evaluateRepeatedly happly s.config.repeats w₀
    refine ⟨⟨s.evaluator.base, ?_, .baseline _ ha hi rfl hf hall hlogs⟩, ?_⟩
    · rw [hi]
      exact happly
    · rw [hb]
      exact fun entry he => absurd he List.not_mem_nil
  | @next rounds st w number r st' w' ht h ih =>
    refine ih.advance (fun hb => ?_) (step_advances ht.buffering.toWaiting h)
    exact ⟨s.round st w, List.mem_append_right _ (List.mem_singleton_self _), rfl,
      (Bool.and_eq_true_iff.mp hb).1, rfl⟩

end KBestSearch

/-- The summary of a completed search is honest, if for the genetic search the baseline is not worse
than the failures; and between the steps of a local or a k-best search the best patch applies. -/
theorem summary_honest {e : Evaluator ω} (sink : Sink ω) (w₀ : ω) :
    (∀ (s : LocalSearch ω) st₀ m st w, s.evaluator = e →
      (s.run sink st₀).run w₀ = ((m, st), w) → ∃ trials u, s.Traces sink st₀ w₀ trials st w ∧
        m.bestPatch.apply e.base = .ok u ∧ m.bestSource = some u.render ∧
        e.Handed w₀ trials ⟨m.bestPatch, m.bestFitness, m.accepted⟩ u.render) ∧
    (∀ (s : KBestSearch ω) st₀ m st w, s.evaluator = e →
      (s.run sink st₀).run w₀ = ((m, st), w) → ∃ rounds u, s.Traces sink st₀ w₀ rounds st w ∧
        m.bestPatch.apply e.base = .ok u ∧ m.bestSource = some u.render ∧
        s.Handed w₀ rounds ⟨m.bestPatch, m.bestFitness, m.accepted⟩ u.render) ∧
    (¬worstFitness < e.baselineFitness w₀ →
      ∀ (s : GeneticSearch ω) st₀ m st w, s.evaluator = e →
        (s.run sink st₀).run w₀ = ((.ok m, st), w) → ∃ generation population trials u,
          s.Traces sink st₀ w₀ generation [] population trials st w ∧
          m.bestPatch.apply e.base = .ok u ∧ m.bestSource = some u.render ∧
          e.Handed w₀ trials ⟨m.bestPatch, m.bestFitness, m.accepted⟩ u.render) ∧
    (∀ (s : LocalSearch ω) st₀ n st w, s.evaluator = e → s.Reaches sink st₀ w₀ n st w →
      ∃ u, st.incumbent.apply e.base = .ok u) ∧
    (∀ (s : KBestSearch ω) st₀ n st w, s.evaluator = e → s.Reaches sink st₀ w₀ n st w →
      ∃ u, st.incumbent.apply e.base = .ok u) := by
  refine ⟨?_, ?_, ?_, ?_, ?_⟩
  · rintro s st₀ m st w rfl h
    obtain ⟨hr, rfl⟩ := LocalSearch.run_reaches h
    obtain ⟨trials, ht, _⟩ := hr.traces
    obtain ⟨u, hu, hh⟩ := ht.honest
    exact ⟨trials, u, ht, hu, Summary.bestSource_of_ok hu, hh⟩
  · rintro s st₀ m st w rfl h
    obtain ⟨hr, rfl⟩ := KBestSearch.run_reaches h
    obtain ⟨rounds, ht, _⟩ := hr.traces
    obtain ⟨u, hu, hh⟩ := ht.honest.best
    exact ⟨rounds, u, ht, hu, Summary.bestSource_of_ok hu, hh⟩
  · rintro hw s st₀ m st w rfl h
    obtain ⟨⟨generation, population, trials, ht⟩, rfl⟩ := GeneticSearch.run_traces h
    obtain ⟨u, hu, hh⟩ := ht.honest hw
    exact ⟨generation, population, trials, u, ht, hu, Summary.bestSource_of_ok hu, hh⟩
  · rintro s st₀ n st w rfl h
    obtain ⟨trials, ht, _⟩ := h.traces
    obtain ⟨u, hu, _⟩ := ht.honest
    exact ⟨u, hu⟩
  · rintro s st₀ n st w rfl h
    obtain ⟨rounds, ht, _⟩ := h.traces
    obtain ⟨u, hu, _⟩ := ht.honest.best
    exact ⟨u, hu⟩

/-- Each search adopts a patch that makes a program faster and hands it over honestly. -/
theorem summary_honest_adopted :
    let run : List Statement := [.simple "a();", .block "while (c)" [.simple "b();"]]
    let base := { SourceTree.ofItems [.block "class K" [.block "void run()" run]] with target := some 2 }
    let verdict (source : String) : Verdict :=
      .ofTests [.pass "t" ⟨if source = base.render then 5 else 3, 0, 0, 0⟩]
    let e : Evaluator Unit := ⟨.ofAnswers verdict, ⟨"K", "run", [], base⟩, .executionTime⟩
    let config : SearchConfig := { SearchConfig.standard with
      steps := 1, k := 1, populationSize := 4, generations := 1, editKinds := [.delete] }
    let sink : Sink Unit := fun _ => pure true
    (∃ (s : LocalSearch Unit) (m : Summary) (st : LocalSearch.State) (w : Unit)
      (trials : List (Trial Unit)) (u : SourceTree), s.evaluator = e ∧ s.config = config ∧
        (s.run sink s.fresh).run () = ((m, st), w) ∧ 0 < m.accepted ∧
        m.bestPatch.apply base = .ok u ∧ m.bestSource = some u.render ∧
        e.Handed () trials ⟨m.bestPatch, m.bestFitness, m.accepted⟩ u.render) ∧
    (∃ (s : KBestSearch Unit) (m : Summary) (st : KBestSearch.State) (w : Unit)
      (rounds : List (KBestSearch.Round Unit)) (u : SourceTree), s.evaluator = e ∧ s.config = config ∧
        (s.run sink s.fresh).run () = ((m, st), w) ∧ 0 < m.accepted ∧
        m.bestPatch.apply base = .ok u ∧ m.bestSource = some u.render ∧
        s.Handed () rounds ⟨m.bestPatch, m.bestFitness, m.accepted⟩ u.render) ∧
    (∃ (s : GeneticSearch Unit) (m : Summary) (st : GeneticSearch.State) (w : Unit)
      (trials : List (Trial Unit)) (u : SourceTree), s.evaluator = e ∧ s.config = config ∧
        (s.run sink s.fresh).run () = ((.ok m, st), w) ∧ 0 < m.accepted ∧
        m.bestPatch.apply base = .ok u ∧ m.bestSource = some u.render ∧
        e.Handed () trials ⟨m.bestPatch, m.bestFitness, m.accepted⟩ u.render) := by
  intro run base verdict e config sink
  have hw : ¬worstFitness < e.baselineFitness () := by decide +kernel
  obtain ⟨hlocal, hkbest, hgenetic, _, _⟩ := summary_honest (e := e) sink ()
  refine ⟨?_, ?_, ?_⟩
  · let s : LocalSearch Unit := ⟨e, ⟨fun _ => pure (.ok "```\nf();\n```"), ""⟩, ⟨""⟩, ⟨""⟩, config⟩
    have hm : ∀ x, (s.run sink s.fresh).run () = x → 0 < x.1.1.accepted := by
      rintro _ rfl
      decide +kernel
    obtain ⟨⟨⟨m, st⟩, w⟩, h⟩ : ∃ x, (s.run sink s.fresh).run () = x := ⟨_, rfl⟩
    obtain ⟨trials, u, _, hu, hsource, hh⟩ := hlocal s s.fresh m st w rfl h
    exact ⟨s, m, st, w, trials, u, rfl, rfl, h, hm _ h, hu, hsource, hh⟩
  · let s : KBestSearch Unit := ⟨e, config⟩
    have hm : ∀ x, (s.run sink s.fresh).run () = x → 0 < x.1.1.accepted := by
      rintro _ rfl
      decide +kernel
    obtain ⟨⟨⟨m, st⟩, w⟩, h⟩ : ∃ x, (s.run sink s.fresh).run () = x := ⟨_, rfl⟩
    obtain ⟨rounds, u, _, hu, hsource, hh⟩ := hkbest s s.fresh m st w rfl h
    exact ⟨s, m, st, w, rounds, u, rfl, rfl, h, hm _ h, hu, hsource, hh⟩
  · let s : GeneticSearch Unit := ⟨e, config⟩
    have hm : ∀ x, (s.run sink s.fresh).run () = x →
        ∃ m ∈ x.1.1.toOption, 0 < m.accepted := by
      rintro _ rfl
      decide +kernel
    obtain ⟨⟨⟨result, st⟩, w⟩, h⟩ : ∃ x, (s.run sink s.fresh).run () = x := ⟨_, rfl⟩
    obtain ⟨m, hresult, haccepted⟩ := hm _ h
    cases result with
    | error f => cases hresult
    | ok m' =>
      cases hresult
      obtain ⟨_, _, trials, u, _, hu, hsource, hh⟩ := hgenetic hw s s.fresh m st w rfl h
      exact ⟨s, m, st, w, trials, u, rfl, rfl, h, haccepted, hu, hsource, hh⟩

/-- Two tests of a method with a loop take more energy than a double can hold: then the genetic search
adopts a patch that does not even apply, and its summary has no program. -/
theorem not_summary_honest_of_overflow :
    let base := { SourceTree.ofItems [.block "class K" [.block "void run()"
      [.block "while (c)" [.simple "a();"]]]] with target := some 2 }
    let usage : Usage := ⟨1, 1, 0, 1e308⟩
    let verdict : Verdict := .ofTests [.pass "t" usage, .pass "u" usage]
    let e : Evaluator Unit := ⟨.ofAnswers fun _ => verdict, ⟨"K", "run", [], base⟩, .energy⟩
    let s : GeneticSearch Unit := ⟨e, { SearchConfig.standard with
      populationSize := 4, generations := 1, metric := .energy, editKinds := [.swap], seed := 1 }⟩
    let sink : Sink Unit := fun _ => pure true
    e.Numeric ∧ ∃ (m : Summary) (st : GeneticSearch.State) (w : Unit),
      (s.run sink s.fresh).run () = ((.ok m, st), w) ∧ m.accepted = 1 ∧ m.bestSource = none ∧
        ∀ u, m.bestPatch.apply base ≠ .ok u := by
  intro base usage verdict e s sink
  have hn : e.Numeric := Evaluator.numeric_ofAnswers fun _ => by decide +kernel
  have hm : ∀ x, (s.run sink s.fresh).run () = x →
      ∃ m ∈ x.1.1.toOption, m.accepted = 1 ∧ m.bestSource = none ∧
        (m.bestPatch.apply base).toOption = none := by
    rintro _ rfl
    decide +kernel
  obtain ⟨⟨⟨result, st⟩, w⟩, h⟩ : ∃ x, (s.run sink s.fresh).run () = x := ⟨_, rfl⟩
  obtain ⟨m, hresult, haccepted, hsource, happly⟩ := hm _ h
  cases result with
  | error f => cases hresult
  | ok m' =>
    cases hresult
    refine ⟨hn, m, st, w, h, haccepted, hsource, fun u hu => ?_⟩
    rw [hu] at happly
    cases happly

end PatchSearch
