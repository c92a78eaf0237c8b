import PatchSearch.Proofs.Double.Difference
import PatchSearch.Proofs.Search.Budget

namespace PatchSearch

/-- The improvement is greater than zero if the best fitness is less than the baseline, and else zero. -/
theorem Summary.beats_iff (strategy : String) (base : SourceTree) (best : Patch)
    (baseline fitness : Float) (steps accepted : Nat) :
    0 < (Summary.of strategy base best baseline fitness steps accepted).improvement ↔
      fitness < baseline := by
  change 0 < (if fitness < baseline then baseline - fitness else 0) ↔ fitness < baseline
  split
  next h => exact iff_of_true (Double.sub_pos h) h
  next h => exact iff_of_false (Double.lt_irrefl 0) h

namespace KBestSearch

variable {ω : Type}

/-- Whether a round was a success and measured less than a bound. -/
def Round.beats (bound : Float) (r : Round ω) : Bool :=
  r.sampled.verdict.isSuccess && r.sampled.mean < bound

variable {s : KBestSearch ω} {sink : Sink ω} {st st' st₀ : State} {w w' w₀ : ω}
  {rounds : List (Round ω)} {r : Round ω} {k : Nat}

/-- Where a search with commits of `k` candidates stands between two steps. -/
inductive Progress (k : Nat) (rounds : List (Round ω)) (st : State) : Prop
  /-- Nothing was adopted yet, and all that beat the baseline is waiting. -/
  | waiting : st.fitness = st.baseline →
      rounds.countP (Round.beats st.baseline) = st.buffer.length → Progress k rounds st
  | improved : st.fitness < st.baseline → k ≤ rounds.countP (Round.beats st.baseline) →
      Progress k rounds st

theorem Progress.advance (h : Progress k rounds st) (hr : r.buffered = r.beats st.fitness)
    (hb : st'.baseline = st.baseline) (ha : Advances k r st st') : Progress k (rounds ++ [r]) st' := by
  have hcount : (rounds ++ [r]).countP (Round.beats st'.baseline) =
      rounds.countP (Round.beats st.baseline) + if r.beats st.baseline = true then 1 else 0 := by
    rw [hb, List.countP_append, List.countP_singleton]
  cases h with
  | waiting hf hwaiting =>
    rw [hf] at hr
    rw [← hr] at hcount
    cases ha with
    | pass hbuffered hbuffer _ hf' _ =>
      rw [if_neg (ne_true_of_eq_false hbuffered)] at hcount
      refine .waiting (by rw [hf', hf, hb]) ?_
      rw [hcount, hwaiting, hbuffer, Nat.add_zero]
    | push hbuffered _ hbuffer _ hf' _ =>
      rw [if_pos hbuffered] at hcount
      refine .waiting (by rw [hf', hf, hb]) ?_
      rw [hcount, hwaiting, hbuffer, List.length_append, List.length_singleton]
    | commit hbuffered hk _ _ hlt _ =>
      rw [if_pos hbuffered] at hcount
      refine .improved (by rwa [hb, ← hf]) ?_
      rw [hcount, hwaiting, hk]
  | improved hlt hmany =>
    refine .improved ?_ (by omega)
    rw [hb]
    cases ha with
    | pass _ _ _ hf' _ => rwa [hf']
    | push _ _ _ _ hf' _ => rwa [hf']
    | commit _ _ _ _ hlt' _ => exact Double.lt_trans hlt' hlt

theorem Progress.improved_iff (h : Progress k rounds st) (hfew : st.buffer.length < k) :
    st.fitness < st.baseline ↔ k ≤ rounds.countP (Round.beats st.baseline) := by
  cases h with
  | waiting hf hwaiting =>
    rw [hf, hwaiting]
    exact iff_of_false (Double.lt_irrefl _) (Nat.not_le_of_lt hfew)
  | improved hlt hmany => exact iff_of_true hlt hmany

theorem adopt_baseline (p : Patch) (sampled : Sampled) (st : State) :
    (s.adopt p sampled st).2.baseline = st.baseline := by
  by_cases h : sampled.verdict.isSuccess = true ∧ sampled.mean < st.fitness
  · rw [adopt_better h.1 h.2]
    dsimp only
    split <;> rfl
  · rw [adopt_other h]
    split <;> rfl

theorem step_baseline {number : Nat} {record : StepRecord}
    (h : (s.step sink number st).run w = ((record, st'), w')) : st'.baseline = st.baseline := by
  obtain ⟨_, _, _, _, rfl⟩ := step_run h
  exact adopt_baseline _ _ _

/-- What is measured before the first step is the best fitness at first. -/
theorem measureBaseline_fitness (h : (s.measureBaseline sink st).run w = (st', w')) :
    st'.fitness = st'.baseline ∧ st'.baseline = (s.baselineOffer w).2.metric := by
  unfold measureBaseline at h
  obtain ⟨sampled, w₁, hv, h⟩ := exists_run_of_bind h
  obtain ⟨_, w₂, _, h⟩ := exists_run_of_bind h
  rw [← (Prod.mk.inj h).1, baselineOffer, hv]
  exact ⟨rfl, rfl⟩

theorem Traces.baseline (h : s.Traces sink st₀ w₀ rounds st w) :
    st.baseline = (s.baselineOffer w₀).2.metric := by
  induction h with
  | start h => exact (measureBaseline_fitness h).2
  | next _ h ih => exact (step_baseline h).trans ih

theorem Traces.progress (h : s.Traces sink st₀ w₀ rounds st w) : Progress s.capacity rounds st := by
  induction h with
  | start h =>
    refine .waiting (measureBaseline_fitness h).1 ?_
    rw [(measureBaseline_state h).2.1]
    rfl
  | next ht h ih =>
    exact ih.advance rfl (step_baseline h) (step_advances ht.buffering.toWaiting h)

theorem countP_beats_of_reported {offers : List (ω × StepRecord)} (bound : Float)
    (h : List.Forall₂ Round.Reported rounds offers) :
    offers.countP (fun o => o.2.outcome = .success ∧ o.2.metric < bound) =
      rounds.countP (Round.beats bound) := by
  induction h with
  | nil => rfl
  | @cons r o rounds offers hr _ ih =>
    have hbeats : decide (o.2.outcome = .success ∧ o.2.metric < bound) = r.beats bound := by
      rw [Round.beats, Verdict.isSuccess, ← hr.outcome, Bool.decide_and]
      by_cases hs : o.2.outcome = .success
      · rw [hr.metric hs]
      · rw [decide_eq_false hs, Bool.false_and, Bool.false_and]
    rw [List.countP_cons, List.countP_cons, ih, hbeats]

/-- The improvement in the summary is greater than zero exactly if as many reported steps as a commit
takes were successes below the baseline. Fewer of them are lost, since what still waits after the last
step is not adopted. -/
theorem improvement_pos_iff (s : KBestSearch ω) (sink : Sink ω) (st₀ : State) (w₀ : ω) :
    ∃ m st w offers, (s.run sink st₀).run w₀ = ((m, st), w) ∧
      Settles sink (fun _ k => s.beside.run k st₀) w₀ (m, st) w (s.baselineOffer w₀ :: offers) ∧
      offers.map (fun o => o.2.step) = List.range' 1 s.config.steps ∧
      m.baseline = (s.baselineOffer w₀).2.metric ∧
      (0 < m.improvement ↔ max 1 s.config.k ≤
        offers.countP fun o => o.2.outcome = .success ∧ o.2.metric < m.baseline) := by
  obtain ⟨st, w, rounds, offers, hrun, hsettles, htraces, hreported, hnumbers⟩ :=
    s.run_reports sink st₀ w₀
  refine ⟨s.summary st, st, w, offers, hrun, hsettles, hnumbers, htraces.baseline, ?_⟩
  have hfew : st.buffer.length < s.capacity := htraces.buffering.few
  rw [countP_beats_of_reported _ hreported]
  calc 0 < (s.summary st).improvement
    _ ↔ st.fitness < st.baseline := Summary.beats_iff _ _ _ _ _ _ _
    _ ↔ max 1 s.config.k ≤ rounds.countP (Round.beats st.baseline) :=
      htraces.progress.improved_iff hfew

/-- A search that waits for two better candidates but makes one step only: the step is reported as a
success below the baseline, and the summary has no improvement. -/
theorem improvement_zero_of_waiting :
    let run : List Statement := [.simple "a();", .block "while (c)" [.simple "b();"]]
    let base := { SourceTree.ofItems [.block "class K" [.block "void run()" run]] with target := some 2 }
    let verdict (source : String) : Verdict :=
      .ofTests [.pass "t" ⟨if source = base.render then 5 else 3, 0, 0, 0⟩]
    let e : Evaluator (List StepRecord) :=
      ⟨.ofAnswers verdict, ⟨"K", "run", [], base⟩, .executionTime⟩
    let s : KBestSearch (List StepRecord) := ⟨e, { SearchConfig.standard with
      steps := 1, k := 2, repeats := 1, editKinds := [.delete], seed := 1 }⟩
    let sink : Sink (List StepRecord) := fun r => do
      modify fun records => records ++ [r]
      return true
    ∃ m st records, (s.run sink s.fresh).run [] = ((m, st), records) ∧
      (∃ r ∈ records, r.step = 0 ∧ r.outcome = .success) ∧
      (∃ r ∈ records, r.step = 1 ∧ r.outcome = .success ∧ r.metric < m.baseline) ∧
      ¬0 < m.improvement := by
  intro run base verdict e s sink
  have hran : ∀ x, (s.run sink s.fresh).run [] = x →
      (∃ r ∈ x.2, r.step = 0 ∧ r.outcome = .success) ∧
      (∃ r ∈ x.2, r.step = 1 ∧ r.outcome = .success ∧ r.metric < x.1.1.baseline) ∧
      ¬0 < x.1.1.improvement := by
    rintro _ rfl
    decide +kernel
  obtain ⟨⟨⟨m, st⟩, records⟩, h⟩ : ∃ x, (s.run sink s.fresh).run [] = x := ⟨_, rfl⟩
  exact ⟨m, st, records, h, hran _ h⟩

end KBestSearch

end PatchSearch
