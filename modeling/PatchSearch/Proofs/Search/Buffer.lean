import Mathlib.Data.List.Induction
import PatchSearch.Proofs.Double
import PatchSearch.Proofs.Evaluation.Calls
import PatchSearch.Proofs.Search.KBest

namespace PatchSearch.KBestSearch

variable {ω : Type}

/-- The evaluation of a candidate by several samples. -/
structure Round (ω : Type) where
  patch : Patch
  /-- The world in which the samples were begun. -/
  world : ω
  sampled : Sampled
  /-- Whether the last sample was a success and the mean less than the best fitness. -/
  buffered : Bool

/-- The round of a step that starts in a state and a world. -/
def round (s : KBestSearch ω) (st : State) (w : ω) : Round ω :=
  let sampled := ((s.evaluator.evaluateRepeatedly (s.candidate st) s.config.repeats).run w).1
  ⟨s.candidate st, w, sampled, sampled.verdict.isSuccess && sampled.mean < st.fitness⟩

/-- The rounds of a run after the baseline, with the state and the world after the last one. The steps
may have any numbers. -/
inductive Traces (s : KBestSearch ω) (sink : Sink ω) (st₀ : State) (w₀ : ω) :
    List (Round ω) → State → ω → Prop
  | start {st w} : (s.measureBaseline sink st₀).run w₀ = (st, w) → Traces s sink st₀ w₀ [] st w
  | next {rounds st w number r st' w'} : Traces s sink st₀ w₀ rounds st w →
      (s.step sink number st).run w = ((r, st'), w') →
      Traces s sink st₀ w₀ (rounds ++ [s.round st w]) st' w'

variable {s : KBestSearch ω} {sink : Sink ω} {st st' st₀ : State} {w w' w₀ : ω}
  {rounds : List (Round ω)}

theorem Reaches.traces {n : Nat} (h : s.Reaches sink st₀ w₀ n st w) :
    ∃ rounds, s.Traces sink st₀ w₀ rounds st w ∧ rounds.length = n := by
  induction h with
  | start h => exact ⟨[], .start h, rfl⟩
  | next _ _ h ih =>
    obtain ⟨rounds, ht, hn⟩ := ih
    refine ⟨_, .next ht h, ?_⟩
    rw [List.length_append, hn]
    rfl

/-- An entry stands in a list before which all values are greater and after which none is less. -/
def FirstLeast (entry : Patch × Float) (entries : List (Patch × Float)) : Prop :=
  ∃ before after, entries = before ++ entry :: after ∧ (∀ x ∈ before, entry.2 < x.2) ∧
    ∀ x ∈ after, entry.2 ≤ x.2

theorem FirstLeast.mem {entry : Patch × Float} {entries : List (Patch × Float)}
    (h : FirstLeast entry entries) : entry ∈ entries := by
  obtain ⟨before, after, he, _, _⟩ := h
  rw [he]
  exact List.mem_append_right _ List.mem_cons_self

/-- Among entries that are all less than a given one the first of the least is chosen, if there are
any. -/
theorem best_cases (first : Patch × Float) {others : List (Patch × Float)}
    (h : ∀ x ∈ others, x.2 < first.2) :
    (others = [] ∧ best first others = first) ∨
      ((best first others).2 < first.2 ∧ FirstLeast (best first others) others) := by
  induction others using List.reverseRecOn with
  | nil => exact Or.inl ⟨rfl, rfl⟩
  | append_singleton init x ih =>
    have hx : x.2 < first.2 := h x (List.mem_append_right _ (List.mem_singleton_self x))
    have hbest : best first (init ++ [x]) =
        if x.2 < (best first init).2 then x else best first init := by
      rw [best, List.foldl_append]
      rfl
    rw [hbest]
    rcases ih fun y hy => h y (List.mem_append_left _ hy) with
      ⟨rfl, hb⟩ | ⟨hlt, before, after, he, hbefore, hafter⟩
    · rw [hb, if_pos hx]
      exact Or.inr ⟨hx, [], [], rfl, by simp, by simp⟩
    · by_cases hxb : x.2 < (best first init).2
      · rw [if_pos hxb]
        refine Or.inr ⟨hx, init, [], rfl, fun y hy => ?_, by simp⟩
        rw [he] at hy
        rcases List.mem_append.mp hy with hy | hy
        · exact Double.lt_trans hxb (hbefore y hy)
        · rcases List.mem_cons.mp hy with rfl | hy
          · exact hxb
          · exact Double.lt_of_lt_of_le hxb (hafter y hy)
      · rw [if_neg hxb]
        have hsplit : init ++ [x] = before ++ best first init :: (after ++ [x]) := by
          rw [← List.cons_append, ← List.append_assoc, ← he]
        refine Or.inr ⟨hlt, before, after ++ [x], hsplit, hbefore, fun y hy => ?_⟩
        rcases List.mem_append.mp hy with hy | hy
        · exact hafter y hy
        · rw [List.mem_singleton.mp hy]
          exact Double.le_of_not_lt (Double.lt_iff.mp hlt).1 (Double.lt_iff.mp hx).1 hxb

/-- A commit empties the buffer. If there was something in it, its first least entry is adopted and
counted. -/
theorem State.commit_cases (st : State) (h : ∀ x ∈ st.buffer, x.2 < st.fitness) :
    (st.buffer = [] ∧ commit st = st) ∨
      ((commit st).buffer = [] ∧ (commit st).accepted = st.accepted + 1 ∧
        (commit st).fitness < st.fitness ∧
        FirstLeast ((commit st).incumbent, (commit st).fitness) st.buffer) := by
  unfold commit
  rcases best_cases (st.incumbent, st.fitness) h with ⟨he, hb⟩ | ⟨hlt, hf⟩
  · refine Or.inl ⟨he, ?_⟩
    dsimp only
    rw [hb, if_neg (Double.lt_irrefl _), ← he]
  · refine Or.inr ⟨rfl, ?_, hlt, hf⟩
    dsimp only
    rw [if_pos hlt]

/-- How many better candidates a commit takes. -/
def capacity (s : KBestSearch ω) : Nat :=
  max 1 s.config.k

/-- What a round makes of a state when a commit takes `k` better candidates. -/
inductive Advances (k : Nat) (r : Round ω) (st st' : State) : Prop
  /-- A candidate that is not better changes nothing. -/
  | pass : r.buffered = false → st'.buffer = st.buffer → st'.incumbent = st.incumbent →
      st'.fitness = st.fitness → st'.accepted = st.accepted → Advances k r st st'
  /-- A better candidate waits for others. -/
  | push : r.buffered = true → st.buffer.length + 1 < k →
      st'.buffer = st.buffer ++ [(r.patch, r.sampled.mean)] → st'.incumbent = st.incumbent →
      st'.fitness = st.fitness → st'.accepted = st.accepted → Advances k r st st'
  /-- The last one that was waited for: the first of the best is adopted. -/
  | commit : r.buffered = true → st.buffer.length + 1 = k → st'.buffer = [] →
      FirstLeast (st'.incumbent, st'.fitness) (st.buffer ++ [(r.patch, r.sampled.mean)]) →
      st'.fitness < st.fitness → st'.accepted = st.accepted + 1 → Advances k r st st'

theorem adopt_better {p : Patch} {sampled : Sampled} (hs : sampled.verdict.isSuccess = true)
    (hlt : sampled.mean < st.fitness) :
    (s.adopt p sampled st).2 =
      let pushed := { st with buffer := st.buffer ++ [(p, sampled.mean)] }
      if s.config.k ≤ st.buffer.length + 1 then commit pushed else pushed := by
  have hc : sampled.verdict.outcome = .success ∧ sampled.mean < st.fitness :=
    ⟨of_decide_eq_true hs, hlt⟩
  unfold adopt
  dsimp only
  rw [if_pos hc]
  simp only [List.length_append, List.length_singleton]

theorem adopt_other {p : Patch} {sampled : Sampled}
    (h : ¬(sampled.verdict.isSuccess = true ∧ sampled.mean < st.fitness)) :
    (s.adopt p sampled st).2 = if s.config.k ≤ st.buffer.length then commit st else st := by
  have hc : ¬(sampled.verdict.outcome = .success ∧ sampled.mean < st.fitness) :=
    fun hc => h ⟨decide_eq_true hc.1, hc.2⟩
  unfold adopt
  dsimp only
  rw [if_neg hc]

/-- What the buffer keeps to, whatever was buffered: it is not full, and all of it is better than the
best patch. -/
structure State.Waiting (k : Nat) (st : State) : Prop where
  few : st.buffer.length < k
  better : ∀ entry ∈ st.buffer, entry.2 < st.fitness

theorem adopt_advances_better {r : Round ω} (h : st.Waiting s.capacity) (hb : r.buffered = true)
    (hs : r.sampled.verdict.isSuccess = true) (hlt : r.sampled.mean < st.fitness) :
    Advances s.capacity r st (s.adopt r.patch r.sampled st).2 := by
  have hfew := h.few
  unfold capacity at hfew ⊢
  have hall : ∀ x ∈ st.buffer ++ [(r.patch, r.sampled.mean)], x.2 < st.fitness :=
    List.forall_mem_append.mpr ⟨h.better, List.forall_mem_singleton.mpr hlt⟩
  rw [adopt_better hs hlt]
  dsimp only
  split
  next hk =>
    let pushed : State := { st with buffer := st.buffer ++ [(r.patch, r.sampled.mean)] }
    rcases pushed.commit_cases hall with ⟨he, _⟩ | ⟨hnil, haccepted, hlt, hf⟩
    · simp [pushed] at he
    · exact .commit hb (by omega) hnil hf hlt haccepted
  next hk => exact .push hb (by omega) rfl rfl rfl rfl

theorem adopt_advances_other {r : Round ω} (h : st.Waiting s.capacity) (hb : r.buffered = false)
    (hc : ¬(r.sampled.verdict.isSuccess = true ∧ r.sampled.mean < st.fitness)) :
    Advances s.capacity r st (s.adopt r.patch r.sampled st).2 := by
  have hfew := h.few
  unfold capacity at hfew ⊢
  rw [adopt_other hc]
  split
  next hk =>
    rcases st.commit_cases h.better with ⟨_, he⟩ | ⟨_, _, _, before, after, he, _, _⟩
    · rw [he]
      exact .pass hb rfl rfl rfl rfl
    · have hlength := congrArg List.length he
      simp only [List.length_append, List.length_cons] at hlength
      omega
  next => exact .pass hb rfl rfl rfl rfl

theorem adopt_advances {r : Round ω} (h : st.Waiting s.capacity)
    (hr : r.buffered = (r.sampled.verdict.isSuccess && r.sampled.mean < st.fitness)) :
    Advances s.capacity r st (s.adopt r.patch r.sampled st).2 := by
  by_cases hc : r.sampled.verdict.isSuccess = true ∧ r.sampled.mean < st.fitness
  · have hb : r.buffered = true := by
      rw [hr, hc.1]
      exact decide_eq_true hc.2
    exact adopt_advances_better h hb hc.1 hc.2
  · have hb : r.buffered = false := by
      rw [hr, Bool.eq_false_iff]
      simpa using hc
    exact adopt_advances_other h hb hc

theorem Advances.of_rng {k : Nat} {r : Round ω} {g : Random}
    (h : Advances k r { st with rng := g } st') : Advances k r st st' := by
  cases h with
  | pass hb hbuffer hi hf ha => exact .pass hb hbuffer hi hf ha
  | push hb hk hbuffer hi hf ha => exact .push hb hk hbuffer hi hf ha
  | commit hb hk hnil hfirst hlt ha => exact .commit hb hk hnil hfirst hlt ha

theorem step_advances {number : Nat} {r : StepRecord} (h : st.Waiting s.capacity)
    (hs : (s.step sink number st).run w = ((r, st'), w')) :
    Advances s.capacity (s.round st w) st st' := by
  obtain ⟨sampled, w₁, g, hv, rfl⟩ := step_run hs
  have hround : s.round st w =
      ⟨s.candidate st, w, sampled, sampled.verdict.isSuccess && sampled.mean < st.fitness⟩ := by
    rw [round, hv]
  rw [hround]
  have hw : State.Waiting s.capacity { st with rng := g } := ⟨h.few, h.better⟩
  exact (adopt_advances hw rfl).of_rng

/-- What the buffer, the best patch and the rounds have to do with each other. -/
structure Buffering (k : Nat) (rounds : List (Round ω)) (st : State) : Prop extends
    st.Waiting k where
  /-- Each buffered patch is the best one with at most one edit more. -/
  extends_best : ∀ entry ∈ st.buffer, entry.1.Extends st.incumbent
  /-- A commit takes `k` buffered candidates, and the others wait. -/
  count : rounds.countP Round.buffered = k * st.accepted + st.buffer.length
  size : st.incumbent.size ≤ st.accepted

section Advance

variable {k : Nat} {r : Round ω}

theorem Advances.count (h : Advances k r st st') :
    k * st'.accepted + st'.buffer.length =
      k * st.accepted + st.buffer.length + [r].countP Round.buffered := by
  rw [List.countP_singleton]
  cases h with
  | pass hb hbuffer _ _ ha =>
    rw [hb, hbuffer, ha]
    rfl
  | push hb _ hbuffer _ _ ha =>
    rw [hb, hbuffer, ha, List.length_append]
    rfl
  | commit hb hk hnil _ _ ha =>
    rw [if_pos hb, hnil, ha, Nat.mul_succ, List.length_nil]
    omega

theorem Advances.waiting (h : Advances k r st st') (hw : st.Waiting k)
    (hlt : r.buffered = true → r.sampled.mean < st.fitness) : st'.Waiting k := by
  cases h with
  | pass _ hbuffer _ hf _ => exact ⟨hbuffer ▸ hw.few, hbuffer ▸ hf ▸ hw.better⟩
  | push hb hk hbuffer _ hf _ =>
    have hbetter : ∀ entry ∈ st.buffer ++ [(r.patch, r.sampled.mean)], entry.2 < st.fitness :=
      List.forall_mem_append.mpr ⟨hw.better, List.forall_mem_singleton.mpr (hlt hb)⟩
    rw [← hbuffer, ← hf] at hbetter
    refine ⟨?_, hbetter⟩
    rw [hbuffer, List.length_append]
    exact hk
  | commit _ hk hnil _ _ _ =>
    refine ⟨?_, hnil ▸ List.forall_mem_nil _⟩
    rw [hnil, List.length_nil]
    omega

theorem Advances.extends_best (h : Advances k r st st')
    (hp : ∀ entry ∈ st.buffer ++ [(r.patch, r.sampled.mean)], entry.1.Extends st.incumbent) :
    ∀ entry ∈ st'.buffer, entry.1.Extends st'.incumbent := by
  cases h with
  | pass _ hbuffer hi _ _ =>
    rw [hbuffer, hi]
    exact (List.forall_mem_append.mp hp).1
  | push _ _ hbuffer hi _ _ =>
    rw [hbuffer, hi]
    exact hp
  | commit _ _ hnil _ _ _ => exact hnil ▸ List.forall_mem_nil _

/-- The new best patch of a commit was in the buffer, so it has at most one edit more than the old one. -/
theorem Advances.size_le (h : Advances k r st st')
    (hp : ∀ entry ∈ st.buffer ++ [(r.patch, r.sampled.mean)], entry.1.Extends st.incumbent)
    (hs : st.incumbent.size ≤ st.accepted) : st'.incumbent.size ≤ st'.accepted := by
  cases h with
  | pass _ _ hi _ ha => rwa [hi, ha]
  | push _ _ _ hi _ ha => rwa [hi, ha]
  | commit _ _ _ hfirst _ ha =>
    have hsize : st'.incumbent.size ≤ st.incumbent.size + 1 := (hp _ hfirst.mem).size_le
    rw [ha]
    omega

theorem Buffering.advance (h : Buffering k rounds st) (hr : r.patch.Extends st.incumbent)
    (hlt : r.buffered = true → r.sampled.mean < st.fitness) (ha : Advances k r st st') :
    Buffering k (rounds ++ [r]) st' := by
  have hpatches : ∀ entry ∈ st.buffer ++ [(r.patch, r.sampled.mean)],
      entry.1.Extends st.incumbent :=
    List.forall_mem_append.mpr ⟨h.extends_best, List.forall_mem_singleton.mpr hr⟩
  refine ⟨ha.waiting h.toWaiting hlt, ha.extends_best hpatches, ?_, ha.size_le hpatches h.size⟩
  rw [List.countP_append, h.count, ha.count]

end Advance

theorem Traces.buffering (h : s.Traces sink st₀ w₀ rounds st w) :
    Buffering s.capacity rounds st := by
  induction h with
  | start h =>
    obtain ⟨hi, hb, ha, _⟩ := measureBaseline_state h
    refine ⟨⟨?_, ?_⟩, ?_, ?_, ?_⟩
    · rw [hb, capacity, List.length_nil]
      omega
    · rw [hb]
      exact fun entry he => absurd he List.not_mem_nil
    · rw [hb]
      exact fun entry he => absurd he List.not_mem_nil
    · rw [hb, ha]
      rfl
    · rw [hi, ha]
      rfl
  | @next rounds st w number r st' w' _ h ih =>
    have hlt : (s.round st w).buffered = true → (s.round st w).sampled.mean < st.fitness := by
      intro hb
      exact of_decide_eq_true (Bool.and_eq_true_iff.mp hb).2
    exact ih.advance (s.mutator.mutate_extends _ _ _) hlt (step_advances ih.toWaiting h)

/-- With `k` at least one, after the baseline and after any steps: fewer than `k` candidates wait, each
of them better than the best patch and at most one edit longer; every commit took `k` of those that were
buffered; and there were at least as many commits as the best patch has edits. In the next step a
candidate that is not better changes nothing, and one that is better waits for others or makes the
search adopt the first of the best of `k`. -/
theorem buffer_invariant (hk : 1 ≤ s.config.k) (h : s.Traces sink st₀ w₀ rounds st w) :
    st.buffer.length < s.config.k ∧
      (∀ entry ∈ st.buffer, entry.2 < st.fitness ∧ entry.1.Extends st.incumbent) ∧
      rounds.countP Round.buffered = s.config.k * st.accepted + st.buffer.length ∧
      st.incumbent.size ≤ st.accepted ∧
      ∀ number r st' w', (s.step sink number st).run w = ((r, st'), w') →
        Advances s.config.k (s.round st w) st st' := by
  have hcapacity : s.capacity = s.config.k := Nat.max_eq_right hk
  have hb := h.buffering
  rw [hcapacity] at hb
  refine ⟨hb.few, fun entry he => ⟨hb.better entry he, hb.extends_best entry he⟩, hb.count, hb.size, ?_⟩
  intro number r st' w' hs
  rw [← hcapacity]
  exact step_advances h.buffering.toWaiting hs

/-- A search that waits for two better candidates buffers one, and then another one and adopts the
first of them. -/
theorem buffer_invariant_commit :
    let run : List Statement := [.simple "a();", .block "while (c)" [.simple "b();"]]
    let base := { SourceTree.ofItems [.block "class K" [.block "void run()" run]] with target := some 2 }
    let verdict (source : String) : Verdict :=
      .ofTests [.pass "t" ⟨if source = base.render then 5 else 3, 0, 0, 0⟩]
    let e : Evaluator Unit := ⟨.ofAnswers verdict, ⟨"K", "run", [], base⟩, .executionTime⟩
    let s : KBestSearch Unit := ⟨e, { SearchConfig.standard with
      k := 2, repeats := 1, editKinds := [.delete], seed := 1 }⟩
    let sink : Sink Unit := fun _ => pure true
    ∃ (r : Round Unit) (st st' : State) (w : Unit), s.Traces sink s.fresh () [r] st w ∧
      st.buffer.length = 1 ∧ st'.accepted = 1 ∧
      (∀ entry ∈ st.buffer, entry.2 < st.fitness ∧ entry.1.Extends st.incumbent) ∧
      [r].countP Round.buffered = 2 * st.accepted + st.buffer.length ∧
      st.incumbent.size ≤ st.accepted ∧ Advances 2 (s.round st w) st st' := by
  intro run base verdict e s sink
  let start := ((s.measureBaseline sink s.fresh).run ()).1
  have hone : ∀ x, (s.step sink 1 start).run () = x → x.1.2.buffer.length = 1 ∧
      ∀ y, (s.step sink 2 x.1.2).run x.2 = y → y.1.2.accepted = 1 := by
    rintro _ rfl
    refine ⟨by decide +kernel, ?_⟩
    rintro _ rfl
    decide +kernel
  obtain ⟨⟨⟨r₁, st₁⟩, w₁⟩, h₁⟩ : ∃ x, (s.step sink 1 start).run () = x := ⟨_, rfl⟩
  obtain ⟨⟨⟨r₂, st₂⟩, w₂⟩, h₂⟩ : ∃ x, (s.step sink 2 st₁).run w₁ = x := ⟨_, rfl⟩
  obtain ⟨hlength, htwo⟩ := hone _ h₁
  have ht : s.Traces sink s.fresh () [s.round start ()] st₁ w₁ := .next (.start rfl) h₁
  obtain ⟨_, hbuffer, hcount, hsize, hadvances⟩ := buffer_invariant (by decide) ht
  exact ⟨_, _, _, _, ht, hlength, htwo _ h₂, hbuffer, hcount, hsize, hadvances 2 _ _ _ h₂⟩

end PatchSearch.KBestSearch
