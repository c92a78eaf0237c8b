import PatchSearch.Proofs.Evaluation.Calls

namespace PatchSearch.Evaluator

variable {ω : Type}

/-- The verdicts of evaluations of a patch in a row. -/
def verdicts (e : Evaluator ω) (p : Patch) : (n : Nat) → StateM ω (List Verdict)
  | 0 => return []
  | n + 1 => do
    let v ← e.evaluate p
    let vs ← verdicts e p n
    return v :: vs

/-- The sum of the measured metrics in order, divided by their number; the largest double if there is a
failure among the verdicts. -/
def mean (e : Evaluator ω) (vs : List Verdict) : Float :=
  if vs.all (·.isSuccess) then (vs.map e.measure).foldl (· + ·) 0 / vs.length.toUInt64.toFloat
  else worstFitness

variable {e : Evaluator ω} {p : Patch} {v : Verdict} {vs : List Verdict} {w w' w'' : ω}

theorem verdicts_cons {n : Nat} (h : (e.evaluate p).run w = (v, w'))
    (hrest : (e.verdicts p n).run w' = (vs, w'')) :
    (e.verdicts p (n + 1)).run w = (v :: vs, w'') := by
  rw [verdicts, run_bind_eq h, run_bind_eq hrest]
  rfl

theorem verdicts_singleton (h : (e.evaluate p).run w = (v, w')) :
    (e.verdicts p 1).run w = ([v], w') :=
  verdicts_cons h rfl

theorem mean_of_failure (before : List Verdict) (hv : v.isSuccess = false) :
    e.mean (before ++ [v]) = worstFitness := by
  refine if_neg fun hall => ?_
  have hsuccess := List.all_eq_true.mp hall v (List.mem_append_right _ List.mem_cons_self)
  rw [hv] at hsuccess
  cases hsuccess

theorem mean_of_successes (h : ∀ v ∈ vs, v.isSuccess = true) :
    e.mean vs = (vs.map e.measure).foldl (· + ·) 0 / vs.length.toUInt64.toFloat :=
  if_pos (List.all_eq_true.mpr h)

/-- What sampling does from some samples on: it goes through more evaluations in a row. All but the last
of these are successes, and the last one is too, if there are as many as may be left. -/
theorem sample_verdicts (left taken : Nat) (total : Float) (w : ω) :
    ∃ before last w', (e.verdicts p (before.length + 1)).run w = (before ++ [last], w') ∧
      (∀ v ∈ before, v.isSuccess = true) ∧ before.length ≤ left ∧
      (last.isSuccess = false ∨ before.length = left) ∧
      (e.sample p left taken total).run w =
        (⟨last, if last.isSuccess then ((before ++ [last]).map e.measure).foldl (· + ·) total /
            (taken + before.length + 1).toUInt64.toFloat else worstFitness,
          taken + before.length + 1⟩, w') := by
  induction left generalizing taken total w with
  | zero =>
    obtain ⟨⟨v, w'⟩, hv⟩ : ∃ r, (e.evaluate p).run w = r := ⟨_, rfl⟩
    refine ⟨[], v, w', verdicts_singleton hv, List.forall_mem_nil _, Nat.le_refl 0, Or.inr rfl, ?_⟩
    cases hs : v.isSuccess with
    | false => exact sample_failed hv hs
    | true => exact sample_last hv hs
  | succ left ih =>
    obtain ⟨⟨v, w'⟩, hv⟩ : ∃ r, (e.evaluate p).run w = r := ⟨_, rfl⟩
    cases hs : v.isSuccess with
    | false =>
      refine ⟨[], v, w', verdicts_singleton hv, List.forall_mem_nil _, Nat.zero_le _, Or.inl hs, ?_⟩
      rw [hs]
      exact sample_failed hv hs
    | true =>
      obtain ⟨before, last, w'', hrow, hbefore, hle, hlast, hsample⟩ :=
        ih (taken + 1) (total + e.measure v) w'
      have hcount : taken + 1 + before.length + 1 = taken + (v :: before).length + 1 := by
        rw [List.length_cons]
        omega
      refine ⟨v :: before, last, w'', verdicts_cons hv hrow, ?_, Nat.succ_le_succ hle,
        hlast.imp_right (congrArg Nat.succ), ?_⟩
      · exact List.forall_mem_cons.mpr ⟨hs, hbefore⟩
      · rw [sample_more hv hs, hsample, hcount]
        rfl

/-- The harness is not asked about a patch that does not apply, and its only sample is a failure. -/
theorem evaluateRepeatedly_of_error {f : TreeError} (h : p.apply e.base = .error f) (repeats : Nat)
    (w : ω) : (e.evaluateRepeatedly p repeats).run w = (⟨.invalidPatch, worstFitness, 1⟩, w) := by
  have hv : (e.evaluate p).run w = (.invalidPatch, w) := by
    rw [evaluate, h]
    rfl
  exact sample_failed hv rfl

theorem logs_evaluateRepeatedly_of_error {f : TreeError} (h : p.apply e.base = .error f)
    (repeats : Nat) (w : ω) :
    Logs (e.evaluateRepeatedly p repeats) (e.logged.evaluateRepeatedly p repeats) w [] := by
  intro log
  have hlogged : p.apply e.logged.base = .error f := h
  rw [evaluateRepeatedly_of_error h, evaluateRepeatedly_of_error hlogged, List.append_nil]

/-- A patch is evaluated once or more, up to the first evaluation that is no success, and otherwise as often
as it is to be repeated. The last verdict is what comes out, with the mean of all of them and their
number. The harness is handed the program of the patch once for each of them, or nothing if the patch
does not apply. -/
theorem evaluateRepeatedly_samples (e : Evaluator ω) (p : Patch) (repeats : Nat) (w : ω) :
    ∃ before last w', (e.verdicts p (before.length + 1)).run w = (before ++ [last], w') ∧
      (∀ v ∈ before, v.isSuccess = true) ∧ before.length + 1 ≤ max 1 repeats ∧
      (last.isSuccess = false ∨ before.length + 1 = max 1 repeats) ∧
      (e.evaluateRepeatedly p repeats).run w =
        (⟨last, e.mean (before ++ [last]), before.length + 1⟩, w') ∧
      (∀ t, p.apply e.base = .ok t →
        Logs (e.evaluateRepeatedly p repeats) (e.logged.evaluateRepeatedly p repeats) w
          (List.replicate (before.length + 1) t.render)) ∧
      ∀ f, p.apply e.base = .error f →
        Logs (e.evaluateRepeatedly p repeats) (e.logged.evaluateRepeatedly p repeats) w [] := by
  obtain ⟨before, last, w', hrow, hbefore, hle, hlast, hsample⟩ :=
    sample_verdicts (e := e) (p := p) (max 1 repeats - 1) 0 0 w
  have hrun : (e.evaluateRepeatedly p repeats).run w =
      (⟨last, e.mean (before ++ [last]), before.length + 1⟩, w') := by
    rw [evaluateRepeatedly, hsample, Nat.zero_add]
    cases hs : last.isSuccess with
    | false => rw [mean_of_failure before hs]; rfl
    | true =>
      have hall : ∀ v ∈ before ++ [last], v.isSuccess = true :=
        List.forall_mem_append.mpr ⟨hbefore, List.forall_mem_singleton.mpr hs⟩
      rw [mean_of_successes hall, List.length_append]
      rfl
  refine ⟨before, last, w', hrow, hbefore, by omega, hlast.imp_right (by omega), hrun, ?_, ?_⟩
  · intro t ht
    have hlogs := (logs_evaluateRepeatedly ht repeats w).1
    rwa [hrun] at hlogs
  · exact fun f hf => logs_evaluateRepeatedly_of_error hf repeats w

/-- A test passes twice and fails at the third run: of five samples three are taken. -/
theorem evaluateRepeatedly_samples_flaky :
    let base := SourceTree.ofItems [.block "class K" [.block "void run()" [.simple "a();"]]]
    let report (run : Nat) : TestReport :=
      if run < 2 then .pass "t" { Usage.zero with wallTime := 100 } else .fail "t" "boom" .zero
    let harness : Harness Nat := fun _ _ _ run => (.ok (.ofTests [report run]), run + 1)
    let e : Evaluator Nat := ⟨harness, ⟨"K", "run", ["t"], base⟩, .executionTime⟩
    ∃ (before : List Verdict) (last : Verdict), before.length = 2 ∧ (∀ v ∈ before, v.isSuccess = true) ∧
      (e.evaluateRepeatedly .empty 5).run 0 = (⟨last, worstFitness, 3⟩, 3) ∧
      (e.logged.evaluateRepeatedly .empty 5).run (0, []) =
        (⟨last, worstFitness, 3⟩, (3, List.replicate 3 base.render)) := by
  intro base report harness e
  obtain ⟨before, last, w', _, hbefore, _, hlast, hrun, hcalls, _⟩ :=
    evaluateRepeatedly_samples e .empty 5 0
  have hsamples : ((e.evaluateRepeatedly .empty 5).run 0).1.samples = 3 := by decide +kernel
  have hworld : ((e.evaluateRepeatedly .empty 5).run 0).2 = 3 := by decide +kernel
  rw [hrun] at hsamples hworld
  obtain rfl : w' = 3 := hworld
  have hlength : before.length = 2 := Nat.succ.inj hsamples
  have hfailed : last.isSuccess = false := by
    refine hlast.resolve_right ?_
    rw [hlength]
    decide
  rw [mean_of_failure before hfailed, hlength] at hrun
  have hlogs := hcalls base rfl []
  rw [hrun, hlength] at hlogs
  exact ⟨before, last, hlength, hbefore, hrun, hlogs⟩

end PatchSearch.Evaluator
