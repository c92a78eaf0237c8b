import PatchSearch.Evaluation.Evaluator

namespace PatchSearch

/-- A world with a log of sources. -/
abbrev Logged (ω : Type) := ω × List String

variable {ω α β : Type}

/-- A computation beside a log that it leaves alone. -/
def aside (x : StateM ω α) : StateM (Logged ω) α := fun w =>
  let (a, w') := x.run w.1
  (a, (w', w.2))

/-- The harness that writes down what it is handed. -/
def Harness.logged (h : Harness ω) : Harness (Logged ω) := fun className source tests => do
  modify fun w => (w.1, w.2 ++ [source])
  aside (h className source tests)

/-- The harness that answers the same about a program whenever it is asked. -/
def Harness.ofAnswers (verdict : String → Verdict) : Harness ω := fun _ source _ =>
  pure (.ok (verdict source))

/-- In the world `w` the second computation goes like the first one and adds `calls` to the log. -/
def Logs (x : StateM ω α) (y : StateM (Logged ω) α) (w : ω) (calls : List String) : Prop :=
  ∀ log, y.run (w, log) = ((x.run w).1, ((x.run w).2, log ++ calls))

variable {x : StateM ω α} {y : StateM (Logged ω) α} {w : ω} {calls calls' : List String}

theorem run_bind_eq {f : α → StateM ω β} {a : α} {w' : ω} (h : x.run w = (a, w')) :
    (x >>= f).run w = (f a).run w' := by
  rw [StateT.run_bind, h]
  rfl

theorem logs_pure (a : α) : Logs (pure a) (pure a) w [] := by
  intro log
  rw [List.append_nil]
  rfl

theorem logs_aside : Logs x (aside x) w [] := by
  intro log
  rw [List.append_nil]
  rfl

theorem Logs.bind {f : α → StateM ω β} {g : α → StateM (Logged ω) β} (h : Logs x y w calls)
    (h' : Logs (f (x.run w).1) (g (x.run w).1) (x.run w).2 calls') :
    Logs (x >>= f) (y >>= g) w (calls ++ calls') := by
  intro log
  rw [StateT.run_bind, StateT.run_bind, h log, ← List.append_assoc]
  exact h' (log ++ calls)

theorem Logs.bind_silent {f : α → StateM ω β} {g : α → StateM (Logged ω) β} (h : Logs x y w calls)
    (h' : Logs (f (x.run w).1) (g (x.run w).1) (x.run w).2 []) : Logs (x >>= f) (y >>= g) w calls := by
  rw [← List.append_nil calls]
  exact h.bind h'

theorem Logs.silent_bind {f : α → StateM ω β} {g : α → StateM (Logged ω) β} (h : Logs x y w [])
    (h' : Logs (f (x.run w).1) (g (x.run w).1) (x.run w).2 calls) : Logs (x >>= f) (y >>= g) w calls :=
  h.bind h'

namespace Evaluator

def logged (e : Evaluator ω) : Evaluator (Logged ω) :=
  ⟨e.harness.logged, e.target, e.metric⟩

/-- What the harness is handed when a patch is evaluated: its program, if it makes one. -/
def sources (e : Evaluator ω) (p : Patch) : List String :=
  match p.apply e.base with
  | .ok t => [t.render]
  | .error _ => []

variable {e : Evaluator ω} {p : Patch} {t : SourceTree}

theorem sources_of_ok (h : p.apply e.base = .ok t) : e.sources p = [t.render] := by
  simp [sources, h]

theorem logs_harness (className source : String) (tests : List String) :
    Logs (e.harness className source tests) (e.logged.harness className source tests) w [source] := by
  intro log
  rfl

theorem logs_judge (source : String) : Logs (e.judge source) (e.logged.judge source) w [source] := by
  refine (logs_harness _ source _).bind_silent ?_
  split
  next => exact logs_pure _
  next => exact logs_pure _

theorem logs_evaluate (p : Patch) : Logs (e.evaluate p) (e.logged.evaluate p) w (e.sources p) := by
  unfold evaluate sources
  have hbase : e.logged.base = e.base := rfl
  rw [hbase]
  cases p.apply e.base with
  | error => exact logs_pure _
  | ok t => exact logs_judge t.render

/-- Where a verdict on a patch comes from: the patch does not apply, or the harness fails on its
program, or it is what the harness says of the program. -/
theorem evaluate_cases (e : Evaluator ω) (p : Patch) (w : ω) :
    (∃ f, p.apply e.base = .error f ∧ ((e.evaluate p).run w).1 = .invalidPatch) ∨
    ∃ t, p.apply e.base = .ok t ∧
      ((∃ f : Failure, ((e.evaluate p).run w).1 =
          (Verdict.compileFailure f.message).withSource t.render) ∨
        ∃ v, ((e.harness e.target.className t.render e.target.tests).run w).1 = .ok v ∧
          ((e.evaluate p).run w).1 = v.withSource t.render) := by
  unfold evaluate judge
  cases p.apply e.base with
  | error f => exact Or.inl ⟨f, rfl, rfl⟩
  | ok t =>
    refine Or.inr ⟨t, rfl, ?_⟩
    dsimp only
    rw [StateT.run_bind]
    generalize (e.harness e.target.className t.render e.target.tests).run w = r
    obtain ⟨answer, w'⟩ := r
    cases answer with
    | error f => exact Or.inl ⟨f, rfl⟩
    | ok v => exact Or.inr ⟨v, rfl, rfl⟩

/-- A patch on which there is a verdict other than that it is invalid applies. -/
theorem applies_of_outcome (h : ((e.evaluate p).run w).1.outcome ≠ .invalidPatch) :
    ∃ t, p.apply e.base = .ok t := by
  rcases e.evaluate_cases p w with ⟨f, _, hv⟩ | ⟨t, ht, _⟩
  · rw [hv] at h
    exact absurd rfl h
  · exact ⟨t, ht⟩

theorem applies_of_success (h : ((e.evaluate p).run w).1.isSuccess = true) :
    ∃ t, p.apply e.base = .ok t := by
  refine applies_of_outcome (w := w) ?_
  rw [of_decide_eq_true h]
  simp

/-- The harness never calls a patch invalid. -/
def Trusts (e : Evaluator ω) : Prop :=
  ∀ source w v, ((e.harness e.target.className source e.target.tests).run w).1 = .ok v →
    v.validPatch = true

theorem outcome_ne_invalidPatch {v : Verdict} (h : v.validPatch = true) :
    v.outcome ≠ .invalidPatch := by
  unfold Verdict.outcome
  rw [h, Bool.not_true, if_neg Bool.false_ne_true]
  split
  next => simp
  next => split <;> simp

theorem outcome_of_applies (he : e.Trusts) (h : p.apply e.base = .ok t) (w : ω) :
    ((e.evaluate p).run w).1.outcome ≠ .invalidPatch := by
  rcases e.evaluate_cases p w with ⟨f, hf, _⟩ | ⟨u, hu, ⟨f, hv⟩ | ⟨v, hanswer, hv⟩⟩
  · rw [h] at hf
    cases hf
  · rw [hv]
    exact outcome_ne_invalidPatch rfl
  · rw [hv]
    exact outcome_ne_invalidPatch (he u.render w v hanswer)

/-- Whatever passes all tests measures a number. -/
def Numeric (e : Evaluator ω) : Prop :=
  ∀ source w v, ((e.harness e.target.className source e.target.tests).run w).1 = .ok v →
    v.isSuccess = true → (e.measure v).isNaN = false

theorem numeric_evaluate (he : e.Numeric) (hs : ((e.evaluate p).run w).1.isSuccess = true) :
    (e.measure ((e.evaluate p).run w).1).isNaN = false := by
  rcases e.evaluate_cases p w with ⟨f, _, hv⟩ | ⟨t, _, ⟨f, hv⟩ | ⟨v, hanswer, hv⟩⟩
  · rw [hv] at hs
    exact absurd hs Bool.false_ne_true
  · rw [hv] at hs
    exact absurd hs Bool.false_ne_true
  · rw [hv] at hs ⊢
    exact he t.render w v hanswer hs

section Answers

variable {verdict : String → Verdict} {target : Target} {metric : Metric}

theorem trusts_ofAnswers (h : ∀ source, (verdict source).validPatch = true) :
    (⟨.ofAnswers verdict, target, metric⟩ : Evaluator ω).Trusts := by
  intro source w v hv
  rw [← Except.ok.inj hv]
  exact h source

theorem numeric_ofAnswers (h : ∀ source, ((verdict source).measure metric).isNaN = false) :
    (⟨.ofAnswers verdict, target, metric⟩ : Evaluator ω).Numeric := by
  intro source w v hv _
  rw [← Except.ok.inj hv]
  exact h source

end Answers

section Sampling

variable {left taken : Nat} {total : Float} {v : Verdict} {w' : ω}

theorem sample_failed (h : (e.evaluate p).run w = (v, w')) (hv : v.isSuccess = false) :
    (e.sample p left taken total).run w = (⟨v, worstFitness, taken + 1⟩, w') := by
  rw [sample, run_bind_eq h, hv]
  rfl

theorem sample_last (h : (e.evaluate p).run w = (v, w')) (hv : v.isSuccess = true) :
    (e.sample p 0 taken total).run w =
      (⟨v, (total + e.measure v) / (taken + 1).toUInt64.toFloat, taken + 1⟩, w') := by
  rw [sample, run_bind_eq h, hv]
  rfl

theorem sample_more (h : (e.evaluate p).run w = (v, w')) (hv : v.isSuccess = true) :
    (e.sample p (left + 1) taken total).run w =
      (e.sample p left (taken + 1) (total + e.measure v)).run w' := by
  rw [sample, run_bind_eq h, hv]
  rfl

theorem logged_evaluate (h : p.apply e.base = .ok t)
    (hv : (e.evaluate p).run w = (v, w')) (log : List String) :
    (e.logged.evaluate p).run (w, log) = (v, (w', log ++ [t.render])) := by
  have hlogs : Logs (e.evaluate p) (e.logged.evaluate p) w (e.sources p) := logs_evaluate p
  rw [Logs, hv, sources_of_ok h] at hlogs
  exact hlogs log

theorem logs_sample_failed (h : p.apply e.base = .ok t) (hv : (e.evaluate p).run w = (v, w'))
    (hs : v.isSuccess = false) :
    Logs (e.sample p left taken total) (e.logged.sample p left taken total) w [t.render] := by
  intro log
  rw [sample_failed hv hs]
  exact sample_failed (logged_evaluate h hv log) hs

theorem logs_sample_last (h : p.apply e.base = .ok t) (hv : (e.evaluate p).run w = (v, w'))
    (hs : v.isSuccess = true) :
    Logs (e.sample p 0 taken total) (e.logged.sample p 0 taken total) w [t.render] := by
  intro log
  rw [sample_last hv hs]
  exact sample_last (logged_evaluate h hv log) hs

theorem logs_sample_more {n : Nat} (h : p.apply e.base = .ok t)
    (hv : (e.evaluate p).run w = (v, w')) (hs : v.isSuccess = true)
    (hl : Logs (e.sample p left (taken + 1) (total + e.measure v))
      (e.logged.sample p left (taken + 1) (total + e.measure v)) w' (List.replicate n t.render)) :
    Logs (e.sample p (left + 1) taken total) (e.logged.sample p (left + 1) taken total) w
      (List.replicate (n + 1) t.render) := by
  intro log
  have happend : log ++ List.replicate (n + 1) t.render =
      log ++ [t.render] ++ List.replicate n t.render := by
    rw [List.replicate_succ, List.append_assoc]
    rfl
  rw [sample_more hv hs, sample_more (logged_evaluate h hv log) hs, happend]
  exact hl (log ++ [t.render])

end Sampling

theorem sample_verdict (left taken : Nat) (total : Float) (w : ω) :
    ∃ w₁, ((e.evaluate p).run w₁).1 = ((e.sample p left taken total).run w).1.verdict := by
  induction left generalizing taken total w with
  | zero =>
    obtain ⟨⟨v, w'⟩, h⟩ : ∃ r, (e.evaluate p).run w = r := ⟨_, rfl⟩
    refine ⟨w, ?_⟩
    cases hv : v.isSuccess with
    | false => rw [sample_failed h hv, h]
    | true => rw [sample_last h hv, h]
  | succ left ih =>
    obtain ⟨⟨v, w'⟩, h⟩ : ∃ r, (e.evaluate p).run w = r := ⟨_, rfl⟩
    cases hv : v.isSuccess with
    | false => exact ⟨w, by rw [sample_failed h hv, h]⟩
    | true =>
      rw [sample_more h hv]
      exact ih _ _ _

/-- The harness is handed the program of the patch once for each sample, and a success takes all the
samples. -/
theorem logs_sample (h : p.apply e.base = .ok t) (left taken : Nat) (total : Float) (w : ω) :
    ∃ n, ((e.sample p left taken total).run w).1.samples = taken + n ∧
      Logs (e.sample p left taken total) (e.logged.sample p left taken total) w
        (List.replicate n t.render) ∧
      (((e.sample p left taken total).run w).1.verdict.isSuccess = true → n = left + 1) := by
  induction left generalizing taken total w with
  | zero =>
    obtain ⟨⟨v, w'⟩, hv⟩ : ∃ r, (e.evaluate p).run w = r := ⟨_, rfl⟩
    cases hs : v.isSuccess with
    | false => exact ⟨1, by rw [sample_failed hv hs], logs_sample_failed h hv hs, fun _ => rfl⟩
    | true => exact ⟨1, by rw [sample_last hv hs], logs_sample_last h hv hs, fun _ => rfl⟩
  | succ left ih =>
    obtain ⟨⟨v, w'⟩, hv⟩ : ∃ r, (e.evaluate p).run w = r := ⟨_, rfl⟩
    cases hs : v.isSuccess with
    | false =>
      refine ⟨1, by rw [sample_failed hv hs], logs_sample_failed h hv hs, ?_⟩
      rw [sample_failed hv hs, hs]
      exact fun hc => absurd hc Bool.false_ne_true
    | true =>
      obtain ⟨n, hn, hl, hall⟩ := ih (taken + 1) (total + e.measure v) w'
      refine ⟨n + 1, ?_, logs_sample_more h hv hs hl, ?_⟩
      · rw [sample_more hv hs, hn]
        omega
      · rw [sample_more hv hs]
        exact fun hc => congrArg (· + 1) (hall hc)

theorem applies_of_sampled {repeats : Nat}
    (h : ((e.evaluateRepeatedly p repeats).run w).1.verdict.isSuccess = true) :
    ∃ t, p.apply e.base = .ok t := by
  obtain ⟨w₁, hv⟩ := e.sample_verdict (p := p) (max 1 repeats - 1) 0 0 w
  refine applies_of_success (w := w₁) ?_
  rw [hv]
  exact h

theorem logs_evaluateRepeatedly (h : p.apply e.base = .ok t) (repeats : Nat) (w : ω) :
    Logs (e.evaluateRepeatedly p repeats) (e.logged.evaluateRepeatedly p repeats) w
        (List.replicate ((e.evaluateRepeatedly p repeats).run w).1.samples t.render) ∧
      (((e.evaluateRepeatedly p repeats).run w).1.verdict.isSuccess = true →
        ((e.evaluateRepeatedly p repeats).run w).1.samples = max 1 repeats) := by
  obtain ⟨n, hn, hlog, hall⟩ := logs_sample h (max 1 repeats - 1) 0 0 w
  rw [Nat.zero_add] at hn
  refine ⟨?_, fun hs => ?_⟩
  · rw [evaluateRepeatedly, hn]
    exact hlog
  · rw [evaluateRepeatedly, hn, hall hs]
    omega

end Evaluator

end PatchSearch
