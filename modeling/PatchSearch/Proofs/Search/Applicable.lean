import PatchSearch.Proofs.Edit.Rewriting
import PatchSearch.Proofs.Search.LocalTrace

namespace PatchSearch

variable {ω : Type}

/-- The program of a target that was found in a text is reachable. -/
theorem Target.reachable_of_ofSource {source className method : String} {tests : List String}
    {t : Target} (h : ofSource source className method tests = .ok t) : t.tree.Reachable := by
  obtain ⟨u, hu, h⟩ := exists_ok_of_bind h
  obtain ⟨u', hu', h⟩ := exists_ok_of_bind h
  obtain ⟨ss, _, hss⟩ := exists_ok_of_bind (ok_of_mapError hu)
  cases h
  cases hss
  exact .focus (.ofItems ss) (ok_of_mapError hu')

def Sink.logged (sink : Sink ω) : Sink (Logged ω) :=
  fun r => aside (sink r)

theorem Sink.logs_offer (sink : Sink ω) (r : StepRecord) (w : ω) :
    Logs (sink.offer r) (sink.logged.offer r) w [] := by
  intro log
  rw [List.append_nil]
  rfl

def Generator.logged (g : Generator ω) : Generator (Logged ω) :=
  ⟨fun prompt => aside (g.backend prompt), g.project⟩

theorem Generator.logs_generate (g : Generator ω) (t : SourceTree) (rng : Random)
    (template : Template) (known : Tag.Values) (w : ω) :
    Logs (g.generate t rng template known) (g.logged.generate t rng template known) w [] := by
  unfold generate
  split
  next => exact logs_pure _
  next destination rng₁ _ =>
    refine logs_aside.silent_bind ?_
    split
    next => exact logs_pure _
    next => exact logs_pure _

namespace LocalSearch

/-- The same search with a harness that writes down what it is handed. -/
def logged (s : LocalSearch ω) : LocalSearch (Logged ω) :=
  ⟨s.evaluator.logged, s.generator.logged, s.regular, s.afterFailure, s.config⟩

variable {s : LocalSearch ω} {sink : Sink ω} {st st' st₀ : State} {w w' w₀ : ω}

theorem logs_measureBaseline : Logs (s.measureBaseline sink st)
    (s.logged.measureBaseline sink.logged st) w (s.evaluator.sources .empty) := by
  refine (Evaluator.logs_evaluate .empty).bind_silent ?_
  exact (sink.logs_offer _ _).silent_bind (logs_pure _)

theorem logs_neighbour : Logs (s.neighbour st) (s.logged.neighbour st) w [] := by
  have hprompting : s.logged.prompting st = s.prompting st := rfl
  have hconfig : s.logged.config = s.config := rfl
  have hbase : s.logged.evaluator.base = s.evaluator.base := rfl
  unfold neighbour
  rw [hprompting, hconfig, hbase]
  split
  next template known _ =>
    extract_lets best
    split
    next simplify rng _ =>
      split
      next => exact logs_pure _
      next =>
        refine (s.generator.logs_generate _ _ _ _ _).silent_bind ?_
        split
        next => exact logs_pure _
        next => exact logs_pure _

theorem logs_step (s : LocalSearch ω) (sink : Sink ω) (number : Nat) (st : State) (w : ω) :
    Logs (s.step sink number st) (s.logged.step sink.logged number st) w
      (s.evaluator.sources (s.candidate st w)) := by
  refine logs_neighbour.silent_bind ((Evaluator.logs_evaluate _).bind_silent ?_)
  exact (sink.logs_offer _ _).silent_bind (logs_pure _)

section Rewriting

variable (hv : s.evaluator.base.Valid) (hst : st.incumbent.Rewriting s.evaluator.base)

include hv hst

theorem rewriting_candidate (w : ω) : (s.candidate st w).Rewriting s.evaluator.base := by
  rcases s.candidate_cases st w with ⟨i, hp⟩ | hp | ⟨e, rng, rng', template, known, w', hp, hg⟩
  · rw [hp]
    exact hst.eraseAt i
  · rw [hp]
    exact hst
  · rw [hp]
    exact hst.add (Generator.rewrites_generate hst hv hg)

theorem rewriting_step {number : Nat} {r : StepRecord}
    (h : (s.step sink number st).run w = ((r, st'), w')) :
    st'.incumbent.Rewriting s.evaluator.base := by
  obtain ⟨description, g, w₁, v, w₂, _, _, rfl, _, _⟩ := step_run h
  rcases s.conclude_incumbent _ description v _ with hi | hi
  · rw [hi]
    exact hst
  · rw [hi]
    exact rewriting_candidate hv hst w

theorem logs_steps (left number : Nat) (w : ω) : ∃ calls, Logs (s.steps sink left number st)
    (s.logged.steps sink.logged left number st) w calls ∧ calls.length = left := by
  induction left generalizing number st w with
  | zero => exact ⟨[], logs_pure st, rfl⟩
  | succ left ih =>
    obtain ⟨t, ht⟩ := (rewriting_candidate hv hst w).applies hv
    have hstep := s.logs_step sink number st w
    rw [Evaluator.sources_of_ok ht] at hstep
    obtain ⟨⟨⟨r, st'⟩, w'⟩, hs⟩ : ∃ x, (s.step sink number st).run w = x := ⟨_, rfl⟩
    obtain ⟨calls, hcalls, hlength⟩ := ih (rewriting_step hv hst hs) (number + 1) w'
    refine ⟨t.render :: calls, hstep.bind ?_, by rw [List.length_cons, hlength]⟩
    rw [hs]
    exact hcalls

end Rewriting

theorem Traces.rewriting (hv : s.evaluator.base.Valid) {trials : List (Trial ω)}
    (h : s.Traces sink st₀ w₀ trials st w) : st.incumbent.Rewriting s.evaluator.base := by
  induction h with
  | start h =>
    rw [measureBaseline_incumbent h]
    exact .empty
  | next _ h ih => exact rewriting_step hv ih h

/-- Over a reachable base, with a harness that calls no patch invalid: no step finds its patch invalid;
the best patch applies with every edit that is generated next, and without any one of its edits; and in
a whole run the harness is called once more than there are steps. -/
theorem never_invalid (hr : s.evaluator.base.Reachable) (ht : s.evaluator.Trusts) (sink : Sink ω)
    (st₀ : State) (w₀ : ω) :
    (∀ trials st w, s.Traces sink st₀ w₀ trials st w →
      (∀ number r st' w', (s.step sink number st).run w = ((r, st'), w') →
        r.outcome ≠ .invalidPatch) ∧
      (∀ rng template known w e rng' w',
        (s.generator.generate (Mutator.current st.incumbent s.evaluator.base) rng template known).run
          w = ((some e, rng'), w') →
        ∃ t, (st.incumbent.add (.generated e)).apply s.evaluator.base = .ok t) ∧
      ∀ i, ∃ t, (st.incumbent.eraseAt i).apply s.evaluator.base = .ok t) ∧
    ∃ calls, Logs (s.run sink st₀) (s.logged.run sink.logged st₀) w₀ calls ∧
      calls.length = s.config.steps + 1 := by
  have hv := hr.valid
  refine ⟨fun trials st w h => ?_, ?_⟩
  · have hst := h.rewriting hv
    refine ⟨?_, ?_, fun i => (hst.eraseAt i).applies hv⟩
    · intro number r st' w' hs
      rw [(step_moves hs).1]
      obtain ⟨t, happly⟩ := (rewriting_candidate hv hst w).applies hv
      exact Evaluator.outcome_of_applies ht happly _
    · intro rng template known w e rng' w' hg
      exact (hst.add (Generator.rewrites_generate hst hv hg)).applies hv
  · have hstart : s.Traces sink st₀ w₀ [] ((s.measureBaseline sink st₀).run w₀).1
        ((s.measureBaseline sink st₀).run w₀).2 := .start rfl
    obtain ⟨calls, hcalls, hlength⟩ := logs_steps hv (hstart.rewriting hv) s.config.steps 1
      ((s.measureBaseline sink st₀).run w₀).2
    refine ⟨s.evaluator.sources .empty ++ calls,
      logs_measureBaseline.bind (hcalls.bind_silent (logs_pure _)), ?_⟩
    rw [Evaluator.sources_of_ok (Patch.apply_empty _), List.length_append, hlength,
      List.length_singleton, Nat.add_comm]

/-- In a search over a program text whose first step adopts an edit, the patch applies without it, and
in a hundred steps the harness is called a hundred and one times. -/
theorem never_invalid_adopted :
    let source := "class K \x7b void run() \x7b a(); while (c) \x7b b(); \x7d \x7d \x7d"
    let verdict (text : String) : Verdict :=
      .ofTests [.pass "t" ⟨if Text.contains text "f();" then 3 else 5, 0, 0, 0⟩]
    let sink : Sink Unit := fun _ => pure true
    ∃ (target : Target) (s : LocalSearch Unit) (t : Trial Unit) (st : State) (w : Unit),
      Target.ofSource source "K" "run" [] = .ok target ∧
      s.evaluator = ⟨.ofAnswers verdict, target, .executionTime⟩ ∧ s.evaluator.Trusts ∧
      s.Traces sink s.fresh () [t] st w ∧ st.accepted = 1 ∧
      (∀ i, ∃ t, (st.incumbent.eraseAt i).apply target.tree = .ok t) ∧
      ∃ calls, Logs (s.run sink s.fresh) (s.logged.run sink.logged s.fresh) () calls ∧
        calls.length = 101 := by
  intro source verdict sink
  let run : List Statement := [.simple "a();", .block "while (c)" [.simple "b();"]]
  let new := SourceTree.ofItems [.block "class K" [.block "void run()" run]]
  let base := { new with target := some 2 }
  have hp : SourceTree.parse source = .ok new := by decide +kernel
  have hf : new.focus "run" = .ok base := by decide +kernel
  have htarget : Target.ofSource source "K" "run" [] = .ok ⟨"K", "run", [], base⟩ := by
    rw [Target.ofSource, hp]
    change ((new.focus "run").mapError _ >>= _) = _
    rw [hf]
    rfl
  let e : Evaluator Unit := ⟨.ofAnswers verdict, ⟨"K", "run", [], base⟩, .executionTime⟩
  let s : LocalSearch Unit :=
    ⟨e, ⟨fun _ => pure (.ok "```\nf();\n```"), ""⟩, ⟨""⟩, ⟨""⟩, .standard⟩
  have ht : e.Trusts := Evaluator.trusts_ofAnswers fun _ => rfl
  let start := ((s.measureBaseline sink s.fresh).run ()).1
  have haccepted : ∀ x, (s.step sink 1 start).run () = x → x.1.2.accepted = 1 := by
    rintro _ rfl
    decide +kernel
  obtain ⟨⟨⟨r, st⟩, w⟩, hs⟩ : ∃ x, (s.step sink 1 start).run () = x := ⟨_, rfl⟩
  have htrace : s.Traces sink s.fresh () [s.trial start () r] st w := .next (.start rfl) hs
  obtain ⟨hsteps, hcalls⟩ := never_invalid (s := s) (Target.reachable_of_ofSource htarget) ht sink
    s.fresh ()
  exact ⟨_, s, _, st, w, htarget, rfl, ht, htrace, haccepted _ hs, (hsteps _ _ _ htrace).2.2, hcalls⟩

end LocalSearch

end PatchSearch
