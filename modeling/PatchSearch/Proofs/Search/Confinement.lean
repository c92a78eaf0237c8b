import PatchSearch.Proofs.Search.Genetic
import PatchSearch.Proofs.Search.KBest
import PatchSearch.Proofs.Search.Local

namespace PatchSearch

variable {base : SourceTree} {m : Nat}

/-- Every patch that a search evaluates, with any settings, generator, harness, sink and world, leaves
everything but the inside of the target method as it is in the base. -/
theorem evaluated_outside (hr : base.Reachable) (hm : base.target = some m) {ω : Type}
    (sink : Sink ω) (w : ω) :
    (∀ (s : LocalSearch ω) st p t, s.evaluator.base = base → s.Evaluates sink st w p →
      p.apply base = .ok t → t.outside m = base.outside m) ∧
    (∀ (s : KBestSearch ω) st p t, s.evaluator.base = base → s.Evaluates sink st w p →
      p.apply base = .ok t → t.outside m = base.outside m) ∧
    (∀ (s : GeneticSearch ω) st p t, s.evaluator.base = base → s.Evaluates sink st w p →
      p.apply base = .ok t → t.outside m = base.outside m) := by
  refine ⟨?_, ?_, ?_⟩
  · rintro s st p t rfl he ht
    exact hr.outside_apply hm (he.within (hr.encloses hm)) ht
  · rintro s st p t rfl he ht
    exact hr.outside_apply hm (he.within (hr.encloses hm)) ht
  · rintro s st p t rfl he ht
    exact hr.outside_apply hm (he.within (hr.encloses hm)) ht

/-- Each search over a type with a field and a method evaluates a patch that changes the method and
nothing else. -/
theorem evaluated_outside_each :
    let run : List Statement := [.simple "a();", .block "while (c)" [.simple "b();"]]
    let new := SourceTree.ofItems [.block "class K" [.simple "int x;", .block "void run()" run]]
    let base := { new with target := some 3 }
    let e : Evaluator Unit := ⟨fun _ _ _ => pure (.error (.ofText "")), ⟨"K", "run", [], base⟩,
      .executionTime⟩
    let g : Generator Unit := ⟨fun _ => pure (.ok "```\nf();\n```"), ""⟩
    let sink : Sink Unit := fun _ => pure true
    (∃ s : LocalSearch Unit, s.evaluator = e ∧ s.generator = g ∧ ∃ p t,
      s.Evaluates sink s.fresh () p ∧ p.apply base = .ok t ∧ t ≠ base ∧
        t.outside 3 = base.outside 3) ∧
    (∃ s : KBestSearch Unit, s.evaluator = e ∧ ∃ p t, s.Evaluates sink s.fresh () p ∧
      p.apply base = .ok t ∧ t ≠ base ∧ t.outside 3 = base.outside 3) ∧
    (∃ s : GeneticSearch Unit, s.evaluator = e ∧ ∃ p t, s.Evaluates sink s.fresh () p ∧
      p.apply base = .ok t ∧ t ≠ base ∧ t.outside 3 = base.outside 3) := by
  intro run new base e g sink
  have hf : new.focus "run" = .ok base := by decide +kernel
  have hr : base.Reachable := .focus (.ofItems _) hf
  obtain ⟨hlocal, hkbest, hgenetic⟩ := evaluated_outside hr rfl sink ()
  refine ⟨?_, ?_, ?_⟩
  · let s : LocalSearch Unit := ⟨e, g, ⟨""⟩, ⟨""⟩, .standard⟩
    let st := ((s.measureBaseline sink s.fresh).run ()).1
    have he : s.Evaluates sink s.fresh () (s.candidate st ()) :=
      .candidate (.start rfl) (by decide)
    have ht : (s.candidate st ()).apply base = .ok (Mutator.current (s.candidate st ()) base) := by
      decide +kernel
    exact ⟨s, rfl, rfl, _, _, he, ht, by decide +kernel, hlocal s _ _ _ rfl he ht⟩
  · let s : KBestSearch Unit := ⟨e, { SearchConfig.standard with seed := 7 }⟩
    let st := ((s.measureBaseline sink s.fresh).run ()).1
    have he : s.Evaluates sink s.fresh () (s.candidate st) := .candidate (.start rfl) (by decide)
    have ht : (s.candidate st).apply base = .ok (Mutator.current (s.candidate st) base) := by
      decide +kernel
    exact ⟨s, rfl, _, _, he, ht, by decide +kernel, hkbest s _ _ _ rfl he ht⟩
  · let s : GeneticSearch Unit := ⟨e, .standard⟩
    let p : Patch := ⟨[.structural (.delete 6)]⟩
    let st := ((s.measureBaseline sink s.fresh).run ()).1
    have hp : p ∈ (s.firstPopulation st).1 := by decide +kernel
    have he : s.Evaluates sink s.fresh () p := .member (.start rfl rfl) (by decide) hp
    have ht : p.apply base = .ok (Mutator.current p base) := by decide +kernel
    exact ⟨s, rfl, p, _, he, ht, by decide +kernel, hgenetic s _ p _ rfl he ht⟩

end PatchSearch
