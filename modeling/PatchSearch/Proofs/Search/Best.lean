import PatchSearch.Proofs.Search.GeneticTrace
import PatchSearch.Proofs.Search.LocalTrace

namespace PatchSearch

/-- After the baseline and after every evaluation the best patch is the best so far. -/
theorem best_so_far {ω : Type} {e : Evaluator ω} (hn : e.Numeric) (sink : Sink ω) (w₀ : ω) :
    (∀ (s : LocalSearch ω) st₀ trials st w, s.evaluator = e → s.Traces sink st₀ w₀ trials st w →
      BestSoFar e.metric (e.baselineFitness w₀) trials ⟨st.incumbent, st.fitness, st.accepted⟩) ∧
    (¬worstFitness < e.baselineFitness w₀ →
      ∀ (s : GeneticSearch ω) st₀ generation scored pending trials st w, s.evaluator = e →
        s.Traces sink st₀ w₀ generation scored pending trials st w →
        BestSoFar e.metric (e.baselineFitness w₀) trials ⟨st.best, st.bestFitness, st.accepted⟩) := by
  refine ⟨?_, ?_⟩
  · rintro s st₀ trials st w rfl h
    exact h.bestSoFar hn
  · rintro hw s st₀ generation scored pending trials st w rfl h
    exact h.bestSoFar hn hw

/-- Over a method with a line and a loop both searches adopt the first patch, which makes the program
faster. -/
theorem best_so_far_adopted :
    let run : List Statement := [.simple "a();", .block "while (c)" [.simple "b();"]]
    let base := { SourceTree.ofItems [.block "class K" [.block "void run()" run]] with target := some 2 }
    let verdict (source : String) : Verdict :=
      .ofTests [.pass "t" ⟨if source = base.render then 5 else 3, 0, 0, 0⟩]
    let e : Evaluator Unit := ⟨.ofAnswers verdict, ⟨"K", "run", [], base⟩, .executionTime⟩
    let sink : Sink Unit := fun _ => pure true
    e.Numeric ∧ ¬worstFitness < e.baselineFitness () ∧
    (∃ (s : LocalSearch Unit) (trials : List (Trial Unit)) (st : LocalSearch.State) (w : Unit),
      s.evaluator = e ∧ s.Traces sink s.fresh () trials st w ∧ st.accepted = 1 ∧
        BestSoFar .executionTime 5 trials ⟨st.incumbent, st.fitness, st.accepted⟩) ∧
    (∃ (s : GeneticSearch Unit) (scored : List GeneticSearch.Scored) (pending : List Patch)
      (trials : List (Trial Unit)) (st : GeneticSearch.State) (w : Unit),
      s.evaluator = e ∧ s.Traces sink s.fresh () 1 scored pending trials st w ∧ st.accepted = 1 ∧
        BestSoFar .executionTime 5 trials ⟨st.best, st.bestFitness, st.accepted⟩) := by
  intro run base verdict e sink
  have hn : e.Numeric := by
    refine Evaluator.numeric_ofAnswers fun source => ?_
    dsimp only [verdict]
    split
    next => decide +kernel
    next => decide +kernel
  have hw : ¬worstFitness < e.baselineFitness () := by decide +kernel
  obtain ⟨hlocal, hgenetic⟩ := best_so_far hn sink ()
  replace hgenetic := hgenetic hw
  have hbaseline : e.baselineFitness () = 5 := by decide +kernel
  rw [hbaseline] at hlocal hgenetic
  refine ⟨hn, hw, ?_, ?_⟩
  · let s : LocalSearch Unit := ⟨e, ⟨fun _ => pure (.ok "```\nf();\n```"), ""⟩, ⟨""⟩, ⟨""⟩, .standard⟩
    let first := ((s.measureBaseline sink s.fresh).run ()).1
    have ht : s.Traces sink s.fresh () [] first () := .start rfl
    have hadopted : ((s.step sink 1 first).run ()).1.2.accepted = 1 := by decide +kernel
    exact ⟨s, _, _, _, rfl, ht.step 1, hadopted, hlocal s _ _ _ _ rfl (ht.step 1)⟩
  · let s : GeneticSearch Unit :=
      ⟨e, { SearchConfig.standard with populationSize := 4, editKinds := [.delete] }⟩
    let first := ((s.measureBaseline sink s.fresh).run ()).1
    let delete (id : Nat) : Patch := ⟨[.structural (.delete id)]⟩
    have hp : (s.firstPopulation first).1 = [delete 4, delete 5, delete 4, delete 5] := by
      decide +kernel
    have ht : s.Traces sink s.fresh () 1 [] _ [] (s.firstPopulation first).2 () :=
      .start rfl (Prod.ext hp rfl)
    have hadopted :
        ((s.evaluateOne sink 1 (delete 4) (s.firstPopulation first).2).run ()).1.2.accepted = 1 := by
      decide +kernel
    exact ⟨s, _, _, _, _, _, rfl, ht.next, hadopted, hgenetic s _ _ _ _ _ _ _ rfl ht.next⟩

/-- Both lines of a method are needed to compile it, and two tests take more energy than a double can
hold: then a genetic search adopts a patch that does not compile. -/
theorem not_best_so_far_of_overflow :
    let base := { SourceTree.ofItems [.block "class K" [.block "void run()"
      [.simple "a();", .simple "b();"]]] with target := some 2 }
    let usage : Usage := ⟨1, 1, 0, 1e308⟩
    let verdict (source : String) : Verdict :=
      if source = base.render then .ofTests [.pass "t" usage, .pass "u" usage]
      else .compileFailure "cannot find symbol"
    let e : Evaluator Unit := ⟨.ofAnswers verdict, ⟨"K", "run", [], base⟩, .energy⟩
    let sink : Sink Unit := fun _ => pure true
    e.Numeric ∧ ∃ (s : GeneticSearch Unit) (scored : List GeneticSearch.Scored)
      (pending : List Patch) (t : Trial Unit) (st : GeneticSearch.State) (w : Unit),
      s.evaluator = e ∧ s.Traces sink s.fresh () 1 scored pending [t] st w ∧
        t.verdict.isSuccess = false ∧ st.best = t.patch ∧ st.accepted = 1 ∧
        ¬BestSoFar .energy (e.baselineFitness ()) [t] ⟨st.best, st.bestFitness, st.accepted⟩ := by
  intro base usage verdict e sink
  have hn : e.Numeric := by
    refine Evaluator.numeric_ofAnswers fun source => ?_
    dsimp only [verdict]
    split
    next => decide +kernel
    next => decide +kernel
  let s : GeneticSearch Unit := ⟨e, { SearchConfig.standard with
    populationSize := 4, generations := 1, metric := .energy, editKinds := [.delete], seed := 1 }⟩
  let first := ((s.measureBaseline sink s.fresh).run ()).1
  let p : Patch := ⟨[.structural (.delete 4)]⟩
  have hp : (s.firstPopulation first).1 = [p, p, p, p] := by decide +kernel
  have ht : s.Traces sink s.fresh () 1 [] _ [] (s.firstPopulation first).2 () :=
    .start rfl (Prod.ext hp rfl)
  have hworst : worstFitness < (s.firstPopulation first).2.bestFitness := by decide +kernel
  have hfailed : ((e.evaluate p).run ()).1.isSuccess = false := by decide +kernel
  obtain ⟨hbest, _, haccepted⟩ := Standing.mk.inj (s.evaluateOne_failure hworst hfailed)
  refine ⟨hn, s, _, _, _, _, _, rfl, ht.next, hfailed, hbest, haccepted, fun h => ?_⟩
  rcases h.first with ⟨hempty, _⟩ | ⟨before, t, after, he, hmin, _, _⟩
  · exact absurd (hbest.symm.trans hempty) (by decide)
  · have hmem : t ∈ before ++ t :: after := List.mem_append_right _ List.mem_cons_self
    rw [← he, List.mem_singleton] at hmem
    rw [hmem] at hmin
    exact Bool.false_ne_true (hfailed.symm.trans hmin.1)

end PatchSearch
