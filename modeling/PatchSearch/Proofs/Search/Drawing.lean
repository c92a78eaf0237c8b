import PatchSearch.Proofs.Edit.Meaning
import PatchSearch.Proofs.Edit.Omission
import PatchSearch.Proofs.Evaluation.Calls
import PatchSearch.Proofs.Search.KBest

namespace PatchSearch

variable {t : SourceTree}

namespace SourceTree

/-- What is drawn from the target method is a statement of the whole program. -/
theorem mem_statementIds_of_drawn {id : Nat} (h : id ∈ t.statementIds true) :
    id ∈ t.statementIds false := by
  obtain ⟨m, hm, rfl, hrole⟩ := exists_part_of_drawn h
  obtain ⟨e, he, hid, he_role⟩ := Node.exists_entry_iff.mpr ⟨m, hm, rfl, hrole⟩
  exact List.mem_map.mpr ⟨e, List.mem_filter.mpr ⟨he, decide_eq_true he_role⟩, hid⟩

end SourceTree

namespace StructuralEdit

variable {e : StructuralEdit}

theorem random_eq_none (h : t.statementIds true = []) (kind : EditKind) (g : Random) :
    (random kind t g).1 = none := by
  have hn : (t.randomId true g).1 = none := Random.choose_eq_none_iff.mpr h
  unfold random
  split
  next => rfl
  next first g' hfirst =>
    rw [hfirst] at hn
    cases hn

/-- Where there are statements an edit of every kind can be drawn. -/
theorem exists_random (h : t.statementIds true ≠ []) (kind : EditKind) (g : Random) :
    ∃ e g', random kind t g = (some e, g') ∧ e.kind = kind := by
  obtain ⟨first, g₁, hfirst, _⟩ := Random.exists_choose h g
  obtain ⟨second, g₂, hsecond, _⟩ := Random.exists_choose h g₁
  have hf : t.randomId true g = (some first, g₁) := hfirst
  have hs : t.randomId true g₁ = (some second, g₂) := hsecond
  unfold random
  rw [hf]
  dsimp only
  rw [hs]
  cases kind with
  | delete => exact ⟨_, _, rfl, rfl⟩
  | copy | replace | swap | move => exact ⟨_, _, rfl, rfl⟩

theorem not_impossible_of_kind (h : e.kind ∈ [EditKind.delete, .copy, .replace]) :
    ¬e.Impossible t := by
  cases e with
  | delete | copy | replace => exact id
  | swap | move => simp [kind] at h

/-- An edit with addresses that can be drawn is one of statements, and fails only if it is impossible. -/
theorem live_of_drawn (hv : t.Valid) (h : ∀ id ∈ e.addresses.map Prod.snd, id ∈ t.statementIds true) :
    (∀ id ∈ e.addresses.map Prod.snd, ∃ n, t.statement id = .ok n) ∧
      ((∃ f, e.apply t = .error f) ↔ e.Impossible t) := by
  have hstatements : ∀ id ∈ e.addresses.map Prod.snd, ∃ n, t.statement id = .ok n := by
    intro id hid
    obtain ⟨n, _, hn⟩ := hv.exists_statement (SourceTree.mem_statementIds_of_drawn (h id hid))
    exact ⟨n, hn⟩
  refine ⟨hstatements, ?_⟩
  rcases e.apply_cases hv hstatements with ⟨hi, hf⟩ | ⟨hi, u, hu, _⟩
  · exact iff_of_true hf hi
  · exact iff_of_false (by simp [hu]) hi

end StructuralEdit

namespace Mutator

variable {m : Mutator} {base : SourceTree}

theorem ofKinds_ne_nil (kinds : List EditKind) : (ofKinds kinds).kinds ≠ [] := by
  unfold ofKinds
  cases kinds with
  | nil => decide
  | cons => exact List.cons_ne_nil _ _

theorem randomEdit_eq_none (h : t.statementIds true = []) (m : Mutator) (g : Random) :
    (m.randomEdit t g).1 = none := by
  unfold randomEdit
  split
  next => rfl
  next kind g' _ =>
    exact congrArg (Option.map Edit.structural) (StructuralEdit.random_eq_none h kind g')

theorem exists_randomEdit (hm : m.kinds ≠ []) (h : t.statementIds true ≠ []) (g : Random) :
    ∃ e g', m.randomEdit t g = (some (.structural e), g') ∧ e.kind ∈ m.kinds := by
  obtain ⟨kind, g₁, hkind, hmem⟩ := Random.exists_choose hm g
  obtain ⟨e, g₂, he, rfl⟩ := StructuralEdit.exists_random h kind g₁
  refine ⟨e, g₂, ?_, hmem⟩
  unfold randomEdit
  rw [hkind]
  dsimp only
  rw [he]
  rfl

/-- Without statements in the target method a mutation adds nothing. -/
theorem mutate_of_empty {p : Patch} (h : (current p base).statementIds true = []) (m : Mutator)
    (g : Random) : (m.mutate p base g).1 = p := by
  have hn := randomEdit_eq_none h m g
  unfold mutate
  split
  next he =>
    rw [he] at hn
    cases hn
  next => rfl

/-- Otherwise it adds one edit with addresses of statements there. -/
theorem exists_mutate {p : Patch} (hm : m.kinds ≠ []) (h : (current p base).statementIds true ≠ [])
    (g : Random) : ∃ e : StructuralEdit, (m.mutate p base g).1 = p.add (.structural e) ∧
      e.kind ∈ m.kinds ∧
      ∀ id ∈ e.addresses.map Prod.snd, id ∈ (current p base).statementIds true := by
  obtain ⟨e, g', he, hkind⟩ := exists_randomEdit hm h g
  refine ⟨e, ?_, hkind, ids_randomEdit he⟩
  unfold mutate
  rw [he]

theorem reachable_current (h : base.Reachable) (p : Patch) : (current p base).Reachable := by
  unfold current
  split
  next hu => exact .apply h hu
  next => exact h

/-- A mutation by deletions, copies and replacements of a patch that applies gives one that applies. -/
theorem mutate_applies (hr : base.Reachable) (hm : m.kinds ≠ [])
    (hkinds : m.kinds ⊆ [EditKind.delete, .copy, .replace]) {p : Patch} {u : SourceTree}
    (hu : p.apply base = .ok u) (g : Random) : ∃ u', (m.mutate p base g).1.apply base = .ok u' := by
  have hcurrent : current p base = u := by rw [current, hu]
  by_cases h : (current p base).statementIds true = []
  · rw [mutate_of_empty h]
    exact ⟨u, hu⟩
  · obtain ⟨e, hp, hkind, hids⟩ := exists_mutate hm h g
    obtain ⟨hstatements, hfails⟩ :=
      StructuralEdit.live_of_drawn (reachable_current hr p).valid hids
    rw [hcurrent] at hfails
    have hok : ∃ u', e.apply u = .ok u' := by
      cases he : e.apply u with
      | ok u' => exact ⟨u', rfl⟩
      | error f =>
        exact absurd (hfails.mp ⟨f, he⟩) (StructuralEdit.not_impossible_of_kind (hkinds hkind))
    obtain ⟨u', hu'⟩ := hok
    refine ⟨u', ?_⟩
    rw [hp, Patch.apply_add hu]
    exact hu'

end Mutator

namespace KBestSearch

variable {ω : Type} {s : KBestSearch ω} {sink : Sink ω} {st st₀ : State} {w w₀ : ω}

theorem mutator_kinds (h : s.config.editKinds ≠ []) : s.mutator.kinds = s.config.editKinds :=
  if_neg (by simpa using h)

variable (hr : s.evaluator.base.Reachable) (hkinds : s.config.editKinds ≠ [])
  (hlive : s.config.editKinds ⊆ [.delete, .copy, .replace])

include hr hkinds hlive

theorem candidate_applies {u : SourceTree} (h : st.incumbent.apply s.evaluator.base = .ok u) :
    ∃ u', (s.candidate st).apply s.evaluator.base = .ok u' := by
  have hm := mutator_kinds hkinds
  exact Mutator.mutate_applies hr (hm ▸ hkinds) (hm ▸ hlive) h _

/-- Between the steps of a run that draws deletions, copies and replacements only, all patches that are
held apply. -/
theorem Reaches.applies {n : Nat} (h : s.Reaches sink st₀ w₀ n st w) :
    ∀ p ∈ st.patches, ∃ u, p.apply s.evaluator.base = .ok u := by
  induction h with
  | start h =>
    obtain ⟨hi, hb, _, _⟩ := measureBaseline_state h
    intro p hp
    obtain rfl : p = .empty := by simpa [State.patches, hi, hb] using hp
    exact ⟨_, Patch.apply_empty _⟩
  | @next n st w _ _ _ _ _ h ih =>
    obtain ⟨sampled, w₁, g, _, rfl⟩ := step_run h
    obtain ⟨u, hu⟩ := ih st.incumbent List.mem_cons_self
    intro p hp
    rcases List.mem_cons.mp (adopt_patches _ _ _ hp) with rfl | hp
    · exact candidate_applies hr hkinds hlive hu
    · exact ih p hp

end KBestSearch

namespace SourceTree

/-- Over a reachable base a mutation of any patch adds nothing if the target method has no statements in
the program that the patch makes, and otherwise one edit: of one of the kinds to draw, with addresses of
statements of the target method there, all of which are statements, and failing only if it is impossible.
So no k-best search that draws deletions, copies and replacements only comes to a candidate that does not
apply. -/
theorem Reachable.drawn_edit {base : SourceTree} (hr : base.Reachable) :
    (∀ (kinds : List EditKind) (p : Patch) (g : Random),
      let m := Mutator.ofKinds kinds
      let t := Mutator.current p base
      if t.statementIds true = [] then (m.mutate p base g).1 = p
      else ∃ e : StructuralEdit, (m.mutate p base g).1 = p.add (.structural e) ∧ e.kind ∈ m.kinds ∧
        (∀ id ∈ e.addresses.map Prod.snd, id ∈ t.statementIds true ∧ ∃ n, t.statement id = .ok n) ∧
        ((∃ f, e.apply t = .error f) ↔ e.Impossible t)) ∧
    ∀ {ω : Type} (s : KBestSearch ω) (sink : Sink ω) (st₀ : KBestSearch.State) (w₀ : ω) (n : Nat)
      (st : KBestSearch.State) (w : ω),
      s.evaluator.base = base → s.config.editKinds ≠ [] →
      s.config.editKinds ⊆ [.delete, .copy, .replace] → s.Reaches sink st₀ w₀ n st w →
      ∃ t, (s.candidate st).apply base = .ok t := by
  refine ⟨fun kinds p g => ?_, ?_⟩
  · intro m t
    split
    next h => exact Mutator.mutate_of_empty h m g
    next h =>
      obtain ⟨e, hp, hkind, hids⟩ := Mutator.exists_mutate (Mutator.ofKinds_ne_nil kinds) h g
      obtain ⟨hstatements, hfails⟩ :=
        StructuralEdit.live_of_drawn (Mutator.reachable_current hr p).valid hids
      exact ⟨e, hp, hkind, fun id hid => ⟨hids id hid, hstatements id hid⟩, hfails⟩
  · rintro ω s sink st₀ w₀ n st w rfl hkinds hlive h
    obtain ⟨u, hu⟩ := h.applies hr hkinds hlive st.incumbent List.mem_cons_self
    exact KBestSearch.candidate_applies hr hkinds hlive hu

/-- A swap is drawn of a loop with a line in it, at an address that they have since an earlier edit; once
the method is empty nothing is drawn; and after a search adopted a copy, its next candidate applies. -/
theorem drawn_edit_nested :
    let run : List Statement := [.simple "a();", .block "while (c)" [.simple "b();"]]
    let new := ofItems [.block "class K" [.block "void run()" run]]
    let base := { new with target := some 2 }
    let m := Mutator.ofKinds [.swap]
    let copied : Patch := ⟨[.structural (.copy 5 3)]⟩
    let emptied : Patch := ⟨[.structural (.delete 3), .structural (.delete 4)]⟩
    let verdict (source : String) : Verdict :=
      .ofTests [.pass "t" ⟨if source = base.render then 5 else 3, 0, 0, 0⟩]
    let e : Evaluator Unit := ⟨.ofAnswers verdict, ⟨"K", "run", [], base⟩, .executionTime⟩
    let s : KBestSearch Unit := ⟨e, { SearchConfig.standard with
      k := 1, repeats := 1, editKinds := [.copy, .replace], seed := 1 }⟩
    let sink : Sink Unit := fun _ => pure true
    base.Reachable ∧
      (∃ e : StructuralEdit, (m.mutate copied base (.ofSeed 2)).1 = copied.add (.structural e) ∧
        ∃ f, e.apply (Mutator.current copied base) = .error f) ∧
      (m.mutate emptied base (.ofSeed 2)).1 = emptied ∧
      ∃ st w, s.Reaches sink s.fresh () 1 st w ∧ st.accepted = 1 ∧
        ∃ t, (s.candidate st).apply base = .ok t := by
  intro run new base m copied emptied verdict e s sink
  have hf : new.focus "run" = .ok base := by decide +kernel
  have hr : base.Reachable := .focus (.ofItems _) hf
  obtain ⟨hdrawn, hkbest⟩ := hr.drawn_edit
  refine ⟨hr, ?_, ?_, ?_⟩
  · have h := hdrawn [.swap] copied (.ofSeed 2)
    have hsome : (Mutator.current copied base).statementIds true ≠ [] := by decide +kernel
    have hswap : (m.mutate copied base (.ofSeed 2)).1 = copied.add (.structural (.swap 5 4)) := by
      decide +kernel
    rw [if_neg hsome] at h
    obtain ⟨e, hp, _, _, hfails⟩ := h
    have he : .swap 5 4 = e := by
      have hedits := congrArg Patch.edits (hswap.symm.trans hp)
      simpa [Patch.add] using hedits
    have hnested : e.Impossible (Mutator.current copied base) := by
      rw [← he]
      exact ⟨by decide, Or.inr (by decide +kernel)⟩
    exact ⟨e, hp, hfails.mpr hnested⟩
  · have h := hdrawn [.swap] emptied (.ofSeed 2)
    have hnone : (Mutator.current emptied base).statementIds true = [] := by decide +kernel
    rwa [if_pos hnone] at h
  · let start := ((s.measureBaseline sink s.fresh).run ()).1
    have hone : ∀ x, (s.step sink 1 start).run () = x → x.1.2.accepted = 1 := by
      rintro _ rfl
      decide +kernel
    obtain ⟨⟨⟨r, st⟩, w⟩, hs⟩ : ∃ x, (s.step sink 1 start).run () = x := ⟨_, rfl⟩
    have hreaches : s.Reaches sink s.fresh () 1 st w := .next (.start rfl) (by decide) hs
    exact ⟨st, w, hreaches, hone _ hs,
      hkbest s sink s.fresh () 1 st w rfl (by decide) (by decide) hreaches⟩

end SourceTree

end PatchSearch
