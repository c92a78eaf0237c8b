import Mathlib.Data.List.Induction
import PatchSearch.Proofs.Edit.Dangling

namespace PatchSearch

namespace SourceTree

variable {A : Nat → Prop} {F : Statement → Prop} {t t' : SourceTree} {id : Nat}

/-- What changes introduce has new addresses. -/
theorem Changes.nextId_le_of_contains (h : Changes A F t t') (hnew : t'.contains id = true)
    (hold : t.contains id = false) : t.nextId ≤ id := by
  induction h with
  | refl => rw [hnew] at hold; cases hold
  | @tail u u' hu hc ih =>
    cases hid : u.contains id with
    | true => exact ih hid
    | false =>
      rcases contains_iff.mp hnew with rfl | hm
      · rw [contains_iff.mpr (Or.inl rfl)] at hid
        cases hid
      · rcases hc.mem_ids hm with hle | hm
        · exact Nat.le_trans (Changes.nextId_le hu) hle
        · rw [contains_iff.mpr (Or.inr hm)] at hid
          cases hid

end SourceTree

open SourceTree

theorem Edit.changes_of_apply {e : Edit} {t t' : SourceTree} (hv : t.Valid) (h : e.apply t = .ok t') :
    Changes (fun _ => True) (fun _ => True) t t' :=
  e.changes hv Statement.compositional_true (fun _ _ => trivial) (fun _ _ => trivial)
    (fun _ _ => trivial) h

namespace Patch

variable {base t : SourceTree} {marked : List (Edit × Bool)} {id : Nat}

/-- All of the edits that carry marks. -/
def whole (marked : List (Edit × Bool)) : Patch :=
  ⟨marked.map Prod.fst⟩

/-- The edits that are marked to stay. -/
def kept (marked : List (Edit × Bool)) : Patch :=
  ⟨(marked.filter Prod.snd).map Prod.fst⟩

/-- What can stay of a patch are its subsequences. -/
theorem exists_marks_iff {p q : Patch} :
    (∃ marked, whole marked = p ∧ kept marked = q) ↔ q.edits.Sublist p.edits := by
  constructor
  · rintro ⟨marked, rfl, rfl⟩
    exact List.filter_sublist.map _
  · obtain ⟨es⟩ := p
    obtain ⟨fs⟩ := q
    intro h
    change fs.Sublist es at h
    simp only [whole, kept, Patch.mk.injEq]
    induction h with
    | slnil => exact ⟨[], rfl, rfl⟩
    | cons e _ ih =>
      obtain ⟨marked, hw, hk⟩ := ih
      exact ⟨(e, false) :: marked, by rw [List.map_cons, hw], hk⟩
    | cons_cons e _ ih =>
      obtain ⟨marked, hw, hk⟩ := ih
      exact ⟨(e, true) :: marked, by rw [List.map_cons, hw], congrArg (e :: ·) hk⟩

theorem changes_of_apply {p : Patch} (hv : base.Valid) (h : p.apply base = .ok t) :
    Changes (fun _ => True) (fun _ => True) base t :=
  p.changes_of_within hv (fun _ _ _ _ => trivial) h

theorem apply_append (es fs : List Edit) (base : SourceTree) :
    apply ⟨es ++ fs⟩ base = apply ⟨es⟩ base >>= apply ⟨fs⟩ :=
  List.foldlM_append

/-- One edit more is applied to what the others make. -/
theorem apply_add {p : Patch} (h : p.apply base = .ok t) (e : Edit) :
    (p.add e).apply base = e.apply t := by
  rw [add, apply_append p.edits, h]
  exact bind_pure (e.apply t)

theorem apply_concat_ok {es : List Edit} {e : Edit} (h : apply ⟨es ++ [e]⟩ base = .ok t) :
    ∃ u, apply ⟨es⟩ base = .ok u ∧ e.apply u = .ok t := by
  rw [apply_append] at h
  obtain ⟨u, hu, h⟩ := exists_ok_of_bind h
  obtain ⟨v, hv, h⟩ := exists_ok_of_bind h
  cases h
  exact ⟨u, hu, hv⟩

/-- The edit after a patch introduces the node with an address. -/
def Introduces (base : SourceTree) (before : Patch) (e : Edit) (id : Nat) : Prop :=
  ∃ t t', before.apply base = .ok t ∧ e.apply t = .ok t' ∧ t.contains id = false ∧
    t'.contains id = true

theorem Introduces.absent {before : Patch} {e : Edit} (hv : base.Valid)
    (h : Introduces base before e id) : base.contains id = false := by
  obtain ⟨t, t', ht, he, hold, hnew⟩ := h
  have hbefore := before.changes_of_apply hv ht
  have hle := (e.changes_of_apply (hbefore.valid hv) he).nextId_le_of_contains hnew hold
  exact hv.absent_of_nextId_le (Nat.le_trans hbefore.nextId_le hle)

/-- A node that the base does not have was introduced by an edit that stayed. -/
theorem exists_introduces (ht : (kept marked).apply base = .ok t) (hid : t.contains id = true)
    (habsent : base.contains id = false) : ∃ earlier e later,
      marked = earlier ++ (e, true) :: later ∧ Introduces base (kept earlier) e id := by
  induction marked using List.reverseRecOn generalizing t with
  | nil =>
    cases ht
    rw [hid] at habsent
    cases habsent
  | append_singleton init entry ih =>
    obtain ⟨e, stays⟩ := entry
    cases stays with
    | false =>
      have hkept : kept (init ++ [(e, false)]) = kept init := by simp [kept]
      rw [hkept] at ht
      obtain ⟨earlier, d, later, rfl, hd⟩ := ih ht hid
      exact ⟨earlier, d, later ++ [(e, false)], by simp, hd⟩
    | true =>
      have hkept : kept (init ++ [(e, true)]) = ⟨(kept init).edits ++ [e]⟩ := by simp [kept]
      rw [hkept] at ht
      obtain ⟨u, hu, he⟩ := apply_concat_ok ht
      cases hold : u.contains id with
      | false => exact ⟨init, e, [], rfl, u, t, hu, he, hold, hid⟩
      | true =>
        obtain ⟨earlier, d, later, rfl, hd⟩ := ih hu hold
        exact ⟨earlier, d, later ++ [(e, true)], by simp, hd⟩

end Patch

namespace SourceTree

open Patch

/-- A patch applies to a reachable base, and one of its edits has the address of a node that another one
introduces, which is left out. Then the address is none of the base, and without that other one the edit
changes nothing, unless an edit that stays before it introduces a node with the same address. -/
theorem Reachable.apply_omitted {base t u : SourceTree} (h : base.Reachable)
    {before after : List (Edit × Bool)} {e : Edit} {id : Nat}
    (hp : (whole (before ++ (e, true) :: after)).apply base = .ok t) (hid : id ∈ e.ids)
    (homitted : ∃ earlier d later, before = earlier ++ (d, false) :: later ∧
      Introduces base (whole earlier) d id)
    (hu : (kept before).apply base = .ok u) :
    base.contains id = false ∧
      ((∀ earlier d later, before = earlier ++ (d, true) :: later →
        ¬Introduces base (kept earlier) d id) → e.apply u = .ok u) := by
  obtain ⟨_, _, _, _, hd⟩ := homitted
  have habsent := hd.absent h.valid
  refine ⟨habsent, fun hnone => e.apply_of_absent hid ?_ fun source hsource hm => ?_⟩
  · cases hid : u.contains id with
    | false => rfl
    | true =>
      obtain ⟨earlier, d, later, he, hd⟩ := exists_introduces hu hid habsent
      exact absurd hd (hnone earlier d later he)
  · have hsplit : whole (before ++ (e, true) :: after) =
        ⟨(whole before).edits ++ e :: (whole after).edits⟩ := by simp [whole]
    rw [hsplit, apply_append] at hp
    obtain ⟨v, hv, hp⟩ := exists_ok_of_bind hp
    obtain ⟨v', he, _⟩ := exists_ok_of_bind hp
    have hchanges := changes_of_apply h.valid hv
    have hmembers : v.members = base.members := hchanges.members h.valid
    have hmember : ¬v.IsMember id := by
      rw [IsMember, hmembers]
      exact h.valid.not_isMember_of_absent habsent
    have hm' : v.IsMember source := by
      rw [IsMember, hmembers, ← (changes_of_apply h.valid hu).members h.valid]
      exact hm
    obtain ⟨_, _, _, hfails⟩ :=
      e.apply_of_isMember (hchanges.valid h.valid) hid hmember hsource hm'
    rw [hfails] at he
    cases he

/-- A line is copied, another one deleted, and the copy deleted again. If the copying is left out, the
last edit does nothing. -/
theorem apply_omitted_copy :
    let base : SourceTree := { ofItems [.block "class K" [.block "void run()"
      [.simple "a();", .simple "b();"]]] with target := some 2 }
    let copy : Edit := .structural (.copy 3 3)
    let delete (id : Nat) : Edit := .structural (.delete id)
    let before := [(copy, false), (delete 4, true)]
    ∃ t u : SourceTree, base.Reachable ∧
      (whole (before ++ [(delete 5, true)])).apply base = .ok t ∧
      Introduces base .empty copy 5 ∧ (kept before).apply base = .ok u ∧
      base.contains 5 = false ∧ (delete 5).apply u = .ok u := by
  intro base copy delete before
  let new := ofItems [.block "class K" [.block "void run()" [.simple "a();", .simple "b();"]]]
  have hf : new.focus "run" = .ok base := by decide +kernel
  have hbase : base.Reachable := .focus (.ofItems _) hf
  let lines (ns : List Node) (next : Nat) : SourceTree :=
    ⟨[.block 1 .member "class K" [.block 2 .member "void run()" ns]], next, some 2⟩
  let a : Node := .simple 3 .statement "a();"
  let b : Node := .simple 4 .statement "b();"
  have hp : (whole (before ++ [(delete 5, true)])).apply base = .ok (lines [a] 6) := by
    decide +kernel
  have hu : (kept before).apply base = .ok (lines [a] 5) := by decide +kernel
  have hcopy : Introduces base .empty copy 5 :=
    ⟨base, lines [.simple 5 .statement "a();", a, b] 6, rfl, by decide +kernel, by decide +kernel,
      by decide +kernel⟩
  obtain ⟨habsent, hsame⟩ :=
    hbase.apply_omitted hp (List.mem_singleton_self _) ⟨[], copy, [(delete 4, true)], rfl, hcopy⟩ hu
  refine ⟨_, _, hbase, hp, hcopy, hu, habsent, hsame ?_⟩
  rintro earlier d later he ⟨v, v', hv, hd, _, hnew⟩
  change [(copy, false), (delete 4, true)] = _ at he
  rcases earlier with _ | ⟨_, _ | ⟨_, earlier⟩⟩
  · cases he
  · cases he
    cases hv
    have hv' : (delete 4).apply base = .ok (lines [a] 5) := by decide +kernel
    rw [hv'] at hd
    cases hd
    exact absurd hnew (by decide +kernel)
  · simp at he

/-- Two lines are copied and the first copy is deleted. Without the first copying the last edit deletes
the other copy, though its own address is gone. -/
theorem not_apply_omitted_of_renumbered :
    let base : SourceTree := { ofItems [.block "class K" [.block "void run()"
      [.simple "a();", .simple "b();"]]] with target := some 2 }
    let copy (id : Nat) : Edit := .structural (.copy id id)
    let delete (id : Nat) : Edit := .structural (.delete id)
    let before := [(copy 3, false), (copy 4, true)]
    ∃ t u : SourceTree, base.Reachable ∧
      (whole (before ++ [(delete 5, true)])).apply base = .ok t ∧
      Introduces base .empty (copy 3) 5 ∧
      kept (before ++ [(delete 5, true)]) = (whole (before ++ [(delete 5, true)])).eraseAt 0 ∧
      (kept before).apply base = .ok u ∧ (delete 5).apply u ≠ .ok u := by
  intro base copy delete before
  let new := ofItems [.block "class K" [.block "void run()" [.simple "a();", .simple "b();"]]]
  have hf : new.focus "run" = .ok base := by decide +kernel
  let lines (ns : List Node) (next : Nat) : SourceTree :=
    ⟨[.block 1 .member "class K" [.block 2 .member "void run()" ns]], next, some 2⟩
  let a (id : Nat) : Node := .simple id .statement "a();"
  let b (id : Nat) : Node := .simple id .statement "b();"
  have hp : (whole (before ++ [(delete 5, true)])).apply base = .ok (lines [a 3, b 6, b 4] 7) := by
    decide +kernel
  have hcopy : Introduces base .empty (copy 3) 5 :=
    ⟨base, lines [a 5, a 3, b 4] 6, rfl, by decide +kernel, by decide +kernel, by decide +kernel⟩
  have hu : (kept before).apply base = .ok (lines [a 3, b 5, b 4] 6) := by decide +kernel
  have hdeleted : (delete 5).apply (lines [a 3, b 5, b 4] 6) = .ok (lines [a 3, b 4] 6) := by
    decide +kernel
  refine ⟨_, _, .focus (.ofItems _) hf, hp, hcopy, rfl, hu, ?_⟩
  rw [hdeleted]
  exact fun h => absurd h (by decide +kernel)

end SourceTree

end PatchSearch
