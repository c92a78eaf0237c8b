import Mathlib.Data.List.Nodup
import Mathlib.Data.List.Perm.Subperm
import Mathlib.Logic.Relation
import PatchSearch.Failure
import PatchSearch.Proofs.Tree.Attach
import PatchSearch.Proofs.Tree.Splice

namespace PatchSearch

namespace Place

/-- The role of what stands in the gap of nodes that have a role. -/
def role (outer : Role) : Place → Role
  | .here _ _ => outer
  | .inside _ _ role _header inner _ => inner.role (role.inside _header)

/-- The roles around the gap are those that the headers above them give. -/
def Fits (outer : Role) : Place → Prop
  | .here left right => Node.FitsAll outer left ∧ Node.FitsAll outer right
  | .inside left _ role header inner right =>
    Node.FitsAll outer left ∧ role = outer ∧ inner.Fits (role.inside header) ∧
      Node.FitsAll outer right

theorem fitsAll_fill {p : Place} {ns : List Node} {outer : Role} :
    Node.FitsAll outer (p.fill ns) ↔ p.Fits outer ∧ Node.FitsAll (p.role outer) ns := by
  induction p generalizing outer with
  | here left right => simp only [fill, Fits, role, Node.fitsAll_append]; tauto
  | inside left id r header inner right ih =>
    simp only [fill, Fits, role, Node.fitsAll_append, Node.FitsAll, Node.Fits, ih]
    tauto

end Place

namespace SourceTree

/-- What holds of every tree that edits can make. -/
structure Valid (t : SourceTree) : Prop where
  nodup : (Node.idsAll t.items).Nodup
  range : ∀ id ∈ Node.idsAll t.items, 0 < id ∧ id < t.nextId
  nextId_pos : 0 < t.nextId
  fits : Node.FitsAll .member t.items

theorem valid_ofItems (ss : List Statement) : (ofItems ss).Valid := by
  have hids : Node.idsAll (ofItems ss).items = List.range' 1 (Statement.sizeAll ss) :=
    Statement.idsAll_attachAll .member 1 ss
  refine ⟨?_, ?_, ?_, Statement.fitsAll_attachAll .member 1 ss⟩
  · rw [hids]
    exact List.nodup_range'
  · intro id hm
    rw [hids, List.mem_range'_1] at hm
    exact ⟨hm.1, hm.2⟩
  · exact Nat.lt_add_right _ Nat.one_pos

/-- Validity does not depend on the target. -/
theorem Valid.withTarget {t : SourceTree} (h : t.Valid) (target : Option Nat) :
    { t with target := target }.Valid :=
  ⟨h.nodup, h.range, h.nextId_pos, h.fits⟩

/-- Fresh fragments take the place of a statement at one of the addresses, or stand before it. -/
inductive Change (A : Nat → Prop) (F : Statement → Prop) (t t' : SourceTree) : Prop
  | mk (p : Place) (n : Node) (fresh : List Statement) (kept : List Node) :
      t.items = p.fill [n] → A n.id → n.role = .statement → (∀ s ∈ fresh, F s) →
      kept.Sublist [n] →
      t'.items = p.fill (Statement.attachAll .statement t.nextId fresh ++ kept) →
      t'.nextId = t.nextId + Statement.sizeAll fresh → t'.target = t.target → Change A F t t'

variable {A : Nat → Prop} {F : Statement → Prop} {t t' : SourceTree}

theorem Change.target_eq (h : Change A F t t') : t'.target = t.target := by
  obtain ⟨_, _, _, _, _, _, _, _, _, _, _, htarget⟩ := h
  exact htarget

theorem Change.nextId_le (h : Change A F t t') : t.nextId ≤ t'.nextId := by
  obtain ⟨_, _, _, _, _, _, _, _, _, _, hnext, _⟩ := h
  rw [hnext]
  exact Nat.le_add_right _ _

/-- The addresses after a change are the next ones, for the fresh fragments, and some of the old ones. -/
theorem Change.idsAll_perm (h : Change A F t t') : ∃ count old, t'.nextId = t.nextId + count ∧
    (Node.idsAll t'.items).Perm (List.range' t.nextId count ++ old) ∧
    old.Subperm (Node.idsAll t.items) := by
  obtain ⟨p, n, fresh, kept, hi, _, _, _, hkept, hi', hnext, _⟩ := h
  refine ⟨Statement.sizeAll fresh, Node.idsAll kept ++ p.ids, hnext, ?_, ?_⟩
  · rw [hi', ← List.append_assoc, ← Statement.idsAll_attachAll .statement, ← Node.idsAll_append]
    exact p.idsAll_fill_perm _
  · rw [hi, (p.idsAll_fill_perm [n]).subperm_left]
    exact ((Node.idsAll_sublist hkept).append_right _).subperm

theorem Change.mem_ids (h : Change A F t t') {id : Nat} (hm : id ∈ Node.idsAll t'.items) :
    t.nextId ≤ id ∨ id ∈ Node.idsAll t.items := by
  obtain ⟨count, old, _, hperm, hold⟩ := h.idsAll_perm
  rcases List.mem_append.mp (hperm.mem_iff.mp hm) with hm | hm
  · exact Or.inl (List.mem_range'_1.mp hm).1
  · exact Or.inr (hold.subset hm)

theorem Change.nodup (h : Change A F t t') (hv : t.Valid) : (Node.idsAll t'.items).Nodup := by
  obtain ⟨count, old, _, hperm, hold⟩ := h.idsAll_perm
  obtain ⟨kept, hkept, hsub⟩ := hold
  rw [hperm.nodup_iff, List.nodup_append]
  refine ⟨List.nodup_range', hkept.nodup_iff.mp (hsub.nodup hv.nodup), ?_⟩
  intro a ha b hb
  have hfresh := (List.mem_range'_1.mp ha).1
  have hlt := (hv.range b (hsub.subset (hkept.mem_iff.mpr hb))).2
  omega

theorem Change.range (h : Change A F t t') (hv : t.Valid) :
    ∀ id ∈ Node.idsAll t'.items, 0 < id ∧ id < t'.nextId := by
  obtain ⟨count, old, hnext, hperm, hold⟩ := h.idsAll_perm
  intro id hm
  rcases List.mem_append.mp (hperm.mem_iff.mp hm) with hm | hm
  · have hfresh := List.mem_range'_1.mp hm
    have hpos := hv.nextId_pos
    omega
  · have hrange := hv.range id (hold.subset hm)
    omega

theorem Change.fits (h : Change A F t t') (hv : t.Valid) : Node.FitsAll .member t'.items := by
  obtain ⟨p, n, fresh, kept, hi, _, hrole, _, hkept, hi', _, _⟩ := h
  have hfits := hv.fits
  rw [hi] at hfits
  obtain ⟨hp, hn⟩ := Place.fitsAll_fill.mp hfits
  have hstatement : p.role .member = .statement := hn.1.role_eq.symm.trans hrole
  rw [hi', Place.fitsAll_fill, Node.fitsAll_append, hstatement]
  refine ⟨hp, Statement.fitsAll_attachAll _ _ _, ?_⟩
  rw [hstatement] at hn
  exact Node.fitsAll_iff.mpr fun m hm => Node.fitsAll_iff.mp hn m (hkept.mem hm)

theorem Change.valid (h : Change A F t t') (hv : t.Valid) : t'.Valid :=
  ⟨h.nodup hv, h.range hv, Nat.lt_of_lt_of_le hv.nextId_pos h.nextId_le, h.fits hv⟩

/-- Changes one after the other. -/
def Changes (A : Nat → Prop) (F : Statement → Prop) : SourceTree → SourceTree → Prop :=
  Relation.ReflTransGen (Change A F)

theorem Changes.valid (h : Changes A F t t') (hv : t.Valid) : t'.Valid := by
  induction h with
  | refl => exact hv
  | tail _ hc ih => exact hc.valid ih

theorem Changes.nextId_le (h : Changes A F t t') : t.nextId ≤ t'.nextId := by
  induction h with
  | refl => exact Nat.le_refl _
  | tail _ hc ih => exact Nat.le_trans ih hc.nextId_le

theorem Changes.target_eq (h : Changes A F t t') : t'.target = t.target := by
  induction h with
  | refl => rfl
  | tail _ hc ih => exact hc.target_eq.trans ih

theorem node?_eq (t : SourceTree) (id : Nat) :
    t.node? id = if 0 = id then some t.root else Node.findAll? id t.items := by
  rw [node?, root, Node.find?]

/-- A statement at an address stands in the gap of a place. -/
theorem exists_place_of_statement {id : Nat} {n : Node} (h : t.statement id = .ok n) :
    n.id = id ∧ n.role = .statement ∧ ∃ p : Place, t.items = p.fill [n] := by
  rw [statement, node?_eq] at h
  split at h
  next => simp at h
  next m hm =>
    split at h
    next hs =>
      cases Except.ok.inj h
      have hrole : n.role = .statement := by simpa [Node.isStatement] using hs
      split at hm
      next =>
        cases Option.some.inj hm
        exact absurd hrole (by simp [root, Node.role])
      next => exact ⟨Node.findAll?_id _ hm, hrole, Node.exists_place_of_findAll? _ hm⟩
    next => simp at h

/-- Splicing at the address of the node in the gap of a place fills the gap anew. -/
theorem Valid.spliceAll_fill (hv : t.Valid) {p : Place} {n : Node} (hp : t.items = p.fill [n])
    (new : Node → List Node) : Node.spliceAll n.id new t.items = p.fill (new n) := by
  have hnodup := hv.nodup
  rw [hp] at hnodup
  rw [hp, p.spliceAll_fill, Node.spliceAll_singleton]
  exact Place.not_mem_ids_of_nodup hnodup (by simp [Node.idsAll_singleton, Node.ids_eq])

/-- Splicing at the address of a statement changes its place only. -/
theorem Valid.spliceAll_eq {id : Nat} {n : Node} (hv : t.Valid) (h : t.statement id = .ok n) :
    n.id = id ∧ n.role = .statement ∧ ∃ p : Place, t.items = p.fill [n] ∧
      ∀ new, Node.spliceAll id new t.items = p.fill (new n) := by
  obtain ⟨rfl, hrole, p, hp⟩ := exists_place_of_statement h
  exact ⟨rfl, hrole, p, hp, hv.spliceAll_fill hp⟩

theorem change_of_replace {id : Nat} {s : Statement} (hv : t.Valid) (ha : A id) (hs : F s)
    (h : t.replace id s = .ok t') : Change A F t t' := by
  obtain ⟨n, hn, h⟩ := exists_ok_of_bind h
  obtain ⟨rfl, hrole, p, hp, hsplice⟩ := hv.spliceAll_eq hn
  cases Except.ok.inj h
  refine ⟨p, n, [s], [], hp, ha, hrole, by simpa, by simp, ?_, ?_, rfl⟩
  · simp [hsplice, Statement.attachAll]
  · simp [Statement.sizeAll]

theorem change_of_insertBefore {id : Nat} {s : Statement} (hv : t.Valid) (ha : A id) (hs : F s)
    (h : t.insertBefore id s = .ok t') : Change A F t t' := by
  obtain ⟨n, hn, h⟩ := exists_ok_of_bind h
  obtain ⟨rfl, hrole, p, hp, hsplice⟩ := hv.spliceAll_eq hn
  cases Except.ok.inj h
  refine ⟨p, n, [s], [n], hp, ha, hrole, by simpa, List.Sublist.refl _, ?_, ?_, rfl⟩
  · simp [hsplice, Statement.attachAll]
  · simp [Statement.sizeAll]

theorem change_of_remove {id : Nat} (hv : t.Valid) (ha : A id) (h : t.remove id = .ok t') :
    Change A F t t' := by
  obtain ⟨n, hn, h⟩ := exists_ok_of_bind h
  obtain ⟨rfl, hrole, p, hp, hsplice⟩ := hv.spliceAll_eq hn
  cases Except.ok.inj h
  refine ⟨p, n, [], [], hp, ha, hrole, by simp, by simp, ?_, ?_, rfl⟩
  · simp [hsplice, Statement.attachAll]
  · simp [Statement.sizeAll]

end SourceTree

end PatchSearch
