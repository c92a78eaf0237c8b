import PatchSearch.Edit.Data
import PatchSearch.Proofs.Tree.Contents

namespace PatchSearch

namespace StructuralEdit

open SourceTree

variable {A : Nat → Prop} {F : Statement → Prop} {t t' : SourceTree}

theorem changes_of_ok (h : Except.ok t = (.ok t' : Except TreeError SourceTree)) :
    Changes A F t t' := by
  cases Except.ok.inj h
  exact .refl

theorem statement_of_fragment? {id : Nat} {s : Statement} (h : fragment? t id = .ok (some s)) :
    ∃ n, t.statement id = .ok n ∧ n.detach = s := by
  unfold fragment? at h
  split at h
  next => simp at h
  next n hn =>
    split at h
    next hs => exact ⟨n, by simp [statement, hn, hs], by simpa using h⟩
    next => simp at h

section Kinds

variable (hv : t.Valid) (hF : ∀ {id s}, fragment? t id = .ok (some s) → F s)

include hv

theorem changes_delete {target : Nat} (ha : A target)
    (h : (StructuralEdit.delete target).apply t = .ok t') : Changes A F t t' := by
  simp only [apply] at h
  split at h
  next => exact .single (change_of_remove hv ha h)
  next => exact changes_of_ok h

include hF

theorem changes_copy {source destination : Nat} (ha : A destination)
    (h : (StructuralEdit.copy source destination).apply t = .ok t') : Changes A F t t' := by
  obtain ⟨o, ho, h⟩ := exists_ok_of_bind h
  cases o with
  | none => exact changes_of_ok h
  | some s =>
    simp only at h
    split at h
    next => exact .single (change_of_insertBefore hv ha (hF ho) h)
    next => exact changes_of_ok h

theorem changes_replace {source destination : Nat} (ha : A destination)
    (h : (StructuralEdit.replace source destination).apply t = .ok t') : Changes A F t t' := by
  simp only [apply] at h
  split at h
  next => exact changes_of_ok h
  next =>
    obtain ⟨o, ho, h⟩ := exists_ok_of_bind h
    cases o with
    | none => exact changes_of_ok h
    | some s =>
      simp only at h
      split at h
      next => exact .single (change_of_replace hv ha (hF ho) h)
      next => exact changes_of_ok h

theorem changes_swap {first second : Nat} (ha : A first) (hb : A second)
    (h : (StructuralEdit.swap first second).apply t = .ok t') : Changes A F t t' := by
  simp only [apply] at h
  split at h
  next => exact changes_of_ok h
  next =>
    obtain ⟨o, ho, h⟩ := exists_ok_of_bind h
    obtain ⟨o', ho', h⟩ := exists_ok_of_bind h
    cases o with
    | none => exact changes_of_ok h
    | some a =>
      cases o' with
      | none => exact changes_of_ok h
      | some b =>
        simp only at h
        split at h
        next => simp at h
        next =>
          obtain ⟨u, hu, h⟩ := exists_ok_of_bind h
          have hc : Change A F t u := change_of_replace hv ha (hF ho') hu
          exact .tail (.single hc) (change_of_replace (hc.valid hv) hb (hF ho) h)

theorem changes_move {source destination : Nat} (ha : A source) (hb : A destination)
    (h : (StructuralEdit.move source destination).apply t = .ok t') : Changes A F t t' := by
  simp only [apply] at h
  split at h
  next => exact changes_of_ok h
  next =>
    obtain ⟨o, ho, h⟩ := exists_ok_of_bind h
    cases o with
    | none => exact changes_of_ok h
    | some s =>
      simp only at h
      split at h
      next => exact changes_of_ok h
      next =>
        split at h
        next => simp at h
        next =>
          obtain ⟨u, hu, h⟩ := exists_ok_of_bind h
          have hc : Change A F t u := change_of_insertBefore hv hb (hF ho) hu
          exact .tail (.single hc) (change_of_remove (hc.valid hv) ha h)

end Kinds

/-- A structural edit changes its own addresses, with fragments from the tree. -/
theorem changes {e : StructuralEdit} (hv : t.Valid) (hF : Statement.Compositional F)
    (hc : Node.Consist F t.items) (hA : ∀ id ∈ e.addresses.map Prod.snd, A id)
    (h : e.apply t = .ok t') : Changes A F t t' := by
  have hs : ∀ {id s}, fragment? t id = .ok (some s) → F s := by
    intro id s hs
    obtain ⟨n, hn, rfl⟩ := statement_of_fragment? hs
    exact consist_statement hF hc hn
  cases e with
  | delete target => exact changes_delete hv (hA target (by simp [addresses])) h
  | copy source destination => exact changes_copy hv hs (hA destination (by simp [addresses])) h
  | replace source destination =>
    exact changes_replace hv hs (hA destination (by simp [addresses])) h
  | swap first second =>
    exact changes_swap hv hs (hA first (by simp [addresses])) (hA second (by simp [addresses])) h
  | move source destination =>
    exact changes_move hv hs (hA source (by simp [addresses]))
      (hA destination (by simp [addresses])) h

end StructuralEdit

open SourceTree

variable {A : Nat → Prop} {F : Statement → Prop} {t t' : SourceTree}

/-- A generated edit changes its destination, with its replacement. -/
theorem GeneratedEdit.changes {e : GeneratedEdit} (hv : t.Valid) (hA : A e.destination)
    (hs : ∀ s ∈ e.replacement, F s) (h : e.apply t = .ok t') : Changes A F t t' := by
  unfold apply at h
  split at h
  next => exact StructuralEdit.changes_of_ok h
  next s hr =>
    split at h
    next => exact StructuralEdit.changes_of_ok h
    next =>
      split at h
      next => simp at h
      next => exact .single (change_of_replace hv hA (hs s hr) h)

namespace Edit

/-- The addresses that an edit names. -/
def ids : Edit → List Nat
  | .generated e => [e.destination]
  | .structural e => e.addresses.map Prod.snd

/-- The fragment that a generated edit brings along. -/
def replacement? : Edit → Option Statement
  | .generated e => e.replacement
  | .structural _ => none

theorem changes {e : Edit} (hv : t.Valid) (hF : Statement.Compositional F)
    (hc : Node.Consist F t.items) (hA : ∀ id ∈ e.ids, A id) (hs : ∀ s ∈ e.replacement?, F s)
    (h : e.apply t = .ok t') : Changes A F t t' := by
  cases e with
  | generated e => exact e.changes hv (hA e.destination (by simp [ids])) hs h
  | structural e => exact e.changes hv hF hc hA h

end Edit

namespace Patch

/-- All addresses in the patch satisfy a predicate. -/
def Within (A : Nat → Prop) (p : Patch) : Prop :=
  ∀ e ∈ p.edits, ∀ id ∈ e.ids, A id

/-- All fragments that generated edits of the patch bring along have a property. -/
def Brings (F : Statement → Prop) (p : Patch) : Prop :=
  ∀ e ∈ p.edits, ∀ s ∈ e.replacement?, F s

theorem changes {p : Patch} (hv : t.Valid) (hF : Statement.Compositional F)
    (hc : Node.Consist F t.items) (hA : p.Within A) (hs : p.Brings F)
    (h : p.apply t = .ok t') : Changes A F t t' := by
  obtain ⟨edits⟩ := p
  induction edits generalizing t with
  | nil => exact StructuralEdit.changes_of_ok h
  | cons e es ih =>
    rw [apply, List.foldlM_cons] at h
    obtain ⟨u, hu, h⟩ := exists_ok_of_bind h
    have he : Changes A F t u :=
      e.changes hv hF hc (hA e List.mem_cons_self) (hs e List.mem_cons_self) hu
    refine he.trans (ih (he.valid hv) (he.consist hF hc) ?_ ?_ h)
    · exact fun e' he' => hA e' (List.mem_cons_of_mem e he')
    · exact fun e' he' => hs e' (List.mem_cons_of_mem e he')

/-- Any patch changes a valid tree at its own addresses. -/
theorem changes_of_within {p : Patch} (hv : t.Valid) (hA : p.Within A) (h : p.apply t = .ok t') :
    Changes A (fun _ => True) t t' :=
  p.changes hv Statement.compositional_true (fun _ _ => trivial) hA (fun _ _ _ _ => trivial) h

end Patch

end PatchSearch
