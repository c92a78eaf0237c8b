import Mathlib.Logic.Function.Basic
import PatchSearch.Proofs.Tree.Descent
import PatchSearch.Proofs.Tree.Parts

namespace PatchSearch

/-- What comes before the node at an address, and what stands there instead of it, if anything does. -/
structure Rearrangement where
  before : Nat → List Statement
  instead : Nat → Option (List Statement)

namespace Rearrangement

/-- Nothing is moved. -/
def still : Rearrangement :=
  ⟨fun _ => [], fun _ => none⟩

/-- Fragments in the place of the node at an address. -/
def placing (r : Rearrangement) (a : Nat) (ss : List Statement) : Rearrangement :=
  ⟨Function.update r.before a [], Function.update r.instead a (some ss)⟩

/-- Fragments directly before the node at an address. -/
def inserting (r : Rearrangement) (a : Nat) (ss : List Statement) : Rearrangement :=
  ⟨Function.update r.before a (ss ++ r.before a), r.instead⟩

/-- The rearrangements do the same at an address. -/
def SameAt (r r' : Rearrangement) (a : Nat) : Prop :=
  r.before a = r'.before a ∧ r.instead a = r'.instead a

variable {r : Rearrangement} {a b : Nat} {ss : List Statement}

theorem SameAt.trans {r r' r'' : Rearrangement} (h : r.SameAt r' a) (h' : r'.SameAt r'' a) :
    r.SameAt r'' a :=
  ⟨h.1.trans h'.1, h.2.trans h'.2⟩

theorem placing_self (r : Rearrangement) (a : Nat) (ss : List Statement) :
    (r.placing a ss).before a = [] ∧ (r.placing a ss).instead a = some ss :=
  ⟨Function.update_self _ _ _, Function.update_self _ _ _⟩

theorem placing_of_ne (h : b ≠ a) : (r.placing a ss).SameAt r b :=
  ⟨Function.update_of_ne h _ _, Function.update_of_ne h _ _⟩

theorem inserting_self (r : Rearrangement) (a : Nat) (ss : List Statement) :
    (r.inserting a ss).before a = ss ++ r.before a ∧ (r.inserting a ss).instead a = r.instead a :=
  ⟨Function.update_self _ _ _, rfl⟩

theorem inserting_of_ne (h : b ≠ a) : (r.inserting a ss).SameAt r b :=
  ⟨Function.update_of_ne h _ _, rfl⟩

end Rearrangement

open Rearrangement

namespace Node

mutual

/-- The node as rearranged fragments, without addresses and roles. -/
def rearrange (r : Rearrangement) : Node → List Statement
  | .simple id _ text => r.before id ++ (r.instead id).getD [.simple text]
  | .block id _ header children =>
    r.before id ++ (r.instead id).getD [.block header (rearrangeAll r children)]

def rearrangeAll (r : Rearrangement) : List Node → List Statement
  | [] => []
  | n :: ns => n.rearrange r ++ rearrangeAll r ns

end

variable {r r' : Rearrangement} {a : Nat} {new : Node → List Node} {ss : List Statement}

theorem rearrangeAll_append (ns ms : List Node) :
    rearrangeAll r (ns ++ ms) = rearrangeAll r ns ++ rearrangeAll r ms := by
  induction ns with
  | nil => rfl
  | cons n ns ih => rw [List.cons_append, rearrangeAll, rearrangeAll, ih, List.append_assoc]

theorem rearrange_congr {n : Node} (h : r.SameAt r' n.id)
    (hc : rearrangeAll r n.children = rearrangeAll r' n.children) : n.rearrange r = n.rearrange r' := by
  cases n with
  | simple id role text =>
    obtain ⟨hbefore, hinstead⟩ : r.SameAt r' id := h
    rw [rearrange, rearrange, hbefore, hinstead]
  | block id role header children =>
    obtain ⟨hbefore, hinstead⟩ : r.SameAt r' id := h
    have hc : rearrangeAll r children = rearrangeAll r' children := hc
    rw [rearrange, rearrange, hbefore, hinstead, hc]

mutual

theorem rearrange_of_sameAt : (n : Node) → (∀ id ∈ n.ids, r.SameAt r' id) →
    n.rearrange r = n.rearrange r'
  | .simple id role text, h => rearrange_congr (h id (by simp [ids, entries])) rfl
  | .block id role header children, h => by
    rw [ids_eq, List.forall_mem_cons] at h
    exact rearrange_congr h.1 (rearrangeAll_of_sameAt children h.2)

/-- Only what a rearrangement does at the addresses of the nodes matters. -/
theorem rearrangeAll_of_sameAt : (ns : List Node) → (∀ id ∈ idsAll ns, r.SameAt r' id) →
    rearrangeAll r ns = rearrangeAll r' ns
  | [], _ => rfl
  | n :: ns, h => by
    simp only [idsAll_cons, List.forall_mem_append] at h
    rw [rearrangeAll, rearrangeAll, rearrange_of_sameAt n h.1, rearrangeAll_of_sameAt ns h.2]

end

theorem rearrange_placing (n : Node) : n.rearrange (r.placing n.id ss) = ss := by
  obtain ⟨hbefore, hinstead⟩ := r.placing_self n.id ss
  cases n with
  | simple id role text => simp_all [rearrange, Node.id]
  | block id role header children => simp_all [rearrange, Node.id]

/-- What is inserted before a node that does not have its own address below it comes first. -/
theorem rearrange_inserting {n : Node} (h : n.id ∉ idsAll n.children) :
    n.rearrange (r.inserting n.id ss) = ss ++ n.rearrange r := by
  obtain ⟨hbefore, hinstead⟩ := r.inserting_self n.id ss
  have hc : rearrangeAll (r.inserting n.id ss) n.children = rearrangeAll r n.children := by
    refine rearrangeAll_of_sameAt _ fun id hid => inserting_of_ne ?_
    rintro rfl
    exact h hid
  cases n with
  | simple id role text => simp_all [rearrange, Node.id]
  | block id role header children => simp_all [rearrange, Node.id, Node.children]

mutual

theorem rearrange_splice (hsame : ∀ b, b ≠ a → r'.SameAt r b) : (n : Node) → n.id ≠ a →
    (∀ m ∈ n.parts, m.id = a → rearrangeAll r (new m) = m.rearrange r') →
    (n.splice a new).rearrange r = n.rearrange r'
  | .simple id role text, hne, _ => by
    rw [splice]
    symm
    exact rearrange_congr (hsame id hne) rfl
  | .block id role header children, hne, h => by
    obtain ⟨hbefore, hinstead⟩ := hsame id hne
    have hc := rearrangeAll_spliceAll hsame children fun m hm => h m (List.mem_cons_of_mem _ hm)
    rw [splice, rearrange, rearrange, hc, hbefore, hinstead]

/-- A splice before a rearrangement is part of a rearrangement that does at the address of the splice what
comes of the new nodes. -/
theorem rearrangeAll_spliceAll (hsame : ∀ b, b ≠ a → r'.SameAt r b) : (ns : List Node) →
    (∀ m ∈ partsAll ns, m.id = a → rearrangeAll r (new m) = m.rearrange r') →
    rearrangeAll r (spliceAll a new ns) = rearrangeAll r' ns
  | [], _ => rfl
  | n :: ns, h => by
    have hns := rearrangeAll_spliceAll hsame ns fun m hm => h m (List.mem_append_right _ hm)
    rw [spliceAll, rearrangeAll]
    split
    next he =>
      rw [rearrangeAll_append, hns, h n (List.mem_append_left _ n.mem_parts_self) he]
    next hne =>
      have hn := rearrange_splice hsame n hne fun m hm => h m (List.mem_append_left _ hm)
      rw [rearrangeAll, hns, hn]

end

/-- The rearrangement leaves the node itself as it is, or puts there just what stood there. -/
def Kept (r : Rearrangement) (n : Node) : Prop :=
  (r.before n.id = [] ∧ r.instead n.id = none) ∨
    ∃ ss, r.instead n.id = some ss ∧ r.before n.id ++ ss = [n.detach]

theorem Kept.rearrange {n : Node} (h : n.Kept r)
    (hc : rearrangeAll r n.children = detachAll n.children) : n.rearrange r = [n.detach] := by
  rcases h with ⟨hbefore, hinstead⟩ | ⟨ss, hinstead, hss⟩
  · cases n <;> simp_all [Node.rearrange, Node.id, detach, Node.children]
  · cases n <;> simp_all [Node.rearrange, Node.id]

mutual

theorem rearrange_of_kept : (n : Node) → (∀ m ∈ n.parts, m.Kept r) → n.rearrange r = [n.detach]
  | .simple id role text, h => (h _ List.mem_cons_self).rearrange rfl
  | .block id role header children, h => by
    rw [parts, List.forall_mem_cons] at h
    exact h.1.rearrange (rearrangeAll_of_kept children h.2)

/-- A rearrangement that keeps every node keeps all of them. -/
theorem rearrangeAll_of_kept : (ns : List Node) → (∀ m ∈ partsAll ns, m.Kept r) →
    rearrangeAll r ns = detachAll ns
  | [], _ => rfl
  | n :: ns, h => by
    rw [rearrangeAll, detachAll, rearrange_of_kept n fun m hm => h m (List.mem_append_left _ hm),
      rearrangeAll_of_kept ns fun m hm => h m (List.mem_append_right _ hm), List.singleton_append]

end

end Node

end PatchSearch
