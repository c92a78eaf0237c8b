import PatchSearch.Proofs.Edit.Reachable

namespace PatchSearch

namespace SourceTree

variable {t : SourceTree} {id : Nat}

instance (t : SourceTree) (id : Nat) : Decidable (t.IsMember id) :=
  inferInstanceAs (Decidable (∃ e ∈ t.members, e.id = id))

theorem node?_of_absent (h : t.contains id = false) : t.node? id = none := by
  rwa [contains, Option.isSome_eq_false_iff, Option.isNone_iff_eq_none] at h

/-- What is found at the address of a member is that member. -/
theorem Valid.exists_member (hv : t.Valid) (h : t.IsMember id) :
    ∃ n, t.node? id = some n ∧ n.role = .member := by
  obtain ⟨m, hm, rfl, hrole⟩ := isMember_iff.mp h
  have hid : m.id ∈ t.root.ids := by
    rw [← Node.map_id_parts]
    exact List.mem_map_of_mem hm
  obtain ⟨n, hn⟩ := Option.isSome_iff_exists.mp (Node.find?_isSome t.root hid)
  obtain ⟨hnid, hparts⟩ := mem_parts_of_node? hn
  obtain rfl : n = m := List.inj_on_of_nodup_map hv.parts_nodup (hparts n.mem_parts_self) hm hnid
  exact ⟨n, hn, hrole⟩

theorem Valid.not_isMember_of_absent (hv : t.Valid) (h : t.contains id = false) :
    ¬t.IsMember id := by
  intro hm
  obtain ⟨n, hn, _⟩ := hv.exists_member hm
  rw [node?_of_absent h] at hn
  cases hn

end SourceTree

namespace StructuralEdit

/-- The addresses that an edit takes fragments from. -/
def sources : StructuralEdit → List Nat
  | .delete _ => []
  | .copy source _ | .replace source _ | .move source _ => [source]
  | .swap first second => [first, second]

variable {t t' : SourceTree} {id : Nat}

theorem fragment?_of_not_isMember (h : ¬t.IsMember id) :
    fragment? t id = .ok ((t.node? id).map Node.detach) := by
  unfold fragment?
  cases hn : t.node? id with
  | none => rfl
  | some n =>
    have hs := SourceTree.statement_of_not_isMember hn h
    rw [SourceTree.statement, hn] at hs
    dsimp only at hs ⊢
    split at hs
    next hn => rw [if_pos hn]; rfl
    next => cases hs

theorem fragment?_of_isMember (hv : t.Valid) (h : t.IsMember id) :
    fragment? t id = .error (.mismatch id "source is a member declaration") := by
  obtain ⟨n, hn, hrole⟩ := hv.exists_member h
  have hs : n.isStatement = false := by simp [Node.isStatement, hrole]
  simp [fragment?, hn, hs]

theorem bind_fragment? (h : ¬t.IsMember id) (f : Option Statement → Except TreeError SourceTree) :
    fragment? t id >>= f = f ((t.node? id).map Node.detach) := by
  rw [fragment?_of_not_isMember h]
  rfl

theorem bind_fragment?_of_isMember (hv : t.Valid) (h : t.IsMember id)
    (f : Option Statement → Except TreeError SourceTree) :
    fragment? t id >>= f = .error (.mismatch id "source is a member declaration") := by
  rw [fragment?_of_isMember hv h]
  rfl

/-- What is done with a fragment comes to nothing if its source is absent, and also if the destination
is. -/
theorem bind_fragment?_of_absent {source destination : Nat}
    {f : Option Statement → Except TreeError SourceTree} (hs : ¬t.IsMember source)
    (hid : id ∈ [source, destination]) (h : t.contains id = false) (hnone : f none = .ok t)
    (hsome : t.contains destination = false → ∀ s, f (some s) = .ok t) :
    fragment? t source >>= f = .ok t := by
  rw [bind_fragment? hs]
  rcases List.mem_cons.mp hid with rfl | hid
  · rw [SourceTree.node?_of_absent h]
    exact hnone
  · obtain rfl : id = destination := List.mem_singleton.mp hid
    cases t.node? source with
    | none => exact hnone
    | some n => exact hsome h n.detach

/-- An edit that takes no fragment from a member changes nothing if one of its addresses is absent. -/
theorem apply_of_absent {e : StructuralEdit} (hid : id ∈ e.addresses.map Prod.snd)
    (h : t.contains id = false) (hs : ∀ source ∈ e.sources, ¬t.IsMember source) :
    e.apply t = .ok t := by
  cases e with
  | delete target =>
    obtain rfl : id = target := List.mem_singleton.mp hid
    simp [apply, h]
  | copy source destination =>
    exact bind_fragment?_of_absent (hs source List.mem_cons_self) hid h rfl fun hd s =>
      if_neg (ne_true_of_eq_false hd)
  | replace source destination =>
    rw [apply]
    split
    next => rfl
    next =>
      exact bind_fragment?_of_absent (hs source List.mem_cons_self) hid h rfl fun hd s =>
        if_neg (ne_true_of_eq_false hd)
  | swap first second =>
    rw [apply]
    split
    next => rfl
    next =>
      have hfirst := hs first List.mem_cons_self
      have hsecond := hs second (List.mem_cons_of_mem _ List.mem_cons_self)
      rw [bind_fragment? hfirst, bind_fragment? hsecond]
      rcases List.mem_cons.mp hid with rfl | hid
      · rw [SourceTree.node?_of_absent h]
        rfl
      · obtain rfl : id = second := List.mem_singleton.mp hid
        rw [SourceTree.node?_of_absent h]
        cases t.node? first <;> rfl
  | move source destination =>
    rw [apply]
    split
    next => rfl
    next =>
      exact bind_fragment?_of_absent (hs source List.mem_cons_self) hid h rfl fun hd s =>
        if_pos (by rw [hd]; rfl)

/-- An edit that takes a fragment from a member fails, unless it has no other address. -/
theorem apply_of_isMember {e : StructuralEdit} {source : Nat} (hv : t.Valid)
    (hsource : source ∈ e.sources) (hm : t.IsMember source) :
    (∀ id ∈ e.addresses.map Prod.snd, id = source) ∨ ∃ source ∈ e.sources, t.IsMember source ∧
      e.apply t = .error (.mismatch source "source is a member declaration") := by
  cases e with
  | delete target => exact absurd hsource List.not_mem_nil
  | copy source' destination =>
    obtain rfl : source = source' := List.mem_singleton.mp hsource
    exact Or.inr ⟨source, hsource, hm, bind_fragment?_of_isMember hv hm _⟩
  | replace source' destination | move source' destination =>
    obtain rfl : source = source' := List.mem_singleton.mp hsource
    rw [apply]
    split
    next he => exact Or.inl (by simp [addresses, ← he])
    next => exact Or.inr ⟨source, hsource, hm, bind_fragment?_of_isMember hv hm _⟩
  | swap first second =>
    rw [apply]
    split
    next he => exact Or.inl (by simp_all [addresses, sources])
    next =>
      by_cases hf : t.IsMember first
      · exact Or.inr ⟨first, List.mem_cons_self, hf, bind_fragment?_of_isMember hv hf _⟩
      · obtain rfl : source = second := by
          rcases List.mem_cons.mp hsource with rfl | hsource
          · exact absurd hm hf
          · exact List.mem_singleton.mp hsource
        rw [bind_fragment? hf]
        exact Or.inr ⟨source, hsource, hm, bind_fragment?_of_isMember hv hm _⟩

end StructuralEdit

namespace Edit

def sources : Edit → List Nat
  | .generated _ => []
  | .structural e => e.sources

variable {t t' : SourceTree} {id : Nat}

theorem apply_of_absent {e : Edit} (hid : id ∈ e.ids) (h : t.contains id = false)
    (hs : ∀ source ∈ e.sources, ¬t.IsMember source) : e.apply t = .ok t := by
  cases e with
  | structural e => exact StructuralEdit.apply_of_absent hid h hs
  | generated e =>
    obtain rfl : id = e.destination := List.mem_singleton.mp hid
    rw [apply, GeneratedEdit.apply]
    split
    next => rfl
    next => simp [h]

/-- An edit that takes a fragment from a member, and has an address that is none of a member, fails. -/
theorem apply_of_isMember {e : Edit} {source : Nat} (hv : t.Valid) (hid : id ∈ e.ids)
    (hne : ¬t.IsMember id) (hsource : source ∈ e.sources) (hm : t.IsMember source) :
    ∃ source ∈ e.sources, t.IsMember source ∧
      e.apply t = .error (.mismatch source "source is a member declaration") := by
  cases e with
  | generated e => exact absurd hsource List.not_mem_nil
  | structural e =>
    rcases StructuralEdit.apply_of_isMember hv hsource hm with hall | hfails
    · rw [← hall id hid] at hm
      exact absurd hm hne
    · exact hfails

end Edit

namespace SourceTree

/-- An edit with an absent address leaves a reachable tree as it is if it takes no fragment from a
member; if it takes one from a member, it fails there. -/
theorem Reachable.apply_dangling {t : SourceTree} (h : t.Reachable) {e : Edit} {id : Nat}
    (hid : id ∈ e.ids) (habsent : t.contains id = false) :
    ((∀ source ∈ e.sources, ¬t.IsMember source) → e.apply t = .ok t) ∧
      ((∃ source ∈ e.sources, t.IsMember source) → ∃ source ∈ e.sources, t.IsMember source ∧
        e.apply t = .error (.mismatch source "source is a member declaration")) := by
  refine ⟨e.apply_of_absent hid habsent, ?_⟩
  rintro ⟨source, hsource, hm⟩
  exact e.apply_of_isMember h.valid hid (h.valid.not_isMember_of_absent habsent) hsource hm

/-- In a method from which a line was deleted, a copy to the address of that line does nothing, and a
swap of that line with the method itself fails. -/
theorem apply_dangling_deleted :
    let t : SourceTree :=
      ⟨[.block 1 .member "class K" [.block 2 .member "void run()" [.simple 4 .statement "b();"]]], 5,
        some 2⟩
    let copy : Edit := .structural (.copy 4 3)
    let swap : Edit := .structural (.swap 3 2)
    t.Reachable ∧ t.contains 3 = false ∧ copy.apply t = .ok t ∧
      swap.apply t = .error (.mismatch 2 "source is a member declaration") := by
  intro t copy swap
  let new := ofItems [.block "class K" [.block "void run()" [.simple "a();", .simple "b();"]]]
  have hf : new.focus "run" = .ok { new with target := some 2 } := by decide +kernel
  have hr : SourceTree.remove { new with target := some 2 } 3 = .ok t := by decide +kernel
  have ht : t.Reachable := .remove (.focus (.ofItems _) hf) hr
  have habsent : t.contains 3 = false := by decide +kernel
  have hcopy : 3 ∈ copy.ids := by decide
  have hswap : 3 ∈ swap.ids := by decide
  obtain ⟨source, hsource, hm, hfails⟩ :=
    (ht.apply_dangling hswap habsent).2 ⟨2, by decide, by decide +kernel⟩
  refine ⟨ht, habsent, (ht.apply_dangling hcopy habsent).1 (by decide +kernel), ?_⟩
  rcases List.mem_cons.mp hsource with rfl | hsource
  · exact absurd hm (by decide +kernel)
  · rwa [List.mem_singleton.mp hsource] at hfails

/-- Copying a method to the address of a line that was deleted fails, though it should do nothing. -/
theorem not_apply_dangling_of_member :
    let t : SourceTree :=
      ⟨[.block 1 .member "class K" [.block 2 .member "void run()" [.simple 4 .statement "b();"]]], 5,
        some 2⟩
    let copy : Edit := .structural (.copy 2 3)
    t.Reachable ∧ 3 ∈ copy.ids ∧ t.contains 3 = false ∧ copy.apply t ≠ .ok t := by
  intro t copy
  let new := ofItems [.block "class K" [.block "void run()" [.simple "a();", .simple "b();"]]]
  have hf : new.focus "run" = .ok { new with target := some 2 } := by decide +kernel
  have hr : SourceTree.remove { new with target := some 2 } 3 = .ok t := by decide +kernel
  have hfails : copy.apply t = .error (.mismatch 2 "source is a member declaration") := by
    decide +kernel
  refine ⟨.remove (.focus (.ofItems _) hf) hr, by decide, by decide +kernel, ?_⟩
  rw [hfails]
  exact fun h => nomatch h

end SourceTree

end PatchSearch
