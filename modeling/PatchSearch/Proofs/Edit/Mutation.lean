import PatchSearch.Edit.Mutation
import PatchSearch.Proofs.Edit.Reachable
import PatchSearch.Proofs.Random
import PatchSearch.Proofs.Tree.Confined

namespace PatchSearch

/-- Whatever a patch with addresses in `A` makes of the base, the statements that can be drawn from it
have addresses in `A`. -/
def SourceTree.Encloses (base : SourceTree) (A : Nat → Prop) : Prop :=
  ∀ p : Patch, p.Within A → ∀ id ∈ (Mutator.current p base).statementIds true, A id

namespace SourceTree

variable {base t : SourceTree} {m : Nat}

theorem Reachable.confined_apply (h : base.Reachable) (hm : base.target = some m) :
    ∃ p header, Confined base p m header base ∧ ∀ (q : Patch) {u}, q.Within (base.Inside m) →
      q.apply base = .ok u → Confined base p m header u := by
  obtain ⟨p, header, children, hp, _⟩ := h.exists_target hm
  have hb : Confined base p m header base := confined_self h.valid hm hp
  exact ⟨p, header, hb, fun q u hq hu => hb.changes hb (q.changes_of_within h.valid hq hu)⟩

/-- The inside of a target method encloses what can be drawn there. -/
theorem Reachable.encloses (h : base.Reachable) (hm : base.target = some m) :
    base.Encloses (base.Inside m) := by
  obtain ⟨p, header, hb, happly⟩ := h.confined_apply hm
  intro q hq
  unfold Mutator.current
  split
  next u hu => exact (happly q hq hu).statementIds
  next => exact hb.statementIds

/-- A patch with addresses inside a target method leaves everything outside it as it is. -/
theorem Reachable.outside_apply (h : base.Reachable) (hm : base.target = some m) {q : Patch}
    (hq : q.Within (base.Inside m)) (hu : q.apply base = .ok t) : t.outside m = base.outside m := by
  obtain ⟨p, header, hb, happly⟩ := h.confined_apply hm
  exact (happly q hq hu).outside_eq hb

end SourceTree

variable {A : Nat → Prop}

namespace Patch

theorem apply_empty (t : SourceTree) : empty.apply t = .ok t :=
  rfl

theorem within_empty : empty.Within A :=
  fun _ he => absurd he List.not_mem_nil

theorem Within.add {p : Patch} (h : p.Within A) {e : Edit} (he : ∀ id ∈ e.ids, A id) :
    (p.add e).Within A := by
  intro e' he'
  rcases List.mem_append.mp he' with he' | he'
  · exact h e' he'
  · rw [List.mem_singleton.mp he']
    exact he

theorem Within.of_subset {p q : Patch} (h : p.Within A) (hs : q.edits ⊆ p.edits) : q.Within A :=
  fun e he => h e (hs he)

/-- The patch is another one with at most one edit more. -/
def Extends (p q : Patch) : Prop :=
  p = q ∨ ∃ e, p = q.add e

theorem Extends.size_le {p q : Patch} (h : p.Extends q) : p.size ≤ q.size + 1 := by
  rcases h with rfl | ⟨e, rfl⟩
  · exact Nat.le_succ _
  · simp [Patch.size, Patch.add]

theorem Within.eraseAt {p : Patch} (h : p.Within A) (i : Nat) : (p.eraseAt i).Within A :=
  h.of_subset (List.eraseIdx_sublist _ i).subset

end Patch

/-- A random edit has addresses of statements that can be drawn. -/
theorem StructuralEdit.ids_random {kind : EditKind} {t : SourceTree} {g g' : Random}
    {e : StructuralEdit} (h : StructuralEdit.random kind t g = (some e, g')) :
    ∀ id ∈ e.addresses.map Prod.snd, id ∈ t.statementIds true := by
  unfold StructuralEdit.random at h
  split at h
  next => simp at h
  next first g₁ hfirst =>
    have hf : first ∈ t.statementIds true := Random.mem_of_choose hfirst
    generalize hr : t.randomId true g₁ = r at h
    obtain ⟨second?, g₂⟩ := r
    have hs : ∀ second ∈ second?, second ∈ t.statementIds true := by
      rintro second rfl
      exact Random.mem_of_choose hr
    cases kind with
    | delete =>
      obtain rfl : .delete first = e := Option.some.inj (Prod.mk.inj h).1
      simpa [addresses] using hf
    | copy | replace | swap | move =>
      obtain ⟨second, hsecond, rfl⟩ := Option.map_eq_some_iff.mp (Prod.mk.inj h).1
      simpa [addresses] using ⟨hf, hs second hsecond⟩

namespace Mutator

variable {base : SourceTree}

/-- A random edit is a rearrangement with addresses of statements that can be drawn. -/
theorem ids_randomEdit {m : Mutator} {t : SourceTree} {g g' : Random} {e : Edit}
    (h : m.randomEdit t g = (some e, g')) : ∀ id ∈ e.ids, id ∈ t.statementIds true := by
  unfold randomEdit at h
  split at h
  next => simp at h
  next kind g₁ _ =>
    generalize hr : StructuralEdit.random kind t g₁ = r at h
    obtain ⟨edit?, g₂⟩ := r
    obtain ⟨edit, rfl, rfl⟩ := Option.map_eq_some_iff.mp (Prod.mk.inj h).1
    exact StructuralEdit.ids_random hr

theorem mutate_extends (m : Mutator) (p : Patch) (base : SourceTree) (g : Random) :
    (m.mutate p base g).1.Extends p := by
  unfold mutate
  split
  next e _ _ => exact Or.inr ⟨e, rfl⟩
  next => exact Or.inl rfl

theorem within_mutate (m : Mutator) {p : Patch} (hA : base.Encloses A) (hp : p.Within A)
    (g : Random) : (m.mutate p base g).1.Within A := by
  unfold mutate
  split
  next edit g' h => exact hp.add fun id hid => hA p hp id (ids_randomEdit h id hid)
  next => exact hp

theorem within_mutants (m : Mutator) {p : Patch} (hA : base.Encloses A) (hp : p.Within A) (n : Nat)
    (g : Random) : ∀ q ∈ (m.mutants p base n g).1, q.Within A := by
  induction n generalizing g with
  | zero => exact fun q hq => absurd hq List.not_mem_nil
  | succ n ih =>
    intro q hq
    rw [mutants] at hq
    have hfirst := m.within_mutate hA hp g
    generalize m.mutate p base g = r at hq hfirst
    obtain ⟨first, g'⟩ := r
    have hrest := ih g'
    dsimp only at hq hfirst
    generalize m.mutants p base n g' = r at hq hrest
    obtain ⟨rest, g''⟩ := r
    rcases List.mem_cons.mp hq with rfl | hq
    · exact hfirst
    · exact hrest q hq

end Mutator

end PatchSearch
