import PatchSearch.Proofs.Edit.Mutation
import PatchSearch.Proofs.Generation.Generator
import PatchSearch.Proofs.Statement.RoundTrip

namespace PatchSearch

namespace Statement

theorem Readable.not_isVoid {s : Statement} (h : s.Readable) : s.isVoid = false := by
  cases h with
  | simple hl =>
    obtain ⟨_, _, _, _, _, _, htext⟩ := hl
    rw [isVoid, Text.isBlankText, htext, List.all_append]
    simp [Text.isBlank]
  | block _ _ => rfl

end Statement

/-- The edit can be applied to every version of the base: it puts nothing void in the place of what is
no member of the base. -/
def GeneratedEdit.Rewrites (base : SourceTree) (e : GeneratedEdit) : Prop :=
  ¬base.IsMember e.destination ∧ ∀ s ∈ e.replacement, s.isVoid = false

/-- All edits of the patch are generated ones that can be applied to every version of the base. -/
def Patch.Rewriting (base : SourceTree) (p : Patch) : Prop :=
  ∀ e ∈ p.edits, ∃ g : GeneratedEdit, e = .generated g ∧ g.Rewrites base

namespace GeneratedEdit

variable {base t : SourceTree} {e : GeneratedEdit}

theorem Rewrites.applies (h : e.Rewrites base) (hm : t.members = base.members) :
    ∃ t', e.apply t = .ok t' := by
  unfold apply
  split
  next => exact ⟨t, rfl⟩
  next s hs =>
    split
    next => exact ⟨t, rfl⟩
    next hc =>
      obtain ⟨n, hn⟩ : ∃ n, t.node? e.destination = some n := by
        rw [Bool.not_eq_true, Bool.not_eq_false', SourceTree.contains] at hc
        exact Option.isSome_iff_exists.mp hc
      have hmember : ¬t.IsMember e.destination := by
        rw [SourceTree.IsMember, hm]
        exact h.1
      rw [if_neg (ne_true_of_eq_false (h.2 s hs)), SourceTree.replace,
        SourceTree.statement_of_not_isMember hn hmember]
      exact ⟨_, rfl⟩

end GeneratedEdit

namespace Patch.Rewriting

variable {base t : SourceTree} {p : Patch}

theorem empty : Patch.empty.Rewriting base :=
  fun _ he => absurd he List.not_mem_nil

theorem add (h : p.Rewriting base) {g : GeneratedEdit} (hg : g.Rewrites base) :
    (p.add (.generated g)).Rewriting base := by
  intro e he
  rcases List.mem_append.mp he with he | he
  · exact h e he
  · exact ⟨g, List.mem_singleton.mp he, hg⟩

theorem eraseAt (h : p.Rewriting base) (i : Nat) : (p.eraseAt i).Rewriting base :=
  fun e he => h e ((List.eraseIdx_sublist _ i).subset he)

/-- Such a patch applies, and the members stay. -/
theorem apply_ok (h : p.Rewriting base) (hv : t.Valid) (hm : t.members = base.members) :
    ∃ t', p.apply t = .ok t' ∧ t'.Valid ∧ t'.members = base.members := by
  obtain ⟨edits⟩ := p
  induction edits generalizing t with
  | nil => exact ⟨t, rfl, hv, hm⟩
  | cons e es ih =>
    obtain ⟨g, rfl, hg⟩ := h e List.mem_cons_self
    obtain ⟨u, hu⟩ := hg.applies hm
    have hc : SourceTree.Changes (fun _ => True) (fun _ => True) t u :=
      g.changes hv trivial (fun _ _ => trivial) hu
    obtain ⟨t', ht', hv', hm'⟩ := ih (hc.valid hv) ((hc.members hv).trans hm)
      fun e' he' => h e' (List.mem_cons_of_mem _ he')
    refine ⟨t', ?_, hv', hm'⟩
    rw [Patch.apply, List.foldlM_cons]
    have hedit : (Edit.generated g).apply t = .ok u := hu
    rw [hedit]
    exact ht'

theorem applies (h : p.Rewriting base) (hv : base.Valid) : ∃ t, p.apply base = .ok t := by
  obtain ⟨t, ht, _⟩ := h.apply_ok hv rfl
  exact ⟨t, ht⟩

end Patch.Rewriting

/-- An edit that is generated for what such a patch makes can be applied in its turn. -/
theorem Generator.rewrites_generate {ω : Type} {g : Generator ω} {base : SourceTree} {p : Patch}
    {rng rng' : Random} {template : Template} {known : Tag.Values} {e : GeneratedEdit} {w w' : ω}
    (hp : p.Rewriting base) (hv : base.Valid)
    (h : (g.generate (Mutator.current p base) rng template known).run w = ((some e, rng'), w')) :
    e.Rewrites base := by
  obtain ⟨t, ht, htv, hm⟩ := hp.apply_ok hv rfl
  have hcurrent : Mutator.current p base = t := by
    rw [Mutator.current, ht]
  rw [hcurrent] at h
  obtain ⟨hdrawn, hread⟩ := generate_spec h
  refine ⟨?_, fun s hs => ?_⟩
  · rw [SourceTree.IsMember, ← hm]
    exact htv.not_isMember_of_drawn hdrawn
  · obtain ⟨block, hblock⟩ := hread s hs
    exact (Statement.readable_of_parse hblock).not_isVoid

end PatchSearch
