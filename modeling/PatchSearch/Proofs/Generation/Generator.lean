import PatchSearch.Generation.Generator
import PatchSearch.Proofs.Random

namespace PatchSearch

/-- The edit that an answer leads to is about the statement that was asked about, and its replacement
was read from a block of the answer. -/
theorem GeneratedEdit.ofResponse_spec (destination : Nat) (prompt response : String) :
    (ofResponse destination prompt response).destination = destination ∧
      ∀ s ∈ (ofResponse destination prompt response).replacement,
        ∃ block ∈ Fence.blocksOf response, Statement.parse block = .ok s := by
  unfold ofResponse
  dsimp only
  cases hf : List.findSome? _ (Fence.blocksOf response) with
  | none => exact ⟨rfl, fun s hs => nomatch hs⟩
  | some e =>
    obtain ⟨block, hmem, hb⟩ := List.exists_of_findSome?_eq_some hf
    split at hb
    next s hs =>
      cases hb
      refine ⟨rfl, fun s' hs' => ⟨block, hmem, ?_⟩⟩
      cases hs'
      exact hs
    next => cases hb

theorem Generator.generate_spec {ω : Type} {g : Generator ω} {t : SourceTree} {rng rng' : Random}
    {template : Template} {known : Tag.Values} {e : GeneratedEdit} {w w' : ω}
    (h : (g.generate t rng template known).run w = ((some e, rng'), w')) :
    e.destination ∈ t.statementIds true ∧
      ∀ s ∈ e.replacement, ∃ block, Statement.parse block = .ok s := by
  unfold generate at h
  split at h
  next => cases h
  next destination rng₁ hd =>
    obtain ⟨answer, w₁, _, h⟩ := exists_run_of_bind h
    have hm : destination ∈ t.statementIds true := Random.mem_of_choose hd
    cases answer with
    | error =>
      cases h
      exact ⟨hm, fun s hs => nomatch hs⟩
    | ok response =>
      cases h
      obtain ⟨hd, hs⟩ := GeneratedEdit.ofResponse_spec destination
        (template.render (g.values t destination known)) response
      refine ⟨hd.symm ▸ hm, fun s h => ?_⟩
      obtain ⟨block, _, hblock⟩ := hs s h
      exact ⟨block, hblock⟩

end PatchSearch
