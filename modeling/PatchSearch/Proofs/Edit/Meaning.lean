import PatchSearch.Proofs.Edit.Effects

namespace PatchSearch

namespace StructuralEdit

open SourceTree Rearrangement

/-- The edit as a rearrangement of the fragments of a tree. -/
def rearrangement (t : SourceTree) : StructuralEdit → Rearrangement
  | .delete target => still.placing target []
  | .copy source destination => still.inserting destination (t.fragmentAt source)
  | .replace source destination => still.placing destination (t.fragmentAt source)
  | .swap first second =>
    (still.placing second (t.fragmentAt first)).placing first (t.fragmentAt second)
  | .move source destination =>
    (still.placing source []).inserting destination (t.fragmentAt source)

/-- The addresses of the statements that the edit replaces or takes out. -/
def vacated : StructuralEdit → List Nat
  | .delete target => [target]
  | .copy _ _ => []
  | .replace source destination => if source = destination then [] else [destination]
  | .swap first second => if first = second then [] else [first, second]
  | .move source destination => if source = destination then [] else [source]

/-- The edit would swap a statement with one in it, or move one into itself. -/
def Impossible (t : SourceTree) : StructuralEdit → Prop
  | .swap first second =>
    first ≠ second ∧ (second ∈ t.idsAt first ∨ first ∈ t.idsAt second)
  | .move source destination => source ≠ destination ∧ destination ∈ t.idsAt source
  | .delete _ | .copy _ _ | .replace _ _ => False

/-- The second tree is the first one with the edit carried out. -/
structure CarriedOut (e : StructuralEdit) (t t' : SourceTree) : Prop where
  fragments : Node.detachAll t'.items = Node.rearrangeAll (e.rearrangement t) t.items
  others : t.survivors t' = t.entriesBut e.vacated
  contents : e.kind = .swap ∨ e.kind = .move → t'.contents.Perm t.contents

variable {t : SourceTree} {a b : Nat} {n m : Node}

theorem carriedOut_delete (hv : t.Valid) (hn : t.statement a = .ok n) :
    ∃ t', (delete a).apply t = .ok t' ∧ (delete a).CarriedOut t t' := by
  obtain ⟨u, hu⟩ := Operation.remove.exists_ok hn
  have happly : (delete a).apply t = .ok u := by
    rw [apply, if_pos (contains_of_statement hn)]
    exact hu
  exact ⟨u, happly, Operation.detachAll_apply hv hu, survivors_apply hv hu hn, by simp [kind]⟩

theorem carriedOut_copy (hv : t.Valid) (hn : t.statement a = .ok n) (hm : t.statement b = .ok m) :
    ∃ t', (copy a b).apply t = .ok t' ∧ (copy a b).CarriedOut t t' := by
  obtain ⟨u, hu⟩ := (Operation.insertBefore n.detach).exists_ok hm
  have happly : (copy a b).apply t = .ok u := by
    rw [apply, fragment?_of_statement hn]
    exact (if_pos (contains_of_statement hm)).trans hu
  refine ⟨u, happly, ?_, survivors_apply hv hu hm, by simp [kind]⟩
  rw [rearrangement, fragmentAt_of_statement hn]
  exact Operation.detachAll_apply hv hu

theorem carriedOut_replace (hv : t.Valid) (hne : a ≠ b) (hn : t.statement a = .ok n)
    (hm : t.statement b = .ok m) :
    ∃ t', (replace a b).apply t = .ok t' ∧ (replace a b).CarriedOut t t' := by
  obtain ⟨u, hu⟩ := (Operation.replace n.detach).exists_ok hm
  have happly : (replace a b).apply t = .ok u := by
    rw [apply, if_neg hne, fragment?_of_statement hn]
    exact (if_pos (contains_of_statement hm)).trans hu
  have hvacated : (replace a b).vacated = [b] := if_neg hne
  refine ⟨u, happly, ?_, ?_, by simp [kind]⟩
  · rw [rearrangement, fragmentAt_of_statement hn]
    exact Operation.detachAll_apply hv hu
  · rw [hvacated]
    exact survivors_apply hv hu hm

theorem carriedOut_swap (hv : t.Valid) (hne : a ≠ b) (hn : t.statement a = .ok n)
    (hm : t.statement b = .ok m) (hab : b ∉ t.idsAt a) (hba : a ∉ t.idsAt b) :
    ∃ t', (swap a b).apply t = .ok t' ∧ (swap a b).CarriedOut t t' := by
  have hnest := (isAncestor_eq_false_iff hn hne).mpr hab
  have hnest' := (isAncestor_eq_false_iff hm hne.symm).mpr hba
  obtain ⟨u, v, hu, hsame, hw, happly⟩ := hv.swap_steps hne hn hm hnest hnest'
  have hu : (Operation.replace m.detach).apply t a = .ok u := hu
  have hw : (Operation.replace n.detach).apply u b = .ok v := hw
  refine ⟨v, happly, ?_, ?_, fun _ => List.perm_iff_count.mpr fun x => ?_⟩
  · rw [rearrangement, fragmentAt_of_statement hn, fragmentAt_of_statement hm]
    exact detachAll_apply_twice hv hu hw (contains_of_statement hm)
  · rw [vacated, if_neg hne]
    exact survivors_apply_twice hv hu hw hn hm hsame
  · have hfirst := Operation.count_apply hv hu hn x
    have hsecond := Operation.count_apply ((Operation.change hv hu).valid hv) hw hsame x
    simp only [Operation.keeps, Operation.fresh, Statement.contentsAll, List.append_nil,
      Bool.false_eq_true, if_false] at hfirst hsecond
    omega

theorem carriedOut_move (hv : t.Valid) (hne : a ≠ b) (hn : t.statement a = .ok n)
    (hm : t.statement b = .ok m) (hab : b ∉ t.idsAt a) :
    ∃ t', (move a b).apply t = .ok t' ∧ (move a b).CarriedOut t t' := by
  have hnest := (isAncestor_eq_false_iff hn hne).mpr hab
  obtain ⟨u, v, hu, hsame, hw, happly⟩ := hv.move_steps hne hn hm hnest
  have hu : (Operation.insertBefore n.detach).apply t b = .ok u := hu
  have hw : Operation.remove.apply u a = .ok v := hw
  refine ⟨v, happly, ?_, ?_, fun _ => List.perm_iff_count.mpr fun x => ?_⟩
  · rw [rearrangement, fragmentAt_of_statement hn]
    exact detachAll_apply_twice hv hu hw (contains_of_statement hn)
  · rw [vacated, if_neg hne]
    exact survivors_apply_twice hv hu hw hm hn hsame
  · have hfirst := Operation.count_apply hv hu hm x
    have hsecond := Operation.count_apply ((Operation.change hv hu).valid hv) hw hsame x
    simp only [Operation.keeps, Operation.fresh, Statement.contentsAll, List.append_nil,
      List.count_nil, Bool.false_eq_true, if_false, if_true] at hfirst hsecond
    omega

/-- Fragments in the place of a statement that are its own come to nothing. -/
theorem rearrangeAll_of_same {r : Rearrangement} (hv : t.Valid) (hn : t.statement a = .ok n)
    (hother : ∀ b, b ≠ a → r.SameAt .still b) {ss : List Statement} (hinstead : r.instead a = some ss)
    (hss : r.before a ++ ss = [n.detach]) : Node.rearrangeAll r t.items = Node.detachAll t.items := by
  obtain ⟨_, hfound, _⟩ := statement_eq_ok_iff.mp hn
  refine Node.rearrangeAll_of_kept _ fun m hm => ?_
  by_cases hid : m.id = a
  · obtain rfl : m = n := hv.parts_inj hm (Node.mem_partsAll_of_findAll? hfound)
      (hid.trans (Node.findAll?_id _ hfound).symm)
    subst hid
    exact Or.inr ⟨ss, hinstead, hss⟩
  · exact Or.inl (hother m.id hid)

/-- With equal addresses the edit is the identity, and so is its rearrangement. -/
theorem carriedOut_same {e : StructuralEdit} (hv : t.Valid) (hn : t.statement a = .ok n)
    (he : e ∈ [replace a a, swap a a, move a a]) : e.apply t = .ok t ∧ e.CarriedOut t t := by
  have hall : t.survivors t = t.entriesBut [] := by
    refine List.filter_congr fun e he => ?_
    simp [contains_of_mem_entries he]
  have hperm (x : Prop) : x → t.contents.Perm t.contents := fun _ => List.Perm.refl _
  have hstays {r : Rearrangement} (hother : ∀ b, b ≠ a → r.SameAt .still b) {ss : List Statement}
      (hinstead : r.instead a = some ss) (hss : r.before a ++ ss = t.fragmentAt a) :
      Node.detachAll t.items = Node.rearrangeAll r t.items :=
    (rearrangeAll_of_same hv hn hother hinstead (hss.trans (fragmentAt_of_statement hn))).symm
  simp only [List.mem_cons, List.not_mem_nil, or_false] at he
  rcases he with rfl | rfl | rfl
  · have hvacated : (replace a a).vacated = [] := if_pos rfl
    obtain ⟨hbefore, hinstead⟩ := still.placing_self a (t.fragmentAt a)
    refine ⟨if_pos rfl, hstays (fun b hb => placing_of_ne hb) hinstead ?_, hvacated ▸ hall, hperm _⟩
    rw [rearrangement, hbefore, List.nil_append]
  · have hvacated : (swap a a).vacated = [] := if_pos rfl
    obtain ⟨hbefore, hinstead⟩ := (still.placing a (t.fragmentAt a)).placing_self a (t.fragmentAt a)
    refine ⟨if_pos rfl, hstays (fun b hb => (placing_of_ne hb).trans (placing_of_ne hb)) hinstead ?_,
      hvacated ▸ hall, hperm _⟩
    rw [rearrangement, hbefore, List.nil_append]
  · have hvacated : (move a a).vacated = [] := if_pos rfl
    obtain ⟨hbefore, hinstead⟩ := still.placing_self a []
    obtain ⟨hbefore', hinstead'⟩ := (still.placing a []).inserting_self a (t.fragmentAt a)
    refine ⟨if_pos rfl, hstays (fun b hb => (inserting_of_ne hb).trans (placing_of_ne hb))
      (hinstead'.trans hinstead) ?_, hvacated ▸ hall, hperm _⟩
    rw [rearrangement, hbefore', hbefore, List.append_nil, List.append_nil]

theorem swap_fails_of_nested (hne : a ≠ b) (hn : t.statement a = .ok n) (hm : t.statement b = .ok m)
    (hnest : b ∈ t.idsAt a ∨ a ∈ t.idsAt b) : ∃ f, (swap a b).apply t = .error f := by
  have hancestor : (t.isAncestor a b || t.isAncestor b a) = true := by
    rw [← Bool.not_eq_false, Bool.or_eq_false_iff, isAncestor_eq_false_iff hn hne,
      isAncestor_eq_false_iff hm hne.symm]
    exact fun h => hnest.elim h.1 h.2
  exact ⟨_, (swap_eq hne hn hm).trans (if_pos hancestor)⟩

theorem move_fails_of_nested (hne : a ≠ b) (hn : t.statement a = .ok n) (hm : t.statement b = .ok m)
    (hnest : b ∈ t.idsAt a) : ∃ f, (move a b).apply t = .error f := by
  have hancestor : t.isAncestor a b = true := by
    rw [← Bool.not_eq_false, isAncestor_eq_false_iff hn hne]
    exact not_not_intro hnest
  exact ⟨_, (move_eq hne hn hm).trans (if_pos hancestor)⟩

/-- At statements a structural edit is impossible and fails, or it is carried out. -/
theorem apply_cases (e : StructuralEdit) (hv : t.Valid)
    (he : ∀ id ∈ e.addresses.map Prod.snd, ∃ n, t.statement id = .ok n) :
    (e.Impossible t ∧ ∃ f, e.apply t = .error f) ∨
      (¬e.Impossible t ∧ ∃ t', e.apply t = .ok t' ∧ e.CarriedOut t t') := by
  cases e with
  | delete target =>
    obtain ⟨n, hn⟩ := he target (by simp [addresses])
    exact Or.inr ⟨id, carriedOut_delete hv hn⟩
  | copy source destination =>
    obtain ⟨n, hn⟩ := he source (by simp [addresses])
    obtain ⟨m, hm⟩ := he destination (by simp [addresses])
    exact Or.inr ⟨id, carriedOut_copy hv hn hm⟩
  | replace source destination =>
    obtain ⟨n, hn⟩ := he source (by simp [addresses])
    obtain ⟨m, hm⟩ := he destination (by simp [addresses])
    by_cases hne : source = destination
    · subst hne
      exact Or.inr ⟨id, t, carriedOut_same hv hn (by simp)⟩
    · exact Or.inr ⟨id, carriedOut_replace hv hne hn hm⟩
  | swap first second =>
    obtain ⟨n, hn⟩ := he first (by simp [addresses])
    obtain ⟨m, hm⟩ := he second (by simp [addresses])
    by_cases hne : first = second
    · subst hne
      exact Or.inr ⟨fun h => h.1 rfl, t, carriedOut_same hv hn (by simp)⟩
    · by_cases hnest : second ∈ t.idsAt first ∨ first ∈ t.idsAt second
      · exact Or.inl ⟨⟨hne, hnest⟩, swap_fails_of_nested hne hn hm hnest⟩
      · rw [not_or] at hnest
        exact Or.inr ⟨fun h => not_or.mpr hnest h.2, carriedOut_swap hv hne hn hm hnest.1 hnest.2⟩
  | move source destination =>
    obtain ⟨n, hn⟩ := he source (by simp [addresses])
    obtain ⟨m, hm⟩ := he destination (by simp [addresses])
    by_cases hne : source = destination
    · subst hne
      exact Or.inr ⟨fun h => h.1 rfl, t, carriedOut_same hv hn (by simp)⟩
    · by_cases hnest : destination ∈ t.idsAt source
      · exact Or.inl ⟨⟨hne, hnest⟩, move_fails_of_nested hne hn hm hnest⟩
      · exact Or.inr ⟨fun h => hnest h.2, carriedOut_move hv hne hn hm hnest⟩

end StructuralEdit

namespace SourceTree

/-- The meaning of a structural edit whose addresses are all those of statements of a reachable tree. It
fails exactly if it is impossible. If it succeeds, the fragments of the new tree are those of the old one
rearranged, all other nodes are where they were, and a swap and a move neither add nor lose contents; with
equal addresses nothing changes. -/
theorem Reachable.structural_meaning {t : SourceTree} (h : t.Reachable) {e : StructuralEdit}
    (he : ∀ id ∈ e.addresses.map Prod.snd, id ∈ t.statementIds false) :
    ((∃ f, e.apply t = .error f) ↔ e.Impossible t) ∧
      (∀ t', e.apply t = .ok t' → e.CarriedOut t t') ∧
      ∀ a, e ∈ [.replace a a, .swap a a, .move a a] → e.apply t = .ok t := by
  have hv := h.valid
  have hstatements : ∀ id ∈ e.addresses.map Prod.snd, ∃ n, t.statement id = .ok n := by
    intro id hid
    obtain ⟨n, _, hn⟩ := hv.exists_statement (he id hid)
    exact ⟨n, hn⟩
  refine ⟨?_, ?_, fun a hsame => ?_⟩
  · rcases e.apply_cases hv hstatements with ⟨hi, hf⟩ | ⟨hi, t', ht', _⟩
    · exact iff_of_true hf hi
    · exact iff_of_false (by simp [ht']) hi
  · intro u hu
    rcases e.apply_cases hv hstatements with ⟨_, f, hf⟩ | ⟨_, t', ht', hcarried⟩
    · rw [hf] at hu
      cases hu
    · rw [ht'] at hu
      cases hu
      exact hcarried
  · simp only [List.mem_cons, List.not_mem_nil, or_false] at hsame
    rcases hsame with rfl | rfl | rfl <;> exact if_pos rfl

/-- A line is moved out of a loop, in front of it; with the loop itself it cannot be swapped. -/
theorem structural_meaning_nested :
    let t := ofItems [.block "class K" [.block "void run()"
      [.block "while (c)" [.simple "a();", .simple "b();"], .simple "d();"]]]
    let move : StructuralEdit := .move 5 3
    let swap : StructuralEdit := .swap 3 5
    t.Reachable ∧ (∀ id ∈ [5, 3], id ∈ t.statementIds false) ∧ (∃ f, swap.apply t = .error f) ∧
      ∃ t', move.apply t = .ok t' ∧ Node.detachAll t'.items = [.block "class K" [.block "void run()"
        [.simple "b();", .block "while (c)" [.simple "a();"], .simple "d();"]]] ∧
        (t.survivors t').map Node.Entry.id = [1, 2, 3, 4, 6] ∧ t'.contents.Perm t.contents := by
  intro t move swap
  have ht : t.Reachable := .ofItems _
  have hids : ∀ id ∈ [5, 3], id ∈ t.statementIds false := by decide +kernel
  have hids' : ∀ id ∈ [3, 5], id ∈ t.statementIds false := by decide +kernel
  obtain ⟨hfails, _⟩ := ht.structural_meaning (e := swap) hids'
  have himpossible : swap.Impossible t := by
    exact ⟨by decide, Or.inl (by decide +kernel)⟩
  obtain ⟨hfails', hmoved, _⟩ := ht.structural_meaning (e := move) hids
  have hpossible : ¬move.Impossible t := fun h => absurd h.2 (by decide +kernel)
  cases ht' : move.apply t with
  | error f => exact absurd (hfails'.mp ⟨f, ht'⟩) hpossible
  | ok t' =>
    obtain ⟨hfragments, hothers, hcontents⟩ := hmoved t' ht'
    refine ⟨ht, hids, hfails.mpr himpossible, t', rfl, ?_, ?_, hcontents (Or.inr rfl)⟩
    · rw [hfragments]
      decide +kernel
    · rw [hothers]
      decide +kernel

end SourceTree

end PatchSearch
