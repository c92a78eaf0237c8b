import PatchSearch.Proofs.Edit.Omission
import PatchSearch.Proofs.Tree.Substitution

namespace PatchSearch

namespace SourceTree

variable {t : SourceTree} {id : Nat} {n : Node}

theorem statement_of_isMember (hv : t.Valid) (h : t.IsMember id) :
    t.statement id = .error (.mismatch id "target is a member declaration") := by
  obtain ⟨n, hn, hrole⟩ := hv.exists_member h
  have hs : n.isStatement = false := by simp [Node.isStatement, hrole]
  simp [statement, hn, hs]

theorem Valid.contains_of_isMember (hv : t.Valid) (h : t.IsMember id) : t.contains id = true := by
  obtain ⟨n, hn, _⟩ := hv.exists_member h
  rw [contains, hn, Option.isSome_some]

theorem exists_statement_of_contains (h : t.contains id = true) (hm : ¬t.IsMember id) :
    ∃ n, t.statement id = .ok n := by
  obtain ⟨n, hn⟩ := Option.isSome_iff_exists.mp h
  exact ⟨n, statement_of_not_isMember hn hm⟩

theorem spliceAll_of_absent (h : t.contains id = false) (new : Node → List Node) :
    Node.spliceAll id new t.items = t.items := by
  refine Node.spliceAll_of_not_mem _ fun hm => ?_
  rw [contains_iff.mpr (Or.inr hm)] at h
  cases h

/-- The entries of the nodes of a tree that are still there in a later version of it. -/
def survivors (base t : SourceTree) : List Node.Entry :=
  t.entries.filter fun e => base.contains e.id

/-- A substitution that has for the addresses in a table what the table says, as new nodes with addresses
from a bound on, and has nothing for other addresses. -/
def Substitutes (bound : Nat) (table : List (Nat × List Statement)) (σ : Nat → Option (List Node)) :
    Prop :=
  ∀ a, (σ a = none ∧ ∀ ss, (a, ss) ∉ table) ∨
    ∃ ss k, (a, ss) ∈ table ∧ bound ≤ k ∧ σ a = some (Statement.attachAll .statement k ss)

namespace Substitutes

variable {bound : Nat} {table table' : List (Nat × List Statement)}
  {σ τ : Nat → Option (List Node)}

theorem of_mem_iff (h : Substitutes bound table σ) (hmem : ∀ x, x ∈ table' ↔ x ∈ table) :
    Substitutes bound table' σ := by
  intro a
  rcases h a with ⟨hσ, hnone⟩ | ⟨ss, k, hss, hk, hσ⟩
  · exact Or.inl ⟨hσ, fun ss hs => hnone ss ((hmem _).mp hs)⟩
  · exact Or.inr ⟨ss, k, (hmem _).mpr hss, hk, hσ⟩

theorem cons (h : Substitutes bound table σ) {a k : Nat} (hk : bound ≤ k) (ss : List Statement) :
    Substitutes bound ((a, ss) :: table)
      (Function.update σ a (some (Statement.attachAll .statement k ss))) := by
  intro b
  by_cases hb : b = a
  · subst hb
    exact Or.inr ⟨ss, k, List.mem_cons_self, hk, Function.update_self _ _ _⟩
  · rw [Function.update_of_ne hb]
    rcases h b with ⟨hσ, hnone⟩ | ⟨ss', k', hss, hk', hσ⟩
    · refine Or.inl ⟨hσ, fun ss' hs => ?_⟩
      rcases List.mem_cons.mp hs with he | hs
      · exact hb (Prod.mk.inj he).1
      · exact hnone ss' hs
    · exact Or.inr ⟨ss', k', List.mem_cons_of_mem _ hss, hk', hσ⟩

/-- New nodes have no addresses that the substitution changes. -/
theorem eq_none (h : Substitutes bound table σ) (hlt : ∀ x ∈ table, x.1 < bound) {k : Nat}
    (hk : bound ≤ k) (ss : List Statement) :
    ∀ id ∈ Node.idsAll (Statement.attachAll .statement k ss), σ id = none := by
  intro id hid
  rw [Statement.idsAll_attachAll] at hid
  have hle := (List.mem_range'_1.mp hid).1
  rcases h id with ⟨hσ, _⟩ | ⟨ss', _, hss, _, _⟩
  · exact hσ
  · have hid := hlt _ hss
    dsimp only at hid
    omega

/-- Where no address occurs twice, substitutions for one table look the same if new nodes with other
addresses do. -/
theorem same {α : Type} {see : Nat → List Node → List α} (hσ : Substitutes bound table σ)
    (hτ : Substitutes bound table τ) (hnodup : (table.map Prod.fst).Nodup)
    (hnew : ∀ d ss k k', bound ≤ k → bound ≤ k' → see d (Statement.attachAll .statement k ss) =
      see d (Statement.attachAll .statement k' ss)) (a d : Nat) :
    (σ a).map (see d) = (τ a).map (see d) := by
  rcases hσ a with ⟨hs, hnone⟩ | ⟨ss, k, hss, hk, hs⟩
  · rcases hτ a with ⟨ht, _⟩ | ⟨ss, k, hss, _, _⟩
    · rw [hs, ht]
    · exact absurd hss (hnone ss)
  · rcases hτ a with ⟨_, hnone⟩ | ⟨ss', k', hss', hk', ht⟩
    · exact absurd hss (hnone ss)
    · have he : (a, ss') = (a, ss) := List.inj_on_of_nodup_map hnodup hss' hss rfl
      rw [hs, ht, (Prod.mk.inj he).2, Option.map_some, Option.map_some, hnew d ss k k' hk hk']

end Substitutes

end SourceTree

open SourceTree

namespace Edit

/-- The address that an edit overwrites, and the fragments that it puts there. -/
def overwriting? : Edit → Option (Nat × List Statement)
  | .structural (.delete target) => some (target, [])
  | .structural _ => none
  | .generated e => e.replacement.map fun s => (e.destination, [s])

/-- The edit is a deletion or a generated one whose replacement, if it has one, is not empty. -/
def Overwrites : Edit → Prop
  | .structural e => e.kind = .delete
  | .generated e => ∀ s ∈ e.replacement, s.isVoid = false

instance : DecidablePred Overwrites
  | .structural e => inferInstanceAs (Decidable (e.kind = .delete))
  | .generated e => inferInstanceAs (Decidable (∀ s ∈ e.replacement, s.isVoid = false))

variable {t : SourceTree} {e : Edit} {a : Nat} {ss : List Statement}

theorem apply_of_overwriting?_none (he : e.Overwrites) (h : e.overwriting? = none) (t : SourceTree) :
    e.apply t = .ok t := by
  cases e with
  | structural e =>
    cases e with
    | delete target => cases h
    | copy | replace | swap | move => cases he
  | generated e => simp [apply, GeneratedEdit.apply, Option.map_eq_none_iff.mp h]

/-- What stands at the address of a member cannot be overwritten. -/
theorem overwriting_fails (hv : t.Valid) (he : e.Overwrites) (h : e.overwriting? = some (a, ss))
    (hm : t.IsMember a) : ∃ f, e.apply t = .error f := by
  have hc := hv.contains_of_isMember hm
  have hs := statement_of_isMember hv hm
  cases e with
  | structural e =>
    cases e with
    | delete target =>
      cases h
      exact ⟨_, by rw [apply, StructuralEdit.apply, if_pos hc, remove, hs]; rfl⟩
    | copy | replace | swap | move => cases he
  | generated e =>
    obtain ⟨s, hr, hx⟩ := Option.map_eq_some_iff.mp h
    cases hx
    have hvoid := he s hr
    exact ⟨_, by simp [apply, GeneratedEdit.apply, hr, hc, hvoid, SourceTree.replace, hs]; rfl⟩

/-- An edit that overwrites no member is a splice at its address. -/
theorem overwriting_splices (he : e.Overwrites) (h : e.overwriting? = some (a, ss))
    (hm : ¬t.IsMember a) : ∃ u, e.apply t = .ok u ∧ u.items =
      Node.spliceAll a (fun _ => Statement.attachAll .statement t.nextId ss) t.items := by
  cases e with
  | structural e =>
    cases e with
    | delete target =>
      cases h
      cases hc : t.contains a with
      | false => exact ⟨t, by simp [apply, StructuralEdit.apply, hc], (spliceAll_of_absent hc _).symm⟩
      | true =>
        obtain ⟨n, hn⟩ := exists_statement_of_contains hc hm
        exact ⟨_, by rw [apply, StructuralEdit.apply, if_pos hc, remove, hn]; rfl, rfl⟩
    | copy | replace | swap | move => cases he
  | generated e =>
    obtain ⟨s, hr, hx⟩ := Option.map_eq_some_iff.mp h
    cases hx
    cases hc : t.contains e.destination with
    | false => exact ⟨t, by simp [apply, GeneratedEdit.apply, hr, hc], (spliceAll_of_absent hc _).symm⟩
    | true =>
      obtain ⟨n, hn⟩ := exists_statement_of_contains hc hm
      have hvoid := he s hr
      exact ⟨_, by simp [apply, GeneratedEdit.apply, hr, hc, hvoid, SourceTree.replace, hn]; rfl, rfl⟩

end Edit

namespace Patch

/-- What the edits of a patch overwrite. -/
def overwriting (p : Patch) : List (Nat × List Statement) :=
  p.edits.filterMap Edit.overwriting?

variable {t t' : SourceTree}

theorem apply_cons (e : Edit) (es : List Edit) (t : SourceTree) :
    apply ⟨e :: es⟩ t = e.apply t >>= apply ⟨es⟩ :=
  List.foldlM_cons

/-- A patch that overwrites things fails exactly if one of them is a member. -/
theorem overwriting_fails_iff {p : Patch} (hv : t.Valid) (he : ∀ e ∈ p.edits, e.Overwrites) :
    (∃ f, p.apply t = .error f) ↔ ∃ x ∈ p.overwriting, t.IsMember x.1 := by
  obtain ⟨es⟩ := p
  induction es generalizing t with
  | nil => simp [overwriting, apply, pure, Except.pure]
  | cons e es ih =>
    have hhead := he e List.mem_cons_self
    have htail := fun e' he' => he e' (List.mem_cons_of_mem e he')
    rw [apply_cons]
    cases ho : e.overwriting? with
    | none =>
      have hrest : overwriting ⟨e :: es⟩ = overwriting ⟨es⟩ := List.filterMap_cons_none ho
      rw [e.apply_of_overwriting?_none hhead ho t, hrest]
      exact ih hv htail
    | some x =>
      obtain ⟨a, ss⟩ := x
      have hrest : overwriting ⟨e :: es⟩ = (a, ss) :: overwriting ⟨es⟩ := List.filterMap_cons_some ho
      rw [hrest]
      by_cases hm : t.IsMember a
      · obtain ⟨f, hf⟩ := Edit.overwriting_fails hv hhead ho hm
        rw [hf]
        exact iff_of_true ⟨f, rfl⟩ ⟨(a, ss), List.mem_cons_self, hm⟩
      · obtain ⟨u, hu, _⟩ := Edit.overwriting_splices hhead ho hm
        have hc := Edit.changes_of_apply hv hu
        have hmember : ∀ x, u.IsMember x ↔ t.IsMember x := fun x => by
          rw [IsMember, IsMember, hc.members hv]
        rw [hu]
        refine (ih (hc.valid hv) htail).trans ?_
        simp only [hmember, List.exists_mem_cons_iff, hm, false_or]

/-- A patch that overwrites things comes to one substitution, by new nodes. -/
theorem exists_substitution {p : Patch} {bound : Nat} (hv : t.Valid)
    (he : ∀ e ∈ p.edits, e.Overwrites) (hlt : ∀ x ∈ p.overwriting, x.1 < bound)
    (hb : bound ≤ t.nextId) (h : p.apply t = .ok t') :
    ∃ σ, Substitutes bound p.overwriting σ ∧ t'.items = Node.substAll σ t.items := by
  obtain ⟨es⟩ := p
  induction es generalizing t with
  | nil =>
    cases h
    refine ⟨fun _ => none, fun a => Or.inl ⟨rfl, fun ss => List.not_mem_nil⟩, ?_⟩
    rw [Node.substAll_of_none _ fun _ _ => rfl]
  | cons e es ih =>
    have hhead := he e List.mem_cons_self
    have htail := fun e' he' => he e' (List.mem_cons_of_mem e he')
    rw [apply_cons] at h
    obtain ⟨u, hu, h⟩ := exists_ok_of_bind h
    have hc := Edit.changes_of_apply hv hu
    have hb' := Nat.le_trans hb hc.nextId_le
    cases ho : e.overwriting? with
    | none =>
      have hrest : overwriting ⟨e :: es⟩ = overwriting ⟨es⟩ := List.filterMap_cons_none ho
      rw [e.apply_of_overwriting?_none hhead ho t] at hu
      cases hu
      rw [hrest] at hlt ⊢
      exact ih hv hb htail hlt h
    | some x =>
      obtain ⟨a, ss⟩ := x
      have hrest : overwriting ⟨e :: es⟩ = (a, ss) :: overwriting ⟨es⟩ := List.filterMap_cons_some ho
      rw [hrest] at hlt ⊢
      have hlt' := fun x hx => hlt x (List.mem_cons_of_mem _ hx)
      obtain ⟨σ, hσ, ht'⟩ := ih (hc.valid hv) hb' htail hlt' h
      have hm : ¬t.IsMember a := fun hm => by
        obtain ⟨f, hf⟩ := Edit.overwriting_fails hv hhead ho hm
        rw [hf] at hu
        cases hu
      obtain ⟨u', hu', hitems⟩ := Edit.overwriting_splices hhead ho hm
      cases hu.symm.trans hu'
      refine ⟨_, hσ.cons hb ss, ?_⟩
      rw [ht', hitems, Node.substAll_spliceAll (hσ.eq_none hlt' hb ss)]

end Patch

namespace SourceTree

/-- Nodes that an edit introduces are none of the tree. -/
theorem Valid.filter_attachAll {t : SourceTree} (h : t.Valid) {next : Nat} (hn : t.nextId ≤ next)
    (depth : Nat) (ss : List Statement) :
    (Node.entriesAll depth (Statement.attachAll .statement next ss)).filter
      (fun e => t.contains e.id) = [] := by
  rw [List.filter_eq_nil_iff]
  intro e he
  have hid := mem_idsAll_of_mem_entriesAll he
  rw [Statement.idsAll_attachAll] at hid
  have hle := Nat.le_trans hn (List.mem_range'_1.mp hid).1
  simp [h.absent_of_nextId_le hle]

/-- The order of deletions and generated replacements does not matter. In a patch of such edits, with
addresses below the next one of the tree that occur only once, whether they lie inside each other or
not, the edits may be put in any order: the patch fails as before or makes the same text, and leaves the
same nodes of the tree in their places. -/
theorem Reachable.apply_perm {t : SourceTree} (h : t.Reachable) {p q : Patch}
    (hp : ∀ e ∈ p.edits, e.Overwrites) (hnodup : (p.overwriting.map Prod.fst).Nodup)
    (hlt : ∀ x ∈ p.overwriting, x.1 < t.nextId) (hperm : q.edits.Perm p.edits) :
    ((∃ f, q.apply t = .error f) ↔ ∃ f, p.apply t = .error f) ∧
      ∀ u, p.apply t = .ok u → ∃ v, q.apply t = .ok v ∧ v.render = u.render ∧
        t.survivors v = t.survivors u := by
  have hq : ∀ e ∈ q.edits, e.Overwrites := fun e he => hp e (hperm.mem_iff.mp he)
  have htable : q.overwriting.Perm p.overwriting := hperm.filterMap _
  have hfails : (∃ f, q.apply t = .error f) ↔ ∃ f, p.apply t = .error f := by
    rw [Patch.overwriting_fails_iff h.valid hp, Patch.overwriting_fails_iff h.valid hq]
    simp only [htable.mem_iff]
  refine ⟨hfails, fun u hu => ?_⟩
  cases hv : q.apply t with
  | error f =>
    obtain ⟨f', hf'⟩ := hfails.mp ⟨f, hv⟩
    rw [hf'] at hu
    cases hu
  | ok v =>
    obtain ⟨σ, hσ, hitems⟩ := Patch.exists_substitution h.valid hp hlt (Nat.le_refl _) hu
    have hlt' : ∀ x ∈ q.overwriting, x.1 < t.nextId := fun x hx => hlt x (htable.mem_iff.mp hx)
    obtain ⟨τ, hτ, hitems'⟩ := Patch.exists_substitution h.valid hq hlt' (Nat.le_refl _) hv
    have hτ := hτ.of_mem_iff fun x => htable.mem_iff.symm
    refine ⟨v, rfl, ?_, ?_⟩
    · have hsame := Node.see_substAll Node.observable_detachAll
        (hτ.same hσ hnodup fun _ ss k k' _ _ => by simp only [Statement.detachAll_attachAll]) 0 t.items
      rw [render, render, hitems, hitems', hsame]
    · have hsame := Node.see_substAll (Node.observable_filter fun e => t.contains e.id)
        (hτ.same hσ hnodup fun d ss k k' hk hk' => by
          rw [h.valid.filter_attachAll hk, h.valid.filter_attachAll hk']) 0 t.items
      rw [survivors, survivors, entries, entries, hitems, hitems', hsame]

/-- A line in a loop and a line after it are rewritten and the loop is deleted, once in this order and
once the other way round; for a third line there was no suggestion. -/
theorem apply_perm_nested :
    let new := ofItems [.block "class K" [.block "void run()"
      [.block "while (c)" [.simple "a();", .simple "b();"], .simple "d();", .simple "e();"]]]
    let t : SourceTree := { new with target := some 2 }
    let rewrite (id : Nat) (text : String) : Edit :=
      .generated ⟨id, some (.simple text), text, "p", "r"⟩
    let p : Patch := ⟨[rewrite 4 "x();", .structural (.delete 3), rewrite 6 "y();",
      .generated (.noSuggestion 4 "p" "r")]⟩
    let q : Patch := ⟨p.edits.reverse⟩
    ∃ u v, t.Reachable ∧ p.apply t = .ok u ∧ q.apply t = .ok v ∧ v.render = u.render ∧
      t.survivors v = t.survivors u ∧ (t.survivors v).map Node.Entry.id = [1, 2, 7] ∧ u ≠ v := by
  intro new t rewrite p q
  let made (id next : Nat) : SourceTree := ⟨[.block 1 .member "class K" [.block 2 .member "void run()"
    [.simple id .statement "y();", .simple 7 .statement "e();"]]], next, some 2⟩
  have hf : new.focus "run" = .ok t := by decide +kernel
  have ht : t.Reachable := .focus (.ofItems _) hf
  have hp : ∀ e ∈ p.edits, e.Overwrites := by decide +kernel
  have hu : p.apply t = .ok (made 9 10) := by decide +kernel
  have hv : q.apply t = .ok (made 8 9) := by decide +kernel
  obtain ⟨_, hsame⟩ := ht.apply_perm hp (by decide +kernel) (by decide +kernel)
    (List.reverse_perm p.edits)
  obtain ⟨v, hv', hrender, hsurvivors⟩ := hsame _ hu
  cases hv.symm.trans hv'
  exact ⟨_, _, ht, hu, hv, hrender, hsurvivors, by decide +kernel, by decide +kernel⟩

end SourceTree

end PatchSearch
