import PatchSearch.Proofs.Edit.Splicing

namespace PatchSearch

namespace SourceTree

variable {t u : SourceTree} {a b : Nat} {n m : Node}

/-- The operation leaves the node at its address in the tree. -/
def Operation.keeps : Operation → Bool
  | .insertBefore _ => true
  | .replace _ | .remove => false

/-- A statement that does not have the address of an operation below it, and is not taken out with the
node there, is found unchanged afterwards. -/
theorem Operation.statement_of_apply {o : Operation} (hv : t.Valid) (h : o.apply t a = .ok u)
    (hn : t.statement a = .ok n) (hm : t.statement b = .ok m) (ha : a ∉ Node.idsAll m.children)
    (hb : o.keeps = true ∨ b ∉ n.ids) : u.statement b = .ok m := by
  obtain ⟨n', hn', rfl⟩ := o.apply_ok h
  obtain rfl : n = n' := Except.ok.inj (hn.symm.trans hn')
  refine hv.statement_of_splice hn hm ha ?_ rfl
  have hold : b < t.nextId := by
    obtain ⟨_, hfound, _⟩ := statement_eq_ok_iff.mp hm
    exact (hv.range b (Node.findAll?_isSome_iff.mp (by rw [hfound]; rfl))).2
  have hfresh (s : Statement) : (s.attach .statement t.nextId).find? b = none := by
    refine Node.find?_of_not_mem fun hmem => ?_
    rw [Statement.ids_attach] at hmem
    have hle := (List.mem_range'_1.mp hmem).1
    omega
  cases o with
  | insertBefore s => simp [nodes, Node.findAll?, hfresh]
  | replace s | remove =>
    have hnone : n.find? b = none := Node.find?_of_not_mem (hb.resolve_left Bool.false_ne_true)
    simp [nodes, Node.findAll?, hfresh, hnone]

theorem fragment?_of_statement (h : t.statement a = .ok n) :
    StructuralEdit.fragment? t a = .ok (some n.detach) := by
  obtain ⟨_, _, hrole⟩ := statement_eq_ok_iff.mp h
  simp [StructuralEdit.fragment?, node?_of_statement h, Node.isStatement, hrole]

end SourceTree

namespace StructuralEdit

open SourceTree

variable {t : SourceTree} {a b : Nat} {n m : Node}

theorem swap_eq (hne : a ≠ b) (hn : t.statement a = .ok n) (hm : t.statement b = .ok m) :
    (swap a b).apply t =
      if t.isAncestor a b || t.isAncestor b a then
        .error (.mismatch a s!"cannot swap with nested node {b}")
      else t.replace a m.detach >>= fun u => u.replace b n.detach := by
  rw [apply, if_neg hne, fragment?_of_statement hn, fragment?_of_statement hm]
  rfl

theorem move_eq (hne : a ≠ b) (hn : t.statement a = .ok n) (hm : t.statement b = .ok m) :
    (move a b).apply t =
      if t.isAncestor a b then .error (.mismatch a s!"cannot move into own descendant {b}")
      else t.insertBefore b n.detach >>= fun u => u.remove a := by
  rw [apply, if_neg hne, fragment?_of_statement hn]
  exact if_neg (by simp [contains_of_statement hm])

end StructuralEdit

namespace SourceTree

variable {t : SourceTree} {a b : Nat} {n m : Node}

/-- The first step of a swap of statements that do not lie in each other leaves the second statement as
it is, so that the second step finds it. -/
theorem Valid.swap_steps (hv : t.Valid) (hne : a ≠ b) (hn : t.statement a = .ok n)
    (hm : t.statement b = .ok m) (hab : t.isAncestor a b = false) (hba : t.isAncestor b a = false) :
    ∃ u v, t.replace a m.detach = .ok u ∧ u.statement b = .ok m ∧ u.replace b n.detach = .ok v ∧
      (StructuralEdit.swap a b).apply t = .ok v := by
  have hout : b ∉ n.ids := not_mem_ids_of_not_isAncestor hne hn hab
  have hbelow : a ∉ Node.idsAll m.children := fun hmem =>
    not_mem_ids_of_not_isAncestor hne.symm hm hba (m.children_subset_ids hmem)
  obtain ⟨u, hu⟩ := (Operation.replace m.detach).exists_ok hn
  have hsecond : u.statement b = .ok m := Operation.statement_of_apply hv hu hn hm hbelow (Or.inr hout)
  obtain ⟨v, hw⟩ := (Operation.replace n.detach).exists_ok hsecond
  refine ⟨u, v, hu, hsecond, hw, ?_⟩
  have hfirst : t.replace a m.detach = .ok u := hu
  rw [StructuralEdit.swap_eq hne hn hm, if_neg (by simp [hab, hba]), hfirst]
  exact hw

/-- The first step of a move leaves the source as it is, so that the second step finds it. -/
theorem Valid.move_steps (hv : t.Valid) (hne : a ≠ b) (hn : t.statement a = .ok n)
    (hm : t.statement b = .ok m) (hab : t.isAncestor a b = false) :
    ∃ u v, t.insertBefore b n.detach = .ok u ∧ u.statement a = .ok n ∧ u.remove a = .ok v ∧
      (StructuralEdit.move a b).apply t = .ok v := by
  have hbelow : b ∉ Node.idsAll n.children := fun hmem =>
    not_mem_ids_of_not_isAncestor hne hn hab (n.children_subset_ids hmem)
  obtain ⟨u, hu⟩ := (Operation.insertBefore n.detach).exists_ok hm
  have hsource : u.statement a = .ok n := Operation.statement_of_apply hv hu hm hn hbelow (Or.inl rfl)
  obtain ⟨v, hw⟩ := Operation.remove.exists_ok hsource
  refine ⟨u, v, hu, hsource, hw, ?_⟩
  have hfirst : t.insertBefore b n.detach = .ok u := hu
  rw [StructuralEdit.move_eq hne hn hm, if_neg (by simp [hab]), hfirst]
  exact hw

end SourceTree

/-- Whatever goes wrong is a mismatch. -/
def FailsByMismatch {α : Type} (x : Except TreeError α) : Prop :=
  ∀ f, x = .error f → ∃ id reason, f = .mismatch id reason

theorem FailsByMismatch.ok {α : Type} (a : α) : FailsByMismatch (.ok a) :=
  fun _ h => nomatch h

theorem FailsByMismatch.mismatch {α : Type} (id : Nat) (reason : String) :
    FailsByMismatch (.error (.mismatch id reason) : Except TreeError α) := by
  rintro _ ⟨⟩
  exact ⟨id, reason, rfl⟩

theorem FailsByMismatch.bind {α β : Type} {x : Except TreeError α} {f : α → Except TreeError β}
    (h : FailsByMismatch x) (hf : ∀ a, x = .ok a → FailsByMismatch (f a)) :
    FailsByMismatch (x >>= f) := by
  cases x with
  | error e =>
    obtain ⟨id, reason, rfl⟩ := h e rfl
    exact .mismatch id reason
  | ok a => exact hf a rfl

variable {t : SourceTree}

open SourceTree

theorem SourceTree.Operation.failsByMismatch (o : Operation) (hv : t.Valid) {id : Nat}
    (hc : t.contains id = true) : FailsByMismatch (o.apply t id) := by
  rcases o.apply_cases hv id with ⟨habsent, _, _⟩ | ⟨_, _, ho⟩ | ⟨_, _, t', ho⟩
  · rw [hc] at habsent
    cases habsent
  · rw [ho]
    exact .mismatch _ _
  · rw [ho]
    exact .ok t'

namespace StructuralEdit

/-- What is done with a fragment goes well or ends in a mismatch if it does so without a fragment and with
that of a statement. -/
theorem bind_fragment?_failsByMismatch {source : Nat}
    {f : Option Statement → Except TreeError SourceTree} (hnone : FailsByMismatch (f none))
    (hsome : ∀ n, t.statement source = .ok n → FailsByMismatch (f (some n.detach))) :
    FailsByMismatch (fragment? t source >>= f) := by
  have hfragment : FailsByMismatch (fragment? t source) := by
    unfold fragment?
    split
    next => exact .ok _
    next =>
      split
      next => exact .ok _
      next => exact .mismatch _ _
  refine hfragment.bind fun o ho => ?_
  cases o with
  | none => exact hnone
  | some s =>
    obtain ⟨n, hn, rfl⟩ := statement_of_fragment? ho
    exact hsome n hn

variable {source destination first second : Nat}

theorem copy_failsByMismatch (hv : t.Valid) :
    FailsByMismatch ((copy source destination).apply t) := by
  refine bind_fragment?_failsByMismatch (.ok t) fun n _ => ?_
  dsimp only
  split
  next hc => exact (Operation.insertBefore n.detach).failsByMismatch hv hc
  next => exact .ok t

theorem replace_failsByMismatch (hv : t.Valid) :
    FailsByMismatch ((replace source destination).apply t) := by
  rw [apply]
  split
  next => exact .ok t
  next =>
    refine bind_fragment?_failsByMismatch (.ok t) fun n _ => ?_
    dsimp only
    split
    next hc => exact (Operation.replace n.detach).failsByMismatch hv hc
    next => exact .ok t

theorem swap_failsByMismatch (hv : t.Valid) :
    FailsByMismatch ((swap first second).apply t) := by
  rw [apply]
  split
  next => exact .ok t
  next hne =>
    have habsent : FailsByMismatch (fragment? t second >>= fun _ => .ok t) :=
      bind_fragment?_failsByMismatch (.ok t) fun _ _ => .ok t
    refine bind_fragment?_failsByMismatch habsent fun n hn => ?_
    refine bind_fragment?_failsByMismatch (.ok t) fun m hm => ?_
    dsimp only
    split
    next => exact .mismatch _ _
    next hnested =>
      rw [Bool.not_eq_true, Bool.or_eq_false_iff] at hnested
      obtain ⟨u, v, hu, _, hw, _⟩ := hv.swap_steps hne hn hm hnested.1 hnested.2
      have hsecond : FailsByMismatch (u.replace second n.detach) := by
        rw [hw]
        exact .ok v
      rw [hu]
      exact hsecond

theorem move_failsByMismatch (hv : t.Valid) :
    FailsByMismatch ((move source destination).apply t) := by
  rw [apply]
  split
  next => exact .ok t
  next hne =>
    refine bind_fragment?_failsByMismatch (.ok t) fun n hn => ?_
    dsimp only
    split
    next => exact .ok t
    next hc =>
      split
      next => exact .mismatch _ _
      next hnested =>
        have hcontains : t.contains destination = true := by simpa using hc
        refine ((Operation.insertBefore n.detach).failsByMismatch hv hcontains).bind ?_
        intro u hu
        obtain ⟨m, hm, _⟩ := Operation.apply_ok hu
        rw [Bool.not_eq_true] at hnested
        obtain ⟨u', v, hu', _, hw, _⟩ := hv.move_steps hne hn hm hnested
        obtain rfl : u = u' := Except.ok.inj (hu.symm.trans hu')
        rw [hw]
        exact .ok v

theorem failsByMismatch (e : StructuralEdit) (hv : t.Valid) : FailsByMismatch (e.apply t) := by
  cases e with
  | delete target =>
    rw [apply]
    split
    next hc => exact Operation.remove.failsByMismatch hv hc
    next => exact .ok t
  | copy source destination => exact copy_failsByMismatch hv
  | replace source destination => exact replace_failsByMismatch hv
  | swap first second => exact swap_failsByMismatch hv
  | move source destination => exact move_failsByMismatch hv

end StructuralEdit

theorem GeneratedEdit.failsByMismatch (e : GeneratedEdit) (hv : t.Valid) :
    FailsByMismatch (e.apply t) := by
  rw [apply]
  split
  next => exact .ok t
  next s _ =>
    split
    next => exact .ok t
    next hc =>
      split
      next => exact .mismatch _ _
      next =>
        have hcontains : t.contains e.destination = true := by simpa using hc
        exact (Operation.replace s).failsByMismatch hv hcontains

theorem Edit.failsByMismatch (e : Edit) (hv : t.Valid) : FailsByMismatch (e.apply t) := by
  cases e with
  | generated e => exact e.failsByMismatch hv
  | structural e => exact e.failsByMismatch hv

theorem Patch.failsByMismatch (p : Patch) (hv : t.Valid) : FailsByMismatch (p.apply t) := by
  obtain ⟨es⟩ := p
  induction es generalizing t with
  | nil => exact .ok t
  | cons e es ih =>
    rw [apply_cons]
    refine (e.failsByMismatch hv).bind fun u hu => ?_
    exact ih ((e.changes_of_apply hv hu).valid hv)

namespace SourceTree

/-- A patch succeeds on a reachable tree or fails by a mismatch. In every tree that it passes through the
second step of a swap and of a move finds its statement as it was, once the first step is taken. -/
theorem Reachable.apply_ok_or_mismatch (h : t.Reachable) (p : Patch) :
    ((∃ t', p.apply t = .ok t') ∨ ∃ id reason, p.apply t = .error (.mismatch id reason)) ∧
      ∀ es, es <+: p.edits → ∀ u, Patch.apply ⟨es⟩ t = .ok u → ∀ a b n m, a ≠ b →
        u.statement a = .ok n → u.statement b = .ok m → u.isAncestor a b = false →
        (u.isAncestor b a = false → ∃ v w, u.replace a m.detach = .ok v ∧ v.statement b = .ok m ∧
          v.replace b n.detach = .ok w ∧ (StructuralEdit.swap a b).apply u = .ok w) ∧
        ∃ v w, u.insertBefore b n.detach = .ok v ∧ v.statement a = .ok n ∧ v.remove a = .ok w ∧
          (StructuralEdit.move a b).apply u = .ok w := by
  refine ⟨?_, fun es _ u hu a b n m hne hn hm hab => ?_⟩
  · cases hp : p.apply t with
    | ok t' => exact Or.inl ⟨t', rfl⟩
    | error f =>
      obtain ⟨id, reason, rfl⟩ := p.failsByMismatch h.valid f hp
      exact Or.inr ⟨id, reason, rfl⟩
  · have hv := (Reachable.apply h hu).valid
    exact ⟨fun hba => hv.swap_steps hne hn hm hab hba, hv.move_steps hne hn hm hab⟩

/-- A line is swapped with a loop, a deleted line is copied, and then the method is copied, which fails;
before that a line can be moved in front of what was swapped. -/
theorem apply_ok_or_mismatch_member :
    let t := ofItems [.block "class K" [.block "void run()"
      [.simple "a();", .block "while (c)" [.simple "b();"], .simple "d();"]]]
    let es : List Edit := [.structural (.swap 3 4), .structural (.delete 6), .structural (.copy 6 9)]
    let p : Patch := ⟨es ++ [.structural (.copy 2 9)]⟩
    let u : SourceTree := ⟨[.block 1 .member "class K" [.block 2 .member "void run()"
      [.block 7 .statement "while (c)" [.simple 8 .statement "b();"], .simple 9 .statement "a();"]]],
      10, none⟩
    t.Reachable ∧ (∃ id reason, p.apply t = .error (.mismatch id reason)) ∧
      Patch.apply ⟨es⟩ t = .ok u ∧ ∃ v w, u.insertBefore 7 (.simple "a();") = .ok v ∧
        v.statement 9 = .ok (.simple 9 .statement "a();") ∧ v.remove 9 = .ok w ∧
        (StructuralEdit.move 9 7).apply u = .ok w := by
  intro t es p u
  have ht : t.Reachable := .ofItems _
  have hu : Patch.apply ⟨es⟩ t = .ok u := by decide +kernel
  obtain ⟨hfails, hsteps⟩ := ht.apply_ok_or_mismatch p
  have hline : u.statement 9 = .ok (.simple 9 .statement "a();") := by decide +kernel
  have hloop : u.statement 7 =
      .ok (.block 7 .statement "while (c)" [.simple 8 .statement "b();"]) := by decide +kernel
  obtain ⟨_, hmove⟩ := hsteps es (List.prefix_append es _) u hu 9 7 _ _ (by decide) hline hloop
    (by decide +kernel)
  have herror : ¬∃ t', p.apply t = .ok t' := by
    have hlast : p.apply t = .error (.mismatch 2 "source is a member declaration") := by decide +kernel
    simp [hlast]
  exact ⟨ht, hfails.resolve_left herror, hu, hmove⟩

end SourceTree

end PatchSearch
