import PatchSearch.Proofs.Tree.Entries

namespace PatchSearch

/-- What a node is apart from its parts does not depend on the depth where it stands. -/
theorem Node.entry_eq {n m : Node} {d d' : Nat} (h : n.entry d = m.entry d') :
    n.entry 0 = m.entry 0 := by
  cases n <;> cases m <;> simp_all [entry]

namespace SourceTree

variable {A : Nat → Prop} {F : Statement → Prop} {t t' : SourceTree} {id : Nat}

theorem nextId_gt_of_node? (hv : t.Valid) {n : Node} (h : t.node? id = some n) : id < t.nextId := by
  by_contra hle
  have habsent := hv.absent_of_nextId_le (Nat.le_of_not_lt hle)
  rw [contains, h] at habsent
  cases habsent

/-- After a change the walk holds the old entries and those of the fresh fragments. -/
theorem Change.mem_entries (h : Change A F t t') {e : Node.Entry} {d : Nat}
    (he : e ∈ Node.entriesAll d t'.items) : t.nextId ≤ e.id ∨ e ∈ Node.entriesAll d t.items := by
  obtain ⟨p, n, fresh, kept, hi, _, _, _, hkept, hi', _, _⟩ := h
  rw [hi', p.entriesAll_fill, Node.entriesAll_append] at he
  rw [hi, p.entriesAll_fill]
  rcases List.mem_append.mp he with he | he
  · rcases List.mem_append.mp he with he | he
    · exact Or.inr (List.mem_append_left _ (List.mem_append_left _ he))
    · rcases List.mem_append.mp he with he | he
      · have hid := mem_idsAll_of_mem_entriesAll he
        rw [Statement.idsAll_attachAll] at hid
        exact Or.inl (List.mem_range'_1.mp hid).1
      · rcases List.sublist_singleton.mp hkept with rfl | rfl
        · simp [Node.entriesAll] at he
        · exact Or.inr (List.mem_append_left _ (List.mem_append_right _ he))
  · exact Or.inr (List.mem_append_right _ he)

/-- A change introduces nothing at the addresses given out before: a node that is found at one of them
was there already. -/
theorem Change.exists_node (h : Change A F t t') (hv : t.Valid) {m : Node}
    (hm : t'.node? id = some m) (hid : id < t.nextId) :
    ∃ n, t.node? id = some n ∧ n.entry 0 = m.entry 0 := by
  rw [node?_eq] at hm ⊢
  split at hm
  next hz =>
    cases Option.some.inj hm
    exact ⟨t.root, if_pos hz, rfl⟩
  next hz =>
    obtain rfl := Node.findAll?_id _ hm
    obtain ⟨p, hp⟩ := Node.exists_place_of_findAll? _ hm
    have he : m.entry p.depth ∈ Node.entriesAll 0 t'.items := by
      rw [hp, p.entriesAll_fill, Node.entriesAll, Node.entriesAll, Node.entries_eq]
      simp
    rcases h.mem_entries he with hle | he
    · rw [Node.entry_id] at hle
      omega
    · obtain ⟨n, hn, q, _, hen⟩ := hv.exists_node he
      rw [Node.entry_id, node?_eq] at hn
      exact ⟨n, hn, Node.entry_eq hen.symm⟩

/-- One of the three operations leads from a version to the next. -/
inductive Operated (t t' : SourceTree) : Prop
  | replaced (id : Nat) (s : Statement) : t.replace id s = .ok t' → Operated t t'
  | inserted (id : Nat) (s : Statement) : t.insertBefore id s = .ok t' → Operated t t'
  | removed (id : Nat) : t.remove id = .ok t' → Operated t t'

theorem Operated.change (h : Operated t t') (hv : t.Valid) :
    Change (fun _ => True) (fun _ => True) t t' := by
  cases h with
  | replaced id s h => exact change_of_replace hv trivial trivial h
  | inserted id s h => exact change_of_insertBefore hv trivial trivial h
  | removed id h => exact change_of_remove hv trivial h

/-- The versions up to number `n` begin with a new tree and follow each other by operations. -/
structure IsHistory (versions : Nat → SourceTree) (n : Nat) : Prop where
  start : ∃ ss, versions 0 = ofItems ss
  step : ∀ i < n, Operated (versions i) (versions (i + 1))

namespace IsHistory

variable {versions : Nat → SourceTree} {n : Nat}

theorem valid (h : IsHistory versions n) {i : Nat} (hi : i ≤ n) : (versions i).Valid := by
  induction i with
  | zero =>
    obtain ⟨ss, hs⟩ := h.start
    rw [hs]
    exact valid_ofItems ss
  | succ i ih =>
    have hv := ih (Nat.le_of_succ_le hi)
    exact ((h.step i hi).change hv).valid hv

theorem nextId_le (h : IsHistory versions n) {i j : Nat} (hij : i ≤ j) (hj : j ≤ n) :
    (versions i).nextId ≤ (versions j).nextId := by
  induction hij with
  | refl => exact Nat.le_refl _
  | @step j _ ih =>
    have hle := ih (Nat.le_of_succ_le hj)
    exact Nat.le_trans hle ((h.step j hj).change (h.valid (Nat.le_of_succ_le hj))).nextId_le

/-- A node at an address that was given out up to some version was there in that version. -/
theorem exists_node (h : IsHistory versions n) {i j : Nat} (hij : i ≤ j) (hj : j ≤ n) {m : Node}
    (hm : (versions j).node? id = some m) (hid : id < (versions i).nextId) :
    ∃ a, (versions i).node? id = some a ∧ a.entry 0 = m.entry 0 := by
  induction hij generalizing m with
  | refl => exact ⟨m, hm, rfl⟩
  | @step j hij ih =>
    have hj' : j ≤ n := Nat.le_of_succ_le hj
    have hv := h.valid hj'
    have hlt := Nat.lt_of_lt_of_le hid (h.nextId_le hij hj')
    obtain ⟨b, hb, hbm⟩ := ((h.step j hj).change hv).exists_node hv hm hlt
    obtain ⟨a, ha, hab⟩ := ih hj' hb
    exact ⟨a, ha, hab.trans hbm⟩

/-- What a later version has at an address of an earlier one is the same part. -/
theorem entry_eq_of_le (h : IsHistory versions n) {i j : Nat} (hij : i ≤ j) (hj : j ≤ n) {a b : Node}
    (ha : (versions i).node? id = some a) (hb : (versions j).node? id = some b) :
    a.entry 0 = b.entry 0 := by
  have hid := nextId_gt_of_node? (h.valid (Nat.le_trans hij hj)) ha
  obtain ⟨a', ha', he⟩ := h.exists_node hij hj hb hid
  cases Option.some.inj (ha.symm.trans ha')
  exact he

theorem contains_of_contains (h : IsHistory versions n) {i j k : Nat} (hij : i ≤ j) (hjk : j ≤ k)
    (hk : k ≤ n) (hi : (versions i).contains id = true) (hc : (versions k).contains id = true) :
    (versions j).contains id = true := by
  obtain ⟨a, ha⟩ := Option.isSome_iff_exists.mp hi
  obtain ⟨b, hb⟩ := Option.isSome_iff_exists.mp hc
  have hj := Nat.le_trans hjk hk
  have hid := nextId_gt_of_node? (h.valid (Nat.le_trans hij hj)) ha
  obtain ⟨c, hc, _⟩ := h.exists_node hjk hk hb (Nat.lt_of_lt_of_le hid (h.nextId_le hij hj))
  rw [contains, hc]
  rfl

end IsHistory

/-- Addresses keep their meaning. In any two versions of a history an address names a node with the same
role and the same text or header; once it is gone it is gone for good; and an address that a step
introduces occurs in no earlier version. -/
theorem addresses_keep_meaning {versions : Nat → SourceTree} {n : Nat} (h : IsHistory versions n) :
    (∀ i ≤ n, ∀ j ≤ n, ∀ id a b, (versions i).node? id = some a → (versions j).node? id = some b →
      a.entry 0 = b.entry 0) ∧
    (∀ i j k, i < j → j < k → k ≤ n → ∀ id, (versions i).contains id = true →
      (versions j).contains id = false → (versions k).contains id = false) ∧
    (∀ i < n, ∀ id, (versions i).contains id = false → (versions (i + 1)).contains id = true →
      ∀ k ≤ i, (versions k).contains id = false) := by
  refine ⟨fun i hi j hj id a b ha hb => ?_, fun i j k hij hjk hk id hi hj => ?_,
    fun i hi id hold hnew k hki => ?_⟩
  · rcases Nat.le_total i j with hij | hji
    · exact h.entry_eq_of_le hij hj ha hb
    · exact (h.entry_eq_of_le hji hi hb ha).symm
  · rw [← Bool.not_eq_true]
    intro hc
    rw [h.contains_of_contains (Nat.le_of_lt hij) (Nat.le_of_lt hjk) hk hi hc] at hj
    cases hj
  · rw [← Bool.not_eq_true]
    intro hc
    rw [h.contains_of_contains hki (Nat.le_succ i) hi hc hnew] at hold
    cases hold

/-- A statement is inserted, another is replaced, and the inserted one is taken out again. -/
theorem addresses_keep_meaning_example :
    let v₀ := ofItems [.block "class K" [.block "void run()" [.simple "a();", .simple "b();"]]]
    let v₁ := (v₀.insertBefore 4 (.simple "c();")).toOption.getD v₀
    let v₂ := (v₁.replace 3 (.simple "d();")).toOption.getD v₁
    let v₃ := (v₂.remove 5).toOption.getD v₂
    let versions := fun i => [v₀, v₁, v₂].getD i v₃
    IsHistory versions 3 ∧ versions 2 = v₂ ∧
      (∀ a b, v₀.node? 4 = some a → v₃.node? 4 = some b → a.entry 0 = b.entry 0) ∧
      v₃.contains 3 = false ∧ v₀.contains 6 = false ∧ v₁.contains 6 = false ∧
      v₂.contains 6 = true := by
  intro v₀ v₁ v₂ v₃ versions
  have hist : IsHistory versions 3 := by
    refine ⟨⟨_, rfl⟩, ?_⟩
    intro i hi
    match i with
    | 0 => exact .inserted 4 (.simple "c();") (by decide +kernel)
    | 1 => exact .replaced 3 (.simple "d();") (by decide +kernel)
    | 2 => exact .removed 5 (by decide +kernel)
    | i + 3 => omega
  obtain ⟨hsame, hgone, hnew⟩ := addresses_keep_meaning hist
  refine ⟨hist, rfl, hsame 0 (by omega) 3 (by omega) 4, ?_, ?_, ?_, by decide +kernel⟩
  · exact hgone 0 2 3 (by omega) (by omega) (by omega) 3 (by decide +kernel) (by decide +kernel)
  · exact hnew 1 (by omega) 6 (by decide +kernel) (by decide +kernel) 0 (by omega)
  · exact hnew 1 (by omega) 6 (by decide +kernel) (by decide +kernel) 1 (by omega)

end SourceTree

end PatchSearch
