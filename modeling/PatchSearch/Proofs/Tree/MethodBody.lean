import PatchSearch.Proofs.Edit.Declarations
import PatchSearch.Proofs.Statement.TypeWords

namespace PatchSearch

namespace SourceTree

variable {t : SourceTree}

theorem mem_parts_root {n : Node} (hn : n ∈ Node.partsAll t.items) : n ∈ t.root.parts := by
  rw [root, Node.parts]
  exact List.mem_cons_of_mem _ hn

/-- Statements can be drawn and are found at their addresses. -/
theorem Valid.drawn_of_statement (hv : t.Valid) {n : Node} (hn : n ∈ Node.partsAll t.items)
    (hrole : n.role = .statement) : n.id ∈ t.statementIds false ∧ t.statement n.id = .ok n := by
  constructor
  · obtain ⟨e, he, hid, hstatement⟩ :=
      Node.exists_entry_iff (d := 0).mpr ⟨n, mem_parts_root hn, rfl, hrole⟩
    rw [← hid]
    exact List.mem_map_of_mem (List.mem_filter.mpr ⟨he, decide_eq_true hstatement⟩)
  · rw [statement, (hv.exists_fill hn).1]
    exact if_pos (decide_eq_true hrole)

/-- Members cannot be drawn, and edits that name their addresses fail. -/
theorem Valid.mismatch_of_member (hv : t.Valid) {n : Node} (hn : n ∈ Node.partsAll t.items)
    (hrole : n.role = .member) : n.id ∉ t.statementIds false ∧
      t.statement n.id = .error (.mismatch n.id "target is a member declaration") := by
  constructor
  · intro hdrawn
    exact hv.not_isMember_of_drawn hdrawn (isMember_iff.mpr ⟨n, mem_parts_root hn, rfl, hrole⟩)
  · rw [statement, (hv.exists_fill hn).1]
    exact if_neg (by simp [Node.isStatement, hrole])

/-- The walk through a new tree meets rising addresses. -/
theorem pairwise_entries_ofItems (ss : List Statement) :
    ((ofItems ss).root.entries 0).Pairwise fun e e' => e.id < e'.id := by
  have hids : ((ofItems ss).root.entries 0).map Node.Entry.id =
      List.range' 0 (Statement.sizeAll ss + 1) := by
    rw [entries_root, List.map_cons, Node.map_id_entriesAll 1 0, List.range'_succ]
    exact congrArg (0 :: ·) (Statement.idsAll_attachAll .member 1 ss)
  rw [← List.pairwise_map (f := Node.Entry.id) (R := (· < ·)), hids]
  exact List.pairwise_lt_range'

/-- A name that a member block declares leads to that block, or to one before it that declares it too. -/
theorem exists_focus {ss : List Statement} {e : Node.Entry} {name : String}
    (he : e ∈ (ofItems ss).members) (hb : e.isBlock = true)
    (hd : Header.declaresMethod e.text name = true) :
    ∃ first ∈ (ofItems ss).members, first.id ≤ e.id ∧ first.isBlock ∧
      Header.declaresMethod first.text name ∧
      (ofItems ss).focus name = .ok { ofItems ss with target := some first.id } := by
  obtain ⟨hwalk, hrole⟩ := List.mem_filter.mp he
  have hmeets : (decide (e.role = .member) && e.isBlock &&
      Header.declaresMethod e.text name) = true := by
    rw [hrole, hb, hd]
    rfl
  have hsorted := pairwise_entries_ofItems ss
  rw [focus]
  cases hf : ((ofItems ss).root.entries 0).find? fun e =>
      e.role = .member && e.isBlock && Header.declaresMethod e.text name with
  | none => exact absurd hmeets (List.find?_eq_none.mp hf e hwalk)
  | some first =>
    obtain ⟨hfirst, before, after, hsplit, hbefore⟩ := List.find?_eq_some_iff_append.mp hf
    simp only [Bool.and_eq_true] at hfirst
    obtain ⟨⟨hmember, hblock⟩, hdeclares⟩ := hfirst
    refine ⟨first, ?_, ?_, hblock, hdeclares, rfl⟩
    · exact List.mem_filter.mpr ⟨List.mem_of_find?_eq_some hf, hmember⟩
    · rw [hsplit] at hwalk hsorted
      rcases List.mem_append.mp hwalk with hmem | hmem
      · have hnot := hbefore e hmem
        rw [hmeets] at hnot
        cases hnot
      · rcases List.mem_cons.mp hmem with rfl | hmem
        · exact Nat.le_refl _
        · have hlater := (List.pairwise_append.mp hsorted).2.1
          exact Nat.le_of_lt (List.rel_of_pairwise_cons hlater hmem)

section

variable {source header : String} {id : Nat} {children : List Node}

/-- Take a block at the level of a type with no type keyword outside of the round brackets and literals of
its header. Without a type keyword inside them, all that stands in its body is a statement that can be
drawn and is found at its address, and a name that the header introduces makes the block the target, or
one before it that declares the name too. With one, the body holds members, which no edit can address,
and no name makes the block the target. -/
theorem method_bodies (h : parse source = .ok t)
    (hn : .block id .member header children ∈ Node.partsAll t.items)
    (hshown : Header.hasTypeWord (Header.shown header) = false) :
    (Header.hasTypeWord (Header.covered header) = false →
      (∀ n ∈ Node.partsAll children, n.role = .statement ∧ n.id ∈ t.statementIds false ∧
        t.statement n.id = .ok n) ∧
      ∀ name, Header.identifier name ≠ [] → (Header.identifier name).any Text.isBlank = false →
        Header.Introduces (Header.identifier name) header.toList →
        ∃ first ∈ t.members, first.id ≤ id ∧ first.isBlock ∧
          Header.declaresMethod first.text name ∧
          t.focus name = .ok { t with target := some first.id }) ∧
    (Header.hasTypeWord (Header.covered header) = true →
      (∀ n ∈ children, n.role = .member ∧ n.id ∉ t.statementIds false ∧
        t.statement n.id = .error (.mismatch n.id "target is a member declaration")) ∧
      ∀ name t', t.focus name = .ok t' → t'.target ≠ some id) := by
  obtain ⟨items, -, hitems⟩ := exists_ok_of_bind h
  cases Except.ok.inj hitems
  have hv := valid_ofItems items
  obtain ⟨-, p, hp⟩ := hv.exists_fill hn
  have hbelow : Node.partsAll children ⊆ Node.partsAll (ofItems items).items := by
    intro n hm
    rw [hp]
    exact p.parts_subset_fill List.mem_cons_self (List.mem_cons_of_mem _ hm)
  have hfits := (Node.fitsAll_partsAll hv.fits _ hn).2
  have hmember := mem_members_of_fill hp
  constructor
  · intro hcovered
    have htype : Header.isTypeHeader header = false := by
      rw [Header.isTypeHeader_eq_parts, hshown, hcovered, Bool.or_false]
    constructor
    · intro n hm
      have hbody : Node.FitsAll .statement children := by simpa [Role.inside, htype] using hfits
      have hrole := Node.fitsAll_statements hbody n hm
      exact ⟨hrole, hv.drawn_of_statement (hbelow hm) hrole⟩
    · intro name hne hblank hintroduces
      exact exists_focus hmember rfl
        ((Header.declaresMethod_iff hne hblank header).mpr ⟨htype, hintroduces⟩)
  · intro hcovered
    have htype : Header.isTypeHeader header = true := by
      rw [Header.isTypeHeader_eq_parts, hcovered, Bool.or_true]
    constructor
    · intro n hm
      have hbody : Node.FitsAll .member children := by simpa [Role.inside, htype] using hfits
      have hrole := (Node.fitsAll_iff.mp hbody n hm).role_eq
      exact ⟨hrole, hv.mismatch_of_member (hbelow (Node.mem_partsAll hm)) hrole⟩
    · intro name t' hfocus htarget
      obtain ⟨e, he, hrole, -, hd, rfl⟩ := focus_ok hfocus
      have hentry := hv.root_entries_inj he (List.mem_filter.mp hmember).1 (Option.some.inj htarget)
      rw [hentry] at hd
      exact Bool.false_ne_true ((isTypeHeader_of_declaresMethod hd).symm.trans htype)

/-- A method with type keywords next to a bracket and a quote, where they are no words of their own. -/
theorem method_bodies_annotated :
    let source := "class K \x7b @A(\x22class\x22) int f(struct node *n) \x7b g(n); \x7d \x7d"
    let header := "@A(\x22class\x22) int f(struct node *n)"
    let t : SourceTree :=
      ⟨[.block 1 .member "class K" [.block 2 .member header [.simple 3 .statement "g(n);"]]], 4, none⟩
    parse source = .ok t ∧ Header.isTypeHeader header = false ∧
      t.statement 3 = .ok (.simple 3 .statement "g(n);") ∧
      ∃ first ∈ t.members, first.id ≤ 2 ∧ Header.declaresMethod first.text "f" ∧
        t.focus "f" = .ok { t with target := some first.id } := by
  intro source header t
  have hp : parse source = .ok t := by decide +kernel
  have hn : .block 2 .member header [.simple 3 .statement "g(n);"] ∈ Node.partsAll t.items := by
    simp [t, Node.partsAll, Node.parts]
  have hshown : Header.hasTypeWord (Header.shown header) = false := by decide +kernel
  have hcovered : Header.hasTypeWord (Header.covered header) = false := by decide +kernel
  obtain ⟨hbody, hfocus⟩ := (method_bodies hp hn hshown).1 hcovered
  have hname : Header.identifier "f" = ['f'] := by decide +kernel
  have hheader : header.toList = "@A(\x22class\x22) int".toList ++
      ' ' :: (['f'] ++ ([] ++ '(' :: "struct node *n)".toList)) := by decide +kernel
  have hf : Header.Introduces (Header.identifier "f") header.toList := by
    rw [hname, hheader]
    exact Header.introduces_of_blank _ ['f'] [] _ (List.forall_mem_nil _)
  obtain ⟨first, hfirst, hle, -, hd, htarget⟩ := hfocus "f" (by decide +kernel) (by decide +kernel) hf
  refine ⟨hp, by decide +kernel, ?_, first, hfirst, hle, hd, htarget⟩
  exact (hbody (.simple 3 .statement "g(n);") (by simp [Node.partsAll, Node.parts])).2.2

/-- The body of a function with a type keyword in its parameters holds members. -/
theorem not_method_bodies_of_parameter :
    ¬∀ (source header : String) (t : SourceTree) (id : Nat) (children : List Node),
      parse source = .ok t → .block id .member header children ∈ Node.partsAll t.items →
        Header.hasTypeWord (Header.shown header) = false →
        ∀ n ∈ children, n.role = .statement := by
  intro h
  have hrole := h "int f(int a, struct node *n) \x7b g(); \x7d" "int f(int a, struct node *n)"
    ⟨[.block 1 .member "int f(int a, struct node *n)" [.simple 2 .member "g();"]], 3, none⟩ 1
    [.simple 2 .member "g();"] (by decide +kernel) (by simp [Node.partsAll, Node.parts])
    (by decide +kernel) (.simple 2 .member "g();") List.mem_cons_self
  cases hrole

end

end SourceTree

end PatchSearch
