import PatchSearch.Proofs.Edit.Changes
import PatchSearch.Proofs.Statement.RoundTrip
import PatchSearch.Proofs.Tree.Entries

namespace PatchSearch

namespace Node

mutual

/-- The node with addresses from `start` on in pre-order, and otherwise as it is. -/
def renumber (start : Nat) : Node → Node
  | .simple _ role text => .simple start role text
  | .block _ role header children => .block start role header (renumberAll (start + 1) children)

def renumberAll (start : Nat) : List Node → List Node
  | [] => []
  | n :: ns => n.renumber start :: renumberAll (start + n.detach.size) ns

end

mutual

theorem attach_detach {role : Role} (start : Nat) :
    {n : Node} → n.Fits role → n.detach.attach role start = n.renumber start
  | .simple id role' text, h => by
    obtain rfl : role' = role := h
    rfl
  | .block id role' header children, h => by
    obtain ⟨rfl, hc⟩ := h
    rw [detach, Statement.attach, renumber, attachAll_detachAll (start + 1) hc]

/-- Attaching what was detached gives it the same roles again. -/
theorem attachAll_detachAll {role : Role} (start : Nat) :
    {ns : List Node} → FitsAll role ns →
      Statement.attachAll role start (detachAll ns) = renumberAll start ns
  | [], _ => rfl
  | n :: ns, h => by
    rw [detachAll, Statement.attachAll, renumberAll, attach_detach start h.1,
      attachAll_detachAll (start + n.detach.size) h.2]

end

end Node

theorem Statement.compositional_readable : Compositional Readable := by
  refine ⟨fun h => ?_, fun h hb => ?_⟩
  · cases h with
    | block _ hb => exact hb
  · cases h with
    | block hh _ => exact .block hh hb

namespace SourceTree

variable {t : SourceTree}

/-- A valid tree of readable fragments is read back from its rendering. -/
theorem Valid.parse_render (hv : t.Valid) (hc : Node.Consist Statement.Readable t.items) :
    ∃ u, parse t.render = .ok u ∧ u.root = t.root.renumber 0 ∧
      u.root.ids = List.range u.root.detach.size := by
  have hall : Statement.parseAll t.render = .ok (Node.detachAll t.items) :=
    Statement.parseAll_renderAll (Node.consist_detachAll.mp hc)
  have hroot : (ofItems (Node.detachAll t.items)).root = t.root.renumber 0 := by
    rw [root, ofItems, Node.attachAll_detachAll 1 hv.fits, root, Node.renumber]
  refine ⟨ofItems (Node.detachAll t.items), by rw [parse, hall]; rfl, hroot, ?_⟩
  rw [ids_root, ofItems, Statement.idsAll_attachAll, root, Node.detach,
    Statement.detachAll_attachAll, Statement.size, Nat.add_comm 1, List.range_eq_range',
    List.range'_succ]

/-- A statement in a tree of readable fragments is read back from its own text. -/
theorem parse_nodeText (hc : Node.Consist Statement.Readable t.items) {id : Nat} {n : Node}
    (h : t.statement id = .ok n) : Statement.parse n.render = .ok n.detach :=
  (consist_statement Statement.compositional_readable hc h).parse_render

theorem consist_of_parse {source : String} (h : parse source = .ok t) :
    Node.Consist Statement.Readable t.items ∧ t.Valid := by
  obtain ⟨ss, hs, h⟩ := exists_ok_of_bind h
  obtain rfl : ofItems ss = t := Except.ok.inj h
  exact ⟨consist_ofItems (readable_of_parseAll hs), valid_ofItems ss⟩

end SourceTree

namespace Patch

open SourceTree

/-- What is compiled is what the tree says: whatever a patch with readable replacements makes of a
program text, its rendering is read back as the same tree with its addresses numbered anew, and every
statement of it is read back from its own text. -/
theorem apply_parse_render {source : String} {t t' : SourceTree} {p : Patch}
    (target : Option Nat) (hs : SourceTree.parse source = .ok t)
    (hp : p.Brings fun s => ∃ text, Statement.parse text = .ok s)
    (h : p.apply { t with target := target } = .ok t') :
    (∃ u, SourceTree.parse t'.render = .ok u ∧ u.root = t'.root.renumber 0 ∧
        u.root.ids = List.range u.root.detach.size) ∧
      ∀ id ∈ t'.statementIds false, ∃ n text, t'.node? id = some n ∧ n.role = .statement ∧
        t'.nodeText? id = some text ∧ Statement.parse text = .ok n.detach := by
  obtain ⟨hc, hv⟩ := consist_of_parse hs
  have hb : p.Brings Statement.Readable := by
    intro e he s hs
    obtain ⟨text, ht⟩ := hp e he s hs
    exact Statement.readable_of_parse ht
  have hchanges : Changes (fun _ => True) Statement.Readable { t with target := target } t' :=
    p.changes (hv.withTarget target) Statement.compositional_readable hc
      (fun _ _ _ _ => trivial) hb h
  have hv' := hchanges.valid (hv.withTarget target)
  have hc' := hchanges.consist Statement.compositional_readable hc
  refine ⟨hv'.parse_render hc', fun id hid => ?_⟩
  obtain ⟨n, hn, hst⟩ := hv'.exists_statement hid
  refine ⟨n, n.render, hn, (exists_place_of_statement hst).2.1, ?_, parse_nodeText hc' hst⟩
  rw [nodeText?, hn]
  rfl

/-- A line is rewritten to a bare block with a brace in a string, and its second line swapped with one
in a loop. -/
theorem apply_parse_render_rewrite :
    let source := "class K \x7b void run() \x7b a(); while (c) \x7b b(); \x7d \x7d \x7d"
    let new := Statement.block "" [.simple "d = \x22\x7d\x22;", .simple "e();"]
    let p : Patch := ⟨[.generated ⟨3, some new, "", "", ""⟩, .structural (.swap 8 5)]⟩
    let t' : SourceTree :=
      ⟨[.block 1 .member "class K" [.block 2 .member "void run()"
        [.block 6 .statement "" [.simple 7 .statement "d = \x22\x7d\x22;", .simple 9 .statement "b();"],
          .block 4 .statement "while (c)" [.simple 10 .statement "e();"]]]], 11, some 2⟩
    (∃ t, SourceTree.parse source = .ok t ∧ p.apply { t with target := some 2 } = .ok t') ∧
      (∃ u, SourceTree.parse t'.render = .ok u ∧ u.root = t'.root.renumber 0 ∧
        u.root.ids = List.range u.root.detach.size) ∧
      ∀ id ∈ t'.statementIds false, ∃ n text, t'.node? id = some n ∧ n.role = .statement ∧
        t'.nodeText? id = some text ∧ Statement.parse text = .ok n.detach := by
  intro source new p t'
  let run : List Statement := [.simple "a();", .block "while (c)" [.simple "b();"]]
  let t := SourceTree.ofItems [.block "class K" [.block "void run()" run]]
  have hs : SourceTree.parse source = .ok t := by decide +kernel
  have hp : p.Brings fun s => ∃ text, Statement.parse text = .ok s := by
    have hnew : Statement.parse "d = \x22\x7d\x22; e();" = .ok new := by decide +kernel
    intro e he s hs
    rcases List.mem_cons.mp he with rfl | he
    · obtain rfl : new = s := Option.some.inj hs
      exact ⟨_, hnew⟩
    · obtain rfl : e = .structural (.swap 8 5) := List.mem_singleton.mp he
      simp [Edit.replacement?] at hs
  have h : p.apply { t with target := some 2 } = .ok t' := by decide +kernel
  exact ⟨⟨t, hs, h⟩, apply_parse_render (some 2) hs hp h⟩

end Patch

end PatchSearch
