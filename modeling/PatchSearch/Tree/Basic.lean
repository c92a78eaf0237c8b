import PatchSearch.Statement.Header
import PatchSearch.Statement.Reader
import PatchSearch.Statement.Printer

namespace PatchSearch

inductive Role where
  /-- Type declarations, fields, methods and whatever else stands at the level of a type. -/
  | member
  | statement
deriving Repr, DecidableEq

/-- A part of a program with its address and role. -/
inductive Node where
  | simple (id : Nat) (role : Role) (text : String)
  | block (id : Nat) (role : Role) (header : String) (children : List Node)
deriving Repr

namespace Node

mutual

def decEq : (a b : Node) → Decidable (a = b)
  | .simple id role text, .simple id' role' text' =>
    if h : id = id' ∧ role = role' ∧ text = text' then isTrue (by rw [h.1, h.2.1, h.2.2])
    else isFalse (by simpa using h)
  | .block id role header cs, .block id' role' header' cs' =>
    if h : id = id' ∧ role = role' ∧ header = header' then
      match decEqAll cs cs' with
      | isTrue hc => isTrue (by rw [h.1, h.2.1, h.2.2, hc])
      | isFalse hc => isFalse fun he => hc (block.inj he).2.2.2
    else isFalse fun he =>
      have := block.inj he
      h ⟨this.1, this.2.1, this.2.2.1⟩
  | .simple _ _ _, .block _ _ _ _ => isFalse (by simp)
  | .block _ _ _ _, .simple _ _ _ => isFalse (by simp)

def decEqAll : (as bs : List Node) → Decidable (as = bs)
  | [], [] => isTrue rfl
  | a :: as, b :: bs =>
    match decEq a b, decEqAll as bs with
    | isTrue h, isTrue h' => isTrue (by rw [h, h'])
    | isFalse h, _ => isFalse (by simp [h])
    | _, isFalse h => isFalse (by simp [h])
  | [], _ :: _ => isFalse (by simp)
  | _ :: _, [] => isFalse (by simp)

end

instance : DecidableEq Node := decEq

def id : Node → Nat
  | .simple id _ _ | .block id _ _ _ => id

def role : Node → Role
  | .simple _ role _ | .block _ role _ _ => role

def children : Node → List Node
  | .simple _ _ _ => []
  | .block _ _ _ children => children

def header? : Node → Option String
  | .simple _ _ _ => none
  | .block _ _ header _ => some header

def isStatement (n : Node) : Bool :=
  n.role = .statement

mutual

/-- The node as a fragment, without addresses and roles. -/
def detach : Node → Statement
  | .simple _ _ text => .simple text
  | .block _ _ header children => .block header (detachAll children)

def detachAll : List Node → List Statement
  | [] => []
  | n :: ns => n.detach :: detachAll ns

end

/-- A node in a walk through a tree, with its depth. -/
structure Entry where
  id : Nat
  depth : Nat
  role : Role
  isBlock : Bool
  text : String
deriving Repr, DecidableEq

mutual

/-- The node and all its parts in pre-order. -/
def entries (depth : Nat) : Node → List Entry
  | .simple id role text => [⟨id, depth, role, false, text⟩]
  | .block id role header children =>
    ⟨id, depth, role, true, header⟩ :: entriesAll (depth + 1) children

def entriesAll (depth : Nat) : List Node → List Entry
  | [] => []
  | n :: ns => n.entries depth ++ entriesAll depth ns

end

mutual

/-- The first node with an address, in pre-order. -/
def find? (target : Nat) : Node → Option Node
  | .simple id role text => if id = target then some (.simple id role text) else none
  | .block id role header children =>
    if id = target then some (.block id role header children) else findAll? target children

def findAll? (target : Nat) : List Node → Option Node
  | [] => none
  | n :: ns => (n.find? target).or (findAll? target ns)

end

mutual

/-- The node with the node at an address below it replaced by others. -/
def splice (target : Nat) (new : Node → List Node) : Node → Node
  | .simple id role text => .simple id role text
  | .block id role header children => .block id role header (spliceAll target new children)

def spliceAll (target : Nat) (new : Node → List Node) : List Node → List Node
  | [] => []
  | n :: ns =>
    if n.id = target then new n ++ spliceAll target new ns
    else n.splice target new :: spliceAll target new ns

end

/-- The addresses of the statements in the node, itself included, in pre-order. -/
def statementIds (n : Node) : List Nat :=
  ((n.entries 0).filter fun e => e.role = .statement).map Entry.id

def render (n : Node) : String :=
  n.detach.render

end Node

/-- The role of the parts of a block: only the body of a type holds members. -/
def Role.inside (role : Role) (header : String) : Role :=
  match role with
  | .statement => .statement
  | .member => if Header.isTypeHeader header then .member else .statement

mutual

/-- The fragment as a node, with addresses from `start` on in pre-order. -/
def Statement.attach (role : Role) (start : Nat) : Statement → Node
  | .simple text => .simple start role text
  | .block header body =>
    .block start role header (Statement.attachAll (role.inside header) (start + 1) body)

def Statement.attachAll (role : Role) (start : Nat) : List Statement → List Node
  | [] => []
  | s :: ss => s.attach role start :: Statement.attachAll role (start + s.size) ss

end

inductive TreeError where
  | notFound (id : Nat)
  | mismatch (id : Nat) (reason : String)
  | methodNotFound (name : String)
deriving Repr, DecidableEq

def TreeError.message : TreeError → String
  | .notFound id => s!"node {id} not found"
  | .mismatch id reason => s!"node {id} cannot be rewritten as a statement: {reason}"
  | .methodNotFound name => s!"method `{name}` not found"

structure SourceTree where
  items : List Node
  nextId : Nat
  /-- The method that random addresses are drawn from. -/
  target : Option Nat
deriving Repr, DecidableEq

namespace SourceTree

/-- The tree of a compilation unit; the root has the address 0. -/
def ofItems (items : List Statement) : SourceTree :=
  ⟨Statement.attachAll .member 1 items, 1 + Statement.sizeAll items, none⟩

def parse (source : String) : Except ParseError SourceTree := do
  return ofItems (← Statement.parseAll source)

def root (t : SourceTree) : Node :=
  .block 0 .member "" t.items

def node? (t : SourceTree) (id : Nat) : Option Node :=
  t.root.find? id

def contains (t : SourceTree) (id : Nat) : Bool :=
  (t.node? id).isSome

/-- All nodes but the root, in pre-order. -/
def entries (t : SourceTree) : List Node.Entry :=
  Node.entriesAll 0 t.items

def size (t : SourceTree) : Nat :=
  t.entries.length

def isEmpty (t : SourceTree) : Bool :=
  t.items.isEmpty

def nodeText? (t : SourceTree) (id : Nat) : Option String :=
  (t.node? id).map Node.render

def render (t : SourceTree) : String :=
  Statement.renderAll (Node.detachAll t.items)

/-- The node that random addresses are drawn from: the target method, or the whole program. -/
def scope (t : SourceTree) : Node :=
  ((t.target.bind t.node?).getD t.root)

/-- The addresses of the statements of the whole program, or of the target method only. -/
def statementIds (t : SourceTree) (inMethod : Bool) : List Nat :=
  (if inMethod then t.scope else t.root).statementIds

/-- Whether the second address lies strictly inside the first. -/
def isAncestor (t : SourceTree) (ancestor descendant : Nat) : Bool :=
  ancestor ≠ descendant &&
    ((t.node? ancestor).bind fun n => n.find? descendant).isSome

/-- Makes the first member block that declares a method of this name the target. -/
def focus (t : SourceTree) (name : String) : Except TreeError SourceTree :=
  match (t.root.entries 0).find? fun e =>
      e.role = .member && e.isBlock && Header.declaresMethod e.text name with
  | some e => .ok { t with target := some e.id }
  | none => .error (.methodNotFound name)

/-- The statement at an address; members are no statements. -/
def statement (t : SourceTree) (id : Nat) : Except TreeError Node :=
  match t.node? id with
  | none => .error (.notFound id)
  | some n => if n.isStatement then .ok n else .error (.mismatch id "target is a member declaration")

def replace (t : SourceTree) (id : Nat) (s : Statement) : Except TreeError SourceTree := do
  let _ ← t.statement id
  return { t with
    items := Node.spliceAll id (fun _ => [s.attach .statement t.nextId]) t.items
    nextId := t.nextId + s.size }

def insertBefore (t : SourceTree) (id : Nat) (s : Statement) : Except TreeError SourceTree := do
  let _ ← t.statement id
  return { t with
    items := Node.spliceAll id (fun n => [s.attach .statement t.nextId, n]) t.items
    nextId := t.nextId + s.size }

def remove (t : SourceTree) (id : Nat) : Except TreeError SourceTree := do
  let _ ← t.statement id
  return { t with items := Node.spliceAll id (fun _ => []) t.items }

end SourceTree

end PatchSearch
