import PatchSearch.Failure
import PatchSearch.Files.Path
import PatchSearch.Text.Utf8

namespace PatchSearch

/-- Files without content of their own. -/
inductive Device where
  /-- Is empty and takes everything. -/
  | null
  /-- Holds zeros without end and takes everything. -/
  | zero
  /-- Holds zeros without end and takes nothing. -/
  | full
deriving Repr, DecidableEq

inductive FileEntry where
  | directory
  /-- Bytes, and who may do what with them. -/
  | file (content : Text.Bytes) (mode : Nat)
  | link (target : String)
  | device (d : Device)
deriving Repr, DecidableEq

/-- The mode of a new file: all may read it, and its owner may write it. -/
def FileEntry.plainMode : Nat := 0o644

/-- A place in an open file where reading or writing goes on. -/
structure Handle where
  node : Nat
  offset : Nat
  /-- Whether writing goes on at the end, wherever that is. -/
  atEnd : Bool
deriving Repr, DecidableEq

/-- A tree of files: all places but the root, with the nodes that they stand for, and the files that
are open. -/
structure Files where
  entries : List (List String × Nat)
  nodes : Array FileEntry
  handles : Array Handle
deriving Repr, DecidableEq

namespace Files

def empty : Files := ⟨[], #[], #[]⟩

/-- The number of the node that a place stands for. -/
def node? (fs : Files) (place : List String) : Option Nat :=
  fs.entries.lookup place

def entry? (fs : Files) (place : List String) : Option FileEntry :=
  if place = [] then some .directory else (fs.node? place).bind fun n => fs.nodes[n]?

def isDirectory (fs : Files) (place : List String) : Bool :=
  fs.entry? place = some .directory

def isFile (fs : Files) (place : List String) : Bool :=
  match fs.entry? place with
  | some (.file _ _) => true
  | _ => false

/-- Lets a place that stands for nothing stand for a new node. -/
def create (fs : Files) (place : List String) (e : FileEntry) : Files :=
  { fs with entries := fs.entries ++ [(place, fs.nodes.size)], nodes := fs.nodes.push e }

def setNode (fs : Files) (n : Nat) (e : FileEntry) : Files :=
  { fs with nodes := fs.nodes.setIfInBounds n e }

def set (fs : Files) (place : List String) (e : FileEntry) : Files :=
  match fs.node? place with
  | some n => fs.setNode n e
  | none => fs.create place e

/-- Why a place cannot be reached, if it cannot: a directory on the way is missing or a file. -/
def obstacle? (fs : Files) (place : List String) : Option FileError :=
  match fs.entry? place.dropLast with
  | some .directory => none
  | some _ => some .notADirectory
  | none =>
    if (Path.stages place.dropLast).any fs.isFile then some .notADirectory else some .notFound

/-- The content of a file. A device without end counts as empty. -/
def read (fs : Files) (place : List String) : Except FileError Text.Bytes :=
  match fs.obstacle? place with
  | some e => .error e
  | none =>
    match fs.entry? place with
    | some (.file content _) => .ok content
    | some .directory => .error .isADirectory
    | some (.device _) => .ok []
    | some (.link _) => .error .tooManyLinks
    | none => .error .notFound

def readText (fs : Files) (place : List String) : Except FileError String := do
  match Text.decode? (← fs.read place) with
  | some s => return s
  | none => .error .notText

/-- Writes a file, a new one or in the place of the content of the old one. -/
def write (fs : Files) (place : List String) (content : Text.Bytes) : Except FileError Files :=
  match fs.obstacle? place with
  | some e => .error e
  | none =>
    match fs.entry? place with
    | none => .ok (fs.create place (.file content FileEntry.plainMode))
    | some (.file _ mode) => .ok (fs.set place (.file content mode))
    | some (.device .full) => if content = [] then .ok fs else .error .noSpace
    | some (.device _) => .ok fs
    | some .directory => .error .isADirectory
    | some (.link _) => .error .tooManyLinks

def makeDirectory (fs : Files) (place : List String) : Except FileError Files :=
  match fs.obstacle? place with
  | some e => .error e
  | none =>
    match fs.entry? place with
    | none => .ok (fs.create place .directory)
    | some _ => .error .alreadyThere

/-- Makes all directories on the way to a place and the place itself. -/
def makeDirectories (fs : Files) (place : List String) : Except FileError Files :=
  (Path.stages place).foldlM (fun fs p =>
    if fs.isDirectory p then .ok fs else fs.makeDirectory p) fs

def isWithin (outer place : List String) : Bool :=
  outer.isPrefixOf place

def remove (fs : Files) (place : List String) : Files :=
  { fs with entries := fs.entries.filter fun (p, _) => !isWithin place p }

/-- Goes on from a place, which has to be a directory, into a name. -/
def enter (fs : Files) (place : List String) (name : String) : Except FileError (List String) :=
  match fs.entry? place with
  | none => .error .notFound
  | some .directory =>
    if name.toList.contains '\x00' then .error .badName
    else if 255 < name.utf8ByteSize then .error .nameTooLong
    else .ok (Path.enter place name)
  | some _ => .error .notADirectory

/-- How many links a path may lead through. -/
def maxLinks : Nat := 40

/-- Goes on from a place into names; `jump` says where a link leads to. A link at the end is followed
only if `through` says so. -/
def follow (fs : Files) (through : Bool)
    (jump : List String → List String → Except FileError (List String)) (place : List String) :
    List String → Except FileError (List String)
  | [] => .ok place
  | name :: names => do
    let next ← fs.enter place name
    match fs.entry? next with
    | some (.link target) =>
      if names = [] ∧ !through then return next
      else jump (Path.start place target) (Path.parts target ++ names)
    | _ => follow fs through jump next names

/-- Goes on from a place into names, through at most `links` links. -/
def walk (fs : Files) (through : Bool) :
    (links : Nat) → (place names : List String) → Except FileError (List String)
  | 0 => fs.follow through fun _ _ => .error .tooManyLinks
  | links + 1 => fs.follow through (fs.walk through links)

/-- The place that a path leads to; only its last name may stand for nothing. -/
def locate (fs : Files) (directory : List String) (path : String) :
    Except FileError (List String) :=
  if path = "" then .error .notFound
  else fs.walk true maxLinks (Path.start directory path) (Path.parts path)

/-- The same, but a link at the end is the place itself. -/
def locateLink (fs : Files) (directory : List String) (path : String) :
    Except FileError (List String) :=
  if path = "" then .error .notFound
  else fs.walk false maxLinks (Path.start directory path) (Path.parts path)

/-- Makes the directories on a path that are missing. -/
def provide (fs : Files) (directory : List String) (path : String) : Except FileError Files := do
  let go (stop : Files × List String) (name : String) : Except FileError (Files × List String) := do
    let (fs, place) := stop
    let place ← fs.walk true maxLinks place [name]
    if fs.isDirectory place then return (fs, place)
    else return (← fs.makeDirectory place, place)
  return (← (Path.parts path).foldlM go (fs, Path.start directory path)).1

def readTextAt (fs : Files) (directory : List String) (path : String) : Except FileError String := do
  fs.readText (← fs.locate directory path)

/-- Writes a text to the file that a path leads to. -/
def writeTextAt (fs : Files) (directory : List String) (path text : String) :
    Except FileError Files := do
  fs.write (← fs.locate directory path) (Text.encode text)

def names (fs : Files) (place : List String) : List String :=
  fs.entries.filterMap fun (p, _) =>
    if p.dropLast = place then p.getLast? else none

/-- Moves a place and all that is below it in the place of whatever is there. -/
def rename (fs : Files) (source destination : List String) : Files :=
  let moved := fs.entries.filterMap fun (p, n) =>
    if isWithin source p then some (destination ++ p.drop source.length, n) else none
  let kept := ((fs.remove destination).remove source).entries
  { fs with entries := kept ++ moved }

/-- Lets a place that stands for nothing stand for the node of another. -/
def addName (fs : Files) (place : List String) (node : Nat) : Files :=
  { fs with entries := fs.entries ++ [(place, node)] }

/-- A tree with the directories and devices that every machine has. -/
def system : Files :=
  let directories : Files := [["bin"], ["dev"], ["etc"], ["home"], ["proc"], ["root"], ["tmp"], ["usr"],
    ["usr", "bin"], ["var"]].foldl (fun fs place => fs.create place .directory) empty
  [("null", Device.null), ("zero", .zero), ("full", .full)].foldl
    (fun fs (name, d) => fs.create ["dev", name] (.device d)) directories

end Files

end PatchSearch
