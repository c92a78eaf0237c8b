import PatchSearch.Files.Basic

namespace PatchSearch

/-- Bytes in the place of those from an offset on; what is missing before them is zero. -/
def overlay (content : Text.Bytes) (offset : Nat) (bytes : Text.Bytes) : Text.Bytes :=
  if bytes = [] then content
  else
    content.take offset ++ List.replicate (offset - content.length) 0 ++ bytes ++
      content.drop (offset + bytes.length)

namespace Files

def addHandle (fs : Files) (node : Nat) (atEnd : Bool) : Nat × Files :=
  (fs.handles.size, { fs with handles := fs.handles.push ⟨node, 0, atEnd⟩ })

/-- Opens the file at a place to write it, and makes or empties it first. -/
def openToWrite (fs : Files) (place : List String) : Except FileError (Nat × Files) := do
  let fs ← fs.write place []
  match fs.node? place with
  | some n => return fs.addHandle n false
  | none => .error .isADirectory

/-- Opens the file at a place to add to its end, and makes it if it is not there. -/
def openToAppend (fs : Files) (place : List String) : Except FileError (Nat × Files) := do
  let fs ← match fs.entry? place with
    | some .directory => .error .isADirectory
    | some _ => pure fs
    | none => fs.write place []
  match fs.node? place with
  | some n => return fs.addHandle n true
  | none => .error .isADirectory

def openToRead (fs : Files) (place : List String) : Except FileError (Nat × Files) := do
  match fs.obstacle? place with
  | some e => .error e
  | none =>
    match fs.node? place with
    | some n => return fs.addHandle n false
    | none => .error .notFound

def rest (fs : Files) (handle : Nat) : Text.Bytes :=
  match fs.handles[handle]? with
  | none => []
  | some h =>
    match fs.nodes[h.node]? with
    | some (.file content _) => content.drop h.offset
    | _ => []

/-- Moves a handle by a number of bytes. -/
def advance (fs : Files) (handle count : Nat) : Files :=
  { fs with handles := fs.handles.modify handle fun h => { h with offset := h.offset + count } }

/-- Moves a handle back by a number of bytes. -/
def retreat (fs : Files) (handle count : Nat) : Files :=
  { fs with handles := fs.handles.modify handle fun h => { h with offset := h.offset - count } }

def writeThrough (fs : Files) (handle : Nat) (bytes : Text.Bytes) : Except FileError Files :=
  match fs.handles[handle]? with
  | none => .ok fs
  | some h =>
    match fs.nodes[h.node]? with
    | some (.file content mode) =>
      let offset := if h.atEnd then content.length else h.offset
      let fs := fs.setNode h.node (.file (overlay content offset bytes) mode)
      .ok { fs with
        handles := fs.handles.setIfInBounds handle { h with offset := offset + bytes.length } }
    | some (.device .full) => if bytes = [] then .ok fs else .error .noSpace
    | _ => .ok fs

end Files

end PatchSearch
