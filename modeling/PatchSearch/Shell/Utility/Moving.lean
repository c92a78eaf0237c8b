import PatchSearch.Shell.Utility.Places

namespace PatchSearch.Shell

section Destinations

abbrev Moves := List (String × String)

/-- Reads the operands of a utility that brings files somewhere; the error is a status. -/
def readMoves (c : Call) (a : Arguments) : Work (Except Nat Moves) := do
  let fs ← Work.files
  let into (directory : String) (sources : List String) : Moves :=
    sources.map fun s => (s, below directory (lastName s))
  match a.operands, a.value? 't' with
  | [], _ => return .error (← c.misuse "missing file operand" 1)
  | sources, some directory =>
    if c.isDirectory fs directory then return .ok (into directory sources)
    let e := match c.entry fs directory with
      | .ok _ => FileError.notADirectory
      | .error e => e
    return .error (← c.fail ("target directory " ++ inQuotes directory ++ ": " ++ reason e) 1)
  | [one], none => return .error (← c.misuse ("missing destination file operand after " ++ inQuotes one) 1)
  | [source, target], none =>
    if c.isDirectory fs target && !a.has 'T' && !(a.has 'h' && (match c.linkEntry fs target with
        | .ok (.link _) => true
        | _ => false)) then return .ok (into target [source])
    return .ok [(source, target)]
  | paths, none =>
    let target := paths.getLast?.getD ""
    if a.has 'T' then
      return .error (← c.misuse ("extra operand " ++ inQuotes (paths.getD 2 "")) 1)
    match c.entry fs target with
    | .ok .directory => return .ok (into target paths.dropLast)
    | .ok _ => return .error (← c.fail ("target " ++ inQuotes target ++ ": Not a directory") 1)
    | .error e => return .error (← c.fail ("target " ++ inQuotes target ++ ": " ++ reason e) 1)

/-- The place of a source, where a link stands for itself, and what is there. -/
def sourceEntry (c : Call) (fs : Files) (path : String) : Except FileError (List String × FileEntry) := do
  let place ← c.locateLink fs path
  match fs.entry? place with
  | some e => return (place, e)
  | none => .error ((fs.obstacle? place).getD .notFound)

/-- The place of a destination, where slashes at the end only suit a directory. -/
def targetPlace (c : Call) (fs : Files) (isDirectory : Bool) (path : String) :
    Except FileError (List String) := do
  let place ← c.locateLink fs (trimSlashes path)
  if path.toList.getLast? = some '/' ∧ !isDirectory ∧ (fs.entry? place).isNone then
    throw .notADirectory
  match fs.obstacle? place with
  | some e => .error e
  | none => return place

/-- Keeps what is at a place under another name, as backups have it. -/
def keepBackup (a : Arguments) (fs : Files) (place : List String) : Files :=
  match a.has 'b', place.getLast? with
  | true, some name =>
    if (fs.entry? place).isSome then fs.rename place (place.dropLast ++ [name ++ "~"]) else fs
  | _, _ => fs

end Destinations

section Mv

def movePath (c : Call) (a : Arguments) (source target : String) : Work (Except String Unit) := do
  let fs ← Work.files
  let between := inQuotes source ++ " to " ++ inQuotes target
  match sourceEntry c fs source with
  | .error e => return .error ("cannot stat " ++ inQuotes source ++ ": " ++ reason e)
  | .ok (place, entry) =>
    let isDirectory := entry == .directory
    match targetPlace c fs isDirectory target with
    | .error e => return .error ("cannot move " ++ between ++ ": " ++ reason e)
    | .ok goal =>
      let old := fs.entry? goal
      if lastName source = "." ∨ lastName source = ".." then
        return .error ("cannot move " ++ between ++ ": Device or resource busy")
      if old.isSome && a.has 'n' then return .ok ()
      if old.isSome && place == goal then
        return .error (inQuotes source ++ " and " ++ inQuotes target ++ " are the same file")
      if Files.isWithin place goal ∧ place ≠ goal then
        return .error ("cannot move " ++ inQuotes source ++ " to a subdirectory of itself, " ++ inQuotes target)
      if old.isSome && a.has 'u' && (fs.node? place).getD 0 ≤ (fs.node? goal).getD 0 then return .ok ()
      match old with
      | some .directory =>
        if !isDirectory then
          return .error ("cannot overwrite directory " ++ inQuotes target ++ " with non-directory")
        if fs.names goal ≠ [] && !a.has 'b' then
          return .error ("cannot overwrite " ++ inQuotes target ++ ": Directory not empty")
      | some _ =>
        if isDirectory then
          return .error ("cannot overwrite non-directory " ++ inQuotes target ++ " with directory " ++
            inQuotes source)
      | none => pure ()
      if old.isSome && a.has 'i' && !a.has 'f' then
        if !(← isConfirmed (c.name ++ ": overwrite " ++ inQuotes target ++ "? ")) then return .ok ()
      Work.setFiles ((keepBackup a (← Work.files) goal).rename place goal)
      if a.has 'v' then Work.sayLine ("renamed " ++ inQuotes source ++ " -> " ++ inQuotes target)
      return .ok ()

def mv : Utility := fun c =>
  (OptionForm.mk "finvuTbZ" "tS" [("force", 'f'), ("interactive", 'i'), ("no-clobber", 'n'), ("verbose", 'v'),
      ("update", 'u'), ("no-target-directory", 'T'), ("target-directory", 't'), ("backup", 'b'),
      ("strip-trailing-slashes", 'Z')] false).apply c 1 fun a => do
    match ← readMoves c a with
    | .error status => return status
    | .ok moves =>
      let mut status := 0
      for (source, target) in moves do
        match ← movePath c a source target with
        | .ok () => pure ()
        | .error message =>
          c.warn message
          status := 1
      return status

end Mv

section Cp

/-- Puts a file at a place, a new one or in the place of the old content. -/
def putFile (a : Arguments) (fs : Files) (goal : List String) (content : Text.Bytes) (mode : Nat) :
    Except FileError Files := do
  let isNew := (fs.entry? goal).isNone
  let fs ← fs.write goal content
  match fs.entry? goal with
  | some (.file content _) =>
    return if isNew || a.has 'p' || a.has 'a' then fs.set goal (.file content mode) else fs
  | _ => return fs

/-- Copies what is at one place, without what is below it. -/
def copyEntry (c : Call) (a : Arguments) (source target : String) (place : List String) (entry : FileEntry) :
    Work (Except String Unit) := do
  let fs ← Work.files
  let isDirectory := entry == .directory
  let cannot := if isDirectory then "cannot create directory " else "cannot create regular file "
  -- A link is followed where a file is written, unless it is itself replaced.
  match targetPlace c fs isDirectory target with
  | .error e => return .error (cannot ++ inQuotes target ++ ": " ++ reason e)
  | .ok own =>
    let goal := match fs.entry? own, c.locate fs target with
      | some (.link _), .ok goal => if a.has 'l' || a.has 's' then own else goal
      | _, _ => own
    let old := fs.entry? goal
    if old.isSome && a.has 'n' && !isDirectory then return .ok ()
    if old.isSome && !isDirectory && (fs.node? place).isSome && fs.node? goal == fs.node? place &&
        !(a.has 'l' || a.has 's') then
      return .error (inQuotes source ++ " and " ++ inQuotes target ++ " are the same file")
    if old.isSome && a.has 'u' && !isDirectory && (fs.node? place).getD 0 ≤ (fs.node? goal).getD 0 then
      return .ok ()
    if old.isSome && a.has 'i' && !a.has 'f' && !isDirectory && old != some .directory then
      if !(← isConfirmed (c.name ++ ": overwrite " ++ inQuotes target ++ "? ")) then return .ok ()
    let now ← Work.files
    let fs := if isDirectory then now else keepBackup a now goal
    let made : Except String Files := match entry, old with
      | .directory, some .directory => .ok fs
      | .directory, some _ =>
        .error ("cannot overwrite non-directory " ++ inQuotes target ++ " with directory " ++ inQuotes source)
      | _, some .directory =>
        .error ("cannot overwrite directory " ++ inQuotes target ++ " with non-directory")
      | .directory, none =>
        (fs.makeDirectory goal).mapError fun e => cannot ++ inQuotes target ++ ": " ++ reason e
      | .link path, _ => .ok ((fs.remove goal).create goal (.link path))
      | entry, old =>
        if a.has 's' then
          if old.isSome && !a.has 'f' then
            .error ("cannot create symbolic link " ++ inQuotes target ++ ": File exists")
          else .ok ((fs.remove goal).create goal (.link (Text.fromBytewise source)))
        else if a.has 'l' then
          match fs.node? place with
          | some n =>
            if old.isSome && !a.has 'f' then
              .error ("cannot create hard link " ++ inQuotes target ++ " to " ++ inQuotes source ++ ": File exists")
            else .ok ((fs.remove goal).addName goal n)
          | none => .ok fs
        else
          let (content, mode) := match entry with
            | .file content mode => (content, mode)
            | _ => ([], FileEntry.plainMode)
          (putFile a fs goal content mode).mapError fun e => cannot ++ inQuotes target ++ ": " ++ reason e
    match made with
    | .error message => return .error message
    | .ok fs =>
      Work.setFiles fs
      if a.has 'v' then Work.sayLine (inQuotes source ++ " -> " ++ inQuotes target)
      return .ok ()

/-- Copies a file, or a directory with all that is below it. -/
def copyPath (c : Call) (a : Arguments) (source target : String) : Work (Except String Unit) := do
  let fs ← Work.files
  let deep := a.has 'r' || a.has 'R' || a.has 'a'
  let keepsLinks := (deep || a.has 'P' || a.has 'd') && !a.has 'L' && !a.has 'H'
  let found := if keepsLinks then sourceEntry c fs source else do
    let place ← c.locate fs source
    return (place, ← c.entry fs source)
  match found with
  | .error e => return .error ("cannot stat " ++ inQuotes source ++ ": " ++ reason e)
  | .ok (place, .directory) =>
    if !deep then return .error ("-r not specified; omitting directory " ++ inQuotes source)
    let goal := (c.locate fs (trimSlashes target)).toOption
    let isInside := (goal.map fun g => Files.isWithin place g && g != place).getD false
    if goal == some place then
      return .error (inQuotes source ++ " and " ++ inQuotes target ++ " are the same file")
    match ← copyEntry c a source target place .directory with
    | .error message => return .error message
    | .ok () =>
      let inner := fs.entries.filter fun (p, _) => Files.isWithin place p && p != place &&
        !((goal.map fun g => Files.isWithin g p).getD false)
      let mut fault : Option String := none
      for (p, n) in inner do
        let names := Text.bytewise ("/".intercalate (p.drop place.length))
        let entry := (fs.nodes[n]?).getD .directory
        match ← copyEntry c a (below source names) (below target names) p entry with
        | .ok () => pure ()
        | .error message =>
          match fault with
          | some earlier => c.warn earlier
          | none => pure ()
          fault := some message
      if isInside then
        return .error ("cannot copy a directory, " ++ inQuotes source ++ ", into itself, " ++ inQuotes target)
      match fault with
      | some message => return .error message
      | none => return .ok ()
  | .ok (place, entry) => copyEntry c a source target place entry

def cp : Utility := fun c =>
  (OptionForm.mk "abdfiHlLnPprRsTuvxZ" "tS" [("archive", 'a'), ("backup", 'b'), ("force", 'f'),
      ("interactive", 'i'), ("link", 'l'), ("dereference", 'L'), ("no-clobber", 'n'), ("no-dereference", 'P'),
      ("preserve", 'p'), ("recursive", 'r'), ("symbolic-link", 's'), ("target-directory", 't'),
      ("no-target-directory", 'T'), ("update", 'u'), ("verbose", 'v'), ("strip-trailing-slashes", 'Z'),
      ("parents", 'Z'), ("one-file-system", 'x')] false).apply c 1 fun a => do
    match ← readMoves c a with
    | .error status => return status
    | .ok moves =>
      let mut status := 0
      for (source, target) in moves do
        match ← copyPath c a source target with
        | .ok () => pure ()
        | .error message =>
          c.warn message
          status := 1
      return status

end Cp

section Ln

/-- Gives a file a further name, or makes a link with a path. -/
def linkPath (c : Call) (a : Arguments) (source target : String) : Work (Except String Unit) := do
  let fs ← Work.files
  let kind := if a.has 's' then "symbolic" else "hard"
  let failed (e : FileError) : Except String Unit :=
    .error ("failed to create " ++ kind ++ " link " ++ inQuotes target ++ ": " ++ reason e)
  let node : Except String (Option Nat) :=
    if a.has 's' then .ok none
    else
      match sourceEntry c fs source with
      | .error e => .error ("failed to access " ++ inQuotes source ++ ": " ++ reason e)
      | .ok (_, .directory) => .error (source ++ ": hard link not allowed for directory")
      | .ok (place, _) => .ok (fs.node? place)
  match node with
  | .error message => return .error message
  | .ok node =>
    match targetPlace c fs false target with
    | .error e => return failed e
    | .ok place =>
      let old := fs.entry? place
      if old.isSome && !a.has 'f' && !a.has 'b' then
        if a.has 'i' then
          if !(← isConfirmed (c.name ++ ": replace " ++ inQuotes target ++ "? ")) then return .ok ()
        else return failed .alreadyThere
      if old = some .directory then
        return .error (target ++ ": cannot overwrite directory")
      if node.isSome && node == fs.node? place then
        return .error (inQuotes source ++ " and " ++ inQuotes target ++ " are the same file")
      let fs := (keepBackup a (← Work.files) place).remove place
      Work.setFiles (match node with
        | some n => fs.addName place n
        | none => fs.create place (.link (Text.fromBytewise source)))
      if a.has 'v' then
        Work.sayLine (inQuotes target ++ (if a.has 's' then " -> " else " => ") ++ inQuotes source)
      return .ok ()

def ln : Utility := fun c =>
  (OptionForm.mk "sfnhivTbPLrd" "tS" [("symbolic", 's'), ("force", 'f'), ("no-dereference", 'h'),
      ("interactive", 'i'), ("verbose", 'v'), ("no-target-directory", 'T'), ("target-directory", 't'),
      ("backup", 'b'), ("relative", 'r')] false).apply c 1 fun a => do
    let a := if a.has 'n' then { a with options := ('h', "") :: a.options } else a
    let moves : Except Nat Moves ← match a.operands, a.value? 't' with
      | [source], none => pure (.ok [(source, below "." (lastName source))])
      | _, _ => readMoves c a
    match moves with
    | .error status => return status
    | .ok moves =>
      let mut status := 0
      for (source, target) in moves do
        match ← linkPath c a source target with
        | .ok () => pure ()
        | .error message =>
          c.warn message
          status := 1
      return status

end Ln

end PatchSearch.Shell
