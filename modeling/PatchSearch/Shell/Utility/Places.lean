import PatchSearch.Shell.FileMode
import PatchSearch.Shell.Number
import PatchSearch.Shell.Utility.Paths

namespace PatchSearch.Shell

/-- Applies a change for each path, and says why one fails. -/
def eachPlace (c : Call) (paths : List String) (change : String → Work (Except String Unit)) : Work Nat := do
  let mut status := 0
  for path in paths do
    match ← change path with
    | .ok () => pure ()
    | .error message =>
      c.warn message
      status := 1
  return status

/-- The beginnings of a path that end before a slash, and the path itself. -/
def pathStages (path : String) : List String :=
  let cs := path.toList
  let cut (n : Nat) : Bool := cs[n]? == some '/' && 0 < n && cs[n - 1]? != some '/'
  ((List.range cs.length).filter cut).map (fun n => String.ofList (cs.take n)) ++ [path]

section Directories

/-- Makes a directory with those on the way to it. -/
def makeStages (c : Call) (verbose : Bool) (path : String) : Work (Except String Unit) := do
  for stage in pathStages (trimSlashes path) do
    let fs ← Work.files
    let failed (e : FileError) : Except String Unit :=
      .error ("cannot create directory " ++ inQuotes stage ++ ": " ++ reason e)
    match c.entry fs stage with
    | .ok .directory => pure ()
    | .ok _ => return failed (if stage = trimSlashes path then .alreadyThere else .notADirectory)
    | .error _ =>
      match (do fs.makeDirectory (← c.locate fs stage)) with
      | .error e => return failed e
      | .ok fs =>
        Work.setFiles fs
        if verbose then Work.sayLine (c.name ++ ": created directory " ++ inQuotes stage)
  return .ok ()

def mkdir : Utility := fun c =>
  (OptionForm.mk "pvZ" "m" [("parents", 'p'), ("verbose", 'v'), ("mode", 'm')] false).apply c 1 fun a => do
    if a.operands = [] then return ← c.misuse "missing operand" 1
    match a.value? 'm' with
    | some mode =>
      if (FileMode.change? mode.toList true 0o755).isNone then
        return ← c.fail ("invalid mode " ++ inQuotes mode) 1
    | none => pure ()
    eachPlace c a.operands fun path => do
      if a.has 'p' && path != "" then makeStages c (a.has 'v') path
      else
        let fs ← Work.files
        match (do
            if path = "" then throw FileError.notFound
            let place ← c.locateLink fs (trimSlashes path)
            if place = [] then throw FileError.alreadyThere
            fs.makeDirectory place) with
        | .error e => return .error ("cannot create directory " ++ inQuotes path ++ ": " ++ reason e)
        | .ok fs =>
          Work.setFiles fs
          if a.has 'v' then Work.sayLine (c.name ++ ": created directory " ++ inQuotes path)
          return .ok ()

/-- Takes away a directory that holds nothing. -/
def removeEmpty (c : Call) (fs : Files) (path : String) : Except FileError Files := do
  if lastName path = "." then throw .invalid
  let place ← c.locateLink fs (trimSlashes path)
  match fs.entry? place with
  | none => .error ((fs.obstacle? place).getD .notFound)
  | some .directory => if fs.names place = [] then .ok (fs.remove place) else .error .notEmpty
  | some _ => .error .notADirectory

def rmdir : Utility := fun c =>
  (OptionForm.mk "pvi" "" [("parents", 'p'), ("verbose", 'v'), ("ignore-fail-on-non-empty", 'i')]
      false).apply c 1 fun a => do
    if a.operands = [] then return ← c.misuse "missing operand" 1
    eachPlace c a.operands fun path => do
      let stages := if a.has 'p' then (pathStages (trimSlashes path)).reverse else [path]
      for stage in stages do
        if a.has 'v' then Work.sayLine (c.name ++ ": removing directory, " ++ inQuotes stage)
        match removeEmpty c (← Work.files) stage with
        | .ok fs => Work.setFiles fs
        | .error e =>
          if a.has 'i' && e == .notEmpty then return .ok ()
          return .error ("failed to remove " ++ (if stage = path then "" else "directory ") ++
            inQuotes stage ++ ": " ++ reason e)
      return .ok ()

end Directories

section Files

def touch : Utility := fun c =>
  (OptionForm.mk "acmfh" "drt" [("no-create", 'c'), ("date", 'd'), ("reference", 'r'), ("time", 'd'),
      ("no-dereference", 'h')] false).apply c 1 fun a => do
    if a.operands = [] then return ← c.misuse "missing file operand" 1
    match a.value? 'r' with
    | some path =>
      match c.entry (← Work.files) path with
      | .error e => return ← c.fail ("failed to get attributes of " ++ inQuotes path ++ ": " ++ reason e) 1
      | .ok _ => pure ()
    | none => pure ()
    eachPlace c a.operands fun path => do
      let fs ← Work.files
      match c.entry fs path with
      | .ok _ => return .ok ()
      | .error _ =>
        if a.has 'c' then return .ok ()
        match (do fs.write (← c.locate fs path) []) with
        | .ok fs =>
          Work.setFiles fs
          return .ok ()
        | .error e => return .error ("cannot touch " ++ inQuotes path ++ ": " ++ reason e)

def fileKind : FileEntry → String
  | .directory => "directory"
  | .file [] _ => "regular empty file"
  | .file _ _ => "regular file"
  | .link _ => "symbolic link"
  | .device _ => "character special file"

/-- Asks a question; the answer has to begin with the letter for yes. -/
def isConfirmed (question : String) : Work Bool := do
  Work.mutter question.toList
  let s ← Work.takeInput
  let line := s.text.takeWhile (· ≠ '\n')
  let rest := s.text.drop (line.length + 1)
  match ← Work.inlet? with
  | some (.pipe i) => modify fun d =>
      { d with world := { d.world with pipes := d.world.pipes.setIfInBounds i (.holding (.of rest)) } }
  | _ => Work.giveBack (.of rest)
  return line.head? == some 'y' || line.head? == some 'Y'

/-- A place and all below it, the deeper ones first, with the paths that lead there. -/
def contentsFirst (fs : Files) : (depth : Nat) → (place : List String) → (path : String) →
    List (List String × String)
  | 0, place, path => [(place, path)]
  | depth + 1, place, path =>
    (if fs.isDirectory place then
      (fs.names place).flatMap fun name =>
        contentsFirst fs depth (place ++ [name]) (below path (Text.bytewise name))
      else []) ++ [(place, path)]

def maxDepth : Nat := 256

/-- Removes a file, or a directory as far as options allow. -/
def removePath (c : Call) (a : Arguments) (path : String) : Work (Except String Unit) := do
  let fs ← Work.files
  let deep := a.has 'r' || a.has 'R'
  let failed (e : FileError) : Except String Unit :=
    .error ("cannot remove " ++ inQuotes path ++ ": " ++ reason e)
  let last := lastName path
  if deep ∧ (last = "." ∨ last = "..") then
    return .error ("refusing to remove '.' or '..' directory: skipping " ++ inQuotes path)
  let found := do
    let place ← c.locateLink fs path
    match fs.entry? place with
    | some e => return (place, e)
    | none => throw ((fs.obstacle? place).getD .notFound)
  match found with
  | .error e =>
    if a.has 'f' && (e == .notFound || (e == .notADirectory && !path.toList.getLast? == some '/')) then
      return .ok ()
    return failed e
  | .ok ([], _) =>
    if deep then
      c.warn "it is dangerous to operate recursively on '/'"
      return .error "use --no-preserve-root to override this failsafe"
    return failed .isADirectory
  | .ok (place, entry) =>
    if entry = .directory ∧ !deep then
      if !a.has 'd' then return failed .isADirectory
      if fs.names place ≠ [] then return failed .notEmpty
    if a.has 'i' && !a.has 'f' then
      if !(← isConfirmed (c.name ++ ": remove " ++ fileKind entry ++ " " ++ inQuotes path ++ "? ")) then
        return .ok ()
    for (place, path) in contentsFirst fs maxDepth place path do
      if a.has 'v' then
        Work.sayLine ((if fs.isDirectory place then "removed directory " else "removed ") ++ inQuotes path)
    Work.setFiles (fs.remove place)
    return .ok ()

def rm : Utility := fun c =>
  (OptionForm.mk "rRfivdI" "" [("recursive", 'r'), ("force", 'f'), ("verbose", 'v'), ("dir", 'd'),
      ("interactive", 'i'), ("one-file-system", 'I'), ("preserve-root", 'I')] false).apply c 1 fun a => do
    if a.operands = [] then
      if a.has 'f' then return 0
      return ← c.misuse "missing operand" 1
    eachPlace c a.operands (removePath c a)

/-- A number with a letter for a power of 1024. -/
def sized? (s : String) : Option Nat :=
  let digits := s.toList.takeWhile Char.isDigit
  let unit : Option Nat := match String.ofList (s.toList.drop digits.length) with
    | "" => some 1
    | "b" => some 512
    | "kB" | "KB" => some 1000
    | "MB" => some 1000000
    | "k" | "K" | "KiB" => some 1024
    | "m" | "M" | "MiB" => some 1048576
    | "g" | "G" | "GiB" => some 1073741824
    | "c" => some 1
    | "w" => some 2
    | _ => none
  match (String.ofList digits).toNat?, unit with
  | some n, some u => some (n * u)
  | _, _ => none

/-- The size that a text asks for, seen from the size there is. -/
def newSize? (cs : List Char) (size : Nat) : Option Nat :=
  let amount (cs : List Char) : Option Nat := sized? (String.ofList cs)
  match cs with
  | '+' :: ds => (amount ds).map (size + ·)
  | '-' :: ds => (amount ds).map (size - ·)
  | '<' :: ds => (amount ds).map (min size)
  | '>' :: ds => (amount ds).map (max size)
  | '%' :: ds => (amount ds).bind fun n => if n = 0 then none else some ((size + n - 1) / n * n)
  | '/' :: ds => (amount ds).bind fun n => if n = 0 then none else some (size / n * n)
  | ds => amount ds

def truncate : Utility := fun c =>
  (OptionForm.mk "co" "sr" [("no-create", 'c'), ("size", 's'), ("reference", 'r')] false).apply c 1
    fun a => do
      let sizeOf (fs : Files) (path : String) : Option Nat := match c.entry fs path with
        | .ok (.file content _) => some content.length
        | _ => none
      let fs ← Work.files
      let wanted? : Option (Nat → Option Nat) :=
        match a.value? 's', a.value? 'r' with
        | some s, _ => some (newSize? s.toList)
        | none, some path => some fun _ => sizeOf fs path
        | none, none => none
      match wanted? with
      | none => c.misuse "you must specify either '--size' or '--reference'" 1
      | some wanted =>
        if (wanted 0).isNone then
          return ← c.fail (match a.value? 's' with
            | some s => "Invalid number: " ++ inQuotes s
            | none => "cannot stat " ++ inQuotes ((a.value? 'r').getD "") ++ ": No such file or directory") 1
        if a.operands = [] then return ← c.misuse "missing file operand" 1
        eachPlace c a.operands fun path => do
          let fs ← Work.files
          if a.has 'c' && (c.entry fs path).toOption.isNone then return .ok ()
          let old : Text.Bytes := match c.entry fs path with
            | .ok (.file content _) => content
            | _ => []
          let size := (wanted old.length).getD 0
          let content := old.take size ++ List.replicate (size - old.length) 0
          match (do fs.write (← c.locate fs path) content) with
          | .ok fs =>
            Work.setFiles fs
            return .ok ()
          | .error e => return .error ("cannot open " ++ inQuotes path ++ " for writing: " ++ reason e)

/-- The characters that take the place of a run of signs in the name of a new file; `n` tells which. -/
def freshLetters (n length : Nat) : List Char :=
  let letters := "abcdefghijklmnopqrstuvwxyzABCDEFGHIJKLMNOPQRSTUVWXYZ0123456789".toList
  (List.range length).map fun i => letters.getD ((n * 7919 / (i + 1) + i * 31 + n) % 62) 'a'

/-- Makes a new file or directory with a name of its own. -/
def mktemp : Utility := fun c =>
  (OptionForm.mk "duqt" "pS" [("directory", 'd'), ("dry-run", 'u'), ("quiet", 'q'), ("tmpdir", 'p'),
      ("suffix", 'S')] false).apply c 1 fun a => do
    let template := a.operands.headD "tmp.XXXXXXXXXX"
    let reversed := template.toList.reverse
    let behind := reversed.takeWhile (· ≠ 'X')
    let marks := (reversed.drop behind.length).takeWhile (· == 'X')
    let front := (reversed.drop (behind.length + marks.length)).reverse
    if marks.length < 3 then return ← c.fail ("too few X's in template " ++ inQuotes template) 1
    let d ← get
    let (n, w) := d.world.addProcess
    set { d with world := w }
    let name := String.ofList (front ++ freshLetters n marks.length ++ behind.reverse) ++ (a.value? 'S').getD ""
    let path := match a.value? 'p' with
      | some directory => below (if directory = "" then "/tmp" else directory) name
      | none => if a.operands = [] || a.has 't' then below "/tmp" name else name
    let fs ← Work.files
    let made := do
      let place ← c.locate fs path
      if a.has 'u' then return fs
      else if a.has 'd' then fs.makeDirectory place else fs.write place []
    match made with
    | .ok fs =>
      Work.setFiles fs
      Work.sayLine path
      return 0
    | .error e =>
      let shown := match a.value? 'p' with
        | some directory => below directory template
        | none => if a.operands = [] || a.has 't' then below "/tmp" template else template
      if !a.has 'q' then
        c.warn ("failed to create " ++ (if a.has 'd' then "directory" else "file") ++ " via template " ++
          inQuotes shown ++ ": " ++ reason e)
      return 1

end Files

end PatchSearch.Shell
