import PatchSearch.Shell.Format
import PatchSearch.Shell.Utility.Places

namespace PatchSearch.Shell

section Ls

/-- Names in the order of their bytes. -/
def sortedNames (names : List String) : List String :=
  names.mergeSort fun a b => Text.isAtMost a.toList b.toList

/-- What is written behind a name to tell what it stands for. -/
def indicator (a : Arguments) (entry : Option FileEntry) : String :=
  match entry with
  | some .directory => if a.has 'F' || a.has 'p' then "/" else ""
  | some (.link _) => if a.has 'F' then "@" else ""
  | some (.file _ mode) => if a.has 'F' && mode &&& 0o111 != 0 then "*" else ""
  | _ => ""

def sizeOf (entry : Option FileEntry) : Nat :=
  match entry with
  | some (.file content _) => content.length
  | some (.link target) => target.utf8ByteSize
  | some .directory => 4096
  | _ => 0

def modeLetters (mode : Nat) : List Char :=
  let triple (shift : Nat) (special : Bool) (letter : Char) : List Char :=
    let bits := mode / shift % 8
    [if bits &&& 4 != 0 then 'r' else '-', if bits &&& 2 != 0 then 'w' else '-',
      match special, bits &&& 1 != 0 with
      | true, true => letter
      | true, false => letter.toUpper
      | false, true => 'x'
      | false, false => '-']
  triple 64 (mode &&& 0o4000 != 0) 's' ++ triple 8 (mode &&& 0o2000 != 0) 's' ++
    triple 1 (mode &&& 0o1000 != 0) 't'

def modeOf : FileEntry → Nat
  | .file _ mode => mode
  | .directory => 0o755
  | .link _ => 0o777
  | .device _ => 0o666

def kindLetter : FileEntry → Char
  | .directory => 'd'
  | .file _ _ => '-'
  | .link _ => 'l'
  | .device _ => 'c'

/-- Names with the entries that they stand for, in the order that options ask for. -/
def ordered (a : Arguments) (named : List (String × Option FileEntry)) : List (String × Option FileEntry) :=
  let byName := if a.has 'U' || a.has 'f' then named
    else named.mergeSort fun (x, _) (y, _) => Text.isAtMost x.toList y.toList
  let sorted := if a.has 'S' then byName.mergeSort fun (_, x) (_, y) => sizeOf y ≤ sizeOf x else byName
  if a.has 'r' then sorted.reverse else sorted

def screenWidth : Nat := 80

/-- Names in columns of equal height, each as wide as it needs to be. -/
def columns (names : List String) (across : Bool) : List Char :=
  let count := names.length
  let cells := names.toArray
  let layout (columns : Nat) : Nat × List Nat :=
    let rows := (count + columns - 1) / columns
    let widths := (List.range columns).map fun k =>
      let mine := (List.range count).filter fun i => (if across then i % columns else i / rows) == k
      mine.foldl (fun n i => max n ((cells[i]?.getD "").length + 2)) 0
    (rows, widths)
  let fits (columns : Nat) : Bool :=
    let (rows, widths) := layout columns
    (across || (columns - 1) * rows < count) && widths.foldl (· + ·) 0 - 2 < screenWidth
  let best := ((List.range count).reverse.map (· + 1)).find? fits
  let number := best.getD 1
  let (rows, widths) := layout number
  let line (r : Nat) : List Char :=
    let mine := ((List.range number).map fun k => (k, if across then r * number + k else k * rows + r)).filter
      fun (_, i) => i < count
    let text := mine.foldl (fun ((done, column) : List (List Char) × Nat) (k, i) =>
      let name := (cells[i]?.getD "").toList
      let next := column + widths.getD k 0
      if i + (if across then 1 else rows) < count ∧ k + 1 < number then
        -- Tabs fill the gap as far as they go.
        let behind := column + name.length
        let tabs := next / 8 - behind / 8
        let filled := if tabs = 0 then List.replicate (next - behind) ' '
          else List.replicate tabs '\t' ++ List.replicate (next - next / 8 * 8) ' '
        ((name ++ filled) :: done, next)
      else (name :: done, next)) ([], 0)
    text.1.reverse.flatten ++ ['\n']
  (List.range rows).flatMap line

/-- Names between commas, on lines that are not too wide. -/
def commaLines (names : List String) : List Char :=
  let step (st : List (List Char) × Nat) (name : String) : List (List Char) × Nat :=
    let (done, column) := st
    if done = [] then ([name.toList], name.length)
    else if column + 2 + name.length < screenWidth - 1 then
      ((", " ++ name).toList :: done, column + 2 + name.length)
    else ((",\n" ++ name).toList :: done, name.length)
  if names = [] then [] else (names.foldl step ([], 0)).1.reverse.flatten ++ ['\n']

/-- How many names a place has; for a directory those that lead to it from inside count too. -/
def linkCount (fs : Files) (place : List String) : Nat :=
  if fs.isDirectory place then
    2 + ((fs.names place).filter fun n => fs.isDirectory (place ++ [n])).length
  else (fs.entries.filter fun (_, n) => some n == fs.node? place).length

/-- Kilobytes that a file takes up. -/
def blocksOf (entry : Option FileEntry) : Nat :=
  match entry with
  | some (.link _) => 0
  | entry => (sizeOf entry + 4095) / 4096 * 4

/-- A line for each name with all that is known about what it stands for. -/
def longLines (a : Arguments) (links : String → Nat)
    (named : List (String × String × Option FileEntry)) : List Char :=
  let widest (f : String × Option FileEntry → Nat) : Nat :=
    named.foldl (fun n (name, _, entry) => max n (toString (f (name, entry))).length) 0
  let right (width n : Nat) : String :=
    let s := toString n
    String.ofList (List.replicate (width - s.length) ' ') ++ s
  let linkWidth := widest fun (name, _) => links name
  let sizeWidth := widest fun (_, entry) => sizeOf entry
  let owner := if a.has 'n' then "0 " else "root "
  named.flatMap fun (name, shown, entry) =>
    let mode := match entry with
      | some e => String.ofList (kindLetter e :: modeLetters (modeOf e))
      | none => "?"
    let arrow := match entry with
      | some (.link path) => " -> " ++ Text.bytewise path
      | _ => ""
    (mode ++ " " ++ right linkWidth (links name) ++ " " ++ (if a.has 'g' then "" else owner) ++
      (if a.has 'o' || a.has 'G' then "" else owner) ++ right sizeWidth (sizeOf entry) ++
      " Jan  1 00:00 " ++ shown ++ arrow ++ "\n").toList

def listed (a : Arguments) (links : String → Nat) (named : List (String × Option FileEntry)) : List Char :=
  let quoted (name : String) : String := if a.has 'Q' then "\"" ++ name ++ "\"" else name
  let sorted := ordered a named
  let shown := sorted.map fun (name, entry) => quoted name ++ indicator a entry
  match (a.options.filter fun (o, _) => "Cxm1lgon".toList.contains o).getLast? with
  | some ('l', _) | some ('g', _) | some ('o', _) | some ('n', _) =>
    longLines a links ((sorted.zip shown).map fun ((name, entry), text) => (name, text, entry))
  | some ('C', _) => columns shown false
  | some ('x', _) => columns shown true
  | some ('m', _) => commaLines shown
  | _ => shown.flatMap fun name => name.toList ++ ['\n']

/-- Lists directories, each under its path, at most `depth` levels deep. -/
def listDirectories (a : Arguments) (titled : Bool) : (depth : Nat) → (first : Bool) →
    List (String × List String) → Work Unit
  | 0, _, _ => pure ()
  | depth + 1, first, (path, place) :: rest => do
    let fs ← Work.files
    if !first then Work.say ['\n']
    if titled then Work.sayLine (path ++ ":")
    let isShown (name : String) : Bool := a.has 'a' || a.has 'A' || a.has 'f' || name.toList.head? != some '.'
    let names := (fs.names place).filter isShown
    let dots := if a.has 'a' || a.has 'f' then [(".", some FileEntry.directory), ("..", some .directory)] else []
    let named := names.map fun n => (Text.bytewise n, fs.entry? (place ++ [n]))
    if a.has 'l' || a.has 'g' || a.has 'o' || a.has 'n' || a.has 's' then
      let blocks := (dots ++ named).foldl (fun n (_, entry) => n + blocksOf entry) 0
      Work.sayLine ("total " ++ toString blocks)
    let links (name : String) : Nat :=
      linkCount fs (if name = "." then place else if name = ".." then place.dropLast
        else place ++ [Text.fromBytewise name])
    Work.say (listed a links (dots ++ named))
    let inner := if a.has 'R' then
        (ordered a named).filterMap fun (name, entry) =>
          if entry = some .directory then
            some (below path name, place ++ [Text.fromBytewise name])
          else none
      else []
    listDirectories a titled depth false (inner ++ rest)
  | _, _, [] => pure ()

def ls : Utility := fun c =>
  (OptionForm.mk "aAbBcCdfFgGhHiklLmnNopqQrRsStuUvxXZ1" "ITw" [("all", 'a'), ("almost-all", 'A'),
      ("directory", 'd'), ("recursive", 'R'), ("reverse", 'r'), ("classify", 'F'), ("quote-name", 'Q'),
      ("color", 'N'), ("size", 's'), ("human-readable", 'h'), ("inode", 'i'), ("ignore", 'I')] false).apply c 2
    fun a => do
      let fs ← Work.files
      let mut status := 0
      let mut files : List (String × Option FileEntry) := []
      let mut directories : List (String × List String) := []
      for path in (if a.operands = [] then ["."] else a.operands) do
        let own := c.linkEntry fs path
        let entry := if a.has 'd' || a.has 'l' || a.has 'F' || a.has 'g' || a.has 'o' || a.has 'n' then own else
          match c.entry fs path with
          | .ok e => .ok e
          | .error e => match own with
            | .ok e => .ok e
            | .error _ => .error e
        match entry with
        | .error e =>
          c.warn ("cannot access " ++ inQuotes path ++ ": " ++ reason e)
          status := 2
        | .ok .directory =>
          if a.has 'd' then files := (path, some .directory) :: files
          else directories := (path, (c.locate fs path).toOption.getD []) :: directories
        | .ok entry => files := (path, some (own.toOption.getD entry)) :: files
      let links (path : String) : Nat := ((c.locateLink fs path).toOption.map (linkCount fs)).getD 0
      Work.say (listed a links files.reverse)
      let sorted := (ordered a (directories.reverse.map fun (path, _) => (path, none))).map Prod.fst
      let chosen := sorted.filterMap fun path => (directories.lookup path).map fun place => (path, place)
      let titled := a.has 'R' || a.operands.length > 1
      listDirectories a titled (4 * fs.entries.length + chosen.length + 1) (files = []) chosen
      return status

end Ls

section Modes

def octal (n : Nat) : String :=
  let ds := Nat.toDigits 8 n
  String.ofList (List.replicate (4 - ds.length) '0' ++ ds)

/-- The argument that is a change of modes, though it may look like an option. -/
def modeFirst (args : List String) : List String :=
  match args.find? fun arg => match arg.toList with
      | '-' :: c :: cs => (c :: cs).all fun c => "rwxXst,ugoa+=-".toList.contains c && c != 'R'
      | _ => false with
  | some mode => if (args.takeWhile (· ≠ mode)).all (fun s => s.toList.head? == some '-') then
      (args.takeWhile (· ≠ mode)) ++ ["--", mode] ++ (args.dropWhile (· ≠ mode)).drop 1
    else args
  | none => args

def chmod : Utility := fun c =>
  (OptionForm.mk "cfvR" "r" [("changes", 'c'), ("silent", 'f'), ("quiet", 'f'), ("verbose", 'v'),
      ("recursive", 'R'), ("reference", 'r')] false).apply { c with args := modeFirst c.args } 1 fun a => do
    let fs ← Work.files
    let reference : Option String := (a.value? 'r').map fun path =>
      match c.entry fs path with
      | .ok e => octal (modeOf e)
      | .error _ => "0"
    let words := reference.toList ++ a.operands
    match words with
    | [] => c.misuse "missing operand" 1
    | [mode] => c.misuse ("missing operand after " ++ inQuotes mode) 1
    | mode :: paths =>
      if (FileMode.change? mode.toList false 0).isNone then
        return ← c.misuse ("invalid mode: " ++ inQuotes mode) 1
      eachPlace c paths fun path => do
        let fs ← Work.files
        match c.locate fs path, c.entry fs path with
        | .ok place, .ok _ =>
          let places := if a.has 'R' then (contentsFirst fs maxDepth place path).reverse else [(place, path)]
          for (place, path) in places do
            let fs ← Work.files
            match fs.entry? place with
            | some (.file content old) =>
              let new := (FileMode.change? mode.toList false old).getD old
              Work.setFiles (fs.set place (.file content new))
              let text (n : Nat) : String := octal n ++ " (" ++ String.ofList (modeLetters n) ++ ")"
              if new ≠ old then
                if a.has 'v' || a.has 'c' then
                  Work.sayLine ("mode of " ++ inQuotes path ++ " changed from " ++ text old ++ " to " ++ text new)
              else if a.has 'v' then
                Work.sayLine ("mode of " ++ inQuotes path ++ " retained as " ++ text old)
            | _ => pure ()
          return .ok ()
        | .error e, _ | _, .error e =>
          if a.has 'f' then return .ok ()
          return .error ("cannot access " ++ inQuotes path ++ ": " ++ reason e)

def fileFormat (path : String) (entry : FileEntry) (links : Nat) : List Char → List Char
  | '%' :: c :: cs =>
    let letter := kindLetter entry
    let word : Option String := match c with
      | 'a' => some (String.ofList (Nat.toDigits 8 (modeOf entry)))
      | 'A' => some (String.ofList (letter :: modeLetters (modeOf entry)))
      | 's' => some (toString (sizeOf (some entry)))
      | 'n' => some path
      | 'N' => some (inQuotes path)
      | 'F' => some (fileKind entry)
      | 'h' => some (toString links)
      | 'u' | 'g' => some "0"
      | 'U' | 'G' => some "root"
      | 'f' => some (String.ofList (Nat.toDigits 16 (modeOf entry +
          (match entry with
            | .directory => 0o40000
            | .file _ _ => 0o100000
            | .link _ => 0o120000
            | .device _ => 0o20000))))
      | '%' => some "%"
      | _ => none
    (word.getD (String.ofList ['%', c])).toList ++ fileFormat path entry links cs
  | c :: cs => c :: fileFormat path entry links cs
  | [] => []

def stat : Utility := fun c =>
  (OptionForm.mk "Lft" "cp" [("format", 'c'), ("printf", 'p'), ("dereference", 'L')] false).apply c 1 fun a => do
    if a.operands = [] then return ← c.misuse "missing operand" 1
    let mut status := 0
    for path in a.operands do
      let fs ← Work.files
      match if a.has 'L' then c.entry fs path else c.linkEntry fs path with
      | .error e =>
        c.warn ("cannot statx " ++ inQuotes path ++ ": " ++ reason e)
        status := 1
      | .ok entry =>
        let node := (c.locateLink fs path).toOption.bind fs.node?
        let links := if entry = .directory then 2 else (fs.entries.filter fun (_, n) => some n == node).length
        match a.value? 'c', a.value? 'p' with
        | some format, _ => Work.say (fileFormat path entry links format.toList ++ ['\n'])
        | none, some format => Work.say (fileFormat path entry links (unescape format.toList).1)
        | none, none => Work.sayLine ("  File: " ++ path)
    return status

end Modes

end PatchSearch.Shell
