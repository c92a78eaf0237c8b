import PatchSearch.Shell.World

namespace PatchSearch.Shell

structure Call where
  name : String
  args : List String
  directory : List String
  environment : List (String × String)
  /-- Runs another program from its name and arguments. -/
  spawn : List String → Work (Except FileError Ending)
  /-- The path of the program that a name stands for. -/
  program? : String → Option String

abbrev Utility := Call → Work Nat

/-- The lines of a text without their ends. -/
def textLines (cs : List Char) : List (List Char) :=
  let (done, last) := cs.foldl (fun (done, line) c =>
    if c = '\n' then (line.reverse :: done, []) else (done, c :: line))
    (([] : List (List Char)), ([] : List Char))
  (if last = [] then done else last.reverse :: done).reverse

/-- A text of lines, each with its end. -/
def ofLines (lines : List (List Char)) : List Char :=
  lines.flatMap fun line => line ++ ['\n']

/-- Whether a name needs quotes where messages show it. -/
def needsQuotes (name : String) : Bool :=
  name == "" || name.toList.any (fun c => " !\"$&()*;<=>[^\x60|\\\x27\t\n".toList.contains c) ||
    (name.toList.head?.map fun c => c == '#' || c == '~').getD false

def inQuotes (name : String) : String :=
  if name.toList.contains '\x27' then "\"" ++ name ++ "\"" else "'" ++ name ++ "'"

/-- A name as messages show it where nothing else sets it off. -/
def shownName (name : String) : String :=
  if needsQuotes name then inQuotes name else name

def reason : FileError → String
  | .notFound => "No such file or directory"
  | .notADirectory => "Not a directory"
  | .isADirectory => "Is a directory"
  | .alreadyThere => "File exists"
  | .notEmpty => "Directory not empty"
  | .nameTooLong => "File name too long"
  | .tooManyLinks => "Too many levels of symbolic links"
  | .noSpace => "No space left on device"
  | .invalid => "Invalid argument"
  | .tooLong => "Argument list too long"
  | .forbidden => "Permission denied"
  | .badDescriptor => "Bad file descriptor"
  | .badName | .notText => "Invalid or incomplete multibyte or wide character"

/-- The absolute path of a place, with one character for each byte. -/
def shownPlace (place : List String) : String :=
  Text.bytewise (Path.ofPlace place)

namespace Call

/-- The place that a path leads to; only its last name may stand for nothing. -/
def locate (c : Call) (fs : Files) (path : String) : Except FileError (List String) :=
  fs.locate c.directory (Text.fromBytewise path)

/-- The same, but a link at the end is the place itself. -/
def locateLink (c : Call) (fs : Files) (path : String) : Except FileError (List String) :=
  fs.locateLink c.directory (Text.fromBytewise path)

def entry (c : Call) (fs : Files) (path : String) : Except FileError FileEntry := do
  let place ← c.locate fs path
  match fs.entry? place with
  | some e => return e
  | none => .error ((fs.obstacle? place).getD .notFound)

/-- What a path stands for, where a link at the end stands for itself. -/
def linkEntry (c : Call) (fs : Files) (path : String) : Except FileError FileEntry := do
  let place ← c.locateLink fs path
  match fs.entry? place with
  | some e => return e
  | none => .error ((fs.obstacle? place).getD .notFound)

def isDirectory (c : Call) (fs : Files) (path : String) : Bool :=
  match c.entry fs path with
  | .ok .directory => true
  | _ => false

def readFile (c : Call) (path : String) : Work (Except FileError Stream) := do
  if path = "/dev/stdin" then return ← Work.readInput
  let fs ← Work.files
  match c.entry fs path with
  | .error e => return .error e
  | .ok .directory => return .error .isADirectory
  | .ok (.file content _) => return .ok (.of (Text.ofBytes content))
  | .ok (.device .null) => return .ok .empty
  | .ok (.device _) => return .ok ⟨[], ['\x00']⟩
  | .ok (.link _) => return .error .tooManyLinks

/-- Reads the file that a path leads to, or the input for a hyphen. -/
def read (c : Call) (path : String) : Work (Except FileError Stream) := do
  if path = "-" then Work.readInput else c.readFile path

def writeFile (c : Call) (path : String) (text : List Char) : Work (Except FileError Unit) := do
  if path = "/dev/stdout" then
    Work.say text
    return .ok ()
  else if path = "/dev/stderr" then
    Work.mutter text
    return .ok ()
  else
    let fs ← Work.files
    match (do fs.write (← c.locate fs path) (Text.toBytes text)) with
    | .error e => return .error e
    | .ok fs =>
      Work.setFiles fs
      return .ok ()

def warn (c : Call) (message : String) : Work Unit :=
  Work.warn (c.name ++ ": " ++ message)

def fail (c : Call) (message : String) (status : Nat) : Work Nat := do
  c.warn message
  return status

def blame (c : Call) (path : String) (e : FileError) : Work Unit :=
  c.warn (shownName path ++ ": " ++ reason e)

def misuse (c : Call) (message : String) (status : Nat) : Work Nat := do
  c.warn message
  Work.warn ("Try '" ++ c.name ++ " --help' for more information.")
  return status

/-- The paths that a utility reads: the input if there are none. -/
def inputs (paths : List String) : List String :=
  if paths.isEmpty then ["-"] else paths

/-- Reads files one after the other and does something with each. Those that cannot be read are left
out with a message. The answer tells whether all could be read. -/
def eachInput (c : Call) (paths : List String) (use : String → Stream → Work Unit) : Work Bool := do
  let mut complete := true
  for path in inputs paths do
    match ← c.read path with
    | .ok s => use path s
    | .error e =>
      c.blame path e
      complete := false
  return complete

/-- The texts of files, one behind the other, and whether all could be read. -/
def readAll (c : Call) (paths : List String) : Work (List Char × Bool) := do
  let mut texts := []
  let mut complete := true
  for path in inputs paths do
    match ← c.read path with
    | .ok s => texts := s.finite :: texts
    | .error e =>
      c.blame path e
      complete := false
  return (texts.reverse.flatten, complete)

end Call

/-- The arguments of a utility: options with their letters and values, and the others. -/
structure Arguments where
  options : List (Char × String)
  operands : List String
deriving Repr, DecidableEq

namespace Arguments

def has (a : Arguments) (letter : Char) : Bool :=
  a.options.any (·.1 = letter)

/-- The value of an option, the last one if it was given more than once. -/
def value? (a : Arguments) (letter : Char) : Option String :=
  (a.options.reverse.find? (·.1 = letter)).map Prod.snd

def values (a : Arguments) (letter : Char) : List String :=
  (a.options.filter (·.1 = letter)).map Prod.snd

end Arguments

inductive UsageFault where
  | unknown (letter : Char)
  | unknownWord (word : String)
  | missing (letter : Char)
deriving Repr, DecidableEq

/-- The letters of an option word; letters in `valued` take the rest of the word or the next one as a
value. -/
def readLetters (plain valued : List Char) (next : List String) :
    List Char → Except UsageFault (List (Char × String) × List String)
  | [] => .ok ([], next)
  | c :: cs =>
    if valued.contains c then
      if cs ≠ [] then .ok ([(c, String.ofList cs)], next)
      else
        match next with
        | value :: next => .ok ([(c, value)], next)
        | [] => .error (.missing c)
    else if plain.contains c then
      (readLetters plain valued next cs).map fun (found, next) => ((c, "") :: found, next)
    else .error (.unknown c)

/-- How a utility's options are written: letters without and with values, and long words for them. -/
structure OptionForm where
  plain : String
  valued : String
  words : List (String × Char)
  /-- Whether options end at the first other argument. -/
  strict : Bool

/-- Reads at most `left` arguments. -/
def OptionForm.readWithin (form : OptionForm) : (left : Nat) → List String →
    Except UsageFault Arguments
  | 0, args => .ok ⟨[], args⟩
  | _, [] => .ok ⟨[], []⟩
  | left + 1, arg :: args =>
    match arg.toList with
    | ['-', '-'] => .ok ⟨[], args⟩
    | '-' :: '-' :: word => do
      let name := String.ofList (word.takeWhile (· ≠ '='))
      let exact := form.words.filter fun (w, _) => w = name
      let fitting := if exact = [] then form.words.filter fun (w, _) => name.toList.isPrefixOf w.toList
        else exact
      match fitting.head? with
      | none => .error (.unknownWord arg)
      | some (_, letter) =>
        let given := word.drop (name.length + 1)
        let (value, rest) ←
          if !form.valued.toList.contains letter ∨ word.contains '=' then
            pure (String.ofList given, args)
          else
            match args with
            | value :: rest => pure (value, rest)
            | [] => .error (.missing letter)
        let a ← form.readWithin left rest
        return { a with options := (letter, value) :: a.options }
    | '-' :: c :: cs => do
      let (found, rest) ← readLetters form.plain.toList form.valued.toList args (c :: cs)
      let a ← form.readWithin left rest
      return { a with options := found ++ a.options }
    | _ =>
      if form.strict then .ok ⟨[], arg :: args⟩
      else do
        let a ← form.readWithin left args
        return { a with operands := arg :: a.operands }

/-- Runs a utility with its arguments read, or ends with what is wrong with them. -/
def OptionForm.apply (form : OptionForm) (c : Call) (status : Nat) (run : Arguments → Work Nat) :
    Work Nat := do
  let hint := "Try '" ++ c.name ++ " --help' for more information."
  match form.readWithin (c.args.length + 1) c.args with
  | .ok a => run a
  | .error (.unknown letter) =>
    c.warn ("invalid option -- '" ++ String.singleton letter ++ "'")
    Work.warn hint
    return status
  | .error (.unknownWord word) =>
    c.warn ("unrecognized option '" ++ word ++ "'")
    Work.warn hint
    return status
  | .error (.missing letter) =>
    c.warn ("option requires an argument -- '" ++ String.singleton letter ++ "'")
    Work.warn hint
    return status

end PatchSearch.Shell
