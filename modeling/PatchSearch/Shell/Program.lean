import PatchSearch.Shell.Machine

namespace PatchSearch.Shell

inductive Program where
  | utility (name : String)
  | script (place : List String)
deriving Repr, DecidableEq

namespace Program

def homes : List String := ["/usr/bin", "/bin"]

/-- The file at a path, if it may be run. -/
def file (fs : Files) (directory : List String) (path : String) : Except FileError Program := do
  let place ← fs.locate directory (Text.fromBytewise path)
  match fs.entry? place with
  | some (.file _ mode) => if mode &&& 0o111 = 0 then .error .forbidden else return .script place
  | some _ => .error .forbidden
  | none => .error ((fs.obstacle? place).getD .notFound)

/-- The last name in a path, and what stands in front of its slash. -/
def splitName (path : String) : String × String :=
  let name := (path.toList.reverse.takeWhile (· ≠ '/')).reverse
  (String.ofList (path.toList.take (path.length - name.length - 1)), String.ofList name)

def atPath (isUtility : String → Bool) (fs : Files) (directory : List String) (path : String) :
    Except FileError Program :=
  let (home, name) := splitName path
  match file fs directory path with
  | .ok p => .ok p
  | .error e => if homes.contains home ∧ isUtility name then .ok (.utility name) else .error e

/-- The first program with a name in a list of directories, and its path. -/
def search (isUtility : String → Bool) (fs : Files) (directory : List String) (name : String) :
    (failure : FileError) → List String → Except FileError (String × Program)
  | failure, [] => .error failure
  | failure, home :: rest =>
    let path := if home = "" then name else Path.join home name
    match atPath isUtility fs directory path with
    | .ok p => .ok (path, p)
    | .error .forbidden => search isUtility fs directory name .forbidden rest
    | .error _ => search isUtility fs directory name failure rest

def find (isUtility : String → Bool) (fs : Files) (directory : List String) (homes : List String)
    (name : String) : Except FileError (String × Program) :=
  if name.toList.contains '/' then (atPath isUtility fs directory name).map fun p => (name, p)
  else if name = "" then .error .notFound
  else search isUtility fs directory name .notFound homes

end Program

/-- The status that stands for a program that cannot be run. -/
def launchStatus : FileError → Nat
  | .notFound | .notADirectory => 127
  | _ => 126

/-- The program in the first line of a script, with an argument that it may have there. -/
def interpreter? (text : List Char) : Option (String × List String) :=
  match text with
  | '#' :: '!' :: rest =>
    let isBlank (c : Char) : Bool := c == ' ' || c == '\t'
    let line := (rest.takeWhile (· ≠ '\n')).dropWhile isBlank
    let name := line.takeWhile (!isBlank ·)
    let arg := (line.drop name.length).dropWhile isBlank
    let arg := (arg.reverse.dropWhile isBlank).reverse
    if name = [] then none
    else some (String.ofList name, if arg = [] then [] else [String.ofList arg])
  | _ => none

end PatchSearch.Shell
