import PatchSearch.Shell.Builtin.Variables

namespace PatchSearch.Shell.Builtin

def splitPaths (s : String) : List String :=
  (s.toList.foldr (fun c parts =>
    match parts with
    | [] => [[c]]
    | part :: rest => if c = ':' then [] :: part :: rest else (c :: part) :: rest) [[]]).map String.ofList

/-- Whether a path starts from the root or says by points where it starts from. -/
def isAnchored (path : String) : Bool :=
  let first := path.toList.takeWhile (· ≠ '/')
  path.toList.head? = some '/' || first = ['.'] || first = ['.', '.']

def enter (physical : Bool) (path : String) (m : Machine) : Option Machine :=
  let shown := Path.resolve m.shown (Text.fromBytewise path)
  let reached : Except FileError (List String) :=
    if physical then m.files.locate m.directory (Text.fromBytewise path)
    else m.files.locate [] (Path.ofPlace shown)
  match reached with
  | .error _ => none
  | .ok place =>
    if m.files.isDirectory place then
      let mark (name value : String) (m : Machine) : Machine :=
        m.putVariable ⟨name, some value, true, false⟩
      let before := m.valueOf "PWD"
      let shown := if physical then place else shown
      some (mark "PWD" (shownPlace shown) (mark "OLDPWD" before
        { m with directory := place, shown := shown, status := 0 }))
    else none

def cd (args : List String) (m : Machine) : Machine :=
  letters "LP" args m fun found args m =>
    let physical := found.getLast? = some 'P'
    let (target, print) := match args with
      | [] => (m.valueOf "HOME", false)
      | "-" :: _ => (m.valueOf "OLDPWD", true)
      | path :: _ => (path, false)
    let path := if target = "" then "." else target
    let bases := if isAnchored path then [] else ((m.value? "CDPATH").map splitPaths).getD []
    let tries := (bases.map fun base =>
      (if base = "" then path else Path.join base path, base != "")) ++ [(path, false)]
    match tries.findSome? fun (p, found) => (enter physical p m).map fun m => (m, found) with
    | some (m, found) => if print || found then m.sayLine (shownPlace m.shown) else m
    | none => m.fault ("can't cd to " ++ target)

def pwd (args : List String) (m : Machine) : Machine :=
  letters "LP" args m fun found _ m =>
    (m.withStatus 0).sayLine (shownPlace (if found.getLast? = some 'P' then m.directory else m.shown))

end PatchSearch.Shell.Builtin
