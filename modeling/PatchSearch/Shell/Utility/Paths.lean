import PatchSearch.Shell.Call

namespace PatchSearch.Shell

/-- A path without slashes at its end. -/
def trimSlashes (path : String) : String :=
  let cs := path.toList.reverse.dropWhile (· == '/')
  if cs = [] ∧ path ≠ "" then "/" else String.ofList cs.reverse

def lastName (path : String) : String :=
  let path := trimSlashes path
  if path = "/" then path else String.ofList ((path.toList.reverse.takeWhile (· ≠ '/')).reverse)

def below (directory name : String) : String :=
  if directory.toList.getLast? = some '/' then directory ++ name else directory ++ "/" ++ name

/-- The path of the directory that a path stands in. -/
def parentPath (path : String) : String :=
  let cs := (trimSlashes path).toList.reverse
  if cs = ['/'] then "/"
  else
    match cs.dropWhile (· ≠ '/') with
    | [] => "."
    | cs => trimSlashes (String.ofList cs.reverse)

def basename : Utility := fun c =>
  (OptionForm.mk "az" "s" [("multiple", 'a'), ("suffix", 's'), ("zero", 'z')] true).apply c 1 fun a => do
    let cut (suffix path : String) : String :=
      let name := lastName path
      if name ≠ suffix ∧ suffix.toList.isSuffixOf name.toList then
        String.ofList (name.toList.take (name.length - suffix.length))
      else name
    let showName (name : String) : Work Unit :=
      Work.say (name.toList ++ [if a.has 'z' then '\x00' else '\n'])
    match a.operands with
    | [] => c.misuse "missing operand" 1
    | path :: rest =>
      if a.has 'a' || a.has 's' then
        (path :: rest).forM fun path => showName (cut ((a.value? 's').getD "") path)
        return 0
      else
        match rest with
        | _ :: extra :: _ => c.misuse ("extra operand " ++ inQuotes extra) 1
        | rest =>
          showName (cut (rest.headD "") path)
          return 0

def dirname : Utility := fun c =>
  (OptionForm.mk "z" "" [("zero", 'z')] true).apply c 1 fun a => do
    if a.operands = [] then return ← c.misuse "missing operand" 1
    a.operands.forM fun path =>
      Work.say ((parentPath path).toList ++ [if a.has 'z' then '\x00' else '\n'])
    return 0

/-- Where a path leads: all that it names has to be there, or all but the last name, or nothing. -/
def Call.resolve (c : Call) (fs : Files) (needed : Option Bool) (path : String) :
    Except FileError (List String) :=
  let plain := Path.resolve c.directory (Text.fromBytewise path)
  match needed, c.locate fs path with
  | some true, .ok place =>
    if (fs.entry? place).isSome then .ok place else .error ((fs.obstacle? place).getD .notFound)
  | some false, .ok place => match fs.obstacle? place with
    | some e => .error e
    | none => .ok place
  | none, .ok place => .ok place
  | none, .error _ => .ok plain
  | some _, .error e => .error e

def relativePath (source target : List String) : String :=
  let shared := ((source.zip target).takeWhile fun (a, b) => a == b).length
  let names := List.replicate (source.length - shared) ".." ++ target.drop shared
  if names = [] then "." else Text.bytewise ("/".intercalate names)

def realpath : Utility := fun c =>
  (OptionForm.mk "emsqzLP" "RB" [("canonicalize-existing", 'e'), ("canonicalize-missing", 'm'),
      ("no-symlinks", 's'), ("strip", 's'), ("quiet", 'q'), ("zero", 'z'), ("relative-to", 'R'),
      ("relative-base", 'B')] false).apply c 1 fun a => do
    if a.operands = [] then return ← c.misuse "missing operand" 1
    let fs ← Work.files
    let needed := if a.has 'e' then some true else if a.has 'm' || a.has 's' then none else some false
    let mut status := 0
    for path in a.operands do
      let found := if path = "" then .error .notFound
        else if a.has 's' then .ok (Path.resolve c.directory (Text.fromBytewise path))
        else c.resolve fs needed path
      match found with
      | .error e =>
        if !a.has 'q' then c.blame path e
        status := 1
      | .ok place =>
        let shown := match (a.value? 'R').map fun base => c.resolve fs none base with
          | some (.ok base) => relativePath base place
          | _ => shownPlace place
        Work.say (shown.toList ++ [if a.has 'z' then '\x00' else '\n'])
    return status

def readlink : Utility := fun c =>
  (OptionForm.mk "efmnqsvz" "" [("canonicalize", 'f'), ("canonicalize-existing", 'e'),
      ("canonicalize-missing", 'm'), ("no-newline", 'n'), ("verbose", 'v'), ("zero", 'z')] false).apply c 1
    fun a => do
      if a.operands = [] then return ← c.misuse "missing operand" 1
      let fs ← Work.files
      let mut status := 0
      for path in a.operands do
        let found : Except FileError String :=
          if a.has 'f' || a.has 'e' || a.has 'm' then
            (if path = "" then .error .notFound
              else c.resolve fs (if a.has 'e' then some true else if a.has 'm' then none else some false)
                path).map shownPlace
          else
            match c.linkEntry fs path with
            | .ok (.link target) => .ok (Text.bytewise target)
            | .ok _ => .error .invalid
            | .error e => .error e
        match found with
        | .ok shown =>
          let ending := if a.has 'n' && a.operands.length = 1 then [] else if a.has 'z' then ['\x00'] else ['\n']
          Work.say (shown.toList ++ ending)
        | .error e =>
          if a.has 'v' then c.blame path e
          status := 1
      return status

def pwd : Utility := fun c => do
  let shown := match c.environment.lookup "PWD" with
    | some path =>
      if c.args.contains "-L" ∧ Path.isAbsolute path then path else shownPlace c.directory
    | none => shownPlace c.directory
  Work.sayLine shown
  return 0

end PatchSearch.Shell
