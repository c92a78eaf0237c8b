namespace PatchSearch.Path

def isAbsolute (path : String) : Bool :=
  path.toList.head? = some '/'

/-- A path below a directory; an absolute path stays what it is. -/
def join (directory path : String) : String :=
  if isAbsolute path then path
  else if directory = "" ∨ directory.toList.getLast? = some '/' then directory ++ path
  else directory ++ "/" ++ path

def names (cs : List Char) : List (List Char) :=
  cs.foldr (fun c names =>
    match names with
    | [] => [[c]]
    | name :: rest => if c = '/' then [] :: name :: rest else (c :: name) :: rest) [[]]

/-- A path without slashes and references to itself at its end. -/
def trimEnd (reversed : List Char) : List Char :=
  match reversed with
  | '/' :: rest => if rest = [] then reversed else trimEnd rest
  | '.' :: '/' :: rest => if rest = [] then reversed else trimEnd ('/' :: rest)
  | _ => reversed
termination_by reversed.length

/-- The directory that a path stands in; none for the root and the empty path. -/
def parent? (path : String) : Option String :=
  let reversed := trimEnd path.toList.reverse
  if reversed = [] ∨ reversed = ['/'] then none
  else some (String.ofList (trimEnd (reversed.dropWhile (· ≠ '/'))).reverse)

def enter (place : List String) (name : String) : List String :=
  if name = "" ∨ name = "." then place
  else if name = ".." then place.dropLast
  else place ++ [name]

/-- The names in a path, from the first to the last. -/
def parts (path : String) : List String :=
  (names path.toList).map String.ofList

def start (directory : List String) (path : String) : List String :=
  if isAbsolute path then [] else directory

/-- The place that a path leads to from a directory, whatever is on the way. -/
def resolve (directory : List String) (path : String) : List String :=
  (parts path).foldl enter (start directory path)

/-- The places on the way to a place, from the root to the place itself. -/
def stages (place : List String) : List (List String) :=
  (List.range (place.length + 1)).map fun n => place.take n

def ofPlace (place : List String) : String :=
  if place = [] then "/" else String.join (place.map ("/" ++ ·))

end PatchSearch.Path
