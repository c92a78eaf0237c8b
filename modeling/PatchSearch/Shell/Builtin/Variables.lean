import PatchSearch.Shell.Expansion
import PatchSearch.Shell.Machine
import PatchSearch.Shell.Number
import PatchSearch.Shell.Token

namespace PatchSearch.Shell.Builtin

/-- Reads option letters up to the first argument without a hyphen. A letter that is not known ends the
builtin. -/
def letters (known : String) (args : List String) (m : Machine)
    (run : List Char → List String → Machine → Machine) : Machine :=
  match args with
  | arg :: rest =>
    match arg.toList with
    | ['-', '-'] => run [] rest m
    | '-' :: c :: cs =>
      match (c :: cs).find? fun c => !known.toList.contains c with
      | some c => m.fault ("Illegal option -" ++ String.singleton c)
      | none => letters known rest m fun found => run ((c :: cs) ++ found)
    | _ => run [] args m
  | [] => run [] [] m

/-- The number that an argument is, or the end of the builtin. -/
def withNumber (s : String) (m : Machine) (run : Nat → Machine → Machine) : Machine :=
  match natural? s with
  | some n => if n < Nat.pow 2 31 then run n m else m.fault ("Illegal number: " ++ s)
  | none => m.fault ("Illegal number: " ++ s)

/-- A text between quotes, at most `left` pieces of it. -/
def quotedWithin : (left : Nat) → List Char → List Char
  | 0, _ => []
  | left + 1, cs =>
    let plain := cs.takeWhile (· ≠ '\x27')
    let rest := cs.drop plain.length
    let marks := rest.takeWhile (· = '\x27')
    let shown := '\x27' :: plain ++ ['\x27']
    if marks = [] then shown
    else
      let behind := rest.drop marks.length
      let marks := '\x22' :: marks ++ ['\x22']
      if behind = [] then shown ++ marks else shown ++ marks ++ quotedWithin left behind

def quoted (s : String) : String :=
  String.ofList (quotedWithin (s.length + 1) s.toList)

def binding (arg : String) : String × Option String :=
  let name := arg.toList.takeWhile (· ≠ '=')
  match arg.toList.drop name.length with
  | [] => (arg, none)
  | _ :: value => (String.ofList name, some (String.ofList value))

/-- Lines about variables in the order of their names. -/
def listVariables (m : Machine) (heading : String) (shown : Variable → Bool) : Machine :=
  let lines := (m.bindings.filter shown).map fun v => (v.name.toList, match v.value with
    | some value => heading ++ v.name ++ "=" ++ quoted value ++ "\n"
    | none => heading ++ v.name ++ "\n")
  m.say (String.join ((lines.mergeSort fun a b => Text.isAtMost a.1 b.1).map Prod.snd))

/-- Applies a change for each argument until the shell leaves. -/
def eachArgument (change : Machine → String → Machine) (args : List String) (m : Machine) : Machine :=
  args.foldl (fun m arg => if m.isLeaving then m else change m arg) m

/-- Sets a variable that an argument names, and marks it. -/
def declare (mark : Variable → Variable) (m : Machine) (arg : String) : Machine :=
  let (name, value) := binding arg
  if !isName name then m.fault (name ++ ": bad variable name")
  else
    let m := match value with
      | some value => m.assign name value
      | none => m
    if m.isLeaving then m
    else m.putVariable (mark ((m.named? name).getD ⟨name, none, false, false⟩))

def markAll (heading : String) (has : Variable → Bool) (mark : Variable → Variable) (args : List String)
    (m : Machine) : Machine :=
  letters "p" args m fun found args m =>
    let m := m.withStatus 0
    if found ≠ [] ∨ args = [] then listVariables m heading has
    else eachArgument (declare mark) args m

def exportAll : List String → Machine → Machine :=
  markAll "export " (·.exported) fun v => { v with exported := true }

def readonlyAll : List String → Machine → Machine :=
  markAll "readonly " (·.readOnly) fun v => { v with readOnly := true }

/-- Keeps what names stand for outside the function. -/
def keep (m : Machine) (name : String) : Machine :=
  { m with locals := (name, m.named? name) :: m.locals }

def localAll (args : List String) (m : Machine) : Machine :=
  if m.calls = 0 then m.fault "not in a function"
  else
    (eachArgument (fun m arg =>
      let (name, value) := binding arg
      if arg = "-" then m
      else if !isName name then m.fault (name ++ ": bad variable name")
      else
        let m := keep m name
        match value with
        | some value => m.assign name value
        | none => { m with bindings := m.bindings.filter (·.name ≠ name) }) args m).withStatus 0

def unsetAll (args : List String) (m : Machine) : Machine :=
  letters "vf" args m fun found names m =>
    eachArgument (fun m name =>
      if found.contains 'f' then { m with functions := m.functions.filter (·.1 ≠ name) }
      else if !isName name then m.fault (name ++ ": bad variable name")
      else if (m.named? name).isSome ∨ found.contains 'v' then m.unset name
      else { m with functions := m.functions.filter (·.1 ≠ name) }) names (m.withStatus 0)

def shift (args : List String) (m : Machine) : Machine :=
  withNumber (args.headD "1") m fun n m =>
    if m.parameters.length < n then m.fault "can't shift that many"
    else { m with parameters := m.parameters.drop n, optionOffset := 0, status := 0 }

def optionNames : List (String × Char) :=
  [("errexit", 'e'), ("noglob", 'f'), ("ignoreeof", 'I'), ("interactive", 'i'), ("monitor", 'm'),
    ("noexec", 'n'), ("stdin", 's'), ("xtrace", 'x'), ("verbose", 'v'), ("vi", 'V'), ("emacs", 'E'),
    ("noclobber", 'C'), ("allexport", 'a'), ("notify", 'b'), ("nounset", 'u'), ("privileged", 'p'),
    ("nolog", 'l'), ("debug", 'd')]

def setOption (value : Bool) (m : Machine) (letter : Char) : Machine :=
  let others := m.options.filter (· ≠ letter)
  { m with options := if value then letter :: others else others }

def showOptions (value : Bool) (m : Machine) : Machine :=
  let padded (s : String) : String := s ++ String.ofList (List.replicate (16 - s.length) ' ')
  if value then
    m.say ("Current option settings\n" ++ String.join (optionNames.map fun (name, letter) =>
      padded name ++ (if m.hasOption letter then "on" else "off") ++ "\n"))
  else
    m.say (String.join (optionNames.map fun (name, letter) =>
      "set " ++ (if m.hasOption letter then "-o " else "+o ") ++ name ++ "\n"))

/-- Reads options in front of other arguments; what is left is none if nothing follows them. -/
def setOptions : (left : Nat) → List String → Machine → Option (List String) × Machine
  | 0, args, m => (some args, m)
  | _, [], m => (none, m)
  | left + 1, arg :: args, m =>
    if m.isLeaving then (none, m)
    else
      match arg.toList with
      | ['-'] =>
        (if args = [] then none else some args, setOption false (setOption false m 'x') 'v')
      | ['-', '-'] => (some args, m)
      | sign :: cs =>
        if sign = '-' ∨ sign = '+' then
          let value := sign = '-'
          let (args, m) := cs.foldl (fun (args, m) c =>
            if m.isLeaving then (args, m)
            else if c = 'o' then
              match args with
              | [] => ([], showOptions value m)
              | name :: args =>
                match optionNames.find? (·.1 = name) with
                | some (_, letter) => (args, setOption value m letter)
                | none => (args, m.fault ("Illegal option " ++ String.singleton sign ++ "o " ++ name))
            else if optionNames.any (·.2 = c) then (args, setOption value m c)
            else (args, m.fault ("Illegal option " ++ String.ofList [sign, c]))) (args, m)
          setOptions left args m
        else (some (arg :: args), m)
      | [] => (some (arg :: args), m)

def setAll (args : List String) (m : Machine) : Machine :=
  if args = [] then listVariables (m.withStatus 0) "" (·.value.isSome)
  else
    let (rest, m) := setOptions (args.length + 1) args (m.withStatus 0)
    match rest with
    | some params => if m.isLeaving then m else { m with parameters := params, optionOffset := 0 }
    | none => m

section Read

/-- A line with what is escaped, without its end, whether it has one, and how many characters were
read. -/
def readLine (raw : Bool) : (read : Nat) → List Char → List Glyph × Bool × Nat
  | n, [] => ([], false, n)
  | n, c :: cs =>
    if c = '\n' then ([], true, n + 1)
    else if c = '\\' ∧ !raw then
      match cs with
      | [] => ([], false, n + 1)
      | d :: cs =>
        let (gs, found, n) := readLine raw (n + 2) cs
        (if d = '\n' then gs else .solid d :: gs, found, n)
    else
      let (gs, found, n) := readLine raw (n + 1) cs
      (if c = '\x00' then gs else .loose c :: gs, found, n)

/-- The first field, and what follows it and what ends it. -/
def takeField (separators : List Char) (gs : List Glyph) : List Glyph × List Glyph :=
  let gs := gs.dropWhile (Glyph.isBlank separators)
  let ends (g : Glyph) : Bool := g.isBlank separators || g.isDelimiter separators
  let field := gs.takeWhile (!ends ·)
  let rest := (gs.drop field.length).dropWhile (Glyph.isBlank separators)
  match rest with
  | g :: behind =>
    (field, if g.isDelimiter separators then behind.dropWhile (Glyph.isBlank separators) else rest)
  | [] => (field, [])

def lastField (separators : List Char) (gs : List Glyph) : List Glyph :=
  let gs := gs.dropWhile (Glyph.isBlank separators)
  match takeField separators gs with
  | (field, []) => field
  | _ => (gs.reverse.dropWhile (Glyph.isBlank separators)).reverse

def spreadFields (separators : List Char) : List Glyph → List String → Machine → Machine
  | _, [], m => m
  | gs, [name], m => m.assign name (String.ofList (Glyph.text (lastField separators gs)))
  | gs, name :: names, m =>
    let (field, rest) := takeField separators gs
    let m := m.assign name (String.ofList (Glyph.text field))
    if m.isLeaving then m else spreadFields separators rest names m

/-- Options of the builtin that reads a line, and its other arguments. -/
def readOptions : (raw : Bool) → List String → Except Char (Bool × List String)
  | raw, "-r" :: args => readOptions (raw || true) args
  | raw, "-p" :: _ :: args => readOptions raw args
  | raw, "--" :: args => .ok (raw, args)
  | raw, arg :: args =>
    match arg.toList with
    | '-' :: 'p' :: _ => readOptions raw args
    | '-' :: 'r' :: _ => readOptions (raw || true) args
    | '-' :: c :: _ => .error c
    | _ => .ok (raw, arg :: args)
  | raw, [] => .ok (raw, [])

def read (args : List String) (m : Machine) : Machine :=
  match readOptions false args with
  | .error c => m.fault ("Illegal option -" ++ String.singleton c)
  | .ok (_, []) => m.fault "arg count"
  | .ok (raw, names) =>
    match names.find? (!isName ·) with
    | some name => m.fault (name ++ ": bad variable name")
    | none =>
      match m.desk.descriptors.lookup 0 with
      | none => spreadFields m.separators [] names (m.withStatus 1)
      | some o =>
        let s := m.desk.world.stream o
        let (gs, found, n) := readLine raw 0 s.finite
        let m := { m with desk := { m.desk with world := m.desk.world.consume o n } }
        spreadFields m.separators gs names (m.withStatus (if found then 0 else 1))

end Read

section Options

/-- The next option in arguments: the argument after which reading goes on and how far into it, the
letter and its value; nothing at the end of the options. -/
structure OptionStep where
  next : Nat
  offset : Nat
  letter : Char
  value : Option String
  message : Option String
  done : Bool

/-- Looks for an option from argument `index`, of which `offset` characters are used up. -/
def optionStep (form : List Char) (args : List String) (index offset : Nat) : OptionStep :=
  let quiet := form.head? = some ':'
  let current := (args[index - 1 - 1]?).getD ""
  let going := if 1 < index ∧ 0 < offset then current.toList.drop offset else []
  let fresh : Option (List Char × Nat) :=
    if going ≠ [] then some (going, index)
    else
      match (args[index - 1]?).map String.toList with
      | some ('-' :: c :: cs) => some (c :: cs, index + 1)
      | _ => none
  match fresh with
  | none => ⟨index, 0, '?', none, none, true⟩
  | some (['-'], next) =>
    if going = [] then ⟨next, 0, '?', none, none, true⟩ else ⟨next, 0, '?', none, none, false⟩
  | some ([], next) => ⟨next, 0, '?', none, none, true⟩
  | some (c :: rest, next) =>
    let here := ((args[next - 1 - 1]?).getD "").length - rest.length
    let stay := if rest = [] then 0 else here
    match if c = ':' then none else form.findIdx? (· = c) with
    | none =>
      if quiet then ⟨next, stay, '?', some (String.singleton c), none, false⟩
      else ⟨next, stay, '?', none, some ("Illegal option -" ++ String.singleton c), false⟩
    | some i =>
      if form[i + 1]? = some ':' then
        if rest ≠ [] then ⟨next, 0, c, some (String.ofList rest), none, false⟩
        else
          match args[next - 1]? with
          | some value => ⟨next + 1, 0, c, some value, none, false⟩
          | none =>
            if quiet then ⟨next, 0, ':', some (String.singleton c), none, false⟩
            else ⟨next, 0, '?', none, some ("No arg for -" ++ String.singleton c ++ " option"), false⟩
      else ⟨next, stay, c, some "", none, false⟩

def getopts (args : List String) (m : Machine) : Machine :=
  match args with
  | form :: name :: rest =>
    let given := if rest = [] then m.parameters else rest
    let index := max 1 ((natural? (m.valueOf "OPTIND")).getD 1)
    let step := optionStep form.toList given index m.optionOffset
    let m := match step.message with
      | some message => m.mutter (message ++ "\n")
      | none => m
    let m := match step.value with
      | some value => m.assign "OPTARG" value
      | none => if step.done then m else m.unset "OPTARG"
    let m := m.assign "OPTIND" (toString step.next)
    let m := m.assign name (String.singleton step.letter)
    { m with optionOffset := step.offset, status := if step.done then 1 else 0 }
  | _ => m.fault "Usage: getopts optstring var [arg...]"

end Options

end PatchSearch.Shell.Builtin
