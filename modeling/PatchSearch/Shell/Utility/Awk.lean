import PatchSearch.Shell.Awk.Run

namespace PatchSearch.Shell

namespace Awk

structure Request where
  paths : List String
  separator : Option String
  /-- Variables that are set before, the last one first. -/
  given : List (String × Value)
  operands : List String

/-- Why arguments make no sense, or what is shown instead of running a program. -/
inductive Refusal where
  | unknown (arg : String)
  | missing (letter : Char)
  | badAssignment (arg : String)
  | version
  | usage

/-- Reads arguments, at most `left` of them. -/
def Request.read (r : Request) : (left : Nat) → List String → Except Refusal Request
  | 0, args => .ok { r with operands := args }
  | _, [] => .ok r
  | left + 1, arg :: args =>
    let valued (letter : Char) (cs : List Char) (use : String → Except Refusal Request) :
        Except Refusal Request := do
      if cs ≠ [] then (← use (String.ofList cs)).read left args
      else
        match args with
        | value :: args => (← use value).read left args
        | [] => .error (.missing letter)
    match arg.toList with
    | ['-', '-'] => .ok { r with operands := args }
    | '-' :: 'F' :: cs => valued 'F' cs fun s => .ok { r with separator := some s }
    | '-' :: 'f' :: cs => valued 'f' cs fun s => .ok { r with paths := r.paths ++ [s] }
    | '-' :: 'v' :: cs => valued 'v' cs fun s =>
      match assignment? s.toList with
      | some (name, v) => .ok { r with given := (name, v) :: r.given }
      | none => .error (.badAssignment s)
    | '-' :: 'W' :: cs => valued 'W' cs fun s =>
      if ['v'].isPrefixOf s.toList then .error .version
      else if ['u'].isPrefixOf s.toList ∨ ['h'].isPrefixOf s.toList then .error .usage
      else .ok r
    | '-' :: '-' :: cs =>
      if ['v'].isPrefixOf cs then .error .version
      else if ['u'].isPrefixOf cs ∨ ['h'].isPrefixOf cs then .error .usage
      else .error (.unknown arg)
    | '-' :: _ :: _ => .error (.unknown arg)
    | _ => .ok { r with operands := arg :: args }

def usageText : String :=
  "Usage: mawk [Options] [Program] [file ...]\n\nProgram:\n" ++
  "    The -f option value is the name of a file containing program text.\n" ++
  "    If no -f option is given, a \"--\" ends option processing; the following\n" ++
  "    parameters are the program text.\n\nOptions:\n" ++
  "    -f program-file  Program  text is read from file instead of from the\n" ++
  "                     command-line.  Multiple -f options are accepted.\n" ++
  "    -F value         sets the field separator, FS, to value.\n" ++
  "    -v var=value     assigns value to program variable var.\n" ++
  "    --               unambiguous end of options.\n\n" ++
  "    Implementation-specific options are prefixed with \"-W\".  They can be\n    abbreviated:\n\n" ++
  "    -W version       show version information and exit.\n" ++
  "    -W compat        pre-POSIX 2001.\n" ++
  "    -W dump          show assembler-like listing of program and exit.\n" ++
  "    -W help          show this message and exit.\n" ++
  "    -W interactive   set unbuffered output, line-buffered input.\n" ++
  "    -W exec file     use file as program as well as last option.\n" ++
  "    -W posix         stricter POSIX checking.\n" ++
  "    -W random=number set initial random seed.\n" ++
  "    -W sprintf=number adjust size of sprintf buffer.\n" ++
  "    -W usage         show this message and exit.\n"

/-- The text of a program in files, or the path that cannot be read. -/
def readParts (c : Call) : List String → Work (Except (String × FileError) (List Char))
  | [] => return .ok []
  | path :: paths => do
    match ← c.read path with
    | .error e => return .error (path, e)
    | .ok s =>
      match ← readParts c paths with
      | .error e => return .error e
      | .ok rest => return .ok (s.finite ++ (if rest = [] then [] else '\n' :: rest))

def runText (c : Call) (r : Request) (text : List Char) (args : List String) : Work Nat := do
  match Code.read text with
  | .error faults =>
    let place := match r.paths.getLast? with
      | some path => path ++ ": "
      | none => ""
    faults.forM fun e => c.warn (place ++ e.message)
    return 2
  | .ok code =>
    match r.separator.map fun s => unescaped s.length s.toList with
    | none => execute ⟨c, code⟩ args r.given.reverse
    | some cs =>
      match Division.ofText cs with
      | .error e =>
        c.warn ("line 0: " ++ badRegexText e cs)
        return 2
      | .ok _ => execute ⟨c, code⟩ args (("FS", Value.text cs) :: r.given.reverse)

end Awk

def awk : Utility := fun c => do
  match (Awk.Request.mk [] none [] []).read (c.args.length + 1) c.args with
  | .error e =>
    match e with
    | .unknown arg => c.warn ("not an option: " ++ arg)
    | .missing letter => c.warn ("option -" ++ String.singleton letter ++ " lacks argument")
    | .badAssignment s => c.warn ("improper assignment: -v " ++ s)
    | .version =>
      Work.sayLine "mawk 1.3.4 20240123"
      return 0
    | .usage =>
      Work.say Awk.usageText.toList
      return 0
    return 2
  | .ok r =>
    if r.paths = [] then
      match r.operands with
      | [] =>
        Work.mutter Awk.usageText.toList
        return 0
      | program :: args => Awk.runText c r program.toList args
    else
      match ← Awk.readParts c r.paths with
      | .error (path, e) =>
        c.warn ("cannot open \"" ++ path ++ "\" (" ++ reason e ++ ")")
        return 2
      | .ok text => Awk.runText c r text r.operands

end PatchSearch.Shell
