namespace PatchSearch.CommandLine

/-- Why arguments are no command line. -/
inductive UsageError where
  | help
  /-- There is nothing at all. -/
  | nothing
  | missingCommand
  | unknownCommand (name : String)
  | unknownArgument (arg : String)
  | missingArgument (name : String)
  /-- An option has no value, or one that is none of those it may have. -/
  | wrongValue (option value : String)
  | unreadableValue (option value : String)
  | repeated (option : String)
  /-- An option that takes no value has one. -/
  | unneededValue (option : String)
deriving Repr, DecidableEq

def UsageError.message : UsageError → String
  | .help | .nothing => "no arguments to run with"
  | .missingCommand => "a command is required"
  | .unknownCommand name => "unrecognized command \x27" ++ name ++ "\x27"
  | .unknownArgument arg => "unexpected argument \x27" ++ arg ++ "\x27"
  | .missingArgument name => "--" ++ name ++ " is required"
  | .wrongValue option value => "bad value \x27" ++ value ++ "\x27 for --" ++ option
  | .unreadableValue option value => "unreadable value \x27" ++ value ++ "\x27 for --" ++ option
  | .repeated option => "--" ++ option ++ " cannot be used several times"
  | .unneededValue option => "--" ++ option ++ " takes no value"

/-- What an option does to the settings `σ`. -/
inductive Action (σ : Type) where
  | help
  | switch (apply : σ → σ)
  /-- Reads one value; with `many` the option may occur several times. -/
  | value (many : Bool) (store : String → σ → Except UsageError σ)

structure Parameter (σ : Type) where
  name : String
  action : Action σ

inductive Token where
  /-- Two hyphens, after which nothing is an option. -/
  | escape
  | long (name : String) (value : Option String)
  | short (letters : List Char)
  | plain (text : String)
deriving Repr, DecidableEq

def Token.of (arg : String) : Token :=
  match arg.toList with
  | ['-', '-'] => .escape
  | '-' :: '-' :: cs =>
    let name := String.ofList (cs.takeWhile (· ≠ '='))
    match cs.dropWhile (· ≠ '=') with
    | [] => .long name none
    | _ :: value => .long name (some (String.ofList value))
  | '-' :: c :: cs => .short (c :: cs)
  | _ => .plain arg

/-- Where the reader of one level of a command line is. -/
structure Reader (σ : Type) where
  settings : σ
  given : List String
  /-- An option whose value is still to be read, with the value if it has come. -/
  pending : Option (Parameter σ × Option String)

namespace Reader

variable {σ : Type}

def act (r : Reader σ) (p : Parameter σ) (value : Option String) : Except UsageError (Reader σ) :=
  let given := p.name :: r.given
  match p.action, value with
  | .help, _ => .error .help
  | .switch apply, _ =>
    if r.given.contains p.name then .error (.repeated p.name)
    else .ok { r with settings := apply r.settings, given := given }
  | .value _ _, none => .error (.wrongValue p.name "")
  | .value many store, some value =>
    if !many && r.given.contains p.name then .error (.repeated p.name)
    else (store value r.settings).map fun settings => { r with settings := settings, given := given }

/-- Carries out the option whose value was still to be read. -/
def settle (r : Reader σ) : Except UsageError (Reader σ) :=
  match r.pending with
  | none => .ok r
  | some (p, value) => { r with pending := none }.act p value

def long (ps : List (Parameter σ)) (r : Reader σ) (name : String) (value : Option String) :
    Except UsageError (Reader σ) :=
  match ps.find? fun p => p.name = name, value with
  | none, _ => .error (.unknownArgument ("--" ++ name))
  | some p, value =>
    match p.action, value with
    | .value _ _, none => do return { ← r.settle with pending := some (p, none) }
    | .value _ _, some _ => do (← r.settle).act p value
    | .help, none | .switch _, none => do (← r.settle).act p none
    | .help, some _ | .switch _, some _ => .error (.unneededValue name)

/-- Reads letters after one hyphen; one asks for help, and there are no others. -/
def short (r : Reader σ) : List Char → Except UsageError (Reader σ)
  | 'h' :: _ => do
    let _ ← r.settle
    .error .help
  | cs => .error (.unknownArgument (String.ofList ('-' :: cs)))

/-- The reader with `text` as the value that it waits for; nothing if it does not wait. -/
def feed? (r : Reader σ) (text : String) : Option (Reader σ) :=
  match r.pending with
  | some (p, none) => some { r with pending := some (p, some text) }
  | _ => none

/-- The error for a word that is neither an option nor a value. -/
def stray (commands : List String) (text : String) : UsageError :=
  if commands.isEmpty then .unknownArgument text else .unknownCommand text

/-- Reads arguments up to a command, which is returned with the arguments after it. -/
def read (ps : List (Parameter σ)) (commands : List String) (r : Reader σ) :
    List String → Except UsageError (Reader σ × Option (String × List String))
  | [] => .ok (r, none)
  | arg :: args =>
    match Token.of arg with
    | .escape =>
      match args with
      | [] => .ok (r, none)
      | arg :: _ =>
        .error (if commands.contains arg then .unknownArgument arg else stray commands arg)
    | .long name value => do read ps commands (← r.long ps name value) args
    | .short letters => do read ps commands (← r.short letters) args
    | .plain text =>
      match r.feed? text with
      | some r => read ps commands r args
      | none =>
        if commands.contains text then .ok (r, some (text, args))
        else .error (stray commands text)

/-- The settings, once all values are read. -/
def finish (r : Reader σ) : Except UsageError σ := do
  return (← r.settle).settings

end Reader

end PatchSearch.CommandLine
