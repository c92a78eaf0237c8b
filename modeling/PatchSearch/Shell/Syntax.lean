namespace PatchSearch.Shell

/-- What a redirection does with the file, or with the descriptor, that it names. -/
inductive Channel where
  | read
  | write
  /-- As `write`, also where files may not be overwritten. -/
  | clobber
  | append
  | readWrite
  | duplicate
deriving Repr, DecidableEq

/-- What is done with the value of a variable. Of the first four, those with `orEmpty` take a variable
without characters as one that is not set. -/
inductive Adjustment where
  /-- Another word if the variable is not set. -/
  | fallback (orEmpty : Bool)
  | instead (orEmpty : Bool)
  /-- As `fallback`, and the variable is set to the other word. -/
  | assign (orEmpty : Bool)
  /-- If the variable is not set, the script ends with the other word as its reason. -/
  | require (orEmpty : Bool)
  | length
  /-- Without a beginning that a pattern is for, the longest or the shortest. -/
  | cutStart (longest : Bool)
  | cutEnd (longest : Bool)
deriving Repr, DecidableEq

mutual

/-- A list of commands. Numbers of lines are for messages. -/
inductive Script where
  | skip
  | sequence (first second : Script)
  /-- The second only if the first succeeds. -/
  | both (first second : Script)
  /-- The second only if the first fails. -/
  | either (first second : Script)
  /-- The output of the first is the input of the second. -/
  | pipe (first second : Script)
  /-- The rest of the script does not wait for the body. -/
  | background (body : Script)
  | negate (body : Script)
  | group (line : Nat) (body : Script) (redirections : Items)
  /-- As a group, but what it changes in the shell is forgotten. -/
  | subshell (line : Nat) (body : Script) (redirections : Items)
  | conditional (test yes no : Script)
  /-- The body for each word, as the value of a variable. -/
  | each (line : Nat) (name : String) (words : Items) (body : Script)
  /-- The body as long as the test succeeds, or with `failing` as long as it fails. -/
  | loop (failing : Bool) (test body : Script)
  /-- The body of the first branch with a pattern for the subject. -/
  | choose (line : Nat) (subject : Word) (branches : Branches)
  | define (name : String) (body : Script)
  | command (line : Nat) (items : Items)

/-- Patterns with what to do for each. -/
inductive Branches where
  | none
  | branch (pattern : Word) (body : Script) (rest : Branches)

inductive Items where
  | none
  | word (w : Word) (rest : Items)
  | assign (name : String) (w : Word) (rest : Items)
  | redirect (descriptor : Nat) (channel : Channel) (w : Word) (rest : Items)
  | document (descriptor : Nat) (text : Word) (rest : Items)

/-- A word; what is not quoted falls apart at blanks. -/
inductive Word where
  | done
  | text (quoted : Bool) (cs : List Char) (rest : Word)
  | variable (quoted : Bool) (name : String) (rest : Word)
  /-- The value of a variable after an adjustment with another word. -/
  | adjusted (quoted : Bool) (name : String) (how : Adjustment) (w rest : Word)
  /-- What stands for no value at all. -/
  | malformed (rest : Word)
  | home (rest : Word)
  | output (quoted : Bool) (body : Script) (rest : Word)
  | arithmetic (quoted : Bool) (expression : Word) (rest : Word)

end

namespace Word

def push (quoted : Bool) (c : Char) (w : Word) : Word :=
  match w with
  | .text q cs rest => if q = quoted then .text q (c :: cs) rest else .text quoted [c] w
  | w => .text quoted [c] w

def append : Word → Word → Word
  | .done, w => w
  | .text quoted cs rest, w => .text quoted cs (rest.append w)
  | .variable quoted name rest, w => .variable quoted name (rest.append w)
  | .adjusted quoted name how argument rest, w => .adjusted quoted name how argument (rest.append w)
  | .malformed rest, w => .malformed (rest.append w)
  | .home rest, w => .home (rest.append w)
  | .output quoted body rest, w => .output quoted body (rest.append w)
  | .arithmetic quoted expression rest, w => .arithmetic quoted expression (rest.append w)

/-- The characters of a word that is nothing else and has no quotes. -/
def plain? : Word → Option String
  | .done => some ""
  | .text false cs .done => some (String.ofList cs)
  | _ => none

end Word

namespace Items

def append : Items → Items → Items
  | .none, items => items
  | .word w rest, items => .word w (rest.append items)
  | .assign name w rest, items => .assign name w (rest.append items)
  | .redirect descriptor channel w rest, items => .redirect descriptor channel w (rest.append items)
  | .document descriptor text rest, items => .document descriptor text (rest.append items)

end Items

/-- Why a text is no script. -/
inductive SyntaxFault where
  | unterminatedQuote
  | unterminatedOutput
  | missingBrace
  | missingParentheses
  | badLoopVariable
  | badFunctionName
  | badDescriptor
  /-- A token that cannot stand where it stands, and the only one that could. -/
  | unexpected (token : String) (expected : Option String)
deriving Repr, DecidableEq

def SyntaxFault.message : SyntaxFault → String
  | .unterminatedQuote => "Unterminated quoted string"
  | .unterminatedOutput => "EOF in backquote substitution"
  | .missingBrace => "Missing '\x7d'"
  | .missingParentheses => "Missing '))'"
  | .badLoopVariable => "Bad for loop variable"
  | .badFunctionName => "Bad function name"
  | .badDescriptor => "Bad fd number"
  | .unexpected token none => token ++ " unexpected"
  | .unexpected token (some expected) => token ++ " unexpected (expecting " ++ expected ++ ")"

structure SyntaxError where
  line : Nat
  fault : SyntaxFault
deriving Repr, DecidableEq

end PatchSearch.Shell
