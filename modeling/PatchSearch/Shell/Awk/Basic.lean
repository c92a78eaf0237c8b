import PatchSearch.Shell.Regex.Reader

namespace PatchSearch.Shell.Awk

inductive Comparison where
  | less
  | atMost
  | equal
  | different
  | atLeast
  | greater
deriving Repr, DecidableEq

inductive Operation where
  | add
  | subtract
  | multiply
  | divide
  | remainder
  | power
deriving Repr, DecidableEq

inductive BuiltIn where
  | length
  | index
  | part
  | split
  | replaceFirst
  | replaceAll
  | find
  | format
  | sine
  | cosine
  | angle
  | exponential
  | logarithm
  | root
  | whole
  | random
  | seed
  | close
  | system
  | lower
  | upper
  | flush
deriving Repr, DecidableEq

inductive Expr where
  | number (x : Float)
  | text (cs : List Char)
  /-- A pattern; on its own it tells whether the record matches. -/
  | regex (r : Regex)
  | named (name : String)
  | field (index : Expr)
  | element (array : String) (subscripts : List Expr)
  | assign (target value : Expr)
  | update (target : Expr) (o : Operation) (value : Expr)
  /-- Counts a target up or down; the value is the one `before` or the one behind it. -/
  | step (target : Expr) (up before : Bool)
  | calculate (o : Operation) (x y : Expr)
  | negate (x : Expr)
  | plain (x : Expr)
  | invert (x : Expr)
  | compare (o : Comparison) (x y : Expr)
  | join (x y : Expr)
  | both (x y : Expr)
  | either (x y : Expr)
  | choose (test x y : Expr)
  | member (subscripts : List Expr) (array : String)
  | matching (wanted : Bool) (x pattern : Expr)
  | call (name : String) (args : List Expr)
  | apply (f : BuiltIn) (args : List Expr)
  /-- Reads a record of the input, of a file, or of the output of a command line. -/
  | readNext (target : Option Expr)
  | readFile (target : Option Expr) (path : Expr)
  | readCommand (target : Option Expr) (command : Expr)
  | group (parts : List Expr)

inductive Direction where
  | file
  | append
  | pipe
deriving Repr, DecidableEq

inductive Statement where
  | block (body : List Statement)
  | value (e : Expr)
  | print (args : List Expr) (target : Option (Direction × Expr))
  | format (args : List Expr) (target : Option (Direction × Expr))
  | branch (test : Expr) (yes : Statement) (no : Option Statement)
  /-- Repeats a statement and then a step while a test holds, which may be done first. -/
  | loop (testFirst : Bool) (test : Option Expr) (step : Option Expr) (body : Statement)
  | each (name array : String) (body : Statement)
  | leave
  | again
  | nextRecord
  | nextFile
  | exit (status : Option Expr)
  | answer (value : Option Expr)
  | delete (array : String) (subscripts : List Expr)

inductive Pattern where
  | first
  | last
  | every
  | test (e : Expr)
  | span (first last : Expr)

structure Rule where
  pattern : Pattern
  action : Option Statement

structure Routine where
  name : String
  params : List String
  body : Statement

structure Code where
  rules : List Rule
  routines : List Routine

/-- Why a text is no program. -/
inductive Fault where
  | near (token : String)
  | missing (sign : Char) (token : String)
  | extra (sign : Char)
  | strange (c : Char)
  | openText (cs : List Char)
  | openRegex (cs : List Char)
  | badRegex (e : RegexError) (cs : List Char)
  | wrongCount (name : String)
  | tooMany (name : String)
  /-- An argument is an array where a function wants a value, or the other way round. -/
  | misfit (nth : Nat) (name : String) (isArray : Bool)
  | undefined (name : String)
  | notScalar (kind name : String)
  | improper (word : String)
  | outsideLoop (word : String)
  | outsideRoutine
  | twice (name : String)
  | redefined (name : String)
  | ownParameter
  | nothingToFormat

def regexTrouble : RegexError → String
  | .unmatchedOpen => "missing ')'"
  | .unmatchedBracket | .badClass | .bareClass | .badRange => "bad class -- [], [^] or ["
  | _ => "missing operand"

/-- What is said about a pattern that is none. -/
def badRegexText (e : RegexError) (cs : List Char) : String :=
  "regular expression compile failed (" ++ regexTrouble e ++ ")\n" ++ String.ofList cs

def Fault.message : Fault → String
  | .near token => "syntax error at or near " ++ token
  | .missing sign token => "missing " ++ String.singleton sign ++ " near " ++ token
  | .extra sign => "extra '" ++ String.singleton sign ++ "'"
  | .strange c => "unexpected character '" ++ String.singleton c ++ "'"
  | .openText cs => "runaway string constant \"" ++ String.ofList (cs.take 10) ++ " ..."
  | .openRegex cs => "runaway regular expression /" ++ String.ofList (cs.take 10) ++ " ..."
  | .badRegex e cs => badRegexText e cs
  | .wrongCount name => "wrong number of arguments in call to " ++ name
  | .tooMany name => "too many arguments in call to " ++ name
  | .misfit n name isArray =>
    let word (isArray : Bool) : String := if isArray then "local array" else "local variable"
    "type error in arg(" ++ toString n ++ ") in call to " ++ name ++ " (actual " ++ word isArray ++
      " vs " ++ word (!isArray) ++ ")"
  | .undefined name => "function " ++ name ++ " never defined"
  | .notScalar kind name => "illegal reference to " ++ kind ++ " " ++ name
  | .improper word => "improper use of " ++ word
  | .outsideLoop word => word ++ " statement outside of loop"
  | .outsideRoutine => "return outside function body"
  | .twice name => name ++ " is duplicated in argument list"
  | .redefined name => "redefinition of " ++ name
  | .ownParameter => "function parameter cannot be the function"
  | .nothingToFormat => "no arguments in call to printf"

structure LineFault where
  line : Nat
  fault : Fault

def LineFault.message (e : LineFault) : String :=
  match e.fault with
  | .strange _ => toString e.line ++ ": " ++ e.fault.message
  | fault => "line " ++ toString e.line ++ ": " ++ fault.message

end PatchSearch.Shell.Awk
