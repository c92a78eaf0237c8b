import PatchSearch.Statement.Basic
import PatchSearch.Statement.Lexeme
import PatchSearch.Text.Quoted

namespace PatchSearch

/-- Why a text holds no statements. Offsets count bytes. -/
inductive ParseError where
  | unbalanced (delimiter : Char) (offset : Nat)
  | unterminated (offset : Nat)
  | trailing (text : String)
  | empty
deriving Repr, DecidableEq

def ParseError.message : ParseError → String
  | .unbalanced c offset => s!"unbalanced `{c}` at byte {offset}"
  | .unterminated offset => s!"unterminated literal or comment starting at byte {offset}"
  | .trailing text => "text without a statement terminator: " ++ Text.quoted text
  | .empty => "fragment contains no statements"

/-- A block whose closing brace has not been read yet. -/
structure Opening where
  /-- The statements before the block, the newest first. -/
  before : List Statement
  header : String
  offset : Nat
deriving Repr

structure Reading where
  /-- The number of bytes read. -/
  offset : Nat
  /-- The statements of the innermost open block, the newest first. -/
  items : List Statement
  /-- The open blocks, the innermost first. -/
  outer : List Opening
  /-- The text of the statement or header under way, the newest character first. -/
  collected : List Char
  /-- The open round and square brackets with their offsets, the innermost first. -/
  brackets : List (Char × Nat)
  /-- The number of open braces that belong to an expression. -/
  braces : Nat
deriving Repr

namespace Reading

/-- Before the first lexeme. -/
def start : Reading := ⟨0, [], [], [], [], 0⟩

def skip (r : Reading) (x : Lexeme) : Reading :=
  { r with offset := r.offset + x.width }

/-- Blanks and block comments leave one space between the marks around them. -/
def space (r : Reading) (x : Lexeme) : Reading :=
  match r.collected with
  | [] => r.skip x
  | c :: cs => if c = ' ' then r.skip x else { r.skip x with collected := ' ' :: c :: cs }

/-- Takes the characters of the lexeme as they are. -/
def push (r : Reading) (x : Lexeme) : Reading :=
  { r.skip x with collected := x.text.reverse ++ r.collected }

/-- The text under way, without blanks at its ends. -/
def text (r : Reading) : List Char :=
  Text.trim r.collected.reverse

/-- The opening bracket that a closing one goes with. -/
def opener (c : Char) : Char :=
  if c = ')' then '(' else '['

/-- After these endings an opening brace continues the expression. -/
def expectsOperand (head : List Char) : Bool :=
  ['='].isSuffixOf head || ['-', '>'].isSuffixOf head || [']'].isSuffixOf head ||
    [','].isSuffixOf head || head == "return".toList || " return".toList.isSuffixOf head

/-- Whether an opening brace belongs to the expression under way. -/
def inExpression (r : Reading) : Bool :=
  !r.brackets.isEmpty || r.braces > 0 || expectsOperand (Text.trimEnd r.collected.reverse)

/-- Between two statements no text may be left over. -/
def noTrailing (r : Reading) : Except ParseError Unit :=
  if r.text = [] then .ok () else .error (.trailing (String.ofList r.text))

def closeBracket (r : Reading) (c : Char) : Except ParseError Reading :=
  match r.brackets with
  | [] => .error (.unbalanced c r.offset)
  | (b, _) :: bs =>
    if b = opener c then .ok { r.push (.mark c) with brackets := bs }
    else .error (.unbalanced c r.offset)

def openBrace (r : Reading) : Reading :=
  if r.inExpression then { r.push (.mark '{') with braces := r.braces + 1 }
  else
    { r.skip (.mark '{') with
      items := []
      outer := ⟨r.items, String.ofList r.text, r.offset⟩ :: r.outer
      collected := [] }

def closeBrace (r : Reading) : Except ParseError Reading :=
  if r.braces > 0 then .ok { r.push (.mark '}') with braces := r.braces - 1 }
  else
    match r.outer with
    | [] => .error (.unbalanced '}' r.offset)
    | o :: os => do
      r.noTrailing
      return { r.skip (.mark '}') with
        items := .block o.header r.items.reverse :: o.before
        outer := os }

def semicolon (r : Reading) : Reading :=
  let p := r.push (.mark ';')
  if r.brackets.isEmpty && r.braces = 0 then
    { p with items := .simple (String.ofList p.text) :: r.items, collected := [] }
  else p

/-- Reads a character that is neither blank nor part of a literal or comment. -/
def mark (r : Reading) (c : Char) : Except ParseError Reading :=
  if c = '(' ∨ c = '[' then
    .ok { r.push (.mark c) with brackets := (c, r.offset) :: r.brackets }
  else if c = ')' ∨ c = ']' then r.closeBracket c
  else if c = '{' then .ok r.openBrace
  else if c = '}' then r.closeBrace
  else if c = ';' then .ok r.semicolon
  else .ok (r.push (.mark c))

def step (r : Reading) : Lexeme → Except ParseError Reading
  | .literal t => .ok (r.push (.literal t))
  | .blank c => .ok (r.space (.blank c))
  | .blockComment t => .ok (r.space (.blockComment t))
  | .lineComment t => .ok (r.skip (.lineComment t))
  | .mark c => r.mark c
  | .unclosed _ => .error (.unterminated r.offset)

/-- The statements of the whole text, once every lexeme is read. -/
def finish (r : Reading) : Except ParseError (List Statement) :=
  match r.brackets with
  | (c, offset) :: _ => .error (.unbalanced c offset)
  | [] =>
    match r.outer with
    | o :: _ => .error (.unbalanced '{' o.offset)
    | [] =>
      if r.braces > 0 then .error (.unbalanced '{' 0)
      else do
        r.noTrailing
        return r.items.reverse

end Reading

namespace Statement

def parseAll (text : String) : Except ParseError (List Statement) := do
  (← (lexemes text.toList).foldlM Reading.step Reading.start).finish

/-- The one statement that a list of statements stands for; several are wrapped in a bare block. -/
def single : List Statement → Except ParseError Statement
  | [] => .error .empty
  | [s] => .ok s
  | ss => .ok (.block "" ss)

/-- Reads a text that has to take the place of a single statement. -/
def parse (text : String) : Except ParseError Statement := do
  single (← parseAll text)

end Statement

end PatchSearch
