import PatchSearch.Shell.Awk.Basic
import PatchSearch.Shell.Number
import PatchSearch.Shell.Format

namespace PatchSearch.Shell.Awk

inductive Token where
  | number (x : Float) (shown : String)
  | text (cs : List Char)
  | regex (cs : List Char)
  /-- A name, and whether a parenthesis follows at once. -/
  | name (s : String) (called : Bool)
  | builtIn (f : BuiltIn) (s : String)
  /-- A word with a meaning of its own. -/
  | word (s : String)
  | sign (s : String)
  | lineEnd
  | finish
  /-- What is no token. -/
  | wrong (f : Fault)

structure Lexeme where
  token : Token
  line : Nat
  /-- How many parentheses and braces are open in front of it. -/
  parens : Nat
  braces : Nat
  faults : List LineFault

def Token.shown : Token → String
  | .number _ s => s
  | .text cs => String.ofList cs
  | .regex cs => "/" ++ String.ofList cs ++ "/"
  | .name s _ | .builtIn _ s | .word s => s
  | .sign ">>" => ">"
  | .sign s => s
  | .lineEnd => "end of line"
  | .finish => "end of file"
  | .wrong _ => ""

def builtIns : List (String × BuiltIn) :=
  [("length", .length), ("index", .index), ("substr", .part), ("split", .split), ("sub", .replaceFirst),
    ("gsub", .replaceAll), ("match", .find), ("sprintf", .format), ("sin", .sine), ("cos", .cosine),
    ("atan2", .angle), ("exp", .exponential), ("log", .logarithm), ("sqrt", .root), ("int", .whole),
    ("rand", .random), ("srand", .seed), ("close", .close), ("system", .system), ("tolower", .lower),
    ("toupper", .upper), ("fflush", .flush)]

def words : List String :=
  ["BEGIN", "END", "function", "if", "else", "while", "for", "do", "break", "continue", "next", "nextfile",
    "exit", "return", "delete", "in", "getline", "print", "printf"]

/-- Signs, longer ones first. -/
def signs : List String :=
  ["&&", "||", "==", "!=", "<=", ">=", ">>", "++", "--", "+=", "-=", "*=", "/=", "%=", "^=", "!~",
    "+", "-", "*", "/", "%", "^", "=", "<", ">", "!", "~", "?", ":", ",", ";", "(", ")", "[", "]",
    "\x7b", "\x7d", "$", "|"]

def Token.isOperand : Token → Bool
  | .number .. | .text _ | .regex _ | .name .. => true
  | .word s => s == "getline"
  | .sign s => s == ")" || s == "]" || s == "++" || s == "--" || s == "$"
  | _ => false

/-- Whether line ends behind a token do not count. -/
def Token.goesOn : Token → Bool
  | .sign s => s == "\x7b" || s == "\x7d" || s == "," || s == "&&" || s == "||" || s == ";"
  | .word s => s == "do" || s == "else"
  | .lineEnd => true
  | _ => false

/-- A character that an escape stands for, from behind its backslash, and what follows. -/
def escape? (cs : List Char) : Option (Char × List Char) :=
  match cs with
  | '"' :: rest => some ('"', rest)
  | 'e' :: _ => none
  | 'x' :: rest =>
    let (n, after) := digitsWithin 16 2 0 rest
    if after.length < rest.length then some (byteChar n, after) else none
  | cs => formatEscape? cs

/-- A text with the characters that escapes stand for, of at most `left` signs. -/
def unescaped : (left : Nat) → List Char → List Char
  | 0, _ | _, [] => []
  | left + 1, '\\' :: '\n' :: cs => unescaped left cs
  | left + 1, '\\' :: cs =>
    match escape? cs with
    | some (c, rest) => c :: unescaped left rest
    | none =>
      match cs with
      | c :: rest => '\\' :: c :: unescaped left rest
      | [] => ['\\']
  | left + 1, c :: cs => c :: unescaped left cs

/-- The characters up to a quote that no backslash stands in front of, and what follows it. -/
def quoted? : List Char → Option (List Char × List Char)
  | [] => none
  | '"' :: cs => some ([], cs)
  | '\n' :: _ => none
  | '\\' :: c :: cs => (quoted? cs).map fun (text, rest) => ('\\' :: c :: text, rest)
  | c :: cs => (quoted? cs).map fun (text, rest) => (c :: text, rest)

/-- A pattern up to its slash, which may stand in a set or behind a backslash; `place` counts the
characters of a set so far. -/
def pattern : (place : Option Nat) → List Char → Option (List Char) × List Char
  | _, [] | _, '\n' :: _ => (none, [])
  | none, '/' :: cs => (some cs, [])
  | place, '\\' :: c :: cs =>
    if c = '\n' then (none, ['\\'])
    else
      let (rest, text) := pattern (place.map (· + 1)) cs
      (rest, if c = '/' then c :: text else '\\' :: c :: text)
  | none, '[' :: cs =>
    let (rest, text) := pattern (some 0) cs
    (rest, '[' :: text)
  | some place, c :: cs =>
    let (rest, text) := pattern
      (if c = ']' ∧ 0 < place then none else if c = '^' ∧ place = 0 then some 0 else some (place + 1)) cs
    (rest, c :: text)
  | none, c :: cs =>
    let (rest, text) := pattern none cs
    (rest, c :: text)

/-- The number that a text begins with, as a program shows it. -/
def numberToken? (cs : List Char) : Option (Token × List Char) :=
  (pointPrefix? 10 cs).map fun (digits, places, rest) =>
    let (e, rest) := exponentPrefix ['e', 'E'] rest
    (.number (Decimal.toFloat ⟨digits, e - places⟩) (String.ofList (cs.take (cs.length - rest.length))), rest)

/-- The token that a text begins with, and what follows; `last` is the token in front. -/
def nextToken (last : Token) (cs : List Char) : Token × List Char :=
  match cs with
  | [] => (.finish, [])
  | '\n' :: rest => (.lineEnd, rest)
  | '"' :: rest =>
    match quoted? rest with
    | some (text, after) => (.text (unescaped text.length text), after)
    | none => (.wrong (.openText (rest.takeWhile (· ≠ '\n'))), [])
  | c :: rest =>
    if c.isDigit || (c == '.' && (rest.head?.map Char.isDigit).getD false) then
      (numberToken? cs).getD (.wrong (.strange c), rest)
    else if c = '.' then (.wrong (.strange c), rest.tail)
    else if c.isAlpha || c == '_' then
      let name := cs.takeWhile fun c => c.isAlphanum || c == '_'
      let after := cs.drop name.length
      let name := String.ofList name
      if words.contains name then (.word name, after)
      else
        match builtIns.lookup name with
        | some f => (.builtIn f name, after)
        | none => (.name name (after.head? = some '('), after)
    else if c = '/' ∧ !last.isOperand then
      match pattern none rest with
      | (some after, text) => (.regex text, after)
      | (none, text) => (.wrong (.openRegex text), [])
    else
      match signs.find? fun s => s.toList.isPrefixOf cs with
      | some s => (.sign s, cs.drop s.length)
      | none => (.wrong (.strange c), rest)

structure Scan where
  line : Nat
  last : Token
  parens : Nat
  braces : Nat
  faults : List LineFault

/-- The tokens of a text, at most `left` of them. -/
def Scan.tokens (s : Scan) : (left : Nat) → List Char → List Lexeme
  | 0, _ => []
  | left + 1, cs =>
    match cs.dropWhile fun c => c == ' ' || c == '\t' || c == '\r' with
    | '#' :: rest => s.tokens left (rest.dropWhile (· ≠ '\n'))
    | '\\' :: '\n' :: rest => { s with line := s.line + 1 }.tokens left rest
    | cs =>
      let (t, rest) := nextToken s.last cs
      let found : Lexeme := ⟨t, s.line, s.parens, s.braces, s.faults⟩
      let lost (sign : Char) : List Lexeme :=
        { s with faults := s.faults ++ [LineFault.mk s.line (.extra sign)], last := .sign "" }.tokens left rest
      let go (s : Scan) : List Lexeme := found :: { s with last := t, faults := [] }.tokens left rest
      match t with
      | .lineEnd =>
        if s.last.goesOn then { s with line := s.line + 1 }.tokens left rest
        else go { s with line := s.line + 1 }
      | .finish | .wrong (.openText _) | .wrong (.openRegex _) => [found]
      | .sign "(" => go { s with parens := s.parens + 1 }
      | .sign ")" => if s.parens = 0 then lost ')' else go { s with parens := s.parens - 1 }
      | .sign "\x7b" => go { s with braces := s.braces + 1 }
      | .sign "\x7d" =>
        if s.braces = 0 then lost '}'
        else if s.braces = 1 then
          let after := rest.dropWhile fun c => c == ' ' || c == '\t'
          let after := if after.head? = some ';' then after.tail else rest
          found :: { s with last := t, faults := [], braces := 0 }.tokens left after
        else go { s with braces := s.braces - 1 }
      | .text text => go { s with line := s.line + text.count '\n' }
      | _ => go s

def tokens (cs : List Char) : List Lexeme :=
  (Scan.mk 1 .lineEnd 0 0 []).tokens (cs.length + 2) (cs ++ ['\n'])

end PatchSearch.Shell.Awk
