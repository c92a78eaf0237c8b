import PatchSearch.Shell.Syntax

namespace PatchSearch.Shell

inductive Token where
  | endOfFile
  | newline
  | sign (s : String)
  | reserved (word : String)
  | redirection
  | word
deriving Repr, DecidableEq

def Token.show : Token → String
  | .endOfFile => "end of file"
  | .newline => "newline"
  | .sign s | .reserved s => "\"" ++ s ++ "\""
  | .redirection => "redirection"
  | .word => "word"

/-- Characters that end a word unless they are quoted. -/
def isMeta (c : Char) : Bool :=
  " \t\n;&|<>()".toList.contains c

def isNameStart (c : Char) : Bool :=
  c.isAlpha || c == '_'

def isNameChar (c : Char) : Bool :=
  c.isAlphanum || c == '_'

def isName (s : String) : Bool :=
  match s.toList with
  | [] => false
  | c :: cs => isNameStart c && cs.all isNameChar

/-- Characters that stand for values behind a dollar sign. -/
def isParameter (c : Char) : Bool :=
  "@*#?-$!0123456789".toList.contains c

def reservedWords : List String :=
  ["!", "case", "do", "done", "elif", "else", "esac", "fi", "for", "if", "in", "then", "until",
    "while", "\x7b", "\x7d"]

/-- The text without blanks and comments in front. -/
def skipBlanks : List Char → List Char
  | [] => []
  | '\\' :: '\n' :: cs => skipBlanks cs
  | c :: cs =>
    if c = ' ' ∨ c = '\t' then skipBlanks cs
    else if c = '#' then cs.dropWhile (· ≠ '\n')
    else c :: cs

/-- The text without blanks, comments and ends of lines in front. -/
def skipLines (cs : List Char) : List Char :=
  match skipBlanks cs with
  | '\n' :: rest => if rest.length < cs.length then skipLines rest else rest
  | rest => rest
termination_by cs.length

def reserved? (cs : List Char) : Option String :=
  let word := cs.takeWhile fun c => !isMeta c && !"\"$\\\x60\x27".toList.contains c
  match cs.drop word.length with
  | [] => reservedWords.find? (· = String.ofList word)
  | c :: _ => if isMeta c then reservedWords.find? (· = String.ofList word) else none

/-- What a text without blanks in front begins with. -/
def token (cs : List Char) : Token :=
  match cs with
  | [] => .endOfFile
  | '\n' :: _ => .newline
  | '&' :: '&' :: _ => .sign "&&"
  | '&' :: _ => .sign "&"
  | '|' :: '|' :: _ => .sign "||"
  | '|' :: _ => .sign "|"
  | ';' :: ';' :: _ => .sign ";;"
  | ';' :: _ => .sign ";"
  | '(' :: _ => .sign "("
  | ')' :: _ => .sign ")"
  | '<' :: _ | '>' :: _ => .redirection
  | [_] => (reserved? cs).elim .word .reserved
  | c :: d :: _ =>
    if c.isDigit ∧ (d = '<' ∨ d = '>') then .redirection else (reserved? cs).elim .word .reserved

def Token.isCloser : Token → Bool
  | .endOfFile => true
  | .sign s => s == ")" || s == ";;"
  | .reserved w => ["do", "done", "elif", "else", "esac", "fi", "then", "\x7d"].contains w
  | _ => false

/-- The redirection that a text begins with: its descriptor and kind, and what follows. A text that
is given in the script has no kind. -/
def redirection? (cs : List Char) : Option (Nat × Option Channel × List Char) :=
  let (digit, rest) : Option Nat × List Char := match cs with
    | c :: rest => if c.isDigit then (some (c.toNat - 48), rest) else (none, cs)
    | [] => (none, cs)
  match rest with
  | '>' :: '>' :: rest => some (digit.getD 1, some .append, rest)
  | '>' :: '&' :: rest => some (digit.getD 1, some .duplicate, rest)
  | '>' :: '|' :: rest => some (digit.getD 1, some .clobber, rest)
  | '>' :: rest => some (digit.getD 1, some .write, rest)
  | '<' :: '<' :: rest => some (digit.getD 0, none, rest)
  | '<' :: '&' :: rest => some (digit.getD 0, some .duplicate, rest)
  | '<' :: '>' :: rest => some (digit.getD 0, some .readWrite, rest)
  | '<' :: rest => some (digit.getD 0, some .read, rest)
  | _ => none

/-- The word that ends a given text, whether a part of it is quoted, and what follows. -/
def readMark : List Char → List Char × Bool × List Char
  | [] => ([], false, [])
  | '\\' :: c :: cs =>
    let (word, _, rest) := readMark cs
    (c :: word, true, rest)
  | c :: cs =>
    if isMeta c then ([], false, c :: cs)
    else if c = '\x22' ∨ c = '\x27' then
      let (word, _, rest) := readMark cs
      (word, true, rest)
    else
      let (word, quoted, rest) := readMark cs
      (c :: word, quoted, rest)

/-- The lines of a text, each with its end if it has one. -/
def splitLines : List Char → List (List Char)
  | [] => []
  | c :: cs =>
    if c = '\n' then ['\n'] :: splitLines cs
    else
      match splitLines cs with
      | [] => [[c]]
      | line :: lines => (c :: line) :: lines

def continuedLine : List Char := ['\\', '\n']

/-- Takes the text up to a line with the mark out of the lines behind the current one; with `strip`
lines lose the tabs in front. The lines stay in place as continued ones, so that those behind keep
their numbers. The number is that of the lines before the text, which earlier texts left. -/
def takeDocument (mark : List Char) (strip : Bool) (cs : List Char) :
    List Char × Nat × List Char :=
  let line := cs.takeWhile (· ≠ '\n')
  match cs.drop line.length with
  | [] => ([], 0, cs)
  | _ :: behind =>
    let earlier := ((splitLines behind).takeWhile (· = continuedLine)).length
    let lines := (splitLines behind).drop earlier
    let cut (line : List Char) : List Char := if strip then line.dropWhile (· = '\t') else line
    let isEnd (line : List Char) : Bool := cut line = mark || cut line = mark ++ ['\n']
    let body := lines.takeWhile (!isEnd ·)
    let gone := earlier + body.length + 1
    ((body.map cut).flatten, earlier,
      line ++ '\n' :: ((List.replicate gone continuedLine).flatten ++
        (lines.drop (body.length + 1)).flatten))

end PatchSearch.Shell
