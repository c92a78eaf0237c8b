import PatchSearch.Shell.Token

namespace PatchSearch.Shell

inductive Mode where
  | bare
  | double
  /-- Up to the closing brace of a variable, itself between double quotes or not. -/
  | brace (quoted : Bool)
  /-- Up to the parentheses that close an arithmetic expression with some open ones. -/
  | expression (depth : Nat)
  /-- Up to the end of a text that is given in the script. -/
  | document
deriving DecidableEq

/-- How far a list of commands reaches. -/
inductive Extent where
  | line
  /-- To a token that closes it, behind at least one command. -/
  | filled
  | any
deriving DecidableEq

def Mode.isQuoted : Mode → Bool
  | .bare | .brace false => false
  | _ => true

/-- Whether a backslash in front of a character goes away in quoted text. -/
def Mode.isEscapable (mode : Mode) (c : Char) : Bool :=
  c == '$' || c == '\x60' || c == '\\' || (c == '\x22' && mode != .document) ||
    (c == '\x7d' && mode == .brace true)

/-- What is to be done with the value of a variable, and what follows. -/
def adjustment? : List Char → Option (Adjustment × List Char)
  | ':' :: '-' :: cs => some (.fallback true, cs)
  | '-' :: cs => some (.fallback false, cs)
  | ':' :: '+' :: cs => some (.instead true, cs)
  | '+' :: cs => some (.instead false, cs)
  | ':' :: '=' :: cs => some (.assign true, cs)
  | '=' :: cs => some (.assign false, cs)
  | ':' :: '?' :: cs => some (.require true, cs)
  | '?' :: cs => some (.require false, cs)
  | '#' :: '#' :: cs => some (.cutStart true, cs)
  | '#' :: cs => some (.cutStart false, cs)
  | '%' :: '%' :: cs => some (.cutEnd true, cs)
  | '%' :: cs => some (.cutEnd false, cs)
  | _ => none

/-- Whether another word for an adjustment is a pattern. -/
def Adjustment.takesPattern : Adjustment → Bool
  | .cutStart _ | .cutEnd _ => true
  | _ => false

/-- The name of a variable that a text begins with. -/
def parameter? : List Char → Option (String × List Char)
  | [] => none
  | c :: cs =>
    if isNameStart c then
      some (String.ofList (c :: cs.takeWhile isNameChar), cs.dropWhile isNameChar)
    else if c.isDigit then
      some (String.ofList (c :: cs.takeWhile Char.isDigit), cs.dropWhile Char.isDigit)
    else if isParameter c then some (String.singleton c, cs)
    else none

/-- The name of a variable whose length is asked for, and what follows its brace. -/
def lengthOf? : List Char → Option (String × List Char)
  | [] => none
  | c :: cs =>
    match parameter? (c :: cs) with
    | some (name, '}' :: rest) => some (name, rest)
    | _ => none

/-- The text up to the closing sign of an old form of output, and what follows. -/
def backquoted (quoted : Bool) : List Char → Option (List Char × List Char)
  | [] => none
  | '\\' :: '\n' :: cs => backquoted quoted cs
  | '\\' :: c :: cs => (backquoted quoted cs).map fun (inside, rest) =>
    (if c = '\\' ∨ c = '\x60' ∨ c = '$' ∨ (quoted ∧ c = '\x22') then c :: inside else '\\' :: c :: inside,
      rest)
  | c :: cs =>
    if c = '\x60' then some ([], cs)
    else (backquoted quoted cs).map fun (inside, rest) => (c :: inside, rest)

def isHome (inValue : Bool) : List Char → Bool
  | '~' :: c :: _ => c == '/' || isMeta c || (inValue && c == ':')
  | ['~'] => true
  | _ => false

/-- Splits a text behind a name and an equals sign. -/
def assignment? (cs : List Char) : Option (String × List Char) :=
  let name := cs.takeWhile isNameChar
  match cs.drop name.length with
  | '=' :: rest => if isName (String.ofList name) then some (String.ofList name, rest) else none
  | _ => none

def specialBuiltins : List String :=
  [".", ":", "break", "continue", "eval", "exec", "exit", "export", "local", "readonly", "return",
    "set", "shift", "times", "trap", "unset"]

def lineAt (ends : Nat) (cs : List Char) : Nat :=
  ends - cs.count '\n' + 1

def refuse {α : Type} (ends : Nat) (cs : List Char) (fault : SyntaxFault) : Except SyntaxError α :=
  .error ⟨lineAt ends cs, fault⟩

/-- A failure because of the token that a text begins with. -/
def unexpected {α : Type} (ends : Nat) (cs : List Char) (expected : Option String) :
    Except SyntaxError α :=
  let t := token cs
  refuse ends (if t = .newline then cs.drop 1 else cs) (.unexpected t.show expected)

def expect (ends : Nat) (word : String) (cs : List Char) : Except SyntaxError (List Char) :=
  let shown := "\"" ++ word ++ "\""
  if (token cs).show = shown then .ok (cs.drop word.length) else unexpected ends cs (some shown)

mutual

/-- Reads a word in a mode; `inValue` where a colon may stand before a tilde, and `start` where a
tilde may stand. -/
def readWord : (depth ends : Nat) → Mode → (inValue start : Bool) → List Char →
    Except SyntaxError (Word × List Char)
  | 0, _, _, _, _, cs => .ok (.done, cs)
  | depth + 1, ends, mode, inValue, start, cs =>
    let quoted := mode.isQuoted
    let go (c : Char) (quoted : Bool) (rest : List Char) : Except SyntaxError (Word × List Char) := do
      let (w, rest) ← readWord depth ends mode inValue (inValue && c == ':') rest
      return (w.push quoted c, rest)
    match mode, cs with
    | .bare, [] | .document, [] => .ok (.done, [])
    | .double, [] => refuse ends [] .unterminatedQuote
    | .brace _, [] => refuse ends [] .missingBrace
    | .expression _, [] => refuse ends [] .missingParentheses
    | .brace _, '}' :: rest => .ok (.done, rest)
    | .expression 0, ')' :: ')' :: rest => .ok (.done, rest)
    | .expression n, '(' :: rest => do
      let (w, rest) ← readWord depth ends (.expression (n + 1)) false false rest
      return (w.push true '(', rest)
    | .expression n, ')' :: rest => do
      let (w, rest) ← readWord depth ends (.expression (n - 1)) false false rest
      return (w.push true ')', rest)
    | mode, '\\' :: '\n' :: rest => readWord depth ends mode inValue start rest
    | mode, '\\' :: c :: rest => do
      let (w, rest) ← readWord depth ends mode inValue false rest
      if quoted && !mode.isEscapable c then return ((w.push true c).push true '\\', rest)
      else return (w.push true c, rest)
    | mode, '$' :: rest => do
      let (first, rest) ← readDollar depth ends quoted rest
      let (w, rest) ← readWord depth ends mode inValue false rest
      return (first.append w, rest)
    | mode, c :: rest =>
      if c = '\x60' then
        match backquoted (mode = .double) rest with
        | none => refuse ends [] .unterminatedOutput
        | some (inside, rest) => do
          let (body, _) ← readList depth (inside.count '\n') .any inside
          let (w, rest) ← readWord depth ends mode inValue false rest
          return (.output quoted body w, rest)
      else if c = '\x22' then
        match mode with
        | .double => .ok (.done, rest)
        | .document | .expression _ => go c true rest
        | mode => do
          let (inside, rest) ← readWord depth ends .double false false rest
          let (w, rest) ← readWord depth ends mode inValue false rest
          match inside with
          | .done => return (.text true [] w, rest)
          | inside => return (inside.append w, rest)
      else if c = '\x27' ∧ !quoted then
        let inside := rest.takeWhile (· ≠ '\x27')
        match rest.drop inside.length with
        | [] => refuse ends [] .unterminatedQuote
        | _ :: after => do
          let (w, after) ← readWord depth ends mode inValue false after
          return (.text true inside w, after)
      else if mode = .bare ∧ isMeta c then .ok (.done, cs)
      else if start && mode = .bare && isHome inValue cs then do
        let (w, rest) ← readWord depth ends mode inValue false rest
        return (.home w, rest)
      else go c quoted rest

/-- Reads what a dollar sign stands for, from behind the sign. -/
def readDollar : (depth ends : Nat) → (quoted : Bool) → List Char →
    Except SyntaxError (Word × List Char)
  | 0, _, _, cs => .ok (.done, cs)
  | depth + 1, ends, quoted, cs =>
    match cs with
    | '(' :: '(' :: rest => do
      let (e, rest) ← readWord depth ends (.expression 0) false false rest
      return (.arithmetic quoted e .done, rest)
    | '(' :: rest => do
      let (body, rest) ← readList depth ends .any rest
      return (.output quoted body .done, ← expect ends ")" rest)
    | '{' :: '#' :: rest =>
      match lengthOf? rest with
      | some (name, rest) => .ok (.adjusted quoted name .length .done .done, rest)
      | none => readAdjusted depth ends quoted "#" rest
    | '{' :: rest =>
      match parameter? rest with
      | some (name, rest) => readAdjusted depth ends quoted name rest
      | none => do
        let (_, rest) ← readWord depth ends (.brace quoted) false false rest
        return (.malformed .done, rest)
    | c :: rest =>
      if isNameStart c then
        .ok (.variable quoted (String.ofList (c :: rest.takeWhile isNameChar)) .done,
          rest.dropWhile isNameChar)
      else if isParameter c then .ok (.variable quoted (String.singleton c) .done, rest)
      else .ok (.text quoted ['$'] .done, c :: rest)
    | [] => .ok (.text quoted ['$'] .done, [])

/-- Reads what follows the name of a variable inside its braces. -/
def readAdjusted : (depth ends : Nat) → (quoted : Bool) → (name : String) → List Char →
    Except SyntaxError (Word × List Char)
  | 0, _, _, _, cs => .ok (.done, cs)
  | depth + 1, ends, quoted, name, cs =>
    match cs with
    | '}' :: rest => .ok (.variable quoted name .done, rest)
    | cs =>
      match adjustment? cs with
      | some (how, rest) => do
        let mode := Mode.brace (quoted && !how.takesPattern)
        let (argument, rest) ← readWord depth ends mode false true rest
        return (.adjusted quoted name how argument .done, rest)
      | none => do
        let (_, rest) ← readWord depth ends (.brace quoted) false false cs
        return (.malformed .done, rest)

def readRedirection : (depth ends : Nat) → List Char → Except SyntaxError (Items × List Char)
  | 0, _, cs => .ok (.none, cs)
  | depth + 1, ends, cs =>
    match redirection? cs with
    | none => .ok (.none, cs)
    | some (descriptor, none, rest) => do
      let (strip, rest) := match rest with
        | '-' :: rest => (true, rest)
        | rest => (false, rest)
      let behind := skipBlanks rest
      if token behind ≠ .word then unexpected ends behind none
      else
        let (mark, quoted, rest) := readMark behind
        let (body, earlier, rest) := takeDocument mark strip rest
        if quoted then return (.document descriptor (.text true body .done) .none, rest)
        else
          let first := lineAt ends behind + earlier
          let (w, _) ← readWord depth (first + body.count '\n') .document false false body
          return (.document descriptor w .none, rest)
    | some (descriptor, some channel, rest) => do
      let rest := skipBlanks rest
      match token rest with
      | .word | .reserved _ =>
        let (w, rest) ← readWord depth ends .bare false true rest
        match channel, w.plain? with
        | .duplicate, some s =>
          if s = "-" ∨ (s.length = 1 ∧ s.toList.all Char.isDigit) then
            return (.redirect descriptor channel w .none, rest)
          else refuse ends rest .badDescriptor
        | channel, _ => return (.redirect descriptor channel w .none, rest)
      | _ => unexpected ends rest none

/-- Reads redirections up to the first word or sign. -/
def readRedirections : (depth ends : Nat) → List Char → Except SyntaxError (Items × List Char)
  | 0, _, cs => .ok (.none, cs)
  | depth + 1, ends, cs => do
    let cs := skipBlanks cs
    if token cs = .redirection then
      let (first, rest) ← readRedirection depth ends cs
      let (others, rest) ← readRedirections depth ends rest
      return (first.append others, rest)
    else return (.none, cs)

/-- Reads words up to the first sign. -/
def readWords : (depth ends : Nat) → List Char → Except SyntaxError (Items × List Char)
  | 0, _, cs => .ok (.none, cs)
  | depth + 1, ends, cs => do
    let cs := skipBlanks cs
    match token cs with
    | .word | .reserved _ =>
      let (w, rest) ← readWord depth ends .bare false true cs
      let (others, rest) ← readWords depth ends rest
      return (.word w others, rest)
    | _ => return (.none, cs)

/-- Reads the parts of a command; assignments stand before its first word. -/
def readItems : (depth ends : Nat) → (first : Bool) → List Char → Except SyntaxError (Items × List Char)
  | 0, _, _, cs => .ok (.none, cs)
  | depth + 1, ends, first, cs => do
    let cs := skipBlanks cs
    match token cs with
    | .redirection =>
      let (item, rest) ← readRedirection depth ends cs
      let (items, rest) ← readItems depth ends first rest
      return (item.append items, rest)
    | .word | .reserved _ =>
      match if first then assignment? cs else none with
      | some (name, rest) =>
        let (w, rest) ← readWord depth ends .bare true true rest
        let (items, rest) ← readItems depth ends true rest
        return (.assign name w items, rest)
      | none =>
        let (w, rest) ← readWord depth ends .bare false true cs
        let (items, rest) ← readItems depth ends false rest
        return (.word w items, rest)
    | _ => return (.none, cs)

/-- Reads a command that starts with a word or a redirection, or the definition of a function. -/
def readSimple : (depth ends : Nat) → List Char → Except SyntaxError (Script × List Char)
  | 0, _, cs => .ok (.skip, cs)
  | depth + 1, ends, cs => do
    let (items, rest) ← readItems depth ends true cs
    match items, token rest with
    | .word w .none, .sign "(" =>
      let behind ← expect ends ")" (skipBlanks (rest.drop 1))
      match w.plain? with
      | some name =>
        if isName name ∧ !specialBuiltins.contains name then
          let (body, rest) ← readCommand depth ends (skipLines behind)
          return (.define name body, rest)
        else refuse ends behind .badFunctionName
      | none => refuse ends behind .badFunctionName
    | items, _ => return (.command (lineAt ends cs) items, rest)

def readCommand : (depth ends : Nat) → List Char → Except SyntaxError (Script × List Char)
  | 0, _, cs => .ok (.skip, cs)
  | depth + 1, ends, cs =>
    let line := lineAt ends cs
    let behind (word : String) : List Char := cs.drop word.length
    let finish (script : Script) (rest : List Char) : Except SyntaxError (Script × List Char) := do
      match ← readRedirections depth ends rest with
      | (.none, rest) => return (script, rest)
      | (items, rest) => return (.group line script items, rest)
    match token cs with
    | .sign "(" => do
      let (body, rest) ← readList depth ends .filled (behind "(")
      let (items, rest) ← readRedirections depth ends (← expect ends ")" rest)
      return (.subshell line body items, rest)
    | .reserved "\x7b" => do
      let (body, rest) ← readList depth ends .filled (behind "\x7b")
      finish body (← expect ends "\x7d" rest)
    | .reserved "if" => do
      let (script, rest) ← readConditional depth ends (behind "if")
      finish script rest
    | .reserved "while" => do
      let (test, rest) ← readList depth ends .filled (behind "while")
      let (body, rest) ← readList depth ends .filled (← expect ends "do" rest)
      finish (.loop false test body) (← expect ends "done" rest)
    | .reserved "until" => do
      let (test, rest) ← readList depth ends .filled (behind "until")
      let (body, rest) ← readList depth ends .filled (← expect ends "do" rest)
      finish (.loop true test body) (← expect ends "done" rest)
    | .reserved "for" => do
      let rest := skipBlanks (behind "for")
      let name := rest.takeWhile fun c => !isMeta c
      if token rest ≠ .word ∨ !isName (String.ofList name) then refuse ends rest .badLoopVariable
      else
        let rest := skipLines (rest.drop name.length)
        let (words, rest) ← match token rest with
          | .reserved "in" => do
            let (words, rest) ← readWords depth ends (rest.drop 2)
            match token rest with
            | .newline | .sign ";" => pure (words, rest.drop 1)
            | _ => unexpected ends rest none
          | .sign ";" => pure (.word (.variable true "@" .done) .none, rest.drop 1)
          | _ => pure (.word (.variable true "@" .done) .none, rest)
        let (body, rest) ← readList depth ends .filled (← expect ends "do" (skipLines rest))
        finish (.each line (String.ofList name) words body) (← expect ends "done" rest)
    | .reserved "case" => do
      let rest := skipBlanks (behind "case")
      match token rest with
      | .word | .reserved _ =>
        let (subject, rest) ← readWord depth ends .bare false true rest
        let (branches, rest) ← readBranches depth ends (← expect ends "in" (skipLines rest))
        finish (.choose line subject branches) rest
      | _ => unexpected ends rest (some "word")
    | .word | .redirection => readSimple depth ends cs
    | _ => unexpected ends cs none

/-- Reads a conditional behind its first word. -/
def readConditional : (depth ends : Nat) → List Char → Except SyntaxError (Script × List Char)
  | 0, _, cs => .ok (.skip, cs)
  | depth + 1, ends, cs => do
    let (test, rest) ← readList depth ends .filled cs
    let (yes, rest) ← readList depth ends .filled (← expect ends "then" rest)
    match token rest with
    | .reserved "elif" =>
      let (no, rest) ← readConditional depth ends (rest.drop 4)
      return (.conditional test yes no, rest)
    | .reserved "else" =>
      let (no, rest) ← readList depth ends .filled (rest.drop 4)
      return (.conditional test yes no, ← expect ends "fi" rest)
    | _ => return (.conditional test yes .skip, ← expect ends "fi" rest)

def readBranches : (depth ends : Nat) → List Char → Except SyntaxError (Branches × List Char)
  | 0, _, cs => .ok (.none, cs)
  | depth + 1, ends, cs => do
    let cs := skipLines cs
    if token cs = .reserved "esac" then return (.none, cs.drop 4)
    else
      let (patterns, rest) ←
        readPatterns depth ends (if token cs = .sign "(" then skipBlanks (cs.drop 1) else cs)
      let (body, rest) ← readList depth ends .any rest
      let (branches, rest) ←
        if token rest = .reserved "esac" then pure (.none, rest.drop 4)
        else do readBranches depth ends (← expect ends ";;" rest)
      return (patterns.foldr (fun p branches => .branch p body branches) branches, rest)

/-- Reads patterns up to a closing parenthesis. -/
def readPatterns : (depth ends : Nat) → List Char → Except SyntaxError (List Word × List Char)
  | 0, _, cs => .ok ([], cs)
  | depth + 1, ends, cs => do
    let (pattern, rest) ← match token cs with
      | .word | .reserved _ => readWord depth ends .bare false true cs
      | .endOfFile => pure (.done, cs)
      | _ => pure (.done, cs.drop 1)
    let rest := skipBlanks rest
    if token rest = .sign "|" then
      let (patterns, rest) ← readPatterns depth ends (skipBlanks (rest.drop 1))
      return (pattern :: patterns, rest)
    else return ([pattern], ← expect ends ")" rest)

def readPipes : (depth ends : Nat) → List Char → Except SyntaxError (Script × List Char)
  | 0, _, cs => .ok (.skip, cs)
  | depth + 1, ends, cs => do
    let (first, rest) ← readCommand depth ends cs
    let rest := skipBlanks rest
    if token rest = .sign "|" then
      let (second, rest) ← readPipes depth ends (skipLines (rest.drop 1))
      return (.pipe first second, rest)
    else return (first, rest)

/-- Reads commands joined by pipes, and whether their status is turned round. -/
def readPipeline : (depth ends : Nat) → List Char → Except SyntaxError (Script × List Char)
  | 0, _, cs => .ok (.skip, cs)
  | depth + 1, ends, cs => do
    if token cs = .reserved "!" then
      let (body, rest) ← readPipes depth ends (skipBlanks (cs.drop 1))
      return (.negate body, rest)
    else readPipes depth ends cs

/-- Reads the pipelines that follow `first` on conditions. -/
def readChain : (depth ends : Nat) → (first : Script) → List Char →
    Except SyntaxError (Script × List Char)
  | 0, _, first, cs => .ok (first, cs)
  | depth + 1, ends, first, cs =>
    match token cs with
    | .sign "&&" => do
      let (second, rest) ← readPipeline depth ends (skipLines (cs.drop 2))
      readChain depth ends (.both first second) rest
    | .sign "||" => do
      let (second, rest) ← readPipeline depth ends (skipLines (cs.drop 2))
      readChain depth ends (.either first second) rest
    | _ => .ok (first, cs)

/-- Reads a list of commands up to a token that closes it. -/
def readList : (depth ends : Nat) → Extent → List Char → Except SyntaxError (Script × List Char)
  | 0, _, _, cs => .ok (.skip, cs)
  | depth + 1, ends, extent, cs => do
    let cs := if extent = .line then skipBlanks cs else skipLines cs
    match token cs with
    | .endOfFile => return (.skip, [])
    | .newline => return (.skip, cs.drop 1)
    | t =>
      if t.isCloser ∧ extent = .any then return (.skip, cs)
      else
        let (first, rest) ← readPipeline depth ends cs
        let (first, rest) ← readChain depth ends first rest
        let more (first : Script) (rest : List Char) : Except SyntaxError (Script × List Char) := do
          match ← readList depth ends (if extent = .line then .line else .any) rest with
          | (.skip, rest) => return (first, rest)
          | (second, rest) => return (.sequence first second, rest)
        match token rest with
        | .sign "&" => more (.background first) (rest.drop 1)
        | .sign ";" => more first (rest.drop 1)
        | .newline => if extent = .line then return (first, rest.drop 1) else more first (rest.drop 1)
        | .endOfFile => return (first, [])
        | _ => if extent = .line then unexpected ends rest none else return (first, rest)

end

/-- The scripts that a text consists of, one after the other, up to the end or an error. Each takes at
least one line, so the number of lines bounds theirs. -/
def parseLines (ends : Nat) : (lines : Nat) → List Char → List Script × Option SyntaxError
  | _, [] => ([], none)
  | 0, _ => ([], none)
  | lines + 1, cs =>
    match readList (16 * cs.length + 16) ends .line cs with
    | .error e => ([], some e)
    | .ok (script, rest) =>
      let (scripts, e) := parseLines ends lines rest
      (script :: scripts, e)

def parse (text : List Char) : List Script × Option SyntaxError :=
  let ends := text.count '\n'
  parseLines ends (ends + 1) text

end PatchSearch.Shell
