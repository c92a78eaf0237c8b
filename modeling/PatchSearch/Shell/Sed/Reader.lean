import PatchSearch.Shell.Number
import PatchSearch.Shell.Sed.Basic
import PatchSearch.Shell.Format

namespace PatchSearch.Shell.Sed

abbrev Reading (α : Type) := Except (Fault × Option (List Char)) α

def fail {α : Type} (f : Fault) (cs : List Char) : Reading α :=
  .error (f, some cs)

def isBlank (c : Char) : Bool :=
  c == ' ' || (9 ≤ c.toNat && c.toNat ≤ 13)

def skipBlanks (cs : List Char) : List Char :=
  cs.dropWhile isBlank

inductive Zone where
  | plain
  | opened
  | bracket
deriving DecidableEq

/-- Reads up to a delimiter that is not escaped and does not stand between brackets. -/
def delimitedFrom? (d : Char) (pattern : Bool) : Zone → List Char → Option (List Char × List Char)
  | _, [] => none
  | .plain, '\\' :: c :: cs =>
    (delimitedFrom? d pattern .plain cs).map fun (inside, rest) =>
      if c = d then (if !pattern && c == '&' then '\\' :: c :: inside else c :: inside, rest)
      else if c = 'n' ∧ pattern then ('\n' :: inside, rest)
      else ('\\' :: c :: inside, rest)
  | .plain, c :: cs =>
    if c = d then some ([], cs)
    else if c = '\n' ∧ pattern then none
    else
      (delimitedFrom? d pattern (if c = '[' ∧ pattern then .opened else .plain) cs).map
        fun (inside, rest) => (c :: inside, rest)
  | spot, '\\' :: 'n' :: cs =>
    (delimitedFrom? d pattern .bracket cs).map fun (inside, rest) =>
      (if spot = .plain then '\\' :: 'n' :: inside else '\n' :: inside, rest)
  | spot, c :: cs =>
    let next : Zone :=
      if spot = .opened then (if c = '^' then .opened else .bracket)
      else if c = ']' then .plain else .bracket
    (delimitedFrom? d pattern next cs).map fun (inside, rest) => (c :: inside, rest)

def delimited? (d : Char) (pattern : Bool) (cs : List Char) : Option (List Char × List Char) :=
  delimitedFrom? d pattern .plain cs

/-- The character that a number of some digits stands for. -/
def coded? (base digits : Nat) (cs : List Char) : Option (Char × List Char) :=
  let (n, rest) := digitsWithin base digits 0 cs
  if rest.length < cs.length then some (byteChar n, rest) else none

/-- Escapes for characters, as far as patterns do not know them, at most `left` signs. -/
def unescapeWithin : (left : Nat) → List Char → List Char
  | 0, cs => cs
  | _, [] => []
  | left + 1, '\\' :: c :: cs =>
    let plain : Option (Char × List Char) :=
      if c = 'a' then some ('\x07', cs)
      else if c = 'f' then some ('\x0c', cs)
      else if c = 't' then some ('\t', cs)
      else if c = 'v' then some ('\x0b', cs)
      else if c = 'r' then some ('\r', cs)
      else if c = 'x' then coded? 16 2 cs
      else if c = 'o' then coded? 8 3 cs
      else if c = 'd' then coded? 10 3 cs
      else none
    match plain with
    | some (x, rest) => x :: unescapeWithin left rest
    | none => '\\' :: c :: unescapeWithin left cs
  | left + 1, c :: cs => c :: unescapeWithin left cs

def unescaped (cs : List Char) : List Char :=
  unescapeWithin cs.length cs

/-- Reads a pattern; an empty one is the one that was used last. -/
def pattern (style : RegexStyle) (cs rest : List Char) :
    Reading (Option Regex) :=
  if cs = [] then .ok none
  else
    match Regex.read style (unescaped cs) with
    | .ok r => .ok (some r)
    | .error e => fail (.badRegex e) rest

def address (extended : Bool) (cs : List Char) : Reading ((Option Address) × List Char) :=
  let regex (d : Char) (rest : List Char) : Reading ((Option Address) × List Char) :=
    match delimited? d true rest with
    | none => fail .unterminatedAddress []
    | some (inside, rest) => do
      let flags := rest.takeWhile fun c => c == 'I' || c == 'M'
      let rest := rest.drop flags.length
      let r ← pattern ⟨extended, flags.contains 'I', false⟩ inside rest
      return (some (.regex r), rest)
  match cs with
  | '/' :: rest => regex '/' rest
  | '\\' :: d :: rest => regex d rest
  | '$' :: rest => .ok (some .last, rest)
  | c :: _ =>
    if c.isDigit then
      let (n, rest) := digitsOf 10 cs
      match skipBlanks rest with
      | '~' :: rest =>
        let (m, rest) := digitsOf 10 (skipBlanks rest)
        .ok (some (.step n m), rest)
      | _ => .ok (some (.line n), rest)
    else .ok (none, cs)
  | [] => .ok (none, [])

def guard (extended : Bool) (cs : List Char) : Reading (Guard × List Char) := do
  let (first, rest) ← address extended cs
  let behind := skipBlanks rest
  let (stop, rest) ← match first, behind with
    | some _, ',' :: rest =>
      let rest := skipBlanks rest
      match rest with
      | '+' :: ds =>
        let (n, rest) := digitsOf 10 ds
        pure (some (Stop.count n), rest)
      | '~' :: ds =>
        let (n, rest) := digitsOf 10 ds
        pure (some (Stop.multiple n), rest)
      | rest => do
        match ← address extended rest with
        | (some a, rest) => pure (some (Stop.address a), rest)
        | (none, rest) => fail .unexpectedComma (rest.drop 1)
    | some _, _ => pure (none, behind)
    | none, _ => pure (none, behind)
  match first, stop with
  | some (.line 0), some (.address (.regex _)) => pure ()
  | some (.line 0), _ => fail .zeroAddress (rest.drop 1)
  | _, _ => pure ()
  let rest := skipBlanks rest
  match rest with
  | '!' :: rest =>
    let rest := skipBlanks rest
    if rest.head? = some '!' then fail .twoMarks (rest.drop 1)
    else return (⟨first, stop, true⟩, rest)
  | rest => return (⟨first, stop, false⟩, rest)

/-- The pieces of a replacement, at most `left` signs. -/
def pieces : (left : Nat) → List Char → List Piece
  | 0, _ => []
  | _, [] => []
  | left + 1, '\\' :: c :: cs =>
    if c.isDigit then .group (c.toNat - 48) :: pieces left cs
    else if "ULulE".toList.contains c then .change c :: pieces left cs
    else if c = 'n' then .text ['\n'] :: pieces left cs
    else
      match unescaped ('\\' :: c :: cs.take 3), unescaped ['\\', c] with
      | _, ['\\', _] =>
        let coded : Option (Char × List Char) :=
          if c = 'x' then coded? 16 2 cs else if c = 'o' then coded? 8 3 cs
          else if c = 'd' then coded? 10 3 cs else none
        match coded with
        | some (x, rest) => .text [x] :: pieces left rest
        | none => .text [c] :: pieces left cs
      | _, x => .text x :: pieces left cs
  | left + 1, '&' :: cs => .group 0 :: pieces left cs
  | left + 1, c :: cs =>
    match pieces left cs with
    | .text more :: rest => .text (c :: more) :: rest
    | rest => .text [c] :: rest

/-- A path that reaches to the end of the line. -/
def path (cs : List Char) : Reading (String × List Char) :=
  let name := (cs.dropWhile fun c => c == ' ' || c == '\t').takeWhile (· ≠ '\n')
  let rest := cs.dropWhile (· ≠ '\n')
  if name = [] then fail .pathMissing cs else .ok (String.ofList name, rest)

/-- The options of a substitution, at most `left` of them. -/
def options (style : RegexStyle) : (left : Nat) → Substitution → (numbered : Bool) → List Char →
    Reading ((Substitution × RegexStyle) × List Char)
  | 0, s, _, cs => .ok ((s, style), cs)
  | _, s, _, [] => .ok ((s, style), [])
  | left + 1, s, numbered, c :: cs =>
    if c = 'g' then
      if s.all then fail (.twoOptions 'g') cs else options style left { s with all := true } numbered cs
    else if c = 'p' then
      if s.print then fail (.twoOptions 'p') cs else options style left { s with print := true } numbered cs
    else if c = 'i' ∨ c = 'I' then options { style with folded := true } left s numbered cs
    else if c = 'm' ∨ c = 'M' ∨ c = 'e' then options style left s numbered cs
    else if c = 'w' then do
      let (name, rest) ← path cs
      return (({ s with path := some name }, style), rest)
    else if c.isDigit then
      let (n, rest) := digitsOf 10 (c :: cs)
      if numbered then fail .twoNumbers rest
      else if n = 0 then fail .zeroOption rest
      else options style left { s with nth := n } true rest
    else if c = '}' ∨ c = '#' ∨ c = ';' ∨ c = '\n' ∨ isBlank c then .ok ((s, style), c :: cs)
    else fail .unknownOption cs

def groupCount : Regex → Nat
  | .group _ body => groupCount body + 1
  | .sequence a b | .either a b => groupCount a + groupCount b
  | .repeated body _ _ => groupCount body
  | _ => 0

def substitution (extended : Bool) (cs : List Char) : Reading (Substitution × List Char) := do
  match cs with
  | [] => fail (.unterminated 's') []
  | d :: rest =>
    match delimited? d true rest with
    | none => fail (.unterminated 's') []
    | some (inside, rest) =>
      match delimited? d false rest with
      | none => fail (.unterminated 's') []
      | some (replacement, rest) =>
        let ps := pieces replacement.length replacement
        let ((s, style), rest) ←
          options ⟨extended, false, false⟩ (rest.length + 1) ⟨none, ps, 1, false, false, none⟩ false rest
        let regex ← pattern style inside rest
        let highest := ps.foldl (fun n p => match p with
          | .group i => max n i
          | _ => n) 0
        match regex with
        | some r => if groupCount r < highest then fail (.badReference highest) rest else pure ()
        | none => pure ()
        return ({ s with regex := regex }, rest)

/-- The characters of one side of an exchange of letters. -/
def letters (d : Char) : List Char → List Char
  | '\\' :: c :: cs =>
    (if c = 'n' then ['\n'] else if c = 't' then ['\t'] else if c = '\\' ∨ c = d then [c] else ['\\', c]) ++
      letters d cs
  | c :: cs => c :: letters d cs
  | [] => []

def exchangeTable (cs : List Char) : Reading ((List (Char × Char)) × List Char) :=
  match cs with
  | [] => fail (.unterminated 'y') []
  | d :: rest =>
    match delimited? d false rest with
    | none => fail (.unterminated 'y') []
    | some (source, rest) =>
      match delimited? d false rest with
      | none => fail (.unterminated 'y') []
      | some (target, rest) =>
        let (a, b) := (letters d source, letters d target)
        if a.length ≠ b.length then fail .differentLengths rest else .ok (a.zip b, rest)

/-- A text up to the end of a line that is not escaped, without the backslashes. -/
def textLines : List Char → List Char × List Char
  | [] => ([], [])
  | ['\\'] => ([], [])
  | '\\' :: c :: cs =>
    let (text, rest) := textLines cs
    (c :: text, rest)
  | c :: cs =>
    if c = '\n' then ([], cs)
    else
      let (text, rest) := textLines cs
      (c :: text, rest)

/-- Reads the text of a command, which stands behind it or on the next line. -/
def text (cs : List Char) : Reading (List Char × List Char) :=
  let isSpace (c : Char) : Bool := c == ' ' || c == '\t'
  let behind := cs.dropWhile isSpace
  match behind with
  | [] => fail .expectedBackslash []
  | '\\' :: rest =>
    let after := rest.dropWhile isSpace
    match after with
    | '\n' :: body =>
      let (text, rest) := textLines body
      .ok (text ++ ['\n'], rest)
    | [] => .ok ([], [])
    | _ =>
      let (text, rest) := textLines rest
      .ok (text ++ ['\n'], rest)
  | '\n' :: _ => fail .expectedBackslash behind
  | body =>
    let (text, rest) := textLines body
    .ok (text ++ ['\n'], rest)

def close (cs : List Char) : Reading (List Char) :=
  match cs.dropWhile fun c => c == ' ' || c == '\t' with
  | [] => .ok []
  | c :: rest =>
    if c = '\n' ∨ c = ';' then .ok rest
    else if c = '}' ∨ c = '#' then .ok (c :: rest)
    else fail .extraCharacters rest

def name (cs : List Char) : String × List Char :=
  let cs := cs.dropWhile fun c => c == ' ' || c == '\t'
  let label := cs.takeWhile fun c => !isBlank c && c != ';'
  (String.ofList label, cs.drop label.length)

def plain? (c : Char) : Option Verb :=
  if c = 'd' then some .delete
  else if c = 'D' then some .deleteFirst
  else if c = 'p' then some .print
  else if c = 'P' then some .printFirst
  else if c = 'n' then some .next
  else if c = 'N' then some .nextAppended
  else if c = 'h' then some .keep
  else if c = 'H' then some .keepAppended
  else if c = 'g' then some .recall
  else if c = 'G' then some .recallAppended
  else if c = 'x' then some .exchange
  else if c = '=' then some .number
  else if c = 'F' then some .fileName
  else if c = 'z' then some .empty
  else none

def verb (extended : Bool) (g : Guard) (cs : List Char) : Reading (Verb × List Char) := do
  match cs with
  | [] => fail .missingCommand []
  | c :: rest =>
    match plain? c with
    | some v => return (v, ← close rest)
    | none =>
      if c = 's' then
        let (s, rest) ← substitution extended rest
        return (.substitute s, ← close rest)
      else if c = 'y' then
        let (table, rest) ← exchangeTable rest
        return (.translate table, ← close rest)
      else if c = 'a' ∨ c = 'i' ∨ c = 'c' then
        let (cs, rest) ← text rest
        return (if c = 'a' then .append cs else if c = 'i' then .insert cs else .change cs, rest)
      else if c = 'b' ∨ c = 't' ∨ c = 'T' then
        let (label, rest) := name rest
        return (if c = 'b' then .jump label else .jumpIf (c = 't') label, ← close rest)
      else if c = ':' then
        if g.first.isSome then fail .labelAddress rest
        else
          let (label, behind) := name rest
          if label = "" then fail .labelMissing behind else return (.label label, behind)
      else if c = 'v' then
        let (_, rest) := name rest
        return (.label "", ← close rest)
      else if c = 'r' ∨ c = 'R' ∨ c = 'w' ∨ c = 'W' then
        let (p, rest) ← path rest
        return (if c = 'r' then .read p else if c = 'R' then .readLine p
          else if c = 'w' then .write p else .writeFirst p, rest)
      else if c = 'q' ∨ c = 'Q' then
        if g.stop.isSome then fail .oneAddress rest
        else
          let (n, rest) := digitsOf 10 (rest.dropWhile fun c => c == ' ' || c == '\t')
          return (.quit (c = 'q') (n % 256), ← close rest)
      else if c = 'l' then
        let ds := rest.dropWhile fun c => c == ' ' || c == '\t'
        let (n, behind) := digitsOf 10 ds
        return (.list (if behind.length < ds.length then some n else none), ← close behind)
      else fail (if c = '\n' ∨ c = ';' then .missingCommand else .unknownCommand c) rest

/-- Reads the commands of a part of a script, at most `left` of them; `depth` counts the groups that are
open, before and behind. -/
def commands (extended : Bool) : (left depth : Nat) → List Char →
    Reading (List Command × Nat)
  | 0, depth, _ => .ok ([], depth)
  | left + 1, depth, cs => do
    let before (c : Command) (more : List Command × Nat) : List Command × Nat := (c :: more.1, more.2)
    let cs := cs.dropWhile fun c => isBlank c || c == ';'
    match cs with
    | [] => return ([], depth)
    | '#' :: rest => commands extended left depth (rest.dropWhile (· ≠ '\n'))
    | cs =>
      let (g, rest) ← guard extended cs
      match rest with
      | '{' :: rest => return before ⟨g, .openGroup⟩ (← commands extended left (depth + 1) rest)
      | '}' :: rest =>
        if depth = 0 ∨ g.first.isSome then fail .unexpectedBrace rest
        else return before ⟨g, .closeGroup⟩ (← commands extended left (depth - 1) (← close rest))
      | '#' :: rest => fail .commentAddress rest
      | rest =>
        let (v, rest) ← verb extended g rest
        return before ⟨g, v⟩ (← commands extended left depth rest)

/-- A part of a script: where it was given, and its text. -/
structure Part where
  /-- The path of a file, or the number of an expression. -/
  origin : Except String Nat
  text : List Char

/-- What an error is, as it is told, and the status for it. -/
def Part.complaint (p : Part) (f : Fault) (rest : Option (List Char)) : String × Nat :=
  let used := (rest.map fun r => p.text.length - r.length).getD 0
  let origin := match p.origin with
    | .ok n => "-e expression #" ++ toString n ++ ", char " ++ toString used
    | .error path => "file " ++ path ++ " line " ++
        toString (((p.text.take used).dropLast.count '\n') + if rest.isSome then 1 else 0)
  match f with
  | .badRegex .bareClass => (f.message, 4)
  | f => (origin ++ ": " ++ f.message, 1)

/-- Parts of which one ends in a backslash belong together. -/
def joined : List Part → List Part
  | p :: ps =>
    match joined ps with
    | next :: rest =>
      if p.text.getLast? = some '\\' then { p with text := p.text ++ '\n' :: next.text } :: rest
      else p :: next :: rest
    | [] => [p]
  | [] => []

/-- The commands of a script, or what is wrong with it; `opening` is the part where the outermost group
was opened that is still open. -/
def parse (extended : Bool) : (depth : Nat) → (opening : Option Part) → List Part →
    Except (String × Nat) (List Command)
  | depth, opening, [] =>
    match opening with
    | some p => if 0 < depth then .error (p.complaint .unmatchedBrace none) else .ok []
    | none => .ok []
  | depth, opening, p :: ps =>
    match commands extended (p.text.length + 1) depth p.text with
    | .error (f, rest) => .error (p.complaint f rest)
    | .ok (cs, behind) =>
      let opening := if behind = 0 then none else if depth = 0 then some p else opening
      (parse extended behind opening ps).map fun more => cs ++ more

end PatchSearch.Shell.Sed
