import PatchSearch.Shell.Regex

namespace PatchSearch.Shell

/-- Why a text is no regular expression. -/
inductive RegexError where
  | unmatchedOpen
  | unmatchedClose
  | unmatchedBracket
  | unmatchedBrace
  | badBrace
  | badClass
  | bareClass
  | badRange
  | badReference
  | nothingToRepeat
  | trailingBackslash
  | tooBig
deriving Repr, DecidableEq

def RegexError.message : RegexError → String
  | .unmatchedOpen => "Unmatched ( or \\("
  | .unmatchedClose => "Unmatched ) or \\)"
  | .unmatchedBracket => "Unmatched [, [^, [:, [., or [="
  | .unmatchedBrace => "Unmatched \\\x7b"
  | .badBrace => "Invalid content of \\\x7b\\\x7d"
  | .badClass => "Invalid character class name"
  | .bareClass => "character class syntax is [[:space:]], not [:space:]"
  | .badRange => "Invalid range end"
  | .badReference => "Invalid back reference"
  | .nothingToRepeat => "Invalid preceding regular expression"
  | .trailingBackslash => "Trailing backslash"
  | .tooBig => "Regular expression too big"

structure RegexStyle where
  extended : Bool
  /-- Whether capital and small letters are the same. -/
  folded : Bool
  /-- Whether signs that cannot have their meaning where they stand are no errors. -/
  loose : Bool
deriving Repr, DecidableEq

namespace RegexStyle

def fold (style : RegexStyle) (c : Char) : Char :=
  if style.folded then c.toLower else c

/-- A class of characters, seen without regard to capitals if the style says so. -/
def one (style : RegexStyle) (test : Char → Bool) : Regex :=
  .one fun c => test c || (style.folded && (test c.toLower || test c.toUpper))

/-- The sign that a text begins with, if it has its meaning there, and what follows. -/
def sign? (style : RegexStyle) : List Char → Option (Char × List Char)
  | '\\' :: c :: cs => if !style.extended ∧ "(){}|+?".toList.contains c then some (c, cs) else none
  | c :: cs =>
    if c = '*' ∨ (style.extended ∧ "(){}|+?".toList.contains c) then some (c, cs) else none
  | [] => none

end RegexStyle

def regexEscape? (c : Char) : Option Regex :=
  let isSpace (c : Char) : Bool := c == ' ' || (9 ≤ c.toNat && c.toNat ≤ 13)
  if c = 'w' then some (.one Spot.isWordChar)
  else if c = 'W' then some (.one (!Spot.isWordChar ·))
  else if c = 's' then some (.one isSpace)
  else if c = 'S' then some (.one (!isSpace ·))
  else if c = 'b' then some (.edge fun before behind => before != behind)
  else if c = 'B' then some (.edge fun before behind => before == behind)
  else if c = '<' then some (.edge fun before behind => !before && behind)
  else if c = '>' then some (.edge fun before behind => before && !behind)
  else if c = '\x60' then some .start
  else if c = '\x27' then some .finish
  else if c = 'n' then some (.one (· == '\n'))
  else if c = 't' then some (.one (· == '\t'))
  else none

/-- The bounds between braces, the upper one if there is one, and what follows the closing one. -/
def bounds? (style : RegexStyle) (cs : List Char) : Option ((Nat × Option Nat) × List Char) :=
  let number (ds : List Char) : Option Nat := (String.ofList ds).toNat?
  let low := cs.takeWhile Char.isDigit
  let (range, rest) : Option (Nat × Option Nat) × List Char := match cs.drop low.length with
    | ',' :: rest =>
      let high := rest.takeWhile Char.isDigit
      let least := if low = [] then some 0 else number low
      (least.map fun least => (least, number high), rest.drop high.length)
    | rest => ((number low).map fun n => (n, some n), rest)
  match range, style.sign? rest with
  | some range, some ('}', rest) => some (range, rest)
  | _, _ => none

/-- How often a part may have to stand at most. -/
def maxBound : Nat := 32767

/-- What is wrong with braces that hold no bounds. -/
def braceFault (style : RegexStyle) : List Char → RegexError
  | [] => .unmatchedBrace
  | c :: cs =>
    match style.sign? (c :: cs) with
    | some ('}', _) => .badBrace
    | _ => braceFault style cs

/-- What is wrong with the members of a set, at most `left` signs. -/
def memberFault? : (left : Nat) → List Char → Option RegexError
  | 0, _ => none
  | _, [] => none
  | left + 1, '[' :: ':' :: cs =>
    match className? cs with
    | some (name, n) =>
      if (charClass? name).isNone then some .badClass else memberFault? left (cs.drop n)
    | none => memberFault? left (':' :: cs)
  | left + 1, a :: '-' :: b :: cs => if b.toNat < a.toNat then some .badRange else memberFault? left cs
  | left + 1, _ :: cs => memberFault? left cs

def setFault? (members : List Char) : Option RegexError :=
  if members.head? = some ':' ∧ members.getLast? = some ':' ∧ 1 < members.length then some .bareClass
  else memberFault? members.length members

/-- Applies the signs of repetition that follow a part, at most `left` of them. -/
def readRepeats (style : RegexStyle) : (left : Nat) → Regex → List Char →
    Except RegexError (Regex × List Char)
  | 0, r, cs => .ok (r, cs)
  | left + 1, r, cs =>
    match style.sign? cs with
    | some ('*', rest) => readRepeats style left (.repeated r 0 none) rest
    | some ('+', rest) => readRepeats style left (.repeated r 1 none) rest
    | some ('?', rest) => readRepeats style left (.repeated r 0 (some 1)) rest
    | some ('{', rest) =>
      match bounds? style rest with
      | some ((least, most), rest) =>
        if maxBound < least ∨ maxBound < most.getD 0 then .error .tooBig
        else if most.getD least < least then .error .badBrace
        else readRepeats style left (.repeated r least (most.map (· - least))) rest
      | none =>
        if style.loose ∧ style.extended ∧ rest.head? ≠ some '}' then .ok (r, cs)
        else .error (braceFault style rest)
    | _ => .ok (r, cs)

mutual

/-- Reads alternatives; `opened` counts the groups that are open, and `groups` all so far. -/
def readAlternatives (style : RegexStyle) : (depth opened groups : Nat) → List Char →
    Except RegexError (Regex × Nat × List Char)
  | 0, _, groups, cs => .ok (.nothing, groups, cs)
  | depth + 1, opened, groups, cs => do
    let (first, groups, rest) ← readParts style depth opened groups true cs
    match style.sign? rest with
    | some ('|', rest) =>
      let (second, groups, rest) ← readAlternatives style depth opened groups rest
      return (.either first second, groups, rest)
    | _ => return (first, groups, rest)

/-- Reads parts one after the other; `first` tells that none stands before. -/
def readParts (style : RegexStyle) : (depth opened groups : Nat) → (first : Bool) → List Char →
    Except RegexError (Regex × Nat × List Char)
  | 0, _, groups, _, cs => .ok (.nothing, groups, cs)
  | depth + 1, opened, groups, first, cs =>
    let go (part : Regex) (groups : Nat) (rest : List Char) :
        Except RegexError (Regex × Nat × List Char) := do
      let (part, rest) ← readRepeats style rest.length part rest
      let (others, groups, rest) ← readParts style depth opened groups false rest
      return (.sequence part others, groups, rest)
    let atEnd (rest : List Char) : Bool := rest = [] ||
      (match style.sign? rest with
        | some (c, _) => c == '|' || c == ')'
        | none => false)
    match cs with
    | [] => .ok (.nothing, groups, [])
    | ['\\'] => .error .trailingBackslash
    | c :: cs =>
      match style.sign? (c :: cs) with
      | some ('|', _) => .ok (.nothing, groups, c :: cs)
      | some (')', _) => 
        if 0 < opened then .ok (.nothing, groups, c :: cs)
        else if style.loose ∧ style.extended then go (style.one (· == ')')) groups cs
        else .error .unmatchedClose
      | some ('(', rest) => do
        let (body, inner, rest) ← readAlternatives style depth (opened + 1) (groups + 1) rest
        match style.sign? rest with
        | some (')', rest) => go (.group (groups + 1) body) inner rest
        | _ => .error .unmatchedOpen
      | some ('{', rest) =>
        if !style.extended || !style.loose then .error .nothingToRepeat
        else
          match bounds? style rest with
          | some (_, rest) => readParts style depth opened groups first rest
          | none => go (style.one (· == '{')) groups rest
      | some ('}', rest) => go (style.one (· == '}')) groups rest
      | some ('*', rest) =>
        if first && !style.extended then go (.one (· == '*')) groups rest
        else if style.extended && !style.loose then .error .nothingToRepeat
        else readParts style depth opened groups first rest
      | some (sign, rest) =>
        if style.extended && !style.loose then .error .nothingToRepeat
        else if style.extended then readParts style depth opened groups first rest
        else go (.one (· == sign)) groups rest
      | none =>
        if c = '^' ∧ (style.extended ∨ first) then
          (readParts style depth opened groups true cs).map fun (r, n, rest) =>
            (.sequence .start r, n, rest)
        else if c = '$' ∧ (style.extended ∨ atEnd cs) then go .finish groups cs
        else if c = '.' then go (.one fun _ => true) groups cs
        else if c = '[' then
          let negated := cs.head? = some '^'
          let members := if negated then cs.tail else cs
          match members? (members.map fun c => (c, c != '\\')) with
          | some (test, n) =>
            let test (x : Char) : Bool := test x || (style.folded && (test x.toLower || test x.toUpper))
            match setFault? (members.take (n - 1)) with
            | some e => .error e
            | none => go (.one fun x => test x != negated) groups (members.drop n)
          | none => .error .unmatchedBracket
        else if c = '\\' then
          match cs with
          | [] => .error .trailingBackslash
          | d :: rest =>
            if '1' ≤ d ∧ d ≤ '9' then
              let index := d.toNat - 48
              if index ≤ groups then go (.again index) groups rest else .error .badReference
            else
              match regexEscape? d with
              | some r => go r groups rest
              | none => go (.one fun x => style.fold x == style.fold d) groups rest
        else go (.one fun x => style.fold x == style.fold c) groups cs

end

def Regex.read (style : RegexStyle) (cs : List Char) : Except RegexError Regex := do
  let (r, _, _) ← readAlternatives style (2 * cs.length + 2) 0 0 cs
  return r

end PatchSearch.Shell
