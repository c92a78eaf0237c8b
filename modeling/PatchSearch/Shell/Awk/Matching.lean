import PatchSearch.Shell.Awk.Token

namespace PatchSearch.Shell.Awk

/-- The members of a set, behind its first bracket. -/
structure Members where
  /-- Members in their order, the last one first. -/
  kept : List Char
  /-- Members that have no place of their own: they would have another meaning in most places. -/
  bracket : Bool
  caret : Bool
  hyphen : Bool

namespace Members

def text (m : Members) : List Char :=
  (if m.bracket then [']'] else []) ++ m.kept.reverse ++ (if m.caret then ['^'] else []) ++
    (if m.hyphen then ['-'] else [])

def add (m : Members) (c : Char) : Members :=
  if c = ']' then { m with bracket := true }
  else if c = '^' then { m with caret := true }
  else if c = '-' then { m with hyphen := true }
  else { m with kept := c :: m.kept }

/-- Reads members up to the closing bracket, at most `left` signs. -/
def read (m : Members) : (left : Nat) → (first : Bool) → List Char → Option (Members × List Char)
  | 0, _, _ | _, _, [] => none
  | left + 1, _, '\\' :: c :: cs =>
    match escape? (c :: cs) with
    | some (x, rest) => (m.add x).read left false rest
    | none => (m.add c).read left false cs
  | left + 1, first, '[' :: ':' :: cs =>
    match className? cs with
    | some (_, n) =>
      { m with kept := (cs.take n).reverse ++ ':' :: '[' :: m.kept }.read left false (cs.drop n)
    | none => { m with kept := '[' :: m.kept }.read left first (':' :: cs)
  | left + 1, first, c :: cs =>
    let turned : Option Char := match cs with
      | '-' :: d :: _ => if d ≠ ']' ∧ d ≠ '\\' ∧ d < c then some d else none
      | _ => none
    match turned with
    | some d => { m with kept := c :: '-' :: d :: m.kept }.read left false (cs.drop 2)
    | none =>
      if c = ']' then if first then { m with bracket := true }.read left false cs else some (m, cs)
      else { m with kept := c :: m.kept }.read left false cs

end Members

def itself (c : Char) : List Char :=
  if ".[]()*+?{}|^$\\".toList.contains c then ['\\', c] else [c]

/-- The usual form of a pattern: escapes for characters are resolved, of at most `left` signs. `last` is
the character in front if an operand has to follow it; a blank stands for the beginning. -/
def usualForm : (left : Nat) → (last : Option Char) → List Char → Except RegexError (List Char)
  | 0, _, _ => .ok []
  | _, last, [] =>
    if last = some '(' then .error .unmatchedOpen
    else if last = some '|' then .error .nothingToRepeat
    else .ok []
  | left + 1, _, '\\' :: cs =>
    match escape? cs, cs with
    | some (c, rest), _ => (usualForm left none rest).map (itself c ++ ·)
    | none, c :: rest => (usualForm left none rest).map (itself c ++ ·)
    | none, [] => .ok ['\\', '\\']
  | left + 1, last, c :: cs =>
    if c = '[' then
      let negated := cs.head? = some '^'
      let members := if negated then cs.tail else cs
      match (Members.mk [] false false false).read (members.length + 1) true members with
      | none => .error .unmatchedBracket
      | some (m, rest) =>
        let set := '[' :: (if negated then ['^'] else []) ++ m.text ++ [']']
        let shown := if set = "[^]".toList ∧ !negated then ['\\', '^'] else set
        (usualForm left none rest).map (shown ++ ·)
    else if last.isSome ∧ "*+?|)".toList.contains c then .error .nothingToRepeat
    else (usualForm left (if c = '(' ∨ c = '|' then some c else none) cs).map (c :: ·)

def readRegex (cs : List Char) : Except RegexError Regex := do
  Regex.read ⟨true, false, true⟩ (← usualForm (cs.length + 1) (some ' ') cs)

/-- Characters between which a record falls apart if nothing else is asked for. -/
def isBlank (c : Char) : Bool :=
  c == ' ' || c == '\t' || c == '\n'

inductive Division where
  | blanks
  | letters
  | at (c : Char)
  | regex (r : Regex)

namespace Division

def ofText (cs : List Char) : Except RegexError Division :=
  match cs with
  | [' '] => .ok .blanks
  | [] => .ok .letters
  | [c] => .ok (.at c)
  | cs => (readRegex cs).map .regex

/-- The runs of characters without blanks. -/
def wordsOf (cs : List Char) : List (List Char) :=
  let (done, word) := cs.foldl (fun (done, word) c =>
    if isBlank c then (if word = [] then done else word.reverse :: done, []) else (done, c :: word))
    (([] : List (List Char)), ([] : List Char))
  (if word = [] then done else word.reverse :: done).reverse

def piecesAt (sign : Char) (cs : List Char) : List (List Char) :=
  let (done, piece) := cs.foldl (fun (done, piece) c =>
    if c = sign then (piece.reverse :: done, []) else (done, c :: piece))
    (([] : List (List Char)), ([] : List Char))
  (piece.reverse :: done).reverse

/-- The pieces between matches that are not empty. -/
def piecesBetween (r : Regex) (cs : List Char) : List (List Char) :=
  let found := (r.all cs).filter fun (first, last) => first.index < last.index
  let (pieces, _, rest) := found.foldl (fun (pieces, place, rest) (first, last) =>
    (rest.take (first.index - place) :: pieces, last.index, rest.drop (last.index - place)))
    (([] : List (List Char)), 0, cs)
  (rest :: pieces).reverse

def pieces (d : Division) (cs : List Char) : List (List Char) :=
  if cs = [] then []
  else
    match d with
    | .blanks => wordsOf cs
    | .letters => cs.map fun c => [c]
    | .at c => piecesAt c cs
    | .regex r => piecesBetween r cs

end Division

/-- What takes the place of a match: an ampersand stands for the match unless a backslash stands in
front of it, of which two stand for one there. -/
def replacement (found : List Char) : (slashes : Nat) → List Char → List Char
  | slashes, [] => List.replicate slashes '\\'
  | slashes, '\\' :: cs => replacement found (slashes + 1) cs
  | slashes, '&' :: cs =>
    List.replicate (slashes / 2) '\\' ++ (if slashes % 2 = 0 then found else ['&']) ++ replacement found 0 cs
  | slashes, c :: cs => List.replicate slashes '\\' ++ c :: replacement found 0 cs

/-- A text with something in the place of matches, and how many there were. -/
def replaceMatches (spots : List (Spot × Spot)) (new cs : List Char) : List Char × Nat :=
  let (pieces, _, rest) := spots.foldl (fun (pieces, place, rest) (first, last) =>
    let behind := rest.drop (first.index - place)
    let found := behind.take (last.index - first.index)
    (replacement found 0 new :: rest.take (first.index - place) :: pieces, last.index,
      behind.drop found.length))
    (([] : List (List Char)), 0, cs)
  ((rest :: pieces).reverse.flatten, spots.length)

end PatchSearch.Shell.Awk
