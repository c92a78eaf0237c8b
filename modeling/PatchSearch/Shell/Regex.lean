import PatchSearch.Shell.CharSet

namespace PatchSearch.Shell

inductive Regex where
  | nothing
  | one (test : Char → Bool)
  | sequence (first second : Regex)
  | either (first second : Regex)
  /-- At least `least` times, and at most that often and as often again as `most` says. -/
  | repeated (body : Regex) (least : Nat) (most : Option Nat)
  | group (index : Nat) (body : Regex)
  /-- What a group matched, once more. -/
  | again (index : Nat)
  | start
  | finish
  /-- A place between characters, seen from whether a word ends before it and begins behind it. -/
  | edge (test : (before behind : Bool) → Bool)

/-- A place in a text with what groups matched on the way to it. -/
structure Spot where
  index : Nat
  previous : Option Char
  rest : List Char
  groups : List (Nat × Nat × Nat)

namespace Spot

def next? (s : Spot) : Option (Char × Spot) :=
  match s.rest with
  | [] => none
  | c :: cs => some (c, { s with index := s.index + 1, previous := some c, rest := cs })

/-- At most `n` characters further. -/
def skip : (n : Nat) → Spot → Spot
  | 0, s => s
  | n + 1, s =>
    match s.next? with
    | some (_, s) => skip n s
    | none => s

/-- The first of the spots at each place. -/
def distinct (spots : List Spot) : List Spot :=
  (spots.foldl (fun (seen, kept) s =>
    if seen.contains s.index then (seen, kept) else (s.index :: seen, s :: kept))
    (([] : List Nat), ([] : List Spot))).2.reverse

def isWordChar (c : Char) : Bool :=
  c.isAlphanum || c == '_'

end Spot

namespace Regex

/-- The spots that any number of steps lead to, those after more steps first. A place is visited once,
so `left` bounds the steps. -/
def closure (step : Spot → List Spot) : (left : Nat) → Spot → List Nat × List Spot →
    List Nat × List Spot
  | 0, _, found => found
  | left + 1, s, (seen, found) =>
    if seen.contains s.index then (seen, found)
    else
      let (seen, found) :=
        (step s).foldl (fun found t => closure step left t found) (s.index :: seen, found)
      (seen, s :: found)

/-- Exactly `n` steps. -/
def times (step : Spot → List Spot) : (n : Nat) → Spot → List Spot
  | 0, s => [s]
  | n + 1, s => Spot.distinct ((step s).flatMap (times step n))

/-- At most `n` steps, more of them first. -/
def upTo (step : Spot → List Spot) : (n : Nat) → Spot → List Spot
  | 0, s => [s]
  | n + 1, s => Spot.distinct ((step s).flatMap (upTo step n) ++ [s])

/-- Where matches that begin at a spot of a text may end, the preferred ones first. -/
def ends (text : List Char) : Regex → Spot → List Spot
  | .nothing, s => [s]
  | .one test, s =>
    match s.next? with
    | some (c, t) => if test c then [t] else []
    | none => []
  | .sequence first second, s => Spot.distinct ((ends text first s).flatMap (ends text second))
  | .either first second, s => Spot.distinct (ends text first s ++ ends text second s)
  | .repeated body least most, s =>
    let more (t : Spot) : List Spot :=
      match most with
      | some n => upTo (ends text body) n t
      | none => (closure (ends text body) (t.rest.length + 1) t ([], [])).2.reverse
    Spot.distinct ((times (ends text body) least s).flatMap more)
  | .group index body, s =>
    (ends text body s).map fun t =>
      { t with groups := (index, s.index, t.index) :: t.groups.filter fun g => g.1 ≠ index }
  | .again index, s =>
    match s.groups.lookup index with
    | some (first, last) =>
      let found := (text.drop first).take (last - first)
      if found.isPrefixOf s.rest then [s.skip found.length] else []
    | none => []
  | .start, s => if s.index = 0 then [s] else []
  | .finish, s => if s.rest.isEmpty then [s] else []
  | .edge test, s =>
    if test (s.previous.any Spot.isWordChar) (s.rest.head?.any Spot.isWordChar) then [s] else []

def longest? (r : Regex) (text : List Char) (s : Spot) : Option Spot :=
  match r.ends text s with
  | [] => none
  | t :: ts => some (ts.foldl (fun best t => if best.index < t.index then t else best) t)

/-- The first match from a spot on: where it begins and where it ends. -/
def firstFrom? (r : Regex) (text : List Char) : (left : Nat) → Spot → Option (Spot × Spot)
  | 0, _ => none
  | left + 1, s =>
    match r.longest? text { s with groups := [] } with
    | some t => some (s, t)
    | none =>
      match s.next? with
      | some (_, s) => firstFrom? r text left s
      | none => none

def origin (text : List Char) : Spot :=
  ⟨0, none, text, []⟩

/-- The first match in a text from a spot on. -/
def search? (r : Regex) (text : List Char) (s : Spot) : Option (Spot × Spot) :=
  r.firstFrom? text (s.rest.length + 1) s

def isIn (r : Regex) (text : List Char) : Bool :=
  (r.search? text (origin text)).isSome

/-- Whether a match begins and ends with the text. -/
def isWhole (r : Regex) (text : List Char) : Bool :=
  (r.ends text (origin text)).any fun s => s.rest.isEmpty

def cut (text : List Char) (first last : Nat) : List Char :=
  (text.drop first).take (last - first)

/-- What a group matched; the group with number zero is the whole match. -/
def groupText (text : List Char) (first last : Spot) (index : Nat) : List Char :=
  if index = 0 then cut text first.index last.index
  else
    match last.groups.lookup index with
    | some (a, b) => cut text a b
    | none => []

/-- The matches in a text one after the other, at most `left` of them. An empty match right behind
another one does not count. -/
def matchesFrom (r : Regex) (text : List Char) : (left : Nat) → (behind : Bool) → Spot →
    List (Spot × Spot)
  | 0, _, _ => []
  | left + 1, behind, s =>
    match r.search? text s with
    | none => []
    | some (first, last) =>
      if last.index = first.index then
        let rest := match last.next? with
          | some (_, t) => matchesFrom r text left false t
          | none => []
        if behind ∧ first.index = s.index then rest else (first, last) :: rest
      else (first, last) :: matchesFrom r text left true last

def all (r : Regex) (text : List Char) : List (Spot × Spot) :=
  r.matchesFrom text (text.length + 1) false (origin text)

def literal (fold : Char → Char) (cs : List Char) : Regex :=
  cs.foldr (fun c r => .sequence (.one fun x => fold x == fold c) r) .nothing

end Regex

end PatchSearch.Shell
