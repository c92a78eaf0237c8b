namespace PatchSearch.Shell.LineChanges

/-- Which members of two sequences have no partner in the other one. -/
structure Marks where
  left : Array Bool
  right : Array Bool

namespace Marks

def none (n m : Nat) : Marks := ⟨Array.replicate n false, Array.replicate m false⟩

def markLeft (k : Marks) (i n : Nat) : Marks :=
  { k with left := (List.range n).foldl (fun a d => a.setIfInBounds (i + d) true) k.left }

def markRight (k : Marks) (j n : Nat) : Marks :=
  { k with right := (List.range n).foldl (fun a d => a.setIfInBounds (j + d) true) k.right }

end Marks

/-- A part of two sequences, from the first positions to those behind the last ones. -/
structure Part where
  left : Int
  leftEnd : Int
  right : Int
  rightEnd : Int

/-- How far searches from both ends got on each diagonal. -/
structure Fronts where
  forward : Array Int
  backward : Array Int
  low : Int
  high : Int
  backLow : Int
  backHigh : Int

section Search

variable (xs ys : Array Nat)

def same (x y : Int) : Bool :=
  0 ≤ x && 0 ≤ y && x.toNat < xs.size && y.toNat < ys.size && xs[x.toNat]? == ys[y.toNat]?

/-- Goes on as long as members are equal, at most `left` times. -/
def slideOn (p : Part) : (left : Nat) → Int → Int → Int × Int
  | 0, x, y => (x, y)
  | left + 1, x, y =>
    if x < p.leftEnd ∧ y < p.rightEnd ∧ same xs ys x y then slideOn p left (x + 1) (y + 1) else (x, y)

/-- Goes back as long as members are equal, at most `left` times. -/
def slideBack (p : Part) : (left : Nat) → Int → Int → Int × Int
  | 0, x, y => (x, y)
  | left + 1, x, y =>
    if p.left < x ∧ p.right < y ∧ same xs ys (x - 1) (y - 1) then slideBack p left (x - 1) (y - 1)
    else (x, y)

def slot (d : Int) : Nat :=
  (d + ys.size + 1).toNat

def reached (a : Array Int) (d : Int) : Int :=
  a.getD (slot ys d) 0

/-- Diagonals from a high one down to a low one in steps of two. -/
def diagonals (low high : Int) : List Int :=
  (List.range (((high - low) / 2 + 1).toNat)).map fun (i : Nat) => high - 2 * (i : Int)

/-- Extends the search from the beginning by one step. -/
def extendForward (p : Part) (odd : Bool) (f : Fronts) : Fronts × Option (Int × Int) :=
  let least := p.left - p.rightEnd
  let most := p.leftEnd - p.right
  let (low, forward) := if least < f.low then (f.low - 1, f.forward.setIfInBounds (slot ys (f.low - 2)) (-1))
    else (f.low + 1, f.forward)
  let (high, forward) := if f.high < most then (f.high + 1, forward.setIfInBounds (slot ys (f.high + 2)) (-1))
    else (f.high - 1, forward)
  let step (st : Array Int × Option (Int × Int)) (d : Int) : Array Int × Option (Int × Int) :=
    match st with
    | (forward, some found) => (forward, some found)
    | (forward, .none) =>
      let below := reached ys forward (d - 1)
      let above := reached ys forward (d + 1)
      let x := if below < above then above else below + 1
      let (x, y) := slideOn xs ys p xs.size x (x - d)
      let meets := odd && f.backLow ≤ d && d ≤ f.backHigh && reached ys f.backward d ≤ x
      (forward.setIfInBounds (slot ys d) x, if meets then some (x, y) else .none)
  let (forward, found) := (diagonals low high).foldl step (forward, .none)
  ({ f with forward := forward, low := low, high := high }, found)

def extendBackward (p : Part) (odd : Bool) (f : Fronts) : Fronts × Option (Int × Int) :=
  let least := p.left - p.rightEnd
  let most := p.leftEnd - p.right
  let far : Int := xs.size + ys.size + 2
  let (low, backward) := if least < f.backLow then
      (f.backLow - 1, f.backward.setIfInBounds (slot ys (f.backLow - 2)) far)
    else (f.backLow + 1, f.backward)
  let (high, backward) := if f.backHigh < most then
      (f.backHigh + 1, backward.setIfInBounds (slot ys (f.backHigh + 2)) far)
    else (f.backHigh - 1, backward)
  let step (st : Array Int × Option (Int × Int)) (d : Int) : Array Int × Option (Int × Int) :=
    match st with
    | (backward, some found) => (backward, some found)
    | (backward, .none) =>
      let below := reached ys backward (d - 1)
      let above := reached ys backward (d + 1)
      let x := if below < above then below else above - 1
      let (x, y) := slideBack xs ys p xs.size x (x - d)
      let meets := !odd && f.low ≤ d && d ≤ f.high && x ≤ reached ys f.forward d
      (backward.setIfInBounds (slot ys d) x, if meets then some (x, y) else .none)
  let (backward, found) := (diagonals low high).foldl step (backward, .none)
  ({ f with backward := backward, backLow := low, backHigh := high }, found)

/-- Searches from both ends until the searches meet, at most `left` steps. -/
def meet (p : Part) (odd : Bool) : (left : Nat) → Fronts → Int × Int
  | 0, _ => (p.leftEnd, p.right)
  | left + 1, f =>
    match extendForward xs ys p odd f with
    | (_, some found) => found
    | (f, .none) =>
      match extendBackward xs ys p odd f with
      | (_, some found) => found
      | (f, .none) => meet p odd left f

def middle (p : Part) : Int × Int :=
  let first := p.left - p.right
  let last := p.leftEnd - p.rightEnd
  let size := xs.size + ys.size + 3
  let f : Fronts :=
    ⟨(Array.replicate size 0).setIfInBounds (slot ys first) p.left,
      (Array.replicate size 0).setIfInBounds (slot ys last) p.leftEnd, first, first, last, last⟩
  meet xs ys p ((first - last) % 2 != 0) (size + 1) f

/-- Marks what is different in a part; `depth` bounds how often parts are cut in two. -/
def markPart : (depth : Nat) → Part → Marks → Marks
  | 0, _, k => k
  | depth + 1, p, k =>
    let (x, y) := slideOn xs ys p xs.size p.left p.right
    let p := { p with left := x, right := y }
    let (x, y) := slideBack xs ys p xs.size p.leftEnd p.rightEnd
    let p := { p with leftEnd := x, rightEnd := y }
    if p.left = p.leftEnd then k.markRight p.right.toNat (p.rightEnd - p.right).toNat
    else if p.right = p.rightEnd then k.markLeft p.left.toNat (p.leftEnd - p.left).toNat
    else
      let (x, y) := middle xs ys p
      markPart depth ⟨x, p.leftEnd, y, p.rightEnd⟩ (markPart depth ⟨p.left, x, p.right, y⟩ k)

end Search

/-- Marks for two sequences; members that the other one does not have at all are left out of the search. -/
def marks (xs ys : Array Nat) : Marks :=
  let keep (own other : Array Nat) : List Nat :=
    (List.range own.size).filter fun i => other.contains (own.getD i 0)
  let left := (keep xs ys).toArray
  let right := (keep ys xs).toArray
  let inner := markPart (left.map fun i => xs.getD i 0) (right.map fun j => ys.getD j 0)
    (left.size + right.size + 1) ⟨0, left.size, 0, right.size⟩ (Marks.none left.size right.size)
  let spread (size : Nat) (kept : Array Nat) (inner : Array Bool) : Array Bool :=
    (List.range kept.size).foldl (fun a i => a.setIfInBounds (kept.getD i size) (inner.getD i false))
      (Array.replicate size true)
  ⟨spread xs.size left inner.left, spread ys.size right inner.right⟩

section Shift

/-- One run of changes that is moved along, with the place in the other sequence that belongs to it. -/
structure Run where
  changed : Array Bool
  start : Nat
  stop : Nat
  other : Nat
  /-- The last end of the run that belongs to changes in the other sequence. -/
  fitting : Nat

variable (values : Array Nat) (others : Array Bool)

def isMarked (a : Array Bool) (i : Nat) : Bool :=
  a.getD i false

/-- Behind the marks from a position on, at most `left` of them. -/
def behindMarks (a : Array Bool) : (left i : Nat) → Nat
  | 0, i => i
  | left + 1, i => if isMarked a i then behindMarks a left (i + 1) else i

/-- The first of the marks that end right before a position, at most `left` of them. -/
def beforeMarks (a : Array Bool) : (left i : Nat) → Nat
  | 0, i => i
  | left + 1, i => if 0 < i ∧ isMarked a (i - 1) then beforeMarks a left (i - 1) else i

/-- The place in the other sequence one step back: over one member that is not marked. -/
def stepBack (j : Nat) : Nat :=
  beforeMarks others others.size j - 1

/-- Moves a run back as long as the member before it equals its last one. -/
def moveBack : (left : Nat) → Run → Run
  | 0, r => r
  | left + 1, r =>
    if 0 < r.start ∧ values[r.start - 1]? = values[r.stop - 1]? then
      let changed := (r.changed.setIfInBounds (r.start - 1) true).setIfInBounds (r.stop - 1) false
      moveBack left { r with
        changed := changed, start := beforeMarks changed changed.size (r.start - 1), stop := r.stop - 1
        other := stepBack others r.other }
    else r

/-- Moves a run on as long as the member behind it equals its first one. -/
def moveOn : (left : Nat) → Run → Run
  | 0, r => r
  | left + 1, r =>
    if r.stop < values.size ∧ values[r.start]? = values[r.stop]? then
      let changed := (r.changed.setIfInBounds r.start false).setIfInBounds r.stop true
      let stop := behindMarks changed changed.size (r.stop + 1)
      let other := behindMarks others others.size (r.other + 1)
      moveOn left { r with
        changed := changed, start := r.start + 1, stop := stop, other := other
        fitting := if r.other + 1 < other then stop else r.fitting }
    else r

/-- Moves a run back and on until it does not grow any more. -/
def settle : (left : Nat) → Run → Run
  | 0, r => r
  | left + 1, r =>
    let length := r.stop - r.start
    let back := moveBack values others values.size r
    let back := { back with
      fitting := if 0 < back.other ∧ isMarked others (back.other - 1) then back.stop else values.size }
    let on := moveOn values others values.size back
    if on.stop - on.start = length then on else settle left on

/-- Moves a run back to where it belongs to changes in the other sequence. -/
def fit : (left : Nat) → Run → Run
  | 0, r => r
  | left + 1, r =>
    if r.fitting < r.stop then
      fit left { r with
        changed := (r.changed.setIfInBounds (r.start - 1) true).setIfInBounds (r.stop - 1) false
        start := r.start - 1, stop := r.stop - 1, other := stepBack others r.other }
    else r

/-- Moves all runs from a position on to where they read best. -/
def shiftFrom : (left i j : Nat) → Array Bool → Array Bool
  | 0, _, _, changed => changed
  | left + 1, i, j, changed =>
    if values.size ≤ i then changed
    else if !isMarked changed i then shiftFrom left (i + 1) (behindMarks others others.size j + 1) changed
    else
      let stop := behindMarks changed changed.size i
      let r := settle values others (values.size + 1)
        ⟨changed, i, stop, behindMarks others others.size j, values.size⟩
      let r := fit others values.size r
      shiftFrom left r.stop r.other r.changed

def shift (changed : Array Bool) : Array Bool :=
  shiftFrom values others (2 * values.size + 2) 0 0 changed

end Shift

/-- A change: members from one position to another are replaced by members of the other sequence. -/
structure Change where
  left : Nat
  leftEnd : Nat
  right : Nat
  rightEnd : Nat
deriving Repr, DecidableEq

/-- The changes that marks stand for, from two positions on; at most `left` steps. -/
def changesFrom (k : Marks) : (left i j : Nat) → List Change
  | 0, _, _ => []
  | left + 1, i, j =>
    if k.left.size ≤ i ∧ k.right.size ≤ j then []
    else if isMarked k.left i ∨ isMarked k.right j then
      let iEnd := behindMarks k.left k.left.size i
      let jEnd := behindMarks k.right k.right.size j
      ⟨i, iEnd, j, jEnd⟩ :: changesFrom k left iEnd jEnd
    else changesFrom k left (i + 1) (j + 1)

/-- The changes that make the second sequence of the first. -/
def changes (xs ys : Array Nat) : List Change :=
  let k := marks xs ys
  let left := shift xs k.right k.left
  let right := shift ys left k.right
  changesFrom ⟨left, right⟩ (xs.size + ys.size + 1) 0 0

end PatchSearch.Shell.LineChanges
