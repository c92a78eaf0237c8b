namespace PatchSearch

structure Random where
  state : UInt64
deriving Repr, DecidableEq

namespace Random

def ofSeed (seed : UInt64) : Random := ⟨seed⟩

def wideProduct (a b : UInt64) : UInt64 × UInt64 :=
  let p := a.toNat * b.toNat
  ((p / UInt64.size).toUInt64, p.toUInt64)

def next (g : Random) : UInt64 × Random :=
  -- The constant stands first, so that no proof counts a symbolic state up from it.
  let s := 0x2d358dccaa6c78a5 + g.state
  let (high, low) := wideProduct s (s ^^^ 0x8bb84b93962eacc9)
  (low ^^^ high, ⟨s⟩)

/-- The states of a generator before it comes round again. -/
def period : Nat := UInt64.size

/-- Draws until the lower word of `draw * n` reaches `floor`, and gives the upper word; `left` bounds
the draws. -/
def belowFrom (n floor : UInt64) : (left : Nat) → Random → Nat × Random
  | 0, g => (0, g)
  | left + 1, g =>
    let (r, g) := g.next
    let (high, low) := wideProduct r n
    if low < floor then belowFrom n floor left g else (high.toNat, g)

/-- A number below `n`, all of them equally likely. Draws whose lower word would favour some numbers
are taken again. -/
def below (g : Random) (n : Nat) : Nat × Random :=
  let w := n.toUInt64
  let (r, g) := g.next
  let (high, low) := wideProduct r w
  if low < w then
    let floor := (0 - w) % w
    if low < floor then belowFrom w floor period g else (high.toNat, g)
  else (high.toNat, g)

def unitStep : Float := Float.ofBits 0x3c00000000000000

/-- Draws until the fraction is less than one; `left` bounds the draws. -/
def fractionFrom : (left : Nat) → Random → Float × Random
  | 0, g => (0, g)
  | left + 1, g =>
    let (r, g) := g.next
    let x := (r >>> 1).toFloat * unitStep
    if x < 1 then (x, g) else fractionFrom left g

/-- A double from 0 up to but not including 1. -/
def fraction (g : Random) : Float × Random :=
  fractionFrom period g

/-- A coin that shows heads with the given probability. -/
def coin (g : Random) (probability : Float) : Bool × Random :=
  let (x, g) := g.fraction
  (x < probability, g)

/-- One of the elements of a list, all of them equally likely. -/
def choose {α : Type} (g : Random) (xs : List α) : Option α × Random :=
  if xs.isEmpty then (none, g)
  else
    let (i, g) := g.below xs.length
    (xs[i]?, g)

/-- Swaps two places of an array; a place outside leaves it as it is. -/
def swapPlaces {α : Type} (xs : Array α) (i j : Nat) : Array α :=
  if h : i < xs.size ∧ j < xs.size then xs.swap i j h.1 h.2 else xs

/-- Swaps a place with a random one up to itself. -/
def shuffleStep {α : Type} (s : Array α × Random) (i : Nat) : Array α × Random :=
  let draw := s.2.below (i + 1)
  (swapPlaces s.1 i draw.1, draw.2)

/-- A list in random order: each place from the second on is swapped with one up to itself. -/
def shuffle {α : Type} (g : Random) (xs : List α) : List α × Random :=
  let s := (List.range' 1 (xs.length - 1)).foldl shuffleStep (xs.toArray, g)
  (s.1.toList, s.2)

end Random

end PatchSearch
