import PatchSearch.Shell.Utility.Fields

namespace PatchSearch.Shell

/-- A part of lines to sort by. Positions count from zero. -/
structure SortKey where
  firstField : Nat
  firstChar : Nat
  /-- The field and the character that the part ends before; none for the end of the line. -/
  last : Option (Nat × Nat)
  letters : List Char
  /-- Whether blanks in front of its beginning and its end do not count. -/
  skipFirst : Bool
  skipLast : Bool

namespace SortKey

def isBlank (c : Char) : Bool :=
  c == ' ' || c == '\t' || c == '\n'

/-- A line without its first `n` fields; blanks belong to the field behind them. -/
def dropFields (delimiter : Option Char) : (n : Nat) → List Char → List Char
  | 0, cs => cs
  | n + 1, cs =>
    match delimiter with
    | some d => dropFields delimiter n ((cs.dropWhile (· ≠ d)).drop 1)
    | none => dropFields delimiter n ((cs.dropWhile isBlank).dropWhile (!isBlank ·))

/-- How many characters of a line stand before the end of a key. -/
def endOf (k : SortKey) (delimiter : Option Char) (line : List Char) : Nat :=
  match k.last with
  | none => line.length
  | some (field, 0) =>
    -- The key ends with this field, without the delimiter behind it.
    let before := dropFields delimiter field line
    let rest := match delimiter with
      | some d => before.dropWhile (· ≠ d)
      | none => (before.dropWhile isBlank).dropWhile (!isBlank ·)
    line.length - rest.length
  | some (field, char) =>
    let before := dropFields delimiter field line
    let before := if k.skipLast then before.dropWhile isBlank else before
    line.length - (before.drop char).length

def part (k : SortKey) (delimiter : Option Char) (line : List Char) : List Char :=
  let before := dropFields delimiter k.firstField line
  let before := if k.skipFirst then before.dropWhile isBlank else before
  let start := line.length - (before.drop k.firstChar).length
  (line.take (k.endOf delimiter line)).drop start

end SortKey

/-- A number as digits over a power of ten. -/
def decimalValue (cs : List Char) : Int × Nat :=
  let cs := cs.dropWhile SortKey.isBlank
  let (negative, ds) := match cs with
    | '-' :: ds => (true, ds)
    | ds => (false, ds)
  let (whole, rest) := digitsOf 10 ds
  let (n, places) := match rest with
    | '.' :: fraction =>
      let digits := fraction.takeWhile Char.isDigit
      (digits.foldl (fun n c => n * 10 + (c.toNat - 48)) whole, digits.length)
    | _ => (whole, 0)
  (if negative then -(n : Int) else n, places)

def unitPower (cs : List Char) : Nat :=
  let rest := (cs.dropWhile SortKey.isBlank).dropWhile fun c => c.isDigit || c == '.' || c == '-'
  match rest with
  | c :: _ => ("KMGTPEZY".toList.findIdx? (· = c.toUpper)).elim 0 (· + 1)
  | [] => 0

def compareDecimals (a b : Int × Nat) : Ordering :=
  compare (a.1 * Nat.pow 10 b.2) (b.1 * Nat.pow 10 a.2)

/-- The order of texts by their first characters that differ. -/
def compareTexts : List Char → List Char → Ordering
  | [], [] => .eq
  | [], _ :: _ => .lt
  | _ :: _, [] => .gt
  | a :: as, b :: bs => if a = b then compareTexts as bs else compare a.toNat b.toNat

def monthNames : List String :=
  ["JAN", "FEB", "MAR", "APR", "MAY", "JUN", "JUL", "AUG", "SEP", "OCT", "NOV", "DEC"]

/-- The number of the month that a text begins with. -/
def monthValue (cs : List Char) : Nat :=
  let name := String.ofList (((cs.dropWhile SortKey.isBlank).take 3).map Char.toUpper)
  (monthNames.findIdx? (· = name)).elim 0 (· + 1)

/-- The order of texts with numbers in them, at most `left` parts of each: what is no digit by its
characters, where letters stand before other signs, and digits by their value. -/
def compareVersions : (left : Nat) → List Char → List Char → Ordering
  | 0, a, b => compareTexts a b
  | left + 1, a, b =>
    if a = [] ∧ b = [] then .eq
    else
      let rank (cs : List Char) : Nat := match cs with
        | [] => 0
        | c :: _ => if c = '~' then 0 else if c.isDigit then 1 else if c.isAlpha then c.toNat + 1
          else c.toNat + 300
      let textA := a.takeWhile (!Char.isDigit ·)
      let textB := b.takeWhile (!Char.isDigit ·)
      let pairs := (List.range (max textA.length textB.length)).map fun i =>
        compare (rank ((textA.drop i).take 1)) (rank ((textB.drop i).take 1))
      match pairs.find? (· ≠ .eq) with
      | some o => o
      | none =>
        let restA := a.drop textA.length
        let restB := b.drop textB.length
        let (n, restA) := digitsOf 10 restA
        let (m, restB) := digitsOf 10 restB
        if n = m then compareVersions left restA restB else compare n m

/-- How two parts compare under letters for ways to compare. -/
def compareBy (letters : List Char) (a b : List Char) : Ordering :=
  let has (c : Char) : Bool := letters.contains c
  let o :=
    if has 'n' then compareDecimals (decimalValue a) (decimalValue b)
    else if has 'h' then
      match compare (unitPower a) (unitPower b) with
      | .eq => compareDecimals (decimalValue a) (decimalValue b)
      | o => o
    else if has 'g' then
      let value (cs : List Char) : Float := ((floatPrefix? cs).map Prod.fst).getD (-1 / 0)
      if value a < value b then .lt else if value b < value a then .gt else .eq
    else if has 'M' then compare (monthValue a) (monthValue b)
    else
      let keep (cs : List Char) : List Char :=
        let cs := if has 'd' then cs.filter fun c => c == ' ' || c == '\t' || c.isAlphanum else cs
        let cs := if has 'i' then cs.filter fun c => 32 ≤ c.toNat && c.toNat < 127 else cs
        if has 'f' then cs.map Char.toUpper else cs
      if has 'V' then compareVersions (a.length + b.length) (keep a) (keep b)
      else compareTexts (keep a) (keep b)
  if has 'r' then o.swap else o

def compareKeys (keys : List SortKey) (delimiter : Option Char) (a b : List Char) : Ordering :=
  (keys.map fun k => compareBy k.letters (k.part delimiter a) (k.part delimiter b)).find? (· ≠ .eq)
    |>.getD .eq

/-- Reads a position of a key: a field, and a character in it. -/
def readPosition (text : List Char) : Option (Nat × Option Nat × List Char) :=
  let ds := text.takeWhile Char.isDigit
  if ds = [] then none
  else
    let field := (digitsOf 10 ds).1
    match text.drop ds.length with
    | '.' :: rest =>
      let cs := rest.takeWhile Char.isDigit
      if cs = [] then none else some (field, some (digitsOf 10 cs).1, rest.drop cs.length)
    | rest => some (field, none, rest)

def readSortKey (spec : String) : Except String SortKey :=
  let fieldError (s : String) : Except String SortKey :=
    .error (s ++ ": invalid field specification '" ++ spec ++ "'")
  let isLetter (c : Char) : Bool := "bdfgiMhnRrV".toList.contains c
  match readPosition spec.toList with
  | none => .error ("invalid number at field start: invalid count at start of '" ++ spec ++ "'")
  | some (field, char, rest) =>
    if field = 0 then fieldError "field number is zero"
    else if char = some 0 then fieldError "character offset is zero"
    else
      let first := rest.takeWhile isLetter
      let start : SortKey := ⟨field - 1, (char.getD 1) - 1, none, first, first.contains 'b', false⟩
      match rest.drop first.length with
      | [] => .ok start
      | ',' :: behind =>
        match readPosition behind with
        | none => .error ("invalid number after ',': invalid count at start of '" ++
            String.ofList behind ++ "'")
        | some (field, char, rest) =>
          if field = 0 then fieldError "field number is zero"
          else
            let last := rest.takeWhile isLetter
            if rest.length = last.length then
              .ok { start with
                last := some (field - 1, char.getD 0)
                letters := first ++ last
                skipLast := last.contains 'b' }
            else fieldError "stray character in field spec"
      | _ => fieldError "stray character in field spec"

def sort : Utility := fun c =>
  let form : OptionForm := ⟨"bcCdfghiMmnRrsuVz", "kotST", [("ignore-leading-blanks", 'b'),
    ("dictionary-order", 'd'), ("ignore-case", 'f'), ("general-numeric-sort", 'g'),
    ("month-sort", 'M'), ("human-numeric-sort", 'h'), ("numeric-sort", 'n'), ("reverse", 'r'),
    ("version-sort", 'V'), ("check", 'c'), ("key", 'k'), ("merge", 'm'), ("output", 'o'),
    ("stable", 's'), ("field-separator", 't'), ("unique", 'u')], false⟩
  form.apply c 2 fun a => do
    let letters := (a.options.map Prod.fst).filter fun o => "bdfgiMhnRrV".toList.contains o
    let delimiter? : Except String (Option Char) := match a.value? 't' with
      | none => .ok none
      | some s =>
        match s.toList with
        | [d] => .ok (some d)
        | ['\\', '0'] => .ok (some '\x00')
        | [] => .error "empty tab"
        | _ => .error ("multi-character tab '" ++ s ++ "'")
    match delimiter?, (a.values 'k').mapM readSortKey with
    | .error message, _ | _, .error message => c.fail message 2
    | .ok delimiter, .ok keys =>
      -- Keys without letters of their own take those of the whole.
      let adopt (k : SortKey) : SortKey :=
        if k.letters = [] then { k with letters := letters, skipFirst := letters.contains 'b',
                                        skipLast := letters.contains 'b' } else k
      let whole : SortKey := ⟨0, 0, none, letters, letters.contains 'b', false⟩
      let used := if keys = [] then (if letters.all (· = 'r') then [] else [whole]) else keys.map adopt
      let compareWhole (x y : List Char) : Ordering :=
        if letters.contains 'r' then compareTexts y x else compareTexts x y
      let compareLines (x y : List Char) : Ordering :=
        match compareKeys used delimiter x y with
        | .eq => if used ≠ [] ∧ (a.has 's' ∨ a.has 'u') then .eq else compareWhole x y
        | o => o
      let mut texts := []
      for path in Call.inputs a.operands do
        match ← c.read path with
        | .ok s => texts := textLines s.finite :: texts
        | .error e =>
          if e = .isADirectory then c.warn ("read failed: " ++ shownName path ++ ": Is a directory")
          else c.warn ("cannot read: " ++ shownName path ++ ": " ++ reason e)
          return 2
      let lines := texts.reverse.flatten
      if a.has 'c' ∨ a.has 'C' then
        let steps := (List.range (lines.length - 1)).zip (lines.zip (lines.drop 1))
        let isBad (x y : List Char) : Bool :=
          let o := compareLines x y
          o == .gt || (a.has 'u' && o == .eq)
        match steps.find? fun (_, (x, y)) => isBad x y with
        | none => return 0
        | some (i, (_, y)) =>
          if a.has 'c' then
            c.warn ((a.operands.headD "-") ++ ":" ++ toString (i + 2) ++ ": disorder: " ++ String.ofList y)
          return 1
      else
        let sorted := lines.mergeSort fun x y => compareLines x y != .gt
        let kept :=
          if a.has 'u' then
            (sorted.foldl (fun kept line =>
              match kept with
              | x :: _ => if compareLines x line = .eq then kept else line :: kept
              | [] => [line]) ([] : List (List Char))).reverse
          else sorted
        match a.value? 'o' with
        | none =>
          Work.say (ofLines kept)
          return 0
        | some out =>
          match ← c.writeFile out (ofLines kept) with
          | .ok () => return 0
          | .error e =>
            c.warn ("open failed: " ++ shownName out ++ ": " ++ reason e)
            return 2

end PatchSearch.Shell
