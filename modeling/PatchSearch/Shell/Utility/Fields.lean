import PatchSearch.Shell.Utility.Lines

namespace PatchSearch.Shell

def splitOn (delimiter : Char) (cs : List Char) : List (List Char) :=
  cs.foldr (fun c parts =>
    match parts with
    | [] => [[c]]
    | part :: rest => if c = delimiter then [] :: part :: rest else (c :: part) :: rest) [[]]

section Cut

/-- Positions from a first to a last one, which may be missing. -/
structure Range where
  first : Nat
  last : Option Nat
deriving Repr, DecidableEq

def Range.has (r : Range) (n : Nat) : Bool :=
  r.first ≤ n && (r.last.map fun l => decide (n ≤ l)).getD true

def readRange (fields : Bool) (s : String) : Except String Range :=
  let kind := if fields then "field" else "byte/character position"
  let bad : Except String Range := .error ("invalid " ++ (if fields then "field value" else kind) ++ " '" ++ s ++ "'")
  let number (cs : List Char) : Option Nat := natural? (String.ofList cs)
  let zero : String := if fields then "fields are numbered from 1"
    else "byte/character positions are numbered from 1"
  match splitOn '-' s.toList with
  | [one] =>
    match number one with
    | some 0 => .error zero
    | some n => .ok ⟨n, some n⟩
    | none => bad
  | [first, last] =>
    if first = [] ∧ last = [] then .error "invalid range with no endpoint: -"
    else
      match if first = [] then some 1 else number first, if last = [] then none else number last with
      | some 0, _ => .error zero
      | some a, some b => if b < a then .error "invalid decreasing range" else .ok ⟨a, some b⟩
      | some a, none => if last = [] then .ok ⟨a, none⟩ else bad
      | none, _ => bad
  | _ => bad

def cut : Utility := fun c =>
  let form : OptionForm := ⟨"snz", "bcfdO", [("bytes", 'b'), ("characters", 'c'), ("fields", 'f'),
    ("delimiter", 'd'), ("only-delimited", 's'), ("complement", 'C'), ("output-delimiter", 'O')], false⟩
  form.apply c 1 fun a => do
    match a.options.filter fun (o, _) => o == 'b' || o == 'c' || o == 'f' with
    | [] => c.misuse "you must specify a list of bytes, characters, or fields" 1
    | _ :: _ :: _ => c.misuse "only one list may be specified" 1
    | [(letter, list)] =>
      let byFields := letter = 'f'
      let delimiter := a.value? 'd'
      if (delimiter.map fun d => decide (1 < d.length)).getD false then
        c.misuse "the delimiter must be a single character" 1
      else if delimiter.isSome ∧ !byFields then
        c.misuse "an input delimiter may be specified only when operating on fields" 1
      else if a.has 's' ∧ !byFields then
        c.misuse "suppressing non-delimited lines makes sense\n\tonly when operating on fields" 1
      else
        match (splitOn ',' (list.toList.map fun c => if c = ' ' then ',' else c)).mapM
            fun part => readRange byFields (String.ofList part) with
        | .error message => c.misuse message 1
        | .ok ranges =>
          let chosen (n : Nat) : Bool := ranges.any (·.has n) != a.has 'C'
          let d := (delimiter.bind fun d => d.toList.head?).getD (if delimiter.isSome then '\x00' else '\t')
          let between := ((a.value? 'O').map String.toList).getD [d]
          let pick {α : Type} (xs : List α) : List α :=
            ((List.range xs.length).zip xs).filterMap fun (i, x) => if chosen (i + 1) then some x else none
          let shown (line : List Char) : Option (List Char) :=
            if byFields then
              if line.contains d then some (between.intercalate (pick (splitOn d line)))
              else if a.has 's' then none else some line
            else some (pick line)
          let (cs, complete) ← c.readAll a.operands
          Work.say (ofLines ((textLines cs).filterMap shown))
          return if complete then 0 else 1

end Cut

section Paste

/-- The delimiters of a list in which some are escaped; an empty one stands for nothing. -/
def delimiters : List Char → List (List Char)
  | [] => []
  | '\\' :: c :: cs =>
    (if c = '0' then [] else if c = 'n' then ['\n'] else if c = 't' then ['\t'] else [c]) :: delimiters cs
  | c :: cs => [c] :: delimiters cs

/-- Parts with delimiters between them, which are used one after the other and then again. -/
def interleave (ds : List (List Char)) (parts : List (List Char)) : List Char :=
  match parts with
  | [] => []
  | first :: rest =>
    first ++ (((List.range rest.length).zip rest).flatMap fun (i, part) =>
      (ds[i % max 1 ds.length]?).getD [] ++ part)

/-- Takes the lines that several readers of one input get in turn. -/
def deal (paths : List String) (texts : List (String × List (List Char))) : List (List (List Char)) :=
  let shared := (paths.filter (· = "-")).length
  let step (st : List (List (List Char)) × Nat) (path : String) : List (List (List Char)) × Nat :=
    let (done, seen) := st
    let lines := (texts.lookup path).getD []
    if path = "-" then
      let mine := ((List.range lines.length).zip lines).filterMap fun (i, line) =>
        if i % shared = seen then some line else none
      (mine :: done, seen + 1)
    else (lines :: done, seen)
  (paths.foldl step ([], 0)).1.reverse

def paste : Utility := fun c =>
  (OptionForm.mk "sz" "d" [("delimiters", 'd'), ("serial", 's')] false).apply c 1 fun a => do
    let ds := delimiters ((a.value? 'd').getD "\t").toList
    let ds := if ds = [] then [[]] else ds
    let paths := Call.inputs a.operands
    let mut texts : List (String × List (List Char)) := []
    let mut status := 0
    for path in paths do
      if (texts.lookup path).isNone then
        match ← c.read path with
        | .ok s => texts := (path, textLines s.finite) :: texts
        | .error e =>
          if status = 0 ∨ a.has 's' then c.blame path e
          status := 1
    if status ≠ 0 && !a.has 's' then return 1
    if a.has 's' then
      for path in paths do
        if let some lines := texts.lookup path then Work.say (interleave ds lines ++ ['\n'])
    else
      let columns := deal paths texts
      let height := columns.foldl (fun n column => max n column.length) 0
      let rows := (List.range height).map fun i => interleave ds (columns.map fun column =>
        (column[i]?).getD [])
      Work.say (ofLines rows)
    return status

end Paste

section Pairs

inductive Side where
  | left
  | right
  | both
deriving DecidableEq

/-- Goes through two lists of lines by their order. -/
def mergeLines (less : List Char → List Char → Bool) : (left : Nat) → List (List Char) →
    List (List Char) → List (Side × List Char)
  | 0, _, _ => []
  | _, [], ys => ys.map fun y => (.right, y)
  | _, xs, [] => xs.map fun x => (.left, x)
  | left + 1, x :: xs, y :: ys =>
    if x = y then (.both, x) :: mergeLines less left xs ys
    else if less x y then (.left, x) :: mergeLines less left xs (y :: ys)
    else (.right, y) :: mergeLines less left (x :: xs) ys

/-- Whether lines are in their order. -/
def isSorted (lines : List (List Char)) : Bool :=
  (lines.zip (lines.drop 1)).all fun (a, b) => Text.isAtMost a b

/-- Reads two files, or ends with why one of them cannot be read. -/
def withTwo (c : Call) (paths : List String) (status : Nat)
    (run : List (List Char) → List (List Char) → Work Nat) : Work Nat := do
  match paths with
  | [] => c.misuse "missing operand" status
  | [one] => c.misuse ("missing operand after '" ++ one ++ "'") status
  | [one, two] =>
    match ← c.read one with
    | .error e =>
      c.blame one e
      return status
    | .ok a =>
      match ← c.read two with
      | .error e =>
        c.blame two e
        return status
      | .ok b => run (textLines a.finite) (textLines b.finite)
  | _ :: _ :: three :: _ => c.misuse ("extra operand '" ++ three ++ "'") status

def comm : Utility := fun c =>
  let form : OptionForm := ⟨"123z", "O", [("output-delimiter", 'O'), ("check-order", 'K'),
    ("nocheck-order", 'N'), ("total", 'T')], false⟩
  form.apply c 1 fun a => do
    withTwo c a.operands 1 fun xs ys => do
      let tab := ((a.value? 'O').getD "\t").toList
      let found := mergeLines Text.isAtMost (xs.length + ys.length) xs ys
      let column (s : Side) : Nat × Char := match s with
        | .left => (0, '1')
        | .right => (1, '2')
        | .both => (2, '3')
      let shown := found.filterMap fun (side, line) =>
        let (n, letter) := column side
        if a.has letter then none
        else
          let hidden := (["1", "2"].take n).filter fun s => a.has (s.toList.headD ' ')
          some ((List.replicate (n - hidden.length) tab).flatten ++ line)
      Work.say (ofLines shown)
      if a.has 'T' then
        let total (s : Side) : String := toString (found.filter (·.1 = s)).length
        Work.sayLine ((String.ofList tab).intercalate [total .left, total .right, total .both, "total"])
      let unpaired := found.any (·.1 ≠ .both)
      if a.has 'N' || !(unpaired || a.has 'K') then return 0
      let check (n : String) (lines : List (List Char)) : Work Bool := do
        if isSorted lines then return false
        c.warn ("file " ++ n ++ " is not in sorted order")
        return true
      let left ← check "1" xs
      let right ← check "2" ys
      if left || right then
        c.warn "input is not in sorted order"
        return 1
      return 0

/-- A line as its fields, which delimiters or runs of blanks part. -/
def joinFields (delimiter : Option Char) (line : List Char) : List (List Char) :=
  match delimiter with
  | some d => splitOn d line
  | none => (splitOn ' ' (line.map fun c => if c = '\t' then ' ' else c)).filter (· ≠ [])

abbrev Keyed := List Char × List (List Char)

/-- Which rows are shown: pairs, and lines of either file without a partner. -/
structure Unpaired where
  pairs : Bool
  left : Bool
  right : Bool

/-- Rows for lines with the same keys, in the order in which the lines stand in both files. -/
def joinRows (row : Option (List (List Char)) → Option (List (List Char)) → List Char)
    (kinds : Unpaired) : (left : Nat) → List Keyed → List Keyed → List (List Char)
  | 0, _, _ => []
  | _, [], rs => if kinds.right then rs.map fun r => row none (some r.2) else []
  | _, ls, [] => if kinds.left then ls.map fun l => row (some l.2) none else []
  | left + 1, l :: ls, r :: rs =>
    if l.1 = r.1 then
      let mine := (l :: ls).takeWhile fun x => x.1 = l.1
      let theirs := (r :: rs).takeWhile fun x => x.1 = l.1
      let pairs := if kinds.pairs then mine.flatMap fun x => theirs.map fun y => row (some x.2) (some y.2)
        else []
      pairs ++ joinRows row kinds left ((l :: ls).drop mine.length) ((r :: rs).drop theirs.length)
    else if Text.isAtMost l.1 r.1 then
      (if kinds.left then [row (some l.2) none] else []) ++ joinRows row kinds left ls (r :: rs)
    else (if kinds.right then [row none (some r.2)] else []) ++ joinRows row kinds left (l :: ls) rs

def join : Utility := fun c =>
  let form : OptionForm := ⟨"iz", "12jtaveo", [("ignore-case", 'i'), ("check-order", 'K'),
    ("nocheck-order", 'N'), ("header", 'H')], false⟩
  form.apply c 1 fun a => do
    withTwo c a.operands 1 fun xs ys => do
      let delimiter := (a.value? 't').bind fun s => s.toList.head?
      let shownDelimiter := [delimiter.getD ' ']
      let key (letter : Char) : Nat :=
        (((a.value? letter).orElse fun _ => a.value? 'j').bind natural?).getD 1
      let filler := ((a.value? 'e').getD "").toList
      let fold (cs : List Char) : List Char := if a.has 'i' then cs.map Char.toLower else cs
      let part (letter : Char) (line : List Char) : Keyed :=
        let fields := joinFields delimiter line
        (fold ((fields[key letter - 1]?).getD []), fields)
      let lefts := xs.map (part '1')
      let rights := ys.map (part '2')
      let format : Option (List String) := (a.value? 'o').map fun s =>
        ((splitOn ',' (s.toList.map fun c => if c = ' ' then ',' else c)).map String.ofList)
      let others (n : Nat) (fields : List (List Char)) : List (List Char) :=
        fields.take (n - 1) ++ fields.drop n
      let row (l r : Option (List (List Char))) : List Char :=
        let keyText : List Char := match l, r with
          | some fields, _ => (fields[key '1' - 1]?).getD []
          | none, some fields => (fields[key '2' - 1]?).getD []
          | none, none => []
        let pick (fields : Option (List (List Char))) (n : Nat) : List Char :=
          match (fields.getD [])[n - 1]? with
          | some f => if f = [] then filler else f
          | none => filler
        match format with
        | some specs => shownDelimiter.intercalate (specs.map fun s =>
            match s.toList with
            | ['0'] => keyText
            | '1' :: '.' :: n => pick l ((natural? (String.ofList n)).getD 1)
            | '2' :: '.' :: n => pick r ((natural? (String.ofList n)).getD 1)
            | _ => [])
        | none => shownDelimiter.intercalate (keyText ::
            ((l.map (others (key '1'))).getD [] ++ (r.map (others (key '2'))).getD []))
      let shows (letter : Char) (n : String) : Bool := (a.values letter).contains n
      let kinds : Unpaired :=
        ⟨!a.has 'v', shows 'a' "1" || shows 'v' "1", shows 'a' "2" || shows 'v' "2"⟩
      Work.say (ofLines (joinRows row kinds (lefts.length + rights.length + 1) lefts rights))
      let paired := lefts.all (fun l => rights.any (·.1 = l.1)) && rights.all fun r => lefts.any (·.1 = r.1)
      let disorder (path : String) (keyed : List Keyed) (lines : List (List Char)) :
          Option String :=
        let steps := (List.range (keyed.length - 1)).zip (keyed.zip (keyed.drop 1))
        (steps.find? fun (_, (x, y)) => !Text.isAtMost x.1 y.1).map fun (i, _) =>
          path ++ ":" ++ toString (i + 2) ++ ": is not sorted: " ++
            String.ofList ((lines[i + 1]?).getD [])
      if paired || a.has 'N' then return 0
      match a.operands with
      | [one, two] =>
        let found := (disorder one lefts xs).toList ++ (disorder two rights ys).toList
        found.forM c.warn
        if found = [] then return 0
        c.warn "input is not in sorted order"
        return 1
      | _ => return 0

end Pairs

section Same

/-- Lines that are the same one after the other, as groups. -/
def groupLines (key : List Char → List Char) (lines : List (List Char)) : List (List (List Char)) :=
  (lines.foldl (fun groups line =>
    match groups with
    | (x :: xs) :: rest => if key x = key line then (line :: x :: xs) :: rest else [line] :: groups
    | _ => [line] :: groups) ([] : List (List (List Char)))).reverse.map List.reverse

/-- A line without its first fields and characters, as far as it counts. -/
def lineKey (fields chars : Nat) (most : Option Nat) (folded : Bool) (line : List Char) : List Char :=
  let skipField (cs : List Char) : List Char :=
    let isBlank (c : Char) : Bool := c == ' ' || c == '\t'
    (cs.dropWhile isBlank).dropWhile (!isBlank ·)
  let rest := ((List.range fields).foldl (fun cs _ => skipField cs) line).drop chars
  let rest := rest.take (most.getD rest.length)
  if folded then rest.map Char.toLower else rest

def uniq : Utility := fun c =>
  let form : OptionForm := ⟨"cduiDz", "fsw", [("count", 'c'), ("repeated", 'd'), ("unique", 'u'),
    ("ignore-case", 'i'), ("skip-fields", 'f'), ("skip-chars", 's'), ("check-chars", 'w'),
    ("all-repeated", 'D')], false⟩
  form.apply c 1 fun a => do
    let number (letter : Char) : Option Nat := (a.value? letter).bind natural?
    let path := a.operands.headD "-"
    match a.operands.drop 2 with
    | extra :: _ => c.misuse ("extra operand '" ++ extra ++ "'") 1
    | [] =>
      match ← c.read path with
      | .error e =>
        c.blame path e
        return 1
      | .ok s =>
        let key := lineKey ((number 'f').getD 0) ((number 's').getD 0) (number 'w') (a.has 'i')
        let shown := (groupLines key (textLines s.finite)).flatMap fun group =>
          let n := group.length
          let line := (group.head?).getD []
          if a.has 'D' then if n > 1 then group else []
          else if (a.has 'd' ∧ n = 1) ∨ (a.has 'u' ∧ n > 1) then []
          else [(if a.has 'c' then padLeft 7 (toString n).toList ++ [' '] else []) ++ line]
        match a.operands[1]? with
        | none =>
          Work.say (ofLines shown)
          return 0
        | some out =>
          match ← c.writeFile out (ofLines shown) with
          | .ok () => return 0
          | .error e =>
            c.blame out e
            return 1

end Same

end PatchSearch.Shell
