import PatchSearch.Shell.LineChanges
import PatchSearch.Shell.Utility.Grep
import PatchSearch.Shell.Utility.Listing
import Std.Data.HashMap

namespace PatchSearch.Shell

section Cmp

/-- A number of bytes in octal, at the right of three places. -/
def octalByte (c : Char) : List Char :=
  padLeft 3 (Nat.toDigits 8 c.toNat)

/-- What is said where one text ends before the other. -/
def endMessage (path : String) (cs : List Char) (lines : Bool) : String :=
  let n := cs.count '\n'
  let place :=
    if !lines then ""
    else if cs.getLast? = some '\n' then ", line " ++ toString n
    else ", in line " ++ toString (n + 1)
  "EOF on " ++ path ++ (if cs = [] then " which is empty" else " after byte " ++ toString cs.length ++ place)

def shownByte (c : Char) : List Char :=
  visible true c

def cmp : Utility := fun c => do
  let form : OptionForm := ⟨"bls", "in", [("print-bytes", 'b'), ("verbose", 'l'), ("silent", 's'),
    ("quiet", 's'), ("bytes", 'n'), ("ignore-initial", 'i')], false⟩
  let hint : Work Nat := do
    c.warn ("Try '" ++ c.name ++ " --help' for more information.")
    return 2
  match form.readWithin (c.args.length + 1) c.args with
  | .error fault =>
    c.warn (match fault with
      | .unknown letter => "invalid option -- '" ++ String.singleton letter ++ "'"
      | .unknownWord word => "unrecognized option '" ++ word ++ "'"
      | .missing letter => "option requires an argument -- '" ++ String.singleton letter ++ "'")
    hint
  | .ok a =>
    match a.operands with
    | [] =>
      c.warn ("missing operand after " ++ inQuotes c.name)
      hint
    | first :: others =>
      let second := others.headD "-"
      let number (s : String) : Nat := (sized? s).getD 0
      let skips := (FileMode.clauses ((a.value? 'i').getD "0").toList).map fun s => number (String.ofList s)
      let load (path : String) (skip : Nat) : Work (Option (List Char)) := do
        match ← c.read path with
        | .ok s =>
          let cs := (s.drop skip).finite
          return some (match a.value? 'n' with
            | some n => cs.take (number n)
            | none => cs)
        | .error e =>
          if !(a.has 's' && e == .notFound) then c.warn (path ++ ": " ++ reason e)
          return none
      match ← load first (skips.headD 0), ← load second (skips.getLast?.getD 0) with
      | some x, some y =>
        let pairs := x.zip y
        let alike := pairs.takeWhile fun (p, q) => p == q
        let short := if x.length < y.length then some (first, x)
          else if y.length < x.length then some (second, y) else none
        if a.has 'l' then
          let wide := (toString (max x.length y.length)).length
          for (i, p, q) in (List.range pairs.length).zip pairs do
            if p ≠ q then
              let extra := if a.has 'b' then
                  (' ' :: shownByte p ++ List.replicate (4 - (shownByte p).length) ' ', ' ' :: shownByte q)
                else ([], [])
              Work.say (padLeft wide (toString (i + 1)).toList ++ [' '] ++ octalByte p ++ extra.1 ++ [' '] ++
                octalByte q ++ extra.2 ++ ['\n'])
          match short with
          | some (path, cs) => c.warn (endMessage path cs false)
          | none => pure ()
          return if alike.length = pairs.length ∧ short.isNone then 0 else 1
        else if alike.length < pairs.length then
          if !a.has 's' then
            let place := toString (alike.length + 1) ++ ", line " ++
              toString ((alike.filter fun (p, _) => p == '\n').length + 1)
            match a.has 'b', pairs[alike.length]? with
            | true, some (p, q) =>
              Work.sayLine (first ++ " " ++ second ++ " differ: byte " ++ place ++ " is " ++
                String.ofList (octalByte p ++ [' '] ++ shownByte p ++ [' '] ++ octalByte q ++ [' '] ++ shownByte q))
            | _, _ => Work.sayLine (first ++ " " ++ second ++ " differ: char " ++ place)
          return 1
        else
          match short with
          | some (path, cs) =>
            if !a.has 's' then c.warn (endMessage path cs true)
            return 1
          | none => return 0
      | _, _ => return 2

end Cmp

section Diff

/-- A line of a file that is compared, and whether an end follows it. -/
structure DiffLine where
  text : List Char
  closed : Bool
deriving DecidableEq

def DiffLine.key (a : Arguments) (l : DiffLine) : List Char × Bool :=
  let isGap (c : Char) : Bool := c == ' ' || (9 ≤ c.toNat && c.toNat ≤ 13)
  let text := if a.has 'i' then l.text.map Char.toLower else l.text
  let trimmed (cs : List Char) : List Char := (cs.reverse.dropWhile isGap).reverse
  let text :=
    if a.has 'w' then text.filter fun c => !isGap c
    else if a.has 'b' then
      (trimmed text).foldr (fun c more =>
        if isGap c then (match more with
          | ' ' :: _ => more
          | _ => ' ' :: more) else c :: more) []
    else if a.has 'Z' then trimmed text
    else text
  (text, l.closed || a.has 'w' || a.has 'b' || a.has 'Z')

def diffLines (cs : List Char) : Array DiffLine :=
  let lines := textLines cs
  let closed := cs.getLast? == some '\n'
  (((List.range lines.length).zip lines).map fun (i, l) => ⟨l, closed || i + 1 < lines.length⟩).toArray

def numbered (keys : List (List Char × Bool)) : List Nat :=
  let keys := keys.map fun k => (String.ofList k.1, k.2)
  let start : List Nat × Std.HashMap (String × Bool) Nat := ([], ∅)
  (keys.foldl (fun (done, known) k =>
    match known[k]? with
    | some n => (n :: done, known)
    | none => (known.size :: done, known.insert k known.size)) start).1.reverse

structure Comparison where
  arguments : Arguments
  left : Array DiffLine
  right : Array DiffLine
  changes : List LineChanges.Change

namespace Comparison

def sharedLines (left right : List DiffLine) : Nat :=
  ((left.zip right).takeWhile fun (l, r) => l == r).length

/-- Compares what is between the lines at both ends that are the same, of which `around` stay with it. -/
def make (a : Arguments) (around : Nat) (x y : List Char) : Comparison :=
  let left := diffLines x
  let right := diffLines y
  let before := sharedLines left.toList right.toList - around
  let endOf (lines : Array DiffLine) : List DiffLine := (lines.toList.drop before).reverse
  let sameEnd := (left.toList.getLast?.map (·.closed)).getD true == (right.toList.getLast?.map (·.closed)).getD true
  let behind := if sameEnd then sharedLines (endOf left) (endOf right) - around else 0
  let body (lines : Array DiffLine) : List DiffLine :=
    (lines.toList.drop before).take (lines.size - before - behind)
  let keys := numbered ((body left ++ body right).map (DiffLine.key a))
  let size := (body left).length
  let all := (LineChanges.changes (keys.take size).toArray (keys.drop size).toArray).map fun c =>
    ⟨c.left + before, c.leftEnd + before, c.right + before, c.rightEnd + before⟩
  let isBlank (lines : Array DiffLine) (i n : Nat) : Bool :=
    (List.range (n - i)).all fun d => ((lines[i + d]?.map fun l => l.text == []).getD true)
  let kept := if a.has 'B' then
      all.filter fun c => !(isBlank left c.left c.leftEnd && isBlank right c.right c.rightEnd)
    else all
  ⟨a, left, right, kept⟩

/-- Lines with a sign in front of each. -/
def signed (sign : String) (lines : Array DiffLine) (first last : Nat) : List Char :=
  (List.range (last - first)).flatMap fun d =>
    match lines[first + d]? with
    | some l => sign.toList ++ l.text ++ ['\n'] ++
        if l.closed then [] else "\\ No newline at end of file\n".toList
    | none => []

/-- The numbers of the first and the last line, or one number. -/
def range (first last : Nat) : String :=
  if first + 1 < last then toString (first + 1) ++ "," ++ toString last else toString last

def letter (c : LineChanges.Change) : String :=
  if c.left = c.leftEnd then "a" else if c.right = c.rightEnd then "d" else "c"

/-- Changes with the lines that are taken out and put in. -/
def normal (q : Comparison) : List Char :=
  q.changes.flatMap fun c =>
    (range c.left c.leftEnd ++ letter c ++ range c.right c.rightEnd ++ "\n").toList ++
      signed "< " q.left c.left c.leftEnd ++
      (if c.left < c.leftEnd ∧ c.right < c.rightEnd then "---\n".toList else []) ++
      signed "> " q.right c.right c.rightEnd

/-- Commands for a line editor, from the end to the beginning. -/
def edScript (q : Comparison) : List Char :=
  q.changes.reverse.flatMap fun c =>
    (range c.left c.leftEnd ++ letter c ++ "\n").toList ++
      (if c.right < c.rightEnd then signed "" q.right c.right c.rightEnd ++ ".\n".toList else [])

def countScript (q : Comparison) : List Char :=
  q.changes.flatMap fun c =>
    (if c.left < c.leftEnd then
      ("d" ++ toString (c.left + 1) ++ " " ++ toString (c.leftEnd - c.left) ++ "\n").toList else []) ++
    (if c.right < c.rightEnd then
      ("a" ++ toString c.leftEnd ++ " " ++ toString (c.rightEnd - c.right) ++ "\n").toList ++
        signed "" q.right c.right c.rightEnd else [])

/-- Changes that are so near to each other that lines around them touch. -/
def hunks (around : Nat) : List LineChanges.Change → List (List LineChanges.Change)
  | [] => []
  | c :: cs =>
    match hunks around cs with
    | [] => [[c]]
    | hunk :: rest =>
      match hunk with
      | next :: _ => if next.left ≤ c.leftEnd + 2 * around then (c :: hunk) :: rest else [c] :: hunk :: rest
      | [] => [c] :: rest

/-- The first and last lines of a hunk with those around it. -/
def span (q : Comparison) (around : Nat) (hunk : List LineChanges.Change) : Nat × Nat × Nat × Nat :=
  match hunk.head?, hunk.getLast? with
  | some c, some d =>
    (c.left - around, min q.left.size (d.leftEnd + around), c.right - around,
      min q.right.size (d.rightEnd + around))
  | _, _ => (0, 0, 0, 0)

def unifiedRange (first last : Nat) : String :=
  if last = first + 1 then toString last
  else if last = first then toString first ++ ",0"
  else toString (first + 1) ++ "," ++ toString (last - first)

def unified (q : Comparison) (around : Nat) : List Char :=
  (hunks around q.changes).flatMap fun hunk =>
    let (i, iEnd, j, jEnd) := q.span around hunk
    let (done, behind) := hunk.foldl (fun ((done, behind) : List (List Char) × Nat) c =>
      ((signed " " q.left behind c.left ++ signed "-" q.left c.left c.leftEnd ++
        signed "+" q.right c.right c.rightEnd) :: done, c.leftEnd)) ([], i)
    ("@@ -" ++ unifiedRange i iEnd ++ " +" ++ unifiedRange j jEnd ++ " @@\n").toList ++
      done.reverse.flatten ++ signed " " q.left behind iEnd

def contextual (q : Comparison) (around : Nat) : List Char :=
  (hunks around q.changes).flatMap fun hunk =>
    let (i, iEnd, j, jEnd) := q.span around hunk
    let part (lines : Array DiffLine) (alone : String) (first last : Nat)
        (bounds : LineChanges.Change → Nat × Nat × Bool) : List Char :=
      let (done, behind) := hunk.foldl (fun ((done, behind) : List (List Char) × Nat) c =>
        let (start, stop, both) := bounds c
        ((signed "  " lines behind start ++ signed (if both then "! " else alone) lines start stop) :: done,
          stop)) ([], first)
      done.reverse.flatten ++ signed "  " lines behind last
    let both (c : LineChanges.Change) : Bool := c.left < c.leftEnd && c.right < c.rightEnd
    ("***************\n*** " ++ range i iEnd ++ " ****\n").toList ++
      (if hunk.any fun c => c.left < c.leftEnd then
        part q.left "- " i iEnd fun c => (c.left, c.leftEnd, both c) else []) ++
      ("--- " ++ range j jEnd ++ " ----\n").toList ++
      (if hunk.any fun c => c.right < c.rightEnd then
        part q.right "+ " j jEnd fun c => (c.right, c.rightEnd, both c) else [])

end Comparison

def contextLines (a : Arguments) : Nat :=
  ((a.options.filter fun (o, _) => o == 'U' || o == 'C').getLast?.bind fun (_, value) => natural? value).getD 3

/-- A title of a file with the time when it was changed. -/
def diffTitle (a : Arguments) (sign path : String) (second : Bool) : List Char :=
  match (a.values 'L')[if second then 1 else 0]? with
  | some label => (sign ++ " " ++ label ++ "\n").toList
  | none => (sign ++ " " ++ path ++ "\t2026-01-01 00:00:00.000000000 +0000\n").toList

/-- Compares two texts; the answer tells whether they are the same. `heading` goes before what is shown. -/
def compareContents (a : Arguments) (heading : Option String) (first second : String) (x y : List Char) :
    Work Bool := do
  let isBinary (cs : List Char) : Bool := (cs.take 4096).contains '\x00' && !a.has 'a'
  if isBinary x || isBinary y then
    if x = y then return true
    Work.sayLine ((if a.has 'q' then "Files " else "Binary files ") ++ first ++ " and " ++ second ++ " differ")
    return false
  else
    let style := (a.options.filter fun (o, _) => "uUcCpen".toList.contains o).getLast?.map Prod.fst
    let isUnified := style == some 'u' || style == some 'U'
    let isContextual := style == some 'c' || style == some 'C' || style == some 'p'
    let around := if isUnified || isContextual then contextLines a else 0
    let q := Comparison.make a around x y
    if q.changes = [] then
      if a.has 's' then Work.sayLine ("Files " ++ first ++ " and " ++ second ++ " are identical")
      return true
    if a.has 'q' then Work.sayLine ("Files " ++ first ++ " and " ++ second ++ " differ")
    else
      match heading with
      | some line => Work.sayLine line
      | none => pure ()
      if isUnified then
        Work.say (diffTitle a "---" first false ++ diffTitle a "+++" second true ++ q.unified around)
      else if isContextual then
        Work.say (diffTitle a "***" first false ++ diffTitle a "---" second true ++ q.contextual around)
      else if style = some 'e' then Work.say q.edScript
      else if style = some 'n' then Work.say q.countScript
      else Work.say q.normal
    return false

/-- Compares what two paths lead to, and what is below it, at most `depth` levels deep; the answer is a
status. `heading` tells that a line with both paths goes before what is shown. -/
def comparePaths (c : Call) (a : Arguments) (options : String) : (depth : Nat) → (heading : Bool) →
    (first second : String) → Work Nat
  | 0, _, _, _ => return 2
  | depth + 1, heading, first, second => do
    let fs ← Work.files
    let missing (path : String) : Bool := path != "-" && (c.entry fs path).toOption.isNone
    let kind (path : String) : String :=
      match c.entry fs path with
      | .ok .directory => "directory"
      | .ok (.file [] _) => "regular empty file"
      | .ok (.file _ _) => "regular file"
      | _ => "character special file"
    match c.isDirectory fs first && first != "-", c.isDirectory fs second && second != "-" with
    | true, true =>
      let names (path : String) : List String :=
        (match c.locate fs path with
          | .ok place => fs.names place
          | .error _ => []).map Text.bytewise
      let skipped (name : String) : Bool :=
        (a.values 'x').any fun g => (Glob.ofText g.toList).isFor name.toList
      let all := (sortedNames (names first ++ names second).eraseDups).filter fun n => !skipped n
      let mut status := 0
      for name in all do
        let (p, q) := (below first name, below second name)
        let result ← match (names first).contains name || a.has 'N', (names second).contains name || a.has 'N' with
          | true, true => do
            match c.isDirectory fs p, c.isDirectory fs q with
            | true, true =>
              if a.has 'r' then comparePaths c a options depth true p q
              else do
                Work.sayLine ("Common subdirectories: " ++ p ++ " and " ++ q)
                pure 0
            | x, y =>
              if x != y && !missing p && !missing q then do
                Work.sayLine ("File " ++ p ++ " is a " ++ kind p ++ " while file " ++ q ++ " is a " ++ kind q)
                pure 1
              else comparePaths c a options depth true p q
          | true, false => do
            Work.sayLine ("Only in " ++ first ++ ": " ++ name)
            pure 1
          | _, _ => do
            Work.sayLine ("Only in " ++ second ++ ": " ++ name)
            pure 1
        status := max status result
      return status
    | true, false =>
      comparePaths c a options depth heading (below first (lastName second)) second
    | false, true =>
      comparePaths c a options depth heading first (below second (lastName first))
    | false, false =>
      let load (path : String) : Work (Except FileError (List Char)) := do
        if missing path && a.has 'N' then return .ok []
        return (← c.read path).map Stream.finite
      let x ← load first
      let y ← if second = first then pure x else load second
      match x, y with
      | .ok x, .ok y =>
        let line := "diff " ++ options ++ first ++ " " ++ second
        return if ← compareContents a (if heading then some line else none) first second x y then 0 else 1
      | x, y =>
        for (path, r) in [(first, x), (second, y)] do
          match r with
          | .error e => c.warn (path ++ ": " ++ reason e)
          | .ok _ => pure ()
        return 2

def diffForm : OptionForm :=
  { plain := "abBcdeEhHilnNpqrsTtuvwyZ"
    valued := "CULxIFSXW"
    words := [("brief", 'q'), ("report-identical-files", 's'), ("unified", 'u'), ("context", 'c'), ("ed", 'e'),
      ("rcs", 'n'), ("ignore-case", 'i'), ("ignore-all-space", 'w'), ("ignore-space-change", 'b'),
      ("ignore-blank-lines", 'B'), ("ignore-trailing-space", 'Z'), ("recursive", 'r'), ("new-file", 'N'),
      ("text", 'a'), ("label", 'L'), ("exclude", 'x'), ("normal", 'h'), ("color", 'h'), ("minimal", 'd'),
      ("show-c-function", 'p'), ("strip-trailing-cr", 'h')]
    strict := false }

/-- Numbers behind `--unified` and in front of letters, written as options with values. -/
def expandDiff (args : List String) : List String :=
  args.map fun arg =>
    if "--unified=".toList.isPrefixOf arg.toList then "-U" ++ String.ofList (arg.toList.drop 10)
    else if "--context=".toList.isPrefixOf arg.toList then "-C" ++ String.ofList (arg.toList.drop 10)
    else arg

def diff : Utility := fun c => do
  let hint : Work Nat := do
    c.warn ("Try '" ++ c.name ++ " --help' for more information.")
    return 2
  match diffForm.readWithin (c.args.length + 1) (expandDiff c.args) with
  | .error fault =>
    c.warn (match fault with
      | .unknown letter => "invalid option -- '" ++ String.singleton letter ++ "'"
      | .unknownWord word => "unrecognized option '" ++ word ++ "'"
      | .missing letter => "option requires an argument -- '" ++ String.singleton letter ++ "'")
    hint
  | .ok a =>
    match a.operands with
    | [] =>
      c.warn ("missing operand after " ++ inQuotes (c.args.getLast?.getD c.name))
      hint
    | [_] =>
      c.warn ("missing operand after " ++ inQuotes (c.args.getLast?.getD c.name))
      hint
    | _ :: _ :: extra :: _ =>
      c.warn ("extra operand " ++ inQuotes extra)
      hint
    | [first, second] =>
      let options := String.join ((c.args.filter fun s => s != first && s != second).map (· ++ " "))
      comparePaths c a options 64 false first second

end Diff

end PatchSearch.Shell
