import PatchSearch.Shell.Glob
import PatchSearch.Shell.Regex.Reader
import PatchSearch.Shell.Utility.Fields

namespace PatchSearch.Shell

structure GrepRequest where
  regex : Regex
  arguments : Arguments
  inverted : Bool
  word : Bool
  line : Bool
  before : Nat
  behind : Nat
  most : Option Nat

namespace GrepRequest

/-- A match that begins at a spot and keeps the rules for words and lines. -/
def matchAt? (q : GrepRequest) (text : List Char) (s : Spot) : Option Spot :=
  let isEdge (c : Option Char) : Bool := !(c.any Spot.isWordChar)
  let ends := (q.regex.ends text { s with groups := [] }).filter fun t =>
    (!q.line || (s.index == 0 && t.rest.isEmpty)) &&
      (!q.word || (isEdge s.previous && isEdge t.rest.head?))
  match ends with
  | [] => none
  | t :: ts => some (ts.foldl (fun best t => if best.index < t.index then t else best) t)

/-- The first match from a spot on. -/
def search? (q : GrepRequest) (text : List Char) : (left : Nat) → Spot → Option (Spot × Spot)
  | 0, _ => none
  | left + 1, s =>
    match q.matchAt? text s with
    | some t => some (s, t)
    | none =>
      match s.next? with
      | some (_, s) => search? q text left s
      | none => none

def matchesLine (q : GrepRequest) (line : List Char) : Bool :=
  (q.search? line (line.length + 1) (Regex.origin line)).isSome != q.inverted

/-- The matches in a line that hold something, at most `left` of them. -/
def parts (q : GrepRequest) (line : List Char) : (left : Nat) → Spot → List (Nat × List Char)
  | 0, _ => []
  | left + 1, s =>
    match q.search? line (line.length + 1) s with
    | none => []
    | some (first, last) =>
      if last.index = first.index then
        match last.next? with
        | some (_, t) => parts q line left t
        | none => []
      else (first.index, Regex.cut line first.index last.index) :: parts q line left last

end GrepRequest

/-- A line that was read: its number, where it begins, and whether it is one that was looked for. -/
structure Found where
  number : Nat
  offset : Nat
  text : List Char
  hit : Bool

/-- The lines of a text up to the last hit that counts, and how many characters they are. -/
def GrepRequest.scan (q : GrepRequest) (text : List Char) : List Found × Nat :=
  let step (st : List Found × Nat × Nat × Nat) (line : List Char) : List Found × Nat × Nat × Nat :=
    let (found, number, offset, hits) := st
    let open? := (q.most.map fun m => decide (hits < m)).getD true
    let hit := open? && q.matchesLine line
    (⟨number, offset, line, hit⟩ :: found, number + 1, offset + line.length + 1,
      if hit then hits + 1 else hits)
  let (found, _, _, _) := (textLines text).foldl step ([], 1, 0, 0)
  let found := found.reverse
  let used := match found.reverse.find? (·.hit) with
    | some f => f.offset + f.text.length + 1
    | none => 0
  (found, used)

/-- The lines to show: hits and those around them, each with a mark for a gap before it. -/
def GrepRequest.choose (q : GrepRequest) (found : List Found) : List (Bool × Found) :=
  let hits := (found.filter (·.hit)).map (·.number)
  let near (f : Found) : Bool := hits.any fun n => n ≤ f.number + q.before && f.number ≤ n + q.behind
  let last := (hits.getLast?).getD 0
  let shown := found.filter fun f => if q.before = 0 ∧ q.behind = 0 then f.hit else
    near f && (q.most.isNone || f.number ≤ last + q.behind)
  let (done, _) := shown.foldl (fun ((done, previous) : List (Bool × Found) × Option Nat) f =>
    ((previous.any fun n => n + 1 < f.number, f) :: done, some f.number)) ([], none)
  done.reverse

/-- Searches one text; the answer is the number of hits. -/
def GrepRequest.searchText (q : GrepRequest) (c : Call) (name : String) (titled separated : Bool)
    (text : List Char) : Work Nat := do
  let a := q.arguments
  let (found, _) := q.scan text
  let hits := (found.filter (·.hit)).length
  let quiet := a.has 'q'
  let binary := text.contains '\x00' && !a.has 'a' && !a.has 'c' && !a.has 'l' && !a.has 'L' && !quiet
  let title (mark : Char) : List Char := if titled then name.toList ++ [mark] else []
  if quiet then return hits
  if a.has 'l' then
    if 0 < hits then Work.sayLine name
  else if a.has 'L' then
    if hits = 0 then Work.sayLine name
  else if a.has 'c' then Work.say (title ':' ++ (toString hits).toList ++ ['\n'])
  else if binary then
    if 0 < hits then c.warn (name ++ ": binary file matches")
  else
    let mut first := true
    for (gap, f) in q.choose found do
      let mark := if f.hit then ':' else '-'
      let head (offset : Nat) : List Char := title mark ++
        (if a.has 'n' then (toString f.number).toList ++ [mark] else []) ++
        (if a.has 'b' then (toString offset).toList ++ [mark] else [])
      if (gap || (first && separated)) && (0 < q.before || 0 < q.behind) then Work.sayLine "--"
      first := false
      if a.has 'o' then
        if f.hit && !q.inverted then
          for (start, part) in q.parts f.text (f.text.length + 1) (Regex.origin f.text) do
            Work.say (head (f.offset + start) ++ part ++ ['\n'])
      else Work.say (head f.offset ++ f.text ++ ['\n'])
  return hits

/-- The files below a directory, with the paths that lead there. -/
def filesBelow (fs : Files) : (depth : Nat) → (place : List String) → (path : String) →
    List (String × List String)
  | 0, _, _ => []
  | depth + 1, place, path =>
    (fs.names place).flatMap fun name =>
      let shown := if path = "" then Text.bytewise name
        else if path.toList.getLast? = some '/' then path ++ Text.bytewise name
        else path ++ "/" ++ Text.bytewise name
      let below := place ++ [name]
      if fs.isDirectory below then filesBelow fs depth below shown
      else if fs.isFile below then [(shown, below)]
      else []

/-- Whether options let a file below a directory be searched. -/
def isIncluded (a : Arguments) (path : String) : Bool :=
  let name := (path.toList.reverse.takeWhile (· ≠ '/')).reverse
  let fits (globs : List String) : Bool := globs.any fun g => (Glob.ofText g.toList).isFor name
  let parents := (Path.names path.toList).dropLast
  (a.values 'I' = [] || fits (a.values 'I')) && !fits (a.values 'X') &&
    !(a.values 'D').any fun g => parents.any (Glob.ofText g.toList).isFor

def grepForm : OptionForm :=
  { plain := "EFGPivwxcLlqsnHhobyarRzTUu"
    valued := "efmABCdIXDk"
    words := [("extended-regexp", 'E'), ("fixed-strings", 'F'), ("basic-regexp", 'G'),
      ("perl-regexp", 'P'), ("ignore-case", 'i'), ("invert-match", 'v'), ("word-regexp", 'w'),
      ("line-regexp", 'x'), ("count", 'c'), ("files-without-match", 'L'), ("files-with-matches", 'l'),
      ("quiet", 'q'), ("silent", 'q'), ("no-messages", 's'), ("line-number", 'n'), ("with-filename", 'H'),
      ("no-filename", 'h'), ("only-matching", 'o'), ("byte-offset", 'b'), ("text", 'a'),
      ("recursive", 'r'), ("dereference-recursive", 'R'), ("regexp", 'e'), ("file", 'f'),
      ("max-count", 'm'), ("after-context", 'A'), ("before-context", 'B'), ("context", 'C'),
      ("include", 'I'), ("exclude", 'X'), ("exclude-dir", 'D'), ("color", 'T'), ("colour", 'T')]
    strict := false }

/-- A pattern with classes that only one family of patterns has written out. -/
def plainClasses : List Char → List Char
  | '\\' :: 'd' :: cs => "[0-9]".toList ++ plainClasses cs
  | '\\' :: 'D' :: cs => "[^0-9]".toList ++ plainClasses cs
  | '\\' :: c :: cs => '\\' :: c :: plainClasses cs
  | c :: cs => c :: plainClasses cs
  | [] => []

/-- The letter of the family of patterns that options ask for. -/
def grepKind? (a : Arguments) : Option Char :=
  ((a.options.filter fun (o, _) => o == 'E' || o == 'F' || o == 'G' || o == 'P').getLast?).map Prod.fst

/-- The pattern of one line. -/
def grepPattern (a : Arguments) (pattern : List Char) : Except RegexError Regex :=
  let kind := grepKind? a
  let folded := a.has 'i' || a.has 'y'
  let style : RegexStyle := ⟨kind = some 'E' || kind = some 'P', folded, true⟩
  if kind = some 'F' then .ok (Regex.literal style.fold pattern)
  else Regex.read style (if kind = some 'P' then plainClasses pattern else pattern)

/-- Signs of repetition in an extended pattern that have nothing before them; `first` tells that nothing
stands before. -/
def leadingRepeats : (first : Bool) → List Char → List String
  | _, [] => []
  | _, '\\' :: _ :: cs => leadingRepeats false cs
  | first, c :: cs =>
    if first ∧ (c = '*' ∨ c = '+' ∨ c = '?') then String.singleton c :: leadingRepeats true cs
    else leadingRepeats (c = '(' ∨ c = '|' ∨ (c = '^' ∧ first)) cs

/-- Arguments where a number with a hyphen is an option for lines around matches. -/
def expandContext (args : List String) : List String :=
  args.flatMap fun arg =>
    match arg.toList with
    | '-' :: d :: ds => if d.isDigit ∧ ds.all Char.isDigit then ["-C", String.ofList (d :: ds)] else [arg]
    | _ => [arg]

def grepWith (kind : List String) : Utility := fun c => do
  let usage : Work Nat := do
    Work.warn "Usage: grep [OPTION]... PATTERNS [FILE]..."
    Work.warn "Try 'grep --help' for more information."
    return 2
  match grepForm.readWithin (c.args.length + 2) (kind ++ expandContext c.args) with
  | .error fault =>
    c.warn (match fault with
      | .unknown letter => "invalid option -- '" ++ String.singleton letter ++ "'"
      | .unknownWord word => "unrecognized option '" ++ word ++ "'"
      | .missing letter => "option requires an argument -- '" ++ String.singleton letter ++ "'")
    usage
  | .ok a =>
    let mut patterns := (a.values 'e').map String.toList
    let mut unread := false
    for path in a.values 'f' do
      match ← c.read path with
      | .ok s => if s.finite ≠ [] then patterns := patterns ++ [(ofLines (textLines s.finite)).dropLast]
      | .error e =>
        c.blame path e
        unread := true
    if unread then return 2
    let given := a.has 'e' || a.has 'f'
    if !given && a.operands = [] then return ← usage
    let number (letter : Char) : Except String (Option Nat) := match a.value? letter with
      | none => .ok none
      | some s => match natural? s with
        | some n => .ok (some n)
        | none => .error s
    match number 'A', number 'B', number 'C', number 'm' with
    | .error s, _, _, _ | _, .error s, _, _ | _, _, .error s, _ =>
      c.fail (s ++ ": invalid context length argument") 2
    | _, _, _, .error _ => c.fail "invalid max count" 2
    | .ok behind, .ok before, .ok around, .ok most =>
      let texts := if given then patterns else [(a.operands.headD "").toList]
      let lines := texts.flatMap (splitOn '\n')
      if (grepKind? a) = some 'E' then
        for sign in lines.flatMap (leadingRepeats true) do
          c.warn ("warning: " ++ sign ++ " at start of expression")
      match lines.mapM (grepPattern a) with
      | .error e => c.fail e.message 2
      | .ok regexes =>
        let regex := match regexes with
          | [] => Regex.one fun _ => false
          | r :: rs => rs.foldl Regex.either r
        let q : GrepRequest :=
          { regex := regex, arguments := a, inverted := a.has 'v', word := a.has 'w', line := a.has 'x'
            before := (before.orElse fun _ => around).getD 0
            behind := (behind.orElse fun _ => around).getD 0
            most := most }
        let operands := if given then a.operands else a.operands.drop 1
        let deep := a.has 'r' || a.has 'R'
        let fs ← Work.files
        let paths : List (String × Option (List String)) :=
          if deep then
            (if operands = [] then [""] else operands).flatMap fun path =>
              match c.locate fs (if path = "" then "." else path) with
              | .ok place =>
                if fs.isDirectory place then
                  (filesBelow fs 64 place path).filterMap fun (shown, below) =>
                    if isIncluded a shown then some (shown, some below) else none
                else [(path, none)]
              | .error _ => [(path, none)]
          else (Call.inputs operands).map fun path => (path, none)
        let titled := !a.has 'h' && (a.has 'H' || deep || operands.length > 1)
        let mut total := 0
        let mut listed := 0
        let mut status := 2
        let mut failed := false
        for (path, place) in paths do
          if a.has 'q' && 0 < total then break
          let result : Except FileError Stream ← match place with
            | some place => pure ((fs.read place).map fun bytes => .of (Text.ofBytes bytes))
            | none => c.read path
          match result with
          | .ok s =>
            let name := if path = "-" then "(standard input)" else path
            let hits ← q.searchText c name titled (0 < listed) s.finite
            if path = "-" && most.isSome && !a.has 'q' then
              let (_, used) := q.scan s.finite
              if 0 < hits then Work.giveBack ⟨s.text.drop used, []⟩
            total := total + (if a.has 'L' then (if hits = 0 then 1 else 0) else hits)
            if 0 < hits then listed := listed + 1
          | .error e =>
            if !a.has 's' then c.blame path e
            failed := true
        status := if 0 < total then 0 else 1
        return if failed && !(a.has 'q' && 0 < total) then 2 else status

def grep : Utility := grepWith []

end PatchSearch.Shell
