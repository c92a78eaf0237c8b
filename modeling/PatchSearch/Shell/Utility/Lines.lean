import PatchSearch.Shell.Call
import PatchSearch.Shell.Number

namespace PatchSearch.Shell

section Cat

/-- A character as it is shown where all of them are to be seen. -/
def visible (tabs : Bool) (c : Char) : List Char :=
  let plain (n : Nat) : List Char :=
    if n < 32 then ['^', Char.ofNat (n + 64)] else if n = 127 then ['^', '?'] else [Char.ofNat n]
  if c = '\n' ∨ (c = '\t' ∧ !tabs) then [c]
  else if c.toNat < 128 then plain c.toNat
  else ['M', '-'] ++ plain (c.toNat - 128)

/-- A number at the right of its field. -/
def padLeft (width : Nat) (cs : List Char) : List Char :=
  List.replicate (width - cs.length) ' ' ++ cs

/-- A text as options ask for it; `start` is the number of its first line. -/
def decorate (a : Arguments) (start : Nat) (cs : List Char) : List Char × Nat :=
  let all := a.has 'A' || a.has 'e' || a.has 't' || a.has 'v'
  let ends := a.has 'E' || a.has 'A' || a.has 'e'
  let tabs := a.has 'T' || a.has 'A' || a.has 't'
  let closed := cs.getLast? = some '\n'
  let lines := textLines cs
  let step (st : List (List Char) × Nat × Bool) (line : List Char) : List (List Char) × Nat × Bool :=
    let (done, n, wasEmpty) := st
    let isEmpty := line = []
    if a.has 's' ∧ isEmpty ∧ wasEmpty then st
    else
      let numbered := if a.has 'b' then !isEmpty else a.has 'n'
      let text := line.flatMap fun c =>
        if all then visible tabs c else if c = '\t' ∧ tabs then ['^', 'I'] else [c]
      let head := if numbered then padLeft 6 (toString n).toList ++ ['\t'] else []
      ((head ++ text ++ if ends then ['$'] else []) :: done, if numbered then n + 1 else n, isEmpty)
  let (done, n, _) := lines.foldl step ([], start, false)
  let shown := ofLines done.reverse
  (if closed then shown else if ends then shown.dropLast.dropLast else shown.dropLast, n)

/-- Whether a path leads to the file that output goes to, which has something in it. -/
def isOutput (c : Call) (path : String) : Work Bool := do
  let d ← get
  match d.descriptors.lookup 1 with
  | some (.handle i) =>
    match d.world.files.handles[i]?, c.locate d.world.files path with
    | some h, .ok place =>
      let content := match d.world.files.entry? place with
        | some (.file content _) => content
        | _ => []
      return d.world.files.node? place == some h.node && content != []
    | _, _ => return false
  | _ => return false

def cat : Utility := fun c =>
  let form : OptionForm := ⟨"AbeEnstTuv", "", [("show-all", 'A'), ("number-nonblank", 'b'),
    ("show-ends", 'E'), ("number", 'n'), ("squeeze-blank", 's'), ("show-tabs", 'T'),
    ("show-nonprinting", 'v')], false⟩
  form.apply c 1 fun a => do
    if ((← get).descriptors.lookup 1).isNone then
      return ← c.fail "standard output: Bad file descriptor" 1
    let mut n := 1
    let mut status := 0
    let mut closed := false
    for path in Call.inputs a.operands do
      if path ≠ "-" && (← isOutput c path) then
        c.warn (shownName path ++ ": input file is output file")
        status := 1
      else
        match ← c.read path with
        | .error e =>
          c.blame path e
          status := 1
          if path = "-" ∧ e = .badDescriptor then closed := true
        | .ok s =>
          if a.options.all (·.1 = 'u') then Work.put s
          else
            let (text, next) := decorate a n s.finite
            n := next
            Work.say text
    if closed then c.warn ("closing standard input: " ++ reason .badDescriptor)
    return status

end Cat

section Ends

def count? (s : String) : Option Nat :=
  let ds := s.toList.takeWhile Char.isDigit
  let n := (digitsOf 10 ds).1
  if ds = [] then none
  else
    match String.ofList (s.toList.drop ds.length) with
    | "" => some n
    | "b" => some (n * 512)
    | "K" | "k" | "KiB" => some (n * 1024)
    | "kB" | "KB" => some (n * 1000)
    | "M" | "MiB" => some (n * 1048576)
    | "MB" => some (n * 1000000)
    | _ => none

/-- Which part of a text is asked for: its measure, whether it is counted from the other end, and how
much it is. -/
structure Part where
  bytes : Bool
  turned : Bool
  amount : Nat

/-- The part that options ask for, where a sign in front turns it round, or what is no count. -/
def part? (turn : Char) (a : Arguments) : Except String Part :=
  match (a.options.filter fun (o, _) => o == 'n' || o == 'c').getLast? with
  | none => .ok ⟨false, false, 10⟩
  | some (o, value) =>
    let (turned, digits) := match value.toList with
      | sign :: ds => if sign = turn then (true, ds) else if sign = '-' ∨ sign = '+' then (false, ds)
        else (false, sign :: ds)
      | [] => (false, [])
    match count? (String.ofList digits) with
    | some n => .ok ⟨o = 'c', turned, n⟩
    | none => .error ("invalid number of " ++ (if o = 'c' then "bytes" else "lines") ++ ": '" ++ value ++ "'")

/-- An argument such as `-5` written out. -/
def expandCount (signs : List Char) : List String → List String
  | arg :: args =>
    match arg.toList with
    | sign :: cs =>
      let ds := cs.takeWhile Char.isDigit
      let rest := cs.drop ds.length
      if signs.contains sign ∧ ds ≠ [] ∧ rest.all (fun c => "lcqv".toList.contains c) then
        let letter := if rest.contains 'c' then "-c" else "-n"
        let value := if sign = '+' then '+' :: ds else ds
        letter :: String.ofList value :: args
      else arg :: args
    | [] => arg :: args
  | [] => []

/-- How many characters the first `n` lines have. -/
def linesLength (n : Nat) (cs : List Char) : Nat :=
  (cs.foldl (fun (n, taken) c => if n = 0 then (n, taken)
    else (if c = '\n' then n - 1 else n, taken + 1)) (n, 0)).2

/-- Enough of a text that may have no end to hold its first `n` lines. -/
def enoughLines (n : Nat) (s : Stream) : List Char :=
  let per := s.endless.count '\n'
  let missing := n - s.text.count '\n'
  if per = 0 ∨ missing = 0 then s.finite
  else s.text ++ (List.replicate ((missing + per - 1) / per) s.endless).flatten

def Part.start (p : Part) (s : Stream) : List Char × Stream :=
  let cs := if p.bytes then (if p.turned then s.finite else s.take p.amount)
    else if p.turned then s.finite else enoughLines p.amount s
  let n :=
    if p.bytes then if p.turned then cs.length - p.amount else p.amount
    else if p.turned then linesLength ((textLines cs).length - p.amount) cs
    else linesLength p.amount cs
  (cs.take n, s.drop n)

def Part.finish (p : Part) (s : Stream) : List Char :=
  let cs := s.finite
  if p.bytes then if p.turned then cs.drop (p.amount - 1) else cs.drop (cs.length - p.amount)
  else
    let lines := (textLines cs).length
    if p.turned then cs.drop (linesLength (p.amount - 1) cs)
    else cs.drop (linesLength (lines - p.amount) cs)

/-- Shows a part of each file, with headings if there are several. -/
def showParts (c : Call) (a : Arguments) (use : Stream → Work Unit) : Work Nat := do
  let titled := a.has 'v' || (a.operands.length > 1 && !a.has 'q')
  let mut status := 0
  let mut first := true
  for path in Call.inputs a.operands do
    let result ← c.read path
    let heading := (if first then "" else "\n") ++ "==> " ++
      (if path = "-" then "standard input" else path) ++ " <==\n"
    match result with
    | .ok s =>
      if titled then Work.say heading.toList
      first := false
      use s
    | .error .isADirectory =>
      if titled then Work.say heading.toList
      first := false
      c.warn ("error reading '" ++ (if path = "-" then "standard input" else path) ++
        "': Is a directory")
      status := 1
    | .error e =>
      c.warn ("cannot open '" ++ (if path = "-" then "standard input" else path) ++
        "' for reading: " ++ reason e)
      status := 1
  return status

def partForm : OptionForm :=
  ⟨"qvfFz", "nc", [("lines", 'n'), ("bytes", 'c'), ("quiet", 'q'), ("silent", 'q'), ("verbose", 'v')],
    false⟩

def head : Utility := fun c =>
  partForm.apply { c with args := expandCount ['-'] c.args } 1 fun a => do
    match part? '-' a with
    | .error message => c.fail message 1
    | .ok p =>
      showParts c a fun s => do
        let (cs, rest) := p.start s
        Work.say cs
        if a.operands = [] then Work.giveBack rest

def tail : Utility := fun c =>
  partForm.apply { c with args := expandCount ['-', '+'] c.args } 1 fun a => do
    match part? '+' a with
    | .error message => c.fail message 1
    | .ok p => showParts c a fun s => Work.say (p.finish s)

end Ends

/-- Lines in the opposite order; the last one may have no end. -/
def tac : Utility := fun c =>
  (OptionForm.mk "br" "s" [("separator", 's'), ("before", 'b')] false).apply c 1 fun a => do
    let mut status := 0
    for path in Call.inputs a.operands do
      match ← c.read path with
      | .ok s =>
        let cs := s.finite
        let lines := (textLines cs).reverse
        match lines with
        | last :: rest =>
          if cs.getLast? = some '\n' then Work.say (ofLines lines) else Work.say (last ++ ofLines rest)
        | [] => pure ()
      | .error .isADirectory =>
        c.warn (shownName path ++ ": read error: Is a directory")
        status := 1
      | .error e =>
        c.warn ("failed to open '" ++ path ++ "' for reading: " ++ reason e)
        status := 1
    return status

def rev : Utility := fun c => do
  let mut status := 0
  for path in Call.inputs c.args do
    match ← c.read path with
    | .ok s =>
      let cs := s.finite
      let shown := ofLines ((textLines cs).map List.reverse)
      Work.say (if cs.getLast? = some '\n' then shown else shown.dropLast)
    | .error e =>
      c.warn ("cannot open " ++ path ++ ": " ++ reason e)
      status := 1
  return status

section Numbers

def nl : Utility := fun c =>
  let form : OptionForm := ⟨"p", "bdfhilnsvw", [("body-numbering", 'b'), ("number-width", 'w'),
    ("number-separator", 's'), ("number-format", 'n'), ("starting-line-number", 'v'),
    ("line-increment", 'i')], false⟩
  form.apply c 1 fun a => do
    let number (letter : Char) (default : Nat) : Nat :=
      ((a.value? letter).bind natural?).getD default
    let width := number 'w' 6
    let between := ((a.value? 's').getD "\t").toList
    let style := (a.value? 'b').getD "t"
    let format := (a.value? 'n').getD "rn"
    let (cs, complete) ← c.readAll a.operands
    let step (st : List (List Char) × Nat) (line : List Char) : List (List Char) × Nat :=
      let (done, n) := st
      if style = "a" ∨ (style = "t" ∧ line ≠ []) then
        let ds := (toString n).toList
        let field :=
          if format = "ln" then ds ++ List.replicate (width - ds.length) ' '
          else if format = "rz" then List.replicate (width - ds.length) '0' ++ ds
          else padLeft width ds
        ((field ++ between ++ line) :: done, n + number 'i' 1)
      else ((List.replicate (width + between.length) ' ' ++ line) :: done, n)
    let (done, _) := (textLines cs).foldl step ([], number 'v' 1)
    Work.say (ofLines done.reverse)
    return if complete then 0 else 1

/-- Numbers of lines, words, characters and bytes, and the length of the longest line. -/
structure Counts where
  lines : Nat
  words : Nat
  bytes : Nat
  longest : Nat

def Counts.of (cs : List Char) : Counts :=
  let isGap (c : Char) : Bool := c == ' ' || (9 ≤ c.toNat && c.toNat ≤ 13)
  let (words, _) := cs.foldl (fun (n, inside) c =>
    if isGap c then (n, false) else (if inside then n else n + 1, true)) (0, false)
  let width (line : List Char) : Nat := line.foldl (fun n c =>
    if c = '\t' then (n / 8 + 1) * 8 else if 32 ≤ c.toNat ∧ c.toNat < 127 then n + 1 else n) 0
  ⟨cs.count '\n', words, cs.length, (textLines cs).foldl (fun n line => max n (width line)) 0⟩

/-- The counts that are asked for, in their order. -/
def Counts.fields (k : Counts) (a : Arguments) : List Nat :=
  if ['l', 'w', 'c', 'm', 'L'].any a.has then
    (if a.has 'l' then [k.lines] else []) ++ (if a.has 'w' then [k.words] else []) ++
      (if a.has 'm' then [k.bytes] else []) ++ (if a.has 'c' then [k.bytes] else []) ++
      (if a.has 'L' then [k.longest] else [])
  else [k.lines, k.words, k.bytes]

/-- The width of the fields, which goes by the sizes of the files. -/
def countWidth (c : Call) (a : Arguments) : Work Nat := do
  let d ← get
  let size (path : String) : Option (Option Nat) :=
    if path = "-" then
      match d.descriptors.lookup 0 with
      | some (.handle i) =>
        match d.world.files.handles[i]?.bind fun h => d.world.files.nodes[h.node]? with
        | some (.file content _) => some (some content.length)
        | _ => some none
      | some (.pipe _) => some none
      | none => none
    else
      match c.entry d.world.files path with
      | .ok (.file content _) => some (some content.length)
      | .ok _ => some none
      | .error _ => none
  let sizes := (Call.inputs a.operands).map size
  if sizes.length = 1 ∧ ((Counts.of []).fields a).length = 1 then return 1
  else if sizes.head? = some none then return 1
  else
    let total := sizes.foldl (fun n s => n + ((s.getD none).getD 0)) 0
    let least := if sizes.any (· == some none) then 7 else 1
    return max least (toString total).length

def wc : Utility := fun c =>
  let form : OptionForm := ⟨"lwcmL", "", [("lines", 'l'), ("words", 'w'), ("bytes", 'c'),
    ("chars", 'm'), ("max-line-length", 'L')], false⟩
  form.apply c 1 fun a => do
    let width ← countWidth c a
    let line (k : Counts) (name : String) : List Char :=
      [' '].intercalate ((k.fields a).map fun n => padLeft width (toString n).toList) ++
        (if name = "" then [] else ' ' :: name.toList) ++ ['\n']
    let mut total : Counts := ⟨0, 0, 0, 0⟩
    let mut status := 0
    for path in Call.inputs a.operands do
      let (k, found) ← match ← c.read path with
        | .ok s => pure (Counts.of s.finite, true)
        | .error e => do
          c.blame path e
          pure (⟨0, 0, 0, 0⟩, e = .isADirectory)
      if found then
        Work.say (line k (if a.operands = [] then "" else path))
        total := ⟨total.lines + k.lines, total.words + k.words, total.bytes + k.bytes,
          max total.longest k.longest⟩
      match ← (do let fs ← Work.files; pure (c.entry fs path)) with
      | .ok .directory | .error _ => if path ≠ "-" then status := 1
      | _ => pure ()
    if a.operands.length > 1 then Work.say (line total "total")
    return status

end Numbers

def tee : Utility := fun c =>
  (OptionForm.mk "aip" "" [("append", 'a')] false).apply c 1 fun a => do
    let cs := (← Work.takeInput).finite
    let mut status := 0
    for path in a.operands do
      let fs ← Work.files
      let old : List Char := match c.entry fs path with
        | .ok (.file content _) => if a.has 'a' then Text.ofBytes content else []
        | _ => []
      match ← c.writeFile path (old ++ cs) with
      | .ok () => pure ()
      | .error e =>
        c.blame path e
        status := 1
    Work.say cs
    return status

section Width

/-- Breaks a line so that no part is wider than `width`, at most `left` times; with `blanks` the breaks
are behind blanks if that is possible. -/
def foldLine (width : Nat) (blanks : Bool) : (left : Nat) → List Char → List (List Char)
  | 0, cs => [cs]
  | left + 1, cs =>
    if cs.length ≤ width then [cs]
    else
      let part := cs.take width
      let kept := (part.reverse.dropWhile fun c => c != ' ' && c != '\t').reverse
      let part := if blanks ∧ kept ≠ [] then kept else part
      part :: foldLine width blanks left (cs.drop part.length)

def fold : Utility := fun c =>
  (OptionForm.mk "bs" "w" [("width", 'w'), ("spaces", 's'), ("bytes", 'b')] false).apply c 1 fun a => do
    match natural? ((a.value? 'w').getD "80") with
    | none | some 0 => c.fail ("invalid number of columns: '" ++ (a.value? 'w').getD "" ++ "'") 1
    | some width =>
      let mut status := 0
      for path in Call.inputs a.operands do
        match ← c.read path with
        | .ok s =>
          let cs := s.finite
          let shown := ofLines ((textLines cs).flatMap fun line => foldLine width (a.has 's') line.length line)
          Work.say (if cs.getLast? = some '\n' then shown else shown.dropLast)
        | .error e =>
          c.blame path e
          status := 1
      return status

/-- Blanks in the place of tabs; the number is the column. -/
def expandLine (width : Nat) (onlyStart : Bool) (line : List Char) : List Char :=
  (line.foldl (fun ((done, column, started) : List (List Char) × Nat × Bool) c =>
    let started := started || (c != ' ' && c != '\t')
    if c = '\t' ∧ !(onlyStart ∧ started) then
      let n := width - column % width
      (List.replicate n ' ' :: done, column + n, started)
    else ([c] :: done, column + 1, started)) ([], 0, false)).1.reverse.flatten

def expand : Utility := fun c =>
  (OptionForm.mk "i" "t" [("tabs", 't'), ("initial", 'i')] false).apply c 1 fun a => do
    let width := max 1 (((a.value? 't').bind natural?).getD 8)
    let (cs, complete) ← c.readAll a.operands
    let shown := ofLines ((textLines cs).map (expandLine width (a.has 'i')))
    Work.say (if cs.getLast? = some '\n' then shown else shown.dropLast)
    return if complete then 0 else 1

/-- Tabs in the place of blanks that reach a column where tabs end. -/
def unexpandLine (width : Nat) (everywhere : Bool) (line : List Char) : List Char :=
  let flush (blanks column : Nat) : List Char :=
    -- Blanks that end at `column`, with as many tabs as fit.
    let first := column - blanks
    let tabs := column / width - first / width
    if tabs = 0 ∨ (blanks = 1 ∧ column % width = 0 ∧ tabs = 1) then List.replicate blanks ' '
    else List.replicate tabs '\t' ++ List.replicate (column - column / width * width) ' '
  let (done, blanks, column, _) := line.foldl
    (fun ((done, blanks, column, going) : List (List Char) × Nat × Nat × Bool) c =>
      if going ∧ c = ' ' then (done, blanks + 1, column + 1, going)
      else if going ∧ c = '\t' then
        let next := (column / width + 1) * width
        (done, blanks + (next - column), next, going)
      else ((flush blanks column ++ [c]) :: done, 0, column + 1, everywhere))
    ([], 0, 0, true)
  (flush blanks column :: done).reverse.flatten

def unexpand : Utility := fun c =>
  (OptionForm.mk "a" "t" [("all", 'a'), ("tabs", 't')] false).apply c 1 fun a => do
    let width := max 1 (((a.value? 't').bind natural?).getD 8)
    let (cs, complete) ← c.readAll a.operands
    let shown := ofLines ((textLines cs).map (unexpandLine width (a.has 'a' || a.has 't')))
    Work.say (if cs.getLast? = some '\n' then shown else shown.dropLast)
    return if complete then 0 else 1

end Width

end PatchSearch.Shell
