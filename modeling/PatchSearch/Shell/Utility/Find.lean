import PatchSearch.Shell.Utility.Compare
import PatchSearch.Shell.Utility.Xargs

namespace PatchSearch.Shell.Find

/-- How a number compares with the one that was asked for. -/
structure Bound where
  order : Ordering
  value : Nat

def Bound.admits (b : Bound) (n : Nat) : Bool :=
  compare n b.value == b.order

inductive Test where
  | always (holds : Bool)
  | name (g : Glob) (folded : Bool)
  | path (g : Glob) (folded : Bool)
  | linkPath (g : Glob)
  | regex (r : Regex)
  | kind (letters : List Char)
  | empty
  | size (unit : Nat) (b : Bound)
  | links (b : Bound)
  | age (b : Bound)
  | mode (sign : Option Char) (bits : Nat)
  | runnable
  | newerThan (node : Nat)
  | print (ending : Char)
  | printf (format : List Char)
  | run (words : List String) (asked : Bool)
  /-- Runs a program once for all files, which go behind some words. -/
  | runAll (index : Nat) (words : List String)
  | delete
  | prune
  | quit

inductive Expression where
  | test (t : Test)
  | not (e : Expression)
  | and (a b : Expression)
  | or (a b : Expression)
  | list (a b : Expression)

structure Item where
  path : String
  place : List String
  entry : FileEntry
  depth : Nat
  start : String

structure Walk where
  pruned : Bool
  stopped : Bool
  status : Nat
  /-- Files for programs that run once for all. -/
  collected : List (Nat × List String)

section Reading

/-- Why words are no expression. -/
inductive Fault where
  | unknown (word : String)
  | missing (word : String)
  | misplaced (word : String) (before : Option String)
  | missingOperand (word : String)
  | nothingBefore (word : String)
  | unclosed
  | unopened
  | badKind (letter : String)
  | badValue (word value : String)
  | badSize (value : String)
  | badMode (value : String)
  | badDepth (word value : String)
  | badRegex (e : RegexError)
  | noFile (path : String) (e : FileError)

def quoted (s : String) : String :=
  "\x60" ++ s ++ "'"

def Fault.message : Fault → String
  | .unknown word => "unknown predicate " ++ quoted word
  | .missing word => "missing argument to " ++ quoted word
  | .misplaced word _ => "paths must precede expression: " ++ quoted word
  | .missingOperand word => "expected an expression after " ++ inQuotes word
  | .nothingBefore word =>
    "invalid expression; you have used a binary operator " ++ inQuotes word ++ " with nothing before it."
  | .unclosed => "invalid expression; I was expecting to find a ')' somewhere but did not see one."
  | .unopened => "you have too many ')'"
  | .badKind letter => "Unknown argument to -type: " ++ letter
  | .badValue word value => "invalid argument " ++ quoted value ++ " to " ++ quoted word
  | .badSize value => "invalid -size type " ++ quoted value
  | .badMode value => "invalid mode " ++ inQuotes value
  | .badDepth word value =>
    "Expected a positive decimal integer argument to " ++ word ++ ", but got " ++ inQuotes value
  | .badRegex e => e.message
  | .noFile path e => inQuotes path ++ ": " ++ reason e

/-- Limits that hold for the whole search, and whether something is done with files. -/
structure Options where
  least : Nat
  most : Option Nat
  childrenFirst : Bool
  acts : Bool
  /-- How many programs run once for all. -/
  collectors : Nat

def bound? (value : String) : Option Bound :=
  match value.toList with
  | '+' :: ds => (natural? (String.ofList ds)).map (Bound.mk .gt)
  | '-' :: ds => (natural? (String.ofList ds)).map (Bound.mk .lt)
  | ds => (natural? (String.ofList ds)).map (Bound.mk .eq)

def size? (value : String) : Option Test :=
  let cs := value.toList
  let units := [('b', 512), ('c', 1), ('w', 2), ('k', 1024), ('M', 1048576), ('G', 1073741824)]
  match cs.getLast?.bind fun c => units.lookup c with
  | some unit => (bound? (String.ofList cs.dropLast)).map (Test.size unit)
  | none => (bound? value).map (Test.size 512)

/-- The words of a program up to where they end; the flag tells that they are for all files at once. -/
def command : List String → List String → Option (List String × Bool × List String)
  | done, ";" :: rest => some (done.reverse, false, rest)
  | done, "+" :: rest =>
    if done.head? = some "\x7b\x7d" then some (done.tail.reverse, true, rest) else command ("+" :: done) rest
  | done, word :: rest => command (word :: done) rest
  | _, [] => none

/-- A pattern with no regard to capitals. -/
def glob (folded : Bool) (value : String) : Glob :=
  Glob.ofText (if folded then value.toList.map Char.toLower else value.toList)

/-- Reads one test or action, with the words that belong to it. -/
def readTest (c : Call) (fs : Files) (o : Options) (word : String) (rest : List String) :
    Except Fault (Test × Options × List String) :=
  let valued (f : String → Except Fault Test) : Except Fault (Test × Options × List String) :=
    match rest with
    | [] => .error (.missing word)
    | value :: rest => do return (← f value, o, rest)
  let plain (t : Test) : Except Fault (Test × Options × List String) := .ok (t, o, rest)
  let acting (t : Test) : Except Fault (Test × Options × List String) := .ok (t, { o with acts := true }, rest)
  let depth (set : Nat → Options) : Except Fault (Test × Options × List String) :=
    match rest with
    | [] => .error (.missing word)
    | value :: rest =>
      match natural? value with
      | some n => .ok (.always true, set n, rest)
      | none => .error (.badDepth word value)
  let timed : Except Fault (Test × Options × List String) := valued fun v =>
    match bound? v with
    | some b => .ok (.age b)
    | none => .error (.badValue word v)
  match word with
  | "-true" | "-daystart" | "-noleaf" | "-mount" | "-xdev" | "-warn" | "-nowarn" | "-readable" | "-writable" =>
    plain (.always true)
  | "-false" | "-nouser" | "-nogroup" => plain (.always false)
  | "-follow" => plain (.always true)
  | "-name" => valued fun v => .ok (.name (glob false v) false)
  | "-iname" => valued fun v => .ok (.name (glob true v) true)
  | "-path" | "-wholename" => valued fun v => .ok (.path (glob false v) false)
  | "-ipath" | "-iwholename" => valued fun v => .ok (.path (glob true v) true)
  | "-lname" => valued fun v => .ok (.linkPath (glob false v))
  | "-regextype" => valued fun _ => .ok (.always true)
  | "-regex" | "-iregex" => valued fun v =>
    match Regex.read ⟨false, word = "-iregex", true⟩ v.toList with
    | .ok r => .ok (.regex r)
    | .error e => .error (.badRegex e)
  | "-type" | "-xtype" => valued fun v =>
    let letters := v.toList.filter (· ≠ ',')
    match letters.find? fun l => !"bcdpflsD".toList.contains l with
    | some l => .error (.badKind (String.singleton l))
    | none => .ok (.kind letters)
  | "-empty" => plain .empty
  | "-executable" => plain .runnable
  | "-size" => valued fun v =>
    match size? v with
    | some t => .ok t
    | none => .error (.badSize v)
  | "-links" => valued fun v =>
    match bound? v with
    | some b => .ok (.links b)
    | none => .error (.badValue word v)
  | "-mtime" | "-atime" | "-ctime" | "-mmin" | "-amin" | "-cmin" => timed
  | "-user" => valued fun v => .ok (.always (v = "root" || v = "0"))
  | "-group" => valued fun v => .ok (.always (v = "root" || v = "0"))
  | "-perm" => valued fun v =>
    let (sign, mode) := match v.toList with
      | '-' :: cs => (some '-', cs)
      | '/' :: cs => (some '/', cs)
      | cs => (none, cs)
    match FileMode.change? mode false 0 with
    | some bits => .ok (.mode sign bits)
    | none => .error (.badMode v)
  | "-newer" | "-cnewer" | "-anewer" => valued fun v =>
    match c.locate fs v, c.entry fs v with
    | .ok place, .ok _ => .ok (.newerThan ((fs.node? place).getD 0))
    | .error e, _ | _, .error e => .error (.noFile v e)
  | "-print" => acting (.print '\n')
  | "-print0" => acting (.print '\x00')
  | "-ls" => acting (.print '\n')
  | "-printf" =>
    match rest with
    | [] => .error (.missing word)
    | format :: rest => .ok (.printf format.toList, { o with acts := true }, rest)
  | "-exec" | "-execdir" | "-ok" | "-okdir" =>
    match command [] rest with
    | some ([], false, _) | none => .error (.missing word)
    | some (words, false, rest) =>
      .ok (.run words (word = "-ok" || word = "-okdir"), { o with acts := true }, rest)
    | some (words, true, rest) =>
      .ok (.runAll o.collectors words, { o with acts := true, collectors := o.collectors + 1 }, rest)
  | "-delete" => .ok (.delete, { o with acts := true, childrenFirst := true }, rest)
  | "-prune" => plain .prune
  | "-quit" => acting .quit
  | "-depth" | "-d" => .ok (.always true, { o with childrenFirst := true }, rest)
  | "-maxdepth" => depth fun n => { o with most := some n }
  | "-mindepth" => depth fun n => { o with least := n }
  | _ =>
    if word.toList.head? = some '-' then .error (.unknown word) else .error (.misplaced word none)

mutual

def readList (c : Call) (fs : Files) : (left : Nat) → Options → List String →
    Except Fault (Expression × Options × List String)
  | 0, o, words => .ok (.test (.always true), o, words)
  | left + 1, o, words => do
    let (a, o, rest) ← readOr c fs left o words
    match rest with
    | "," :: rest =>
      if rest = [] then throw (.missingOperand ",")
      let (b, o, rest) ← readList c fs left o rest
      return (.list a b, o, rest)
    | rest => return (a, o, rest)

def readOr (c : Call) (fs : Files) : (left : Nat) → Options → List String →
    Except Fault (Expression × Options × List String)
  | 0, o, words => .ok (.test (.always true), o, words)
  | left + 1, o, words => do
    let (a, o, rest) ← readAnd c fs left o words
    match rest with
    | op :: rest =>
      if op = "-o" ∨ op = "-or" then
        if rest = [] then throw (.missingOperand op)
        let (b, o, rest) ← readOr c fs left o rest
        return (.or a b, o, rest)
      else return (a, o, op :: rest)
    | [] => return (a, o, [])

def readAnd (c : Call) (fs : Files) : (left : Nat) → Options → List String →
    Except Fault (Expression × Options × List String)
  | 0, o, words => .ok (.test (.always true), o, words)
  | left + 1, o, words => do
    let (a, o, rest) ← readOne c fs left o words
    match rest with
    | [] => return (a, o, [])
    | op :: rest =>
      if [")", ",", "-o", "-or"].contains op then return (a, o, op :: rest)
      else
        let isAnd := op = "-a" ∨ op = "-and"
        if isAnd ∧ rest = [] then throw (.missingOperand op)
        let (b, o, rest) ← readAnd c fs left o (if isAnd then rest else op :: rest)
        return (.and a b, o, rest)

/-- Reads a test, one that is turned round, or an expression between parentheses. -/
def readOne (c : Call) (fs : Files) : (left : Nat) → Options → List String →
    Except Fault (Expression × Options × List String)
  | 0, o, words => .ok (.test (.always true), o, words)
  | _, o, [] => .ok (.test (.always true), o, [])
  | left + 1, o, word :: rest =>
    if word = "!" ∨ word = "-not" then
      if rest = [] then .error (.missingOperand word)
      else do
        let (e, o, rest) ← readOne c fs left o rest
        return (.not e, o, rest)
    else if word = "(" then do
      let (e, o, rest) ← readList c fs left o rest
      match rest with
      | ")" :: rest => return (e, o, rest)
      | _ => throw .unclosed
    else if ["-o", "-or", "-a", "-and", ","].contains word then .error (.nothingBefore word)
    else if word = ")" then .error .unopened
    else do
      let (t, o, rest) ← readTest c fs o word rest
      return (.test t, o, rest)

end

/-- The expression that words are, with something done with files. -/
def read (c : Call) (fs : Files) (words : List String) : Except Fault (Expression × Options) := do
  let o : Options := ⟨0, none, false, false, 0⟩
  let (e, o, rest) ← if words = [] then pure (.test (.always true), o, [])
    else readList c fs (8 * words.length + 8) o words
  if rest ≠ [] then throw .unopened
  return (if o.acts then e else .and e (.test (.print '\n')), o)

end Reading

section Evaluation

def formatted (fs : Files) (i : Item) : (left : Nat) → List Char → List Char
  | 0, cs => cs
  | _, [] => []
  | left + 1, '\\' :: c :: cs =>
    match c with
    | 'n' => '\n' :: formatted fs i left cs
    | 't' => '\t' :: formatted fs i left cs
    | '0' => '\x00' :: formatted fs i left cs
    | '\\' => '\\' :: formatted fs i left cs
    | c => '\\' :: c :: formatted fs i left cs
  | left + 1, '%' :: c :: cs =>
    let relative := (i.path.toList.drop i.start.length).dropWhile (· == '/')
    let kind := match i.entry with
      | .directory => "d"
      | .file _ _ => "f"
      | .link _ => "l"
      | .device _ => "c"
    let word : Option String := match c with
      | 'p' => some i.path
      | 'f' => some (lastName i.path)
      | 'h' => some (parentPath i.path)
      | 'P' => some (String.ofList relative)
      | 'H' => some i.start
      | 's' => some (toString (sizeOf (some i.entry)))
      | 'd' => some (toString i.depth)
      | 'y' => some kind
      | 'm' => some (String.ofList (Nat.toDigits 8 (modeOf i.entry)))
      | 'M' => some (String.ofList (fileFormat i.path i.entry 1 ['%', 'A']))
      | 'u' | 'g' => some "root"
      | 'U' | 'G' => some "0"
      | 'l' => match i.entry with
        | .link target => some (Text.bytewise target)
        | _ => some ""
      | '%' => some "%"
      | _ => none
    (word.getD (String.ofList ['%', c])).toList ++ formatted fs i left cs
  | left + 1, c :: cs => c :: formatted fs i left cs

def nodeOf (fs : Files) (place : List String) : Nat :=
  (fs.node? place).getD 0

/-- Words with a path in the place of each mark. -/
def withPath (path : String) (words : List String) : List String :=
  words.map fun w => String.ofList (Xargs.replaceMark "\x7b\x7d".toList path.toList w.length w.toList)

/-- Runs a program; the answer tells whether it was a success. -/
def runProgram (c : Call) (words : List String) : Work Bool := do
  match ← c.spawn words with
  | .ok e => return e == .code 0
  | .error e =>
    c.warn (inQuotes (words.headD "") ++ ": " ++ reason e)
    return false

/-- Asks a question about a file, or does something with it. -/
def Test.eval (c : Call) (i : Item) (w : Walk) (t : Test) : Work (Bool × Walk) := do
  let fs ← Work.files
  let answer (holds : Bool) : Work (Bool × Walk) := return (holds, w)
  let fold (folded : Bool) (s : String) : List Char :=
    if folded then s.toList.map Char.toLower else s.toList
  match t with
  | .always holds => answer holds
  | .name g folded => answer (g.isFor (fold folded (lastName i.path)))
  | .path g folded => answer (g.isFor (fold folded i.path))
  | .linkPath g => answer (match i.entry with
    | .link target => g.isFor (Text.bytewise target).toList
    | _ => false)
  | .regex r => answer (r.isWhole i.path.toList)
  | .kind letters => answer (match i.entry with
    | .directory => letters.contains 'd'
    | .file _ _ => letters.contains 'f'
    | .link _ => letters.contains 'l'
    | .device _ => letters.contains 'c')
  | .empty => answer (match i.entry with
    | .file content _ => content == []
    | .directory => fs.names i.place == []
    | _ => false)
  | .size unit b => answer (b.admits ((sizeOf (some i.entry) + unit - 1) / unit))
  | .links b =>
    let n := nodeOf fs i.place
    answer (b.admits (if i.entry = .directory then 2 else (fs.entries.filter (·.2 = n)).length))
  | .age b => answer (b.admits 0)
  | .mode sign bits =>
    let mode := modeOf i.entry
    answer (match sign with
      | none => mode == bits
      | some '-' => mode &&& bits == bits
      | some _ => bits == 0 || mode &&& bits != 0)
  | .runnable => answer (modeOf i.entry &&& 0o111 != 0)
  | .newerThan n => answer (decide (n < nodeOf fs i.place))
  | .print ending => do
    Work.say (i.path.toList ++ [ending])
    answer true
  | .printf format => do
    Work.say (formatted fs i format.length format)
    answer true
  | .run words asked => do
    if asked then
      if !(← isConfirmed ("< " ++ words.headD "" ++ " ... " ++ i.path ++ " > ? ")) then
        return ← answer false
    answer (← runProgram c (withPath i.path words))
  | .runAll index _ =>
    let old := (w.collected.lookup index).getD []
    return (true, { w with collected := (index, i.path :: old) :: w.collected.filter (·.1 ≠ index) })
  | .delete =>
    if i.path = "." then answer true
    else if fs.isDirectory i.place && fs.names i.place != [] then do
      c.warn ("cannot delete " ++ inQuotes i.path ++ ": Directory not empty")
      return (false, { w with status := 1 })
    else do
      Work.setFiles (fs.remove i.place)
      answer true
  | .prune => return (true, { w with pruned := true })
  | .quit => return (true, { w with stopped := true })

def Expression.eval (c : Call) (i : Item) : Expression → Walk → Work (Bool × Walk)
  | .test t, w => if w.stopped then return (false, w) else t.eval c i w
  | .not e, w => do
    let (holds, w) ← e.eval c i w
    return (!holds, w)
  | .and a b, w => do
    let (holds, w) ← a.eval c i w
    if holds then b.eval c i w else return (false, w)
  | .or a b, w => do
    let (holds, w) ← a.eval c i w
    if holds then return (true, w) else b.eval c i w
  | .list a b, w => do
    let (_, w) ← a.eval c i w
    b.eval c i w

/-- Looks at a file, and then at what is below it, at most `fuel` levels deep. -/
def visit (c : Call) (e : Expression) (o : Options) (through : Bool) : (fuel : Nat) → Item → Walk → Work Walk
  | 0, _, w => return w
  | fuel + 1, i, w => do
    if w.stopped then return w
    let look (w : Walk) : Work Walk := do
      if i.depth < o.least then return w
      return (← e.eval c i w).2
    let w ← if o.childrenFirst then pure w else look { w with pruned := false }
    let goesOn := i.entry == .directory && !(w.pruned && !o.childrenFirst) && !w.stopped &&
      (match o.most with
        | some n => decide (i.depth < n)
        | none => true)
    let mut w := { w with pruned := false }
    if goesOn then
      let fs ← Work.files
      for name in fs.names i.place do
        let place := i.place ++ [name]
        let entry := match fs.entry? place with
          | some (.link target) =>
            if through then
              ((fs.locate i.place target).toOption.bind fs.entry?).getD (.link target)
            else .link target
          | some e => e
          | none => .directory
        w ← visit c e o through fuel
          { i with path := below i.path (Text.bytewise name), place := place, entry := entry, depth := i.depth + 1 } w
    if o.childrenFirst then look w else return w

/-- The programs that run once for all files. -/
def collectors : Expression → List (Nat × List String)
  | .test (.runAll index words) => [(index, words)]
  | .test _ => []
  | .not e => collectors e
  | .and a b | .or a b | .list a b => collectors a ++ collectors b

end Evaluation

end Find

open Find in
def find : Utility := fun c => do
  let flags := c.args.takeWhile fun s => s == "-L" || s == "-P" || s == "-H"
  let args := c.args.drop flags.length
  let isExpression (s : String) : Bool :=
    (s.toList.head? == some '-' && s != "-") || s == "(" || s == "!" || s == ")"
  let paths := args.takeWhile fun s => !isExpression s
  let words := args.drop paths.length
  let fs ← Work.files
  match Find.read c fs words with
  | .error f =>
    c.warn f.message
    match f with
    | .misplaced word _ =>
      let before := (words.takeWhile (· ≠ word)).dropLast.getLast?
      match before with
      | some predicate =>
        if ["-name", "-iname", "-path", "-type"].contains predicate ∧ (c.entry fs word).toOption.isSome then
          c.warn ("possible unquoted pattern after predicate " ++ quoted predicate ++ "?")
      | none => pure ()
    | _ => pure ()
    return 1
  | .ok (e, o) =>
    let through := flags.getLast? = some "-L" || words.contains "-follow"
    let mut w : Walk := ⟨false, false, 0, []⟩
    for path in (if paths = [] then ["."] else paths) do
      let fs ← Work.files
      let found := if through || flags.getLast? = some "-H" then c.entry fs path else c.linkEntry fs path
      let place := if through || flags.getLast? = some "-H" then c.locate fs path else c.locateLink fs path
      match place, found with
      | .ok place, .ok entry => w ← visit c e o through maxDepth ⟨path, place, entry, 0, path⟩ w
      | .error err, _ | _, .error err =>
        c.warn (inQuotes path ++ ": " ++ reason err)
        w := { w with status := 1 }
    for (index, words) in collectors e do
      match w.collected.lookup index with
      | some paths =>
        if !(← Find.runProgram c (words ++ paths.reverse)) then w := { w with status := 1 }
      | none => pure ()
    return w.status

end PatchSearch.Shell
