import PatchSearch.Shell.Awk.Value
import PatchSearch.Shell.Call

namespace PatchSearch.Shell.Awk

inductive Cell where
  | scalar (v : Value)
  | array (id : Nat)
  /-- Nothing yet, and that array from the moment it is used as one. -/
  | pending (id : Nat)

/-- What an element is found by: a text, which may come from a whole number. -/
structure Key where
  text : List Char
  whole : Option Int

structure Table where
  values : List (List Char × Value)
  /-- Keys that were used as texts, and those that were used as numbers, the last used first. -/
  texts : List (List Char)
  wholes : List (Int × List Char)
  named : Bool
  /-- Whether the elements are the pieces of a text, which use does not move. -/
  pieces : Bool

namespace Table

def empty : Table := ⟨[], [], [], false, false⟩

def size (t : Table) : Nat :=
  t.values.length

def ofPieces (vs : List Value) : Table :=
  let numbered := vs.zipIdx.map fun (v, i) => ((toString (i + 1)).toList, v)
  { values := numbered
    texts := []
    wholes := (numbered.zipIdx.map fun ((key, _), i) => ((i + 1 : Nat), key)).reverse
    named := false, pieces := true }

def hash (key : List Char) : UInt32 :=
  key.foldl (fun h c => (h ^^^ c.toNat.toUInt32) * 16777619) 2166136261

/-- How many places there are for so many elements, doubled at most `left` times. -/
def placesFor (size : Nat) : (left : Nat) → (n : Nat) → Nat
  | 0, n => n
  | left + 1, n => if 12 * n < size then placesFor size left (2 * n) else n

def places (t : Table) : Nat :=
  placesFor t.size 32 64

def withTexts (t : Table) : Table :=
  if t.named then t
  else
    let n : Int := t.places
    let placed := t.wholes.map fun (i, key) => (i % n, key)
    let sorted := placed.mergeSort fun a b => decide (a.1 ≤ b.1)
    { t with texts := sorted.foldl (fun ks (_, key) => key :: ks) t.texts, named := true, pieces := false }

def useText (t : Table) (key : List Char) : Table :=
  let t := t.withTexts
  if t.texts.head? = some key then t else { t with texts := key :: t.texts.filter (· ≠ key) }

def use (t : Table) (k : Key) : Table :=
  match k.whole with
  | none => t.useText k.text
  | some n =>
    if t.wholes.any (·.1 = n) then
      if t.pieces ∨ (t.wholes.head?.map Prod.fst) = some n then t
      else { t with wholes := (n, k.text) :: t.wholes.filter (·.1 ≠ n) }
    else
      let t := if t.named then t.useText k.text else t
      { t with wholes := (n, k.text) :: t.wholes, pieces := false }

/-- The element of a key, and the table after its use. -/
def get? (t : Table) (k : Key) : Option (Value × Table) :=
  (t.values.lookup k.text).map fun v => (v, t.use k)

def put (t : Table) (k : Key) (v : Value) : Table :=
  let t := t.use k
  if t.values.any (·.1 = k.text) then
    { t with values := t.values.map fun (key, old) => if key = k.text then (key, v) else (key, old) }
  else { t with values := (k.text, v) :: t.values }

def erase (t : Table) (k : Key) : Table :=
  let t := t.use k
  if t.size ≤ 1 ∧ t.values.any (·.1 = k.text) then empty
  else
    { t with
      values := t.values.filter (·.1 ≠ k.text)
      texts := t.texts.filter (· ≠ k.text)
      wholes := t.wholes.filter (·.2 ≠ k.text) }

/-- The keys in the order in which loops visit them. -/
def keys (t : Table) : List (List Char) :=
  let n := t.places
  let placed := t.withTexts.texts.map fun key => ((hash key).toNat % n, key)
  (placed.mergeSort fun a b => decide (a.1 ≤ b.1)).map Prod.snd

end Table

structure Writer where
  name : String
  direction : Direction
  outlet : Option Outlet
  /-- What waits to be written, the newest first. -/
  pieces : List (List Char)

/-- A file or the output of a command line that is read. -/
structure Supply where
  name : String
  isCommand : Bool
  rest : List Char
  status : Nat

structure State where
  globals : List (String × Cell)
  locals : List (String × Cell)
  arrays : Array Table
  record : Value
  /-- Whether fields changed since the record was made of them. -/
  stale : Bool
  fields : Array Value
  /-- Output, the newest first. -/
  buffer : List (List Char)
  /-- What is written and read, the last used first. -/
  writers : List Writer
  supplies : List Supply
  /-- The next argument, and what is left of the file that is read. -/
  place : Nat
  input : Option (List Char)
  opened : Bool
  spans : List Nat
  seed : Nat
  status : Nat
  depth : Nat

/-- Why a statement is not run to its end. -/
inductive Stop where
  | leave
  | again
  | nextRecord
  | nextFile
  | exit
  | answer (v : Value)
  | fatal (message : String)

abbrev Run := ExceptT Stop (StateT State Work)

def work {α : Type} (w : Work α) : Run α :=
  ExceptT.lift (StateT.lift w)

section Names

def cell? (name : String) : Run (Option Cell) := do
  let st ← get
  return (st.locals.lookup name).orElse fun _ => st.globals.lookup name

def setCell (name : String) (c : Cell) : Run Unit :=
  modify fun st =>
    if st.locals.any (·.1 = name) then
      { st with locals := st.locals.map fun (n, old) => if n = name then (n, c) else (n, old) }
    else { st with globals := (name, c) :: st.globals.filter (·.1 ≠ name) }

def newTable : Run Nat := do
  let st ← get
  set { st with arrays := st.arrays.push .empty }
  return st.arrays.size

def tableOf (name : String) : Run Nat := do
  match ← cell? name with
  | some (.array id) => return id
  | some (.pending id) =>
    setCell name (.array id)
    return id
  | _ =>
    let id ← newTable
    setCell name (.array id)
    return id

def table (id : Nat) : Run Table := do
  return ((← get).arrays[id]?).getD .empty

def setTable (id : Nat) (t : Table) : Run Unit :=
  modify fun st => { st with arrays := st.arrays.setIfInBounds id t }

/-- The element of a key, which is there from now on. -/
def element (id : Nat) (k : Key) : Run Value := do
  match (← table id).get? k with
  | some (v, t) =>
    setTable id t
    return v
  | none =>
    setTable id ((← table id).put k .unset)
    return .unset

def setElement (id : Nat) (k : Key) (v : Value) : Run Unit := do
  setTable id ((← table id).put k v)

/-- The value of a variable other than the number of fields. -/
def plainValue (name : String) : Run Value := do
  match ← cell? name with
  | some (.scalar v) => return v
  | _ => return .unset

def valueOf (name : String) : Run Value := do
  if name = "NF" ∧ !(← get).locals.any (·.1 = name) then return .ofNat (← get).fields.size
  else plainValue name

def numberFormat : Run (List Char) := do
  return (← plainValue "CONVFMT").toText []

def textOf (v : Value) : Run (List Char) := do
  match v with
  | .number x => return numberText (← numberFormat) x
  | v => return v.toText []

def variableText (name : String) : Run (List Char) := do
  textOf (← plainValue name)

/-- Ends with a message about what the program does. -/
def fault {α : Type} (message : String) : Run α := do
  let name := String.ofList (← variableText "FILENAME")
  let fnr := String.ofList (← variableText "FNR")
  let nr := String.ofList (← variableText "NR")
  throw (.fatal ("run time error: " ++ message ++ "\n\tFILENAME=\"" ++ name ++ "\" FNR=" ++ fnr ++ " NR=" ++ nr))

end Names

section Fields

def divisionOf (cs : List Char) : Run Division := do
  match Division.ofText cs with
  | .ok d => return d
  | .error e => fault (badRegexText e cs)

def regexOf (cs : List Char) : Run Regex := do
  match readRegex cs with
  | .ok r => return r
  | .error e => fault (badRegexText e cs)

def setRecord (v : Value) : Run Unit := do
  let d ← divisionOf (← variableText "FS")
  let text ← textOf v
  let pieces := d.pieces text
  modify fun st => { st with record := v, stale := false, fields := (pieces.map Value.input).toArray }

/-- The record, made of the fields if they changed. -/
def record : Run Value := do
  let st ← get
  if st.stale then
    let gap ← variableText "OFS"
    let texts ← st.fields.toList.mapM textOf
    let v := Value.input (gap.intercalate texts)
    set { st with record := v, stale := false }
    return v
  else return st.record

def field (n : Nat) : Run Value := do
  if n = 0 then record
  else return ((← get).fields[n - 1]?).getD .unset

def setFieldCount (n : Nat) : Run Unit :=
  modify fun st =>
    let missing := n - st.fields.size
    { st with
      fields := (st.fields ++ Array.replicate missing (Value.text [])).extract 0 n
      stale := true }

def setField (n : Nat) (v : Value) : Run Unit := do
  if n = 0 then setRecord v
  else
    if (← get).fields.size < n then setFieldCount n
    modify fun st => { st with fields := st.fields.setIfInBounds (n - 1) v, stale := true }

def store (name : String) (v : Value) : Run Unit := do
  let isLocal := (← get).locals.any (·.1 = name)
  if isLocal then setCell name (.scalar v)
  else if name = "NF" then
    if v.toNumber < 0 then fault "negative value assigned to NF"
    setFieldCount (wholePart v.toNumber).toNat
  else
    if name = "FS" ∨ name = "RS" then
      let _ ← divisionOf (← textOf v)
    setCell name (.scalar v)

end Fields

section Writing

def emit (cs : List Char) : Run Unit :=
  modify fun st => { st with buffer := cs :: st.buffer }

def flushOutput : Run Unit := do
  let st ← get
  set { st with buffer := [] }
  if st.buffer ≠ [] then work (Work.say st.buffer.reverse.flatten)

def writeTo (o : Outlet) (cs : List Char) : Work (Option FileError) := do
  let d ← get
  match d.world.write o (.of cs) with
  | .ok w =>
    set { d with world := w }
    return none
  | .error e => return some e

def closeFailure (name : String) (e : FileError) : String :=
  "close failed on file \"" ++ name ++ "\" (" ++ reason e ++ ")"

def flushWriter (w : Writer) : Run Writer := do
  match w.outlet with
  | none => return w
  | some o =>
    match ← work (writeTo o w.pieces.reverse.flatten) with
    | some e => throw (.fatal (closeFailure w.name e))
    | none => return { w with pieces := [] }

def flushAll : Run Unit := do
  flushOutput
  let ws ← (← get).writers.mapM flushWriter
  modify fun st => { st with writers := ws }

def statusOf : Ending → Nat
  | .code n => n
  | .signal n => 256 + n

/-- Runs a command line with some input, if it gets its own; the answer is its status and its output
if that is kept. -/
def runLine (c : Call) (shell line : String) (input : Option (List Char)) (kept : Bool) :
    Work (Nat × List Char) := do
  let d ← get
  let (d', o) : Desk × Option Outlet := if kept then
      let (o, w) := d.world.addPipe .empty
      ({ d with world := w, descriptors := (1, o) :: d.descriptors.filter (·.1 ≠ 1) }, some o)
    else (d, none)
  let d' : Desk := match input with
    | some text =>
      let (i, w) := d'.world.addPipe (.of text)
      { d' with world := w, descriptors := (0, i) :: d'.descriptors.filter (·.1 ≠ 0) }
    | none => d'
  set d'
  let result ← c.spawn [shell, "-c", line]
  modify fun after => { after with descriptors := d.descriptors }
  let status := match result with
    | .ok e => statusOf e
    | .error _ => 127
  match o with
  | some o => return (status, ((← get).world.stream o).finite)
  | none => return (status, [])

/-- Ends writing; the answer is a status. -/
def closeWriter (c : Call) (w : Writer) : Run Nat := do
  if w.direction = .pipe then
    let (status, _) ← work (runLine c "/bin/sh" w.name (some w.pieces.reverse.flatten) false)
    return status
  else
    let _ ← flushWriter w
    return 0

def openWriter (c : Call) (d : Direction) (name : String) : Run Writer := do
  if d = .pipe then
    flushAll
    return ⟨name, d, none, []⟩
  else
    let fs ← work Work.files
    let opened : Except FileError (Nat × Files) := do
      let place ← c.locate fs name
      if d = .append then fs.openToAppend place else fs.openToWrite place
    match opened with
    | .ok (handle, fs) =>
      work (Work.setFiles fs)
      return ⟨name, d, some (.handle handle), []⟩
    | .error e => throw (.fatal ("cannot open \"" ++ name ++ "\" for output (" ++ reason e ++ ")"))

def writeOut (c : Call) (d : Direction) (name : String) (cs : List Char) : Run Unit := do
  if d ≠ .pipe ∧ name = "/dev/stdout" then emit cs
  else if d ≠ .pipe ∧ name = "/dev/stderr" then work (Work.mutter cs)
  else
    let isIt (w : Writer) : Bool := w.name == name && (w.direction == .pipe) == (d == .pipe)
    let w ← match (← get).writers.find? isIt with
      | some w => pure w
      | none => openWriter c d name
    modify fun st => { st with
      writers := { w with pieces := cs :: w.pieces } :: st.writers.filter (!isIt ·) }

/-- Ends all reading and writing with a name; the answer is the status of the last, if there was one. -/
def close (c : Call) (name : String) : Run (Option Nat) := do
  let st ← get
  set { st with
    writers := st.writers.filter (·.name ≠ name), supplies := st.supplies.filter (·.name ≠ name) }
  let mut status := (st.supplies.find? (·.name = name)).map (·.status)
  for w in st.writers.filter (·.name = name) do
    status := some (← closeWriter c w)
  return status

def closeAll (c : Call) : Run Unit := do
  let ws ← (← get).writers.mapM flushWriter
  modify fun st => { st with writers := [] }
  for w in ws do
    let _ ← closeWriter c w
  flushOutput

end Writing

section Reading

/-- The first record of a text, and what follows it. -/
def recordOf? (separator cs : List Char) : Run (Option (List Char × List Char)) := do
  match separator with
  | [c] =>
    if cs = [] then return none
    let line := cs.takeWhile (· ≠ c)
    return some (line, cs.drop (line.length + 1))
  | [] =>
    let cs := cs.dropWhile (· = '\n')
    if cs = [] then return none
    let lines := (textLines cs).takeWhile (· ≠ [])
    let text := ['\n'].intercalate lines
    return some (text, (cs.drop (text.length + 1)).dropWhile (· = '\n'))
  | separator =>
    if cs = [] then return none
    let r ← regexOf separator
    match (r.all cs).find? fun (first, last) => first.index < last.index with
    | some (first, last) => return some (cs.take first.index, cs.drop last.index)
    | none => return some (cs, [])

/-- A variable and its value, if that is what an argument says. -/
def assignment? (arg : List Char) : Option (String × Value) :=
  let name := arg.takeWhile fun c => c.isAlphanum || c == '_'
  let starts := (name.head?.map fun c => !c.isDigit).getD false
  match arg.drop name.length with
  | '=' :: value =>
    if starts then some (String.ofList name, .input (unescaped value.length value)) else none
  | _ => none

def readWhole (c : Call) (path : String) : Run (List Char) := do
  match ← work (c.read path) with
  | .ok s => return s.finite
  | .error e =>
    if e = .isADirectory ∨ e = .badDescriptor then throw (.fatal ("read error (" ++ reason e ++ ")"))
    else throw (.fatal ("cannot open \"" ++ path ++ "\" (" ++ reason e ++ ")"))

/-- Goes on to the next file, past at most `left` arguments, if there is one. -/
def openNext (c : Call) : (left : Nat) → Run Bool
  | 0 => return false
  | left + 1 => do
    let st ← get
    let count := (wholePart (← plainValue "ARGC").toNumber).toNat
    let start (text : List Char) (name : Option String) : Run Bool := do
      modify fun st => { st with input := some text, opened := true }
      match name with
      | some name => store "FILENAME" (.input name.toList)
      | none => pure ()
      store "FNR" (.number 0)
      return true
    if count ≤ st.place then
      if st.opened then return false
      else start (← readWhole c "-") none
    else
      set { st with place := st.place + 1 }
      let args ← table (← tableOf "ARGV")
      let arg ← textOf ((args.values.lookup (toString st.place).toList).getD .unset)
      if arg = [] then openNext c left
      else
        match assignment? arg with
        | some (name, v) =>
          store name v
          openNext c left
        | none =>
          let path := String.ofList arg
          start (← readWhole c path) (some path)

/-- The next record of the input, past at most `left` files. -/
def nextRecord? (c : Call) : (left : Nat) → Run (Option (List Char))
  | 0 => return none
  | left + 1 => do
    match (← get).input with
    | none => if ← openNext c 100000 then nextRecord? c left else return none
    | some text =>
      match ← recordOf? (← variableText "RS") text with
      | some (found, rest) =>
        modify fun st => { st with input := some rest }
        for name in ["NR", "FNR"] do
          store name (.number ((← plainValue name).toNumber + 1))
        return some found
      | none =>
        modify fun st => { st with input := none }
        nextRecord? c left

/-- The next record of a file or of the output of a command line; none if it cannot be read. -/
def nextSupply? (c : Call) (isCommand : Bool) (name : String) : Run (Option (Option (List Char))) := do
  let st ← get
  let isIt (s : Supply) : Bool := s.name == name && s.isCommand == isCommand
  let found : Option Supply ← match st.supplies.find? isIt with
    | some s => pure (some s)
    | none =>
      if isCommand then
        flushAll
        let (status, text) ← work (runLine c "/bin/sh" name none true)
        pure (some ⟨name, true, text, status⟩)
      else
        match ← work (c.read name) with
        | .ok s => pure (some ⟨name, false, s.finite, 0⟩)
        | .error .isADirectory => throw (.fatal ("read error (" ++ reason .isADirectory ++ ")"))
        | .error _ => pure none
  match found with
  | none => return none
  | some s =>
    let next ← recordOf? (← variableText "RS") s.rest
    let rest := match next with
      | some (_, rest) => rest
      | none => []
    modify fun st => { st with supplies := { s with rest := rest } :: st.supplies.filter (!isIt ·) }
    return some (next.map Prod.fst)

end Reading

end PatchSearch.Shell.Awk
