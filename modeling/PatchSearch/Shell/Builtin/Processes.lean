import PatchSearch.Shell.Builtin.Variables
import PatchSearch.Shell.FileMode

namespace PatchSearch.Shell

namespace Machine

/-- Runs the work of a job if it has not begun. -/
def runJob (m : Machine) (process : Nat) : Machine :=
  match m.jobs.find? (·.process = process) with
  | some ⟨_, some work, _⟩ =>
    let (w, e) := work m.desk.world
    { m with
      desk := { m.desk with world := w }
      jobs := m.jobs.map fun j => if j.process = process then ⟨process, none, e⟩ else j }
  | _ => m

/-- Runs all work that has not begun. -/
def runJobs (m : Machine) : Machine :=
  (m.jobs.map (·.process)).foldl runJob m

def isAlive (m : Machine) (process : Nat) : Bool :=
  process == m.process || m.parents.contains process ||
    m.jobs.any fun j => j.process == process && j.work.isSome

end Machine

namespace Builtin

/-- The job that an argument such as `%1` stands for. -/
def job? (m : Machine) (arg : String) : Option Job :=
  match arg.toList with
  | '%' :: cs =>
    match natural? (String.ofList cs) with
    | some n => if n = 0 then none else m.jobs[n - 1]?
    | none => if cs = [] ∨ cs = ['%'] ∨ cs = ['+'] then m.jobs.getLast? else none
  | _ => none

def killUsage : String :=
  "Usage: kill [-s sigspec | -signum | -sigspec] [pid | job]... or\nkill -l [exitstatus]"

def listSignals (args : List String) (m : Machine) : Machine :=
  match args with
  | [] => (m.withStatus 0).say ("0\n" ++ String.join (Signal.names.map (· ++ "\n")))
  | arg :: _ =>
    withNumber arg m fun n m =>
      let s := if 128 < n then n - 128 else n
      if 0 < s ∧ s ≤ Signal.names.length then (m.withStatus 0).sayLine (Signal.name s)
      else m.fault ("invalid signal number or exit status: " ++ arg)

def sendTo (signal : Nat) (m : Machine) (target : String) : Machine :=
  let toProcess (process : Nat) (m : Machine) : Machine :=
    if !m.isAlive process then m.refuse "No such process\n" 1
    else if m.jobs.any (·.process = process) then
      if Signal.isHarmless signal ∨ signal = 2 ∨ signal = 3 then m
      else
        { m with jobs := m.jobs.map fun j =>
            if j.process = process then ⟨process, none, .signal signal⟩ else j }
    else if signal = 0 then m
    else m.send process signal
  match target.toList with
  | '%' :: _ =>
    match job? m target with
    | some _ => m.refuse "No such process\n" 1
    | none => m.fault ("No such job: " ++ target)
  | '-' :: cs =>
    withNumber (String.ofList cs) m fun n m =>
      if signal = 0 then m
      else if n = (m.parents.getLast?).getD m.process then m.send 0 signal
      else m.refuse "No such process\n" 1
  | _ => withNumber target m fun n m =>
    if n = 0 then if signal = 0 then m else m.send 0 signal else toProcess n m

def kill (args : List String) (m : Machine) : Machine :=
  let go (signal : Nat) (targets : List String) (m : Machine) : Machine :=
    if targets = [] then m.fault killUsage
    else eachArgument (sendTo signal) targets (m.withStatus 0)
  match args with
  | [] => m.fault killUsage
  | arg :: rest =>
    match arg.toList with
    | '-' :: cs =>
      match Signal.number? (String.ofList cs) with
      | some signal => go signal rest m
      | none =>
        match cs with
        | ['-'] => go 15 rest m
        | 'l' :: _ => listSignals rest m
        | ['s'] =>
          match rest with
          | [] => m.fault "No arg for -s option"
          | name :: rest =>
            match Signal.number? name with
            | some signal => go signal (if rest.head? = some "--" then rest.tail else rest) m
            | none => m.fault ("invalid signal number or name: " ++ name)
        | 's' :: name =>
          match Signal.number? (String.ofList name) with
          | some signal => go signal rest m
          | none => m.fault ("invalid signal number or name: " ++ String.ofList name)
        | c :: _ => m.fault ("Illegal option -" ++ String.singleton c)
        | [] => m.fault "Illegal number: -"
    | _ => go 15 args m

/-- Says what is done about which signals, or changes that. -/
def trap (args : List String) (m : Machine) : Machine :=
  let args := if args.head? = some "--" then args.tail else args
  match args with
  | [] =>
    let shown := m.traps.mergeSort fun a b => a.1 ≤ b.1
    (m.withStatus 0).say (String.join (shown.map fun (signal, action) =>
      "trap -- " ++ quoted action ++ " " ++ Signal.name signal ++ "\n"))
  | first :: rest =>
    let isReset := rest = [] ∨ (first ≠ "" ∧ first.toList.all Char.isDigit ∧ (Signal.number? first).isSome)
    let (action, names) : Option String × List String :=
      if isReset then (none, args) else (if first = "-" then none else some first, rest)
    (names.foldl (fun (m, bad) name =>
      if bad then (m, true)
      else
        match Signal.number? name with
        | none => ((m.mutter ("trap: " ++ name ++ ": bad trap\n")).withStatus 1, true)
        | some signal =>
          let others := m.traps.filter (·.1 ≠ signal)
          ({ m with traps := match action with
              | some action => (signal, action) :: others
              | none => others }, false)) (m.withStatus 0, false)).1

def waitFor (m : Machine) (arg : String) : Machine :=
  let take (process : Nat) (m : Machine) : Machine :=
    let m := m.runJob process
    match m.jobs.find? (·.process = process) with
    | some j => m.report j.ending
    | none => m.withStatus 127
  match arg.toList with
  | '%' :: _ =>
    match job? m arg with
    | some j => take j.process m
    | none => m.fault ("No such job: " ++ arg)
  | _ => withNumber arg m take

def wait (args : List String) (m : Machine) : Machine :=
  let m := m.withStatus 0
  if args = [] then m.runJobs else eachArgument waitFor args m

def listJobs (m : Machine) : Machine :=
  let numbered := ((List.range m.jobs.length).zip m.jobs).reverse.filter fun (_, j) => j.work.isSome
  let marks := ["+", "-"] ++ List.replicate numbered.length " "
  (m.withStatus 0).say (String.join ((numbered.zip marks).map fun ((i, _), mark) =>
    "[" ++ toString (i + 1) ++ "] " ++ mark ++ " Running                    \n"))

section Mask

/-- A number in octal digits, at least `width` of them. -/
def octal (width n : Nat) : String :=
  let ds := Nat.toDigits 8 n
  String.ofList (List.replicate (width - ds.length) '0' ++ ds)

/-- The letters of three permission bits. -/
def permissionLetters (bits : Nat) : String :=
  (if bits &&& 4 != 0 then "r" else "") ++ (if bits &&& 2 != 0 then "w" else "") ++
    (if bits &&& 1 != 0 then "x" else "")

def umask (args : List String) (m : Machine) : Machine :=
  letters "S" args m fun found args m =>
    let m := m.withStatus 0
    match args with
    | [] =>
      if found = [] then m.sayLine (octal 4 m.mask)
      else
        let part (shift : Nat) : String := permissionLetters (7 - m.mask / Nat.pow 8 shift % 8)
        m.sayLine ("u=" ++ part 2 ++ ",g=" ++ part 1 ++ ",o=" ++ part 0)
    | arg :: _ =>
      if (arg.toList.head?.map Char.isDigit).getD false then
        if arg.toList.all fun c => c.isDigit && digitValue c < 8 then
          { m with mask := (digitsOf 8 arg.toList).1 % 512 }
        else m.fault ("Illegal number: " ++ arg)
      else
        match FileMode.change? arg.toList true (511 - m.mask) with
        | some mode => { m with mask := 511 - mode % 512 }
        | none => m.fault ("Illegal mode: " ++ arg)

end Mask

/-- Limits are what they are; only those that are asked for are shown. -/
def ulimit (args : List String) (m : Machine) : Machine :=
  letters "HSatfdsmcnlpvwrT" args m fun found args m =>
    let m := m.withStatus 0
    if args ≠ [] then m
    else if found.contains 'c' then m.sayLine "0"
    else if found.contains 'n' then m.sayLine "1048576"
    else m.sayLine "unlimited"

def times (m : Machine) : Machine :=
  (m.withStatus 0).say "0m0.000000s 0m0.000000s\n0m0.000000s 0m0.000000s\n"

end Builtin

end PatchSearch.Shell
