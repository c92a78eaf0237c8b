import PatchSearch.Shell.Condition
import PatchSearch.Shell.Number
import PatchSearch.Shell.Utility.Paths

namespace PatchSearch.Shell

section Answers

def testCondition (c : Call) (words : List String) : Work Nat := do
  match Condition.holds c (← Work.files) words with
  | .ok holds => return if holds then 0 else 1
  | .error e => c.fail (match e with
    | .badNumber s => "invalid integer " ++ inQuotes s
    | .missingArgument op => "missing argument after " ++ inQuotes op
    | .missingParenthesis => "')' expected"
    | .unexpected word => "extra argument " ++ inQuotes word) 2

def test : Utility := fun c =>
  if c.name = "[" then
    if c.args.getLast? = some "]" then testCondition c c.args.dropLast else c.fail "missing ']'" 2
  else testCondition c c.args

end Answers

section Variables

/-- Shows the values of variables, or all of them. -/
def printenv : Utility := fun c => do
  if c.args = [] then
    c.environment.forM fun (name, value) => Work.sayLine (name ++ "=" ++ value)
    return 0
  else
    let mut status := 0
    for name in c.args do
      match c.environment.lookup name with
      | some value => Work.sayLine value
      | none => status := 1
    return status

def which : Utility := fun c => do
  let names := c.args.filter fun s => s.toList.head? != some '-'
  let mut status := if names = [] then 1 else 0
  for name in names do
    match c.program? name with
    | some path => Work.sayLine path
    | none => status := 1
  return status

end Variables

section Time

/-- Milliseconds of a duration with a unit. -/
def duration? (s : String) : Option Nat :=
  match floatPrefix? s.toList with
  | none => none
  | some (x, unit) =>
    let seconds : Option Nat := match unit with
      | [] | ['s'] => some 1
      | ['m'] => some 60
      | ['h'] => some 3600
      | ['d'] => some 86400
      | _ => none
    if x < 0 ∨ x.isNaN then none
    else seconds.map fun n => (x * n.toFloat * 1000).toUInt64.toNat

def sleep : Utility := fun c => do
  match c.args.filter (· ≠ "--") with
  | [] => c.misuse "missing operand" 1
  | args =>
    let bad := args.filter fun s => (duration? s).isNone
    bad.forM fun s => c.warn ("invalid time interval " ++ inQuotes s)
    if bad ≠ [] then
      Work.warn ("Try '" ++ c.name ++ " --help' for more information.")
      return 1
    let time := (args.filterMap duration?).foldl (· + ·) 0
    modify fun d => { d with world := d.world.wait time }
    return 0

/-- A day as year, month and day of the month, from its number since the first day of 1970. -/
def civil (day : Nat) : Nat × Nat × Nat :=
  let z := day + 719468
  let era := z / 146097
  let dayOfEra := z % 146097
  let yearOfEra := (dayOfEra - dayOfEra / 1460 + dayOfEra / 36524 - dayOfEra / 146096) / 365
  let dayOfYear := dayOfEra - (365 * yearOfEra + yearOfEra / 4 - yearOfEra / 100)
  let m := (5 * dayOfYear + 2) / 153
  let month := if m < 10 then m + 3 else m - 9
  (yearOfEra + era * 400 + (if month ≤ 2 then 1 else 0), month, dayOfYear - (153 * m + 2) / 5 + 1)

def monthWords : List String :=
  ["January", "February", "March", "April", "May", "June", "July", "August", "September", "October",
    "November", "December"]

def dayWords : List String :=
  ["Thursday", "Friday", "Saturday", "Sunday", "Monday", "Tuesday", "Wednesday"]

def twoDigits (n : Nat) : String :=
  if n < 10 then "0" ++ toString n else toString n

/-- What a letter of a format stands for at a second. -/
def timeField (second : Nat) (c : Char) : String :=
  let (year, month, day) := civil (second / 86400)
  let hour := second / 3600 % 24
  let short (name : String) : String := String.ofList (name.toList.take 3)
  let dayName := (dayWords[second / 86400 % 7]?).getD ""
  let monthName := (monthWords[month - 1]?).getD ""
  let clock := twoDigits hour ++ ":" ++ twoDigits (second / 60 % 60)
  let padded (n : Nat) : String := if n < 10 then " " ++ toString n else toString n
  match c with
  | 'Y' => toString year
  | 'y' => twoDigits (year % 100)
  | 'm' => twoDigits month
  | 'd' => twoDigits day
  | 'e' => padded day
  | 'H' => twoDigits hour
  | 'I' => twoDigits (if hour % 12 = 0 then 12 else hour % 12)
  | 'M' => twoDigits (second / 60 % 60)
  | 'S' => twoDigits (second % 60)
  | 'N' => "000000000"
  | 's' => toString second
  | 'F' => toString year ++ "-" ++ twoDigits month ++ "-" ++ twoDigits day
  | 'T' => clock ++ ":" ++ twoDigits (second % 60)
  | 'R' => clock
  | 'D' => twoDigits month ++ "/" ++ twoDigits day ++ "/" ++ twoDigits (year % 100)
  | 'a' => short dayName
  | 'A' => dayName
  | 'b' | 'h' => short monthName
  | 'B' => monthName
  | 'Z' => "UTC"
  | 'z' => "+0000"
  | 'p' => if hour < 12 then "AM" else "PM"
  | 'u' => toString ((second / 86400 + 3) % 7 + 1)
  | 'w' => toString ((second / 86400 + 4) % 7)
  | 'n' => "\n"
  | 't' => "\t"
  | '%' => "%"
  | c => String.ofList ['%', c]

/-- A second in the form that a format asks for. -/
def timeText (second : Nat) : List Char → List Char
  | '%' :: c :: cs => (timeField second c).toList ++ timeText second cs
  | c :: cs => c :: timeText second cs
  | [] => []

/-- The second that the clock starts from. -/
def startOfClock : Nat := 1767225600

/-- Shows the time, of the clock or as it is given in seconds. -/
def date : Utility := fun c =>
  (OptionForm.mk "uR" "dI" [("utc", 'u'), ("universal", 'u'), ("date", 'd'), ("iso-8601", 'I')] false).apply c 1
    fun a => do
      let clock := startOfClock + (← get).world.clock / 1000
      let second : Option Nat := match a.value? 'd' with
        | none => some clock
        | some s => match s.toList with
          | '@' :: ds => (String.ofList ds).toNat?
          | _ => if s = "now" ∨ s = "today" ∨ s = "" then some clock else none
      match second with
      | none => c.fail ("invalid date " ++ inQuotes ((a.value? 'd').getD "")) 1
      | some second =>
        let format := match a.operands with
          | f :: _ => if f.toList.head? = some '+' then f.toList.drop 1 else f.toList
          | [] => "%a %b %e %H:%M:%S %Z %Y".toList
        Work.say (timeText second format ++ ['\n'])
        return 0

end Time

def id : Utility := fun c =>
  (OptionForm.mk "ugnrGz" "" [("user", 'u'), ("group", 'g'), ("name", 'n'), ("groups", 'G')] false).apply c 1
    fun a => do
      Work.sayLine (
        if a.has 'u' || a.has 'g' || a.has 'G' then (if a.has 'n' then "root" else "0")
        else "uid=0(root) gid=0(root) groups=0(root)")
      return 0

def uname : Utility := fun c =>
  (OptionForm.mk "asnrvmpio" "" [("all", 'a'), ("kernel-name", 's'), ("machine", 'm'),
      ("operating-system", 'o')] false).apply c 1 fun a => do
    let words := (if a.has 's' || a.options = [] then ["Linux"] else []) ++
      (if a.has 'm' || a.has 'p' || a.has 'i' then ["x86_64"] else []) ++
      (if a.has 'o' then ["GNU/Linux"] else [])
    Work.sayLine (" ".intercalate words)
    return 0

def saying (text : String) (status : Nat) : Utility := fun _ => do
  Work.sayLine text
  return status

def systemUtility? : String → Option Utility
  | "true" => some fun _ => return 0
  | "false" => some fun _ => return 1
  | "sync" => some fun _ => return 0
  | "test" => some test
  | "[" => some test
  | "printenv" => some printenv
  | "which" => some which
  | "sleep" => some sleep
  | "date" => some date
  | "id" => some id
  | "uname" => some uname
  | "whoami" => some (saying "root" 0)
  | "groups" => some (saying "root" 0)
  | "arch" => some (saying "x86_64" 0)
  | "nproc" => some (saying "1" 0)
  | "tty" => some (saying "not a tty" 1)
  | "hostname" => some (saying "localhost" 0)
  | _ => none

end PatchSearch.Shell
