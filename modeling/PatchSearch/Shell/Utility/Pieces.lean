import PatchSearch.Shell.Utility.Places
import PatchSearch.Shell.Utility.Sums

namespace PatchSearch.Shell

section Split

/-- The letters or digits behind the name of a piece. -/
def pieceSuffix (letters : List Char) (length n : Nat) : List Char :=
  (List.range length).map fun i =>
    letters.getD (n / Nat.pow letters.length (length - 1 - i) % letters.length) 'a'

def linePieces (n : Nat) (cs : List Char) : List (List Char) :=
  let groups := Digest.chunks n (textLines cs)
  let whole := groups.map ofLines
  if cs.getLast? = some '\n' then whole
  else whole.dropLast ++ (whole.getLast?.map fun p => [p.dropLast]).getD []

def evenPieces (n : Nat) (cs : List Char) : List (List Char) :=
  let bounds (i : Nat) : Nat := cs.length / n * i + min i (cs.length % n)
  (List.range n).map fun i => (cs.take (bounds (i + 1))).drop (bounds i)

def split : Utility := fun c =>
  (OptionForm.mk "dx" "lbnaC" [("lines", 'l'), ("bytes", 'b'), ("number", 'n'), ("suffix-length", 'a'),
      ("numeric-suffixes", 'd')] false).apply c 1 fun a => do
    let path := a.operands.headD "-"
    let front := (a.operands.drop 1).headD "x"
    let check (letter : Char) (what : String) (read : String → Option Nat) : Except String (Option Nat) :=
      match a.value? letter with
      | none => .ok none
      | some s => match read s with
        | some 0 | none => .error ("invalid number of " ++ what ++ ": " ++ inQuotes s)
        | some n => .ok (some n)
    match check 'l' "lines" natural?, check 'b' "bytes" sized?, check 'n' "chunks" natural? with
    | .error message, _, _ | _, .error message, _ | _, _, .error message => c.fail message 1
    | .ok lines, .ok bytes, .ok number =>
      match ← c.read path with
      | .error e => c.fail ("cannot open " ++ inQuotes path ++ " for reading: " ++ reason e) 1
      | .ok s =>
        let cs := s.finite
        let pieces := match bytes, number with
          | some n, _ => Digest.chunks n cs
          | none, some n => evenPieces n cs
          | none, none => linePieces (lines.getD 1000) cs
        let letters := if a.has 'd' then "0123456789".toList else "abcdefghijklmnopqrstuvwxyz".toList
        let length := ((a.value? 'a').bind natural?).getD 2
        for (i, piece) in (List.range pieces.length).zip pieces do
          let name := front ++ String.ofList (pieceSuffix letters length i)
          match ← c.writeFile name piece with
          | .ok () => pure ()
          | .error e => return ← c.fail (shownName name ++ ": " ++ reason e) 1
        return 0

end Split

section Dd

/-- The value of an operand such as `if=path`. -/
def ddValue? (c : Call) (name : String) : Option String :=
  (c.args.filterMap fun arg =>
    if (name ++ "=").toList.isPrefixOf arg.toList then some (String.ofList (arg.toList.drop (name.length + 1)))
    else none).getLast?

def dd : Utility := fun c => do
  let known := ["if", "of", "bs", "ibs", "obs", "cbs", "count", "skip", "seek", "conv", "status", "iflag", "oflag"]
  match c.args.find? fun arg => !known.any fun name => (name ++ "=").toList.isPrefixOf arg.toList with
  | some arg => c.misuse ("unrecognized operand " ++ inQuotes arg) 1
  | none =>
    let numbers := ["bs", "ibs", "obs", "count", "skip", "seek"].filterMap (ddValue? c)
    match numbers.find? fun s => (sized? s).isNone with
    | some s => c.fail ("invalid number: " ++ inQuotes s) 1
    | none =>
      let number (name : String) (default : Nat) : Nat := ((ddValue? c name).bind sized?).getD default
      let block := number "bs" (number "ibs" 512)
      let conversions := splitOnComma ((ddValue? c "conv").getD "")
      let input := ddValue? c "if"
      match ← (match input with
        | some path => c.readFile path
        | none => Work.readInput) with
      | .error e =>
        if e = .isADirectory then c.fail ("error reading " ++ inQuotes (input.getD "standard input") ++ ": " ++ reason e) 1
        else c.fail ("failed to open " ++ inQuotes (input.getD "") ++ ": " ++ reason e) 1
      | .ok s =>
        let s := s.drop (block * number "skip" 0)
        let (cs, rest) := match (ddValue? c "count").bind sized? with
          | some n => (s.take (block * n), s.drop (block * n))
          | none => (s.finite, Stream.empty)
        if input.isNone then Work.giveBack rest
        let text := if conversions.contains "ucase" then cs.map Char.toUpper
          else if conversions.contains "lcase" then cs.map Char.toLower else cs
        let wrong ← match ddValue? c "of" with
          | none => do
            Work.say text
            pure none
          | some path => do
            let fs ← Work.files
            let old : Text.Bytes := match c.entry fs path with
              | .ok (.file content _) => content
              | _ => []
            let start := number "obs" block * number "seek" 0
            let kept := if conversions.contains "notrunc" then old else old.take start
            match ← c.writeFile path (Text.ofBytes (overlay kept start (Text.toBytes text))) with
            | .ok () => pure none
            | .error e => pure (some (path, e))
        match wrong with
        | some (path, e) => c.fail ("failed to open " ++ inQuotes path ++ ": " ++ reason e) 1
        | none =>
          let counts := toString (cs.length / block) ++ "+" ++ (if cs.length % block = 0 then "0" else "1")
          if ddValue? c "status" ≠ some "none" then
            Work.warn (counts ++ " records in")
            Work.warn (counts ++ " records out")
            if ddValue? c "status" ≠ some "noxfer" then
              Work.warn (toString cs.length ++ " byte" ++ (if cs.length = 1 then "" else "s") ++
                " copied, 0.0001 s, " ++ toString (cs.length / 100) ++ ".0 kB/s")
          return 0
where
  splitOnComma (s : String) : List String :=
    ((FileMode.clauses s.toList).map String.ofList)

end Dd

section Factors

/-- The prime factors of a number from `d` on, at most `left` steps away. -/
def factorsFrom : (left d n : Nat) → List Nat
  | 0, _, n => if n ≤ 1 then [] else [n]
  | left + 1, d, n =>
    if n ≤ 1 then []
    else if n < d * d then [n]
    else if n % d = 0 then d :: factorsFrom left d (n / d)
    else factorsFrom left (d + 1) n

def factor : Utility := fun c => do
  let words ← if c.args = [] then do
      let cs := (← Work.takeInput).finite
      let isGap (c : Char) : Bool := c == ' ' || c == '\n' || c == '\t'
      pure ((cs.splitBy fun a b => isGap a == isGap b).filter fun w => !(w.any isGap))
    else pure (c.args.map String.toList)
  let mut status := 0
  for w in words do
    let s := String.ofList w
    match natural? s with
    | some n =>
      Work.sayLine (toString n ++ ":" ++
        String.join ((factorsFrom 10000000 2 n).map fun f => " " ++ toString f))
    | none =>
      c.warn (inQuotes s ++ " is not a valid positive integer")
      status := 1
  return status

end Factors

end PatchSearch.Shell
