namespace PatchSearch.Shell.FileMode

/-- The bits of those that a letter stands for. -/
def whoBits (c : Char) : Nat :=
  if c = 'u' then 0o4700 else if c = 'g' then 0o2070 else if c = 'o' then 0o1007 else 0o7777

/-- A permission for everybody; the executable one may depend on what is there. -/
def permissionBits (isDirectory : Bool) (mode : Nat) (c : Char) : Nat :=
  if c = 'r' then 0o444
  else if c = 'w' then 0o222
  else if c = 'x' then 0o111
  else if c = 'X' then if isDirectory || mode &&& 0o111 != 0 then 0o111 else 0
  else if c = 's' then 0o6000
  else if c = 't' then 0o1000
  else if c = 'u' then (mode / 64 % 8) * 0o111
  else if c = 'g' then (mode / 8 % 8) * 0o111
  else (mode % 8) * 0o111

/-- The operators and permissions of one part of a change, at most `left` of them. -/
def operations? (isDirectory : Bool) (who : Nat) : (left : Nat) → List Char → (mode : Nat) → Option Nat
  | 0, _, mode => some mode
  | _, [], mode => some mode
  | left + 1, op :: cs, mode =>
    if op = '+' ∨ op = '-' ∨ op = '=' then
      let isLetter (c : Char) : Bool := "rwxXstugo".toList.contains c
      let letters := cs.takeWhile isLetter
      let bits := who &&& letters.foldl (fun n c => n ||| permissionBits isDirectory mode c) 0
      let clear (n bits : Nat) : Nat := n - (n &&& bits)
      let mode :=
        if op = '+' then mode ||| bits
        else if op = '-' then clear mode bits
        else clear mode (who &&& 0o777) ||| bits
      operations? isDirectory who left (cs.drop letters.length) mode
    else none

def clause? (isDirectory : Bool) (cs : List Char) (mode : Nat) : Option Nat :=
  let isWho (c : Char) : Bool := "ugoa".toList.contains c
  let whos := cs.takeWhile isWho
  let who := if whos = [] then 0o7777 else whos.foldl (fun n c => n ||| whoBits c) 0
  match cs.drop whos.length with
  | [] => none
  | ops => operations? isDirectory who ops.length ops mode

def clauses (cs : List Char) : List (List Char) :=
  cs.foldr (fun c parts =>
    match parts with
    | [] => [[c]]
    | part :: rest => if c = ',' then [] :: part :: rest else (c :: part) :: rest) [[]]

/-- What a change makes of a mode; nothing if it is no change. -/
def change? (cs : List Char) (isDirectory : Bool) (mode : Nat) : Option Nat :=
  if cs ≠ [] ∧ cs.all fun c => '0' ≤ c && c ≤ '7' then
    let n := cs.foldl (fun n c => n * 8 + (c.toNat - 48)) 0
    if n ≤ 0o7777 then some n else none
  else (clauses cs).foldlM (fun mode cs => clause? isDirectory cs mode) mode

end PatchSearch.Shell.FileMode
