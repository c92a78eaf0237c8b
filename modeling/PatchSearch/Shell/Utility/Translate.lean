import PatchSearch.Shell.CharSet
import PatchSearch.Shell.Format
import PatchSearch.Shell.Utility.Lines

namespace PatchSearch.Shell

/-- A part of a set: characters, or one that is repeated as often as the other set needs. -/
inductive SetPart where
  | chars (cs : List Char)
  | fill (c : Char)

namespace SetPart

/-- All characters that stand for bytes. -/
def allBytes : List Char :=
  (List.range 256).map Char.ofNat

/-- A character that may be escaped, and what follows it. -/
def single (cs : List Char) : Option (Char × List Char) :=
  match cs with
  | [] => none
  | '\\' :: rest =>
    match rest with
    | [] => some ('\\', [])
    | c :: _ =>
      match if c = 'e' then none else formatEscape? rest with
      | some found => some found
      | none => some (c, rest.drop 1)
  | c :: rest => some (c, rest)

/-- The parts of a set, at most `left` of them. -/
def read : (left : Nat) → List Char → Except String (List SetPart)
  | 0, _ => .ok []
  | _, [] => .ok []
  | left + 1, cs =>
    let class? : Option (List Char × List Char) := match cs with
      | '[' :: ':' :: rest =>
        let name := rest.takeWhile (· ≠ ':')
        match rest.drop name.length with
        | ':' :: ']' :: behind =>
          (charClass? (String.ofList name)).map fun test => (allBytes.filter test, behind)
        | _ => none
      | '[' :: '=' :: c :: '=' :: ']' :: behind => some ([c], behind)
      | _ => none
    match class? with
    | some (members, rest) => (read left rest).map (.chars members :: ·)
    | none =>
      let repeat? : Option (SetPart × List Char) := match cs with
        | '[' :: rest =>
          match single rest with
          | some (c, '*' :: behind) =>
            let ds := behind.takeWhile Char.isDigit
            match behind.drop ds.length with
            | ']' :: after =>
              let n := (numeral ds).1
              some (if n = 0 then .fill c else .chars (List.replicate n c), after)
            | _ => none
          | _ => none
        | _ => none
      match repeat? with
      | some (part, rest) => (read left rest).map (part :: ·)
      | none =>
        match single cs with
        | none => .ok []
        | some (c, '-' :: rest) =>
          match single rest with
          | none => (read left ('-' :: rest)).map (.chars [c] :: ·)
          | some (d, behind) =>
            if d.toNat < c.toNat then
              .error ("range-endpoints of '" ++ String.ofList [c, '-', d] ++
                "' are in reverse collating sequence order")
            else
              let members := (List.range (d.toNat + 1 - c.toNat)).map fun i => Char.ofNat (c.toNat + i)
              (read left behind).map (.chars members :: ·)
        | some (c, rest) => (read left rest).map (.chars [c] :: ·)

/-- The characters of a set that has to have a length. -/
def spell (parts : List SetPart) (length : Nat) : List Char :=
  let fixed := parts.foldl (fun n p => match p with
    | .chars cs => n + cs.length
    | .fill _ => n) 0
  parts.flatMap fun
    | .chars cs => cs
    | .fill c => List.replicate (length - fixed) c

end SetPart

/-- One of each run of the same character, for those that a test holds for. -/
def squeeze (test : Char → Bool) (cs : List Char) : List Char :=
  (cs.foldl (fun kept c => if test c ∧ kept.head? = some c then kept else c :: kept) []).reverse

def tr : Utility := fun c =>
  let form : OptionForm := ⟨"cCdst", "", [("complement", 'c'), ("delete", 'd'), ("squeeze-repeats", 's'),
    ("truncate-set1", 't')], true⟩
  form.apply c 1 fun a => do
    let hint := "Try '" ++ c.name ++ " --help' for more information."
    let wrong (lines : List String) : Work Nat := do
      lines.forM Work.warn
      return 1
    let deleting := a.has 'd'
    let squeezing := a.has 's'
    let needed := if deleting = squeezing then 2 else 1
    let most := if deleting ∧ !squeezing then 1 else 2
    match a.operands with
    | [] => c.misuse "missing operand" 1
    | first :: rest =>
      if a.operands.length < needed then
        wrong [c.name ++ ": missing operand after " ++ inQuotes first,
          if squeezing then "Two strings must be given when both deleting and squeezing repeats."
          else "Two strings must be given when translating.", hint]
      else if most < a.operands.length then
        let extra := (a.operands[most]?).getD ""
        let start := c.name ++ ": extra operand " ++ inQuotes extra
        wrong (if most = 1 ∧ a.operands.length = 2 then
          [start, "Only one string may be given when deleting without squeezing repeats.", hint]
          else [start, hint])
      else
        let second := rest.head?
        match SetPart.read first.length first.toList,
            (second.map fun s => SetPart.read s.length s.toList).getD (.ok []) with
        | .error message, _ | _, .error message => c.fail message 1
        | .ok parts1, .ok parts2 =>
          let set1 := SetPart.spell parts1 0
          let set1 := if a.has 'c' ∨ a.has 'C' then SetPart.allBytes.filter (!set1.contains ·) else set1
          let set2 := SetPart.spell parts2 set1.length
          let input := (← Work.takeInput).finite
          if deleting then
            let kept := input.filter (!set1.contains ·)
            Work.say (if squeezing then squeeze set2.contains kept else kept)
            return 0
          else if second.isNone then
            Work.say (squeeze set1.contains input)
            return 0
          else if set2 = [] ∧ set1 ≠ [] ∧ !a.has 't' then
            c.fail "when not truncating set1, string2 must be non-empty" 1
          else
            let set1 := if a.has 't' then set1.take set2.length else set1
            let padded := set2 ++ List.replicate (set1.length - set2.length) (set2.getLast?.getD ' ')
            -- Of several places of a character the last one counts.
            let table := (set1.zip padded).reverse
            let translated := input.map fun c => (table.lookup c).getD c
            Work.say (if squeezing then squeeze set2.contains translated else translated)
            return 0

end PatchSearch.Shell
