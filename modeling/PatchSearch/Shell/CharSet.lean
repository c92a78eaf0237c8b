namespace PatchSearch.Shell

def charClass? : String → Option (Char → Bool)
  | "alpha" => some Char.isAlpha
  | "digit" => some Char.isDigit
  | "alnum" => some Char.isAlphanum
  | "upper" => some Char.isUpper
  | "lower" => some Char.isLower
  | "space" => some fun c => c == ' ' || (9 ≤ c.toNat && c.toNat ≤ 13)
  | "blank" => some fun c => c == ' ' || c == '\t'
  | "punct" => some fun c => 33 ≤ c.toNat && c.toNat ≤ 126 && !c.isAlphanum
  | "print" => some fun c => 32 ≤ c.toNat && c.toNat ≤ 126
  | "graph" => some fun c => 33 ≤ c.toNat && c.toNat ≤ 126
  | "cntrl" => some fun c => c.toNat < 32 || c.toNat == 127
  | "xdigit" => some fun c => c.isDigit || ('a' ≤ c && c ≤ 'f') || ('A' ≤ c && c ≤ 'F')
  | _ => none

/-- The name of a class that a text begins with, behind `[:`, and how long it is with its end. -/
def className? (cs : List Char) : Option (String × Nat) :=
  let name := cs.takeWhile Char.isAlpha
  if [':', ']'].isPrefixOf (cs.drop name.length) then
    some (String.ofList name, name.length + 2)
  else none

/-- At most `left` members of a set behind its first bracket, and how many characters it takes up to
its end. Characters without the flag only stand for themselves. A bracket right at the beginning is a
member. -/
def membersWithin? : (left : Nat) → (first : Bool) → List (Char × Bool) →
    Option ((Char → Bool) × Nat)
  | 0, _, _ => none
  | _ + 1, _, [] => none
  | left + 1, first, (c, active) :: cs =>
    let add (test : Char → Bool) (skipped : Nat) (rest : Option ((Char → Bool) × Nat)) :
        Option ((Char → Bool) × Nat) :=
      rest.map fun (t, n) => ((fun x => test x || t x), n + skipped)
    if active ∧ c = ']' ∧ !first then some (fun _ => false, 1)
    else
      match if active ∧ c = '[' ∧ (cs.head?.map Prod.fst) = some ':' then
          className? (cs.tail.map Prod.fst) else none with
      | some (name, n) =>
        add ((charClass? name).getD fun _ => false) (n + 2) (membersWithin? left false (cs.drop (n + 1)))
      | none =>
        match cs with
        | ('-', true) :: (d, last) :: rest =>
          if last ∧ d = ']' then add (· == c) 1 (membersWithin? left false cs)
          else add (fun x => c ≤ x && x ≤ d) 3 (membersWithin? left false rest)
        | cs => add (· == c) 1 (membersWithin? left false cs)

/-- The members of a set behind its first bracket, and how many characters it takes. -/
def members? (cs : List (Char × Bool)) : Option ((Char → Bool) × Nat) :=
  membersWithin? cs.length true cs

end PatchSearch.Shell
