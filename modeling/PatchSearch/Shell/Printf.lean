import PatchSearch.Shell.Format
import PatchSearch.Shell.Number

namespace PatchSearch.Shell

/-- Where two families of programs differ in how they use formats. -/
structure FormatStyle where
  notNumber : String → String
  notWhole : String → String
  outOfRange : String → String
  badDirective : String → String
  /-- Whether letters for sizes of numbers may stand in front of the letter of a directive. -/
  sizes : Bool
  /-- Whether there are escapes with hexadecimal digits and one that ends the output, and an empty
  argument is no number. -/
  modern : Bool

structure Printing where
  /-- Output and messages, which have the flag, the newest first. -/
  pieces : List (Bool × List Char)
  args : List String
  used : Bool
  wrong : Bool
  /-- Whether output ends here, and because of what. -/
  stopped : Bool
  fault : Option String

namespace Printing

def put (p : Printing) (cs : List Char) : Printing :=
  { p with pieces := (false, cs) :: p.pieces }

def complain (p : Printing) (message : String) : Printing :=
  { p with pieces := (true, message.toList) :: p.pieces, wrong := true }

def next (p : Printing) : Option String × Printing :=
  match p.args with
  | [] => (none, { p with used := true })
  | arg :: args => (some arg, { p with args := args, used := true })

/-- Complains about what follows a number, or about what is no number at all. -/
def check (style : FormatStyle) (arg : String) (rest : Option (List Char)) (p : Printing) : Printing :=
  match rest with
  | some [] => p
  | some _ => p.complain (style.notWhole arg)
  | none => if arg = "" ∧ !style.modern then p else p.complain (style.notNumber arg)

/-- The next argument as a whole number between bounds. -/
def nextInteger (style : FormatStyle) (least greatest : Int) (p : Printing) : Int × Printing :=
  match p.next with
  | (none, p) => (0, p)
  | (some arg, p) =>
    match arg.toList with
    | q :: cs =>
      if q = '\x22' ∨ q = '\x27' then ((cs.head?.map fun c => (c.toNat : Int)).getD 0, p)
      else
        match wholePrefix? (q :: cs) with
        | none => (0, check style arg none p)
        | some (n, rest) =>
          if n < least then (least, p.complain (style.outOfRange arg))
          else if greatest < n then (greatest, p.complain (style.outOfRange arg))
          else (n, check style arg (some rest) p)
    | [] => (0, check style arg none p)

/-- The next argument as a number with a fraction. -/
def nextReal (style : FormatStyle) (p : Printing) : Float × Printing :=
  match p.next with
  | (none, p) => (0, p)
  | (some arg, p) =>
    match arg.toList with
    | q :: cs =>
      if q = '\x22' ∨ q = '\x27' then ((cs.head?.map fun c => c.toNat.toFloat).getD 0, p)
      else
        match floatPrefix? (q :: cs) with
        | none => (0, check style arg none p)
        | some (x, rest) =>
          let isNamed := cs.any fun c => c == 'i' || c == 'n' || c == 'N' || c == 'I'
          if x.isInf ∧ !isNamed ∧ rest = [] then (x, p.complain (style.outOfRange arg))
          else (x, check style arg (some rest) p)
    | [] => (0, check style arg none p)

/-- Replaces what a directive asks for by arguments. -/
def settle (style : FormatStyle) (d : Directive) (p : Printing) : Directive × Printing :=
  let bound : Int := Nat.pow 2 31
  let (d, p) := if d.width = .asked then
      let (n, p) := nextInteger style (-bound) (bound - 1) p
      (d.withWidth n, p)
    else (d, p)
  if d.precision = .asked then
    let (n, p) := nextInteger style (-bound) (bound - 1) p
    (d.withPrecision n, p)
  else (d, p)

def convert (style : FormatStyle) (d : Directive) (letter : Char) (p : Printing) : Printing :=
  let (d, p) := settle style d p
  let top : Int := Nat.pow 2 63
  if letter = 's' then
    let (arg, p) := p.next
    p.put (d.text (arg.getD "").toList)
  else if letter = 'b' then
    let (arg, p) := p.next
    let (cs, more) := unescape (arg.getD "").toList
    { p.put (d.text cs) with stopped := !more }
  else if letter = 'c' then
    let (arg, p) := p.next
    match (arg.getD "").toList with
    | c :: _ => p.put (d.set false [] [c])
    | [] => p.put (d.set false [] (if style.modern then [] else ['\x00']))
  else if letter = 'd' ∨ letter = 'i' then
    let (n, p) := nextInteger style (-top) (top - 1) p
    p.put (d.integer n)
  else if letter = 'u' ∨ letter = 'o' ∨ letter = 'x' ∨ letter = 'X' then
    let (n, p) := nextInteger style (1 - UInt64.size) (UInt64.size - 1) p
    p.put (d.unsigned letter (n % UInt64.size).toNat)
  else
    let (x, p) := nextReal style p
    p.put (d.real letter x)

/-- One pass over a format, of at most `left` steps. -/
def pass (style : FormatStyle) : (left : Nat) → List Char → Printing → Printing
  | 0, _, p => p
  | _, [], p => p
  | left + 1, '%' :: cs, p =>
    let (d, behind) := Directive.read cs
    let letters := if style.sizes then behind.dropWhile fun c => "hlLjtz".toList.contains c else behind
    match letters with
    | '%' :: rest =>
      if cs.head? = some '%' then pass style left rest (p.put ['%'])
      else { p with stopped := true, fault := some (style.badDirective
        (String.ofList ('%' :: cs.take (cs.length - rest.length)))) }
    | [] =>
      { p with stopped := true, fault := some (if style.sizes then
          style.badDirective (String.ofList ('%' :: cs)) else "missing format character") }
    | c :: rest =>
      if "sbcdiuoxXaAeEfFgG".toList.contains c then
        let p := convert style d c p
        if p.stopped then p else pass style left rest p
      else
        { p with stopped := true, fault := some (style.badDirective
          (String.ofList ('%' :: cs.take (cs.length - rest.length)))) }
  | left + 1, '\\' :: cs, p =>
    match cs with
    | 'c' :: rest => if style.modern then { p with stopped := true } else pass style left rest (p.put ['\\', 'c'])
    | 'x' :: rest =>
      let (n, after) := digitsWithin 16 2 0 rest
      if style.modern ∧ after.length < rest.length then pass style left after (p.put [byteChar n])
      else pass style left rest (p.put ['\\', 'x'])
    | cs =>
      match formatEscape? cs with
      | some (c, rest) => pass style left rest (p.put [c])
      | none =>
        if style.modern ∧ cs.head? = some '\x22' then pass style left cs.tail (p.put ['\x22'])
        else pass style left cs (p.put ['\\'])
  | left + 1, c :: cs, p => pass style left cs (p.put [c])

/-- Uses a format as long as arguments are left; `left` bounds the passes. -/
def passes (style : FormatStyle) (format : List Char) : (left : Nat) → Printing → Printing
  | 0, p => p
  | left + 1, p =>
    let p := pass style format.length format { p with used := false }
    if p.stopped || !p.used || p.args.isEmpty then p else passes style format left p

def make (style : FormatStyle) (format : String) (args : List String) : Printing :=
  passes style format.toList (args.length + 1) ⟨[], args, false, false, false, none⟩

end Printing

end PatchSearch.Shell
