import PatchSearch.Decimal.Fixed
import PatchSearch.Shell.Arithmetic

namespace PatchSearch.Shell

inductive Amount where
  | none
  | given (n : Nat)
  | asked
deriving Repr, DecidableEq

/-- What stands between a percent sign and a letter. -/
structure Directive where
  flags : List Char
  width : Amount
  precision : Amount
deriving Repr, DecidableEq

namespace Directive

def amount (cs : List Char) : Amount × List Char :=
  match cs with
  | '*' :: rest => (.asked, rest)
  | cs =>
    let ds := cs.takeWhile Char.isDigit
    (if ds = [] then .none else .given (digitsOf 10 ds).1, cs.drop ds.length)

/-- Reads a directive behind its percent sign up to its letter. -/
def read (cs : List Char) : Directive × List Char :=
  let flags := cs.takeWhile fun c => "-+ 0#".toList.contains c
  let (width, rest) := amount (cs.drop flags.length)
  match rest with
  | '.' :: rest =>
    let (precision, rest) := amount rest
    (⟨flags, width, if precision = .none then .given 0 else precision⟩, rest)
  | rest => (⟨flags, width, .none⟩, rest)

/-- The directive with a width in the place of one that is asked for. -/
def withWidth (d : Directive) (n : Int) : Directive :=
  if n < 0 then { d with flags := '-' :: d.flags, width := .given n.natAbs }
  else { d with width := .given n.toNat }

def withPrecision (d : Directive) (n : Int) : Directive :=
  { d with precision := if n < 0 then .none else .given n.toNat }

def has (d : Directive) (flag : Char) : Bool :=
  d.flags.contains flag

def places? (d : Directive) : Option Nat :=
  match d.precision with
  | .given n => some n
  | _ => none

/-- Sets a text in its field; zeros for blanks stand behind the head. -/
def set (d : Directive) (zeros : Bool) (head body : List Char) : List Char :=
  let width := match d.width with
    | .given n => n
    | _ => 0
  let missing := width - (head.length + body.length)
  if d.has '-' then head ++ body ++ List.replicate missing ' '
  else if zeros ∧ d.has '0' then head ++ List.replicate missing '0' ++ body
  else List.replicate missing ' ' ++ head ++ body

def sign (d : Directive) (negative : Bool) : List Char :=
  if negative then ['-'] else if d.has '+' then ['+'] else if d.has ' ' then [' '] else []

def text (d : Directive) (cs : List Char) : List Char :=
  d.set false [] (cs.take (d.places?.getD cs.length))

def digits (d : Directive) (n base : Nat) : List Char :=
  let ds := if n = 0 ∧ d.places? = some 0 then [] else Nat.toDigits base n
  List.replicate ((d.places?.getD 1) - ds.length) '0' ++ ds

def integer (d : Directive) (n : Int) : List Char :=
  d.set d.places?.isNone (d.sign (n < 0)) (d.digits n.natAbs 10)

/-- A number without a sign, in the base of a letter. -/
def unsigned (d : Directive) (letter : Char) (n : Nat) : List Char :=
  if letter = 'o' then
    let ds := d.digits n 8
    d.set d.places?.isNone [] (if d.has '#' ∧ ds.head? ≠ some '0' then '0' :: ds else ds)
  else if letter = 'x' then
    d.set d.places?.isNone (if d.has '#' ∧ n ≠ 0 then ['0', 'x'] else []) (d.digits n 16)
  else if letter = 'X' then
    d.set d.places?.isNone (if d.has '#' ∧ n ≠ 0 then ['0', 'X'] else [])
      ((d.digits n 16).map Char.toUpper)
  else d.set d.places?.isNone [] (d.digits n 10)

/-- A binary number in hexadecimal digits, without the leading zero and letter. -/
def hexadecimal (b : Decimal.Binary) : List Char :=
  if b.mantissa = 0 then ['0', 'p', '+', '0']
  else
    let top := b.mantissa.log2
    let fraction := (b.mantissa - Nat.pow 2 top) * Nat.pow 2 (52 - top)
    let ds := Nat.toDigits 16 fraction
    let ds := List.replicate (13 - ds.length) '0' ++ ds
    let kept := (ds.reverse.dropWhile (· = '0')).reverse
    let power := b.exponent + top
    '1' :: (if fraction = 0 then [] else '.' :: kept) ++ 'p' :: (if power < 0 then '-' else '+') ::
      Nat.toDigits 10 power.natAbs

/-- A number with a fraction, as a letter asks for it. -/
def real (d : Directive) (letter : Char) (x : Float) : List Char :=
  let bits := x.toBits.toNat
  let negative := Decimal.double.isNegative bits
  let cased (cs : List Char) : List Char := if letter.isUpper then cs.map Char.toUpper else cs
  match Decimal.double.magnitude bits with
  | .infinite => d.set false (d.sign negative) (cased "inf".toList)
  | .undefined => d.set false (d.sign negative) (cased "nan".toList)
  | .finite b =>
    let places := d.places?.getD 6
    let small := letter.toLower
    if small = 'a' then d.set true (d.sign negative ++ cased ['0', 'x']) (cased (hexadecimal b))
    else
      let shown :=
        if small = 'f' then b.fixed places
        else if small = 'e' then b.powered places
        else b.general places (d.has '#')
      let shown := if d.has '#' ∧ places = 0 ∧ small = 'f' then shown ++ ['.'] else shown
      d.set true (d.sign negative) (cased shown)

end Directive

/-- The number of at most `left` digits of a base, and what follows. -/
def digitsWithin (base : Nat) : (left n : Nat) → List Char → Nat × List Char
  | left + 1, n, c :: cs =>
    if digitValue c < base then digitsWithin base left (n * base + digitValue c) cs else (n, c :: cs)
  | _, n, cs => (n, cs)

def escapeChar? (c : Char) : Option Char :=
  if c = 'n' then some '\n'
  else if c = 't' then some '\t'
  else if c = 'r' then some '\r'
  else if c = 'a' then some '\x07'
  else if c = 'b' then some '\x08'
  else if c = 'f' then some '\x0c'
  else if c = 'v' then some '\x0b'
  else if c = 'e' then some '\x1b'
  else if c = '\\' then some '\\'
  else none

/-- The character of a byte that a number stands for. -/
def byteChar (n : Nat) : Char :=
  Char.ofNat (n % 256)

/-- The character that an escape in a format stands for, from behind its backslash, and what
follows. -/
def formatEscape? (cs : List Char) : Option (Char × List Char) :=
  match cs with
  | [] => none
  | c :: rest =>
    match escapeChar? c with
    | some x => some (x, rest)
    | none =>
      if digitValue c < 8 ∧ c.isDigit then
        let (n, rest) := digitsWithin 8 3 0 (c :: rest)
        some (byteChar n, rest)
      else none

/-- The characters of an argument with escapes, of at most `left` signs, and whether output goes on
behind it. Octal numbers may have a zero in front that does not count. -/
def unescapeWithin : (left : Nat) → List Char → List Char × Bool
  | 0, cs => (cs, true)
  | _, [] => ([], true)
  | left + 1, '\\' :: cs =>
    match cs with
    | 'c' :: _ => ([], false)
    | '0' :: rest =>
      let (n, rest) := digitsWithin 8 3 0 rest
      let (text, more) := unescapeWithin left rest
      (byteChar n :: text, more)
    | cs =>
      match formatEscape? cs with
      | some (c, rest) =>
        let (text, more) := unescapeWithin left rest
        (c :: text, more)
      | none =>
        let (text, more) := unescapeWithin left cs
        ('\\' :: text, more)
  | left + 1, c :: cs =>
    let (text, more) := unescapeWithin left cs
    (c :: text, more)

def unescape (cs : List Char) : List Char × Bool :=
  unescapeWithin cs.length cs

end PatchSearch.Shell
