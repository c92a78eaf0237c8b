import PatchSearch.Shell.Printf
import PatchSearch.Shell.Regex.Reader
import PatchSearch.Shell.Utility.Lines

namespace PatchSearch.Shell

section Sequences

/-- A decimal as its digits over a power of ten. -/
structure Decimals where
  digits : Int
  places : Nat

def Decimals.read? (s : String) : Option Decimals :=
  let (negative, cs) := signed s.toList
  match pointPrefix? 10 cs with
  | none => none
  | some (n, places, rest) =>
    let (e, rest) := exponentPrefix ['e', 'E'] rest
    if rest ≠ [] ∨ 400 < e.natAbs then none
    else
      let shift := (places : Int) - e
      let n : Int := if negative then -(n : Int) else n
      some (if shift < 0 then ⟨n * Nat.pow 10 (-shift).toNat, 0⟩ else ⟨n, shift.toNat⟩)

/-- The digits over a larger power of ten. -/
def Decimals.scale (d : Decimals) (places : Nat) : Int :=
  d.digits * Nat.pow 10 (places - d.places)

/-- Digits over a power of ten with a point. -/
def Decimals.show (d : Decimals) : List Char :=
  (if d.digits < 0 then ['-'] else []) ++ Decimal.pointed d.digits.natAbs d.places

/-- A number with zeros up to a width. -/
def padZeros (width : Nat) (cs : List Char) : List Char :=
  match cs with
  | '-' :: ds => '-' :: (List.replicate (width - cs.length) '0' ++ ds)
  | cs => List.replicate (width - cs.length) '0' ++ cs

/-- A number as a format with one directive shows it, or what is wrong with the format. -/
def formatNumber (format : String) : Except String (Float → List Char) :=
  let cs := format.toList
  let before := cs.takeWhile (· ≠ '%')
  match cs.drop before.length with
  | [] => .error ("format '" ++ format ++ "' has no % directive")
  | _ :: rest =>
    let (d, behind) := Directive.read rest
    match behind with
    | [] => .error ("format '" ++ format ++ "' ends in %")
    | letter :: after =>
      if "efgaEFGA".toList.contains letter then
        if after.contains '%' then .error ("format '" ++ format ++ "' has too many % directives")
        else .ok fun x => before ++ d.real letter x ++ after
      else .error ("format '" ++ format ++ "' has unknown %" ++ String.singleton letter ++ " directive")

def seq : Utility := fun c => do
  -- A negative number is no option.
  let isNumber (s : String) : Bool := match s.toList with
    | '-' :: d :: _ => d.isDigit || d == '.'
    | _ => false
  let behind := c.args.dropWhile (!isNumber ·)
  let front := c.args.take (c.args.length - behind.length)
  let form : OptionForm := ⟨"w", "sf", [("equal-width", 'w'), ("separator", 's'), ("format", 'f')], true⟩
  let isOpen : Bool := match form.readWithin (front.length + 1) front with
    | .ok a => a.operands = [] && !front.contains "--"
    | .error _ => false
  form.apply { c with args := front ++ (if isOpen && behind != [] then ["--"] else []) ++ behind } 1 fun a => do
    match a.operands with
    | [] => c.misuse "missing operand" 1
    | _ :: _ :: _ :: extra :: _ => c.misuse ("extra operand '" ++ extra ++ "'") 1
    | operands =>
      match operands.find? fun s => (Decimals.read? s).isNone with
      | some s => c.misuse ("invalid floating point argument: " ++ inQuotes s) 1
      | none =>
        let one : Decimals := ⟨1, 0⟩
        let (first, step, last) := match operands.filterMap Decimals.read? with
          | [last] => (one, one, last)
          | [first, last] => (first, one, last)
          | first :: step :: last :: _ => (first, step, last)
          | [] => (one, one, one)
        if step.digits = 0 then
          c.misuse ("invalid Zero increment value: " ++ inQuotes ((operands[1]?).getD "")) 1
        else
          match (a.value? 'f').map formatNumber with
          | some (.error message) => c.fail message 1
          | format =>
            let places := max first.places step.places
            let scale := max places last.places
            let start := first.scale scale
            let stride := step.scale scale
            let stop := last.scale scale
            let distance := if stride < 0 then start - stop else stop - start
            let count := if distance < 0 then 0 else (distance / stride.natAbs).toNat + 1
            let values := (List.range count).map fun (i : Nat) => start + (i : Int) * stride
            let plain (n : Int) : List Char :=
              Decimals.show ⟨n / Nat.pow 10 (scale - places), places⟩
            let width := max (plain start).length (plain stop).length
            let shown (n : Int) : List Char := match format with
              | some (.ok f) => f (Decimal.toFloat ⟨n.natAbs, -(scale : Int)⟩ * (if n < 0 then -1 else 1))
              | _ => if a.has 'w' then padZeros width (plain n) else plain n
            let between := ((a.value? 's').getD "\n").toList
            if count = 0 then return 0
            Work.say (between.intercalate (values.map shown) ++ ['\n'])
            return 0

def yes : Utility := fun c => do
  let line := if c.args.isEmpty then "y" else " ".intercalate c.args
  Work.put ⟨[], line.toList ++ ['\n']⟩
  return 0

end Sequences

section Expr

/-- Why words are no expression. -/
inductive ExprError where
  | missingOperand
  | missingBehind (word : String)
  | unexpected (word : String)
  | expecting (word : String) (behind : String)
  | notInteger
  | divisionByZero
  | badPattern (e : RegexError)

def ExprError.message : ExprError → String
  | .missingOperand => "missing operand"
  | .missingBehind word => "syntax error: missing argument after '" ++ word ++ "'"
  | .unexpected word => "syntax error: unexpected argument '" ++ word ++ "'"
  | .expecting word behind => "syntax error: expecting '" ++ word ++ "' after '" ++ behind ++ "'"
  | .notInteger => "non-integer argument"
  | .divisionByZero => "division by zero"
  | .badPattern e => e.message

namespace Expr

/-- Whether a value counts as nothing. -/
def isNothing (s : String) : Bool :=
  s == "" || (match s.toList with
    | '-' :: cs => cs != [] && cs.all (· == '0')
    | cs => cs.all (· == '0'))

def number (s : String) : Except ExprError Int :=
  match s.toList with
  | '+' :: _ => .error .notInteger
  | _ => match decimal? s with
    | some n => .ok n
    | none => .error .notInteger

/-- What a pattern matches at the beginning of a text: the length, or the text of its group. -/
def matched (s pattern : String) : Except ExprError String :=
  match Regex.read ⟨false, false, false⟩ pattern.toList with
  | .error e => .error (.badPattern e)
  | .ok r =>
    let hasGroup := (pattern.toList.zip (pattern.toList.drop 1)).contains ('\\', '(')
    match r.longest? s.toList (Regex.origin s.toList) with
    | some spot =>
      if hasGroup then .ok (String.ofList (Regex.groupText s.toList (Regex.origin s.toList) spot 1))
      else .ok (toString spot.index)
    | none => .ok (if hasGroup then "" else "0")

def ofBool (b : Bool) : String := if b then "1" else "0"

def operate (op a b : String) : Except ExprError String := do
  let compare (ints : Int → Int → Bool) (texts : Ordering → Bool) : String :=
    match decimal? a, decimal? b with
    | some x, some y => ofBool (ints x y)
    | _, _ => ofBool (texts (if a = b then .eq else if Text.isAtMost a.toList b.toList then .lt else .gt))
  match op with
  | "|" => return if !isNothing a then a else if isNothing b then "0" else b
  | "&" => return if isNothing a || isNothing b then "0" else a
  | "=" | "==" => return compare (fun x y => x == y) (· == .eq)
  | "!=" => return compare (fun x y => x != y) (· != .eq)
  | "<" => return compare (fun x y => x < y) (· == .lt)
  | "<=" => return compare (fun x y => x ≤ y) (· != .gt)
  | ">" => return compare (fun x y => x > y) (· == .gt)
  | ">=" => return compare (fun x y => x ≥ y) (· != .lt)
  | "+" => return toString ((← number a) + (← number b))
  | "-" => return toString ((← number a) - (← number b))
  | "*" => return toString ((← number a) * (← number b))
  | "/" =>
    let x ← number a
    let y ← number b
    if y = 0 then throw .divisionByZero else return toString (x.tdiv y)
  | "%" =>
    let x ← number a
    let y ← number b
    if y = 0 then throw .divisionByZero else return toString (x.tmod y)
  | _ => matched a b

/-- The operators from those that bind the least to those that bind the most. -/
def levels : List (List String) :=
  [["|"], ["&"], ["=", "==", "!=", "<", "<=", ">", ">="], ["+", "-"], ["*", "/", "%"], [":"]]

mutual

/-- Reads operands that are joined by the operators of a level and those that bind more. `last` is the
word in front. -/
def level : (depth : Nat) → (rest : List (List String)) → (last : String) → List String →
    Except ExprError (String × List String)
  | 0, _, _, _ => .error .missingOperand
  | depth + 1, [], last, words => operand depth last words
  | depth + 1, _ :: more, last, words => do
    let (a, words') ← level depth more last words
    joined depth (levels.drop (levels.length - more.length - 1)) a words'

def joined : (depth : Nat) → (rest : List (List String)) → String → List String →
    Except ExprError (String × List String)
  | 0, _, a, words => .ok (a, words)
  | depth + 1, rest, a, words =>
    match rest, words with
    | ops :: more, op :: words' =>
      if ops.contains op then do
        let (b, words') ← level depth more op words'
        joined depth rest (← operate op a b) words'
      else .ok (a, words)
    | _, words => .ok (a, words)

def operand : (depth : Nat) → (last : String) → List String → Except ExprError (String × List String)
  | 0, _, _ => .error .missingOperand
  | _ + 1, last, [] => .error (if last = "" then .missingOperand else .missingBehind last)
  | depth + 1, _, word :: words =>
    match word, words with
    | "(", words => do
      let (a, rest) ← level depth levels "(" words
      match rest with
      | ")" :: rest => return (a, rest)
      | [] => throw (.expecting ")" ((words.getLast?).getD "("))
      | other :: _ => throw (.expecting ")" other)
    | ")", _ => .error (.unexpected ")")
    | "+", next :: rest => .ok (next, rest)
    | "length", _ :: _ => do
      let (a, rest) ← operand depth word words
      return (toString a.length, rest)
    | "match", _ :: _ => do
      let (a, rest) ← operand depth word words
      let (b, rest) ← operand depth a rest
      return (← matched a b, rest)
    | "index", _ :: _ => do
      let (a, rest) ← operand depth word words
      let (b, rest) ← operand depth a rest
      return (toString (((a.toList.findIdx? b.toList.contains).map (· + 1)).getD 0), rest)
    | "substr", _ :: _ => do
      let (a, rest) ← operand depth word words
      let (p, rest) ← operand depth a rest
      let (n, rest) ← operand depth p rest
      match decimal? p, decimal? n with
      | some p, some n =>
        if p ≤ 0 ∨ n ≤ 0 then return ("", rest)
        else return (String.ofList ((a.toList.drop (p.toNat - 1)).take n.toNat), rest)
      | _, _ => return ("", rest)
    | word, words => .ok (word, words)

end

end Expr

def expr : Utility := fun c => do
  let words := if c.args.head? = some "--" then c.args.tail else c.args
  match Expr.level (16 * words.length + 16) Expr.levels "" words with
  | .error .missingOperand => c.misuse "missing operand" 2
  | .error e => c.fail e.message 2
  | .ok (_, extra :: _) => c.fail (ExprError.unexpected extra).message 2
  | .ok (value, []) =>
    Work.sayLine value
    return if Expr.isNothing value then 1 else 0

end Expr

section Texts

/-- Writes its arguments; escapes count only if that is asked for. -/
def echo : Utility := fun c => do
  let isOption (s : String) : Bool := match s.toList with
    | '-' :: cs => cs != [] && cs.all fun c => c == 'n' || c == 'e' || c == 'E'
    | _ => false
  let options := c.args.takeWhile isOption
  let args := c.args.drop options.length
  let letters := options.flatMap String.toList
  let escapes := (letters.filter fun c => c == 'e' || c == 'E').getLast? == some 'e'
  let text := (" ".intercalate args).toList
  let (text, more) := if escapes then unescape text else (text, true)
  Work.say (text ++ if letters.contains 'n' || !more then [] else ['\n'])
  return 0

def printfStyle (name : String) : FormatStyle where
  notNumber s := name ++ ": '" ++ s ++ "': expected a numeric value"
  notWhole s := name ++ ": '" ++ s ++ "': value not completely converted"
  outOfRange s := name ++ ": '" ++ s ++ "': Numerical result out of range"
  badDirective s := name ++ ": " ++ s ++ ": invalid conversion specification"
  sizes := true
  modern := true

def printf : Utility := fun c => do
  match if c.args.head? = some "--" then c.args.tail else c.args with
  | [] => c.misuse "missing operand" 1
  | format :: args =>
    let p := Printing.make (printfStyle c.name) format args
    for (isMessage, cs) in p.pieces.reverse do
      if isMessage then Work.warn (String.ofList cs) else Work.say cs
    match p.fault with
    | some message =>
      Work.warn message
      return 1
    | none =>
      match p.args with
      | extra :: _ =>
        if !p.stopped then
          c.warn ("warning: ignoring excess arguments, starting with '" ++ extra ++ "'")
      | [] => pure ()
      return if p.wrong then 1 else 0

end Texts

end PatchSearch.Shell
