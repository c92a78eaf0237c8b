import PatchSearch.Shell.Regex.Reader

namespace PatchSearch.Shell.Sed

/-- Lines that a command is for. A pattern may be missing, which stands for the one that was used
last. -/
inductive Address where
  | line (n : Nat)
  | step (first stride : Nat)
  | last
  | regex (r : Option Regex)

inductive Stop where
  | address (a : Address)
  /-- So many lines behind the first. -/
  | count (n : Nat)
  | multiple (n : Nat)

structure Guard where
  first : Option Address
  stop : Option Stop
  negated : Bool

inductive Piece where
  | text (cs : List Char)
  | group (index : Nat)
  /-- From here on letters change: `U` and `L` all of them, `u` and `l` the next one, `E` none. -/
  | change (letter : Char)

structure Substitution where
  /-- The pattern; none for the one that was used last. -/
  regex : Option Regex
  pieces : List Piece
  /-- The first match that is replaced. -/
  nth : Nat
  all : Bool
  print : Bool
  path : Option String

inductive Verb where
  | openGroup
  | closeGroup
  | label (name : String)
  | jump (name : String)
  /-- Only if something was replaced, or only if nothing was. -/
  | jumpIf (replaced : Bool) (name : String)
  | substitute (s : Substitution)
  | translate (table : List (Char × Char))
  | delete
  | deleteFirst
  | print
  | printFirst
  | next
  | nextAppended
  | keep
  | keepAppended
  | recall
  | recallAppended
  | exchange
  | append (text : List Char)
  | insert (text : List Char)
  | change (text : List Char)
  | read (path : String)
  | readLine (path : String)
  | write (path : String)
  | writeFirst (path : String)
  | quit (print : Bool) (status : Nat)
  | number
  | list (width : Option Nat)
  | fileName
  | empty

structure Command where
  guard : Guard
  verb : Verb

/-- Why a text is no script. -/
inductive Fault where
  | unknownCommand (c : Char)
  | unterminated (c : Char)
  | unknownOption
  | missingCommand
  | unmatchedBrace
  | unexpectedBrace
  | extraCharacters
  | unterminatedAddress
  | unexpectedComma
  | expectedBackslash
  | commentAddress
  | zeroOption
  | twoOptions (c : Char)
  | twoNumbers
  | badReference (n : Nat)
  | differentLengths
  | zeroAddress
  | labelMissing
  | labelAddress
  | pathMissing
  | twoMarks
  | noRegex
  | oneAddress
  | badRegex (e : RegexError)

/-- A name for a command between quotes of two kinds. -/
def named (s : String) : String :=
  "\x60" ++ s ++ "\x27"

def Fault.message : Fault → String
  | .unknownCommand c => "unknown command: " ++ named (String.singleton c)
  | .unterminated c => "unterminated " ++ named (String.singleton c) ++ " command"
  | .unknownOption => "unknown option to " ++ named "s"
  | .missingCommand => "missing command"
  | .unmatchedBrace => "unmatched " ++ named "\x7b"
  | .unexpectedBrace => "unexpected " ++ named "\x7d"
  | .extraCharacters => "extra characters after command"
  | .unterminatedAddress => "unterminated address regex"
  | .unexpectedComma => "unexpected " ++ named ","
  | .expectedBackslash => "expected \\ after " ++ named "a" ++ ", " ++ named "c" ++ " or " ++ named "i"
  | .commentAddress => "comments don't accept any addresses"
  | .zeroOption => "number option to " ++ named "s" ++ " command may not be zero"
  | .twoOptions c => "multiple " ++ named (String.singleton c) ++ " options to " ++ named "s" ++ " command"
  | .twoNumbers => "multiple number options to " ++ named "s" ++ " command"
  | .badReference n => "invalid reference \\" ++ toString n ++ " on " ++ named "s" ++ " command's RHS"
  | .differentLengths => "strings for " ++ named "y" ++ " command are different lengths"
  | .zeroAddress => "invalid usage of line address 0"
  | .labelMissing => "\":\" lacks a label"
  | .labelAddress => ": doesn't want any addresses"
  | .pathMissing => "missing filename in r/R/w/W commands"
  | .twoMarks => "multiple " ++ named "!" ++ "s"
  | .noRegex => "no previous regular expression"
  | .oneAddress => "command only uses one address"
  | .badRegex e => e.message

end PatchSearch.Shell.Sed
