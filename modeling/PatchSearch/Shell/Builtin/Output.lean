import PatchSearch.Shell.Builtin.Variables
import PatchSearch.Shell.Condition
import PatchSearch.Shell.Printf

namespace PatchSearch.Shell.Builtin

/-- Texts with their escapes replaced, as far as output goes on. -/
def unescapeAll : List String → List (List Char) × Bool
  | [] => ([], true)
  | arg :: args =>
    let (text, more) := unescape arg.toList
    if more then
      let (texts, more) := unescapeAll args
      (text :: texts, more)
    else ([text], false)

def echo (args : List String) (m : Machine) : Machine :=
  let (newline, args) := match args with
    | "-n" :: args => (false, args)
    | args => (true, args)
  let (texts, more) := unescapeAll args
  let text := [' '].intercalate texts ++ if newline ∧ more then ['\n'] else []
  ((m.withStatus 0).perform (Work.say text)).2

def formatStyle : FormatStyle where
  notNumber s := s ++ ": expected numeric value"
  notWhole s := s ++ ": not completely converted"
  outOfRange s := s ++ ": Numerical result out of range"
  badDirective s := s ++ ": invalid directive"
  sizes := false
  modern := false

def printf (args : List String) (m : Machine) : Machine :=
  letters "" args m fun _ args m =>
    match args with
    | [] => m.fault "usage: printf format [arg ...]"
    | format :: args =>
      let p := Printing.make formatStyle format args
      let pieces := p.pieces.reverse
      let m := (pieces.filter (·.1)).foldl (fun m (_, s) => m.complain (String.ofList s)) m
      let m := match p.fault with
        | some message => m.fault message
        | none => m.withStatus (if p.wrong then 1 else 0)
      (m.perform (Work.say ((pieces.filter (!·.1)).map Prod.snd).flatten)).2

def asCall (m : Machine) : Call where
  name := "test"
  args := []
  directory := m.directory
  environment := []
  spawn _ := return .error .notFound
  program? _ := none

def test (args : List String) (m : Machine) : Machine :=
  match Condition.holds (asCall m) m.files args with
  | .ok holds => m.withStatus (if holds then 0 else 1)
  | .error e => m.fault e.message

def bracket (args : List String) (m : Machine) : Machine :=
  if args.getLast? = some "]" then test args.dropLast m else m.fault "missing ]"

end PatchSearch.Shell.Builtin
