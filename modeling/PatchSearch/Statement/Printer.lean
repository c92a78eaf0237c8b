import PatchSearch.Statement.Basic

namespace PatchSearch.Statement

def opening (header : String) : String :=
  if header = "" then "\x7b" else header ++ " \x7b"

def indented (depth : Nat) (line : String) : String :=
  String.ofList (List.replicate (4 * depth) ' ') ++ line ++ "\n"

mutual

def print (depth : Nat) : Statement → String
  | .simple text => indented depth text
  | .block header body =>
    indented depth (opening header) ++ printAll (depth + 1) body ++ indented depth "\x7d"

/-- The printed lines of statements that follow each other. -/
def printAll (depth : Nat) : List Statement → String
  | [] => ""
  | s :: ss => s.print depth ++ printAll depth ss

end

/-- A statement on its own: no indentation and no blanks at the end. -/
def render (s : Statement) : String :=
  Text.trimmedEnd (s.print 0)

def renderAll (ss : List Statement) : String :=
  printAll 0 ss

end PatchSearch.Statement
