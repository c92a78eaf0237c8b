import PatchSearch.Generation.Generator

namespace PatchSearch

structure Script where
  responses : List String
  /-- The answer once there are no others. -/
  fallback : Option String
  /-- The prompts so far, in order. -/
  prompts : List String
deriving Repr, DecidableEq

namespace Script

def generate (prompt : String) (s : Script) : Except Failure String × Script :=
  let s := { s with prompts := s.prompts ++ [prompt] }
  match s.responses with
  | response :: rest => (.ok response, { s with responses := rest })
  | [] =>
    match s.fallback with
    | some response => (.ok response, s)
    | none => (.error (.ofText "scripted backend has no responses left"), s)

def push (s : Script) (response : String) : Script :=
  { s with responses := s.responses ++ [response] }

def backend : Backend Script := fun prompt => fun s => generate prompt s

end Script

end PatchSearch
