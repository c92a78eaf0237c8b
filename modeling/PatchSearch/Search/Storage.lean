import PatchSearch.Evaluation.Target
import PatchSearch.Files.Handle
import PatchSearch.Generation.Template
import PatchSearch.Search.Config
import PatchSearch.Search.Report

namespace PatchSearch

/-- The text of a file that was needed for something. -/
def Files.readFor (fs : Files) (directory : List String) (need path : String) :
    Except Failure String :=
  (fs.readTextAt directory path).mapError fun e =>
    (Failure.ofFile e).within ("failed to read " ++ need ++ path)

def SearchConfig.load (fs : Files) (directory : List String) (path : String) :
    Except Failure SearchConfig := do
  let text ← fs.readFor directory "config " path
  (SearchConfig.parse text).mapError fun f => f.within ("invalid config " ++ path)

def Template.load (fs : Files) (directory : List String) (path : String) :
    Except Failure Template := do
  return ⟨← fs.readFor directory "prompt template " path⟩

def Target.load (fs : Files) (directory : List String) (path className method : String)
    (tests : List String) : Except Failure Target := do
  let source ← fs.readFor directory "target source " path
  (Target.ofSource source className method tests).mapError fun f => f.within ("in " ++ path)

def StepRecord.line (r : StepRecord) : String :=
  r.toJson.write ++ "\n"

/-- Starts a report with no lines, and answers with the handle for them. -/
def createReport (fs : Files) (directory : List String) (path : String) :
    Except Failure (Nat × Files) :=
  (do fs.openToWrite (← fs.locate directory path)).mapError fun e =>
    (Failure.ofFile e).within ("failed to create report " ++ path)

/-- Writes a line for each record. The file stays open, so that the lines stay in it even if it is
moved or taken away. -/
def Sink.lines (handle : Nat) : Sink Files := fun r fs =>
  match fs.writeThrough handle (Text.encode r.line) with
  | .ok fs => (true, fs)
  | .error _ => (false, fs)

/-- Keeps no records. -/
def Sink.silent {ω : Type} : Sink ω := fun _ => pure true

end PatchSearch
