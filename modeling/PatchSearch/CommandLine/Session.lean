import PatchSearch.CommandLine.Execution
import PatchSearch.Shell.Run

namespace PatchSearch

/-- The workshop of a command harness whose commands are done to a tree of files. -/
def Workshop.ofFiles (c : CommandConfig) (directory : List String) (meter : EnergyMeter) :
    Workshop Files :=
  .ofHost Shell.host c directory meter

def CommandLine.Invocation.perform (i : Invocation) (env : Environment) (directory : List String) :
    Session Files String :=
  i.performOn Shell.host env directory

end PatchSearch
