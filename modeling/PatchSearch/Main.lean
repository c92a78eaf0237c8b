import PatchSearch.CommandLine.Session

namespace PatchSearch.CommandLine

def RunOptions.paths (run : RunOptions) : List String :=
  run.commandConfig.sourcePath :: [run.config, run.report, run.summary].filterMap id

def Command.paths : Command → List String
  | .localSearch run options =>
    run.paths ++ [options.template, options.errorTemplate].filterMap id
  | .kbest run _ | .genetic run _ => run.paths
  | .checkBackend => []

def withDirectories (fs : Files) (place : List String) : Files :=
  (fs.makeDirectories place).toOption.getD fs

def isDirectoryOnDisk (place : List String) : IO Bool := do
  ((← IO.currentDir).join (Path.ofPlace place)).isDir

/-- Reads the file at a path, if there is one, into a tree. -/
def readIn (directory : List String) (fs : Files) (path : String) : IO Files := do
  let place := Path.resolve directory path
  if ← isDirectoryOnDisk place then return withDirectories fs place
  if !(← isDirectoryOnDisk place.dropLast) then return fs
  let fs := withDirectories fs place.dropLast
  try
    let bytes ← IO.FS.readBinFile (Path.ofPlace place)
    return fs.set place (.file bytes.toList FileEntry.plainMode)
  catch _ => return fs

/-- Writes the files back that are new or hold something else. -/
def writeOut (old new : Files) : IO Unit := do
  for (place, _) in new.entries do
    if let some (.file content _) := new.entry? place then
      if (old.read place).toOption ≠ some content then
        IO.FS.createDirAll (Path.ofPlace place.dropLast)
        IO.FS.writeBinFile (Path.ofPlace place) ⟨content.toArray⟩

/-- Carries out an invocation and answers with the exit status. -/
def Invocation.performOnDisk (i : Invocation) : IO UInt32 := do
  let directory := Path.resolve [] (← IO.currentDir).toString
  let known ← [keyVariable, endpointVariable, modelVariable].mapM fun name => do
    return (name, ← IO.getEnv name)
  let env : Environment := fun name => (known.lookup name).join
  let start := withDirectories .empty directory
  let old ← i.command.paths.foldlM (readIn directory) start
  let (answer, new) := i.perform env directory old
  writeOut old new
  match answer with
  | .ok text =>
    IO.print text
    return 0
  | .error f =>
    IO.eprintln ("error: " ++ f.message)
    return 1

end PatchSearch.CommandLine

open PatchSearch.CommandLine in
def main (args : List String) : IO UInt32 := do
  match Invocation.parse args with
  | .ok i => i.performOnDisk
  | .error .help => return 0
  | .error e =>
    IO.eprintln ("error: " ++ e.message)
    return 2
