import RestBindings.CommandLine.Execution

/-!
# The program

The program reads the files that a command may ask for into a file tree, executes the command on
it, and writes the files that the command has added or changed.  It opens no connections, so every
URL refuses one.
-/

namespace RestBindings.CommandLine

open Config Files

/-! ## What a command reads -/

/-- The files among which a command looks for its configuration. -/
def configFiles (tree : Tree) : Command → List String
  | .batch config =>
    match config.filter (· != "") with
    | some path => [path]
    | none => (fileNames ++ [projectFile]).map (pathOf tree)
  | _ => []

/-- The files that a job reads. -/
def jobFiles (job : Job) : List String :=
  job.source :: job.classMap.toList

/-- The files that the jobs of a command read, as far as its configuration is known. -/
def inputFiles (e : Environment) (tree : Tree) (command : Command) : List String :=
  match jobsOf e tree command with
  | .ok jobs => jobs.flatMap jobFiles
  | .error _ => []

/-- The place of a path, double dots leading to the directory above. -/
def placeOf (tree : Tree) (path : String) : Place :=
  let p := Path.ofText path
  p.components.foldl (fun place name => if name = ".." then place.dropLast else place ++ [name])
    (if p.root.isEmpty then tree.workingDirectory else [])

/-- The path of a place. -/
def pathOfPlace (place : Place) : String :=
  "/" ++ Text.join "/" place

/-- The files of a tree that another one lacks or holds with other bytes. -/
def addedFiles (tree old : Tree) : List (Place × ByteArray) :=
  tree.entries.filterMap fun (place, entry) =>
    match entry, old.find? place with
    | .file content, some (.file before) =>
      if content == before then none else some (place, content)
    | .file content, _ => some (place, content)
    | .directory, _ => none

/-! ## Input and output -/

/-- The settings that the environment has. -/
def readEnvironment : IO Environment := do
  let names := ["CLASS_MAP", "METHODS", "DOCUMENTS"].map ("GCE2RETROFIT_" ++ ·)
  (names.map Environment.fold ++ names).filterMapM fun name => do
    return (← IO.getEnv name).map (name, ·)

/-- A tree with the file at a path, if there is one. -/
def addFile (tree : Tree) (path : String) : IO Tree := do
  try
    let content ← IO.FS.readBinFile path
    return tree.withFile (placeOf tree path) content
  catch _ => return tree

/-- The tree on which a command is executed. -/
def readTree (e : Environment) (command : Command) : IO Tree := do
  let directory := (← IO.currentDir).toString
  let empty := Tree.ofWorkingDirectory (Path.componentsOf directory)
  let tree ← (configFiles empty command).foldlM addFile empty
  (inputFiles e tree command).foldlM addFile tree

/-- Writes a file, and first the directories that it needs. -/
def writeFile (place : Place) (content : ByteArray) : IO Unit := do
  IO.FS.createDirAll (pathOfPlace place.dropLast)
  IO.FS.writeBinFile (pathOfPlace place) content

/-- Runs the program. -/
def runProgram (args : List String) : IO UInt32 := do
  let e ← readEnvironment
  let tree ← readTree e ((Command.ofArgs args).getD .help)
  let outcome := executeArgs e ⟨tree, [], true⟩ args
  for (place, content) in addedFiles outcome.tree tree do
    writeFile place content
  IO.print outcome.consoleText
  return outcome.exitCode.toUInt32

end RestBindings.CommandLine

/-- Runs the program with the given arguments. -/
def main (args : List String) : IO UInt32 :=
  RestBindings.CommandLine.runProgram args
