import RestBindings.Config.Constructor
import RestBindings.Config.Job
import RestBindings.Files.Tree
import RestBindings.Toml
import RestBindings.Yaml

/-!
# Finding and reading a configuration

A configuration lists jobs.  It is a file of its own, in JSON or YAML, or a table of the project
file; where it is not named, the working directory is searched.  A setting of the environment
supplies the jobs for a configuration without them.
-/

namespace RestBindings.Config

open Checked (fail)

/-! ## From values to jobs -/

/-- Every key of a mapping is a text. -/
def hasTextKeys (entries : Discovery.Entries) : Bool :=
  entries.all fun entry =>
    match entry.1 with
    | .text _ => true
    | _ => false

/-- The problems of members that are not known. -/
def unknownMembers (entries : Discovery.Entries) : List Problem :=
  (entries.filter fun entry => !isJobsKey entry.1).map fun entry =>
    ⟨[entry.1.shown], .unexpected⟩

/-- Jobs, with further problems behind their own. -/
def withProblems {α : Type} (jobs : Checked α) : List Problem → Checked α
  | [] => jobs
  | further => .invalid (jobs.problems ++ further)

variable [Interpreter]

/-- The jobs that the values of settings list. -/
def listedJobs (values : Discovery.Entries) : Except Error (Checked (List Job)) :=
  match jobsValue? values with
  | some value => readJobs value
  | none => .ok (fail .missing)

/-- The jobs of the values of settings, which have no other members. -/
def readValues (values : Discovery.Entries) : Except Error (Checked (List Job)) :=
  (listedJobs values).map fun jobs =>
    withProblems (jobs.under jobsMember) (unknownMembers values)

variable [Constructor]

/-- The jobs of a configuration. -/
def readConfiguration (e : Environment) : Value → Except Error (Checked (List Job))
  | .mapping entries =>
    if !hasTextKeys entries then .error (.badType "keywords must be strings")
    else match builtValues e entries with
      | .error message => .error (.badValue message)
      | .ok (.invalid problems) => .ok (.invalid problems)
      | .ok (.valid values) => readValues values
  | _ => .ok (fail (.notEntity "CodegenConfig"))

/-- The failure for a configuration with problems. -/
def invalid (path : String) (problems : List Problem) : Failure :=
  .configuration
    ("Invalid configuration: " ++ toString problems.length ++ " validation error(s)")
    (some path) (problems.head?.map Problem.placeText)

/-- The jobs of the configuration at a path. -/
def jobsAt (e : Environment) (path : String) (value : Value) : Except Error (List Job) := do
  match ← readConfiguration e value with
  | .valid jobs => return jobs
  | .invalid problems => throw (.failure (invalid path problems))

/-! ## Files -/

/-- The text of a file. -/
def readText (tree : Files.Tree) (path : String) : Except Error String :=
  match tree.readText (Files.Path.ofText path).text with
  | .ok text => .ok text
  | .error e => .error (.file e)

/-- The value of a file in JSON, if its name says so, or in YAML. -/
def readValue (tree : Files.Tree) (path : String) : Except Error Value := do
  let text ← readText tree path
  if ".json".toList.isSuffixOf path.toList then
    match Interpreter.readingJson? text with
    | some message => throw (.badValue message)
    | none =>
      match Json.read text with
      | .ok value => return value
      | .error e => throw (.json e)
  else
    match Interpreter.readingYaml? text with
    | some message => throw (.badValue message)
    | none =>
      match Yaml.read text with
      | .ok value => return value
      | .error e => throw (.yaml e)

/-- The entries of a file in TOML. -/
def readEntries (tree : Files.Tree) (path : String) : Except Error Discovery.Entries := do
  match Toml.read (← readText tree path) with
  | .ok entries => return entries
  | .error .malformed => throw .toml
  | .error (.longInteger digits) => throw (.json (.longInteger digits))

/-! ## The working directory -/

/-- The names that a configuration file may have, the preferred one first. -/
def fileNames : List String :=
  ["gce2retrofit.yaml", "gce2retrofit.yml", "gce2retrofit.json"]

/-- The name of the project file. -/
def projectFile : String := "pyproject.toml"

/-- The name of the program's table in the project file. -/
def tableName : String := "gce2retrofit"

/-- The path of a file in the working directory. -/
def pathOf (tree : Files.Tree) (name : String) : String :=
  "/" ++ Text.join "/" (tree.workingDirectory ++ [name])

/-- The name of the kind of a scalar that cannot be searched. -/
def searchedKind (s : Scalar) : String :=
  match plainKind? s with
  | some kind => kind.name
  | none => "NoneType"

/-- The program's table among the tables of tools. -/
def toolTable : Value → Except Error (Option Value)
  | .mapping tools => .ok (Value.member? tableName tools)
  | .list items =>
    if items.any fun item => match item with
        | .scalar s => s == .text tableName
        | _ => false then
      .error (.badType "list indices must be integers or slices, not str")
    else .ok none
  | .scalar (.text s) =>
    if Text.occursIn tableName.toList s.toList then
      .error (.badType "string indices must be integers, not 'str'")
    else .ok none
  | .scalar s => .error (.badType ("argument of type '" ++ searchedKind s ++ "' is not iterable"))
  | _ => .ok none

/-- The jobs of the project file, if it has any. -/
def projectJobs (e : Environment) (tree : Files.Tree) : Except Error (Option (List Job)) := do
  let path := pathOf tree projectFile
  if !tree.holds path then return none
  let entries ← readEntries tree path
  match ← toolTable ((Value.member? "tool" entries).getD (.mapping [])) with
  | none => return none
  | some table => return some (← jobsAt e path table)

/-- The jobs of the configuration that the working directory has. -/
def defaultJobs (e : Environment) (tree : Files.Tree) : Except Error (List Job) := do
  match (fileNames.map (pathOf tree)).find? tree.holds with
  | some path => jobsAt e path (← readValue tree path)
  | none =>
    match ← projectJobs e tree with
    | some jobs => return jobs
    | none => throw .noConfiguration

/-- The jobs of the configuration at a path, of the working directory if none is given. -/
def load (e : Environment) (tree : Files.Tree) (path : Option String) :
    Except Error (List Job) := do
  match path.filter (· != "") with
  | some path => jobsAt e path (← readValue tree path)
  | none => defaultJobs e tree

end RestBindings.Config
