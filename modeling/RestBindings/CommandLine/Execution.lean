import RestBindings.CommandLine.Command
import RestBindings.CommandLine.Console
import RestBindings.Config.Configuration
import RestBindings.Run

/-!
# Executing commands

A command ends with an exit code, the messages it has printed and the file tree it leaves.

A job is told about in messages with markup, and its source and its output stand in them as they
are written.  So the console may refuse a message about a job, and that ends the command as an error
of the job does: before the job is run, if it is the announcement, and behind it otherwise.
-/

namespace RestBindings.CommandLine

open Config Discovery

/-- How a command ends. -/
structure Outcome where
  exitCode : Nat
  /-- The texts of the messages, each on lines of its own. -/
  messages : List String
  tree : Files.Tree

variable [Console]

namespace Outcome

/-- A command that has succeeded. -/
def succeeded (messages : List String) (tree : Files.Tree) : Outcome :=
  ⟨0, messages, tree⟩

/-- The message for an error. -/
def errorMessage (e : Error) : String :=
  Markup.styled "red" "Error:" ++ (" " ++ e.message)

/-- What is shown of the message for an error: nothing, if the console refuses it. -/
def errorTexts (e : Error) : List String :=
  (Console.tell (errorMessage e)).toOption.toList

/-- A command that an error has ended. -/
def failed (messages : List String) (e : Error) (tree : Files.Tree) : Outcome :=
  ⟨1, messages ++ errorTexts e, tree⟩

/-- Arguments that ask for nothing the program does. -/
def misused (tree : Files.Tree) : Outcome :=
  ⟨2, [], tree⟩

/-- The text on the console. -/
def consoleText (o : Outcome) : String :=
  String.join (o.messages.map fun message => Console.shown message ++ "\n")

end Outcome

/-- The version of the program. -/
def version : String := "0.3.0"

/-- The message that tells the version. -/
def versionMessage : String :=
  "gce2retrofit version: " ++ version

/-- The message that describes how far a job has come. -/
def described (text : String) : String :=
  "[" ++ "progress.description" ++ "]" ++ text

/-- The message for a job that begins. -/
def announcement (job : Job) : String :=
  described ("Generating code for " ++ job.source ++ " in " ++ job.output ++ "...")

/-- The message for a job whose units are written. -/
def completion (job : Job) : String :=
  described ("Code generation completed for " ++ job.source ++ "!")

/-- The message for a job that has succeeded. -/
def successMessage (job : Job) (locations : List String) : String :=
  Markup.styled "green" "Successfully generated code" ++
    (" (" ++ toString locations.length ++ " files) in " ++ job.output)

/-- What is shown in the end about a job that has succeeded. -/
def report (job : Job) (locations : List String) : Except Error String := do
  let _ ← Console.tell (completion job)
  Console.tell (successMessage job locations)

variable [Http.Client] [Interpreter]

/-- Runs a job and tells about it: what is shown in the end, and the file tree afterwards. -/
def runJob (sources : Sources) (job : Job) : Except Error String × Files.Tree :=
  match Console.tell (announcement job) with
  | .error e => (.error e, sources.tree)
  | .ok _ =>
    match run sources job with
    | (.error e, tree) => (.error e, tree)
    | (.ok locations, tree) => (report job locations, tree)

/-- Runs jobs one after the other, after the given messages; the first error ends the run. -/
def runJobs (sources : Sources) (messages : List String) : List Job → Outcome
  | [] => .succeeded messages sources.tree
  | job :: rest =>
    match runJob sources job with
    | (.error e, tree) => .failed messages e tree
    | (.ok text, tree) => runJobs { sources with tree } (messages ++ [text]) rest

/-- A text as a value, the empty value if there is none. -/
def optionalValue : Option String → Value
  | some s => .ofText s
  | none => .null

/-- The job that `generate` asks for.  An option that is missing comes from the environment, and so
does an empty class map. -/
def jobOf (defaults : Defaults) (source output : String) (classMap methods : Option String) :
    Except Error Job := do
  let value : Value := .mapping [
    (.text "source", .ofText source),
    (.text "output", .ofText (Files.Path.ofText output).text),
    (.text "class_map", optionalValue ((classMap.filter (· != "")).or defaults.classMap)),
    (.text "methods", optionalValue (methods.or defaults.methods))]
  match ← readJob value with
  | .valid job => return job
  | .invalid problems => throw (.problems "DocumentConfig" problems)

variable [Constructor]

/-- The jobs that a command asks for. -/
def jobsOf (e : Environment) (tree : Files.Tree) : Command → Except Error (List Job)
  | .generate source output classMap methods => do
    return [← jobOf e.defaults source output classMap methods]
  | .batch config => Config.load e tree config
  | .version => .ok []
  | .help => .ok []

/-- Executes a command. -/
def execute (e : Environment) (sources : Sources) (command : Command) : Outcome :=
  match command with
  | .version => .succeeded [versionMessage] sources.tree
  | .help => .succeeded [] sources.tree
  | command =>
    match jobsOf e sources.tree command with
    | .ok jobs => runJobs sources [] jobs
    | .error error => .failed [] error sources.tree

/-- Executes the command that arguments ask for. -/
def executeArgs (e : Environment) (sources : Sources) (args : List String) : Outcome :=
  match Command.ofArgs args with
  | some command => execute e sources command
  | none => .misused sources.tree

end RestBindings.CommandLine
