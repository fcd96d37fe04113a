import RestBindings.CommandLine.Arguments

/-!
# Commands

The program generates the bindings of one document, runs the jobs of a configuration, or tells its
version.
-/

namespace RestBindings.CommandLine

/-- What the program is asked to do. -/
inductive Command
  /-- Generate the bindings of a document. -/
  | generate (source output : String) (classMap methods : Option String)
  /-- Run the jobs of a configuration. -/
  | batch (config : Option String)
  /-- Tell the version. -/
  | version
  /-- Explain the program or a command. -/
  | help
  deriving DecidableEq, Repr

namespace Command

/-- The option that asks for an explanation. -/
def helpSwitch : Switch := ⟨"help", none, false⟩

/-- The option that asks for more messages. -/
def verboseSwitch : Switch := ⟨"verbose", some 'v', false⟩

/-- The options of `generate`. -/
def generateSwitches : List Switch :=
  [⟨"classmap", none, true⟩, ⟨"methods", none, true⟩, verboseSwitch, helpSwitch]

/-- The options of `batch`. -/
def batchSwitches : List Switch :=
  [⟨"config", some 'c', true⟩, verboseSwitch, helpSwitch]

/-- A command from its options and operands, nothing if the operands do not fit. -/
def ofArguments (switches : List Switch) (make : Arguments → Option Command)
    (args : List String) : Option Command := do
  let a ← Arguments.read switches args
  if a.has helpSwitch.name then some help else make a

/-- The command `generate`: a source and an output directory. -/
def readGenerate : List String → Option Command :=
  ofArguments generateSwitches fun a =>
    match a.operands with
    | [source, output] => some (.generate source output (a.value? "classmap") (a.value? "methods"))
    | _ => none

/-- The command `batch`, without operands. -/
def readBatch : List String → Option Command :=
  ofArguments batchSwitches fun a =>
    if a.operands.isEmpty then some (.batch (a.value? "config")) else none

/-- The command `version`, without operands. -/
def readVersion : List String → Option Command :=
  ofArguments [helpSwitch] fun a => if a.operands.isEmpty then some .version else none

/-- A command by its name. -/
def readNamed (name : String) (args : List String) : Option Command :=
  if name = "generate" then readGenerate args
  else if name = "batch" then readBatch args
  else if name = "version" then readVersion args
  else none

/-- The command that arguments ask for, nothing if they ask for none.  In front of the name of a
command stands nothing but the option that asks for an explanation. -/
def read (helpAsked : Bool) : List String → Option Command
  | [] => if helpAsked then some help else none
  | arg :: rest =>
    if arg = "--help" then read true rest
    else if arg = "--" then
      match rest with
      | name :: args => if helpAsked then some help else readNamed name args
      | [] => if helpAsked then some help else none
    else if arg.toList.head? = some '-' ∧ arg.length > 1 then none
    else if helpAsked then some help
    else readNamed arg rest

end Command

/-- The command that arguments ask for. -/
def Command.ofArgs (args : List String) : Option Command :=
  Command.read false args

end RestBindings.CommandLine
