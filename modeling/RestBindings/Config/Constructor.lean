import RestBindings.Config.Environment
import RestBindings.Discovery.Reading
import RestBindings.Json

/-!
# The values that settings are built from

Settings are built by a constructor that takes their members by name.  The constructor has
parameters of its own besides, which say where settings are looked up.  A member of a file with the
name of such a parameter is an argument for it and no member of the configuration.

What comes of an argument depends on the constructor and on the machine that it looks at, so it is
taken from `Constructor`.  The constructor of the program itself leaves an argument aside that is
null or a flag that is not set, and refuses every other one.
-/

namespace RestBindings.Config

open Checked (fail)
open Discovery (Entries)

/-! ## Members -/

/-- The member that lists the jobs. -/
def jobsMember : String := "documents"

/-- A key is the name of the member that lists the jobs, letter case not counting. -/
def isJobsKey (key : Scalar) : Bool :=
  match key with
  | .text s => Environment.fold s == jobsMember
  | _ => false

/-- The value that lists the jobs. -/
def jobsValue? (members : Entries) : Option Value :=
  match Value.member? jobsMember members with
  | some value => some value
  | none => ((members.filter fun entry => isJobsKey entry.1).getLast?).map Prod.snd

/-- The jobs that the environment supplies, if any. -/
def environmentJobs (e : Environment) : Checked (Option Value) :=
  match e.setting? jobsMember with
  | none => .valid none
  | some text =>
    match Json.read text with
    | .ok (.scalar .null) => .valid none
    | .ok value => .valid (some value)
    | .error _ => fail (.undecodableSetting jobsMember)

/-- Members with the jobs that are supplied, if they list none themselves. -/
def completed (members : Entries) (supplied : Option Value) : Entries :=
  match supplied with
  | some value =>
    if (jobsValue? members).isSome then members else members ++ [(.text jobsMember, value)]
  | none => members

/-- The values of settings that are built without arguments. -/
def ownValues (e : Environment) (members : Entries) : Checked Entries :=
  completed members <$> environmentJobs e

/-! ## Arguments -/

/-- What the constructor of settings does with arguments. -/
class Constructor where
  /-- The names of its own parameters. -/
  parameters : List String
  /-- The values that settings are built from under arguments and with further members, or the
  error that ends the building. -/
  build : Environment → Entries → Entries → Except String (Checked Entries)

/-- The parameter that stands for the settings themselves. -/
def selfParameter : String := "__pydantic_self__"

/-- The parameters that are flags and are not set of themselves. -/
def flags : List String :=
  ["_case_sensitive", "_nested_model_default_partial_update", "_env_ignore_empty",
    "_env_parse_enums"]

/-- An argument that changes nothing. -/
def isIdle (argument : Scalar × Value) : Bool :=
  match argument with
  | (.text name, .scalar .null) => name != selfParameter
  | (.text name, .scalar (.bool false)) => flags.contains name
  | _ => false

/-- The constructor of the program itself. -/
instance : Constructor where
  parameters := [selfParameter, "_case_sensitive", "_nested_model_default_partial_update",
    "_env_prefix", "_env_file", "_env_file_encoding", "_env_ignore_empty", "_env_nested_delimiter",
    "_env_nested_max_split", "_env_parse_none_str", "_env_parse_enums", "_cli_prog_name",
    "_cli_parse_args", "_cli_settings_source", "_cli_parse_none_str", "_cli_hide_none_type",
    "_cli_avoid_json", "_cli_enforce_required", "_cli_use_class_docs_for_groups",
    "_cli_exit_on_error", "_cli_prefix", "_cli_flag_prefix_char", "_cli_implicit_flags",
    "_cli_ignore_unknown_args", "_cli_kebab_case", "_cli_shortcuts", "_secrets_dir"]
  build e arguments members :=
    match arguments.find? (!isIdle ·) with
    | some (key, _) => .error ("the argument " ++ key.shown ++ " is refused")
    | none => .ok (ownValues e members)

variable [Constructor]

/-- A member that is an argument of the constructor. -/
def isArgument (entry : Scalar × Value) : Bool :=
  match entry.1 with
  | .text name => Constructor.parameters.contains name
  | _ => false

/-- The values that settings are built from. -/
def builtValues (e : Environment) (entries : Entries) : Except String (Checked Entries) :=
  let (arguments, members) := entries.partition isArgument
  if arguments.isEmpty then .ok (ownValues e members) else Constructor.build e arguments members

end RestBindings.Config
