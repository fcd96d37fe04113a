import RestBindings.Checked
import RestBindings.Failure
import RestBindings.Files.Error
import RestBindings.Json
import RestBindings.Source.Package
import RestBindings.Source.Writer
import RestBindings.Yaml.Error

/-!
# Everything that can end a run

A run ends with the first error.  Errors keep their causes; a text is made of them where they are
reported.
-/

namespace RestBindings

/-- The kinds of values over which a selector of call shapes cannot range. -/
inductive PlainKind
  | bool
  | int
  | real
  | date
  | dateTime
  | time
  deriving DecidableEq, Repr

/-- The name of a kind in messages. -/
def PlainKind.name : PlainKind → String
  | bool => "bool"
  | int => "int"
  | real => "float"
  | date => "datetime.date"
  | dateTime => "datetime.datetime"
  | time => "datetime.time"

/-- An error that ends a run. -/
inductive Error
  /-- A failure that the run reports in its own words. -/
  | failure (failure : Failure)
  /-- A name gives no identifier. -/
  | identifier (cause : Source.Identifier.Error)
  /-- A base URL gives no package. -/
  | package (cause : Source.Package.Error)
  /-- A unit of source cannot be written. -/
  | writer (cause : Source.Writer.Error)
  /-- A file operation failed. -/
  | file (cause : Files.Error)
  /-- A text is not JSON. -/
  | json (cause : Json.Error)
  /-- A text has no value as YAML. -/
  | yaml (cause : Yaml.Error)
  /-- A text is not TOML. -/
  | toml
  /-- A document whose YAML notation is broken. -/
  | malformedYaml (source : String)
  /-- A value has problems; the entity that was read is named. -/
  | problems (entity : String) (problems : List Problem)
  /-- A selector of call shapes is a plain value. -/
  | notIterable (kind : PlainKind)
  /-- What a library or the interpreter refuses with an error of its own, in its words. -/
  | badValue (message : String)
  /-- A value of a type that its place does not allow. -/
  | badType (message : String)
  /-- A word that stands for no value. -/
  | unknownWord
  /-- The working directory has no configuration. -/
  | noConfiguration
  deriving DecidableEq, Repr

namespace Error

/-- The page that explains a fault. -/
def explanation (fault : Fault) : String :=
  "    For further information visit https://errors.pydantic.dev/2.14/v/" ++ fault.code

/-- The lines that describe one problem. -/
def problemLines (p : Problem) : List String :=
  [p.placeText, "  " ++ p.fault.message, explanation p.fault]

/-- The text of a list of problems. -/
def problemsMessage (entity : String) (problems : List Problem) : String :=
  let noun := if problems.length = 1 then " validation error for " else " validation errors for "
  Text.join "\n" ((toString problems.length ++ noun ++ entity) :: problems.flatMap problemLines)

/-- The text of an error. -/
def message : Error → String
  | failure f => f.message
  | identifier cause => cause.message
  | package cause => cause.message
  | writer cause => cause.message
  | file cause => cause.message
  | json cause => cause.message
  | yaml cause => cause.message
  | toml => "the text is not TOML"
  | malformedYaml source => (Failure.malformed source []).message
  | problems entity ps => problemsMessage entity ps
  | notIterable kind => "'" ++ kind.name ++ "' object is not iterable"
  | badValue text => text
  | badType text => text
  | unknownWord => "a word that stands for no value"
  | noConfiguration => "config not found"

end Error

end RestBindings
