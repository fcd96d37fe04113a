import RestBindings.Text.Split

/-!
# Reported failures

The failures that a run reports in its own words.  A failure keeps what it is about; its text is
made from that.
-/

namespace RestBindings

/-- What a run reports. -/
inductive Failure
  /-- A failure of no particular kind. -/
  | general (message : String)
  /-- A failure that concerns a document. -/
  | document (message : String)
  /-- A document that cannot be read from its source. -/
  | unreadable (source : String) (cause : Option String)
  /-- A document that does not have the expected shape. -/
  | malformed (source : String) (errors : List String)
  /-- A failure while bindings are generated. -/
  | generation (message : String) (context : Option String) (cause : Option String)
  /-- A type name without a meaning. -/
  | unsupportedType (type : String) (context : Option String)
  /-- A parameter that is listed in the order of a method but not declared. -/
  | undeclaredParameter (parameter : String) (method : Option String)
  /-- A configuration that cannot be used. -/
  | configuration (message : String) (path : Option String) (field : Option String)
  /-- A unit that cannot be written. -/
  | output (path : String) (cause : Option String)
  /-- A second unit at one path. -/
  | collision (path : String)
  deriving DecidableEq, Repr

namespace Failure

/-- A text followed by its cause, if there is one. -/
def withCause (message : String) : Option String → String
  | some cause => message ++ ": " ++ cause
  | none => message

/-- A text followed by what was being generated, if that has a name. -/
def withContext (message : String) : Option String → String
  | some context =>
    if context.isEmpty then message else message ++ " (while generating " ++ context ++ ")"
  | none => message

/-- The cause that every collision has. -/
def collisionCause : String :=
  "path was already written during this run"

/-- The text of a failure. -/
def message : Failure → String
  | general text => text
  | document text => text
  | unreadable source cause =>
    withCause ("Failed to load discovery document from '" ++ source ++ "'") cause
  | malformed source errors =>
    let head := "Malformed discovery document '" ++ source ++ "'"
    if errors.isEmpty then head else head ++ ": " ++ Text.join "; " errors
  | generation text context cause => withCause (withContext text context) cause
  | unsupportedType type context => withContext ("Unsupported type '" ++ type ++ "'") context
  | undeclaredParameter parameter method =>
    withContext ("Parameter '" ++ parameter ++ "' is listed in parameterOrder but not declared")
      method
  | configuration text path field =>
    let located := match path with
      | some p => if p.isEmpty then text else text ++ " in '" ++ p ++ "'"
      | none => text
    match field with
    | some f => if f.isEmpty then located else located ++ " (field: " ++ f ++ ")"
    | none => located
  | output path cause => withCause ("Failed to write output to '" ++ path ++ "'") cause
  | collision path =>
    withCause ("Failed to write output to '" ++ path ++ "'") (some collisionCause)

end Failure

end RestBindings
