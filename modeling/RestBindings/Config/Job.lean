import RestBindings.Binding.Shape
import RestBindings.Discovery.Reading
import RestBindings.Error
import RestBindings.Interpreter
import RestBindings.Text.Blank

/-!
# Generation jobs

A job names a document, the directory for its bindings, a class map if there is one, and the call
shapes wanted.
-/

namespace RestBindings.Config

open Binding Discovery
open Checked (fail)

/-- What to generate from one document. -/
structure Job where
  source : String
  output : String
  /-- The path of a class map. -/
  classMap : Option String
  shapes : Shapes
  deriving DecidableEq, Repr

/-! ## Selectors -/

/-- The kind of a scalar that has no elements. -/
def plainKind? : Scalar → Option PlainKind
  | .bool _ => some .bool
  | .int _ => some .int
  | .real _ => some .real
  | .moment ⟨.date, _⟩ => some .date
  | .moment ⟨.dateTime, _⟩ => some .dateTime
  | .moment ⟨.time, _⟩ => some .time
  | _ => none

/-- A scalar as an element of a selector. -/
def scalarToken : Scalar → Token
  | .text s => .word s
  | _ => .other

/-- A value as an element of a selector. -/
def tokenOf : Value → Token
  | .scalar s => scalarToken s
  | _ => .other

/-- The shapes that a selector selects: a text of words, a list of words, or the keys of a mapping.
The empty value selects both. -/
def readShapes : Value → Except Error Shapes
  | .scalar (.text s) => .ok (Shapes.ofText s)
  | .scalar s =>
    match plainKind? s with
    | some kind => .error (.notIterable kind)
    | none => .ok .both
  | .list items => .ok (Shapes.ofTokens (items.map tokenOf))
  | .set members => .ok (Shapes.ofTokens (members.map scalarToken))
  | .mapping entries => .ok (Shapes.ofTokens (entries.map fun entry => scalarToken entry.1))
  | .opaqueNode => .ok .both

/-! ## Jobs -/

/-- A text that is not blank. -/
def readNonblank (value : Value) : Checked String :=
  match readText value with
  | .valid s => if Text.isBlankText s then fail .blank else .valid s
  | .invalid problems => .invalid problems

/-- The members of a job besides its shapes. -/
def readMembers (entries : Entries) (shapes : Shapes) : Checked Job :=
  (fun source output classMap => Job.mk source output classMap shapes) <$>
    required readNonblank (.of "source") entries <*>
    required readNonblank (.of "output") entries <*>
    withDefault (readOptional readText) none (.of "class_map") entries

variable [Interpreter]

/-- The error of the interpreter for a selector with an element of which no text can be made, if it
has one. -/
def elementFault? : Value → Option String
  | .list items => items.findSome? Interpreter.showing?
  | _ => none

/-- The shapes that a selector of a job selects; a text is made of each of its elements. -/
def readSelection (selector : Value) : Except Error Shapes :=
  match elementFault? selector with
  | some message => .error (.badValue message)
  | none => readShapes selector

/-- The shapes of a job, both if it has no selector. -/
def readSelector (entries : Entries) : Except Error Shapes :=
  match Value.member? "methods" entries with
  | some selector => readSelection selector
  | none => .ok .both

/-- A job.  A selector that cannot be one ends the reading at once. -/
def readJob : Value → Except Error (Checked Job)
  | .mapping entries => (readSelector entries).map (readMembers entries)
  | _ => .ok (fail (.notEntity "DocumentConfig"))

/-- Jobs from an index on. -/
def readJobsFrom (index : Nat) : List Value → Except Error (List (Checked Job))
  | [] => .ok []
  | value :: rest => do
    let job ← readJob value
    return job.under (toString index) :: (← readJobsFrom (index + 1) rest)

/-- A list of jobs, at least one. -/
def readJobList (values : List Value) : Except Error (Checked (List Job)) :=
  if values.isEmpty then .ok (fail .emptyList)
  else (readJobsFrom 0 values).map Checked.all

/-- The jobs that a value lists. -/
def readJobs : Value → Except Error (Checked (List Job))
  | .list items => readJobList items
  | .set members => readJobList (members.map .scalar)
  | _ => .ok (fail .notList)

end RestBindings.Config
