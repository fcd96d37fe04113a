import RestBindings.Text.Split

/-!
# Checking with all problems reported

A check either yields a value or lists every problem it found, in the order of the parts it
looked at.  Problems of a part carry the place of that part in front of their own place.
-/

namespace RestBindings

/-- What is wrong at one place of a value. -/
inductive Fault
  /-- A required member is absent. -/
  | missing
  | notText
  /-- Bytes where a text is expected, and they are no encoded text. -/
  | undecodableText
  | notMapping
  | notList
  /-- Something else than a mapping where an entity is expected. -/
  | notEntity (entity : String)
  | notBoolean
  /-- A text or number that denotes no truth value. -/
  | unclearBoolean
  /-- A type descriptor that is not a mapping. -/
  | noDescriptorKind
  /-- A type descriptor within more others than are read. -/
  | tooDeep
  /-- A text of blanks only where something must be named. -/
  | blank
  /-- A member that is not known. -/
  | unexpected
  /-- A list without items where one is needed. -/
  | emptyList
  /-- A setting of the environment that is not JSON. -/
  | undecodableSetting (name : String)
  deriving DecidableEq, Repr

/-- The text of a fault. -/
def Fault.message : Fault → String
  | missing => "Field required"
  | notText => "Input should be a valid string"
  | undecodableText =>
    "Input should be a valid string, unable to parse raw data as a unicode string"
  | notMapping => "Input should be a valid dictionary"
  | notList => "Input should be a valid list"
  | notEntity entity => "Input should be a valid dictionary or instance of " ++ entity
  | notBoolean => "Input should be a valid boolean"
  | unclearBoolean => "Input should be a valid boolean, unable to interpret input"
  | noDescriptorKind => "Unable to extract tag using discriminator _get_descriptor_kind()"
  | tooDeep => "Recursion error - cyclic reference detected"
  | blank => "Value error, must not be empty"
  | unexpected => "Extra inputs are not permitted"
  | emptyList => "List should have at least 1 item after validation, not 0"
  | undecodableSetting name =>
    "Value error, error parsing value for field \"" ++ name ++
      "\" from source \"EnvSettingsSource\""

/-- The short name of a fault. -/
def Fault.code : Fault → String
  | missing => "missing"
  | notText => "string_type"
  | undecodableText => "string_unicode"
  | notMapping => "dict_type"
  | notList => "list_type"
  | notEntity _ => "model_type"
  | notBoolean => "bool_type"
  | unclearBoolean => "bool_parsing"
  | noDescriptorKind => "union_tag_not_found"
  | tooDeep => "recursion_loop"
  | blank => "value_error"
  | unexpected => "extra_forbidden"
  | emptyList => "too_short"
  | undecodableSetting _ => "value_error"

/-- A fault with the place where it was found, outermost step first. -/
structure Problem where
  place : List String
  fault : Fault
  deriving DecidableEq, Repr

/-- The steps of a place in one text. -/
def Problem.placeText (p : Problem) : String :=
  Text.join "." p.place

/-- The outcome of a check. -/
inductive Checked (α : Type)
  | valid (value : α)
  | invalid (problems : List Problem)
  deriving Repr

namespace Checked

variable {α β : Type}

/-- A problem at the checked place itself. -/
def fail (fault : Fault) : Checked α :=
  .invalid [⟨[], fault⟩]

/-- The problems that a check reports. -/
def problems : Checked α → List Problem
  | valid _ => []
  | invalid ps => ps

/-- The value of a check without problems. -/
def value? : Checked α → Option α
  | valid a => some a
  | invalid _ => none

/-- Applies a function to the value. -/
def map (f : α → β) : Checked α → Checked β
  | valid a => valid (f a)
  | invalid ps => invalid ps

/-- Applies a checked function to a checked value; the problems of both are kept. -/
def apply : Checked (α → β) → Checked α → Checked β
  | valid f, x => x.map f
  | invalid ps, x => invalid (ps ++ x.problems)

instance : Functor Checked where
  map := map

instance : Applicative Checked where
  pure := valid
  seq f x := f.apply (x ())

/-- A check of a part, its problems placed under the given step. -/
def under (step : String) : Checked α → Checked α
  | valid a => valid a
  | invalid ps => invalid (ps.map fun p => { p with place := step :: p.place })

/-- Checks one after the other, the values in a list. -/
def all : List (Checked α) → Checked (List α)
  | [] => valid []
  | x :: rest => (List.cons <$> x) <*> all rest

end Checked

end RestBindings
