/-!
# Errors of the YAML reader
-/

namespace RestBindings.Yaml

/-- Why a YAML text has no value. -/
inductive Error
  /-- The notation is violated, or nodes do not fit together. -/
  | malformed
  /-- A truth value is none of the known words. -/
  | unknownTruth
  /-- A number without characters. -/
  | emptyNumber
  /-- A number, date or character that its type does not hold. -/
  | outOfRange (message : String)
  /-- The code of a character is beyond every code. -/
  | hugeCode
  /-- A date that is not written as one. -/
  | notDate
  deriving DecidableEq, Repr

/-- The text of an error; those of broken notation and unknown words have none of their own. -/
def Error.message : Error → String
  | malformed => "the text is not YAML"
  | unknownTruth => "the word is no truth value"
  | emptyNumber => "string index out of range"
  | outOfRange text => text
  | hugeCode => "Python int too large to convert to C int"
  | notDate => "'NoneType' object has no attribute 'groupdict'"

end RestBindings.Yaml
