import RestBindings.Keyed

/-!
# Object types of the generated source
-/

namespace RestBindings.Source

/-- The value types, each with the object type of the same values. -/
def boxedTypes : List (String × String) := [
  ("boolean", "Boolean"), ("byte", "Byte"), ("char", "Character"), ("short", "Short"),
  ("int", "Integer"), ("long", "Long"), ("float", "Float"), ("double", "Double")]

/-- The object type for a type; a type that is no value type stays as it is. -/
def box (type : String) : String :=
  (Keyed.get? type boxedTypes).getD type

end RestBindings.Source
