import RestBindings.Discovery.Document
import RestBindings.Error
import RestBindings.Keyed
import RestBindings.Source.Boxed

/-!
# Types of the generated source

A type table gives the source type for every primitive type name.  Lists hold object types, and an
optional parameter of a value type gets the object type, so that it can be left out.
-/

namespace RestBindings.Binding

open Discovery

/-- Source types by primitive type name. -/
abbrev TypeTable := List (String × String)

namespace TypeTable

/-- The table used when no other is given. -/
def standard : TypeTable :=
  [("string", "String"), ("integer", "int"), ("number", "double"), ("boolean", "boolean")]

/-- A table of pairs, the last pair for a name being the one that counts; the standard table in
place of an empty one. -/
def ofPairs (pairs : List (String × String)) : TypeTable :=
  if pairs.isEmpty then standard else Keyed.ofList pairs

/-- The source type of a list. -/
def listOf (item : String) : String :=
  "List<" ++ Source.box item ++ ">"

/-- The source type for a descriptor; the context names what has that type. -/
def typeOf (table : TypeTable) (context : Option String) : Descriptor → Except Error String
  | .primitive type _ =>
    match Keyed.get? type table with
    | some found => .ok found
    | none => .error (.failure (.unsupportedType type context))
  | .array _ items =>
    match table.typeOf context items with
    | .ok item => .ok (listOf item)
    | .error e => .error e
  | .reference ref => .ok ref

/-- The descriptor is a primitive one. -/
def isPrimitive : Descriptor → Bool
  | .primitive .. => true
  | _ => false

/-- The source type for a parameter. -/
def typeOfParameter (table : TypeTable) (context : Option String) (p : Parameter) :
    Except Error String :=
  match table.typeOf context p.descriptor with
  | .ok type => .ok (if !p.required && isPrimitive p.descriptor then Source.box type else type)
  | .error e => .error e

end TypeTable

end RestBindings.Binding
