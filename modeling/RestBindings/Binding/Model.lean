import RestBindings.Binding.ClassMap
import RestBindings.Binding.TypeTable
import RestBindings.Source.Writer

/-!
# Model classes

Every schema becomes a class with one public field per property, in document order.  The class map
decides the type of a field before the descriptor of the property does.
-/

namespace RestBindings.Binding

open Discovery Source

namespace Model

/-- The name of the file for a schema. -/
def fileName (s : Schema) : String :=
  s.id ++ ".java"

/-- The type of the field for a property. -/
def fieldType (table : TypeTable) (classes : ClassMap) (s : Schema)
    (property : String × Descriptor) : Except Error String :=
  match classes.typeOf? property.1 with
  | some type => .ok type
  | none => table.typeOf (some (s.id ++ "." ++ property.1)) property.2

/-- The field for a property. -/
def fieldOf (table : TypeTable) (classes : ClassMap) (s : Schema)
    (property : String × Descriptor) : Except Error Declaration :=
  match fieldType table classes s property with
  | .ok type => .ok (.field type property.1 ["public"])
  | .error e => .error e

/-- The declarations in front of the fields. -/
def opening (package : String) (s : Schema) : List Declaration := [
  .package package, .imports ["java.util.List"], .emptyLine,
  .beginType (package ++ "." ++ s.id) "class" ["public"]]

/-- The declarations of the class for a schema. -/
def declarations (package : String) (table : TypeTable) (classes : ClassMap) (s : Schema) :
    Except Error (List Declaration) :=
  match Traversal.all (fieldOf table classes s) s.properties with
  | .ok fields => .ok (opening package s ++ fields ++ [.endType])
  | .error e => .error e

/-- The source of the class for a schema. -/
def source (package : String) (table : TypeTable) (classes : ClassMap) (s : Schema) :
    Except Error String :=
  match declarations package table classes s with
  | .error e => .error e
  | .ok ds =>
    match textOfDeclarations ds with
    | .ok text => .ok text
    | .error cause => .error (.writer cause)

end Model

end RestBindings.Binding
