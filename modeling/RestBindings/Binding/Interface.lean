import RestBindings.Binding.Signature
import RestBindings.Source.Literal
import RestBindings.Source.Writer

/-!
# Interfaces

Every resource becomes an interface with one member per method and wanted shape.  A member carries
the verb and the path of its method.
-/

namespace RestBindings.Binding

open Discovery Source

namespace Interface

/-- The name of the interface for a resource. -/
def typeName (r : Resource) : String :=
  Identifier.interfaceName r.name

/-- The name of the file for a resource. -/
def fileName (r : Resource) : String :=
  typeName r ++ ".java"

/-- The types that every interface may use. -/
def clientImports : List String := [
  "retrofit.Callback", "retrofit.http.Body", "retrofit.http.DELETE", "retrofit.http.GET",
  "retrofit.http.PATCH", "retrofit.http.POST", "retrofit.http.PUT", "retrofit.http.Path",
  "retrofit.http.Query"]

/-- The literal of the path of a method. -/
def pathLiteral (m : Method) : String :=
  Literal.quote ("/" ++ m.path)

/-- The declarations of one member. -/
def memberOf (m : Method) (s : Signature) : List Declaration := [
  .annotate m.httpMethod (some (pathLiteral m)),
  .method s.returnType s.name s.argumentTexts []]

/-- The declarations of the members for a method. -/
def membersOf (table : TypeTable) (shapes : Shapes) (m : Method) :
    Except Error (List Declaration) :=
  match signaturesOf table shapes m with
  | .ok signatures => .ok (signatures.flatMap (memberOf m))
  | .error e => .error e

/-- The declarations in front of the members. -/
def opening (package : String) (r : Resource) : List Declaration := [
  .package package, .imports [package ++ ".model.*"], .emptyLine,
  .imports ["java.util.List"], .emptyLine, .imports clientImports, .emptyLine,
  .beginType (package ++ "." ++ typeName r) "interface" ["public"]]

/-- The declarations of the interface for a resource. -/
def declarations (package : String) (table : TypeTable) (shapes : Shapes) (r : Resource) :
    Except Error (List Declaration) :=
  match Traversal.all (membersOf table shapes) (r.methods.map Prod.snd) with
  | .ok members => .ok (opening package r ++ members.flatten ++ [.endType])
  | .error e => .error e

/-- The source of the interface for a resource. -/
def source (package : String) (table : TypeTable) (shapes : Shapes) (r : Resource) :
    Except Error String :=
  match declarations package table shapes.orBoth r with
  | .error e => .error e
  | .ok ds =>
    match textOfDeclarations ds with
    | .ok text => .ok text
    | .error cause => .error (.writer cause)

end Interface

end RestBindings.Binding
