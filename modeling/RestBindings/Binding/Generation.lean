import RestBindings.Binding.Interface
import RestBindings.Binding.Model
import RestBindings.Output.Emitter

/-!
# Generating the bindings of a document

The units of a document are one model class per schema, in the model package, and one interface per
resource, in the package of the base URL; schemas come first, both in document order.  They are
emitted one after the other, and the first error ends the run.
-/

namespace RestBindings.Binding

open Discovery Output

/-- What generation depends on besides the document. -/
structure Options where
  table : TypeTable
  shapes : Shapes
  classes : ClassMap
  deriving DecidableEq, Repr

/-- The standard types, both shapes and no class map. -/
def Options.standard : Options :=
  ⟨TypeTable.standard, .both, []⟩

/-- The package of the model classes. -/
def modelPackage (package : String) : String :=
  package ++ ".model"

/-- The unit for a schema. -/
def modelUnit (options : Options) (package : String) (s : Schema) : SourceUnit where
  path := Source.Package.filePath (modelPackage package) (Model.fileName s)
  source := Model.source (modelPackage package) options.table options.classes s

/-- The unit for a resource. -/
def interfaceUnit (options : Options) (package : String) (r : Resource) : SourceUnit where
  path := Source.Package.filePath package (Interface.fileName r)
  source := Interface.source package options.table options.shapes r

/-- The units of a document in a package. -/
def unitsIn (options : Options) (package : String) (d : Document) : List SourceUnit :=
  d.schemas.map (fun entry => modelUnit options package entry.2) ++
    d.resources.map (fun entry => interfaceUnit options package entry.2)

/-- Emits the units of a document; the locations are those of all its units. -/
def generate {σ : Type} (store : Store σ) (options : Options) (d : Document) (p : Progress σ) :
    Except Error (List String) × Progress σ :=
  match Source.Package.ofUrl d.baseUrl with
  | .error cause => (.error (.package cause), p)
  | .ok package => emitAll store (unitsIn options package d) p

end RestBindings.Binding
