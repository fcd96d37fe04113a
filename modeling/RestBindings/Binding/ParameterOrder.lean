import RestBindings.Discovery.Document
import RestBindings.Error
import RestBindings.Keyed

/-!
# The order of parameters

The parameters named in the order of a method come first, each once; the others follow as they are
declared.
-/

namespace RestBindings.Binding

open Discovery

/-- A parameter with its name. -/
abbrev Named := String × Parameter

/-- The declared parameters for a list of names, without those already seen and each once. -/
def leading (method : String) (declared : List Named) :
    (seen names : List String) → Except Error (List Named)
  | _, [] => .ok []
  | seen, name :: rest =>
    match Keyed.get? name declared with
    | none => .error (.failure (.undeclaredParameter name (some method)))
    | some parameter =>
      if name ∈ seen then leading method declared seen rest
      else match leading method declared (name :: seen) rest with
        | .ok named => .ok ((name, parameter) :: named)
        | .error e => .error e

/-- The parameters of a method in the order of the generated call. -/
def arrange (m : Method) : Except Error (List Named) :=
  let names := m.parameterOrder.getD []
  match leading m.name m.parameters [] names with
  | .ok first => .ok (first ++ m.parameters.filter fun named => !names.contains named.1)
  | .error e => .error e

end RestBindings.Binding
