/-!
# Discovery documents

The part of a discovery document that bindings are generated from: the base URL, the schemas with
their typed properties, and the resources with their methods.
-/

namespace RestBindings.Discovery

/-- The type of a property or a parameter. -/
inductive Descriptor
  /-- A scalar type by name, with an optional refinement. -/
  | primitive (type : String) (format : Option String)
  /-- A sequence of another type. -/
  | array (type : String) (items : Descriptor)
  /-- Another schema by its id. -/
  | reference (ref : String)
  deriving DecidableEq, Repr

/-- A named entity with typed properties, in document order. -/
structure Schema where
  id : String
  properties : List (String × Descriptor)
  deriving DecidableEq, Repr

/-- A parameter of a method. -/
structure Parameter where
  descriptor : Descriptor
  /-- Where a request carries the parameter. -/
  location : Option String
  required : Bool
  deriving DecidableEq, Repr

/-- The request body of a method. -/
structure RequestBody where
  ref : String
  /-- The name of the body parameter. -/
  parameterName : String
  deriving DecidableEq, Repr

/-- The response body of a method. -/
structure ResponseBody where
  ref : String
  deriving DecidableEq, Repr

/-- One operation of a resource. -/
structure Method where
  name : String
  httpMethod : String
  path : String
  request : Option RequestBody
  response : Option ResponseBody
  parameters : List (String × Parameter)
  /-- Names of the parameters that come first in a call. -/
  parameterOrder : Option (List String)
  deriving DecidableEq, Repr

/-- A named group of methods. -/
structure Resource where
  name : String
  methods : List (String × Method)
  deriving DecidableEq, Repr

/-- A discovery document. -/
structure Document where
  baseUrl : String
  name : Option String
  version : Option String
  title : Option String
  schemas : List (String × Schema)
  resources : List (String × Resource)
  deriving DecidableEq, Repr

end RestBindings.Discovery
