import RestBindings.Binding.ParameterOrder
import RestBindings.Binding.Shape
import RestBindings.Binding.TypeTable
import RestBindings.Source.Identifier

/-!
# Signatures of generated calls

A call takes the request body, then the ordered parameters and, in the shape that delivers its
result to a callback, the callback.
-/

namespace RestBindings.Binding

open Discovery

/-- What marks an argument of a call. -/
inductive Mark
  | none
  /-- The request body. -/
  | body
  /-- A part of the path, under its name in the document. -/
  | path (name : String)
  /-- A part of the query, under its name in the document. -/
  | query (name : String)
  deriving DecidableEq, Repr

/-- An argument of a call. -/
structure Argument where
  mark : Mark
  type : String
  identifier : String
  deriving DecidableEq, Repr

/-- The text of a mark, with the blank behind it. -/
def Mark.text : Mark → String
  | none => ""
  | body => "@Body "
  | path name => "@Path(\"" ++ name ++ "\") "
  | query name => "@Query(\"" ++ name ++ "\") "

/-- The text of an argument. -/
def Argument.text (a : Argument) : String :=
  a.mark.text ++ a.type ++ " " ++ a.identifier

/-- A call: its name, what it returns and what it takes. -/
structure Signature where
  name : String
  returnType : String
  arguments : List Argument
  deriving DecidableEq, Repr

namespace Signature

/-- The type of no result. -/
def noResult : String := "void"

/-- The object type of no result. -/
def noResultObject : String := "Void"

/-- The variable of the callback. -/
def callbackIdentifier : String := "cb"

/-- A call without arguments and result. -/
def start (name : String) : Signature :=
  ⟨name, noResult, []⟩

/-- The texts of the arguments. -/
def argumentTexts (s : Signature) : List String :=
  s.arguments.map Argument.text

/-- The text of a signature. -/
def text (s : Signature) : String :=
  s.returnType ++ " " ++ s.name ++ "(" ++ Text.join ", " s.argumentTexts ++ ");"

/-- An argument more. -/
def add (s : Signature) (a : Argument) : Signature :=
  { s with arguments := s.arguments ++ [a] }

/-- The identifier for the name of a variable. -/
def identifierFor (name : String) : Except Error String :=
  match Source.Identifier.ofName name with
  | .ok identifier => .ok identifier
  | .error cause => .error (.identifier cause)

/-- The argument for a request body. -/
def bodyArgument (body : RequestBody) : Except Error Argument :=
  match identifierFor body.parameterName with
  | .ok identifier => .ok ⟨.body, body.ref, identifier⟩
  | .error e => .error e

/-- The mark of a parameter by its location. -/
def markFor (name : String) (location : Option String) : Mark :=
  if location = some "path" then .path name
  else if location = some "query" then .query name
  else .none

/-- The argument for a parameter of a call. -/
def parameterArgument (table : TypeTable) (call : String) (named : Named) :
    Except Error Argument :=
  match table.typeOfParameter (some (call ++ "." ++ named.1)) named.2 with
  | .error e => .error e
  | .ok type =>
    match identifierFor named.1 with
    | .ok identifier => .ok ⟨markFor named.1 named.2.location, type, identifier⟩
    | .error e => .error e

/-- The argument for the callback that receives a response. -/
def callbackArgument (response : Option ResponseBody) : Argument :=
  let result := match response with
    | some body => body.ref
    | none => noResultObject
  ⟨.none, "Callback<" ++ result ++ ">", callbackIdentifier⟩

/-- Adds the request body, if there is one. -/
def withBody (s : Signature) : Option RequestBody → Except Error Signature
  | none => .ok s
  | some body =>
    match bodyArgument body with
    | .ok argument => .ok (s.add argument)
    | .error e => .error e

/-- Adds parameters one after the other; with the error that stopped it, the signature up to
there. -/
def extend (table : TypeTable) (s : Signature) : List Named → Signature × Option Error
  | [] => (s, none)
  | named :: rest =>
    match parameterArgument table s.name named with
    | .ok argument => extend table (s.add argument) rest
    | .error e => (s, some e)

/-- Adds parameters one after the other. -/
def withParameters (table : TypeTable) (s : Signature) (parameters : List Named) :
    Except Error Signature :=
  match s.extend table parameters with
  | (s, none) => .ok s
  | (_, some e) => .error e

/-- Adds the callback for a response. -/
def withCallback (s : Signature) (response : Option ResponseBody) : Signature :=
  s.add (callbackArgument response)

/-- Returns a response. -/
def returning (s : Signature) (response : Option ResponseBody) : Signature :=
  let result := match response with
    | some body => body.ref
    | none => noResult
  { s with returnType := result }

/-- Completes a call that takes body and parameters to one of a shape. -/
def shaped (s : Signature) (response : Option ResponseBody) : Shape → Signature
  | .sync => s.returning response
  | .async => s.withCallback response

end Signature

/-- The signature of a method in one shape, its parameters being in order already. -/
def signatureOf (table : TypeTable) (m : Method) (parameters : List Named) (shape : Shape) :
    Except Error Signature :=
  match (Signature.start m.name).withBody m.request with
  | .error e => .error e
  | .ok s =>
    match s.withParameters table parameters with
    | .error e => .error e
    | .ok s => .ok (s.shaped m.response shape)

/-- The signatures of a method in the wanted shapes. -/
def signaturesOf (table : TypeTable) (shapes : Shapes) (m : Method) :
    Except Error (List Signature) :=
  match arrange m with
  | .error e => .error e
  | .ok parameters => Traversal.all (signatureOf table m parameters) shapes.toList

end RestBindings.Binding
