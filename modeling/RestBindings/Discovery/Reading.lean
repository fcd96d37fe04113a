import RestBindings.Checked
import RestBindings.Discovery.Document
import RestBindings.Text.Encoding
import RestBindings.Value

/-!
# Reading a discovery document from a decoded value

Each entity has a reader that checks a value and reports every problem in the order of the members
of the entity.  A member may be given under its name in documents or under its plain name; the
former wins.  Members that are not known are ignored.  Schemas without an id, resources and methods
are named after the key they stand under before they are read.  Type descriptors are read as long as
no more than `nestingLimit` of them stand within one another; this limit is that of the validator.
-/

namespace RestBindings.Discovery

open Checked (fail)

/-- The entries of a mapping value. -/
abbrev Entries := List (Scalar × Value)

/-! ## Members -/

/-- A member of an entity that documents may give under one of two names. -/
structure Member where
  /-- The name in documents. -/
  name : String
  /-- The plain name. -/
  plain : String

/-- A member with one name. -/
def Member.of (name : String) : Member :=
  ⟨name, name⟩

/-- The value of a member, with the name it was found under. -/
def Member.find? (m : Member) (entries : Entries) : Option (String × Value) :=
  match Value.member? m.name entries with
  | some value => some (m.name, value)
  | none => (Value.member? m.plain entries).map fun value => (m.plain, value)

/-- A member that must be present. -/
def required {α : Type} (read : Value → Checked α) (m : Member) (entries : Entries) : Checked α :=
  match m.find? entries with
  | some (name, value) => (read value).under name
  | none => (fail .missing : Checked α).under m.name

/-- A member with a value to take when it is absent. -/
def withDefault {α : Type} (read : Value → Checked α) (absent : α) (m : Member)
    (entries : Entries) : Checked α :=
  match m.find? entries with
  | some (name, value) => (read value).under name
  | none => .valid absent

/-! ## Plain values -/

/-- A text, or bytes that encode one. -/
def readText : Value → Checked String
  | .scalar (.text s) => .valid s
  | .scalar (.bytes b) =>
    match Text.decodeUtf8? b with
    | some s => .valid s
    | none => fail .undecodableText
  | _ => fail .notText

/-- A value that may be left empty. -/
def readOptional {α : Type} (read : Value → Checked α) : Value → Checked (Option α)
  | .scalar .null => .valid none
  | value => some <$> read value

/-- The texts for a truth value, in lower case. -/
def truthTexts : List (String × Bool) := [
  ("0", false), ("off", false), ("f", false), ("false", false), ("n", false), ("no", false),
  ("1", true), ("on", true), ("t", true), ("true", true), ("y", true), ("yes", true)]

/-- The truth value that a text denotes in any letter case. -/
def readTruthText (s : String) : Checked Bool :=
  match truthTexts.lookup (String.ofList (s.toList.map Char.toLower)) with
  | some b => .valid b
  | none => fail .unclearBoolean

/-- The truth value of an integer: zero or one. -/
def readTruthNumber (n : Int) : Checked Bool :=
  if n = 0 then .valid false else if n = 1 then .valid true else fail .unclearBoolean

/-- The first positive integer that 64 bits with a sign do not hold. -/
def wordLimit : Int := 0x8000000000000000

/-- A truth value, a text that denotes one, or the number zero or one.  Numbers of more than 64
bits and numbers with a fraction are refused outright. -/
def readBoolean : Value → Checked Bool
  | .scalar (.bool b) => .valid b
  | .scalar (.text s) => readTruthText s
  | .scalar (.bytes b) =>
    match Text.decodeUtf8? b with
    | some s => readTruthText s
    | none => fail .unclearBoolean
  | .scalar (.int n) =>
    if -wordLimit ≤ n ∧ n < wordLimit then readTruthNumber n else fail .notBoolean
  | .scalar (.real x) =>
    match x.toInt? with
    | some n => if -wordLimit < n ∧ n < wordLimit then readTruthNumber n else fail .notBoolean
    | none => fail .notBoolean
  | _ => fail .notBoolean

/-- A list of texts.  A set counts as a list. -/
def readTexts : Value → Checked (List String)
  | .list items => readItems 0 items
  | .set members => readItems 0 (members.map .scalar)
  | _ => fail .notList
where
  /-- The items from an index on. -/
  readItems (index : Nat) : List Value → Checked (List String)
    | [] => .valid []
    | item :: rest => (List.cons <$> (readText item).under (toString index)) <*>
        readItems (index + 1) rest

/-- The key of an entry as a text. -/
def readKey (key : Scalar) : Checked String :=
  (readText (.scalar key)).under "[key]"

/-- One entry of a mapping from texts: its key, then its value. -/
def readEntry {α : Type} (read : Value → Checked α) (entry : Scalar × Value) :
    Checked (String × α) :=
  (Prod.mk <$> readKey entry.1 <*> read entry.2).under entry.1.shown

/-- A mapping from texts, entry by entry. -/
def readMapping {α : Type} (read : Value → Checked α) : Value → Checked (List (String × α))
  | .mapping entries => Keyed.ofList <$> Checked.all (entries.map (readEntry read))
  | _ => fail .notMapping

/-- An entity, read from the entries of a mapping. -/
def readEntity {α : Type} (entity : String) (read : Entries → Checked α) : Value → Checked α
  | .mapping entries => read entries
  | _ => fail (.notEntity entity)

/-! ## Type descriptors -/

/-- The variants of a type descriptor. -/
inductive DescriptorKind
  | primitive
  | array
  | reference
  deriving DecidableEq, Repr

/-- How problems name a variant. -/
def DescriptorKind.tag : DescriptorKind → String
  | primitive => "primitive"
  | array => "array"
  | reference => "reference"

/-- The variant of a mapping: one with a reference member is a reference, one of type `array` an
array, every other one a primitive. -/
def descriptorKind (entries : Entries) : DescriptorKind :=
  if (Value.member? "$ref" entries).isSome || (Value.member? "ref" entries).isSome then .reference
  else match Value.member? "type" entries with
    | some (.scalar (.text "array")) => .array
    | _ => .primitive

/-- The member that names another schema. -/
def refMember : Member :=
  ⟨"$ref", "ref"⟩

/-- A primitive descriptor. -/
def readPrimitive (entries : Entries) : Checked Descriptor :=
  Descriptor.primitive <$> required readText (.of "type") entries <*>
    withDefault (readOptional readText) none (.of "format") entries

/-- A reference descriptor. -/
def readReference (entries : Entries) : Checked Descriptor :=
  Descriptor.reference <$> required readText refMember entries

/-- The type name of an array descriptor. -/
def readArrayType (entries : Entries) : Checked String :=
  withDefault readText "array" (.of "type") entries

/-- The most descriptors within one another that are read: an array has one more than its items.
The validator refuses to go deeper, as it takes such a value for one that contains itself. -/
def nestingLimit : Nat := 254

mutual

/-- A type descriptor of any variant, with so many descriptors within one another. -/
def readNested (room : Nat) : Value → Checked Descriptor
  | .mapping entries =>
    match room with
    | 0 => (fail .tooDeep : Checked Descriptor).under (descriptorKind entries).tag
    | room + 1 =>
      match descriptorKind entries with
      | .primitive => (readPrimitive entries).under "primitive"
      | .array =>
        (Descriptor.array <$> readArrayType entries <*> readArrayItems room entries).under "array"
      | .reference => (readReference entries).under "reference"
  | _ => fail .noDescriptorKind

/-- The descriptor of the items of an array. -/
def readArrayItems (room : Nat) : Entries → Checked Descriptor
  | [] => (fail .missing : Checked Descriptor).under "items"
  | entry :: rest =>
    if entry.1 = .text "items" then (readEntryDescriptor room entry).under "items"
    else readArrayItems room rest

/-- The descriptor that an entry holds. -/
def readEntryDescriptor (room : Nat) : Scalar × Value → Checked Descriptor
  | (_, value) => readNested room value

end

/-- A type descriptor of any variant. -/
def readDescriptor : Value → Checked Descriptor :=
  readNested nestingLimit

/-- An array descriptor. -/
def readArray (entries : Entries) : Checked Descriptor :=
  Descriptor.array <$> readArrayType entries <*> readArrayItems nestingLimit entries

/-! ## Schemas, methods and resources -/

/-- A schema. -/
def readSchema : Value → Checked Schema :=
  readEntity "Schema" fun entries =>
    Schema.mk <$> required readText (.of "id") entries <*>
      withDefault (readMapping readDescriptor) [] (.of "properties") entries

/-- The members of a parameter that do not belong to its descriptor. -/
def isParameterMember (key : Scalar) : Bool :=
  key == .text "location" || key == .text "required"

/-- A parameter written as one flat mapping: the descriptor is what remains without location and
required flag. -/
def splitParameter (entries : Entries) : Entries :=
  if (Value.member? "descriptor" entries).isSome then entries
  else [
    (.text "descriptor", .mapping (entries.filter fun entry => !isParameterMember entry.1)),
    (.text "location", (Value.member? "location" entries).getD .null),
    (.text "required", (Value.member? "required" entries).getD (.scalar (.bool false)))]

/-- A parameter. -/
def readParameter : Value → Checked Parameter :=
  readEntity "ParameterType" fun flat =>
    let entries := splitParameter flat
    Parameter.mk <$> required readDescriptor (.of "descriptor") entries <*>
      withDefault (readOptional readText) none (.of "location") entries <*>
      withDefault readBoolean false (.of "required") entries

/-- A request body. -/
def readRequestBody : Value → Checked RequestBody :=
  readEntity "RequestRef" fun entries =>
    RequestBody.mk <$> required readText refMember entries <*>
      withDefault readText "body" ⟨"parameterName", "parameter_name"⟩ entries

/-- A response body. -/
def readResponseBody : Value → Checked ResponseBody :=
  readEntity "ResponseRef" fun entries => ResponseBody.mk <$> required readText refMember entries

/-- A method. -/
def readMethod : Value → Checked Method :=
  readEntity "Method" fun entries =>
    Method.mk <$> required readText (.of "name") entries <*>
      required readText ⟨"httpMethod", "http_method"⟩ entries <*>
      required readText (.of "path") entries <*>
      withDefault (readOptional readRequestBody) none (.of "request") entries <*>
      withDefault (readOptional readResponseBody) none (.of "response") entries <*>
      withDefault (readMapping readParameter) [] (.of "parameters") entries <*>
      withDefault (readOptional readTexts) none ⟨"parameterOrder", "parameter_order"⟩ entries

/-- A mapping with its key stored under a member, in place of what the member held. -/
def nameAfterKey (member : String) : Scalar × Value → Scalar × Value
  | (key, .mapping entries) => (key, .mapping (Value.store (.text member) (.scalar key) entries))
  | entry => entry

/-- A mapping with its key stored under a member that it lacks. -/
def nameIfUnnamed (member : String) : Scalar × Value → Scalar × Value
  | (key, .mapping entries) =>
    if (Value.member? member entries).isSome then (key, .mapping entries)
    else (key, .mapping (entries ++ [(.text member, .scalar key)]))
  | entry => entry

/-- Names the entries of a mapping; anything else is left as it is. -/
def nameEntries (name : Scalar × Value → Scalar × Value) : Value → Value
  | .mapping entries => .mapping (entries.map name)
  | value => value

/-- A resource; its methods are named after their keys. -/
def readResource : Value → Checked Resource :=
  readEntity "Resource" fun entries =>
    Resource.mk <$> required readText (.of "name") entries <*>
      withDefault (fun value => readMapping readMethod (nameEntries (nameAfterKey "name") value)) []
        (.of "methods") entries

/-- A document; schemas without an id and all resources are named after their keys. -/
def readDocument : Value → Checked Document :=
  readEntity "DiscoveryDocument" fun entries =>
    Document.mk <$> required readText ⟨"baseUrl", "base_url"⟩ entries <*>
      withDefault (readOptional readText) none (.of "name") entries <*>
      withDefault (readOptional readText) none (.of "version") entries <*>
      withDefault (readOptional readText) none (.of "title") entries <*>
      withDefault (fun value => readMapping readSchema (nameEntries (nameIfUnnamed "id") value)) []
        (.of "schemas") entries <*>
      withDefault
        (fun value => readMapping readResource (nameEntries (nameAfterKey "name") value)) []
        (.of "resources") entries

end RestBindings.Discovery
