import RestBindings.Proofs.Acceptance
import RestBindings.Proofs.Typing

/-!
# The canonical encoding of a document

`Document.encode` writes a document as the value that describes it: every member under its name
in documents, members without a value left out, mappings in their order. A parameter is one flat
object that holds the members of its descriptor beside its own.

`Document.Canonical` is the form of the documents that this encoding can tell apart from all
others. Resources and methods are named after the keys they stand under, because reading names
them so; an array has the type `array` and a primitive has another one, because the type alone
tells the two apart; and no more descriptors stand within one another than are read.

What is written is always JSON (`Document.isJson_encode`).
-/

namespace RestBindings.Discovery

/-! ## Members -/

/-- The entries of named members; a member without a value has none. -/
def entriesOf (members : List (String × Option Value)) : Entries :=
  members.filterMap fun member => member.2.map fun value => (.text member.1, value)

/-- A mapping with every value encoded, in order. -/
def encodeMapping {α : Type} (encode : α → Value) (pairs : List (String × α)) : Value :=
  .mapping (pairs.map fun pair => (.text pair.1, encode pair.2))

theorem entriesOf_cons_none (name : String) (members : List (String × Option Value)) :
    entriesOf ((name, none) :: members) = entriesOf members := rfl

theorem entriesOf_cons_some (name : String) (v : Value)
    (members : List (String × Option Value)) :
    entriesOf ((name, some v) :: members) = (.text name, v) :: entriesOf members := rfl

theorem mem_entriesOf {members : List (String × Option Value)} {entry : Scalar × Value}
    (h : entry ∈ entriesOf members) :
    ∃ name, entry.1 = .text name ∧ (name, some entry.2) ∈ members := by
  obtain ⟨⟨name, value⟩, hm, he⟩ := List.mem_filterMap.mp h
  obtain ⟨v, rfl, rfl⟩ := Option.map_eq_some_iff.mp he
  exact ⟨name, rfl, hm⟩

/-- A member is found under its own name if it has a value, and else among the members behind
it. -/
@[simp] theorem member?_entriesOf_cons (name field : String) (value : Option Value)
    (members : List (String × Option Value)) :
    Value.member? name (entriesOf ((field, value) :: members)) =
      (if field = name then value else none).or (Value.member? name (entriesOf members)) := by
  cases value with
  | none =>
      rw [entriesOf_cons_none, ite_self, Option.none_or]
  | some v =>
      rw [entriesOf_cons_some, Value.member?, Keyed.get?]
      by_cases h : field = name
      · simp [h]
      · simp [h, Value.member?]

@[simp] theorem member?_entriesOf_nil (name : String) :
    Value.member? name (entriesOf []) = none := rfl

/-- Members whose values are JSON make a JSON object. -/
theorem isJson_entriesOf {members : List (String × Option Value)}
    (h : ∀ member ∈ members, ∀ v ∈ member.2, v.IsJson) :
    (Value.mapping (entriesOf members)).IsJson := by
  refine .mapping (fun entry he => ?_) fun entry he => ?_
  · obtain ⟨name, hname, -⟩ := mem_entriesOf he
    exact ⟨name, hname⟩
  · obtain ⟨name, -, hm⟩ := mem_entriesOf he
    exact h _ hm entry.2 rfl

/-- Values that are encoded as JSON make a JSON object. -/
theorem isJson_encodeMapping {α : Type} {encode : α → Value} {pairs : List (String × α)}
    (h : ∀ pair ∈ pairs, (encode pair.2).IsJson) : (encodeMapping encode pairs).IsJson := by
  refine .mapping (fun entry he => ?_) fun entry he => ?_
  · obtain ⟨pair, -, rfl⟩ := List.mem_map.mp he
    exact ⟨pair.1, rfl⟩
  · obtain ⟨pair, hp, rfl⟩ := List.mem_map.mp he
    exact h pair hp

/-- A value that is left out or encoded as JSON. -/
theorem isJson_of_mem_map {α : Type} {encode : α → Value} (h : ∀ a, (encode a).IsJson)
    (o : Option α) : ∀ v ∈ o.map encode, v.IsJson := by
  intro v hv
  obtain ⟨a, -, rfl⟩ := Option.map_eq_some_iff.mp hv
  exact h a

/-! ## The encoding -/

/-- The members of a type descriptor. -/
def Descriptor.members : Descriptor → List (String × Option Value)
  | .primitive type format => [("type", some (.ofText type)), ("format", format.map .ofText)]
  | .array type items =>
    [("type", some (.ofText type)), ("items", some (.mapping (entriesOf items.members)))]
  | .reference ref => [("$ref", some (.ofText ref))]

/-- A type descriptor as a value. -/
def Descriptor.encode (d : Descriptor) : Value :=
  .mapping (entriesOf d.members)

/-- The members of a schema. -/
def Schema.members (s : Schema) : List (String × Option Value) :=
  [("id", some (.ofText s.id)),
    ("properties", some (encodeMapping Descriptor.encode s.properties))]

/-- A schema as a value. -/
def Schema.encode (s : Schema) : Value :=
  .mapping (entriesOf s.members)

/-- The members of a parameter: those of its descriptor and its own. -/
def Parameter.members (p : Parameter) : List (String × Option Value) :=
  p.descriptor.members ++ [("location", p.location.map .ofText),
    ("required", some (.scalar (.bool p.required)))]

/-- A parameter as one flat object. -/
def Parameter.encode (p : Parameter) : Value :=
  .mapping (entriesOf p.members)

/-- The members of a request body. -/
def RequestBody.members (body : RequestBody) : List (String × Option Value) :=
  [("$ref", some (.ofText body.ref)), ("parameterName", some (.ofText body.parameterName))]

/-- A request body as a value. -/
def RequestBody.encode (body : RequestBody) : Value :=
  .mapping (entriesOf body.members)

/-- A response body as a value. -/
def ResponseBody.encode (body : ResponseBody) : Value :=
  .mapping (entriesOf [("$ref", some (.ofText body.ref))])

/-- A list of texts as a value. -/
def encodeTexts (texts : List String) : Value :=
  .list (texts.map .ofText)

/-- The members of a method. -/
def Method.members (m : Method) : List (String × Option Value) :=
  [("name", some (.ofText m.name)), ("httpMethod", some (.ofText m.httpMethod)),
    ("path", some (.ofText m.path)), ("request", m.request.map RequestBody.encode),
    ("response", m.response.map ResponseBody.encode),
    ("parameters", some (encodeMapping Parameter.encode m.parameters)),
    ("parameterOrder", m.parameterOrder.map encodeTexts)]

/-- A method as a value. -/
def Method.encode (m : Method) : Value :=
  .mapping (entriesOf m.members)

/-- The members of a resource. -/
def Resource.members (r : Resource) : List (String × Option Value) :=
  [("name", some (.ofText r.name)), ("methods", some (encodeMapping Method.encode r.methods))]

/-- A resource as a value. -/
def Resource.encode (r : Resource) : Value :=
  .mapping (entriesOf r.members)

/-- The members of a document. -/
def Document.members (d : Document) : List (String × Option Value) :=
  [("baseUrl", some (.ofText d.baseUrl)), ("name", d.name.map .ofText),
    ("version", d.version.map .ofText), ("title", d.title.map .ofText),
    ("schemas", some (encodeMapping Schema.encode d.schemas)),
    ("resources", some (encodeMapping Resource.encode d.resources))]

/-- A document as a value. -/
def Document.encode (d : Document) : Value :=
  .mapping (entriesOf d.members)

/-! ## The canonical form -/

/-- Every array of a type descriptor has the type `array`. -/
def Descriptor.ArraysNamed : Descriptor → Prop
  | .array type items => type = "array" ∧ items.ArraysNamed
  | _ => True

/-- The number of descriptors that stand within one another. -/
def Descriptor.levels : Descriptor → Nat
  | .primitive .. => 1
  | .array _ items => items.levels + 1
  | .reference _ => 1

/-- The type descriptors of a document: those of the properties and those of the parameters. -/
def Document.descriptors (d : Document) : List Descriptor :=
  d.schemas.flatMap (fun schema => schema.2.properties.map Prod.snd) ++
    d.resources.flatMap fun resource => resource.2.methods.flatMap fun method =>
      method.2.parameters.map fun parameter => parameter.2.descriptor

theorem Document.mem_descriptors_of_schema {d : Document} {schema : String × Schema}
    (hs : schema ∈ d.schemas) {property : String × Descriptor}
    (hp : property ∈ schema.2.properties) : property.2 ∈ d.descriptors :=
  List.mem_append_left _ (List.mem_flatMap.mpr ⟨schema, hs, List.mem_map_of_mem hp⟩)

theorem Document.mem_descriptors_of_method {d : Document} {resource : String × Resource}
    (hr : resource ∈ d.resources) {method : String × Method} (hm : method ∈ resource.2.methods)
    {parameter : String × Parameter} (hp : parameter ∈ method.2.parameters) :
    parameter.2.descriptor ∈ d.descriptors := by
  refine List.mem_append_right _ (List.mem_flatMap.mpr ⟨resource, hr, ?_⟩)
  exact List.mem_flatMap.mpr ⟨method, hm, List.mem_map.mpr ⟨parameter, hp, rfl⟩⟩

/-- A descriptor of a document belongs to a property or to a parameter. -/
theorem Document.forall_descriptors_iff {d : Document} {P : Descriptor → Prop} :
    (∀ descriptor ∈ d.descriptors, P descriptor) ↔
      (∀ schema ∈ d.schemas, ∀ property ∈ schema.2.properties, P property.2) ∧
        ∀ resource ∈ d.resources, ∀ method ∈ resource.2.methods,
          ∀ parameter ∈ method.2.parameters, P parameter.2.descriptor := by
  constructor
  · intro h
    exact ⟨fun schema hs property hp => h _ (mem_descriptors_of_schema hs hp),
      fun resource hr method hm parameter hp => h _ (mem_descriptors_of_method hr hm hp)⟩
  · rintro ⟨hschemas, hresources⟩ descriptor hd
    rcases List.mem_append.mp hd with hd | hd
    · obtain ⟨schema, hs, hd⟩ := List.mem_flatMap.mp hd
      obtain ⟨property, hp, rfl⟩ := List.mem_map.mp hd
      exact hschemas schema hs property hp
    · obtain ⟨resource, hr, hd⟩ := List.mem_flatMap.mp hd
      obtain ⟨method, hm, hd⟩ := List.mem_flatMap.mp hd
      obtain ⟨parameter, hp, rfl⟩ := List.mem_map.mp hd
      exact hresources resource hr method hm parameter hp

/-! ## What is written is JSON -/

@[simp] theorem isJson_text (s : String) : (Scalar.text s).IsJson := trivial

@[simp] theorem isJson_bool (b : Bool) : (Scalar.bool b).IsJson := trivial

theorem isJson_encodeTexts (texts : List String) : (encodeTexts texts).IsJson := by
  refine .list fun item hi => ?_
  obtain ⟨s, -, rfl⟩ := List.mem_map.mp hi
  exact isJson_ofText s

theorem Descriptor.isJson_members (d : Descriptor) :
    ∀ member ∈ d.members, ∀ v ∈ member.2, v.IsJson := by
  induction d with
  | primitive type format => simp [members]
  | array type items ih => simp [members, isJson_entriesOf ih]
  | reference ref => simp [members]

theorem Schema.isJson_encode (s : Schema) : s.encode.IsJson := by
  have hproperties : (encodeMapping Descriptor.encode s.properties).IsJson :=
    isJson_encodeMapping fun property _ => isJson_entriesOf property.2.isJson_members
  exact isJson_entriesOf (by simp [members, hproperties])

theorem Parameter.isJson_encode (p : Parameter) : p.encode.IsJson := by
  have hlocation := isJson_of_mem_map isJson_ofText p.location
  refine isJson_entriesOf fun member hm => ?_
  rcases List.mem_append.mp hm with hm | hm
  · exact p.descriptor.isJson_members member hm
  · rcases List.mem_cons.mp hm with rfl | hm
    · exact hlocation
    · obtain rfl := List.mem_singleton.mp hm
      simp

theorem RequestBody.isJson_encode (body : RequestBody) : body.encode.IsJson :=
  isJson_entriesOf (by simp [members])

theorem ResponseBody.isJson_encode (body : ResponseBody) : body.encode.IsJson :=
  isJson_entriesOf (by simp)

theorem Method.isJson_encode (m : Method) : m.encode.IsJson := by
  have hrequest := isJson_of_mem_map RequestBody.isJson_encode m.request
  have hresponse := isJson_of_mem_map ResponseBody.isJson_encode m.response
  have hparameters : (encodeMapping Parameter.encode m.parameters).IsJson :=
    isJson_encodeMapping fun parameter _ => parameter.2.isJson_encode
  have horder := isJson_of_mem_map isJson_encodeTexts m.parameterOrder
  refine isJson_entriesOf ?_
  simp only [members, List.forall_mem_cons]
  exact ⟨by simp, by simp, by simp, hrequest, hresponse, by simp [hparameters], horder, by simp⟩

theorem Resource.isJson_encode (r : Resource) : r.encode.IsJson := by
  have hmethods : (encodeMapping Method.encode r.methods).IsJson :=
    isJson_encodeMapping fun method _ => method.2.isJson_encode
  exact isJson_entriesOf (by simp [members, hmethods])

/-- **A document is always written as JSON.** -/
theorem Document.isJson_encode (d : Document) : d.encode.IsJson := by
  have hname := isJson_of_mem_map isJson_ofText d.name
  have hversion := isJson_of_mem_map isJson_ofText d.version
  have htitle := isJson_of_mem_map isJson_ofText d.title
  have hschemas : (encodeMapping Schema.encode d.schemas).IsJson :=
    isJson_encodeMapping fun schema _ => schema.2.isJson_encode
  have hresources : (encodeMapping Resource.encode d.resources).IsJson :=
    isJson_encodeMapping fun resource _ => resource.2.isJson_encode
  refine isJson_entriesOf ?_
  simp only [members, List.forall_mem_cons]
  exact ⟨by simp, hname, hversion, htitle, by simp [hschemas], by simp [hresources], by simp⟩

end RestBindings.Discovery
