import Mathlib.Logic.Relation
import RestBindings.Proofs.Acceptance

/-!
# Edits that a document does not show

A record of a document has members that are recognised, under the names of `RecordKind.names`, and
may have any others. An `Edit` adds, removes or changes members that are not recognised, or puts
the members of a record in another order, in the document itself or in any record below it; the
entries of the mappings from keys to records stay in their places.

What is read from a record depends on the lookups of its recognised names only
(`readAlike_of_corresponding`, one lemma per kind of record), and an edit changes none of these but
for records that are edited themselves. So every edit is read alike (`Edit.readAlike`, by induction
on the edit), and edited documents are accepted or refused alike, with the same problems
(`accept_eq_of_edits`).
-/

namespace RestBindings

/-- Entries with distinct keys are found in any order. -/
theorem Keyed.get?_eq_of_perm {κ α : Type} [DecidableEq κ] {entries others : List (κ × α)}
    (hd : Distinct entries) (h : entries.Perm others) (key : κ) :
    get? key entries = get? key others := by
  have hd' : Distinct others := (h.map Prod.fst).nodup_iff.mp hd
  apply Option.ext
  intro value
  rw [get?_eq_some_iff hd, get?_eq_some_iff hd', h.mem_iff]

namespace Discovery

/-! ## Records and their members -/

/-- The kinds of records of a document. -/
inductive RecordKind
  | document
  | schema
  | resource
  | method
  | request
  | response
  | parameter
  | descriptor
  deriving DecidableEq, Repr

/-- What a recognised member holds: a plain value, a record, or a mapping from keys to records. -/
inductive Part
  | plain
  | record (kind : RecordKind)
  | mapping (kind : RecordKind)
  deriving DecidableEq, Repr

namespace RecordKind

/-- The names under which the members of a record are recognised. A parameter may be its own
descriptor, so it has the members of one. -/
def names : RecordKind → List String
  | document => ["baseUrl", "base_url", "name", "version", "title", "schemas", "resources"]
  | schema => ["id", "properties"]
  | resource => ["name", "methods"]
  | method => ["name", "httpMethod", "http_method", "path", "request", "response", "parameters",
      "parameterOrder", "parameter_order"]
  | request => ["$ref", "ref", "parameterName", "parameter_name"]
  | response => ["$ref", "ref"]
  | parameter => ["$ref", "ref", "type", "format", "items", "descriptor", "location", "required"]
  | descriptor => ["$ref", "ref", "type", "format", "items"]

/-- What the members of a record hold. -/
def holds : RecordKind → String → Part
  | document, "schemas" => .mapping schema
  | document, "resources" => .mapping resource
  | schema, "properties" => .mapping descriptor
  | resource, "methods" => .mapping method
  | method, "request" => .record request
  | method, "response" => .record response
  | method, "parameters" => .mapping parameter
  | parameter, "descriptor" => .record descriptor
  | parameter, "items" => .record descriptor
  | descriptor, "items" => .record descriptor
  | _, _ => .plain

/-- A key that names no recognised member. -/
def Ignores (kind : RecordKind) (key : Scalar) : Prop :=
  ∀ name ∈ kind.names, key ≠ .text name

instance (kind : RecordKind) (key : Scalar) : Decidable (kind.Ignores key) :=
  inferInstanceAs (Decidable (∀ name ∈ kind.names, key ≠ .text name))

end RecordKind

/-- One edit of a record. -/
inductive Edit : RecordKind → Value → Value → Prop
  /-- Members that are not recognised give way to others; either may be none. -/
  | unrecognised {kind : RecordKind} {front others others' back : Entries}
      (ignored : ∀ entry ∈ others ++ others', kind.Ignores entry.1) :
      Edit kind (.mapping (front ++ others ++ back)) (.mapping (front ++ others' ++ back))
  /-- The members take another order. -/
  | permuted {kind : RecordKind} {entries entries' : Entries} (once : Keyed.Distinct entries)
      (perm : entries.Perm entries') : Edit kind (.mapping entries) (.mapping entries')
  /-- A record in a member is edited. -/
  | record {kind inner : RecordKind} {name : String} {front back : Entries} {v v' : Value}
      (held : kind.holds name = .record inner) (edit : Edit inner v v') :
      Edit kind (.mapping (front ++ (.text name, v) :: back))
        (.mapping (front ++ (.text name, v') :: back))
  /-- A record in a mapping in a member is edited. -/
  | entry {kind inner : RecordKind} {name : String} {key : Scalar}
      {front back before after : Entries} {v v' : Value}
      (held : kind.holds name = .mapping inner) (edit : Edit inner v v') :
      Edit kind
        (.mapping (front ++ (.text name, .mapping (before ++ (key, v) :: after)) :: back))
        (.mapping (front ++ (.text name, .mapping (before ++ (key, v') :: after)) :: back))

/-- Only records are edited, and they stay records. -/
theorem Edit.exists_mapping {kind : RecordKind} {v v' : Value} (h : Edit kind v v') :
    (∃ entries, v = .mapping entries) ∧ ∃ entries, v' = .mapping entries := by
  cases h <;> exact ⟨⟨_, rfl⟩, ⟨_, rfl⟩⟩

/-! ## Reading alike -/

/-- Two values are read alike where a record of a kind is expected. The records that stand under
keys are read with the names that they take from them, and descriptors wherever they stand within
others. -/
def ReadAlike : RecordKind → Value → Value → Prop
  | .document, v, v' => readDocument v = readDocument v'
  | .schema, v, v' => ∀ key, readSchema (nameIfUnnamed "id" (key, v)).2 =
      readSchema (nameIfUnnamed "id" (key, v')).2
  | .resource, v, v' => ∀ key, readResource (nameAfterKey "name" (key, v)).2 =
      readResource (nameAfterKey "name" (key, v')).2
  | .method, v, v' => ∀ key, readMethod (nameAfterKey "name" (key, v)).2 =
      readMethod (nameAfterKey "name" (key, v')).2
  | .request, v, v' => readRequestBody v = readRequestBody v'
  | .response, v, v' => readResponseBody v = readResponseBody v'
  | .parameter, v, v' => readParameter v = readParameter v'
  | .descriptor, v, v' => ∀ room, readNested room v = readNested room v'

/-- Two values of a member are the same up to records in them that are read alike. -/
def Part.Alike : Part → Value → Value → Prop
  | plain, v, v' => v = v'
  | record kind, v, v' => v = v' ∨
      ∃ entries entries', v = .mapping entries ∧ v' = .mapping entries' ∧ ReadAlike kind v v'
  | mapping kind, v, v' => v = v' ∨
      ∃ before key w w' after, v = .mapping (before ++ (key, w) :: after) ∧
        v' = .mapping (before ++ (key, w') :: after) ∧ ReadAlike kind w w'

theorem Part.Alike.refl (part : Part) (v : Value) : part.Alike v v := by
  cases part with
  | plain => exact rfl
  | record kind => exact .inl rfl
  | mapping kind => exact .inl rfl

/-- The recognised members of two records are alike, whatever order they stand in. -/
def Corresponding (kind : RecordKind) (entries entries' : Entries) : Prop :=
  ∀ name ∈ kind.names, Option.Rel (kind.holds name).Alike (Value.member? name entries)
    (Value.member? name entries')

section

variable {α : Type} {kind : RecordKind} {entries entries' : Entries} {read : Value → Checked α}
  {m : Member}

/-- What is found alike is read alike. -/
theorem map_eq_of_rel {R : Value → Value → Prop} {o o' : Option Value} (h : Option.Rel R o o')
    (hread : ∀ v v', R v v' → read v = read v') : o.map read = o'.map read := by
  cases h with
  | none => rfl
  | some halike => exact congrArg some (hread _ _ halike)

/-- A required member is read from what is found under its names. -/
theorem required_eq (read : Value → Checked α) (m : Member) (entries : Entries) :
    required read m entries =
      match (Value.member? m.name entries).map read, (Value.member? m.plain entries).map read with
      | some c, _ => c.under m.name
      | none, some c => c.under m.plain
      | none, none => (Checked.fail .missing : Checked α).under m.name := by
  unfold required Member.find?
  cases Value.member? m.name entries with
  | some v => rfl
  | none => cases Value.member? m.plain entries <;> rfl

/-- A member with a default is read from what is found under its names. -/
theorem withDefault_eq (read : Value → Checked α) (absent : α) (m : Member) (entries : Entries) :
    withDefault read absent m entries =
      match (Value.member? m.name entries).map read, (Value.member? m.plain entries).map read with
      | some c, _ => c.under m.name
      | none, some c => c.under m.plain
      | none, none => .valid absent := by
  unfold withDefault Member.find?
  cases Value.member? m.name entries with
  | some v => rfl
  | none => cases Value.member? m.plain entries <;> rfl

/-- A member is recognised in a record and holds a plain value, under either of its names. -/
def RecordKind.HasPlain (kind : RecordKind) (m : Member) : Prop :=
  ∀ name ∈ [m.name, m.plain], name ∈ kind.names ∧ kind.holds name = .plain

instance (kind : RecordKind) (m : Member) : Decidable (kind.HasPlain m) :=
  inferInstanceAs
    (Decidable (∀ name ∈ [m.name, m.plain], name ∈ kind.names ∧ kind.holds name = .plain))

namespace Corresponding

variable (h : Corresponding kind entries entries')

include h

/-- Plain values are the same. -/
theorem member?_eq {name : String} (hname : name ∈ kind.names ∧ kind.holds name = .plain) :
    Value.member? name entries = Value.member? name entries' := by
  have hrel := h name hname.1
  rw [hname.2] at hrel
  generalize Value.member? name entries = o at hrel
  generalize Value.member? name entries' = o' at hrel
  cases hrel with
  | none => rfl
  | some halike => exact congrArg some halike

theorem required_plain (read : Value → Checked α) (hm : kind.HasPlain m) :
    required read m entries = required read m entries' := by
  have hname := h.member?_eq (hm m.name (by simp))
  have hplain := h.member?_eq (hm m.plain (by simp))
  rw [required_eq, required_eq, hname, hplain]

theorem withDefault_plain (read : Value → Checked α) (absent : α) (hm : kind.HasPlain m) :
    withDefault read absent m entries = withDefault read absent m entries' := by
  have hname := h.member?_eq (hm m.name (by simp))
  have hplain := h.member?_eq (hm m.plain (by simp))
  rw [withDefault_eq, withDefault_eq, hname, hplain]

/-- A member under one name is read alike when its values are. -/
theorem required_part {name : String} (hname : name ∈ kind.names)
    (hread : ∀ v v', (kind.holds name).Alike v v' → read v = read v') :
    required read (.of name) entries = required read (.of name) entries' := by
  have hmap := map_eq_of_rel (h name hname) hread
  rw [required_eq, required_eq]
  simp only [Member.of, hmap]

theorem withDefault_part {name : String} (absent : α) (hname : name ∈ kind.names)
    (hread : ∀ v v', (kind.holds name).Alike v v' → read v = read v') :
    withDefault read absent (.of name) entries = withDefault read absent (.of name) entries' := by
  have hmap := map_eq_of_rel (h name hname) hread
  rw [withDefault_eq, withDefault_eq]
  simp only [Member.of, hmap]

end Corresponding

/-! ## Parts -/

/-- A record is read alike. -/
theorem Part.Alike.read_record {inner : RecordKind} {v v' : Value}
    (halike : (Part.record inner).Alike v v')
    (hread : ∀ v v', ReadAlike inner v v' → read v = read v') : read v = read v' := by
  rcases halike with rfl | ⟨_, _, -, -, hinner⟩
  · rfl
  · exact hread _ _ hinner

/-- A record that may be left empty is read alike. -/
theorem Part.Alike.readOptional_record {inner : RecordKind} {v v' : Value}
    (halike : (Part.record inner).Alike v v')
    (hread : ∀ v v', ReadAlike inner v v' → read v = read v') :
    readOptional read v = readOptional read v' := by
  rcases halike with rfl | ⟨entries, entries', rfl, rfl, hinner⟩
  · rfl
  · exact congrArg (some <$> ·) (hread _ _ hinner)

/-- A mapping to records is read alike, whatever these are named after. -/
theorem Part.Alike.readMapping_named {inner : RecordKind} {v v' : Value}
    (halike : (Part.mapping inner).Alike v v') {name : Scalar × Value → Scalar × Value}
    (hkey : ∀ e, (name e).1 = e.1)
    (hread : ∀ key w w', ReadAlike inner w w' → read (name (key, w)).2 = read (name (key, w')).2) :
    readMapping read (nameEntries name v) = readMapping read (nameEntries name v') := by
  rcases halike with rfl | ⟨before, key, w, w', after, rfl, rfl, hinner⟩
  · rfl
  · have hentry : readEntry read (name (key, w)) = readEntry read (name (key, w')) := by
      unfold readEntry
      rw [hkey, hkey, hread key w w' hinner]
    simp only [nameEntries, readMapping, List.map_append, List.map_cons, hentry]

/-- A mapping to records is read alike. -/
theorem Part.Alike.readMapping {inner : RecordKind} {v v' : Value}
    (halike : (Part.mapping inner).Alike v v')
    (hread : ∀ w w', ReadAlike inner w w' → read w = read w') :
    Discovery.readMapping read v = Discovery.readMapping read v' := by
  have hnamed : Discovery.readMapping read (nameEntries id v) =
      Discovery.readMapping read (nameEntries id v') :=
    halike.readMapping_named (fun _ => rfl) fun _ => hread
  rwa [nameEntries_id, nameEntries_id] at hnamed

end

/-! ## Records -/

section

variable {entries entries' : Entries}

/-- The items of an array are a required member. -/
theorem readArrayItems_eq (room : Nat) (entries : Entries) :
    readArrayItems room entries = required (readNested room) (.of "items") entries := by
  rw [required_eq]
  induction entries with
  | nil => rfl
  | cons entry rest ih =>
      obtain ⟨key, v⟩ := entry
      rw [readArrayItems, Value.member?, Keyed.get?]
      by_cases hk : key = .text "items"
      · simp [hk, readEntryDescriptor, Member.of]
      · simpa [hk, Value.member?, Member.of, Keyed.get?] using ih

theorem readNested_congr (h : Corresponding .descriptor entries entries') (room : Nat) :
    readNested room (.mapping entries) = readNested room (.mapping entries') := by
  have hdollar : Value.member? "$ref" entries = Value.member? "$ref" entries' :=
    h.member?_eq (by decide)
  have hplain : Value.member? "ref" entries = Value.member? "ref" entries' :=
    h.member?_eq (by decide)
  have htype : Value.member? "type" entries = Value.member? "type" entries' :=
    h.member?_eq (by decide)
  have hitems (room : Nat) : readArrayItems room entries = readArrayItems room entries' := by
    rw [readArrayItems_eq, readArrayItems_eq]
    exact h.required_part (by decide) fun v v' halike => halike.read_record fun _ _ hd => hd room
  have hkind : descriptorKind entries = descriptorKind entries' := by
    simp only [descriptorKind, hdollar, hplain, htype]
  cases room with
  | zero => rw [readNested, readNested, hkind]
  | succ room =>
      rw [readNested, readNested]
      simp only [hkind, readPrimitive, readReference, readArrayType, hitems,
        h.required_plain readText (m := .of "type") (by decide),
        h.required_plain readText (m := refMember) (by decide),
        h.withDefault_plain (readOptional readText) none (m := .of "format") (by decide),
        h.withDefault_plain readText "array" (m := .of "type") (by decide)]

/-- A parameter is read from its split members. -/
theorem readParameter_congr (h : Corresponding .parameter entries entries') :
    readParameter (.mapping entries) = readParameter (.mapping entries') := by
  have hlocation : Value.member? "location" entries = Value.member? "location" entries' :=
    h.member?_eq (by decide)
  have hrequired : Value.member? "required" entries = Value.member? "required" entries' :=
    h.member?_eq (by decide)
  have hdescriptor : Option.Rel (Part.record .descriptor).Alike
      (Value.member? "descriptor" entries) (Value.member? "descriptor" entries') :=
    h "descriptor" (by decide)
  have hread (v v' : Value) (halike : (Part.record .descriptor).Alike v v') :
      readDescriptor v = readDescriptor v' := halike.read_record fun _ _ hd => hd nestingLimit
  -- the split members are found alike, whether the parameter holds a descriptor or is one
  have hsplit : (Value.member? "descriptor" (splitParameter entries)).map readDescriptor =
        (Value.member? "descriptor" (splitParameter entries')).map readDescriptor ∧
      Value.member? "location" (splitParameter entries) =
        Value.member? "location" (splitParameter entries') ∧
      Value.member? "required" (splitParameter entries) =
        Value.member? "required" (splitParameter entries') := by
    cases hd : Value.member? "descriptor" entries with
    | some d =>
        cases hd' : Value.member? "descriptor" entries' with
        | none =>
            rw [hd, hd'] at hdescriptor
            cases hdescriptor
        | some d' =>
            have hself : splitParameter entries = entries := by simp [splitParameter, hd]
            have hself' : splitParameter entries' = entries' := by simp [splitParameter, hd']
            rw [hself, hself']
            exact ⟨map_eq_of_rel hdescriptor hread, hlocation, hrequired⟩
    | none =>
        cases hd' : Value.member? "descriptor" entries' with
        | some d' =>
            rw [hd, hd'] at hdescriptor
            cases hdescriptor
        | none =>
            obtain ⟨hfound, hfoundLocation, hfoundRequired⟩ := member?_splitParameter hd
            obtain ⟨hfound', hfoundLocation', hfoundRequired'⟩ := member?_splitParameter hd'
            have hrest : Corresponding .descriptor
                (entries.filter fun entry => !isParameterMember entry.1)
                (entries'.filter fun entry => !isParameterMember entry.1) := by
              intro name hname
              have hown : ∀ name ∈ RecordKind.names .descriptor,
                  isParameterMember (.text name) = false ∧ name ∈ RecordKind.names .parameter ∧
                    RecordKind.holds .descriptor name = RecordKind.holds .parameter name := by
                decide
              obtain ⟨hmember, hparameter, hholds⟩ := hown name hname
              rw [member?_filter hmember, member?_filter hmember, hholds]
              exact h name hparameter
            rw [hfound, hfound', hfoundLocation, hfoundLocation', hfoundRequired, hfoundRequired',
              hlocation, hrequired]
            exact ⟨congrArg some (readNested_congr hrest nestingLimit), rfl, rfl⟩
  obtain ⟨hd, hl, hr⟩ := hsplit
  simp only [readParameter, readEntity, required_eq, withDefault_eq, Member.of, hd, hl, hr]

theorem readRequestBody_congr (h : Corresponding .request entries entries') :
    readRequestBody (.mapping entries) = readRequestBody (.mapping entries') := by
  simp only [readRequestBody, readEntity, h.required_plain readText (m := refMember) (by decide),
    h.withDefault_plain readText "body" (m := ⟨"parameterName", "parameter_name"⟩) (by decide)]

theorem readResponseBody_congr (h : Corresponding .response entries entries') :
    readResponseBody (.mapping entries) = readResponseBody (.mapping entries') := by
  simp only [readResponseBody, readEntity,
    h.required_plain readText (m := refMember) (by decide)]

theorem readMethod_congr (h : Corresponding .method entries entries') :
    readMethod (.mapping entries) = readMethod (.mapping entries') := by
  have hrequest : withDefault (readOptional readRequestBody) none (.of "request") entries =
      withDefault (readOptional readRequestBody) none (.of "request") entries' :=
    h.withDefault_part none (by decide) fun v v' (halike : (Part.record .request).Alike v v') =>
      halike.readOptional_record fun _ _ hr => hr
  have hresponse : withDefault (readOptional readResponseBody) none (.of "response") entries =
      withDefault (readOptional readResponseBody) none (.of "response") entries' :=
    h.withDefault_part none (by decide) fun v v' (halike : (Part.record .response).Alike v v') =>
      halike.readOptional_record fun _ _ hr => hr
  have hparameters : withDefault (readMapping readParameter) [] (.of "parameters") entries =
      withDefault (readMapping readParameter) [] (.of "parameters") entries' :=
    h.withDefault_part [] (by decide) fun v v' (halike : (Part.mapping .parameter).Alike v v') =>
      halike.readMapping fun _ _ hp => hp
  simp only [readMethod, readEntity, hrequest, hresponse, hparameters,
    h.required_plain readText (m := .of "name") (by decide),
    h.required_plain readText (m := ⟨"httpMethod", "http_method"⟩) (by decide),
    h.required_plain readText (m := .of "path") (by decide),
    h.withDefault_plain (readOptional readTexts) none (m := ⟨"parameterOrder", "parameter_order"⟩)
      (by decide)]

theorem readSchema_congr (h : Corresponding .schema entries entries') :
    readSchema (.mapping entries) = readSchema (.mapping entries') := by
  have hproperties : withDefault (readMapping readDescriptor) [] (.of "properties") entries =
      withDefault (readMapping readDescriptor) [] (.of "properties") entries' :=
    h.withDefault_part [] (by decide) fun v v' (halike : (Part.mapping .descriptor).Alike v v') =>
      halike.readMapping fun _ _ hd => hd nestingLimit
  simp only [readSchema, readEntity, hproperties,
    h.required_plain readText (m := .of "id") (by decide)]

theorem readResource_congr (h : Corresponding .resource entries entries') :
    readResource (.mapping entries) = readResource (.mapping entries') := by
  have hmethods : withDefault (fun v => readMapping readMethod
        (nameEntries (nameAfterKey "name") v)) [] (.of "methods") entries =
      withDefault (fun v => readMapping readMethod
        (nameEntries (nameAfterKey "name") v)) [] (.of "methods") entries' :=
    h.withDefault_part [] (by decide) fun v v' (halike : (Part.mapping .method).Alike v v') =>
      halike.readMapping_named fst_nameAfterKey
        fun key w w' hm => hm key
  simp only [readResource, readEntity, hmethods,
    h.required_plain readText (m := .of "name") (by decide)]

theorem readDocument_congr (h : Corresponding .document entries entries') :
    readDocument (.mapping entries) = readDocument (.mapping entries') := by
  have hschemas : withDefault (fun v => readMapping readSchema
        (nameEntries (nameIfUnnamed "id") v)) [] (.of "schemas") entries =
      withDefault (fun v => readMapping readSchema
        (nameEntries (nameIfUnnamed "id") v)) [] (.of "schemas") entries' :=
    h.withDefault_part [] (by decide) fun v v' (halike : (Part.mapping .schema).Alike v v') =>
      halike.readMapping_named fst_nameIfUnnamed
        fun key w w' hs => hs key
  have hresources : withDefault (fun v => readMapping readResource
        (nameEntries (nameAfterKey "name") v)) [] (.of "resources") entries =
      withDefault (fun v => readMapping readResource
        (nameEntries (nameAfterKey "name") v)) [] (.of "resources") entries' :=
    h.withDefault_part [] (by decide) fun v v' (halike : (Part.mapping .resource).Alike v v') =>
      halike.readMapping_named fst_nameAfterKey
        fun key w w' hr => hr key
  simp only [readDocument, readEntity, hschemas, hresources,
    h.required_plain readText (m := ⟨"baseUrl", "base_url"⟩) (by decide),
    h.withDefault_plain (readOptional readText) none (m := .of "name") (by decide),
    h.withDefault_plain (readOptional readText) none (m := .of "version") (by decide),
    h.withDefault_plain (readOptional readText) none (m := .of "title") (by decide)]

/-- Members stay alike when one of them is stored in both records. -/
theorem Corresponding.store {kind : RecordKind} (h : Corresponding kind entries entries')
    (field : String) (v : Value) :
    Corresponding kind (Value.store (.text field) v entries)
      (Value.store (.text field) v entries') := by
  intro name hname
  rw [member?_store, member?_store]
  by_cases hf : field = name
  · rw [if_pos hf, if_pos hf]
    exact .some (.refl _ v)
  · rw [if_neg hf, if_neg hf]
    exact h name hname

/-- **Records with alike members are read alike**, under any key. -/
theorem readAlike_of_corresponding {kind : RecordKind} (h : Corresponding kind entries entries') :
    ReadAlike kind (.mapping entries) (.mapping entries') := by
  cases kind with
  | document => exact readDocument_congr h
  | schema =>
      intro key
      have hid : Value.member? "id" entries = Value.member? "id" entries' :=
        h.member?_eq (by decide)
      simp only [nameIfUnnamed, hid]
      cases hm : Value.member? "id" entries' with
      | some v =>
          simp only [Option.isSome_some, if_true]
          exact readSchema_congr h
      | none =>
          simp only [Option.isSome_none, Bool.false_eq_true, if_false]
          rw [← store_eq_concat hm, ← store_eq_concat (hid.trans hm)]
          exact readSchema_congr (h.store "id" (.scalar key))
  | resource => exact fun key => readResource_congr (h.store "name" (.scalar key))
  | method => exact fun key => readMethod_congr (h.store "name" (.scalar key))
  | request => exact readRequestBody_congr h
  | response => exact readResponseBody_congr h
  | parameter => exact readParameter_congr h
  | descriptor => exact readNested_congr h

end

/-! ## Edits -/

section

variable {kind : RecordKind} {front back : Entries}

/-- Records in which the recognised members are found alike. -/
theorem corresponding_of_member?_eq {entries entries' : Entries}
    (h : ∀ name ∈ kind.names, Value.member? name entries = Value.member? name entries') :
    Corresponding kind entries entries' := by
  intro name hname
  rw [h name hname]
  cases Value.member? name entries' with
  | none => exact .none
  | some v => exact .some (.refl _ v)

/-- Members that are not recognised are not found. -/
theorem member?_ignored {others : Entries} (h : ∀ entry ∈ others, kind.Ignores entry.1)
    {name : String} (hname : name ∈ kind.names) (front back : Entries) :
    Value.member? name (front ++ others ++ back) = Value.member? name (front ++ back) := by
  have hnone : Keyed.get? (.text name) others = none := by
    apply Keyed.get?_eq_none_iff.mpr
    intro hmem
    obtain ⟨entry, he, hkey⟩ := List.mem_map.mp hmem
    exact h entry he name hname hkey
  simp only [Value.member?, Keyed.get?_append, hnone, Option.or_none]

/-- One member is replaced by one that is alike. -/
theorem corresponding_replace {name : String} {v v' : Value} (h : (kind.holds name).Alike v v')
    (front back : Entries) :
    Corresponding kind (front ++ (.text name, v) :: back) (front ++ (.text name, v') :: back) := by
  intro other _
  simp only [Value.member?, Keyed.get?_append]
  cases Keyed.get? (.text other) front with
  | some w => exact .some (.refl _ w)
  | none =>
      simp only [Option.none_or, Keyed.get?, Scalar.text.injEq]
      by_cases hn : name = other
      · subst hn
        rw [if_pos rfl, if_pos rfl]
        exact .some h
      · rw [if_neg hn, if_neg hn]
        cases Keyed.get? (.text other) back with
        | none => exact .none
        | some w => exact .some (.refl _ w)

/-- **An edited record is read alike**, by induction on the edit: each leaves the recognised
members alike. -/
theorem Edit.readAlike {v v' : Value} (h : Edit kind v v') : ReadAlike kind v v' := by
  induction h with
  | @unrecognised kind front others others' back ignored =>
      apply readAlike_of_corresponding
      apply corresponding_of_member?_eq
      intro name hname
      rw [member?_ignored (fun e he => ignored e (List.mem_append_left _ he)) hname,
        member?_ignored (fun e he => ignored e (List.mem_append_right _ he)) hname]
  | permuted once perm =>
      apply readAlike_of_corresponding
      apply corresponding_of_member?_eq
      intro name _
      exact Keyed.get?_eq_of_perm once perm _
  | @record kind inner name front back v v' held edit ih =>
      obtain ⟨⟨entries, rfl⟩, entries', rfl⟩ := edit.exists_mapping
      apply readAlike_of_corresponding
      apply corresponding_replace
      rw [held]
      exact .inr ⟨entries, entries', rfl, rfl, ih⟩
  | @entry kind inner name key front back before after v v' held edit ih =>
      apply readAlike_of_corresponding
      apply corresponding_replace
      rw [held]
      exact .inr ⟨before, key, v, v', after, rfl, rfl, ih⟩

end

/-- **Edits of a document make no difference.** A value that comes from another one by edits of
its records is accepted as the same document, or refused with the same list of problems. -/
theorem accept_eq_of_edits {v v' : Value} (h : Relation.ReflTransGen (Edit .document) v v')
    (source : String) : accept source v' = accept source v := by
  induction h with
  | refl => rfl
  | tail _ edit ih =>
      obtain ⟨⟨entries, rfl⟩, entries', rfl⟩ := edit.exists_mapping
      have hread : readDocument (.mapping entries) = readDocument (.mapping entries') :=
        edit.readAlike
      rw [← ih, accept, accept, hread]

/-- The document of `diskValue` with its members in another order, a kind that no document has, and
a description of its flat parameter. -/
def describedDiskValue : Value :=
  .mapping [(.text "kind", .ofText "discovery#restDescription"),
    (.text "resources", .mapping [(.text "disks", .mapping [(.text "methods", .mapping [
      (.text "get", .mapping [(.text "httpMethod", .ofText "GET"), (.text "path", .ofText "disks"),
        (.text "parameters", .mapping [(.text "disk", .mapping [(.text "type", .ofText "string"),
          (.text "description", .ofText "The disk."),
          (.text "required", .scalar (.bool true))])])])])])]),
    (.text "schemas", .mapping [(.text "Disk", .mapping [(.text "properties", .mapping [
      (.text "sizes", .mapping [(.text "type", .ofText "array"),
        (.text "items", .mapping [(.text "$ref", .ofText "Size")])])])])]),
    (.text "baseUrl", .ofText "https://www.example.com/")]

/-- The description, the kind and the order are edits, at the parameter and at the root. -/
theorem accept_describedDiskValue :
    Relation.ReflTransGen (Edit .document) diskValue describedDiskValue ∧
      accept "disks.json" describedDiskValue = accept "disks.json" diskValue := by
  have hparameter (key : String) (h : RecordKind.Ignores .parameter (.text key)) (v : Value)
      (front back : Entries) : Edit .parameter (.mapping (front ++ [] ++ back))
        (.mapping (front ++ [(.text key, v)] ++ back)) :=
    .unrecognised (List.forall_mem_singleton.mpr h)
  have hroot (key : String) (h : RecordKind.Ignores .document (.text key)) (v : Value)
      (back : Entries) : Edit .document (.mapping ([] ++ [] ++ back))
        (.mapping ([] ++ [(.text key, v)] ++ back)) :=
    .unrecognised (List.forall_mem_singleton.mpr h)
  have hedits : Relation.ReflTransGen (Edit .document) diskValue describedDiskValue := by
    refine .head (@Edit.entry _ .resource "resources" _ [_, _] [] [] [] _ _ rfl
      (@Edit.entry _ .method "methods" _ [] [] [] [] _ _ rfl
        (@Edit.entry _ .parameter "parameters" _ [_, _] [] [] [] _ _ rfl
          (hparameter "description" (by decide) (.ofText "The disk.") [_] [_])))) ?_
    refine .head (.permuted ?_ (List.reverse_perm [_, _, _]).symm) ?_
    · decide
    · exact .single (hroot "kind" (by decide) _ _)
  exact ⟨hedits, accept_eq_of_edits hedits "disks.json"⟩

end Discovery

end RestBindings
