import RestBindings.Proofs.Replacement

/-!
# The problems of a document are those of its parts

The entries of a document that stand under keys, its schemas, resources, methods and parameters,
are each checked alone (`EntryKind.alone`), and what is wrong with an entry is reported for the
document with the place of the entry in front (`Composed`, level by level). The names that the
entries take from their keys do not get in the way: a key is a text, so it is never at fault, and
storing it leaves the other members alone.

Each section of an entity is localised at the keys that it has (`localised_section`): what the
other members report is apart from it, and the other entries stand under other keys. So the
problems of a document are localised at every entry of any depth (`localised_entry`), and replacing
an entry changes the problems under its place only. The main statement is
`problems_local_and_complete`.
-/

namespace RestBindings

namespace Discovery

/-! ## Members that a part of a list of problems does not see -/

/-- A part of the problems of an entity that has nothing to do with one of its members. -/
structure Apart (name : String) (part : Entries → List Problem) : Prop where
  unseen : ∀ v entries, part (Keyed.insert (.text name) v entries) = part entries
  elsewhere : ∀ entries, ∀ p ∈ part entries, ¬ [name] <+: p.place

theorem Apart.nil (name : String) : Apart name fun _ => [] where
  unseen _ _ := rfl
  elsewhere _ _ hp := absurd hp List.not_mem_nil

theorem Apart.append {name : String} {front back : Entries → List Problem} (hf : Apart name front)
    (hb : Apart name back) : Apart name fun entries => front entries ++ back entries where
  unseen v entries := by rw [hf.unseen, hb.unseen]
  elsewhere entries := by
    rw [List.forall_mem_append]
    exact ⟨hf.elsewhere entries, hb.elsewhere entries⟩

section members

variable {m : Member} {entries : Entries}

theorem Member.eq_or_eq_of_find? {name : String} {v : Value}
    (h : m.find? entries = some (name, v)) : name = m.name ∨ name = m.plain := by
  rw [find?] at h
  cases hm : Value.member? m.name entries with
  | some w =>
      rw [hm] at h
      cases h
      exact .inl rfl
  | none =>
      rw [hm, Option.map_eq_some_iff] at h
      obtain ⟨w, -, hw⟩ := h
      cases hw
      exact .inr rfl

/-- The problems of a member stay the same when another one changes. -/
theorem problems_eq_of_other {field : String} {others : Entries}
    (h : ∀ other, field ≠ other → Value.member? other others = Value.member? other entries)
    (hname : field ≠ m.name) (hplain : field ≠ m.plain) (absent : List Fault)
    (check : Value → List Problem) :
    m.problems absent check others = m.problems absent check entries := by
  rw [Member.problems, Member.problems, Member.find?, Member.find?, h _ hname, h _ hplain]

theorem Member.find?_of (name : String) (entries : Entries) :
    (Member.of name).find? entries = (Value.member? name entries).map fun v => (name, v) := by
  rw [find?, of]
  cases Value.member? name entries <;> rfl

/-- The problems of one member are apart from every other one. -/
theorem apart_problems {name : String} (hname : name ≠ m.name) (hplain : name ≠ m.plain)
    (absent : List Fault) (check : Value → List Problem) :
    Apart name (m.problems absent check) where
  unseen v entries := by
    apply problems_eq_of_other _ hname hplain
    intro other hne
    have hkey : Scalar.text name ≠ .text other := fun h => hne (Scalar.text.inj h)
    rw [Value.member?, Keyed.get?_insert, if_neg hkey, Value.member?]
  elsewhere entries p hp := by
    unfold Member.problems at hp
    cases hfind : m.find? entries with
    | none =>
        rw [hfind] at hp
        obtain ⟨fault, -, rfl⟩ := List.mem_map.mp hp
        simpa using hname
    | some found =>
        obtain ⟨given, v⟩ := found
        rw [hfind] at hp
        obtain ⟨q, -, rfl⟩ := List.mem_map.mp hp
        have hne : name ≠ given := by
          rcases Member.eq_or_eq_of_find? hfind with rfl | rfl
          · exact hname
          · exact hplain
        simpa [Problem.below] using hne

/-- Storing a name does not change the problems of the other members. -/
theorem problems_store {field : String} (hname : field ≠ m.name) (hplain : field ≠ m.plain)
    (absent : List Fault) (check : Value → List Problem) (v : Value) (entries : Entries) :
    m.problems absent check (Value.store (.text field) v entries) =
      m.problems absent check entries := by
  apply problems_eq_of_other _ hname hplain
  intro other hne
  rw [member?_store, if_neg hne]

end members

/-! ## Entries that are checked alone -/

/-- The kinds of entries that stand under keys. -/
inductive EntryKind
  | schema
  | resource
  | method
  | parameter
  deriving DecidableEq, Repr

namespace EntryKind

/-- The member that holds the entries of a kind. -/
def member : EntryKind → String
  | schema => "schemas"
  | resource => "resources"
  | method => "methods"
  | parameter => "parameters"

/-- The entity that an entry is read as. -/
def entity : EntryKind → String
  | schema => "Schema"
  | resource => "Resource"
  | method => "Method"
  | parameter => "ParameterType"

/-- The problems of an entry by itself. A schema without an id, a resource and a method take their
names from the key. -/
def alone : EntryKind → Scalar × Value → List Problem
  | schema, entry => (readSchema (nameIfUnnamed "id" entry).2).problems
  | resource, entry => (readResource (nameAfterKey "name" entry).2).problems
  | method, entry => (readMethod (nameAfterKey "name" entry).2).problems
  | parameter, entry => (readParameter entry.2).problems

/-- The problems of the member that holds the entries, whatever it is. -/
def reports (kind : EntryKind) (entries : Entries) : List Problem :=
  (Member.of kind.member).problems [] (mappingProblems kind.alone) entries

end EntryKind

/-- What is reported for entries that have been stored. -/
theorem reports_insert (kind : EntryKind) (v : Value) (entries : Entries) :
    kind.reports (Keyed.insert (.text kind.member) v entries) =
      (mappingProblems kind.alone v).map (.below [kind.member]) := by
  rw [EntryKind.reports, Member.problems, Member.find?_of, Value.member?, Keyed.get?_insert,
    if_pos rfl, Option.map_some]

/-- Under a text the key is never at fault. -/
theorem entryProblems_text (check : Scalar × Value → List Problem) (key : String) (v : Value) :
    entryProblems check (.text key, v) = (check (.text key, v)).map (.below [key]) :=
  rfl

/-- Nothing that is reported for the entries under other keys lies under a key. -/
theorem not_prefix_of_other {check : Scalar × Value → List Problem} {entries : Entries}
    {member key : String} (h : ∀ entry ∈ entries, ∃ s, entry.1 = .text s ∧ s ≠ key) {p : Problem}
    (hp : p ∈ (entries.flatMap (entryProblems check)).map (.below [member])) :
    ¬ [member, key] <+: p.place := by
  obtain ⟨q, hq, rfl⟩ := List.mem_map.mp hp
  obtain ⟨entry, he, hq⟩ := List.mem_flatMap.mp hq
  obtain ⟨q, -, rfl⟩ := List.mem_map.mp hq
  obtain ⟨s, hs, hne⟩ := h entry he
  intro hprefix
  have hkey : key = entry.1.shown := by
    simpa [Problem.below, List.cons_prefix_cons] using hprefix
  rw [hs] at hkey
  exact hne hkey.symm

/-- A member that is an object if it is there: no key stands in it twice. -/
def IsSection (name : String) (v : Value) : Prop :=
  ∀ w, v.at? [name] = some w → ∃ entries, w = .mapping entries ∧ Keyed.Distinct entries

/-- Each section of an entity is localised at the keys that it has. -/
theorem localised_section (kind : EntryKind) (whole : Value → List Problem)
    (front back : Entries → List Problem)
    (hwhole : ∀ entries,
      whole (.mapping entries) = front entries ++ kind.reports entries ++ back entries)
    (hfront : Apart kind.member front) (hback : Apart kind.member back) {v old : Value}
    {key : String} (hv : v.IsJson) (hs : IsSection kind.member v)
    (hold : v.at? [kind.member, key] = some old) :
    Localised (fun x => whole (v.replaceAt [kind.member, key] x))
      (fun x => kind.alone (.text key, x)) [kind.member, key] := by
  obtain ⟨entries, w, rfl, hsection, hw⟩ := Value.at?_cons_eq_some_iff.mp hold
  obtain ⟨inner, rfl, distinct⟩ := hs w (by simp [Value.at?, hsection])
  obtain ⟨_, _, ⟨⟩, hkey, ⟨⟩⟩ := Value.at?_cons_eq_some_iff.mp hw
  have texts : ∀ entry ∈ inner, ∃ s, entry.1 = .text s := by
    intro entry he
    exact ((hv.of_member? hsection).of_mem he).1
  obtain ⟨before, after, rfl, hinsert⟩ := Keyed.exists_split_of_get? hkey
  -- no other entry stands under the key
  have hother : ∀ entry ∈ before ++ after, ∃ s, entry.1 = .text s ∧ s ≠ key := by
    intro entry he
    have hmem : entry ∈ before ++ (.text key, old) :: after := by
      rw [List.mem_append] at he ⊢
      exact he.imp_right (List.mem_cons_of_mem _)
    obtain ⟨s, hs⟩ := texts entry hmem
    refine ⟨s, hs, ?_⟩
    rintro rfl
    have hnodup : (Scalar.text s :: (before ++ after).map Prod.fst).Nodup := by
      rw [List.map_append, ← List.nodup_middle]
      simpa [Keyed.Distinct] using distinct
    exact (List.nodup_cons.mp hnodup).1 (List.mem_map.mpr ⟨entry, he, hs⟩)
  have haway {part : Entries → List Problem} (h : Apart kind.member part) :
      ∀ p ∈ part entries, ¬ [kind.member, key] <+: p.place := by
    intro p hp hprefix
    exact h.elsewhere entries p hp ((List.prefix_append [kind.member] [key]).trans hprefix)
  rw [List.forall_mem_append] at hother
  refine ⟨front entries ++ (before.flatMap (entryProblems kind.alone)).map (.below [kind.member]),
    (after.flatMap (entryProblems kind.alone)).map (.below [kind.member]) ++ back entries,
    ?_, ?_⟩
  · simp only [List.forall_mem_append]
    exact ⟨⟨haway hfront, fun p => not_prefix_of_other hother.1⟩,
      fun p => not_prefix_of_other hother.2, haway hback⟩
  · intro x
    have hput : (Value.mapping entries).replaceAt [kind.member, key] x =
        .mapping (Keyed.insert (.text kind.member)
          (.mapping (before ++ (.text key, x) :: after)) entries) := by
      rw [Value.replaceAt_cons hsection, Value.replaceAt_cons hkey, Value.replaceAt_nil, hinsert]
    simp only [hput, hwhole, hfront.unseen, hback.unseen, reports_insert, mappingProblems,
      List.flatMap_append, List.flatMap_cons, List.map_append, entryProblems_text,
      map_below_map_below, List.append_assoc, List.cons_append, List.nil_append]

/-! ## The members of the entities -/

/-- The problems of a JSON value that must be a text. -/
def textProblems : Value → List Problem
  | .scalar (.text _) => []
  | _ => [⟨[], .notText⟩]

/-- The problems of the texts of a document, given those of a text. -/
def documentTexts (text : Value → List Problem) (entries : Entries) : List Problem :=
  Member.problems ⟨"baseUrl", "base_url"⟩ [.missing] text entries ++
    Member.problems (.of "name") [] (unlessNull text) entries ++
    Member.problems (.of "version") [] (unlessNull text) entries ++
    Member.problems (.of "title") [] (unlessNull text) entries

/-- The problems of a method in front of those of its parameters, given those of a text. -/
def methodMembers (text : Value → List Problem) (entries : Entries) : List Problem :=
  Member.problems ⟨"httpMethod", "http_method"⟩ [.missing] text entries ++
    Member.problems (.of "path") [.missing] text entries ++
    Member.problems (.of "request") [] (unlessNull fun v => (readRequestBody v).problems) entries ++
    Member.problems (.of "response") [] (unlessNull fun v => (readResponseBody v).problems) entries

/-- The problems of a method behind those of its parameters. -/
def methodOrder (entries : Entries) : List Problem :=
  Member.problems ⟨"parameterOrder", "parameter_order"⟩ []
    (unlessNull fun v => (readTexts v).problems) entries

theorem problems_readDocument (entries : Entries) :
    (readDocument (.mapping entries)).problems =
      documentTexts (fun v => (readText v).problems) entries ++
        EntryKind.schema.reports entries ++ EntryKind.resource.reports entries := by
  simp only [readDocument, readEntity, Checked.problems_seq, Checked.problems_map,
    problems_required, problems_withDefault, problems_readOptional, problems_readMapping,
    mappingProblems_nameEntries _ fst_nameIfUnnamed, mappingProblems_nameEntries _ fst_nameAfterKey]
  rfl

/-- A text that has been stored is no problem. -/
theorem problems_stored (field key : String) (absent : List Fault) (entries : Entries) :
    (Member.of field).problems absent (fun v => (readText v).problems)
      (Value.store (.text field) (.ofText key) entries) = [] := by
  rw [Member.problems, Member.find?_of, member?_store, if_pos rfl]
  rfl

/-- The name of a resource is its key, so nothing but its methods is reported. -/
theorem alone_resource (key : String) (entries : Entries) :
    EntryKind.resource.alone (.text key, .mapping entries) = EntryKind.method.reports entries := by
  simp only [EntryKind.alone, nameAfterKey, readResource, readEntity, Checked.problems_seq,
    Checked.problems_map, problems_required, problems_withDefault, problems_readMapping,
    mappingProblems_nameEntries _ fst_nameAfterKey, problems_stored, List.nil_append]
  exact problems_store (by decide) (by decide) _ _ _ _

/-- The name of a method is its key, and its other members are reported in their order. -/
theorem alone_method (key : String) (entries : Entries) :
    EntryKind.method.alone (.text key, .mapping entries) =
      methodMembers (fun v => (readText v).problems) entries ++
        EntryKind.parameter.reports entries ++ methodOrder entries := by
  simp only [EntryKind.alone, nameAfterKey, readMethod, readEntity, Checked.problems_seq,
    Checked.problems_map, problems_required, problems_withDefault, problems_readOptional,
    problems_readMapping, problems_stored, List.nil_append]
  simp (disch := decide) only [problems_store]
  rfl

/-- What is not an object is refused as a whole. -/
theorem alone_of_forall_ne {kind : EntryKind} {key : Scalar} {v : Value}
    (h : ∀ entries, v ≠ .mapping entries) :
    kind.alone (key, v) = [⟨[], .notEntity kind.entity⟩] := by
  cases v with
  | mapping entries => exact absurd rfl (h entries)
  | _ => cases kind <;> rfl

/-! ## JSON documents -/

theorem problems_readText {v : Value} (hv : v.IsJson) :
    (readText v).problems = textProblems v := by
  cases hv with
  | @scalar s leaf =>
      cases s with
      | bytes b => cases leaf
      | _ => rfl
  | list each => rfl
  | mapping keys each => rfl

/-- The problems of a member depend on the check of its value only. -/
theorem problems_congr {m : Member} {absent : List Fault} {check check' : Value → List Problem}
    {entries : Entries} (he : (Value.mapping entries).IsJson)
    (h : ∀ v : Value, v.IsJson → check v = check' v) :
    m.problems absent check entries = m.problems absent check' entries := by
  rw [Member.problems, Member.problems]
  cases hm : m.find? entries with
  | none => rfl
  | some found =>
      have hv : m.value? entries = some found.2 := by rw [← Member.find?_eq, hm]; rfl
      simp only [h _ (he.of_value? hv)]

theorem documentTexts_congr {entries : Entries} (he : (Value.mapping entries).IsJson) :
    documentTexts (fun v => (readText v).problems) entries =
      documentTexts textProblems entries := by
  have hnull : ∀ v : Value, v.IsJson →
      unlessNull (fun w => (readText w).problems) v = unlessNull textProblems v := by
    intro v hv
    rw [unlessNull.eq_def, unlessNull.eq_def]
    split
    · rfl
    · exact problems_readText hv
  simp only [documentTexts, problems_congr he fun _ => problems_readText, problems_congr he hnull]

theorem methodMembers_congr {entries : Entries} (he : (Value.mapping entries).IsJson) :
    methodMembers (fun v => (readText v).problems) entries =
      methodMembers textProblems entries := by
  simp only [methodMembers, problems_congr he fun _ => problems_readText]

/-- The entries of an object in a member. -/
def entriesUnder (name : String) (entries : Entries) : Entries :=
  match Value.member? name entries with
  | some (.mapping inner) => inner
  | _ => []

/-- The problems of the entries of a kind, one entry after the other, each with its place in
front. -/
def sectionProblems (kind : EntryKind) (entries : Entries) : List Problem :=
  (entriesUnder kind.member entries).flatMap fun entry =>
    (kind.alone entry).map (.below [kind.member, entry.1.shown])

/-- What is reported for a section is reported for its entries. -/
theorem reports_eq_sectionProblems (kind : EntryKind) {entries : Entries}
    (he : (Value.mapping entries).IsJson) (hs : IsSection kind.member (.mapping entries)) :
    kind.reports entries = sectionProblems kind entries := by
  rw [EntryKind.reports, Member.problems, Member.find?_of, sectionProblems, entriesUnder]
  cases hm : Value.member? kind.member entries with
  | none => rfl
  | some w =>
      obtain ⟨inner, rfl, -⟩ := hs w (by simp [Value.at?, hm])
      simp only [Option.map_some, mappingProblems, List.map_flatMap]
      apply List.flatMap_congr
      rintro ⟨key, v⟩ hentry
      obtain ⟨s, rfl⟩ : ∃ s, key = .text s := ((he.of_member? hm).of_mem hentry).1
      rw [entryProblems_text, map_below_map_below]
      rfl

/-- A document whose schemas, resources, methods and parameters are absent or objects. -/
structure Sectioned (document : Value) : Prop where
  schemas : IsSection "schemas" document
  resources : IsSection "resources" document
  methods : ∀ r v, document.at? ["resources", r] = some v → IsSection "methods" v
  parameters : ∀ r m v, document.at? ["resources", r, "methods", m] = some v →
    IsSection "parameters" v

/-- Where an entry stands in a document. -/
inductive EntryPlace
  | schema (key : String)
  | resource (key : String)
  | method (resource key : String)
  | parameter (resource method key : String)
  deriving DecidableEq, Repr

namespace EntryPlace

def steps : EntryPlace → List String
  | schema k => ["schemas", k]
  | resource k => ["resources", k]
  | method r k => ["resources", r, "methods", k]
  | parameter r m k => ["resources", r, "methods", m, "parameters", k]

def kind : EntryPlace → EntryKind
  | schema _ => .schema
  | resource _ => .resource
  | method _ _ => .method
  | parameter _ _ _ => .parameter

def key : EntryPlace → String
  | schema k | resource k | method _ k | parameter _ _ k => k

end EntryPlace

/-- The problems of a document are made of those of its parts: of its texts, of its schemas and of
its resources, which are made of those of their methods, which are made of those of their members
and parameters. -/
structure Composed (entries : Entries) : Prop where
  document : (readDocument (.mapping entries)).problems =
    documentTexts textProblems entries ++ sectionProblems .schema entries ++
      sectionProblems .resource entries
  resource : ∀ r inner, (Value.mapping entries).at? ["resources", r] = some (.mapping inner) →
    EntryKind.resource.alone (.text r, .mapping inner) = sectionProblems .method inner
  method : ∀ r m inner,
    (Value.mapping entries).at? ["resources", r, "methods", m] = some (.mapping inner) →
      EntryKind.method.alone (.text m, .mapping inner) =
        methodMembers textProblems inner ++ sectionProblems .parameter inner ++ methodOrder inner
  other : ∀ (place : EntryPlace) (v : Value), (∀ inner, v ≠ .mapping inner) →
    place.kind.alone (.text place.key, v) = [⟨[], .notEntity place.kind.entity⟩]

theorem composed {entries : Entries} (he : (Value.mapping entries).IsJson)
    (hs : Sectioned (.mapping entries)) : Composed entries where
  document := by
    rw [problems_readDocument, documentTexts_congr he,
      reports_eq_sectionProblems .schema he hs.schemas,
      reports_eq_sectionProblems .resource he hs.resources]
  resource r inner hr := by
    rw [alone_resource, reports_eq_sectionProblems .method (he.of_at? hr) (hs.methods r _ hr)]
  method r m inner hm := by
    have hj : (Value.mapping inner).IsJson := he.of_at? hm
    rw [alone_method, methodMembers_congr hj,
      reports_eq_sectionProblems .parameter hj (hs.parameters r m _ hm)]
  other _ _ := alone_of_forall_ne

/-! ## Entries of documents -/

theorem apart_documentTexts {name : String} (text : Value → List Problem)
    (h : name ∉ ["baseUrl", "base_url", "name", "version", "title"]) :
    Apart name (documentTexts text) := by
  simp only [List.mem_cons, List.not_mem_nil, or_false, not_or] at h
  obtain ⟨hurl, hbase, hname, hversion, htitle⟩ := h
  exact (((apart_problems hurl hbase _ _).append (apart_problems hname hname _ _)).append
    (apart_problems hversion hversion _ _)).append (apart_problems htitle htitle _ _)

theorem apart_methodMembers (text : Value → List Problem) :
    Apart "parameters" (methodMembers text) :=
  (((apart_problems (by decide) (by decide) _ _).append
    (apart_problems (by decide) (by decide) _ _)).append
    (apart_problems (by decide) (by decide) _ _)).append
    (apart_problems (by decide) (by decide) _ _)

section

variable {document old : Value} (hj : document.IsJson) (hs : Sectioned document)

include hj hs

theorem localised_schema {key : String} (hold : document.at? ["schemas", key] = some old) :
    Localised (fun x => (readDocument (document.replaceAt ["schemas", key] x)).problems)
      (fun x => EntryKind.schema.alone (.text key, x)) ["schemas", key] := by
  apply localised_section .schema (fun v => (readDocument v).problems)
    (documentTexts fun v => (readText v).problems) EntryKind.resource.reports
    problems_readDocument _ _ hj hs.schemas hold
  · exact apart_documentTexts _ (by decide)
  · exact apart_problems (by decide) (by decide) _ _

theorem localised_resource {key : String} (hold : document.at? ["resources", key] = some old) :
    Localised (fun x => (readDocument (document.replaceAt ["resources", key] x)).problems)
      (fun x => EntryKind.resource.alone (.text key, x)) ["resources", key] := by
  have hwhole : ∀ entries, (readDocument (.mapping entries)).problems =
      (documentTexts (fun v => (readText v).problems) entries ++
        EntryKind.schema.reports entries) ++ EntryKind.resource.reports entries ++ [] := by
    intro entries
    rw [problems_readDocument, List.append_nil]
  apply localised_section .resource (fun v => (readDocument v).problems) _ (fun _ => []) hwhole
    (.append _ _) (.nil _) hj hs.resources hold
  · exact apart_documentTexts _ (by decide)
  · exact apart_problems (by decide) (by decide) _ _

/-- A resource is a whole in its turn, with nothing but methods. -/
theorem localised_method {r key : String}
    (hold : document.at? (["resources", r] ++ ["methods", key]) = some old) :
    Localised (fun x => (readDocument
        (document.replaceAt (["resources", r] ++ ["methods", key]) x)).problems)
      (fun x => EntryKind.method.alone (.text key, x)) (["resources", r] ++ ["methods", key]) := by
  rw [Value.at?_append, Option.bind_eq_some_iff] at hold
  obtain ⟨w, hw, hold⟩ := hold
  have hwhole : ∀ entries, EntryKind.resource.alone (.text r, .mapping entries) =
      [] ++ EntryKind.method.reports entries ++ [] := by
    intro entries
    rw [alone_resource, List.nil_append, List.append_nil]
  apply (localised_resource hj hs hw).inside (fun v => (readDocument v).problems) hw
  exact localised_section .method (fun v => EntryKind.resource.alone (.text r, v)) (fun _ => [])
    (fun _ => []) hwhole (.nil _) (.nil _) (hj.of_at? hw) (hs.methods r w hw) hold

/-- A method is one as well, with other members around its parameters. -/
theorem localised_parameter {r m key : String}
    (hold : document.at? ((["resources", r] ++ ["methods", m]) ++ ["parameters", key]) =
      some old) :
    Localised (fun x => (readDocument (document.replaceAt
        ((["resources", r] ++ ["methods", m]) ++ ["parameters", key]) x)).problems)
      (fun x => EntryKind.parameter.alone (.text key, x))
      ((["resources", r] ++ ["methods", m]) ++ ["parameters", key]) := by
  rw [Value.at?_append, Option.bind_eq_some_iff] at hold
  obtain ⟨w, hw, hold⟩ := hold
  apply (localised_method hj hs hw).inside (fun v => (readDocument v).problems) hw
  apply localised_section .parameter (fun v => EntryKind.method.alone (.text m, v))
    (methodMembers fun v => (readText v).problems) methodOrder (alone_method m)
    (apart_methodMembers _) _ (hj.of_at? hw) (hs.parameters r m w hw) hold
  exact apart_problems (by decide) (by decide) _ _

/-- **The problems of a document are localised at every entry.** -/
theorem localised_entry (place : EntryPlace) (hold : document.at? place.steps = some old) :
    Localised (fun x => (readDocument (document.replaceAt place.steps x)).problems)
      (fun x => place.kind.alone (.text place.key, x)) place.steps := by
  cases place with
  | schema k => exact localised_schema hj hs hold
  | resource k => exact localised_resource hj hs hold
  | method r k => exact localised_method hj hs hold
  | parameter r m k => exact localised_parameter hj hs hold

end

/-- **What is wrong with a document is what is wrong with its parts.** The problems of a document
are those of its texts and then those of its entries alone, in their order and at every level, each
with the place of the entry in front. The document is accepted exactly when there are none, and
refused with all of them otherwise. So putting something else in the place of an entry changes the
problems at its place only, and an entry without problems leaves all the others as they were. -/
theorem problems_local_and_complete (source : String) {entries : Entries}
    (hj : (Value.mapping entries).IsJson) (hs : Sectioned (.mapping entries)) :
    Composed entries ∧
      (Returns (accept source (.mapping entries)) ↔
        (readDocument (.mapping entries)).problems = []) ∧
      (∀ e, accept source (.mapping entries) = .error e → e = .failure
        (.malformed source ((readDocument (.mapping entries)).problems.map problemLine))) ∧
      ∀ (place : EntryPlace) (old : Value),
        (Value.mapping entries).at? place.steps = some old →
          Localised
            (fun v => (readDocument ((Value.mapping entries).replaceAt place.steps v)).problems)
            (fun v => place.kind.alone (.text place.key, v)) place.steps ∧
          ∀ new, place.kind.alone (.text place.key, new) = [] →
            (readDocument ((Value.mapping entries).replaceAt place.steps new)).problems =
              (readDocument (.mapping entries)).problems.filter
                fun p => ¬ place.steps <+: p.place := by
  refine ⟨composed hj hs, returns_accept_iff_problems source _, fun e => accept_mapping_eq_error,
    fun place old hold => ?_⟩
  have hlocal := localised_entry hj hs place hold
  refine ⟨hlocal, fun new hnew => ?_⟩
  rw [hlocal.filter_eq hnew old, Value.replaceAt_self hold]

/-- A method without a verb, with a parameter whose type is a number. -/
def listMethod : Value :=
  .mapping [(.text "path", .ofText "dogs"), (.text "parameters", .mapping [
    (.text "limit", .mapping [(.text "type", .scalar (.int 4))])])]

/-- A document with something wrong at every level. -/
def kennelEntries : Entries :=
  [(.text "baseUrl", .scalar (.int 1)),
    (.text "schemas", .mapping [(.text "Dog", .scalar (.int 2)),
      (.text "Cat", .mapping [(.text "id", .scalar (.int 3))])]),
    (.text "resources", .mapping [
      (.text "dogs", .mapping [(.text "methods", .mapping [(.text "list", listMethod)])])])]

/-- The parameter of the document. -/
def limitPlace : EntryPlace :=
  .parameter "dogs" "list" "limit"

/-- A parameter with nothing wrong in it. -/
def limitParameter : Value :=
  .mapping [(.text "type", .ofText "integer")]

theorem sectioned_kennelEntries : Sectioned (.mapping kennelEntries) := by
  refine ⟨fun w h => ?_, fun w h => ?_, fun r v hr w h => ?_, fun r m v hm w h => ?_⟩
  · obtain rfl := Option.some.inj h
    exact ⟨_, rfl, by decide⟩
  · obtain rfl := Option.some.inj h
    exact ⟨_, rfl, by decide⟩
  · obtain ⟨rfl, hr⟩ := Value.at?_singleton_eq_some_iff.mp hr
    obtain rfl := Option.some.inj hr
    obtain rfl := Option.some.inj h
    exact ⟨_, rfl, by decide⟩
  · obtain ⟨rfl, hm⟩ := Value.at?_singleton_eq_some_iff.mp hm
    obtain ⟨rfl, hm⟩ := Value.at?_singleton_eq_some_iff.mp hm
    obtain rfl := Option.some.inj hm
    obtain rfl := Option.some.inj h
    exact ⟨_, rfl, by decide⟩

/-- The document is refused, and with a parameter that has no problems every other problem is
reported as before. -/
theorem kennel_repaired :
    (Value.mapping kennelEntries).IsJson ∧ Sectioned (.mapping kennelEntries) ∧
      (∃ old, (Value.mapping kennelEntries).at? limitPlace.steps = some old) ∧
      limitPlace.kind.alone (.text limitPlace.key, limitParameter) = [] ∧
      ¬ Returns (accept "kennel.json" (.mapping kennelEntries)) ∧
      (readDocument (.mapping kennelEntries)).problems =
        [⟨["baseUrl"], .notText⟩, ⟨["schemas", "Dog"], .notEntity "Schema"⟩,
          ⟨["schemas", "Cat", "id"], .notText⟩,
          ⟨["resources", "dogs", "methods", "list", "httpMethod"], .missing⟩,
          ⟨["resources", "dogs", "methods", "list", "parameters", "limit", "descriptor",
            "primitive", "type"], .notText⟩] ∧
      (readDocument ((Value.mapping kennelEntries).replaceAt limitPlace.steps
          limitParameter)).problems =
        [⟨["baseUrl"], .notText⟩, ⟨["schemas", "Dog"], .notEntity "Schema"⟩,
          ⟨["schemas", "Cat", "id"], .notText⟩,
          ⟨["resources", "dogs", "methods", "list", "httpMethod"], .missing⟩] := by
  have hj : (Value.mapping kennelEntries).IsJson := by
    simp [kennelEntries, listMethod, Scalar.IsJson]
  have hold : ∃ old, (Value.mapping kennelEntries).at? limitPlace.steps = some old := ⟨_, rfl⟩
  have halone : limitPlace.kind.alone (.text limitPlace.key, limitParameter) = [] := by rfl
  have hproblems : (readDocument (.mapping kennelEntries)).problems =
        [⟨["baseUrl"], .notText⟩, ⟨["schemas", "Dog"], .notEntity "Schema"⟩,
          ⟨["schemas", "Cat", "id"], .notText⟩,
          ⟨["resources", "dogs", "methods", "list", "httpMethod"], .missing⟩,
          ⟨["resources", "dogs", "methods", "list", "parameters", "limit", "descriptor",
            "primitive", "type"], .notText⟩] := by rfl
  obtain ⟨-, haccept, -, hlocal⟩ := problems_local_and_complete "kennel.json" hj
    sectioned_kennelEntries
  refine ⟨hj, sectioned_kennelEntries, hold, halone, ?_, hproblems, ?_⟩
  · rw [haccept, hproblems]
    exact List.cons_ne_nil _ _
  · obtain ⟨old, hold⟩ := hold
    rw [(hlocal limitPlace old hold).2 limitParameter halone, hproblems]
    decide

end Discovery

end RestBindings
