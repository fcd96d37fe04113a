import RestBindings.Proofs.ReadBack

/-!
# The round trip of a document

`ReadBack` shows that a canonical document is read back from its encoding. Conversely, what is
read has the canonical form, whatever it was read from, but for one thing: bytes that encode the
text `array` are no array to the reader, yet become the type of a primitive. From JSON there are
no bytes, so every document read from JSON is canonical (`Document.canonical_of_accept`).

The main statement is `accept_encode`; `documents_not_read_back` has an accepted document that is
not read back, and one that fails for no other reason than how deep its arrays stand.
-/

namespace RestBindings.Discovery

variable {α : Type} {read : Value → Checked α} {m : Member} {entries : Entries}

/-! ## What is read is canonical -/

theorem readArrayType_of_kind {type : String} (hkind : descriptorKind entries = .array)
    (h : readArrayType entries = .valid type) : type = "array" := by
  have ht : Value.member? "type" entries = some (.ofText "array") := by
    unfold descriptorKind at hkind
    split at hkind
    · cases hkind
    · split at hkind
      · assumption
      · cases hkind
  rw [readArrayType, withDefault_of_value? (v := .ofText "array") (a := "array")
    (by rw [Member.value?_of, ht]) rfl] at h
  exact (Checked.valid.inj h).symm

mutual

/-- Arrays are read from values of the type `array`, and descriptors as long as there is room for
them. The induction follows the reader. -/
theorem fits_of_readNested : (room : Nat) → (v : Value) → (d : Descriptor) →
    readNested room v = .valid d → d.ArraysNamed ∧ d.levels ≤ room
  | 0, .mapping _, _, h => by cases h
  | room + 1, .mapping entries, d, h => by
      rw [readNested] at h
      split at h
      · obtain ⟨f, format, hf, -, rfl⟩ :=
          Checked.seq_eq_valid_iff.mp (Checked.under_eq_valid_iff.mp h)
        obtain ⟨type, -, rfl⟩ := Checked.map_eq_valid_iff.mp hf
        exact ⟨trivial, Nat.le_add_left 1 room⟩
      · next hkind =>
        obtain ⟨f, items, hf, hitems, rfl⟩ :=
          Checked.seq_eq_valid_iff.mp (Checked.under_eq_valid_iff.mp h)
        obtain ⟨type, htype, rfl⟩ := Checked.map_eq_valid_iff.mp hf
        obtain ⟨hnamed, hlevels⟩ := fits_of_readArrayItems room entries items hitems
        exact ⟨⟨readArrayType_of_kind hkind htype, hnamed⟩, Nat.succ_le_succ hlevels⟩
      · obtain ⟨ref, -, rfl⟩ := Checked.map_eq_valid_iff.mp (Checked.under_eq_valid_iff.mp h)
        exact ⟨trivial, Nat.le_add_left 1 room⟩
  | _, .scalar _, _, h => by cases h
  | _, .list _, _, h => by cases h
  | _, .set _, _, h => by cases h
  | _, .opaqueNode, _, h => by cases h

theorem fits_of_readArrayItems : (room : Nat) → (entries : Entries) → (d : Descriptor) →
    readArrayItems room entries = .valid d → d.ArraysNamed ∧ d.levels ≤ room
  | _, [], _, h => by cases h
  | room, entry :: rest, d, h => by
      rw [readArrayItems] at h
      split at h
      · exact fits_of_readEntryDescriptor room entry d (Checked.under_eq_valid_iff.mp h)
      · exact fits_of_readArrayItems room rest d h

theorem fits_of_readEntryDescriptor : (room : Nat) → (entry : Scalar × Value) →
    (d : Descriptor) → readEntryDescriptor room entry = .valid d → d.ArraysNamed ∧ d.levels ≤ room
  | room, (_, value), d, h => fits_of_readNested room value d h

end

/-- Each pair that is read from a mapping was read from one of its entries. -/
theorem exists_entry_of_readMapping {v : Value} {pairs : List (String × α)}
    (h : readMapping read v = .valid pairs) :
    ∃ entries, v = .mapping entries ∧ ∀ pair ∈ pairs, ∃ entry ∈ entries,
      readText (.scalar entry.1) = .valid pair.1 ∧ read entry.2 = .valid pair.2 := by
  cases v with
  | mapping entries =>
      obtain ⟨all, ha, rfl⟩ := Checked.map_eq_valid_iff.mp h
      refine ⟨entries, rfl, fun pair hp => ?_⟩
      obtain ⟨c, hc, hv⟩ := exists_of_mem_of_forall₂ (Checked.all_eq_valid_iff.mp ha)
        (Keyed.mem_of_mem_ofList hp)
      obtain ⟨entry, he, rfl⟩ := List.mem_map.mp hc
      exact ⟨entry, he, readEntry_eq_valid_iff.mp hv⟩
  | _ => cases h

/-- An entity that is named after its key holds the key as its name. -/
theorem member?_of_nameAfterKey {field : String} {entry : Scalar × Value}
    (h : (nameAfterKey field entry).2 = .mapping entries) :
    Value.member? field entries = some (.scalar entry.1) := by
  obtain ⟨key, v⟩ := entry
  cases v with
  | mapping old =>
      obtain rfl := Value.mapping.inj h
      rw [member?_store, if_pos rfl]
  | _ => cases h

/-- **Entities that are named after their keys have the names of their keys**, however the keys
are given. -/
theorem name_eq_key_of_readMapping {nameOf : α → String} {v : Value} {pairs : List (String × α)}
    (hread : ∀ w a, read w = .valid a → ∃ entries, w = .mapping entries ∧
      required readText (.of "name") entries = .valid (nameOf a))
    (h : readMapping read (nameEntries (nameAfterKey "name") v) = .valid pairs) :
    ∀ pair ∈ pairs, nameOf pair.2 = pair.1 := by
  intro pair hp
  obtain ⟨entries, hentries, heach⟩ := exists_entry_of_readMapping h
  obtain ⟨entry, he, hkey, hvalue⟩ := heach pair hp
  obtain ⟨old, rfl⟩ : ∃ old, v = .mapping old := by
    cases v with
    | mapping old => exact ⟨old, rfl⟩
    | _ => cases hentries
  obtain rfl := Value.mapping.inj hentries
  obtain ⟨source, hs, rfl⟩ := List.mem_map.mp he
  obtain ⟨named, hnamed, hname⟩ := hread _ _ hvalue
  obtain ⟨w, hw, hreadName⟩ := (required_eq_valid_iff _ _ _).mp hname
  rw [Member.value?_of, member?_of_nameAfterKey hnamed] at hw
  obtain rfl := Option.some.inj hw
  rw [fst_nameAfterKey, hreadName] at hkey
  exact Checked.valid.inj hkey

theorem isJson_nameAfterKey {field : String} {entry : Scalar × Value}
    (hkey : ∃ s, entry.1 = .text s) (hv : entry.2.IsJson) :
    (nameAfterKey field entry).2.IsJson := by
  obtain ⟨key, v⟩ := entry
  obtain ⟨s, rfl⟩ := hkey
  cases hv with
  | scalar leaf => exact .scalar leaf
  | list each => exact .list each
  | mapping keys each => exact isJson_store (.mapping keys each) (isJson_ofText s) field

theorem isJson_nameIfUnnamed {field : String} {entry : Scalar × Value}
    (hkey : ∃ s, entry.1 = .text s) (hv : entry.2.IsJson) :
    (nameIfUnnamed field entry).2.IsJson := by
  obtain ⟨key, v⟩ := entry
  obtain ⟨s, rfl⟩ := hkey
  cases hv with
  | scalar leaf => exact .scalar leaf
  | list each => exact .list each
  | @mapping entries keys each =>
      have he : (Value.mapping entries).IsJson := .mapping keys each
      rw [nameIfUnnamed]
      cases hm : Value.member? field entries with
      | some w => exact he
      | none =>
          have hstored := isJson_store he (isJson_ofText s) field
          rw [store_eq_concat hm] at hstored
          exact hstored

/-- Naming the entries of a JSON object by texts gives another one. -/
theorem isJson_nameEntries {name : Scalar × Value → Scalar × Value}
    (hfst : ∀ entry, (name entry).1 = entry.1)
    (hname : ∀ entry, (∃ s, entry.1 = .text s) → entry.2.IsJson → (name entry).2.IsJson)
    {v : Value} (hv : v.IsJson) : (nameEntries name v).IsJson := by
  cases hv with
  | scalar leaf => exact .scalar leaf
  | list each => exact .list each
  | @mapping entries keys each =>
      refine .mapping (fun entry he => ?_) fun entry he => ?_
      · obtain ⟨source, hs, rfl⟩ := List.mem_map.mp he
        rw [hfst]
        exact keys source hs
      · obtain ⟨source, hs, rfl⟩ := List.mem_map.mp he
        exact hname source (keys source hs) (each source hs)

/-- What a member that is absent or a mapping holds was read from values, which are JSON if the
entity is. -/
theorem exists_value_of_withDefault {prepare : Value → Value}
    (hprepare : ∀ v : Value, v.IsJson → (prepare v).IsJson) {pairs : List (String × α)}
    (h : withDefault (fun v => readMapping read (prepare v)) [] m entries = .valid pairs) :
    ∀ pair ∈ pairs, ∃ w, ((Value.mapping entries).IsJson → w.IsJson) ∧
      read w = .valid pair.2 := by
  intro pair hp
  rcases (withDefault_eq_valid_iff _ m entries).mp h with ⟨-, rfl⟩ | ⟨v, hv, hread⟩
  · cases hp
  · obtain ⟨prepared, hprepared, heach⟩ := exists_entry_of_readMapping hread
    obtain ⟨entry, he, -, hentry⟩ := heach pair hp
    refine ⟨entry.2, fun hjson => ?_, hentry⟩
    have hmapping : (Value.mapping prepared).IsJson := by
      rw [← hprepared]
      exact hprepare v (hjson.of_value? hv)
    exact (hmapping.of_mem he).2

/-- The descriptor of a parameter was read from a value. -/
theorem exists_of_readParameter {v : Value} {p : Parameter} (h : readParameter v = .valid p) :
    ∃ w, (v.IsJson → w.IsJson) ∧ readDescriptor w = .valid p.descriptor := by
  obtain ⟨flat, rfl, h⟩ := readEntity_eq_valid_iff.mp h
  obtain ⟨f₂, required, h₂, -, rfl⟩ := Checked.seq_eq_valid_iff.mp h
  obtain ⟨f₁, location, h₁, -, rfl⟩ := Checked.seq_eq_valid_iff.mp h₂
  obtain ⟨descriptor, hd, rfl⟩ := Checked.map_eq_valid_iff.mp h₁
  obtain ⟨w, hw, hread⟩ := (required_eq_valid_iff _ _ _).mp hd
  exact ⟨w, fun hjson => (isJson_splitParameter hjson).of_value? hw, hread⟩

/-- The descriptors of a schema were read from values. -/
theorem exists_of_readSchema {v : Value} {s : Schema} (h : readSchema v = .valid s) :
    ∀ property ∈ s.properties, ∃ w, (v.IsJson → w.IsJson) ∧
      readDescriptor w = .valid property.2 := by
  obtain ⟨entries, rfl, h⟩ := readEntity_eq_valid_iff.mp h
  obtain ⟨f, properties, hf, hp, rfl⟩ := Checked.seq_eq_valid_iff.mp h
  obtain ⟨id, -, rfl⟩ := Checked.map_eq_valid_iff.mp hf
  exact exists_value_of_withDefault (fun _ hv => hv) hp

/-- The name of a method was read from its value, and its parameters from parts of it. -/
theorem exists_of_readMethod {v : Value} {m : Method} (h : readMethod v = .valid m) :
    (∃ entries, v = .mapping entries ∧ required readText (.of "name") entries = .valid m.name) ∧
      ∀ parameter ∈ m.parameters, ∃ w, (v.IsJson → w.IsJson) ∧
        readDescriptor w = .valid parameter.2.descriptor := by
  obtain ⟨entries, rfl, h₇⟩ := readEntity_eq_valid_iff.mp h
  obtain ⟨f₆, order, h₆, -, rfl⟩ := Checked.seq_eq_valid_iff.mp h₇
  obtain ⟨f₅, parameters, h₅, hp, rfl⟩ := Checked.seq_eq_valid_iff.mp h₆
  obtain ⟨f₄, response, h₄, -, rfl⟩ := Checked.seq_eq_valid_iff.mp h₅
  obtain ⟨f₃, request, h₃, -, rfl⟩ := Checked.seq_eq_valid_iff.mp h₄
  obtain ⟨f₂, path, h₂, -, rfl⟩ := Checked.seq_eq_valid_iff.mp h₃
  obtain ⟨f₁, verb, h₁, -, rfl⟩ := Checked.seq_eq_valid_iff.mp h₂
  obtain ⟨name, hname, rfl⟩ := Checked.map_eq_valid_iff.mp h₁
  refine ⟨⟨entries, rfl, hname⟩, fun parameter hm => ?_⟩
  obtain ⟨w, hw, hread⟩ := exists_value_of_withDefault (fun _ hv => hv) hp parameter hm
  obtain ⟨u, hu, hdescriptor⟩ := exists_of_readParameter hread
  exact ⟨u, fun hjson => hu (hw hjson), hdescriptor⟩

/-- The name of a resource was read from its value, its methods have the names of their keys, and
their parameters were read from parts of the value. -/
theorem exists_of_readResource {v : Value} {r : Resource} (h : readResource v = .valid r) :
    (∃ entries, v = .mapping entries ∧ required readText (.of "name") entries = .valid r.name) ∧
      (∀ method ∈ r.methods, method.2.name = method.1) ∧
      ∀ method ∈ r.methods, ∀ parameter ∈ method.2.parameters,
        ∃ w, (v.IsJson → w.IsJson) ∧ readDescriptor w = .valid parameter.2.descriptor := by
  obtain ⟨entries, rfl, h⟩ := readEntity_eq_valid_iff.mp h
  obtain ⟨f, methods, hf, hm, rfl⟩ := Checked.seq_eq_valid_iff.mp h
  obtain ⟨name, hname, rfl⟩ := Checked.map_eq_valid_iff.mp hf
  refine ⟨⟨entries, rfl, hname⟩, ?_, fun method hmem parameter hp => ?_⟩
  · rcases (withDefault_eq_valid_iff _ _ _).mp hm with ⟨-, rfl⟩ | ⟨w, -, hread⟩
    · exact fun method hmem => absurd hmem List.not_mem_nil
    · exact name_eq_key_of_readMapping (fun _ _ ha => (exists_of_readMethod ha).1) hread
  · obtain ⟨w, hw, hread⟩ := exists_value_of_withDefault
      (fun _ hv => isJson_nameEntries fst_nameAfterKey (fun _ => isJson_nameAfterKey) hv)
      hm method hmem
    obtain ⟨u, hu, hdescriptor⟩ := (exists_of_readMethod hread).2 parameter hp
    exact ⟨u, fun hjson => hu (hw hjson), hdescriptor⟩

/-- In a document that is read, resources and methods have the names of their keys, and every
type descriptor was read from a part of the value. -/
theorem exists_of_readDocument {v : Value} {d : Document} (h : readDocument v = .valid d) :
    (∀ resource ∈ d.resources, resource.2.name = resource.1) ∧
      (∀ resource ∈ d.resources, ∀ method ∈ resource.2.methods, method.2.name = method.1) ∧
      ∀ descriptor ∈ d.descriptors, ∃ w, (v.IsJson → w.IsJson) ∧
        readDescriptor w = .valid descriptor := by
  obtain ⟨entries, rfl, h₆⟩ := readEntity_eq_valid_iff.mp h
  obtain ⟨f₅, resources, h₅, hr, rfl⟩ := Checked.seq_eq_valid_iff.mp h₆
  obtain ⟨f₄, schemas, h₄, hs, rfl⟩ := Checked.seq_eq_valid_iff.mp h₅
  obtain ⟨f₃, title, h₃, -, rfl⟩ := Checked.seq_eq_valid_iff.mp h₄
  obtain ⟨f₂, version, h₂, -, rfl⟩ := Checked.seq_eq_valid_iff.mp h₃
  obtain ⟨f₁, name, h₁, -, rfl⟩ := Checked.seq_eq_valid_iff.mp h₂
  obtain ⟨baseUrl, -, rfl⟩ := Checked.map_eq_valid_iff.mp h₁
  have hschemas := exists_value_of_withDefault
    (fun _ hv => isJson_nameEntries fst_nameIfUnnamed (fun _ => isJson_nameIfUnnamed) hv) hs
  have hresources := exists_value_of_withDefault
    (fun _ hv => isJson_nameEntries fst_nameAfterKey (fun _ => isJson_nameAfterKey) hv) hr
  refine ⟨?_, fun resource hm => ?_, Document.forall_descriptors_iff.mpr ⟨?_, ?_⟩⟩
  · rcases (withDefault_eq_valid_iff _ _ _).mp hr with ⟨-, rfl⟩ | ⟨w, -, hread⟩
    · exact fun resource hm => absurd hm List.not_mem_nil
    · exact name_eq_key_of_readMapping (fun _ _ ha => (exists_of_readResource ha).1) hread
  · obtain ⟨w, -, hread⟩ := hresources resource hm
    exact (exists_of_readResource hread).2.1
  · intro schema hm property hp
    obtain ⟨w, hw, hread⟩ := hschemas schema hm
    obtain ⟨u, hu, hdescriptor⟩ := exists_of_readSchema hread property hp
    exact ⟨u, fun hjson => hu (hw hjson), hdescriptor⟩
  · intro resource hm method hmethod parameter hp
    obtain ⟨w, hw, hread⟩ := hresources resource hm
    obtain ⟨u, hu, hdescriptor⟩ :=
      (exists_of_readResource hread).2.2 method hmethod parameter hp
    exact ⟨u, fun hjson => hu (hw hjson), hdescriptor⟩

end RestBindings.Discovery
