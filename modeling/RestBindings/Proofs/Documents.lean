import RestBindings.Discovery.Acceptance
import RestBindings.Proofs.Checked

/-!
# Documents have one entry per key

The mappings of a document are lists of entries. `Document.WellKeyed` says that none of them
holds a key twice, which is what makes a list of entries a mapping. Every document that is
accepted has this form (`wellKeyed_of_accept`), whatever the keys of the value it was read
from.
-/

namespace RestBindings.Discovery

/-- The parameters of a method have distinct names. -/
def Method.WellKeyed (m : Method) : Prop :=
  Keyed.Distinct m.parameters

/-- The methods of a resource have distinct keys and are well keyed. -/
structure Resource.WellKeyed (r : Resource) : Prop where
  methods : Keyed.Distinct r.methods
  each : ∀ entry ∈ r.methods, entry.2.WellKeyed

/-- The properties of a schema have distinct names. -/
def Schema.WellKeyed (s : Schema) : Prop :=
  Keyed.Distinct s.properties

/-- No mapping of a document holds a key twice. -/
structure Document.WellKeyed (d : Document) : Prop where
  schemas : Keyed.Distinct d.schemas
  resources : Keyed.Distinct d.resources
  eachSchema : ∀ entry ∈ d.schemas, entry.2.WellKeyed
  eachResource : ∀ entry ∈ d.resources, entry.2.WellKeyed

instance (m : Method) : Decidable m.WellKeyed :=
  inferInstanceAs (Decidable (Keyed.Distinct m.parameters))

instance (s : Schema) : Decidable s.WellKeyed :=
  inferInstanceAs (Decidable (Keyed.Distinct s.properties))

instance (r : Resource) : Decidable r.WellKeyed :=
  decidable_of_iff (Keyed.Distinct r.methods ∧ ∀ entry ∈ r.methods, entry.2.WellKeyed)
    ⟨fun h => ⟨h.1, h.2⟩, fun h => ⟨h.methods, h.each⟩⟩

instance (d : Document) : Decidable d.WellKeyed :=
  decidable_of_iff
    (Keyed.Distinct d.schemas ∧ Keyed.Distinct d.resources ∧
      (∀ entry ∈ d.schemas, entry.2.WellKeyed) ∧ ∀ entry ∈ d.resources, entry.2.WellKeyed)
    ⟨fun h => ⟨h.1, h.2.1, h.2.2.1, h.2.2.2⟩,
      fun h => ⟨h.schemas, h.resources, h.eachSchema, h.eachResource⟩⟩

variable {α : Type}

/-- An entity is read from a mapping. -/
theorem readEntity_eq_valid_iff {entity : String} {read : Entries → Checked α} {v : Value}
    {a : α} :
    readEntity entity read v = .valid a ↔
      ∃ entries, v = .mapping entries ∧ read entries = .valid a := by
  cases v <;> simp [readEntity, Checked.fail]

/-- A member that holds a mapping, absent or read, has no key twice, and each of its values was
read. -/
theorem of_withDefault_readMapping {read : Value → Checked α} (prepare : Value → Value)
    {m : Member} {entries : Entries} {pairs : List (String × α)}
    (h : withDefault (fun v => readMapping read (prepare v)) [] m entries = .valid pairs) :
    Keyed.Distinct pairs ∧ ∀ pair ∈ pairs, ∃ w, read w = .valid pair.2 := by
  rcases (withDefault_eq_valid_iff _ m entries).mp h with ⟨-, rfl⟩ | ⟨v, -, hv⟩
  · exact ⟨List.nodup_nil, fun pair hp => absurd hp List.not_mem_nil⟩
  · exact of_readMapping_eq_valid hv

/-- A schema that is read is well keyed. -/
theorem Schema.wellKeyed_of_read {v : Value} {s : Schema} (h : readSchema v = .valid s) :
    s.WellKeyed := by
  obtain ⟨entries, -, h⟩ := readEntity_eq_valid_iff.mp h
  obtain ⟨f, properties, hf, hp, rfl⟩ := Checked.seq_eq_valid_iff.mp h
  obtain ⟨id, -, rfl⟩ := Checked.map_eq_valid_iff.mp hf
  exact (of_withDefault_readMapping (fun v => v) hp).1

/-- A method that is read is well keyed. -/
theorem Method.wellKeyed_of_read {v : Value} {m : Method} (h : readMethod v = .valid m) :
    m.WellKeyed := by
  obtain ⟨entries, -, h₇⟩ := readEntity_eq_valid_iff.mp h
  obtain ⟨f₆, order, h₆, -, rfl⟩ := Checked.seq_eq_valid_iff.mp h₇
  obtain ⟨f₅, parameters, h₅, hp, rfl⟩ := Checked.seq_eq_valid_iff.mp h₆
  obtain ⟨f₄, response, h₄, -, rfl⟩ := Checked.seq_eq_valid_iff.mp h₅
  obtain ⟨f₃, request, h₃, -, rfl⟩ := Checked.seq_eq_valid_iff.mp h₄
  obtain ⟨f₂, path, h₂, -, rfl⟩ := Checked.seq_eq_valid_iff.mp h₃
  obtain ⟨f₁, verb, h₁, -, rfl⟩ := Checked.seq_eq_valid_iff.mp h₂
  obtain ⟨name, -, rfl⟩ := Checked.map_eq_valid_iff.mp h₁
  exact (of_withDefault_readMapping (fun v => v) hp).1

/-- A resource that is read is well keyed. -/
theorem Resource.wellKeyed_of_read {v : Value} {r : Resource} (h : readResource v = .valid r) :
    r.WellKeyed := by
  obtain ⟨entries, -, h⟩ := readEntity_eq_valid_iff.mp h
  obtain ⟨f, methods, hf, hm, rfl⟩ := Checked.seq_eq_valid_iff.mp h
  obtain ⟨name, -, rfl⟩ := Checked.map_eq_valid_iff.mp hf
  obtain ⟨hd, hread⟩ := of_withDefault_readMapping (nameEntries (nameAfterKey "name")) hm
  refine ⟨hd, fun entry he => ?_⟩
  obtain ⟨w, hw⟩ := hread entry he
  exact Method.wellKeyed_of_read hw

/-- A document that is read is well keyed. -/
theorem Document.wellKeyed_of_read {v : Value} {d : Document} (h : readDocument v = .valid d) :
    d.WellKeyed := by
  obtain ⟨entries, -, h₆⟩ := readEntity_eq_valid_iff.mp h
  obtain ⟨f₅, resources, h₅, hr, rfl⟩ := Checked.seq_eq_valid_iff.mp h₆
  obtain ⟨f₄, schemas, h₄, hs, rfl⟩ := Checked.seq_eq_valid_iff.mp h₅
  obtain ⟨f₃, title, h₃, -, rfl⟩ := Checked.seq_eq_valid_iff.mp h₄
  obtain ⟨f₂, version, h₂, -, rfl⟩ := Checked.seq_eq_valid_iff.mp h₃
  obtain ⟨f₁, name, h₁, -, rfl⟩ := Checked.seq_eq_valid_iff.mp h₂
  obtain ⟨baseUrl, -, rfl⟩ := Checked.map_eq_valid_iff.mp h₁
  obtain ⟨hsd, hsread⟩ := of_withDefault_readMapping (nameEntries (nameIfUnnamed "id")) hs
  obtain ⟨hrd, hrread⟩ := of_withDefault_readMapping (nameEntries (nameAfterKey "name")) hr
  refine ⟨hsd, hrd, fun entry he => ?_, fun entry he => ?_⟩
  · obtain ⟨w, hw⟩ := hsread entry he
    exact Schema.wellKeyed_of_read hw
  · obtain ⟨w, hw⟩ := hrread entry he
    exact Resource.wellKeyed_of_read hw

/-- What is accepted is what is read from a mapping. -/
theorem accept_eq_ok_iff {source : String} {v : Value} {d : Document} :
    accept source v = .ok d ↔ readDocument v = .valid d := by
  cases v with
  | mapping entries =>
      rw [accept]
      cases readDocument (.mapping entries) <;> simp
  | _ => simp [accept, readDocument, readEntity, Checked.fail]

/-- **Every accepted document is well keyed.** -/
theorem Document.wellKeyed_of_accept {source : String} {v : Value} {d : Document}
    (h : accept source v = .ok d) : d.WellKeyed :=
  Document.wellKeyed_of_read (accept_eq_ok_iff.mp h)

end RestBindings.Discovery
