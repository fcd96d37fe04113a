import RestBindings.Proofs.Independence
import RestBindings.Proofs.Templates

/-!
# What a class map changes

A class map decides the type of a field by the name of its property, before the table does. So two
runs over one document that differ in the class map alone differ in the types of fields alone, and
only where the maps differ:

* A field has the type that its map has for it, and it has one type in both runs when the maps
  agree on its name (`SameButForOverride`).
* Paths and interfaces do not depend on the map.
* A larger map keeps a run from failing: it leaves less to the table
  (`returns_generate_of_subset`).

`generate_sameButForOverrides` has these for whole runs.
-/

namespace RestBindings.Binding

open Discovery Output Source Template

/-! ## Fields -/

/-- The fields that two runs with the given class maps have for one property: both have its name,
each has the type that its map has for the name, and both have one type if the maps agree on it. -/
structure SameButForOverride (m₁ m₂ : ClassMap) (field₁ field₂ : Field) : Prop where
  name : field₁.name = field₂.name
  type : m₁.typeOf? field₁.name = m₂.typeOf? field₁.name → field₁.type = field₂.type
  override₁ : ∀ type, m₁.typeOf? field₁.name = some type → field₁.type = type
  override₂ : ∀ type, m₂.typeOf? field₂.name = some type → field₂.type = type

section

variable {table : TypeTable} {shapes : Shapes} {m m₁ m₂ : ClassMap}

/-- A field has the type that the class map has for it. -/
theorem IsField.type_eq {property : String × Descriptor} {field : Field}
    (h : IsField table m property field) {type : String}
    (htype : m.typeOf? field.name = some type) : field.type = type := by
  rw [h.name] at htype
  rcases h.type with hfound | ⟨hnone, -⟩
  · exact Option.some.inj (hfound.symm.trans htype)
  · rw [hnone] at htype
    cases htype

/-- The fields for one property with two class maps are the same but for an override. -/
theorem IsField.sameButForOverride {property : String × Descriptor} {field₁ field₂ : Field}
    (h₁ : IsField table m₁ property field₁) (h₂ : IsField table m₂ property field₂) :
    SameButForOverride m₁ m₂ field₁ field₂ where
  name := h₁.name.trans h₂.name.symm
  type := by
    intro hagree
    rw [h₁.name] at hagree
    rcases h₁.type with hfound₁ | ⟨hnone₁, hgives₁⟩
    · rcases h₂.type with hfound₂ | ⟨hnone₂, -⟩
      · rw [hfound₁, hfound₂] at hagree
        exact Option.some.inj hagree
      · rw [hfound₁, hnone₂] at hagree
        cases hagree
    · rcases h₂.type with hfound₂ | ⟨-, hgives₂⟩
      · rw [hnone₁, hfound₂] at hagree
        cases hagree
      · exact hgives₁.unique hgives₂
  override₁ := fun _ htype => h₁.type_eq htype
  override₂ := fun _ htype => h₂.type_eq htype

/-! ## Runs -/

variable {d : Document} {package : String} {p q : Progress Memory.Units}
  {locations : List String}

/-- A run that returns has given every schema its class, with one field per property. -/
theorem exists_fields_at (hp : Package.ofUrl d.baseUrl = .ok package)
    (h : generate Memory.store ⟨table, shapes, m⟩ d p = (.ok locations, q)) {i : Nat}
    {key : String} {s : Schema} (hs : d.schemas[i]? = some (key, s)) :
    ∃ fields, List.Forall₂ (IsField table m) s.properties fields ∧
      UnitAt locations q i (Package.filePath (modelPackage package) (Model.fileName s))
        (ended (classLines (modelPackage package) (declaredName (modelPackage package) s.id)
          fields)) := by
  obtain ⟨text, hsource, hat⟩ := exists_unitAt hp h (getElem?_unitsIn_of_schema hs)
  obtain ⟨fields, hfields, rfl⟩ :=
    (Model.source_eq_ok_iff (modelPackage_ne_empty package)).mp hsource
  exact ⟨fields, hfields, hat⟩

/-- A class map that names more properties keeps a run from failing. -/
theorem returns_generate_of_subset (hm : ∀ name ∈ m₁.map Prod.fst, name ∈ m₂.map Prod.fst)
    (h : Returns (generate Memory.store ⟨table, shapes, m₁⟩ d p).1) :
    Returns (generate Memory.store ⟨table, shapes, m₂⟩ d p).1 := by
  cases hp : Package.ofUrl d.baseUrl with
  | error cause =>
      rw [generate_of_error hp] at h
      exact absurd h (not_returns_error _)
  | ok package =>
      rw [generate_of_ok hp, Memory.returns_emitAll_iff, map_path_unitsIn] at h ⊢
      obtain ⟨hsources, hpaths⟩ := h
      refine ⟨?_, hpaths⟩
      intro unit hunit
      rcases List.mem_append.mp hunit with hunit | hunit
      · obtain ⟨entry, he, rfl⟩ := List.mem_map.mp hunit
        have hsource : Returns (modelUnit ⟨table, shapes, m₁⟩ package entry.2).source := by
          apply hsources
          exact List.mem_append_left _ (List.mem_map_of_mem he)
        -- the second map leaves only properties to the table that the first leaves to it
        have hcovers := (Model.returns_source_iff (modelPackage package) entry.2).mp hsource
        apply (Model.returns_source_iff (modelPackage package) entry.2).mpr
        intro property hproperty hname
        exact hcovers property hproperty fun hname₁ => hname (hm _ hname₁)
      · obtain ⟨entry, he, rfl⟩ := List.mem_map.mp hunit
        exact hsources (interfaceUnit ⟨table, shapes, m₁⟩ package entry.2)
          (List.mem_append_right _ (List.mem_map_of_mem he))

end

/-- **A class map touches only the fields that it names.** When the runs over a document with two
class maps return into fresh emitters, they emit the same paths in the same order, give every
resource the same interface, and give every schema classes whose fields have the names of its
properties, in order, and are the same but for overrides. And when the second map has every entry
of the first, the second run returns if the first does. A run without a class map is one with the
empty map. -/
theorem generate_sameButForOverrides (table : TypeTable) (shapes : Shapes) (d : Document)
    (m₁ m₂ : ClassMap) :
    (∀ locations₁ locations₂ q₁ q₂,
      generate Memory.store ⟨table, shapes, m₁⟩ d (.start []) = (.ok locations₁, q₁) →
      generate Memory.store ⟨table, shapes, m₂⟩ d (.start []) = (.ok locations₂, q₂) →
      locations₁ = locations₂ ∧ q₁.emitted = q₂.emitted ∧
      (∀ (i : Nat) (key : String) (r : Resource), d.resources[i]? = some (key, r) →
        SameUnitAt locations₁ q₁ (d.schemas.length + i) locations₂ q₂ (d.schemas.length + i)) ∧
      ∃ package, Package.ofUrl d.baseUrl = .ok package ∧
        ∀ (i : Nat) (key : String) (s : Schema), d.schemas[i]? = some (key, s) →
          ∃ path fields₁ fields₂,
            UnitAt locations₁ q₁ i path (ended (classLines (modelPackage package)
              (declaredName (modelPackage package) s.id) fields₁)) ∧
            UnitAt locations₂ q₂ i path (ended (classLines (modelPackage package)
              (declaredName (modelPackage package) s.id) fields₂)) ∧
            fields₁.map Field.name = s.properties.map Prod.fst ∧
            List.Forall₂ (SameButForOverride m₁ m₂) fields₁ fields₂) ∧
    ((∀ name type, m₁.typeOf? name = some type → m₂.typeOf? name = some type) →
      Returns (generate Memory.store ⟨table, shapes, m₁⟩ d (.start [])).1 →
      Returns (generate Memory.store ⟨table, shapes, m₂⟩ d (.start [])).1) := by
  constructor
  · intro locations₁ locations₂ q₁ q₂ h₁ h₂
    obtain ⟨package, hp⟩ : Returns (Package.ofUrl d.baseUrl) := (generate_eq_ok_iff.mp h₁).1
    have htook₁ := took_of_generate hp h₁
    have htook₂ := took_of_generate hp h₂
    refine ⟨?_, ?_, ?_, package, hp, ?_⟩
    · rw [(exists_text_of_generate hp h₁).1, (exists_text_of_generate hp h₂).1]
    · rw [htook₁.emitted, htook₂.emitted, map_path_unitsIn, map_path_unitsIn]
    · intro i key r hr
      apply sameUnitAt_of_generate hp hp h₁ h₂
      · exact getElem?_unitsIn_of_resource hr
      · exact getElem?_unitsIn_of_resource hr
    · intro i key s hs
      obtain ⟨fields₁, hfields₁, hat₁⟩ := exists_fields_at hp h₁ hs
      obtain ⟨fields₂, hfields₂, hat₂⟩ := exists_fields_at hp h₂ hs
      refine ⟨_, fields₁, fields₂, hat₁, hat₂, ?_, ?_⟩
      · exact (map_eq_map_of_forall₂ (hfields₁.imp fun _ _ h => h.name.symm)).symm
      · exact forall₂_of_common (fun _ _ _ h h' => h.sameButForOverride h') hfields₁ hfields₂
  · intro hentries
    apply returns_generate_of_subset
    intro name hname
    obtain ⟨type, htype⟩ := Option.isSome_iff_exists.mp (Keyed.isSome_get?_iff.mpr hname)
    exact Keyed.isSome_get?_iff.mp (Option.isSome_iff_exists.mpr ⟨type, hentries name type htype⟩)

/-- A document with a property of a type that only a class map can name. -/
def overriddenDocument : Document :=
  { emptySchemas [] with
    schemas := [("Disk", ⟨"Disk", [("size", .primitive "any" none),
      ("name", .primitive "string" none)]⟩)]
    resources := [("disks", ⟨"disks", []⟩)] }

set_option maxRecDepth 2000 in
/-- It is not generated without a class map, but with one that names the property and with every
larger one. -/
theorem sameButForOverrides_overriddenDocument :
    ¬ Returns (generate Memory.store .standard overriddenDocument (.start [])).1 ∧
    ∃ locations q₁ q₂,
      generate Memory.store ⟨.standard, .both, [("size", "Long")]⟩ overriddenDocument
        (.start []) = (.ok locations, q₁) ∧
      generate Memory.store ⟨.standard, .both, [("name", "Name"), ("size", "Long")]⟩
        overriddenDocument (.start []) = (.ok locations, q₂) ∧
      SameUnitAt locations q₁ 1 locations q₂ 1 ∧
      ∃ path fields₁ fields₂,
        UnitAt locations q₁ 0 path (ended (classLines "api.model" "Disk" fields₁)) ∧
        UnitAt locations q₂ 0 path (ended (classLines "api.model" "Disk" fields₂)) ∧
        fields₁.map Field.name = ["size", "name"] ∧
        List.Forall₂ (SameButForOverride [("size", "Long")] [("name", "Name"), ("size", "Long")])
          fields₁ fields₂ := by
  have hp : Package.ofUrl overriddenDocument.baseUrl = .ok "api" := ofUrl_disksDocument
  obtain ⟨hruns, hlarger⟩ := generate_sameButForOverrides .standard .both overriddenDocument
    [("size", "Long")] [("name", "Name"), ("size", "Long")]
  constructor
  · rw [generate_of_ok hp]
    exact not_returns_error _
  · obtain ⟨locations₁, q₁, h₁⟩ : ∃ locations q, generate Memory.store
        ⟨.standard, .both, [("size", "Long")]⟩ overriddenDocument (.start []) =
          (.ok locations, q) := by
      rw [generate_of_ok hp]
      exact ⟨_, _, rfl⟩
    have hentries : ∀ name type, ClassMap.typeOf? [("size", "Long")] name = some type →
        ClassMap.typeOf? [("name", "Name"), ("size", "Long")] name = some type := by
      intro name type h
      simp only [ClassMap.typeOf?, Keyed.get?] at h ⊢
      split_ifs at h ⊢ with hsize hname
      · simp [← hsize] at hname
      · exact h
    obtain ⟨locations₂, hlocations₂⟩ := hlarger hentries ⟨locations₁, congrArg Prod.fst h₁⟩
    obtain ⟨q₂, h₂⟩ := exists_eq_of_fst hlocations₂
    obtain ⟨rfl, -, hinterfaces, package, hpackage, hclasses⟩ := hruns _ _ _ _ h₁ h₂
    obtain rfl : package = "api" := Except.ok.inj (hpackage.symm.trans hp)
    refine ⟨locations₁, q₁, q₂, h₁, h₂, hinterfaces 0 "disks" ⟨"disks", []⟩ rfl, ?_⟩
    have hmodel : modelPackage "api" = "api.model" := rfl
    have hname : declaredName "api.model" "Disk" = "Disk" := if_neg (by decide)
    have hclass := hclasses 0 "Disk" _ rfl
    rw [hmodel] at hclass
    simp only [hname] at hclass
    exact hclass

end RestBindings.Binding
