import RestBindings.Binding.Generation
import RestBindings.Proofs.Building
import RestBindings.Proofs.Documents
import RestBindings.Proofs.Emission
import RestBindings.Proofs.Places

/-!
# When the bindings of a document are generated

The main statement is `generate_in_memory_iff`: a run into memory returns exactly when the base
URL gives a package, every unit of the document can be built (`Buildable`) and the paths of the
units are pairwise distinct and new to the emitter. Then the locations are these paths,
schemas first, and the emitter holds its old units followed by the new ones.

The paths of the units depend on the package and the names of the document alone
(`unitPaths`), not on the options of the run.
-/

namespace RestBindings.Binding

open Discovery Output Source

variable {options : Options} {package : String} {d : Document}

/-- The package of the model classes has a name. -/
theorem modelPackage_ne_empty (package : String) : modelPackage package ≠ "" := by
  intro hempty
  have hlength := congrArg (fun s => s.toList.length) hempty
  simp [modelPackage] at hlength

/-- The paths of the units of a document in a package, schemas first. -/
def unitPaths (package : String) (d : Document) : List String :=
  d.schemas.map (fun entry =>
      Package.filePath (modelPackage package) (Model.fileName entry.2)) ++
    d.resources.map (fun entry => Package.filePath package (Interface.fileName entry.2))

/-- The units stand at the paths of the document. -/
theorem map_path_unitsIn (options : Options) (package : String) (d : Document) :
    (unitsIn options package d).map SourceUnit.path = unitPaths package d := by
  simp only [unitsIn, unitPaths, List.map_append, List.map_map]
  rfl

/-- The paths of the units of a document; there are none when its base URL gives no package. -/
def pathsOf (d : Document) : List String :=
  match Package.ofUrl d.baseUrl with
  | .ok package => unitPaths package d
  | .error _ => []

/-- The units of a document, none when its base URL gives no package. -/
def unitsOf (options : Options) (d : Document) : List SourceUnit :=
  match Package.ofUrl d.baseUrl with
  | .ok package => unitsIn options package d
  | .error _ => []

/-- The units stand at the paths of the document, whatever the options. -/
theorem map_path_unitsOf (options : Options) (d : Document) :
    (unitsOf options d).map SourceUnit.path = pathsOf d := by
  unfold unitsOf pathsOf
  cases Package.ofUrl d.baseUrl with
  | error cause => rfl
  | ok package => exact map_path_unitsIn options package d

/-- The path of a unit has components, whatever the names of the document are. -/
theorem componentsOf_ne_nil_of_mem_pathsOf {d : Document} {path : String}
    (h : path ∈ pathsOf d) : Files.Path.componentsOf path ≠ [] := by
  have hfile (package name : String) :
      Files.Path.componentsOf (Package.filePath package (name ++ ".java")) ≠ [] := by
    refine Files.Path.componentsOf_ne_nil (c := 'j') ?_ (by decide)
    have hmem : (name ++ ".java").toList ∈
        (Text.cut '.' package ++ [name ++ ".java"]).map String.toList := by simp
    rw [Package.filePath, Text.toList_join]
    exact Text.mem_joinWith_of_mem hmem (by simp)
  unfold pathsOf at h
  split at h
  · rcases List.mem_append.mp h with h | h
    · obtain ⟨entry, -, rfl⟩ := List.mem_map.mp h
      exact hfile _ _
    · obtain ⟨entry, -, rfl⟩ := List.mem_map.mp h
      exact hfile _ _
  · cases h

/-- Every unit of a document has a source with the given options. -/
structure Buildable (options : Options) (d : Document) : Prop where
  /-- The table covers every property that the class map leaves to it. -/
  schemas : ∀ entry ∈ d.schemas, ∀ property ∈ entry.2.properties,
    property.1 ∉ options.classes.map Prod.fst → options.table.Covers property.2
  /-- Every method is bindable. -/
  methods : ∀ entry ∈ d.resources, ∀ method ∈ entry.2.methods, Bindable options.table method.2

/-- The sources of all units can be built exactly when the document is buildable. -/
theorem forall_returns_source_iff (hd : d.WellKeyed) :
    (∀ unit ∈ unitsIn options package d, Returns unit.source) ↔ Buildable options d := by
  have hschemas (entry : String × Schema) :
      Returns (modelUnit options package entry.2).source ↔
        ∀ property ∈ entry.2.properties,
          property.1 ∉ options.classes.map Prod.fst → options.table.Covers property.2 :=
    Model.returns_source_iff (modelPackage package) entry.2
  have hresources (entry : String × Resource) (he : entry ∈ d.resources) :
      Returns (interfaceUnit options package entry.2).source ↔
        ∀ method ∈ entry.2.methods, Bindable options.table method.2 :=
    Interface.returns_source_iff package (hd.eachResource entry he).each
  simp only [unitsIn, List.forall_mem_append, List.forall_mem_map]
  constructor
  · rintro ⟨hs, hr⟩
    exact ⟨fun entry he => (hschemas entry).mp (hs entry he),
      fun entry he => (hresources entry he).mp (hr entry he)⟩
  · intro h
    exact ⟨fun entry he => (hschemas entry).mpr (h.schemas entry he),
      fun entry he => (hresources entry he).mpr (h.methods entry he)⟩

section

variable {σ : Type} {store : Store σ} {p : Progress σ}

/-- Without a package nothing is emitted. -/
theorem generate_of_error {cause : Package.Error} (h : Package.ofUrl d.baseUrl = .error cause) :
    generate store options d p = (.error (.package cause), p) := by
  unfold generate
  rw [h]

/-- With a package the units of the document are emitted. -/
theorem generate_of_ok (h : Package.ofUrl d.baseUrl = .ok package) :
    generate store options d p = emitAll store (unitsIn options package d) p := by
  unfold generate
  rw [h]

/-- A run returns exactly by emitting all units of the document. -/
theorem generate_eq_ok_iff {locations : List String} {q : Progress σ} :
    generate store options d p = (.ok locations, q) ↔
      Returns (Package.ofUrl d.baseUrl) ∧
        ∃ texts, Emits store (unitsOf options d) p texts locations q := by
  cases hp : Package.ofUrl d.baseUrl with
  | error cause =>
      rw [generate_of_error hp]
      simp
  | ok package =>
      have hunits : unitsOf options d = unitsIn options package d := by
        unfold unitsOf
        rw [hp]
      rw [generate_of_ok hp, emitAll_eq_ok_iff, hunits]
      simp

end

section memory

variable {p q : Progress Memory.Units} {locations : List String}

/-- A run that returns has stored the source of every unit at its path. -/
theorem exists_text_of_generate (hp : Package.ofUrl d.baseUrl = .ok package)
    (h : generate Memory.store options d p = (.ok locations, q)) :
    locations = unitPaths package d ∧ ∀ unit ∈ unitsIn options package d,
      ∃ text, unit.source = .ok text ∧ Memory.text? unit.path q.store = some text := by
  rw [generate_of_ok hp, emitAll_eq_ok_iff] at h
  obtain ⟨texts, hemits⟩ := h
  refine ⟨?_, Memory.exists_text?_of_emits hemits⟩
  rw [(Memory.emits_eq hemits).1, map_path_unitsIn]

/-- A run that returns has taken the units of the document. -/
theorem took_of_generate (hp : Package.ofUrl d.baseUrl = .ok package)
    (h : generate Memory.store options d p = (.ok locations, q)) :
    Memory.Took (unitsIn options package d) p q := by
  rw [generate_of_ok hp, emitAll_eq_ok_iff] at h
  obtain ⟨texts, hemits⟩ := h
  exact Memory.took_of_emits hemits

/-- The class of the schema at a position is the unit at this position. -/
theorem getElem?_unitsIn_of_schema {i : Nat} {entry : String × Schema}
    (h : d.schemas[i]? = some entry) :
    (unitsIn options package d)[i]? = some (modelUnit options package entry.2) := by
  have hi : i < d.schemas.length := (List.getElem?_eq_some_iff.mp h).1
  rw [unitsIn, List.getElem?_append_left (by simpa using hi), List.getElem?_map, h]
  rfl

/-- The interface of the resource at a position is the unit at this position behind the classes
of the schemas. -/
theorem getElem?_unitsIn_of_resource {i : Nat} {entry : String × Resource}
    (h : d.resources[i]? = some entry) :
    (unitsIn options package d)[d.schemas.length + i]? =
      some (interfaceUnit options package entry.2) := by
  rw [unitsIn, List.getElem?_append_right (by simp), List.length_map, Nat.add_sub_cancel_left,
    List.getElem?_map, h]
  rfl

/-- A unit is the class of a schema or, behind these, the interface of a resource. -/
theorem schema_or_resource_of_getElem? {k : Nat} {unit : SourceUnit}
    (h : (unitsIn options package d)[k]? = some unit) :
    (∃ entry, d.schemas[k]? = some entry ∧ unit = modelUnit options package entry.2) ∨
      ∃ i entry, k = d.schemas.length + i ∧ d.resources[i]? = some entry ∧
        unit = interfaceUnit options package entry.2 := by
  rcases Nat.lt_or_ge k d.schemas.length with hk | hk
  · have hentry := List.getElem?_eq_getElem hk
    rw [getElem?_unitsIn_of_schema hentry] at h
    exact .inl ⟨_, hentry, (Option.some.inj h).symm⟩
  · obtain ⟨i, rfl⟩ := Nat.exists_eq_add_of_le hk
    have hlength : d.schemas.length + i < (unitsIn options package d).length :=
      (List.getElem?_eq_some_iff.mp h).1
    have hi : i < d.resources.length := by
      simpa [unitsIn] using hlength
    have hentry := List.getElem?_eq_getElem hi
    rw [getElem?_unitsIn_of_resource hentry] at h
    exact .inr ⟨i, _, rfl, hentry, (Option.some.inj h).symm⟩

/-- A run with these locations and this progress has given a unit at a position: the path is the
location there, and the text is stored. -/
structure UnitAt (locations : List String) (q : Progress Memory.Units) (k : Nat)
    (path text : String) : Prop where
  location : locations[k]? = some path
  stored : Memory.text? path q.store = some text

/-- A run that returns gives the unit at a position with its path and its source. -/
theorem exists_unitAt (hp : Package.ofUrl d.baseUrl = .ok package)
    (h : generate Memory.store options d p = (.ok locations, q)) {k : Nat} {unit : SourceUnit}
    (hu : (unitsIn options package d)[k]? = some unit) :
    ∃ text, unit.source = .ok text ∧ UnitAt locations q k unit.path text := by
  obtain ⟨rfl, htexts⟩ := exists_text_of_generate hp h
  obtain ⟨text, hsource, htext⟩ := htexts unit (List.mem_of_getElem? hu)
  refine ⟨text, hsource, ?_, htext⟩
  rw [← map_path_unitsIn options, List.getElem?_map, hu]
  rfl

end memory

/-- **Success of a run into memory.** It returns exactly when the base URL gives a package, the
document is buildable, and the paths of its units are pairwise distinct and new. Then the
locations are these paths, each path has its text, every other path keeps what it had, and a
coherent emitter holds its old units followed by the new ones in order. -/
theorem generate_in_memory_iff (options : Options) (d : Document) (p : Progress Memory.Units)
    (hd : d.WellKeyed) :
    (Returns (generate Memory.store options d p).1 ↔
      ∃ package, Package.ofUrl d.baseUrl = .ok package ∧ Buildable options d ∧
        (unitPaths package d).Nodup ∧ ∀ path ∈ unitPaths package d, path ∉ p.emitted) ∧
    ∀ package locations q, Package.ofUrl d.baseUrl = .ok package →
      generate Memory.store options d p = (.ok locations, q) →
      locations = unitPaths package d ∧ q.emitted = p.emitted ++ unitPaths package d ∧
        ∃ texts, List.Forall₂ (fun unit text => unit.source = .ok text)
            (unitsIn options package d) texts ∧
          (∀ entry ∈ (unitPaths package d).zip texts,
            Memory.text? entry.1 q.store = some entry.2) ∧
          (∀ path, path ∉ unitPaths package d →
            Memory.text? path q.store = Memory.text? path p.store) ∧
          (Memory.Coherent p → q.store = p.store ++ (unitPaths package d).zip texts) := by
  constructor
  · cases hp : Package.ofUrl d.baseUrl with
    | error cause => simp [generate_of_error hp]
    | ok package =>
        rw [generate_of_ok hp, Memory.returns_emitAll_iff, map_path_unitsIn,
          forall_returns_source_iff hd]
        simp
  · intro package locations q hp h
    rw [generate_of_ok hp, emitAll_eq_ok_iff] at h
    obtain ⟨texts, h⟩ := h
    have hemitted := h.emitted_eq
    obtain ⟨hl, hstore⟩ := Memory.emits_eq h
    obtain ⟨hnew, hold⟩ := Memory.text?_of_emits h
    rw [map_path_unitsIn] at hemitted hl hstore hnew hold
    exact ⟨hl, hemitted, texts, h.forall₂_source, hnew, hold, hstore⟩

/-- A document with one schema and one resource. -/
def disksDocument : Document where
  baseUrl := "http://api/"
  name := some "disks"
  version := none
  title := none
  schemas := [("Disk", ⟨"Disk", [("name", .primitive "string" none),
    ("sizes", .array "array" (.primitive "integer" (some "int64")))]⟩)]
  resources := [("disks", ⟨"disks", [("get",
    { name := "get", httpMethod := "GET", path := "disks", request := none,
      response := some ⟨"Disk"⟩,
      parameters := [("disk", ⟨.primitive "string" none, some "path", true⟩)],
      parameterOrder := some ["disk"] })]⟩)]

set_option maxRecDepth 2000 in
theorem ofUrl_disksDocument : Package.ofUrl disksDocument.baseUrl = .ok "api" := by
  rfl

theorem buildable_disksDocument : Buildable .standard disksDocument where
  schemas := by
    intro entry he
    obtain rfl := List.mem_singleton.mp he
    simp [TypeTable.Covers, Descriptor.leaf, Options.standard, TypeTable.standard]
  methods := by
    intro entry he method hm
    obtain rfl := List.mem_singleton.mp he
    obtain rfl := List.mem_singleton.mp hm
    refine ⟨by decide, by simp [Options.standard, TypeTable.standard], ?_, by simp⟩
    intro named hn
    obtain rfl := List.mem_singleton.mp hn
    exact ⟨'d', by decide, by decide⟩

/-- The sample is generated into a fresh emitter. -/
theorem generate_disksDocument :
    disksDocument.WellKeyed ∧
      Returns (generate Memory.store .standard disksDocument (.start [])).1 := by
  have hwell : disksDocument.WellKeyed := by decide
  refine ⟨hwell, (generate_in_memory_iff .standard disksDocument (.start []) hwell).1.mpr ?_⟩
  refine ⟨"api", ofUrl_disksDocument, buildable_disksDocument, ?_, ?_⟩
  · decide +kernel
  · simp [Progress.start]

/-! ## Documents of empty schemas -/

/-- A document whose schemas have the given ids and no properties. -/
def emptySchemas (ids : List String) : Document where
  baseUrl := "http://api/"
  name := none
  version := none
  title := none
  schemas := ids.map fun id => (id, ⟨id, []⟩)
  resources := []

/-- A value that describes this document by its keys alone. -/
def emptySchemasValue (ids : List String) : Value :=
  .mapping [(.text "baseUrl", .ofText "http://api/"),
    (.text "schemas", .mapping (ids.map fun id => (.text id, .mapping [])))]

end RestBindings.Binding
