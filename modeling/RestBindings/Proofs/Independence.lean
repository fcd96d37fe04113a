import RestBindings.Proofs.Generation

/-!
# Units do not depend on one another

The unit of a schema or a resource is made from the options, the package and this entry alone, so
a run gives an entry the same unit whatever stands beside it (`SameUnits`). The emitter sees the
units one after the other, but asks only whether a path is taken: documents that differ in the
order of their entries (`Reordered`) return together, and then each path has the same text.

`generate_independent` has both for whole runs.
-/

namespace RestBindings.Binding

open Discovery Output Source

/-- Two documents hold the same schemas and the same resources, maybe in another order. -/
structure Reordered (d₁ d₂ : Document) : Prop where
  schemas : (d₁.schemas.map Prod.snd).Perm (d₂.schemas.map Prod.snd)
  resources : (d₁.resources.map Prod.snd).Perm (d₂.resources.map Prod.snd)

/-- The units of a document in terms of its schemas and resources. -/
theorem unitsIn_eq (options : Options) (package : String) (d : Document) :
    unitsIn options package d =
      (d.schemas.map Prod.snd).map (modelUnit options package) ++
        (d.resources.map Prod.snd).map (interfaceUnit options package) := by
  rw [unitsIn, List.map_map, List.map_map]
  rfl

/-- Reordered documents have the same units, maybe in another order. -/
theorem Reordered.unitsIn_perm {d₁ d₂ : Document} (h : Reordered d₁ d₂) (options : Options)
    (package : String) :
    (unitsIn options package d₁).Perm (unitsIn options package d₂) := by
  rw [unitsIn_eq, unitsIn_eq]
  exact (h.schemas.map _).append (h.resources.map _)

section

variable {options : Options} {d₁ d₂ : Document} {p p₁ p₂ q₁ q₂ : Progress Memory.Units}
  {locations₁ locations₂ : List String}

/-- Reordered documents are generated together. -/
theorem Reordered.returns_generate_iff (h : Reordered d₁ d₂) (hbase : d₁.baseUrl = d₂.baseUrl) :
    Returns (generate Memory.store options d₁ p).1 ↔
      Returns (generate Memory.store options d₂ p).1 := by
  cases hp : Package.ofUrl d₁.baseUrl with
  | error cause =>
      have hp' : Package.ofUrl d₂.baseUrl = .error cause := hbase ▸ hp
      rw [generate_of_error hp, generate_of_error hp']
  | ok package =>
      have hp' : Package.ofUrl d₂.baseUrl = .ok package := hbase ▸ hp
      rw [generate_of_ok hp, generate_of_ok hp']
      exact Memory.returns_emitAll_iff_of_perm (h.unitsIn_perm options package) p

/-- Runs over reordered documents leave the same text at every path. -/
theorem Reordered.text?_eq (h : Reordered d₁ d₂) (hbase : d₁.baseUrl = d₂.baseUrl)
    (h₁ : generate Memory.store options d₁ p = (.ok locations₁, q₁))
    (h₂ : generate Memory.store options d₂ p = (.ok locations₂, q₂)) (path : String) :
    Memory.text? path q₁.store = Memory.text? path q₂.store := by
  obtain ⟨package, hp⟩ : Returns (Package.ofUrl d₁.baseUrl) := (generate_eq_ok_iff.mp h₁).1
  have hp' : Package.ofUrl d₂.baseUrl = .ok package := hbase ▸ hp
  have hmem (unit : SourceUnit) :
      unit ∈ unitsIn options package d₁ ↔ unit ∈ unitsIn options package d₂ :=
    (h.unitsIn_perm options package).mem_iff
  exact (took_of_generate hp h₁).text?_eq_of_mem_iff (took_of_generate hp' h₂) hmem path

/-- Two runs give the same unit at a position of the one and a position of the other. -/
def SameUnitAt (locations₁ : List String) (q₁ : Progress Memory.Units) (k₁ : Nat)
    (locations₂ : List String) (q₂ : Progress Memory.Units) (k₂ : Nat) : Prop :=
  ∃ path text, UnitAt locations₁ q₁ k₁ path text ∧ UnitAt locations₂ q₂ k₂ path text

/-- A unit that two documents have in common comes out the same, wherever it stands. -/
theorem sameUnitAt_of_generate {options' : Options} {package : String}
    (hp₁ : Package.ofUrl d₁.baseUrl = .ok package) (hp₂ : Package.ofUrl d₂.baseUrl = .ok package)
    (h₁ : generate Memory.store options d₁ p₁ = (.ok locations₁, q₁))
    (h₂ : generate Memory.store options' d₂ p₂ = (.ok locations₂, q₂)) {k₁ k₂ : Nat}
    {unit : SourceUnit} (hu₁ : (unitsIn options package d₁)[k₁]? = some unit)
    (hu₂ : (unitsIn options' package d₂)[k₂]? = some unit) :
    SameUnitAt locations₁ q₁ k₁ locations₂ q₂ k₂ := by
  obtain ⟨text, hsource, hat₁⟩ := exists_unitAt hp₁ h₁ hu₁
  obtain ⟨text', hsource', hat₂⟩ := exists_unitAt hp₂ h₂ hu₂
  obtain rfl : text = text' := Except.ok.inj (hsource.symm.trans hsource')
  exact ⟨unit.path, text, hat₁, hat₂⟩

end

/-- **Units are independent of one another.** For documents with one base URL: if the one is the
other reordered, the runs into fresh emitters return together and leave the same text at every
path. When runs over any two of them return, a schema or a resource that both documents hold has
the same path and the same source in both, at its position among the schemas of its document or
behind them. -/
theorem generate_independent (options : Options) {d₁ d₂ : Document}
    (hbase : d₁.baseUrl = d₂.baseUrl) :
    (Reordered d₁ d₂ →
      (Returns (generate Memory.store options d₁ (.start [])).1 ↔
        Returns (generate Memory.store options d₂ (.start [])).1) ∧
      ∀ locations₁ locations₂ q₁ q₂,
        generate Memory.store options d₁ (.start []) = (.ok locations₁, q₁) →
        generate Memory.store options d₂ (.start []) = (.ok locations₂, q₂) →
        ∀ path, Memory.text? path q₁.store = Memory.text? path q₂.store) ∧
    ∀ p₁ p₂ locations₁ locations₂ q₁ q₂,
      generate Memory.store options d₁ p₁ = (.ok locations₁, q₁) →
      generate Memory.store options d₂ p₂ = (.ok locations₂, q₂) →
      (∀ (i j : Nat) (key₁ key₂ : String) (s : Schema), d₁.schemas[i]? = some (key₁, s) →
        d₂.schemas[j]? = some (key₂, s) → SameUnitAt locations₁ q₁ i locations₂ q₂ j) ∧
      ∀ (i j : Nat) (key₁ key₂ : String) (r : Resource), d₁.resources[i]? = some (key₁, r) →
        d₂.resources[j]? = some (key₂, r) →
        SameUnitAt locations₁ q₁ (d₁.schemas.length + i) locations₂ q₂ (d₂.schemas.length + j) := by
  constructor
  · intro hreordered
    refine ⟨hreordered.returns_generate_iff hbase, ?_⟩
    intro locations₁ locations₂ q₁ q₂ h₁ h₂ path
    exact hreordered.text?_eq hbase h₁ h₂ path
  · intro p₁ p₂ locations₁ locations₂ q₁ q₂ h₁ h₂
    obtain ⟨package, hp₁⟩ : Returns (Package.ofUrl d₁.baseUrl) := (generate_eq_ok_iff.mp h₁).1
    have hp₂ : Package.ofUrl d₂.baseUrl = .ok package := hbase ▸ hp₁
    constructor
    · intro i j key₁ key₂ s hs₁ hs₂
      apply sameUnitAt_of_generate hp₁ hp₂ h₁ h₂
      · exact getElem?_unitsIn_of_schema hs₁
      · rw [getElem?_unitsIn_of_schema hs₂]
    · intro i j key₁ key₂ r hr₁ hr₂
      apply sameUnitAt_of_generate hp₁ hp₂ h₁ h₂
      · exact getElem?_unitsIn_of_resource hr₁
      · rw [getElem?_unitsIn_of_resource hr₂]

/-- A document of empty classes and interfaces, with the given ids and names. -/
def emptyUnits (ids names : List String) : Document :=
  { emptySchemas ids with resources := names.map fun name => (name, ⟨name, []⟩) }

set_option maxRecDepth 1000 in
/-- Two documents with the same entries in another order. -/
theorem independent_emptyUnits :
    ∃ q₁ q₂,
      generate Memory.store .standard (emptyUnits ["Disk", "Zone"] ["disks"]) (.start []) =
        (.ok ["api/model/Disk.java", "api/model/Zone.java", "api/Disks.java"], q₁) ∧
      generate Memory.store .standard (emptyUnits ["Zone", "Disk"] ["disks"]) (.start []) =
        (.ok ["api/model/Zone.java", "api/model/Disk.java", "api/Disks.java"], q₂) ∧
      (∀ path, Memory.text? path q₁.store = Memory.text? path q₂.store) ∧
      ∃ path text,
        UnitAt ["api/model/Disk.java", "api/model/Zone.java", "api/Disks.java"] q₁ 1 path text ∧
        UnitAt ["api/model/Zone.java", "api/model/Disk.java", "api/Disks.java"] q₂ 0 path text := by
  have hp (ids names : List String) : Package.ofUrl (emptyUnits ids names).baseUrl = .ok "api" :=
    ofUrl_disksDocument
  obtain ⟨q₁, h₁⟩ : ∃ q₁,
      generate Memory.store .standard (emptyUnits ["Disk", "Zone"] ["disks"]) (.start []) =
        (.ok ["api/model/Disk.java", "api/model/Zone.java", "api/Disks.java"], q₁) := by
    rw [generate_of_ok (hp _ _)]
    exact exists_eq_of_fst rfl
  obtain ⟨q₂, h₂⟩ : ∃ q₂,
      generate Memory.store .standard (emptyUnits ["Zone", "Disk"] ["disks"]) (.start []) =
        (.ok ["api/model/Zone.java", "api/model/Disk.java", "api/Disks.java"], q₂) := by
    rw [generate_of_ok (hp _ _)]
    exact exists_eq_of_fst rfl
  have hbase : (emptyUnits ["Disk", "Zone"] ["disks"]).baseUrl =
      (emptyUnits ["Zone", "Disk"] ["disks"]).baseUrl := rfl
  have hreordered : Reordered (emptyUnits ["Disk", "Zone"] ["disks"])
      (emptyUnits ["Zone", "Disk"] ["disks"]) :=
    ⟨.swap _ _ _, .refl _⟩
  obtain ⟨hsame, hcommon⟩ := generate_independent .standard hbase
  refine ⟨q₁, q₂, h₁, h₂, ?_, ?_⟩
  · exact (hsame hreordered).2 _ _ _ _ h₁ h₂
  · exact (hcommon _ _ _ _ _ _ h₁ h₂).1 1 0 "Zone" "Zone" ⟨"Zone", []⟩ rfl rfl

end RestBindings.Binding
