import Mathlib.Data.List.SplitBy
import RestBindings.Proofs.Agreement

/-!
# When units collide

The name of an interface is made from the words of the name of its resource, so resources with
different names may ask for one interface. When the words begin with letters, nothing is lost but
letter case and the underscores: the words stand in the name of the interface from one capital to
the next, and cutting it in front of its capitals gives them back (`splitBy_interfaceChars`).

* Two resources of this kind have one interface name exactly when their words are equal in lower
  case (`interfaceName_eq_iff`).
* A class never stands at the path of an interface, whose directory is the one above
  (`path_modelUnit_ne`).

`separate_units` says for every document of such resources when the paths of its units are
pairwise distinct.
-/

namespace RestBindings

/-- Two functions that tell the same elements of a list apart give images without repetitions
together. -/
theorem nodup_map_congr {α β γ : Type} {f : α → β} {g : α → γ} {l : List α}
    (h : ∀ a ∈ l, ∀ b ∈ l, f a = f b ↔ g a = g b) : (l.map f).Nodup ↔ (l.map g).Nodup := by
  rw [List.Nodup, List.Nodup, List.pairwise_map, List.pairwise_map]
  exact List.Pairwise.iff_of_mem fun ha hb => not_congr (h _ ha _ hb)

namespace Source.Identifier

/-! ## Words that begin with letters -/

/-- A word of ASCII characters that begins with a letter. -/
def Lettered (word : List Char) : Prop :=
  (∀ c ∈ word, c.toNat < 128) ∧ ∃ first rest, word = first :: rest ∧ first.isAlpha = true

variable {word : List Char}

/-- A capitalised word is a capital with no other behind it. -/
theorem Lettered.exists_capital (h : Lettered word) :
    ∃ first rest, Unicode.capitalize word = first :: rest ∧ first.isUpper = true ∧
      ∀ c ∈ rest, c.isUpper = false := by
  obtain ⟨hascii, first, rest, rfl, halpha⟩ := h
  have hfirst : ∀ c : Char, c.toNat < 128 → c.isAlpha = true → c.toUpper.isUpper = true :=
    fun c => Unicode.forall_of_ascii
      (P := fun c => c.isAlpha = true → c.toUpper.isUpper = true) (by decide +kernel)
  have hrest : ∀ c : Char, c.toNat < 128 → c.toLower.isUpper = false :=
    fun c => Unicode.forall_of_ascii (P := fun c => c.toLower.isUpper = false) (by decide +kernel)
  refine ⟨first.toUpper, rest.map Char.toLower, Unicode.capitalize_of_ascii hascii, ?_, ?_⟩
  · exact hfirst first (hascii first List.mem_cons_self) halpha
  · intro c hc
    obtain ⟨d, hd, rfl⟩ := List.mem_map.mp hc
    exact hrest d (hascii d (List.mem_cons_of_mem _ hd))

/-- Capitalising a word keeps its lower case. -/
theorem Lettered.lower_capitalize (h : Lettered word) :
    Unicode.lower (Unicode.capitalize word) = Unicode.lower word := by
  obtain ⟨hascii, first, rest, rfl, -⟩ := h
  rw [Unicode.capitalize_of_ascii hascii, Unicode.lower_of_ascii hascii]
  rw [List.forall_mem_cons] at hascii
  have hmapped : ∀ c ∈ first.toUpper :: rest.map Char.toLower, c.toNat < 128 := by
    rw [List.forall_mem_cons, List.forall_mem_map]
    exact ⟨Unicode.toUpper_lt_of_ascii hascii.1,
      fun c hc => Unicode.toLower_lt_of_ascii (hascii.2 c hc)⟩
  rw [Unicode.lower_of_ascii hmapped, List.map_cons, List.map_cons, List.map_map,
    Unicode.toLower_toUpper_of_ascii hascii.1]
  exact congrArg _ (List.map_congr_left fun c hc =>
    Unicode.toLower_toLower_of_ascii (hascii.2 c hc))

/-- Capitalising a word does not depend on its letter case. -/
theorem Lettered.capitalize_lower (h : Lettered word) :
    Unicode.capitalize (Unicode.lower word) = Unicode.capitalize word := by
  obtain ⟨hascii, first, rest, rfl, -⟩ := h
  have hmapped : ∀ c ∈ first.toLower :: rest.map Char.toLower, c.toNat < 128 := by
    rw [← List.map_cons, List.forall_mem_map]
    exact fun c hc => Unicode.toLower_lt_of_ascii (hascii c hc)
  rw [Unicode.lower_of_ascii hascii, List.map_cons, Unicode.capitalize_of_ascii hmapped,
    Unicode.capitalize_of_ascii hascii]
  rw [List.forall_mem_cons] at hascii
  rw [List.map_map, Unicode.toUpper_toLower_of_ascii hascii.1]
  exact congrArg _ (List.map_congr_left fun c hc =>
    Unicode.toLower_toLower_of_ascii (hascii.2 c hc))

/-- Capitalised words are read back by cutting in front of the capitals. -/
theorem splitBy_flatMap_capitalize {words : List (List Char)} (h : ∀ word ∈ words, Lettered word) :
    (words.flatMap Unicode.capitalize).splitBy (fun _ c => !c.isUpper) =
      words.map Unicode.capitalize := by
  rw [List.flatMap_def]
  refine List.splitBy_flatten ?_ ?_ ?_
  · intro hnil
    obtain ⟨word, hw, hempty⟩ := List.mem_map.mp hnil
    obtain ⟨first, rest, hcap, -⟩ := (h word hw).exists_capital
    rw [hcap] at hempty
    cases hempty
  · -- behind the first character of a word there is no capital
    refine List.forall_mem_map.mpr fun word hw => List.Pairwise.isChain ?_
    obtain ⟨first, rest, hcap, -, hrest⟩ := (h word hw).exists_capital
    have hnone (b : Char) : ∀ c ∈ rest, (!c.isUpper) = true := fun c hc => by rw [hrest c hc]; rfl
    rw [hcap, List.pairwise_cons]
    exact ⟨hnone first, List.pairwise_of_forall_mem_list fun b _ => hnone b⟩
  · -- every word begins with a capital
    refine List.Pairwise.isChain (List.pairwise_map.mpr ?_)
    refine List.pairwise_of_forall_mem_list fun word hw next hn => ?_
    obtain ⟨_, _, hcap, -⟩ := (h word hw).exists_capital
    obtain ⟨first, rest, hnext, hupper, -⟩ := (h next hn).exists_capital
    refine ⟨by rw [hcap]; exact List.cons_ne_nil _ _, by rw [hnext]; exact List.cons_ne_nil _ _, ?_⟩
    simp only [hnext, List.head_cons, hupper, Bool.not_true]

/-! ## Names of interfaces -/

/-- The name consists of ASCII letters, digits and underscores, and each of its words begins with
a letter. -/
structure Worded (name : String) : Prop where
  plain : ∀ c ∈ name.toList, c.isAlphanum = true ∨ c = '_'
  lettered : ∀ word ∈ Text.words '_' name.toList, word.head?.any Char.isAlpha = true

/-- The words of a name in lower case. -/
def lowerWords (name : String) : List (List Char) :=
  (Text.words '_' name.toList).map Unicode.lower

variable {name other : String}

/-- The words of such a name begin with letters. -/
theorem Worded.lettered_of_mem (h : Worded name) :
    ∀ word ∈ Text.words '_' name.toList, Lettered word := by
  refine fun word hw => ⟨fun c hc => ?_, ?_⟩
  · have hpart : isPart c = true := by
      rcases h.plain c (Text.mem_of_mem_words hw hc) with halnum | rfl
      · exact isPart_of_isAlphanum halnum
      · decide
    exact Nat.lt_of_lt_of_le (lt_of_isPart hpart) (by decide)
  · cases word with
    | nil => exact absurd rfl (Text.mem_words_iff.mp hw).2
    | cons first rest => exact ⟨first, rest, rfl, h.lettered _ hw⟩

/-- **The name of an interface holds the words of its resource**: cutting it in front of its
capitals gives them back, capitalised. -/
theorem splitBy_interfaceChars (h : Worded name) :
    (interfaceChars name.toList).splitBy (fun _ c => !c.isUpper) =
      (Text.words '_' name.toList).map Unicode.capitalize := by
  rw [interfaceChars_eq, splitBy_flatMap_capitalize h.lettered_of_mem]

/-- Words that are capitalised alike are alike in lower case, and the other way round. -/
theorem map_capitalize_eq_iff (h : Worded name) (ho : Worded other) :
    (Text.words '_' name.toList).map Unicode.capitalize =
        (Text.words '_' other.toList).map Unicode.capitalize ↔
      lowerWords name = lowerWords other := by
  have hlower {name : String} (h : Worded name) :
      ((Text.words '_' name.toList).map Unicode.capitalize).map Unicode.lower =
        lowerWords name := by
    rw [List.map_map, lowerWords]
    exact List.map_congr_left fun word hw => (h.lettered_of_mem word hw).lower_capitalize
  have hcapital {name : String} (h : Worded name) :
      (lowerWords name).map Unicode.capitalize =
        (Text.words '_' name.toList).map Unicode.capitalize := by
    rw [lowerWords, List.map_map]
    exact List.map_congr_left fun word hw => (h.lettered_of_mem word hw).capitalize_lower
  constructor
  · intro heq
    rw [← hlower h, ← hlower ho, heq]
  · intro heq
    rw [← hcapital h, ← hcapital ho, heq]

/-- Two such names give one interface name exactly when their words are equal in lower case. -/
theorem interfaceName_eq_iff (h : Worded name) (ho : Worded other) :
    interfaceName name = interfaceName other ↔ lowerWords name = lowerWords other := by
  rw [← map_capitalize_eq_iff h ho, interfaceName, interfaceName, ← String.toList_inj,
    String.toList_ofList, String.toList_ofList]
  constructor
  · intro heq
    rw [← splitBy_interfaceChars h, heq, splitBy_interfaceChars ho]
  · intro heq
    rw [interfaceChars_eq, interfaceChars_eq, List.flatMap_def, List.flatMap_def, heq]

/-- The interface name of two names with an underscore between them is put together from theirs,
whatever the names are. -/
theorem interfaceName_append (name other : String) :
    interfaceName (name ++ "_" ++ other) = interfaceName name ++ interfaceName other := by
  have htext : (name ++ "_" ++ other).toList = name.toList ++ '_' :: other.toList := by simp
  rw [← String.toList_inj, String.toList_append]
  simp only [interfaceName, String.toList_ofList]
  rw [htext, interfaceChars, Text.splitOn_append, List.flatMap_append]
  rfl

end Source.Identifier

namespace Binding

open Discovery Output Source Source.Identifier

variable {options : Options} {package : String}

/-! ## Paths of units -/

/-- The types of one package stand at different paths. -/
theorem pathOf_eq_iff {name other : String} :
    pathOf package name = pathOf package other ↔ name = other := by
  refine ⟨fun h => ?_, fun h => by rw [h]⟩
  have htext := congrArg String.toList h
  simpa [pathOf, String.toList_inj] using htext

/-- A class stands at the path of its id. -/
theorem path_modelUnit (s : Schema) :
    (modelUnit options package s).path = pathOf (modelPackage package) s.id :=
  filePath_eq_pathOf _ _

/-- An interface stands at the path of its name. -/
theorem path_interfaceUnit (r : Resource) :
    (interfaceUnit options package r).path = pathOf package (Interface.typeName r) :=
  filePath_eq_pathOf _ _

/-- The directory of the classes stands below that of the interfaces. -/
theorem directoryOf_modelPackage (package : String) :
    directoryOf (modelPackage package) = directoryOf package ++ "/model" := by
  rw [← String.toList_inj]
  simp [directoryOf, modelPackage]

/-- A class never stands at the path of an interface whose name is free of slashes. -/
theorem path_modelUnit_ne {s : Schema} {r : Resource} (h : '/' ∉ r.name.toList) :
    (modelUnit options package s).path ≠ (interfaceUnit options package r).path := by
  rw [path_modelUnit, path_interfaceUnit]
  intro heq
  have hname : '/' ∉ (Interface.typeName r).toList := by
    rw [mem_typeName_iff (by decide)]
    exact h
  rw [pathOf, pathOf, directoryOf_modelPackage, ← String.toList_inj] at heq
  have htext : ("model/".toList ++ s.id.toList) ++ ".java".toList =
      (Interface.typeName r).toList ++ ".java".toList := by simpa using heq
  refine hname ?_
  rw [← List.append_cancel_right htext]
  simp

/-- The name of a resource over letters, digits and underscores is free of slashes. -/
theorem notMem_of_worded {name : String} (h : Worded name) : '/' ∉ name.toList := by
  intro hmem
  rcases h.plain '/' hmem with halnum | hunderscore
  · exact absurd halnum (by decide)
  · exact absurd hunderscore (by decide)

/-- **When units collide.** The interface name of two names with an underscore between them is put
together from theirs. The interface names of two resources whose words begin with letters are equal
exactly when their words are equal in lower case. So in every document of such resources whose base
URL gives a package the paths of the units that are generated are pairwise distinct exactly when the
ids of the schemas are and the words of the resources in lower case are; whatever the ids are, a
class never stands at the path of an interface. -/
theorem separate_units :
    (∀ name other : String,
      interfaceName (name ++ "_" ++ other) = interfaceName name ++ interfaceName other) ∧
    (∀ name other : String, Worded name → Worded other →
      (interfaceName name = interfaceName other ↔ lowerWords name = lowerWords other)) ∧
    ∀ (options : Options) (d : Document) (package : String),
      Package.ofUrl d.baseUrl = .ok package →
      (∀ entry ∈ d.resources, Worded entry.2.name) →
      (∀ {σ : Type} (store : Store σ) (p : Progress σ),
        generate store options d p = emitAll store (unitsIn options package d) p) ∧
      (((unitsIn options package d).map SourceUnit.path).Nodup ↔
        (d.schemas.map fun entry => entry.2.id).Nodup ∧
          (d.resources.map fun entry => lowerWords entry.2.name).Nodup) ∧
      ∀ schema ∈ d.schemas, ∀ resource ∈ d.resources,
        (modelUnit options package schema.2).path ≠
          (interfaceUnit options package resource.2).path := by
  refine ⟨interfaceName_append, fun _ _ => interfaceName_eq_iff, ?_⟩
  intro options d package hp hworded
  have hapart : ∀ schema ∈ d.schemas, ∀ resource ∈ d.resources,
      (modelUnit options package schema.2).path ≠
        (interfaceUnit options package resource.2).path :=
    fun schema _ resource hr => path_modelUnit_ne (notMem_of_worded (hworded resource hr))
  have hschemas : (d.schemas.map fun entry => (modelUnit options package entry.2).path).Nodup ↔
      (d.schemas.map fun entry => entry.2.id).Nodup :=
    nodup_map_congr fun a _ b _ => by rw [path_modelUnit, path_modelUnit, pathOf_eq_iff]
  have hresources :
      (d.resources.map fun entry => (interfaceUnit options package entry.2).path).Nodup ↔
        (d.resources.map fun entry => lowerWords entry.2.name).Nodup :=
    nodup_map_congr fun a ha b hb => by
      rw [path_interfaceUnit, path_interfaceUnit, pathOf_eq_iff]
      exact interfaceName_eq_iff (hworded a ha) (hworded b hb)
  have hgenerate {σ : Type} (store : Store σ) (p : Progress σ) :
      generate store options d p = emitAll store (unitsIn options package d) p := by
    rw [generate, hp]
  refine ⟨hgenerate, ?_, hapart⟩
  rw [← hschemas, ← hresources, unitsIn, List.map_append, List.map_map, List.map_map,
    List.nodup_append]
  constructor
  · rintro ⟨hs, hr, -⟩
    exact ⟨hs, hr⟩
  · rintro ⟨hs, hr⟩
    refine ⟨hs, hr, List.forall_mem_map.mpr fun schema hschema => ?_⟩
    exact List.forall_mem_map.mpr fun resource hresource =>
      hapart schema hschema resource hresource

/-- A document with two resources of the given names. -/
def twoResources (name other : String) : Document where
  baseUrl := "http://api/"
  name := none
  version := none
  title := none
  schemas := [("Model", ⟨"Model", []⟩)]
  resources := [(name, ⟨name, []⟩), (other, ⟨other, []⟩)]

/-- It has the package of its host. -/
theorem ofUrl_twoResources (name other : String) :
    Package.ofUrl (twoResources name other).baseUrl = .ok "api" :=
  ofUrl_disksDocument

/-- Resources whose names differ in letter case and underscores only ask for one interface. -/
theorem separate_units_colliding :
    Worded "http_proxies" ∧ Worded "HTTP__proxies_" ∧
      interfaceName "http_proxies" = interfaceName "HTTP__proxies_" ∧
      ¬ ((unitsIn .standard "api" (twoResources "http_proxies" "HTTP__proxies_")).map
        SourceUnit.path).Nodup := by
  have hleft : Worded "http_proxies" :=
    ⟨Unicode.forall_of_all (by decide), by decide⟩
  have hright : Worded "HTTP__proxies_" :=
    ⟨Unicode.forall_of_all (by decide), by decide⟩
  have hwords : lowerWords "http_proxies" = lowerWords "HTTP__proxies_" := by decide +kernel
  have hresources : ∀ entry ∈ (twoResources "http_proxies" "HTTP__proxies_").resources,
      Worded entry.2.name := by
    simp [twoResources, hleft, hright]
  obtain ⟨-, hname, hunits⟩ := separate_units
  obtain ⟨-, hiff, -⟩ := hunits .standard (twoResources "http_proxies" "HTTP__proxies_") "api"
    (ofUrl_twoResources _ _) hresources
  refine ⟨hleft, hright, (hname _ _ hleft hright).mpr hwords, fun hnodup => ?_⟩
  have hdistinct := (hiff.mp hnodup).2
  simp [twoResources, hwords] at hdistinct

end Binding

end RestBindings
