import RestBindings.Proofs.Agreement

/-!
# When the package of a base URL can be written

A package is written in the clause of every interface, with `.model` behind it in the clause of
every class, and in the import of the classes. All three need a qualified name (`isQualified`).

* The package has one identifier for every nonempty label of the host, so it is a qualified name
  as soon as there is such a label (`isQualified_ofHost_iff`), and then so is the package of the
  classes (`isQualified_modelPackage`).
* The labels of a host are all empty exactly when the host consists of dots
  (`labels_ne_nil_iff`). Such a host is not refused: its package is the empty text, and the package
  of the classes begins with a dot (`ofUrl_dot_not_qualified`).

`isQualified_ofUrl_iff` is the exact condition for every base URL.
-/

namespace RestBindings

/-- Lowering dots changes nothing. -/
theorem Unicode.lowerAfter_of_dots {s : List Char} (h : ∀ c ∈ s, c = '.') (before : List Char) :
    lowerAfter before s = s := by
  have hascii : ∀ c ∈ s, c.toNat < 128 := by
    intro c hc
    rw [h c hc]
    decide
  have hself : ∀ c ∈ s, c.toLower = id c := by
    intro c hc
    rw [h c hc]
    rfl
  rw [lowerAfter_of_ascii hascii, List.map_congr_left hself, List.map_id]

namespace Source

/-! ## Qualified names -/

/-- The text is a qualified name: identifiers with dots between them. -/
def isQualified (name : String) : Bool :=
  (Text.splitOn '.' name.toList).all Identifier.isIdentifier

/-- Identifiers with dots between them are a qualified name, when there is one. -/
theorem isQualified_joinWith {name : String} {identifiers : List (List Char)}
    (hname : name.toList = Text.joinWith ['.'] identifiers)
    (h : ∀ s ∈ identifiers, Identifier.isIdentifier s = true) :
    isQualified name = true ↔ identifiers ≠ [] := by
  constructor
  · rintro hq rfl
    rw [isQualified, hname] at hq
    exact absurd hq (by decide)
  · intro hne
    have hdots : ∀ s ∈ identifiers, '.' ∉ s := fun s hs hdot =>
      absurd (Identifier.isPart_of_isIdentifier (h s hs) '.' hdot) (by decide)
    rw [isQualified, hname, Text.splitOn_joinWith hne hdots]
    exact List.all_eq_true.mpr h

/-- The characters of a qualified name are dots and those of identifiers. -/
theorem isPart_of_isQualified {name : String} (h : isQualified name = true) {c : Char}
    (hc : c ∈ name.toList) : c = '.' ∨ Identifier.isPart c = true := by
  rw [← Text.joinWith_splitOn '.' name.toList] at hc
  rcases Text.mem_joinWith hc with hdot | ⟨s, hs, hmem⟩
  · exact .inl (List.mem_singleton.mp hdot)
  · exact .inr (Identifier.isPart_of_isIdentifier (List.all_eq_true.mp h s hs) c hmem)

/-- No qualified name holds a line feed. -/
theorem notMem_of_isQualified {name : String} (h : isQualified name = true) :
    '\n' ∉ name.toList := by
  intro hmem
  rcases isPart_of_isQualified h hmem with hdot | hpart
  · exact absurd hdot (by decide)
  · exact absurd hpart (by decide)

/-- A qualified name is not empty. -/
theorem ne_empty_of_isQualified {name : String} (h : isQualified name = true) : name ≠ "" := by
  rintro rfl
  exact absurd h (by decide)

namespace Package

/-- A host has a nonempty label exactly when it does not consist of dots. -/
theorem labels_ne_nil_iff (host : List Char) : labels host ≠ [] ↔ ∃ c ∈ host, c ≠ '.' := by
  constructor
  · intro hne
    by_contra hnone
    have hdots : ∀ c ∈ host, c = '.' := fun c hc => by_contra fun hdot => hnone ⟨c, hc, hdot⟩
    obtain ⟨label, hl⟩ := List.exists_mem_of_ne_nil _ hne
    rw [labels, Unicode.lower, Unicode.lowerAfter_of_dots hdots, List.mem_filter] at hl
    -- a part of a host of dots holds nothing but dots, hence nothing
    cases label with
    | nil => exact absurd hl.2 (by decide)
    | cons c rest =>
        have hc : c ∈ host := by
          rw [← Text.joinWith_splitOn '.' host]
          exact Text.mem_joinWith_of_mem hl.1 List.mem_cons_self
        refine Text.notMem_of_mem_splitOn hl.1 ?_
        rw [← hdots c hc]
        exact List.mem_cons_self
  · rintro ⟨c, hc, hdot⟩
    rw [← Text.joinWith_splitOn '.' host] at hc
    rcases Text.mem_joinWith hc with h | ⟨label, hl, hin⟩
    · exact absurd (List.mem_singleton.mp h) hdot
    · exact labels_ne_nil hl (List.ne_nil_of_mem hin)

/-- The package of a host is a qualified name exactly when the host has a nonempty label, and the
empty text otherwise. -/
theorem isQualified_ofHost_iff {host : List Char} {package : String}
    (h : ofHost host = .ok package.toList) :
    (isQualified package = true ↔ ∃ c ∈ host, c ≠ '.') ∧
      (isQualified package = true ∨ package = "") := by
  obtain ⟨identifiers, hpackage, hlength, hall⟩ := exists_identifiers_of_ofHost h
  have hlabels : identifiers ≠ [] ↔ labels host ≠ [] := by
    rw [← List.length_pos_iff, ← List.length_pos_iff, hlength]
  refine ⟨by rw [isQualified_joinWith hpackage hall, hlabels, labels_ne_nil_iff], ?_⟩
  by_cases hnil : identifiers = []
  · subst hnil
    exact .inr (String.toList_inj.mp hpackage)
  · exact .inl ((isQualified_joinWith hpackage hall).mpr hnil)

end Package

end Source

namespace Binding

open Discovery Source

variable {options : Options} {package text : String}

/-- The package of the classes is a qualified name exactly when the package is one. -/
theorem isQualified_modelPackage (package : String) :
    isQualified (modelPackage package) = isQualified package := by
  have htext : (modelPackage package).toList = package.toList ++ '.' :: "model".toList := by
    simp [modelPackage]
  have hmodel : Identifier.isIdentifier "model".toList = true := by decide
  have hpart : Text.splitOn '.' "model".toList = ["model".toList] := by decide
  rw [isQualified, htext, Text.splitOn_append, hpart, List.all_append, List.all_cons,
    List.all_nil, hmodel, Bool.and_true, Bool.and_true, isQualified]

/-! ## The lines that name the package -/

/-- Lines without line feeds at the front of a unit are the first lines of its text. -/
theorem prefix_lines_textOf {front lines : List String} (h : front <+: lines)
    (hplain : ∀ line ∈ front, '\n' ∉ line.toList) : front <+: Text.lines (Writer.textOf lines) := by
  obtain ⟨rest, rfl⟩ := h
  obtain ⟨tail, htail⟩ := exists_lines_textOf hplain rest
  exact ⟨tail, htail.symm⟩

/-- The lines of a clause hold no line feed when the package holds none. -/
theorem notMem_clauseLines (hline : '\n' ∉ package.toList) :
    ∀ line ∈ clauseLines package, '\n' ∉ line.toList := by
  unfold clauseLines
  split_ifs
  · simp
  · simp [hline]

/-- A class begins with the clause of its package. -/
theorem front_of_modelUnit (hline : '\n' ∉ package.toList) {s : Schema}
    (h : (modelUnit options package s).source = .ok text) :
    clauseLines (modelPackage package) <+: Text.lines text := by
  obtain ⟨members, rfl⟩ := Model.exists_members_of_source h
  refine prefix_lines_textOf ?_ (notMem_clauseLines (by simp [modelPackage, hline]))
  rw [unitLines, List.append_assoc]
  exact List.prefix_append _ _

/-- An interface begins with the clause of its package and the import of the classes. -/
theorem front_of_interfaceUnit (hline : '\n' ∉ package.toList) {r : Resource}
    (h : (interfaceUnit options package r).source = .ok text) :
    clauseLines package ++ ["import " ++ modelPackage package ++ ".*;"] <+:
      Text.lines text := by
  obtain ⟨members, rfl⟩ := Interface.exists_members_of_source h
  have himport : "import " ++ (package ++ ".model.*") ++ ";" =
      "import " ++ modelPackage package ++ ".*;" := by
    rw [← String.toList_inj]
    simp [modelPackage]
  refine prefix_lines_textOf ?_ ?_
  · rw [unitLines, List.append_assoc, List.prefix_append_right_inj, ← himport]
    exact ⟨_, rfl⟩
  · intro line hmem
    rcases List.mem_append.mp hmem with hmem | hmem
    · exact notMem_clauseLines hline line hmem
    · rw [List.mem_singleton.mp hmem]
      simp [modelPackage, hline]

/-- **When a base URL gives a legal package.** The package of a base URL is a qualified name, and
with it that of the classes, exactly when the host does not consist of dots; otherwise it is the
empty text. Every clause and the import of the classes that are written from a qualified name hold
it as it is. -/
theorem isQualified_ofUrl_iff {base : String} (h : Package.ofUrl base = .ok package) :
    ∃ parts, Url.split base.toList = .ok parts ∧
      (isQualified package = true ↔ ∃ c ∈ parts.host, c ≠ '.') ∧
      (isQualified package = true ∨ package = "") ∧
      (isQualified (modelPackage package) = true ↔ isQualified package = true) ∧
      (isQualified package = true → ∀ options text,
        (∀ s, (modelUnit options package s).source = .ok text →
          ["package " ++ modelPackage package ++ ";", ""] <+: Text.lines text) ∧
        ∀ r, (interfaceUnit options package r).source = .ok text →
          ["package " ++ package ++ ";", "", "import " ++ modelPackage package ++ ".*;"] <+:
            Text.lines text) := by
  obtain ⟨parts, hurl, ho⟩ := Package.exists_host_of_ofUrl h
  obtain ⟨hiff, hor⟩ := Package.isQualified_ofHost_iff ho
  refine ⟨parts, hurl, hiff, hor, by rw [isQualified_modelPackage], fun hq options text => ?_⟩
  have hline := notMem_of_isQualified hq
  refine ⟨fun s hs => ?_, fun r hr => ?_⟩
  · rw [← clauseLines_of_ne_empty (modelPackage_ne_empty package)]
    exact front_of_modelUnit hline hs
  · have hfront := front_of_interfaceUnit hline hr
    rw [clauseLines_of_ne_empty (ne_empty_of_isQualified hq)] at hfront
    exact hfront

/-- A host with three labels. -/
theorem isQualified_ofUrl_googleapis :
    Package.ofUrl "https://www.googleapis.com/compute/v1/projects/" = .ok "com.googleapis.www" ∧
      isQualified "com.googleapis.www" = true ∧
      isQualified (modelPackage "com.googleapis.www") = true := by
  have h : Package.ofUrl "https://www.googleapis.com/compute/v1/projects/" =
      .ok "com.googleapis.www" := by decide +kernel
  obtain ⟨-, -, -, hor, hmodel, -⟩ := isQualified_ofUrl_iff h
  have hq : isQualified "com.googleapis.www" = true := hor.resolve_right (by decide)
  exact ⟨h, hq, hmodel.mpr hq⟩

/-- **A package that is no qualified name**: the host that is a single dot has no label, and the
clause of a class and the import of the classes name a package that begins with a dot. -/
theorem ofUrl_dot_not_qualified :
    Package.ofUrl "http://./" = .ok "" ∧ isQualified "" = false ∧
      isQualified (modelPackage "") = false ∧
      (∃ text, (modelUnit .standard "" ⟨"Disk", []⟩).source = .ok text ∧
        ["package .model;", ""] <+: Text.lines text) ∧
      ∃ text, (interfaceUnit .standard "" ⟨"disks", []⟩).source = .ok text ∧
        ["import .model.*;"] <+: Text.lines text := by
  obtain ⟨model, hmodel⟩ : Returns (modelUnit .standard "" ⟨"Disk", []⟩).source := ⟨_, rfl⟩
  obtain ⟨interface_, hinterface⟩ : Returns (interfaceUnit .standard "" ⟨"disks", []⟩).source :=
    ⟨_, rfl⟩
  have hline : '\n' ∉ "".toList := List.not_mem_nil
  exact ⟨rfl, by decide, by decide, ⟨model, hmodel, front_of_modelUnit hline hmodel⟩,
    ⟨interface_, hinterface, front_of_interfaceUnit hline hinterface⟩⟩

end Binding

end RestBindings
