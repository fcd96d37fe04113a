import RestBindings.Proofs.Attempts
import RestBindings.Proofs.Ensuring
import RestBindings.Proofs.Storing

/-!
# A directory mirrors the units in memory

Two emitters are given the same units, one with a directory that nothing is in (`Ready`), the other
with a store in memory. As long as the paths can be those of files (`Ordinary`) and none leads
through another one (`Suitable`), they cannot be told apart: every attempt ends alike (`Agree`), and
the files below the directory are the units in memory.

`Mirrors` is what carries this from one unit to the next. Files below the directory stand where the
paths of the units lead, and directories only where such a path passes. So a path that is not yet
taken is blocked by neither: a file in its way would be a path that it leads through, and a
directory at its end a path that leads through it (`Mirrors.clear`, `Mirrors.find?_target`). The
store then takes the unit (`exists_store_eq_ok`), and the tree mirrors it (`Mirrors.stored`).
-/

namespace RestBindings.Output.Directory

open Files Files.Tree

variable {directory path text : String} {t t' t'' : Tree} {out q : Place}

/-! ## Storing a unit -/

/-- A unit is stored when its path is usable and neither a file stands in its way nor a directory
at its end. -/
theorem exists_store_eq_ok (h : ((Path.ofText directory).below path).Usable)
    (hne : Path.componentsOf path ≠ [])
    (hstart : t.find? ((Path.ofText directory).startIn t.workingDirectory) = some .directory)
    (hclear : t.Clear (((Path.ofText directory).below path).visitedIn t.workingDirectory))
    (hplace : t.find? (target (home directory t.workingDirectory) path) ≠ some .directory)
    (hpast : target (home directory t.workingDirectory) path ∉
      ((Path.ofText directory).below path).visitedIn t.workingDirectory) (text : String) :
    ∃ t', store directory path text t = (.ok (location directory path), t') := by
  set p := (Path.ofText directory).below path with hp
  have hcomponents : p.components ≠ [] := List.append_ne_nil_of_right_ne_nil _ hne
  have htrail := Path.trailIn_parent hcomponents t.workingDirectory
  obtain ⟨hgrown, hopened⟩ := ensurePath_spec (t := t) h.parent.toWellFormed
  have hmade : (t.ensurePath p.parent).1 = .ok () :=
    ensurePath_eq_ok h.parent hstart (htrail ▸ hclear)
  cases he : t.ensurePath p.parent with
  | mk outcome t₁ =>
      rw [he] at hgrown hopened hmade
      simp only at hmade
      subst hmade
      have hwork : t₁.workingDirectory = t.workingDirectory := hgrown.workingDirectory
      have hopen : t₁.Open (p.visitedIn t₁.workingDirectory) := by
        rw [hwork, ← htrail]
        exact hopened rfl
      have hplace₁ : t₁.find? (p.placeIn t₁.workingDirectory) ≠ some .directory := by
        rw [hwork, hp, placeIn_below]
        rcases hgrown.kept_or_made (target (home directory t.workingDirectory) path) with
          hk | ⟨hmem, -⟩
        · rw [hk]
          exact hplace
        · exact absurd (htrail ▸ hmem) hpast
      have hstart₁ : t₁.find? (p.startIn t₁.workingDirectory) = some .directory := by
        rw [hwork]
        exact hgrown.find?_eq hstart
      obtain ⟨t₂, hw⟩ := writeText_of_open h hstart₁ hopen hplace₁ text
      exact ⟨t₂, by simp only [store, ← hp, he, hw, location]⟩

/-! ## Paths of files -/

/-- The names of a path can be those of files. -/
def Ordinary (path : String) : Prop :=
  ∀ name ∈ Text.cut '/' path, name ≠ "" ∧ name ≠ "." ∧ name ≠ ".." ∧ '\x00' ∉ name.toList ∧
    name.utf8ByteSize ≤ nameLimit

instance (path : String) : Decidable (Ordinary path) :=
  inferInstanceAs (Decidable (∀ name ∈ Text.cut '/' path, name ≠ "" ∧ name ≠ "." ∧ name ≠ ".." ∧
    '\x00' ∉ name.toList ∧ name.utf8ByteSize ≤ nameLimit))

/-- Paths that can be those of files below a directory, all at once. -/
structure Suitable (directory : String) (paths : List String) : Prop where
  ordinary : ∀ path ∈ paths, Ordinary path
  /-- No path leads through another one. -/
  prefixFree : ∀ a ∈ paths, ∀ b ∈ paths, Text.cut '/' a <+: Text.cut '/' b → a = b
  /-- Their locations are not too long. -/
  size : ∀ path ∈ paths, (location directory path).utf8ByteSize ≤ pathLimit

/-- A path is known by its names. -/
theorem cut_injective : Function.Injective (Text.cut '/') := by
  intro a b h
  rw [← Text.join_cut '/' a, ← Text.join_cut '/' b, h]

theorem cut_ne_nil (path : String) : Text.cut '/' path ≠ [] := by
  rw [Text.cut]
  simpa using Text.splitOn_ne_nil '/' path.toList

namespace Ordinary

variable (h : Ordinary path)

include h

theorem down : ∀ name ∈ Text.cut '/' path, Path.counts name ∧ name ≠ ".." := by
  intro name hname
  obtain ⟨hempty, hdot, hdots, -⟩ := h name hname
  simp [Path.counts, hempty, hdot, hdots]

/-- All names of the path count. -/
theorem componentsOf_eq : Path.componentsOf path = Text.cut '/' path :=
  List.filter_eq_self.mpr fun name hname => (h.down name hname).1

/-- The path leads straight down. -/
theorem target_eq (out : Place) : target out path = out ++ Text.cut '/' path := by
  rw [target, h.componentsOf_eq, Place.resolve_of_down h.down]

/-- The path passes the places on its way down. -/
theorem exists_prefix_of_mem_passed (hq : q ∈ passed out path) :
    ∃ front, q = out ++ front ∧ front <+: Text.cut '/' path ∧ front ≠ Text.cut '/' path := by
  rw [passed, h.componentsOf_eq] at hq
  exact Place.exists_prefix_of_mem_visited h.down hq

/-- The path starts at the directory. -/
theorem mem_passed : out ∈ passed out path := by
  obtain ⟨name, rest, hcut⟩ := List.exists_cons_of_ne_nil (cut_ne_nil path)
  rw [passed, h.componentsOf_eq, hcut]
  exact List.mem_cons_self

theorem below_target : out.Below (target out path) := by
  obtain ⟨name, rest, hcut⟩ := List.exists_cons_of_ne_nil (cut_ne_nil path)
  exact ⟨name, rest, by rw [h.target_eq, hcut]⟩

/-- The path does not pass its own end. -/
theorem target_notMem_passed : target out path ∉ passed out path := by
  intro hmem
  obtain ⟨front, hq, -, hne⟩ := h.exists_prefix_of_mem_passed hmem
  rw [h.target_eq] at hq
  exact hne (List.append_cancel_left hq).symm

end Ordinary

/-! ## Mirroring -/

/-- Nothing is in a directory, which need not exist, but what leads to it does. -/
structure Ready (directory : String) (t : Tree) : Prop where
  leads : t.locate (Path.ofText directory).text = .ok (home directory t.workingDirectory)
  free : ∀ content, t.find? (home directory t.workingDirectory) ≠ some (.file content)
  empty : ∀ q, (home directory t.workingDirectory).Below q → t.find? q = none

/-- What a directory in which nothing was holds mirrors units. -/
structure Mirrors (directory : String) (t : Tree) (units : Memory.Units) (t' : Tree) : Prop where
  keeps : Keeps t t'
  free : ∀ content, t'.find? (home directory t.workingDirectory) ≠ some (.file content)
  /-- The files are the units. -/
  files : ∀ q content, (home directory t.workingDirectory).Below q →
    (t'.find? q = some (.file content) ↔ ∃ unit ∈ units,
      q = target (home directory t.workingDirectory) unit.1 ∧ content = unit.2.toUTF8)
  /-- Directories lead to units. -/
  directories : ∀ q, (home directory t.workingDirectory).Below q →
    t'.find? q = some .directory → ∃ unit ∈ units,
      q ∈ passed (home directory t.workingDirectory) unit.1

/-- An empty directory mirrors no units. -/
theorem Ready.mirrors (h : Ready directory t) : Mirrors directory t [] t where
  keeps := .refl t
  free := h.free
  files := by
    intro q content hq
    rw [h.empty q hq]
    simp
  directories := by
    intro q hq hdir
    rw [h.empty q hq] at hdir
    cases hdir

/-- Below a directory that is ready an ordinary path is usable. -/
theorem Ready.usable_below (h : Ready directory t) (hp : Ordinary path)
    (hsize : (location directory path).utf8ByteSize ≤ pathLimit) :
    ((Path.ofText directory).below path).Usable := by
  have hdirectory := usable_of_locate (Path.wellFormed_ofText directory) h.leads
  have hnames : ∀ c ∈ ((Path.ofText directory).below path).components,
      '\x00' ∉ c.toList ∧ c.utf8ByteSize ≤ nameLimit := by
    intro c hc
    rw [Path.below, List.mem_append, hp.componentsOf_eq] at hc
    rcases hc with hc | hc
    · exact ⟨hdirectory.nullFree c hc, hdirectory.short c hc⟩
    · obtain ⟨-, -, -, hnull, hshort⟩ := hp c hc
      exact ⟨hnull, hshort⟩
  exact ⟨wellFormed_below directory path, fun c hc => (hnames c hc).1,
    fun c hc => (hnames c hc).2, hsize⟩

namespace Mirrors

variable {units : Memory.Units} {paths : List String}

section

variable (h : Mirrors directory t units t') (hpaths : Suitable directory paths)
  (hunits : units.map Prod.fst ⊆ paths) (hmem : path ∈ paths)
  (hnew : path ∉ units.map Prod.fst)

include h hpaths hunits hmem hnew

/-- No file stands in the way of a new path. -/
theorem clear (hready : Ready directory t) :
    t'.Clear (((Path.ofText directory).below path).visitedIn t'.workingDirectory) := by
  obtain ⟨-, -, hvisited⟩ := locate_text (Path.wellFormed_ofText directory) hready.leads
  intro q hq content hfile
  rw [h.keeps.workingDirectory, visitedIn_below, List.mem_append] at hq
  rcases hq with hq | hq
  · rw [h.keeps.directory q (hvisited q hq)] at hfile
    cases hfile
  · obtain ⟨front, rfl, hprefix, -⟩ :=
      (hpaths.ordinary path hmem).exists_prefix_of_mem_passed hq
    cases front with
    | nil => exact h.free content (by simpa using hfile)
    | cons name rest =>
        -- the new path would lead through that of the unit in this file
        obtain ⟨unit, hu, hq, -⟩ := (h.files _ content ⟨name, rest, rfl⟩).mp hfile
        have hin : unit.1 ∈ units.map Prod.fst := List.mem_map_of_mem hu
        rw [(hpaths.ordinary _ (hunits hin)).target_eq] at hq
        rw [List.append_cancel_left hq] at hprefix
        exact hnew (hpaths.prefixFree _ (hunits hin) _ hmem hprefix ▸ hin)

/-- Nothing is where a new path leads. -/
theorem find?_target : t'.find? (target (home directory t.workingDirectory) path) = none := by
  have hordinary := hpaths.ordinary path hmem
  cases hf : t'.find? (target (home directory t.workingDirectory) path) with
  | none => rfl
  | some entry =>
      cases entry with
      | file content =>
          obtain ⟨unit, hu, hq, -⟩ := (h.files _ content hordinary.below_target).mp hf
          have hin : unit.1 ∈ units.map Prod.fst := List.mem_map_of_mem hu
          rw [hordinary.target_eq, (hpaths.ordinary _ (hunits hin)).target_eq] at hq
          exact absurd (cut_injective (List.append_cancel_left hq) ▸ hin) hnew
      | directory =>
          -- the path of the unit for which it was made would lead through the new one
          obtain ⟨unit, hu, hq⟩ := h.directories _ hordinary.below_target hf
          have hin : unit.1 ∈ units.map Prod.fst := List.mem_map_of_mem hu
          obtain ⟨front, hq, hprefix, -⟩ :=
            (hpaths.ordinary _ (hunits hin)).exists_prefix_of_mem_passed hq
          rw [hordinary.target_eq] at hq
          rw [← List.append_cancel_left hq] at hprefix
          exact absurd (hpaths.prefixFree _ hmem _ (hunits hin) hprefix ▸ hin) hnew

/-- A new unit is stored. -/
theorem exists_store (hready : Ready directory t) (text : String) :
    ∃ t'', store directory path text t' = (.ok (location directory path), t'') := by
  have hordinary := hpaths.ordinary path hmem
  have hnone := h.find?_target hpaths hunits hmem hnew
  obtain ⟨-, hstart, hvisited⟩ := locate_text (Path.wellFormed_ofText directory) hready.leads
  have hwork := h.keeps.workingDirectory
  refine exists_store_eq_ok (hready.usable_below hordinary (hpaths.size path hmem)) ?_ ?_
    (h.clear hpaths hunits hmem hnew hready) ?_ ?_ text
  · rw [hordinary.componentsOf_eq]
    exact cut_ne_nil path
  · rw [hwork]
    exact h.keeps.directory _ hstart
  · rw [hwork, hnone]
    exact nofun
  · rw [hwork, visitedIn_below, List.mem_append]
    rintro (hq | hq)
    · rw [h.keeps.directory _ (hvisited _ hq)] at hnone
      cases hnone
    · exact hordinary.target_notMem_passed hq

end

section

variable (h : Mirrors directory t units t') (hready : Ready directory t)
  (hstored : Stored directory path text t' t'')

include h hready hstored

/-- Below the directory, storing a unit changes its target and makes directories on the way. -/
theorem kept_or_made (hq : (home directory t.workingDirectory).Below q) :
    t''.find? q = t'.find? q ∨ q = target (home directory t.workingDirectory) path ∨
      q ∈ passed (home directory t.workingDirectory) path ∧ t'.find? q = none ∧
        t''.find? q = some .directory := by
  obtain ⟨-, -, hvisited⟩ := locate_text (Path.wellFormed_ofText directory) hready.leads
  have hcases := hstored.kept_or_made q
  rw [h.keeps.workingDirectory] at hcases
  refine hcases.imp_right (Or.imp_right fun ⟨hmem, hmade⟩ => ⟨?_, hmade⟩)
  rcases List.mem_append.mp hmem with hway | hpassed
  · -- what leads to the directory is above it and was there before
    rcases List.mem_append.mp hway with hway | hlast
    · rw [h.keeps.directory q (hvisited q hway)] at hmade
      cases hmade.1
    · obtain ⟨name, rest, rfl⟩ := hq
      simp [home] at hlast
  · exact hpassed

/-- The directories lead to the units and to the stored one. -/
theorem directories_stored (hq : (home directory t.workingDirectory).Below q)
    (hdir : t''.find? q = some .directory) :
    ∃ unit ∈ units ++ [(path, text)],
      q ∈ passed (home directory t.workingDirectory) unit.1 := by
  rcases h.kept_or_made hready hstored hq with hk | rfl | ⟨hpassed, -⟩
  · obtain ⟨unit, hu, hp⟩ := h.directories q hq (hk ▸ hdir)
    exact ⟨unit, List.mem_append_left _ hu, hp⟩
  · have hfile := hstored.file
    rw [h.keeps.workingDirectory, hdir] at hfile
    cases hfile
  · exact ⟨(path, text), by simp, hpassed⟩

variable (hordinary : Ordinary path)
  (hnone : t'.find? (target (home directory t.workingDirectory) path) = none)

include hordinary hnone

/-- The stored unit joins the files. -/
theorem files_stored (hq : (home directory t.workingDirectory).Below q) (content : ByteArray) :
    t''.find? q = some (.file content) ↔ ∃ unit ∈ units ++ [(path, text)],
      q = target (home directory t.workingDirectory) unit.1 ∧ content = unit.2.toUTF8 := by
  have hfile := hstored.file
  rw [h.keeps.workingDirectory] at hfile
  by_cases htarget : q = target (home directory t.workingDirectory) path
  · subst htarget
    rw [hfile]
    constructor
    · intro hcontent
      cases hcontent
      exact ⟨(path, text), by simp, rfl, rfl⟩
    · rintro ⟨unit, hu, hunit, rfl⟩
      rcases List.mem_append.mp hu with hu | hu
      · -- no unit was there, since nothing was
        have hother := (h.files _ unit.2.toUTF8 hordinary.below_target).mpr ⟨unit, hu, hunit, rfl⟩
        rw [hnone] at hother
        cases hother
      · rw [List.mem_singleton.mp hu]
  · have hold : (∃ unit ∈ units ++ [(path, text)],
        q = target (home directory t.workingDirectory) unit.1 ∧ content = unit.2.toUTF8) ↔
          ∃ unit ∈ units,
            q = target (home directory t.workingDirectory) unit.1 ∧ content = unit.2.toUTF8 := by
      simp [htarget]
    rw [hold, ← h.files q content hq]
    rcases h.kept_or_made hready hstored hq with hk | hq | ⟨-, hmissing, hmade⟩
    · rw [hk]
    · exact absurd hq htarget
    · rw [hmissing, hmade]
      simp

/-- A unit that is stored is mirrored. -/
theorem stored : Mirrors directory t (units ++ [(path, text)]) t'' where
  keeps := h.keeps.trans hstored.keeps
  free := by
    intro content
    have hpassed := hstored.passed
    rw [h.keeps.workingDirectory] at hpassed
    rw [hpassed _ hordinary.mem_passed]
    exact nofun
  files := fun _ content hq => h.files_stored hready hstored hordinary hnone hq content
  directories := fun _ hq => h.directories_stored hready hstored hq

end

end Mirrors

/-! ## Two emitters -/

/-- An attempt into a directory and one in memory end alike: both units collide or both are
stored. -/
structure Agree (directory : String) (a : Attempt Tree) (b : Attempt Memory.Units) : Prop where
  unit : a.unit = b.unit
  outcome : (a.outcome = .error (.failure (.collision a.path)) ∧
      b.outcome = .error (.failure (.collision b.path))) ∨
    (a.outcome = .ok (location directory a.path) ∧ b.outcome = .ok b.path)
  emitted : a.after.emitted = b.after.emitted

/-- The progress into a directory is that in memory. -/
structure Simulates (directory : String) (paths : List String) (t : Tree) (p : Progress Tree)
    (m : Progress Memory.Units) : Prop where
  emitted : p.emitted = m.emitted
  coherent : Memory.Coherent m
  subset : m.emitted ⊆ paths
  mirrors : Mirrors directory t m.store p.store

variable {paths : List String} {p : Progress Tree} {m : Progress Memory.Units}

/-- One unit is attempted alike. -/
theorem Simulates.attempt (h : Simulates directory paths t p m) (hready : Ready directory t)
    (hpaths : Suitable directory paths) {unit : String × String} (hmem : unit.1 ∈ paths) :
    Agree directory (attempt (store directory) p unit) (attempt Memory.store m unit) ∧
      Simulates directory paths t (attempt (store directory) p unit).after
        (attempt Memory.store m unit).after := by
  have hkeys : m.emitted = m.store.map Prod.fst := h.coherent
  by_cases htaken : unit.1 ∈ m.emitted
  · rw [attempt_of_mem (store directory) (h.emitted ▸ htaken), attempt_of_mem Memory.store htaken]
    exact ⟨⟨rfl, .inl ⟨rfl, rfl⟩, h.emitted⟩, h⟩
  · have hfree : unit.1 ∉ p.emitted := h.emitted ▸ htaken
    have hnew : unit.1 ∉ m.store.map Prod.fst := hkeys ▸ htaken
    have hunits : m.store.map Prod.fst ⊆ paths := hkeys ▸ h.subset
    obtain ⟨t', ht⟩ := h.mirrors.exists_store hpaths hunits hmem hnew hready unit.2
    obtain ⟨-, hstored⟩ := stored_of_ok ht
    have hnone := h.mirrors.find?_target hpaths hunits hmem hnew
    have hmirrors := h.mirrors.stored hready hstored (hpaths.ordinary _ hmem) hnone
    have hmemory : Memory.store unit.1 unit.2 m.store =
        (.ok unit.1, m.store ++ [(unit.1, unit.2)]) := by
      rw [Memory.store, Keyed.insert_of_notMem hnew]
    rw [attempt_of_stored (store directory) hfree ht,
      attempt_of_stored Memory.store htaken hmemory]
    refine ⟨⟨rfl, .inr ⟨rfl, rfl⟩, by rw [h.emitted]⟩, ⟨by rw [h.emitted], ?_, ?_, hmirrors⟩⟩
    · rw [Memory.Coherent, hkeys, List.map_append]
      rfl
    · exact List.append_subset.mpr ⟨h.subset, by simpa using hmem⟩

/-- Units are attempted alike, one after the other. -/
theorem Simulates.attempts (h : Simulates directory paths t p m) (hready : Ready directory t)
    (hpaths : Suitable directory paths) {units : List (String × String)}
    (hunits : units.map Prod.fst ⊆ paths) :
    List.Forall₂ (Agree directory) (attempts (store directory) units p)
        (attempts Memory.store units m) ∧
      Simulates directory paths t (emitEach (store directory) units p)
        (emitEach Memory.store units m) := by
  induction units generalizing p m with
  | nil => exact ⟨.nil, h⟩
  | cons unit units ih =>
      rw [List.map_cons, List.cons_subset] at hunits
      obtain ⟨hagree, hafter⟩ := h.attempt hready hpaths hunits.1
      obtain ⟨hrest, hend⟩ := ih hafter hunits.2
      exact ⟨.cons hagree hrest, hend⟩

/-- **An emitter into an empty directory refines the one in memory.** Given the same units, with
paths that can be those of files and of which none leads through another one, every attempt ends
alike on both, with the same emitted paths, and in the end the files below the directory are
exactly the units in memory. -/
theorem attempts_refine {units : List (String × String)} (hready : Ready directory t)
    (hpaths : Suitable directory (units.map Prod.fst)) :
    List.Forall₂ (Agree directory) (Output.attempts (store directory) units (.start t))
        (Output.attempts Memory.store units (.start [])) ∧
      ∀ names content,
        (emitEach (store directory) units (.start t)).store.find?
            (home directory t.workingDirectory ++ names) = some (.file content) ↔
          ∃ path text, (path, text) ∈ (emitEach Memory.store units (.start [])).store ∧
            names = Text.cut '/' path ∧ content = text.toUTF8 := by
  have hstart : Simulates directory (units.map Prod.fst) t (.start t) (.start []) :=
    ⟨rfl, Memory.coherent_start, List.nil_subset _, hready.mirrors⟩
  obtain ⟨hagree, hend⟩ := hstart.attempts hready hpaths (List.Subset.refl _)
  refine ⟨hagree, fun names content => ?_⟩
  have htarget : ∀ unit ∈ (emitEach Memory.store units (.start [])).store,
      target (home directory t.workingDirectory) unit.1 =
        home directory t.workingDirectory ++ Text.cut '/' unit.1 := by
    intro unit hu
    have hin : unit.1 ∈ (emitEach Memory.store units (.start [])).emitted := by
      rw [show (emitEach Memory.store units (.start [])).emitted = _ from hend.coherent]
      exact List.mem_map_of_mem hu
    exact (hpaths.ordinary _ (hend.subset hin)).target_eq _
  cases names with
  | nil =>
      rw [List.append_nil]
      constructor
      · intro hfile
        exact absurd hfile (hend.mirrors.free content)
      · rintro ⟨path, text, -, hcut, -⟩
        exact absurd hcut.symm (cut_ne_nil path)
  | cons name rest =>
      rw [hend.mirrors.files _ content ⟨name, rest, rfl⟩]
      constructor
      · rintro ⟨unit, hu, hq, hcontent⟩
        rw [htarget unit hu] at hq
        exact ⟨unit.1, unit.2, hu, List.append_cancel_left hq, hcontent⟩
      · rintro ⟨path, text, hu, hcut, hcontent⟩
        refine ⟨(path, text), hu, ?_, hcontent⟩
        rw [htarget _ hu, hcut]

/-- Two files in the directory `out`, and a third unit that collides. -/
theorem attempts_refine_out :
    let units := [("a/A", "1"), ("b", "2"), ("a/A", "3")]
    let t : Tree := .ofWorkingDirectory ["work"]
    Ready "out" t ∧ Suitable "out" (units.map Prod.fst) ∧
      List.Forall₂ (Agree "out") (Output.attempts (store "out") units (.start t))
        (Output.attempts Memory.store units (.start [])) ∧
      (emitEach (store "out") units (.start t)).store.find? (home "out" ["work"] ++ ["a", "A"]) =
        some (.file "1".toUTF8) := by
  intro units t
  have hhome : home "out" t.workingDirectory = ["work", "out"] := by decide +kernel
  have hready : Ready "out" t := by
    refine ⟨by decide +kernel, ?_, ?_⟩ <;> rw [hhome]
    · exact fun content => nofun
    · rintro q ⟨name, rest, rfl⟩
      simp [t, find?, ofWorkingDirectory, withDirectory, ancestors, put, Keyed.insert, Keyed.get?]
  have hpaths : Suitable "out" (units.map Prod.fst) :=
    ⟨by decide +kernel, by decide +kernel, by decide +kernel⟩
  obtain ⟨hagree, hfiles⟩ := attempts_refine hready hpaths
  refine ⟨hready, hpaths, hagree, (hfiles ["a", "A"] _).mpr ⟨"a/A", "1", ?_, ?_, rfl⟩⟩ <;>
    decide +kernel

end RestBindings.Output.Directory
