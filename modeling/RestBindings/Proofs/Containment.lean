import RestBindings.Proofs.Generation
import RestBindings.Proofs.Storing

/-!
# Whether a run stays in its output directory

The ids and names of a document reach the paths of its units unchecked, and the components of
a path are followed as they are. A component of two dots therefore leads up, and enough of
them lead out of the output directory.

* `generate_contained_iff` gives the exact condition under which a run, finished or not,
  changes nothing outside. It speaks only of the targets of the emitted units and of the
  places passed by the units that were tried: a run touches nothing else. A document whose
  unit paths have no component of two dots stays inside.
* `emptySchemas_not_contained` is an accepted document whose class is written next to the output
  directory.
-/

namespace RestBindings.Binding

open Discovery Files Files.Tree Output Output.Directory

variable {options : Options} {directory : String} {d : Document} {t t' : Tree}

/-! ## Runs that start afresh -/

/-- **A run into a directory**, finished or not, writes the emitted paths, and has tried at most
one more. -/
theorem run_generate (options : Options) (directory : String) (d : Document) (t : Tree) :
    Run directory (generate (store directory) options d (.start t)).2.emitted
      ((pathsOf d).take ((generate (store directory) options d (.start t)).2.emitted.length + 1))
      t (generate (store directory) options d (.start t)).2.store := by
  cases hp : Source.Package.ofUrl d.baseUrl with
  | error cause =>
      rw [generate_of_error hp]
      exact (Run.refl directory t).mono (List.nil_subset _)
  | ok package =>
      have hpaths : pathsOf d = (unitsIn options package d).map SourceUnit.path := by
        rw [map_path_unitsIn, pathsOf, hp]
      rw [generate_of_ok hp, hpaths]
      obtain ⟨done, rest, texts, locations, q, hunits, hemits, hends⟩ :=
        emitAll_spec (store directory) (unitsIn options package d) (.start t)
      obtain ⟨hrun, -⟩ := run_of_emits hemits
      have hemitted : q.emitted = done.map SourceUnit.path := hemits.emitted_eq
      generalize emitAll (store directory) (unitsIn options package d) (.start t) = result at hends
      rw [hunits, List.map_append]
      have htake : (done.map SourceUnit.path ++ rest.map SourceUnit.path).take
          (q.emitted.length + 1) =
            done.map SourceUnit.path ++ (rest.map SourceUnit.path).take 1 := by
        rw [hemitted, List.take_append, List.take_of_length_le (Nat.le_succ _),
          Nat.add_sub_cancel_left]
      have hstop : Run directory q.emitted ((done.map SourceUnit.path ++
          rest.map SourceUnit.path).take (q.emitted.length + 1)) t q.store := by
        rw [htake, hemitted]
        exact hrun.mono (List.subset_append_left _ _)
      cases hends with
      | finished => exact hstop
      | unbuilt => exact hstop
      | collided => exact hstop
      | refused _ _ _ failed =>
          rw [htake, hemitted]
          exact hrun.refused (grown_of_error failed)

/-! ## Containment -/

/-- Nothing is changed but below the output directory. The output directory itself and
directories on the way to it may have been made where nothing was. -/
def Contained (directory : String) (t t' : Tree) : Prop :=
  ∀ q, t'.find? q = t.find? q ∨ (home directory t.workingDirectory).Below q ∨
    q ∈ way directory t.workingDirectory ∧ t.find? q = none ∧ t'.find? q = some .directory

/-- When the output directory exists, it and all places that are not below it are as they
were. -/
theorem Contained.find?_eq (h : Contained directory t t')
    (hexists : ∀ q ∈ way directory t.workingDirectory, t.find? q = some .directory) {q : Place}
    (hq : ¬ (home directory t.workingDirectory).Below q) : t'.find? q = t.find? q := by
  rcases h q with hk | hb | ⟨hway, hnone, -⟩
  · exact hk
  · exact absurd hb hq
  · rw [hexists q hway] at hnone
    cases hnone

/-- A run is contained exactly when what it leaves at the targets of written paths and at the
passed places of tried paths is below the output directory or was there before. -/
theorem contained_iff_of_run {written tried : List String}
    (hrun : Run directory written tried t t') :
    Contained directory t t' ↔
      (∀ path ∈ written,
        (home directory t.workingDirectory).Below
            (target (home directory t.workingDirectory) path) ∨
          t'.find? (target (home directory t.workingDirectory) path) =
            t.find? (target (home directory t.workingDirectory) path)) ∧
      ∀ path ∈ tried, ∀ q ∈ passed (home directory t.workingDirectory) path,
        (home directory t.workingDirectory).Below q ∨ q ∈ way directory t.workingDirectory ∨
          t'.find? q = t.find? q := by
  constructor
  · intro h
    refine ⟨fun path hp => ?_, fun path _ q _ => ?_⟩
    · rcases h (target (home directory t.workingDirectory) path) with hk | hb | ⟨-, -, hdir⟩
      · exact .inr hk
      · exact .inl hb
      · -- a written target holds a file, not a directory
        obtain ⟨content, hfile⟩ := hrun.files path hp
        rw [hfile] at hdir
        cases hdir
    · rcases h q with hk | hb | ⟨hway, -⟩
      · exact .inr (.inr hk)
      · exact .inl hb
      · exact .inr (.inl hway)
  · rintro ⟨hwritten, htried⟩ q
    rcases hrun.kept_or_touched q with hk | ⟨path, hp, rfl⟩ | ⟨hnone, hdir, path, hp, hmem⟩
    · exact .inl hk
    · rcases hwritten path hp with hb | hk
      · exact .inr (.inl hb)
      · exact .inl hk
    · rcases List.mem_append.mp hmem with hq | hq
      · exact .inr (.inr ⟨hq, hnone, hdir⟩)
      · rcases htried path hp q hq with hb | hq | hk
        · exact .inr (.inl hb)
        · exact .inr (.inr ⟨hq, hnone, hdir⟩)
        · exact .inl hk

/-- A run that has written a path which leads outside, to where nothing was, is not
contained. -/
theorem not_contained_of_run {written tried : List String}
    (hrun : Run directory written tried t t') {path : String} (hp : path ∈ written)
    (hout : ¬ (home directory t.workingDirectory).Below
      (target (home directory t.workingDirectory) path))
    (hnone : t.find? (target (home directory t.workingDirectory) path) = none) :
    ¬ Contained directory t t' := by
  intro h
  rcases ((contained_iff_of_run hrun).mp h).1 path hp with hb | hk
  · exact hout hb
  · obtain ⟨content, hfile⟩ := hrun.files path hp
    rw [hfile, hnone] at hk
    cases hk

/-- **Exact containment of a run.** A run into a directory, finished or not, is contained exactly
when what it leaves at the targets of the emitted paths, and at the places passed by these and
by the path at which it stopped, lies below the output directory or was there before. It is
whenever no unit path has a component of two dots, and it is not when an emitted path leads
outside to where nothing was. -/
theorem generate_contained_iff (options : Options) (d : Document) (directory : String)
    (t : Tree) :
    let run := (generate (store directory) options d (.start t)).2
    let out := home directory t.workingDirectory
    (Contained directory t run.store ↔
      (∀ path ∈ run.emitted, out.Below (target out path) ∨
        run.store.find? (target out path) = t.find? (target out path)) ∧
      ∀ path ∈ (pathsOf d).take (run.emitted.length + 1), ∀ q ∈ passed out path,
        out.Below q ∨ q ∈ way directory t.workingDirectory ∨ run.store.find? q = t.find? q) ∧
    ((∀ path ∈ pathsOf d, ".." ∉ Path.componentsOf path) → Contained directory t run.store) ∧
    ∀ path ∈ run.emitted, ¬ out.Below (target out path) → t.find? (target out path) = none →
      ¬ Contained directory t run.store := by
  intro run out
  have hrun : Run directory run.emitted ((pathsOf d).take (run.emitted.length + 1)) t run.store :=
    run_generate options directory d t
  refine ⟨contained_iff_of_run hrun, fun hdown => ?_,
    fun path hp hout hnone => not_contained_of_run hrun hp hout hnone⟩
  have hpath : ∀ path ∈ (pathsOf d).take (run.emitted.length + 1),
      (∀ c ∈ Path.componentsOf path, Path.counts c ∧ c ≠ "..") ∧
        Path.componentsOf path ≠ [] := by
    intro path hp
    have hmem := List.mem_of_mem_take hp
    refine ⟨fun c hc => ⟨(Path.mem_componentsOf hc).2, ?_⟩,
      componentsOf_ne_nil_of_mem_pathsOf hmem⟩
    rintro rfl
    exact hdown path hmem hc
  refine (contained_iff_of_run hrun).mpr ⟨fun path hp => .inl ?_, fun path hp q hq => ?_⟩
  · obtain ⟨hcs, hne⟩ := hpath path (hrun.subset hp)
    obtain ⟨name, rest, hc⟩ := List.exists_cons_of_ne_nil hne
    exact ⟨name, rest, hc ▸ Place.resolve_of_down hcs out⟩
  · rcases Place.eq_or_below_of_mem_visited (hpath path hp).1 hq with rfl | hb
    · exact .inr (.inl (List.mem_append_right _ (List.mem_singleton_self _)))
    · exact .inl hb

/-- An accepted document whose class is written next to the output directory. -/
theorem emptySchemas_not_contained :
    accept "escaping.json" (emptySchemasValue ["../../../evil"]) =
        .ok (emptySchemas ["../../../evil"]) ∧
      ¬ Contained "out" (.ofWorkingDirectory ["work"])
        (generate (store "out") .standard (emptySchemas ["../../../evil"])
          (.start (.ofWorkingDirectory ["work"]))).2.store := by
  refine ⟨by decide +kernel, ?_⟩
  have hrun := run_generate .standard "out" (emptySchemas ["../../../evil"])
    (.ofWorkingDirectory ["work"])
  have hemitted : (generate (store "out") .standard (emptySchemas ["../../../evil"])
      (.start (.ofWorkingDirectory ["work"]))).2.emitted =
        ["api/model/../../../evil.java"] := by decide +kernel
  rw [hemitted] at hrun
  have hhome : home "out" (Tree.ofWorkingDirectory ["work"]).workingDirectory =
      ["work", "out"] := by decide +kernel
  have htarget : target ["work", "out"] "api/model/../../../evil.java" =
      ["work", "evil.java"] := by decide +kernel
  refine not_contained_of_run hrun List.mem_cons_self ?_ ?_ <;> rw [hhome, htarget]
  · rintro ⟨name, rest, he⟩
    simp at he
  · rfl

end RestBindings.Binding
