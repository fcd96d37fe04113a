import RestBindings.Proofs.Generation
import RestBindings.Proofs.Storing

/-!
# Whether a run overwrites its own files

The paths of units are compared as texts, but a file is written where the components of its
path lead. Two paths that differ in empty components, single dots or ways up and down are one
file, and the later unit silently replaces the earlier one.

* `generate_distinct_iff` gives the exact condition: a run that returns has left every unit at
  a file of its own exactly when the targets of the unit paths are pairwise different.
* `emptySchemas_overwrite` is an accepted document that loses a class.
-/

namespace RestBindings

namespace Binding

open Discovery Files Output Output.Directory

variable {options : Options} {directory : String} {d : Document} {t : Tree}
  {locations : List String} {q : Progress Tree}

/-- Without components of two dots, targets differ exactly when components do. -/
theorem nodup_targets_iff {paths : List String} (out : Place)
    (h : ∀ path ∈ paths, ".." ∉ Path.componentsOf path) :
    (paths.map (target out)).Nodup ↔ (paths.map Path.componentsOf).Nodup := by
  have htarget : paths.map (target out) = (paths.map Path.componentsOf).map (out ++ ·) := by
    rw [List.map_map]
    refine List.map_congr_left fun path hp => Place.resolve_of_down (fun c hc => ?_) out
    refine ⟨(Path.mem_componentsOf hc).2, ?_⟩
    rintro rfl
    exact h path hp hc
  rw [htarget]
  exact List.nodup_map_iff (List.append_right_injective out)

/-- **Exact distinctness of a run.** When a run into a directory returns, the locations lead to
pairwise different files that hold the sources of their own units exactly when the targets of
the unit paths are pairwise different. If no path has a component of two dots, this is the case
exactly when the paths differ in their components. -/
theorem generate_distinct_iff
    (h : generate (store directory) options d (.start t) = (.ok locations, q)) :
    let targets := (pathsOf d).map (target (home directory t.workingDirectory))
    ((locations.map q.store.locate).Nodup ∧
        List.Forall₂ (fun unit location => ∃ text, unit.source = .ok text ∧
          q.store.readBytes location = .ok text.toUTF8) (unitsOf options d) locations ↔
      targets.Nodup) ∧
    ((∀ path ∈ pathsOf d, ".." ∉ Path.componentsOf path) →
      (targets.Nodup ↔ ((pathsOf d).map Path.componentsOf).Nodup)) := by
  intro targets
  refine ⟨?_, nodup_targets_iff _⟩
  obtain ⟨-, texts, hemits⟩ := generate_eq_ok_iff.mp h
  obtain ⟨hrun, rfl⟩ := run_of_emits hemits
  have hlocated : ∀ unit ∈ unitsOf options d, q.store.locate (location directory unit.path) =
      .ok (target (home directory t.workingDirectory) unit.path) :=
    fun unit hu => hrun.located unit.path (List.mem_map_of_mem hu)
  have htargets : targets = (unitsOf options d).map fun unit =>
      target (home directory t.workingDirectory) unit.path := by
    change (pathsOf d).map _ = _
    rw [← map_path_unitsOf options d, List.map_map]
    rfl
  have hlocates : ((unitsOf options d).map fun unit => location directory unit.path).map
      q.store.locate = targets.map .ok := by
    rw [htargets, List.map_map, List.map_map]
    refine List.map_congr_left fun unit hu => ?_
    rw [Function.comp_apply, hlocated unit hu, Function.comp_apply]
  rw [hlocates, List.nodup_map_iff fun _ _ => Except.ok.inj, and_iff_left_of_imp]
  intro hn
  rw [List.forall₂_map_right_iff, List.forall₂_same]
  intro unit hu
  obtain ⟨text, hsource, hfile⟩ := file_of_emits hemits (htargets ▸ hn) unit hu
  exact ⟨text, hsource, Files.Tree.readBytes_of_locate (hlocated unit hu) hfile⟩

/-- The classes of two schemas are written to files of their own. -/
theorem emptySchemas_distinct :
    ∃ locations q, generate (store "out") .standard (emptySchemas ["A", "B"])
        (.start (.ofWorkingDirectory ["work"])) = (.ok locations, q) ∧
      (locations.map q.store.locate).Nodup ∧
      List.Forall₂ (fun unit location => ∃ text, unit.source = .ok text ∧
          q.store.readBytes location = .ok text.toUTF8)
        (unitsOf .standard (emptySchemas ["A", "B"])) locations := by
  have hok : (generate (store "out") .standard (emptySchemas ["A", "B"])
      (.start (.ofWorkingDirectory ["work"]))).1 =
        .ok ["out/api/model/A.java", "out/api/model/B.java"] := by decide +kernel
  have htargets : ((pathsOf (emptySchemas ["A", "B"])).map (target
      (home "out" (Tree.ofWorkingDirectory ["work"]).workingDirectory))).Nodup := by decide +kernel
  obtain ⟨q, hq⟩ := exists_eq_of_fst hok
  exact ⟨_, q, hq, (generate_distinct_iff hq).1.mpr htargets⟩

/-- An accepted document whose second class replaces the first one. -/
theorem emptySchemas_overwrite :
    accept "doubled.json" (emptySchemasValue ["A", "./A"]) = .ok (emptySchemas ["A", "./A"]) ∧
      ∃ locations q, generate (store "out") .standard (emptySchemas ["A", "./A"])
          (.start (.ofWorkingDirectory ["work"])) = (.ok locations, q) ∧
        ¬ (locations.map q.store.locate).Nodup := by
  have hok : (generate (store "out") .standard (emptySchemas ["A", "./A"])
      (.start (.ofWorkingDirectory ["work"]))).1 =
        .ok ["out/api/model/A.java", "out/api/model/A.java"] := by decide +kernel
  obtain ⟨q, hq⟩ := exists_eq_of_fst hok
  exact ⟨by decide +kernel, _, q, hq, by simp⟩

end Binding

end RestBindings
