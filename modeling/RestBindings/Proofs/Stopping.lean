import RestBindings.Proofs.Generation
import RestBindings.Run

/-!
# What a failed run leaves behind

A job prepares its run before it emits anything: it loads its document, reads its class map and
derives the package. When one of these fails (`FailsEarly`), the file tree is as it was
(`run_of_failsEarly`).

A run that has a package emits unit by unit. When it fails in memory, it has stopped at the first
unit that is blocked, and the emitter has taken the units in front of it and nothing else
(`generate_of_error_in_memory`). Each of these units has the source that it has in every run that
returns, because a source depends on nothing that was emitted before.
-/

namespace RestBindings

open Binding Config Discovery Output Source

/-! ## Before the first unit -/

section

variable [Http.Client] [Interpreter]

/-- A job fails before its first unit, with the given error: its document cannot be loaded, its
class map cannot be read, or its base URL gives no package. -/
inductive FailsEarly (sources : Sources) (job : Job) : Error → Prop
  | document {e : Error} (failed : Discovery.load sources job.source = .error e) :
      FailsEarly sources job e
  | classMap {d : Document} {e : Error} (loaded : Discovery.load sources job.source = .ok d)
      (failed : loadClassMap sources.tree job = .error e) : FailsEarly sources job e
  | package {d : Document} {classes : ClassMap} {cause : Package.Error}
      (loaded : Discovery.load sources job.source = .ok d)
      (mapped : loadClassMap sources.tree job = .ok classes)
      (failed : Package.ofUrl d.baseUrl = .error cause) : FailsEarly sources job (.package cause)

/-- A job that cannot be prepared leaves the file tree as it was. -/
theorem run_of_prepare_error {sources : Sources} {job : Job} {e : Error}
    (h : prepare sources job = .error e) : run sources job = (.error e, sources.tree) := by
  unfold run
  rw [h]

/-- A job that fails before its first unit leaves the file tree as it was. -/
theorem run_of_failsEarly {sources : Sources} {job : Job} {e : Error}
    (h : FailsEarly sources job e) : run sources job = (.error e, sources.tree) := by
  cases h with
  | document failed =>
      apply run_of_prepare_error
      unfold prepare
      rw [failed]
      rfl
  | classMap loaded failed =>
      apply run_of_prepare_error
      unfold prepare
      rw [loaded, failed]
      rfl
  | @package d classes cause loaded mapped failed =>
      have hprepare : prepare sources job =
          .ok (d, ⟨TypeTable.standard, job.shapes, classes⟩) := by
        unfold prepare
        rw [loaded, mapped]
        rfl
      unfold run
      rw [hprepare]
      simp only [generate_of_error failed]
      rfl

end

namespace Binding

/-! ## Between two units -/

variable {options : Options} {package : String} {d : Document} {p q : Progress Memory.Units}

/-- A run into memory that has a package and fails has stopped at the first blocked unit. -/
theorem generate_of_error_in_memory {e : Error} (hp : Package.ofUrl d.baseUrl = .ok package)
    (h : generate Memory.store options d p = (.error e, q)) :
    ∃ k unit, FirstBlocked p (unitsIn options package d) k unit ∧
      Memory.Took ((unitsIn options package d).take k) p q ∧ e = blockingError unit := by
  rw [generate_of_ok hp] at h
  exact Memory.exists_firstBlocked h

/-- **What a failed run leaves behind.** A job that fails before its first unit leaves the file
tree as it was. A run into memory that has a package and fails has stopped at the first unit `k`
that cannot be built or whose path is taken: the emitter has taken exactly the units in front of
it, each with the text that it has after every run that returns, and the error is the one that
keeps unit `k` from being built, or the collision when it can be built. -/
theorem left_behind_of_error :
    (∀ [Http.Client] [Interpreter] sources job e,
      FailsEarly sources job e → run sources job = (.error e, sources.tree)) ∧
    ∀ (options : Options) (d : Document) (package : String) (p q : Progress Memory.Units)
      (e : Error), Package.ofUrl d.baseUrl = .ok package →
      generate Memory.store options d p = (.error e, q) →
      ∃ k unit, FirstBlocked p (unitsIn options package d) k unit ∧
        Memory.Took ((unitsIn options package d).take k) p q ∧
        (∀ (d' : Document) (p' q' : Progress Memory.Units) (locations : List String),
          Package.ofUrl d'.baseUrl = .ok package →
          generate Memory.store options d' p' = (.ok locations, q') →
          ∀ other ∈ (unitsIn options package d).take k, other ∈ unitsIn options package d' →
            Memory.text? other.path q'.store = Memory.text? other.path q.store) ∧
        (∀ cause, unit.source = .error cause → e = cause) ∧
        ∀ text, unit.source = .ok text → e = .failure (.collision unit.path) := by
  refine ⟨?_, ?_⟩
  · intro client interpreter sources job e h
    exact run_of_failsEarly h
  intro options d package p q e hp h
  obtain ⟨k, unit, hfirst, htook, rfl⟩ := generate_of_error_in_memory hp h
  refine ⟨k, unit, hfirst, htook, ?_, ?_, ?_⟩
  · intro d' p' q' locations hp' h' other hother hother'
    exact (took_of_generate hp' h').text?_eq htook hother' hother
  · intro cause hsource
    rw [blockingError, hsource]
  · intro text hsource
    rw [blockingError, hsource]

/-- A document whose second class has a property of a type that no table names. -/
def untypedDocument : Document :=
  { emptySchemas [] with schemas := [("Zone", ⟨"Zone", []⟩),
      ("Disk", ⟨"Disk", [("size", .primitive "any" none)]⟩), ("Image", ⟨"Image", []⟩)] }

/-- A working directory without files, and nothing on the web. -/
def noSources : Sources :=
  ⟨.ofWorkingDirectory ["work"], [], true⟩

set_option maxRecDepth 2000 in
/-- A job whose document is missing changes no file; a run that reaches a class without a type
leaves the class in front of it. -/
theorem left_behind_untypedDocument :
    (∃ e, FailsEarly noSources ⟨"missing.json", "out", none, .both⟩ e ∧
      run noSources ⟨"missing.json", "out", none, .both⟩ = (.error e, noSources.tree)) ∧
    ∃ q, generate Memory.store .standard untypedDocument (.start []) =
        (.error (.failure (.unsupportedType "any" (some "Disk.size"))), q) ∧
      q.emitted = ["api/model/Zone.java"] ∧
      ∃ k unit, FirstBlocked (Progress.start ([] : Memory.Units))
          (unitsIn .standard "api" untypedDocument) k unit ∧
        Memory.Took ((unitsIn .standard "api" untypedDocument).take k) (.start []) q := by
  obtain ⟨hearly, hblocked⟩ := left_behind_of_error
  constructor
  · obtain ⟨e, he⟩ : ∃ e, Discovery.load noSources "missing.json" = .error e := ⟨_, rfl⟩
    exact ⟨e, .document he, hearly _ _ e (.document he)⟩
  · have hp : Package.ofUrl untypedDocument.baseUrl = .ok "api" := ofUrl_disksDocument
    obtain ⟨q, hq, hemitted⟩ : ∃ q, generate Memory.store .standard untypedDocument (.start []) =
        (.error (.failure (.unsupportedType "any" (some "Disk.size"))), q) ∧
          q.emitted = ["api/model/Zone.java"] := by
      rw [generate_of_ok hp]
      exact ⟨_, rfl, rfl⟩
    obtain ⟨k, unit, hfirst, htook, -⟩ := hblocked .standard untypedDocument "api" _ q _ hp hq
    exact ⟨q, hq, hemitted, k, unit, hfirst, htook⟩

end Binding

end RestBindings
