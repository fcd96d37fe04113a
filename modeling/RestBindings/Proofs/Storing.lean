import RestBindings.Output.Directory
import RestBindings.Proofs.Emission
import RestBindings.Proofs.Growth

/-!
# What a run into a directory leaves in the file tree

The path of a unit leads from the place of the output directory (`home`) to its `target`, past
other places (`passed`). Storing one unit writes the target and makes missing directories on
the way to the output directory and among the passed places, and touches nothing else
(`Stored`, `Grown`).

A run of many units keeps this: `Run` says what has become of the targets, of the passed
places and of everything else when the units of a list have been emitted, and
`run_of_emits` proves it by induction on the run.
-/

namespace RestBindings.Output.Directory

open Files Files.Tree

/-- The place of an output directory. -/
def home (directory : String) (workingDirectory : Place) : Place :=
  (Path.ofText directory).placeIn workingDirectory

/-- The places on the way to an output directory, and its own. -/
def way (directory : String) (workingDirectory : Place) : List Place :=
  (Path.ofText directory).trailIn workingDirectory

/-- The place to which the path of a unit leads. -/
def target (home : Place) (path : String) : Place :=
  home.resolve (Path.componentsOf path)

/-- The places at which the components of the path of a unit are followed. -/
def passed (home : Place) (path : String) : List Place :=
  home.visited (Path.componentsOf path)

/-- The location that is returned for the path of a unit. -/
def location (directory path : String) : String :=
  ((Path.ofText directory).below path).text

variable {directory path text : String} {t t' : Tree}

section paths

variable (directory path : String) (w : Place)

theorem wellFormed_below : ((Path.ofText directory).below path).WellFormed :=
  (Path.wellFormed_ofText directory).below path

/-- A path below the output directory denotes its target. -/
theorem placeIn_below :
    ((Path.ofText directory).below path).placeIn w = target (home directory w) path :=
  Place.resolve_append _ _ _

/-- On the way to the target are the places on the way to the output directory and the passed
ones. -/
theorem visitedIn_below :
    ((Path.ofText directory).below path).visitedIn w =
      (Path.ofText directory).visitedIn w ++ passed (home directory w) path :=
  Place.visited_append _ _ _

/-- The directory of the target and what leads to it are on the way or passed. -/
theorem trailIn_parent_below :
    ((Path.ofText directory).below path).parent.trailIn w ⊆
      way directory w ++ passed (home directory w) path := by
  by_cases hc : ((Path.ofText directory).below path).components = []
  · -- without components nothing leads further than the start
    obtain ⟨hd, hp⟩ := List.append_eq_nil_iff.mp hc
    have hparent : ((Path.ofText directory).below path).parent = Path.ofText directory := by
      simp only [Path.parent, Path.below, hd, hp, List.append_nil, List.dropLast_nil]
      rw [← hd]
    rw [hparent]
    exact List.subset_append_left _ _
  · rw [Path.trailIn_parent hc, visitedIn_below, way, Path.trailIn, List.append_assoc]
    refine List.append_subset.mpr ⟨List.subset_append_left _ _, ?_⟩
    intro q hq
    simp [hq]

end paths

/-! ## One unit -/

/-- A unit has been stored at its path. -/
structure Stored (directory path text : String) (t t' : Tree) : Prop where
  keeps : Keeps t t'
  file : t'.find? (target (home directory t.workingDirectory) path) = some (.file text.toUTF8)
  passed : ∀ q ∈ passed (home directory t.workingDirectory) path, t'.find? q = some .directory
  located : t'.locate (location directory path) =
    .ok (target (home directory t.workingDirectory) path)
  kept_or_made : ∀ q, t'.find? q = t.find? q ∨
    q = target (home directory t.workingDirectory) path ∨
    q ∈ way directory t.workingDirectory ++
        Directory.passed (home directory t.workingDirectory) path ∧
      t.find? q = none ∧ t'.find? q = some .directory

/-- Before a unit is written, directories are made at most. -/
theorem grown_ensurePath (directory path : String) (t : Tree) :
    Grown (way directory t.workingDirectory ++
        Directory.passed (home directory t.workingDirectory) path) t
      (t.ensurePath ((Path.ofText directory).below path).parent).2 :=
  (ensurePath_spec
    ((wellFormed_below directory path).of_subset (List.dropLast_subset _))).1.mono
      (trailIn_parent_below directory path t.workingDirectory)

/-- A refused unit has made directories at most. -/
theorem grown_of_error {e : Error} (h : store directory path text t = (.error e, t')) :
    Grown (way directory t.workingDirectory ++
      Directory.passed (home directory t.workingDirectory) path) t t' := by
  have hg := grown_ensurePath directory path t
  unfold store at h
  cases he : t.ensurePath ((Path.ofText directory).below path).parent with
  | mk outcome t₁ =>
      rw [he] at hg
      cases outcome with
      | error cause =>
          simp only [he, Prod.mk.injEq] at h
          exact h.2 ▸ hg
      | ok u =>
          simp only [he] at h
          cases hw : t₁.writeText ((Path.ofText directory).below path).text text with
          | error cause =>
              simp only [hw, Prod.mk.injEq] at h
              exact h.2 ▸ hg
          | ok t₂ => simp [hw] at h

/-- A unit that is not refused has been stored, and its location is that of its path. -/
theorem stored_of_ok {at_ : String} (h : store directory path text t = (.ok at_, t')) :
    at_ = location directory path ∧ Stored directory path text t t' := by
  have hg := grown_ensurePath directory path t
  unfold store at h
  cases he : t.ensurePath ((Path.ofText directory).below path).parent with
  | mk outcome t₁ =>
      rw [he] at hg
      have hwork : t₁.workingDirectory = t.workingDirectory := hg.workingDirectory
      cases outcome with
      | error cause => simp [he] at h
      | ok u =>
          simp only [he] at h
          cases hw : t₁.writeText ((Path.ofText directory).below path).text text with
          | error cause => simp [hw] at h
          | ok t₂ =>
              simp only [hw, Prod.mk.injEq, Except.ok.injEq] at h
              obtain ⟨rfl, rfl⟩ := h
              have hwell := wellFormed_below directory path
              obtain ⟨hlocate, hfind, rfl⟩ := writeText_eq_ok hwell hw
              obtain ⟨-, -, hvisited⟩ := locate_text hwell hlocate
              rw [placeIn_below, hwork] at hlocate hfind ⊢
              rw [visitedIn_below, hwork] at hvisited
              have hput := find?_put (t := t₁) (ne_nil_of_find? hfind) (.file text.toUTF8)
              have hkeeps := keeps_put hfind text.toUTF8
              refine ⟨rfl, hg.keeps.trans hkeeps, ?_, fun q hq => ?_, ?_, fun q => ?_⟩
              · rw [hput, if_pos rfl]
              · exact hkeeps.directory q (hvisited q (List.mem_append_right _ hq))
              · exact locate_mono hkeeps.directory rfl hlocate
              · rw [hput]
                split_ifs with hq
                · exact .inr (.inl hq.symm)
                · exact (hg.kept_or_made q).imp_right .inr

/-! ## Runs -/

/-- What has become of a tree when units have been written at some paths and were tried at
some more. -/
structure Run (directory : String) (written tried : List String) (t t' : Tree) : Prop where
  keeps : Keeps t t'
  subset : written ⊆ tried
  files : ∀ path ∈ written, ∃ content,
    t'.find? (target (home directory t.workingDirectory) path) = some (.file content)
  located : ∀ path ∈ written, t'.locate (location directory path) =
    .ok (target (home directory t.workingDirectory) path)
  kept_or_touched : ∀ q, t'.find? q = t.find? q ∨
    (∃ path ∈ written, q = target (home directory t.workingDirectory) path) ∨
    t.find? q = none ∧ t'.find? q = some .directory ∧ ∃ path ∈ tried,
      q ∈ way directory t.workingDirectory ++
        Directory.passed (home directory t.workingDirectory) path

namespace Run

variable {written tried : List String} {t'' : Tree}

theorem refl (directory : String) (t : Tree) : Run directory [] [] t t where
  keeps := .refl t
  subset := List.nil_subset _
  files := by simp
  located := by simp
  kept_or_touched := fun _ => .inl rfl

/-- A unit that is stored in front of a run belongs to it. -/
theorem cons (h : Stored directory path text t t') (hrun : Run directory written tried t' t'') :
    Run directory (path :: written) (path :: tried) t t'' where
  keeps := h.keeps.trans hrun.keeps
  subset := List.cons_subset_cons path hrun.subset
  files := by
    rw [List.forall_mem_cons, ← h.keeps.workingDirectory]
    exact ⟨hrun.keeps.file _ _ (h.keeps.workingDirectory ▸ h.file), hrun.files⟩
  located := by
    rw [List.forall_mem_cons]
    refine ⟨locate_mono hrun.keeps.directory hrun.keeps.workingDirectory h.located, ?_⟩
    rw [← h.keeps.workingDirectory]
    exact hrun.located
  kept_or_touched := by
    intro q
    have hrest := hrun.kept_or_touched q
    rw [h.keeps.workingDirectory] at hrest
    rcases hrest with hq | ⟨other, ho, hq⟩ | ⟨hnone, hdir, other, ho, hq⟩
    · rw [hq]
      rcases h.kept_or_made q with hk | rfl | ⟨hmem, hmade⟩
      · exact .inl hk
      · exact .inr (.inl ⟨path, List.mem_cons_self, rfl⟩)
      · exact .inr (.inr ⟨hmade.1, hmade.2, path, List.mem_cons_self, hmem⟩)
    · exact .inr (.inl ⟨other, List.mem_cons_of_mem _ ho, hq⟩)
    · rcases h.kept_or_made q with hk | rfl | ⟨-, -, hmade⟩
      · exact .inr (.inr ⟨hk ▸ hnone, hdir, other, List.mem_cons_of_mem _ ho, hq⟩)
      · exact .inr (.inl ⟨path, List.mem_cons_self, rfl⟩)
      · rw [hmade] at hnone
        cases hnone

/-- A unit that is refused behind a run has been tried. -/
theorem refused (hrun : Run directory written tried t t')
    (h : Grown (way directory t'.workingDirectory ++
      Directory.passed (home directory t'.workingDirectory) path) t' t'') :
    Run directory written (tried ++ [path]) t t'' where
  keeps := hrun.keeps.trans h.keeps
  subset := fun _ ho => List.mem_append_left _ (hrun.subset ho)
  files := fun other ho => (hrun.files other ho).elim fun _ hc => ⟨_, h.find?_eq hc⟩
  located := fun other ho =>
    locate_mono h.keeps.directory h.workingDirectory (hrun.located other ho)
  kept_or_touched := by
    intro q
    rw [hrun.keeps.workingDirectory] at h
    rcases h.kept_or_made q with hk | ⟨hmem, hnone, hdir⟩
    · rw [hk]
      rcases hrun.kept_or_touched q with hq | hq | ⟨hnone, hdir, other, ho, hq⟩
      · exact .inl hq
      · exact .inr (.inl hq)
      · exact .inr (.inr ⟨hnone, hdir, other, List.mem_append_left _ ho, hq⟩)
    · rcases hrun.kept_or_touched q with hq | hq | ⟨-, hdir', -⟩
      · exact .inr (.inr ⟨hq ▸ hnone, hdir, path, by simp, hmem⟩)
      · exact .inr (.inl hq)
      · rw [hdir'] at hnone
        cases hnone

/-- More paths may be tried than were. -/
theorem mono {others : List String} (hrun : Run directory written tried t t')
    (hsub : tried ⊆ others) : Run directory written others t t' where
  keeps := hrun.keeps
  subset := fun _ ho => hsub (hrun.subset ho)
  files := hrun.files
  located := hrun.located
  kept_or_touched := fun q => (hrun.kept_or_touched q).imp_right fun h =>
    h.imp_right fun ⟨hnone, hdir, path, hp, hq⟩ => ⟨hnone, hdir, path, hsub hp, hq⟩

end Run

variable {units : List SourceUnit} {p q : Progress Tree} {texts locations : List String}

/-- **Emitting units into a directory** is a run that writes their paths, and returns their
locations. -/
theorem run_of_emits (h : Emits (store directory) units p texts locations q) :
    Run directory (units.map SourceUnit.path) (units.map SourceUnit.path) p.store q.store ∧
      locations = units.map fun unit => location directory unit.path := by
  induction h with
  | nil p => exact ⟨.refl directory p.store, rfl⟩
  | cons _ _ stored _ ih =>
      obtain ⟨rfl, hstored⟩ := stored_of_ok stored
      obtain ⟨hrun, rfl⟩ := ih
      exact ⟨.cons hstored hrun, rfl⟩

/-- Units with pairwise different targets leave their own sources there. -/
theorem file_of_emits (h : Emits (store directory) units p texts locations q)
    (hn : (units.map fun unit =>
      target (home directory p.store.workingDirectory) unit.path).Nodup) :
    ∀ unit ∈ units, ∃ text, unit.source = .ok text ∧
      q.store.find? (target (home directory p.store.workingDirectory) unit.path) =
        some (.file text.toUTF8) := by
  induction h with
  | nil => simp
  | @cons unit rest p q s text at_ texts locations built _ stored tail ih =>
      obtain ⟨-, hstored⟩ := stored_of_ok stored
      obtain ⟨hrun, -⟩ := run_of_emits tail
      have hwork : s.workingDirectory = p.store.workingDirectory := hstored.keeps.workingDirectory
      simp only [hwork] at ih
      rw [List.map_cons, List.nodup_cons] at hn
      refine List.forall_mem_cons.mpr ⟨⟨text, built, ?_⟩, ih hn.2⟩
      have htouched := hrun.kept_or_touched
        (target (home directory p.store.workingDirectory) unit.path)
      simp only [hwork] at htouched
      rcases htouched with hk | ⟨other, ho, hq⟩ | ⟨hnone, -⟩
      · rw [hk, hstored.file]
      · -- a later unit with this target would be in the list twice
        refine absurd ?_ hn.1
        obtain ⟨later, hl, rfl⟩ := List.mem_map.mp ho
        exact List.mem_map.mpr ⟨later, hl, hq.symm⟩
      · rw [hstored.file] at hnone
        cases hnone

end RestBindings.Output.Directory
