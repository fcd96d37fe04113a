import Mathlib.Tactic.Set
import RestBindings.Proofs.Places

/-!
# What making directories and writing files does to a tree

* Making a directory with all that it needs only adds directories where there was nothing
  (`Grown`), and only on the trail of its path. When it succeeds the whole trail consists of
  directories (`ensurePath_spec`).
* Writing a file changes one place, which is no directory (`writeText_eq_ok`).
-/

namespace RestBindings.Files.Tree

open Place

variable {t t' t'' : Tree} {p : Path}

/-- An entry that is put somewhere is found there, and every other place keeps its entry. -/
theorem find?_put {place : Place} (h : place ≠ []) (entry : Entry) (q : Place) :
    (t.put place entry).find? q = if place = q then some entry else t.find? q := by
  by_cases hq : q = []
  · subst hq
    rw [if_neg h]
    rfl
  · simp [find?, put, hq, Keyed.get?_insert]

/-- A place without a directory is not the root. -/
theorem ne_nil_of_find? {place : Place} (h : t.find? place ≠ some .directory) : place ≠ [] := by
  rintro rfl
  exact h rfl

/-! ## Trees that keep and grow -/

/-- Directories stay directories, and files stay files. -/
structure Keeps (t t' : Tree) : Prop where
  workingDirectory : t'.workingDirectory = t.workingDirectory
  directory : ∀ q, t.find? q = some .directory → t'.find? q = some .directory
  file : ∀ q content, t.find? q = some (.file content) →
    ∃ later, t'.find? q = some (.file later)

namespace Keeps

theorem refl (t : Tree) : Keeps t t :=
  ⟨rfl, fun _ h => h, fun _ content h => ⟨content, h⟩⟩

theorem trans (h : Keeps t t') (h' : Keeps t' t'') : Keeps t t'' where
  workingDirectory := h'.workingDirectory.trans h.workingDirectory
  directory := fun q hq => h'.directory q (h.directory q hq)
  file := fun q content hq => (h.file q content hq).elim fun later hl => h'.file q later hl

end Keeps

/-- Directories may have been made at some places where nothing was, and all else is as it
was. -/
structure Grown (places : List Place) (t t' : Tree) : Prop where
  workingDirectory : t'.workingDirectory = t.workingDirectory
  kept_or_made : ∀ q, t'.find? q = t.find? q ∨
    q ∈ places ∧ t.find? q = none ∧ t'.find? q = some .directory

namespace Grown

variable {places others : List Place}

theorem refl (places : List Place) (t : Tree) : Grown places t t :=
  ⟨rfl, fun _ => .inl rfl⟩

theorem mono (h : Grown places t t') (hsub : places ⊆ others) : Grown others t t' :=
  ⟨h.workingDirectory, fun q => (h.kept_or_made q).imp_right fun ⟨hq, hmade⟩ => ⟨hsub hq, hmade⟩⟩

theorem trans (h : Grown places t t') (h' : Grown places t' t'') : Grown places t t'' where
  workingDirectory := h'.workingDirectory.trans h.workingDirectory
  kept_or_made := by
    intro q
    rcases h.kept_or_made q with hq | ⟨hmem, hnone, hdir⟩
    · rw [← hq]
      exact h'.kept_or_made q
    · rcases h'.kept_or_made q with hq' | ⟨-, hnone', -⟩
      · exact .inr ⟨hmem, hnone, hq'.trans hdir⟩
      · rw [hdir] at hnone'
        cases hnone'

/-- What is somewhere stays there. -/
theorem find?_eq (h : Grown places t t') {q : Place} {entry : Entry}
    (hq : t.find? q = some entry) : t'.find? q = some entry := by
  rcases h.kept_or_made q with hk | ⟨-, hnone, -⟩
  · rw [hk, hq]
  · rw [hq] at hnone
    cases hnone

theorem keeps (h : Grown places t t') : Keeps t t' :=
  ⟨h.workingDirectory, fun _ => h.find?_eq, fun _ content hq => ⟨content, h.find?_eq hq⟩⟩

end Grown

/-! ## Making directories -/

/-- A directory is made where nothing was. -/
theorem makeDirectory_eq_ok (h : p.WellFormed) (hok : t.makeDirectory p.text = .ok t') :
    Grown [p.placeIn t.workingDirectory] t t' ∧
      ∀ q ∈ p.trailIn t.workingDirectory, t'.find? q = some .directory := by
  unfold makeDirectory at hok
  cases hl : t.locate p.text with
  | error e => simp [hl] at hok
  | ok place =>
      rw [hl] at hok
      obtain ⟨rfl, -, hdirs⟩ := locate_text h hl
      cases hf : t.find? (p.placeIn t.workingDirectory) with
      | some entry => simp [hf] at hok
      | none =>
          simp only [hf, Except.ok.injEq] at hok
          subst hok
          have hput := find?_put (t := t) (ne_nil_of_find? (by rw [hf]; simp)) .directory
          refine ⟨⟨rfl, fun q => ?_⟩, ?_⟩
          · by_cases hq : p.placeIn t.workingDirectory = q
            · subst hq
              exact .inr ⟨List.mem_singleton_self _, hf, by rw [hput, if_pos rfl]⟩
            · exact .inl (by rw [hput, if_neg hq])
          · simp only [Path.trailIn, List.mem_append, List.mem_singleton]
            rintro q (hq | rfl)
            · rw [hput]
              split_ifs
              · rfl
              · exact hdirs q hq
            · rw [hput, if_pos rfl]

/-- A directory that may exist is made where nothing was, or the tree is left as it is. -/
theorem ensureDirectory_eq_ok (h : p.WellFormed) (hok : t.ensureDirectory p.text = .ok t') :
    Grown [p.placeIn t.workingDirectory] t t' ∧
      ∀ q ∈ p.trailIn t.workingDirectory, t'.find? q = some .directory := by
  have hexists (hd : t.holdsDirectory p.text) :
      ∀ q ∈ p.trailIn t.workingDirectory, t.find? q = some .directory := by
    unfold holdsDirectory lookUp at hd
    cases hl : t.locate p.text with
    | error e => simp [hl, Except.map] at hd
    | ok place =>
        obtain ⟨rfl, -, hdirs⟩ := locate_text h hl
        have hplace : t.find? (p.placeIn t.workingDirectory) = some .directory := by
          simp only [hl, Except.map] at hd
          split at hd
          · next he => simpa using he
          · cases hd
        simp only [Path.trailIn, List.mem_append, List.mem_singleton]
        rintro q (hq | rfl)
        · exact hdirs q hq
        · exact hplace
  unfold ensureDirectory at hok
  split at hok
  · next hm =>
    cases hok
    exact makeDirectory_eq_ok h hm
  · cases hok
  · split_ifs at hok with hd
    cases hok
    exact ⟨.refl _ t, hexists hd⟩

/-- Making a directory with all that it needs, its names given from the last to the first: the
tree grows on the trail, and is made of directories there if it succeeds. -/
theorem ensureAll_spec (root : String) (names : List String)
    (h : (Path.mk root names.reverse).WellFormed) :
    Grown ((Path.mk root names.reverse).trailIn t.workingDirectory) t
        (t.ensureAll root names).2 ∧
      ((t.ensureAll root names).1 = .ok () →
        ∀ q ∈ (Path.mk root names.reverse).trailIn t.workingDirectory,
          (t.ensureAll root names).2.find? q = some .directory) := by
  induction names with
  | nil =>
      rw [ensureAll]
      cases hd : t.ensureDirectory (Path.text ⟨root, []⟩) with
      | error e => exact ⟨.refl _ t, by simp⟩
      | ok t' =>
          obtain ⟨hg, hdirs⟩ := ensureDirectory_eq_ok h hd
          exact ⟨hg, fun _ => hdirs⟩
  | cons name above ih =>
      obtain ⟨hg, -⟩ := ih (h.of_subset (by simp))
      set p : Path := ⟨root, (name :: above).reverse⟩ with hp
      have hlast : [p.placeIn t.workingDirectory] ⊆ p.trailIn t.workingDirectory := by
        simp [Path.trailIn]
      have habove : (Path.mk root above.reverse).trailIn t.workingDirectory ⊆
          p.trailIn t.workingDirectory := by
        rw [← Path.visitedIn_concat root above.reverse name, ← List.reverse_cons, ← hp]
        exact List.subset_append_left _ _
      rw [ensureAll, ← hp]
      cases hd : t.ensureDirectory p.text with
      | ok t' =>
          obtain ⟨hmade, htrail⟩ := ensureDirectory_eq_ok h hd
          exact ⟨hmade.mono hlast, fun _ => htrail⟩
      | error e =>
          split
          · next hcases => cases hcases
          · -- the directory above is missing: it is made first
            rcases ha : t.ensureAll root above with ⟨outcome, t₁⟩
            rw [ha] at hg
            have hwork : t₁.workingDirectory = t.workingDirectory := hg.workingDirectory
            cases outcome with
            | error e => exact ⟨hg.mono habove, by simp⟩
            | ok u =>
                simp only
                cases hd₁ : t₁.ensureDirectory p.text with
                | error e => exact ⟨hg.mono habove, by simp⟩
                | ok t₂ =>
                    obtain ⟨hmade, htrail⟩ := ensureDirectory_eq_ok h hd₁
                    rw [hwork] at hmade htrail
                    exact ⟨(hg.mono habove).trans (hmade.mono hlast), fun _ => htrail⟩
          · exact ⟨.refl _ t, by simp⟩

/-- **Making the directory of a path** only adds directories on its trail, which consists of
directories when it succeeds. -/
theorem ensurePath_spec (h : p.WellFormed) :
    Grown (p.trailIn t.workingDirectory) t (t.ensurePath p).2 ∧
      ((t.ensurePath p).1 = .ok () →
        ∀ q ∈ p.trailIn t.workingDirectory, (t.ensurePath p).2.find? q = some .directory) := by
  have hall := ensureAll_spec (t := t) p.root p.components.reverse
  rw [List.reverse_reverse] at hall
  exact hall h

/-! ## Writing files -/

/-- A file is written to the place that its path leads to, which is no directory. -/
theorem writeText_eq_ok (h : p.WellFormed) {text : String}
    (hok : t.writeText p.text text = .ok t') :
    t.locate p.text = .ok (p.placeIn t.workingDirectory) ∧
      t.find? (p.placeIn t.workingDirectory) ≠ some .directory ∧
      t' = t.put (p.placeIn t.workingDirectory) (.file text.toUTF8) := by
  unfold writeText at hok
  cases hl : t.locate p.text with
  | error e => simp [hl] at hok
  | ok place =>
      rw [hl] at hok
      obtain ⟨rfl, -, -⟩ := locate_text h hl
      simp only at hok
      split at hok
      · cases hok
      · next hf =>
        cases hok
        exact ⟨rfl, hf, rfl⟩

/-- A file put in place of no directory keeps the tree. -/
theorem keeps_put {place : Place} (h : t.find? place ≠ some .directory) (content : ByteArray) :
    Keeps t (t.put place (.file content)) := by
  have hput := find?_put (t := t) (ne_nil_of_find? h) (.file content)
  refine ⟨rfl, fun q hq => ?_, fun q old hq => ?_⟩
  · have hne : place ≠ q := by
      rintro rfl
      exact h hq
    rw [hput, if_neg hne, hq]
  · rw [hput]
    split_ifs
    · exact ⟨content, rfl⟩
    · exact ⟨old, hq⟩

end RestBindings.Files.Tree
