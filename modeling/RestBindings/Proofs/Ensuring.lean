import RestBindings.Proofs.Growth

/-!
# When a path can be made and written

What a file tree refuses at a path text is decided by two things: whether the text can be a path
at all (`Path.Usable`), and what is at the places on its way. When no file stands there, following
the text either succeeds, since all these places are directories, or ends at the first that is
missing (`locate_text_cases`). Making directories handles exactly that error: it makes the
directory above first. So it succeeds when no file is in its way (`ensurePath_eq_ok`, by induction
on the names), and a file can then be written.
-/

namespace RestBindings

/-- The parts of a string consist of its characters. -/
theorem Text.mem_of_mem_cut {sep c : Char} {s part : String} (hp : part ∈ cut sep s)
    (hc : c ∈ part.toList) : c ∈ s.toList := by
  obtain ⟨chars, hchars, rfl⟩ := List.mem_map.mp hp
  rw [String.toList_ofList] at hc
  rw [← joinWith_splitOn sep s.toList]
  exact mem_joinWith_of_mem hchars hc

namespace Files

/-! ## Usable paths -/

namespace Path

/-- The text of a path can be followed, if the places on its way permit it. -/
structure Usable (p : Path) : Prop extends p.WellFormed where
  nullFree : ∀ c ∈ p.components, '\x00' ∉ c.toList
  short : ∀ c ∈ p.components, c.utf8ByteSize ≤ Tree.nameLimit
  size : p.text.utf8ByteSize ≤ Tree.pathLimit

/-- The text of a path with one more component goes on from the text of the path, unless that is
the empty one. -/
theorem text_concat (root : String) (names : List String) (name : String) :
    (∃ tail, (Path.mk root (names ++ [name])).text = (Path.mk root names).text ++ tail) ∨
      (Path.mk root names).text = "." := by
  by_cases hnames : names = []
  · subst hnames
    by_cases hroot : root = ""
    · subst hroot
      exact .inr rfl
    · refine .inl ⟨name, ?_⟩
      have hempty : Text.join "/" [] = "" := rfl
      have hsingle : Text.join "/" [name] = name := by simp [Text.join, Text.joinWith]
      simp [text, hroot, hempty, hsingle]
  · refine .inl ⟨"/" ++ name, ?_⟩
    have hjoin : Text.join "/" (names ++ [name]) = Text.join "/" names ++ ("/" ++ name) := by
      rw [← String.toList_inj, String.toList_append, Text.toList_join, Text.toList_join,
        List.map_append, List.map_singleton, Text.joinWith_concat _ _ (by simpa using hnames)]
      simp
    simp [text, hnames, hjoin, String.append_assoc]

/-- A usable path stays usable without its last component. -/
theorem Usable.of_concat {root name : String} {names : List String}
    (h : (Path.mk root (names ++ [name])).Usable) : (Path.mk root names).Usable where
  toWellFormed := h.toWellFormed.of_subset (List.subset_append_left _ _)
  nullFree := fun c hc => h.nullFree c (List.mem_append_left _ hc)
  short := fun c hc => h.short c (List.mem_append_left _ hc)
  size := by
    rcases text_concat root names name with ⟨tail, ht⟩ | hdot
    · have hsize := h.size
      rw [ht, String.utf8ByteSize_append] at hsize
      exact Nat.le_trans (Nat.le_add_right _ _) hsize
    · rw [hdot]
      decide

/-- The parent of a usable path is usable. -/
theorem Usable.parent {p : Path} (h : p.Usable) : p.parent.Usable := by
  rcases p with ⟨root, components⟩
  by_cases hne : components = []
  · subst hne
    exact h
  · have hsplit : components = components.dropLast ++ [components.getLast hne] :=
      (List.dropLast_concat_getLast hne).symm
    rw [hsplit] at h
    exact h.of_concat

/-- The text of a usable path has no character zero. -/
theorem Usable.notMem_text {p : Path} (h : p.Usable) : '\x00' ∉ p.text.toList := by
  unfold text
  split_ifs
  · decide
  · rw [String.toList_append, List.mem_append, Text.toList_join]
    rintro (hroot | hjoin)
    · rcases h.root with hr | hr | hr <;> rw [hr] at hroot <;> revert hroot <;> decide
    · rcases Text.mem_joinWith hjoin with hsep | ⟨part, hp, hc⟩
      · revert hsep
        decide
      · obtain ⟨c, hmem, rfl⟩ := List.mem_map.mp hp
        exact h.nullFree c hmem hc

/-- The text of a well-formed path is not empty. -/
theorem WellFormed.text_ne_empty {p : Path} (h : p.WellFormed) : p.text ≠ "" := by
  rcases p with ⟨root, components⟩
  by_cases hroot : root = ""
  · subst hroot
    cases components with
    | nil => decide
    | cons c rest =>
        intro hempty
        obtain ⟨tail, htail⟩ := Text.exists_joinWith_cons ['/'] c.toList (rest.map String.toList)
        have htext : (Path.text ⟨"", c :: rest⟩).toList = c.toList ++ tail := by
          simp [text, htail]
        rw [hempty, String.toList_empty] at htext
        have hc : c = "" := String.toList_inj.mp (List.append_eq_nil_iff.mp htext.symm).1
        have hcounts := (h.components c List.mem_cons_self).2
        simp [counts, hc] at hcounts
  · simp [text, hroot]

end Path

namespace Tree

open Place

variable {t t' : Tree} {p : Path}

/-! ## Following names past no file -/

/-- No file is in the way. -/
def Clear (t : Tree) (places : List Place) : Prop :=
  ∀ q ∈ places, ∀ content, t.find? q ≠ some (.file content)

/-- All places are directories. -/
def Open (t : Tree) (places : List Place) : Prop :=
  ∀ q ∈ places, t.find? q = some .directory

theorem Open.clear {places : List Place} (h : t.Open places) : t.Clear places := by
  intro q hq content
  rw [h q hq]
  exact nofun

/-- A short name is followed from a directory. -/
theorem step_of_directory {place : Place} {name : String} (hd : t.find? place = some .directory)
    (hname : name.utf8ByteSize ≤ nameLimit) : t.step place name = .ok (next place name) := by
  simp only [step, hd, next]
  split_ifs with h₁ h₂ h₃
  · rfl
  · rfl
  · exact absurd hname (Nat.not_le.mpr h₃)
  · rfl

/-- A name that is followed is short. -/
theorem size_of_step {place target : Place} {name : String} (h : t.step place name = .ok target) :
    name.utf8ByteSize ≤ nameLimit := by
  have hd := (step_eq_ok h).1
  simp only [step, hd] at h
  split_ifs at h with h₁ h₂ h₃
  · rcases h₁ with rfl | rfl <;> decide
  · rw [h₂]
    decide
  · exact Nat.not_lt.mp h₃

/-- Names that are followed are short. -/
theorem size_of_follow {place target : Place} {names : List String}
    (h : t.follow place names = .ok target) : ∀ name ∈ names, name.utf8ByteSize ≤ nameLimit := by
  induction names generalizing place with
  | nil => simp
  | cons name rest ih =>
      rw [follow] at h
      cases hs : t.step place name with
      | error reason => simp [hs] at h
      | ok following =>
          rw [hs] at h
          exact List.forall_mem_cons.mpr ⟨size_of_step hs, ih h⟩

/-- When no file is in the way, short names are followed through directories, or a directory is
missing. -/
theorem follow_cases {place : Place} {names : List String} (hclear : t.Clear (visited place names))
    (hshort : ∀ name ∈ names, name.utf8ByteSize ≤ nameLimit) :
    (t.Open (visited place names) ∧ t.follow place names = .ok (resolve place names)) ∨
      (¬ t.Open (visited place names) ∧ t.follow place names = .error .notFound) := by
  induction names generalizing place with
  | nil => exact .inl ⟨by simp [Open], rfl⟩
  | cons name rest ih =>
      rw [List.forall_mem_cons] at hshort
      simp only [visited_cons, Clear, Open, List.forall_mem_cons] at hclear ⊢
      cases hd : t.find? place with
      | none => exact .inr ⟨fun h => by simp at h, by simp [follow, step, hd]⟩
      | some entry =>
          cases entry with
          | file content => exact absurd hd (hclear.1 content)
          | directory =>
              have hstep := step_of_directory hd hshort.1
              simp only [follow, hstep, true_and]
              exact ih hclear.2 hshort.2

/-- Names that stay visit only the place itself. -/
theorem mem_visited_idle {idle : List String} (h : ∀ name ∈ idle, name = "" ∨ name = ".")
    {place q : Place} {names : List String} (hq : q ∈ visited place (idle ++ names)) :
    q = place ∨ q ∈ visited place names := by
  induction idle with
  | nil => exact .inr hq
  | cons name idle ih =>
      rw [List.forall_mem_cons] at h
      have hnext : next place name = place := by
        rcases h.1 with rfl | rfl <;> rfl
      rw [List.cons_append, visited_cons, hnext, List.mem_cons] at hq
      exact hq.elim .inl (ih h.2)

/-- **A usable path past no file** leads to its place through directories, or a directory is
missing. -/
theorem locate_text_cases (h : p.Usable)
    (hstart : t.find? (p.startIn t.workingDirectory) = some .directory)
    (hclear : t.Clear (p.visitedIn t.workingDirectory)) :
    (t.Open (p.visitedIn t.workingDirectory) ∧
        t.locate p.text = .ok (p.placeIn t.workingDirectory)) ∨
      (¬ t.Open (p.visitedIn t.workingDirectory) ∧
        t.locate p.text = .error (.refused .notFound p.text)) := by
  obtain ⟨idle, hidle, hcut⟩ := h.exists_cut_text
  have hopen : t.Open (visited (p.startIn t.workingDirectory) (idle ++ p.components)) ↔
      t.Open (p.visitedIn t.workingDirectory) := by
    obtain ⟨-, hsub, -⟩ := resolve_idle hidle (p.startIn t.workingDirectory) p.components
    refine ⟨fun hall q hq => hall q (hsub hq), fun hall q hq => ?_⟩
    rcases mem_visited_idle hidle hq with rfl | hq
    · exact hstart
    · exact hall q hq
  have hclear' : t.Clear (visited (p.startIn t.workingDirectory) (idle ++ p.components)) := by
    intro q hq content
    rcases mem_visited_idle hidle hq with rfl | hq
    · rw [hstart]
      exact nofun
    · exact hclear q hq content
  have hshort : ∀ name ∈ idle ++ p.components, name.utf8ByteSize ≤ nameLimit := by
    intro name hname
    rcases List.mem_append.mp hname with hname | hname
    · rcases hidle name hname with rfl | rfl <;> decide
    · exact h.short name hname
  have hresolve := (resolve_idle hidle (p.startIn t.workingDirectory) p.components).1
  have hempty : p.text.isEmpty = false := by simpa using h.text_ne_empty
  have hnull : p.text.toList.contains '\x00' = false := by simpa using h.notMem_text
  have hsize := Nat.not_lt.mpr h.size
  rw [← hopen]
  rcases follow_cases hclear' hshort with ⟨hall, hf⟩ | ⟨hsome, hf⟩
  · refine .inl ⟨hall, ?_⟩
    simp only [locate, hnull, hempty, if_neg hsize, startOf_text h.toWellFormed, hcut, hf, hresolve,
      Bool.false_eq_true, if_false, Path.placeIn]
  · refine .inr ⟨hsome, ?_⟩
    simp only [locate, hnull, hempty, if_neg hsize, startOf_text h.toWellFormed, hcut, hf,
      Bool.false_eq_true, if_false]

/-- A path text that leads somewhere is usable. -/
theorem usable_of_locate (h : p.WellFormed) {place : Place} (hp : t.locate p.text = .ok place) :
    p.Usable := by
  obtain ⟨idle, -, hcut⟩ := h.exists_cut_text
  have hmem : ∀ c ∈ p.components, c ∈ Text.cut '/' p.text := by
    intro c hc
    rw [hcut]
    exact List.mem_append_right _ hc
  unfold locate at hp
  split_ifs at hp with hnull hempty hsize
  cases hf : t.follow (t.startOf p.text) (Text.cut '/' p.text) with
  | error reason => simp [hf] at hp
  | ok target =>
      refine ⟨h, fun c hc hzero => hnull ?_, fun c hc => size_of_follow hf c (hmem c hc),
        Nat.not_lt.mp hsize⟩
      simpa using Text.mem_of_mem_cut (hmem c hc) hzero

/-! ## Making directories past no file -/

/-- When no file is in the way, a directory can be made, or the one above it is missing. -/
theorem ensureDirectory_cases (h : p.Usable)
    (hstart : t.find? (p.startIn t.workingDirectory) = some .directory)
    (hclear : t.Clear (p.trailIn t.workingDirectory)) :
    (∃ t', t.ensureDirectory p.text = .ok t') ∨
      (¬ t.Open (p.visitedIn t.workingDirectory) ∧
        t.ensureDirectory p.text = .error (.refused .notFound p.text)) := by
  have hvisited : t.Clear (p.visitedIn t.workingDirectory) :=
    fun q hq => hclear q (List.mem_append_left _ hq)
  have hplace : ∀ content, t.find? (p.placeIn t.workingDirectory) ≠ some (.file content) :=
    hclear _ (by simp [Path.trailIn])
  unfold ensureDirectory makeDirectory holdsDirectory lookUp
  rcases locate_text_cases h hstart hvisited with ⟨hopen, hl⟩ | ⟨hmissing, hl⟩
  · left
    rw [hl]
    cases hf : t.find? (p.placeIn t.workingDirectory) with
    | none => exact ⟨t.put (p.placeIn t.workingDirectory) .directory, by simp [hf]⟩
    | some entry =>
        cases entry with
        | file content => exact absurd hf (hplace content)
        | directory => exact ⟨t, by simp [Except.map, hf]⟩
  · right
    rw [hl]
    exact ⟨hmissing, rfl⟩

/-- Where a tree has grown no file has come up. -/
theorem Grown.clear {places others : List Place} (h : Grown places t t') (hc : t.Clear others) :
    t'.Clear others := by
  intro q hq content hfile
  rcases h.kept_or_made q with hk | ⟨-, -, hdir⟩
  · exact hc q hq content (hk ▸ hfile)
  · rw [hdir] at hfile
    cases hfile

/-- A directory is made with all that it needs, its names given from the last to the first, when
no file is in the way. -/
theorem ensureAll_eq_ok (root : String) (names : List String)
    (h : (Path.mk root names.reverse).Usable)
    (hstart : t.find? ((Path.mk root names.reverse).startIn t.workingDirectory) = some .directory)
    (hclear : t.Clear ((Path.mk root names.reverse).trailIn t.workingDirectory)) :
    (t.ensureAll root names).1 = .ok () := by
  induction names with
  | nil =>
      rcases ensureDirectory_cases h hstart hclear with ⟨t', ht⟩ | ⟨hmissing, -⟩
      · rw [ensureAll]
        simp only [List.reverse_nil] at ht
        rw [ht]
      · -- a path without components visits nothing
        exact absurd (fun q hq => by cases hq) hmissing
  | cons name above ih =>
      have habove : (Path.mk root (name :: above).reverse).visitedIn t.workingDirectory =
          (Path.mk root above.reverse).trailIn t.workingDirectory := by
        rw [List.reverse_cons, Path.visitedIn_concat]
      have hparent : (Path.mk root above.reverse).Usable := by
        rw [List.reverse_cons] at h
        exact h.of_concat
      have hclearAbove : t.Clear ((Path.mk root above.reverse).trailIn t.workingDirectory) := by
        rw [← habove]
        exact fun q hq => hclear q (List.mem_append_left _ hq)
      have hmade := ih hparent hstart hclearAbove
      obtain ⟨hgrown, hopened⟩ := ensureAll_spec (t := t) root above hparent.toWellFormed
      rw [ensureAll]
      rcases ensureDirectory_cases h hstart hclear with ⟨t', ht⟩ | ⟨-, hmissing⟩
      · simp only [ht]
      · -- the directory above is made first, and then nothing is missing any more
        simp only [hmissing]
        rcases ha : t.ensureAll root above with ⟨outcome, t₁⟩
        rw [ha] at hmade hgrown hopened
        simp only at hmade
        subst hmade
        have hwork : t₁.workingDirectory = t.workingDirectory := hgrown.workingDirectory
        have hstart₁ : t₁.find? ((Path.mk root (name :: above).reverse).startIn
            t₁.workingDirectory) = some .directory := by
          rw [hwork]
          exact hgrown.find?_eq hstart
        have hclear₁ : t₁.Clear ((Path.mk root (name :: above).reverse).trailIn
            t₁.workingDirectory) := by
          rw [hwork]
          exact hgrown.clear hclear
        rcases ensureDirectory_cases h hstart₁ hclear₁ with ⟨t₂, ht⟩ | ⟨hmissing₁, -⟩
        · simp only [ht]
        · refine absurd ?_ hmissing₁
          rw [hwork, habove]
          exact hopened rfl

/-- **The directory of a usable path can be made** when no file is in the way. -/
theorem ensurePath_eq_ok (h : p.Usable)
    (hstart : t.find? (p.startIn t.workingDirectory) = some .directory)
    (hclear : t.Clear (p.trailIn t.workingDirectory)) : (t.ensurePath p).1 = .ok () := by
  have hall := ensureAll_eq_ok (t := t) p.root p.components.reverse
  rw [List.reverse_reverse] at hall
  exact hall h hstart hclear

/-- A usable path through directories to no directory can be written. -/
theorem writeText_of_open (h : p.Usable)
    (hstart : t.find? (p.startIn t.workingDirectory) = some .directory)
    (hopen : t.Open (p.visitedIn t.workingDirectory))
    (hplace : t.find? (p.placeIn t.workingDirectory) ≠ some .directory) (text : String) :
    ∃ t', t.writeText p.text text = .ok t' := by
  rcases locate_text_cases h hstart hopen.clear with ⟨-, hl⟩ | ⟨hmissing, -⟩
  · refine ⟨t.put (p.placeIn t.workingDirectory) (.file text.toUTF8), ?_⟩
    unfold writeText
    rw [hl]
    cases hf : t.find? (p.placeIn t.workingDirectory) with
    | none => simp only [hf]
    | some entry =>
        cases entry with
        | directory => exact absurd hf hplace
        | file content => simp only [hf]
  · exact absurd hopen hmissing

end Tree

end Files

end RestBindings
