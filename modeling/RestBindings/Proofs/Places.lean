import Mathlib.Tactic.SplitIfs
import RestBindings.Files.Tree

/-!
# Where names lead

Names lead from one place to the next whatever the file tree holds: the place at the end is
`resolve`, the places at which a name is followed are `visited`. A file tree decides only
whether the way is open (`Tree.follow_eq_ok`): every visited place has to be a directory.

A path text leads where its components lead from its start (`Tree.locate_text`), because the
empty names and single dots that its text may have besides do not move.
-/

namespace RestBindings.Files

namespace Place

/-- The place that a name leads to. -/
def next (place : Place) (name : String) : Place :=
  if name = "" ∨ name = "." then place
  else if name = ".." then place.dropLast
  else place ++ [name]

/-- The place that names lead to. -/
def resolve (place : Place) (names : List String) : Place :=
  names.foldl next place

/-- The places at which the names are followed, the first one in front. -/
def visited (place : Place) : List String → List Place
  | [] => []
  | name :: rest => place :: visited (next place name) rest

@[simp] theorem resolve_nil (place : Place) : resolve place [] = place := rfl

@[simp] theorem resolve_cons (place : Place) (name : String) (rest : List String) :
    resolve place (name :: rest) = resolve (next place name) rest := rfl

theorem resolve_append (place : Place) (names rest : List String) :
    resolve place (names ++ rest) = resolve (resolve place names) rest :=
  List.foldl_append

@[simp] theorem visited_nil (place : Place) : visited place [] = [] := rfl

@[simp] theorem visited_cons (place : Place) (name : String) (rest : List String) :
    visited place (name :: rest) = place :: visited (next place name) rest := rfl

theorem visited_append (place : Place) (names rest : List String) :
    visited place (names ++ rest) = visited place names ++ visited (resolve place names) rest := by
  induction names generalizing place with
  | nil => rfl
  | cons name names ih => simp [ih]

/-- A place lies strictly below another one. -/
def Below (place q : Place) : Prop :=
  ∃ name rest, q = place ++ name :: rest

/-- Names that count and do not go up are added to the place. -/
theorem resolve_of_down {names : List String} (h : ∀ n ∈ names, Path.counts n ∧ n ≠ "..")
    (place : Place) : resolve place names = place ++ names := by
  induction names generalizing place with
  | nil => simp
  | cons name rest ih =>
      rw [List.forall_mem_cons] at h
      have hnext : next place name = place ++ [name] := by
        have hc : name ≠ "" ∧ name ≠ "." := by simpa [Path.counts] using h.1.1
        simp [next, hc, h.1.2]
      rw [resolve_cons, hnext, ih h.2, List.append_assoc, List.singleton_append]

/-- Names that count and do not go up visit the place with some first names added to it. -/
theorem exists_prefix_of_mem_visited {names : List String}
    (h : ∀ n ∈ names, Path.counts n ∧ n ≠ "..") {place q : Place}
    (hq : q ∈ visited place names) :
    ∃ front, q = place ++ front ∧ front <+: names ∧ front ≠ names := by
  induction names generalizing place with
  | nil => cases hq
  | cons name rest ih =>
      rw [List.forall_mem_cons] at h
      have hnext : next place name = place ++ [name] := by
        simpa using @resolve_of_down [name] (by simpa using h.1) place
      rw [visited_cons, hnext, List.mem_cons] at hq
      rcases hq with rfl | hq
      · exact ⟨[], (List.append_nil _).symm, List.nil_prefix, (List.cons_ne_nil _ _).symm⟩
      · obtain ⟨front, rfl, hprefix, hne⟩ := ih h.2 hq
        refine ⟨name :: front, by simp, (List.prefix_cons_inj name).mpr hprefix, ?_⟩
        simpa using hne

/-- Names that count and do not go up visit the place and places below it. -/
theorem eq_or_below_of_mem_visited {names : List String}
    (h : ∀ n ∈ names, Path.counts n ∧ n ≠ "..") {place q : Place}
    (hq : q ∈ visited place names) : q = place ∨ place.Below q := by
  obtain ⟨front, rfl, -, -⟩ := exists_prefix_of_mem_visited h hq
  cases front with
  | nil => exact .inl (List.append_nil _)
  | cons name rest => exact .inr ⟨name, rest, rfl⟩

end Place

namespace Tree

open Place

variable {t t' : Tree}

/-! ## Following names -/

/-- One name is followed from a directory only, to the next place. -/
theorem step_eq_ok {place target : Place} {name : String} (h : t.step place name = .ok target) :
    t.find? place = some .directory ∧ target = next place name := by
  unfold step at h
  split at h
  · cases h
  · cases h
  · next hd =>
    refine ⟨hd, ?_⟩
    rw [next]
    split_ifs at h ⊢ <;> cases h <;> rfl

/-- Names that can be followed lead to the resolved place, through directories. -/
theorem follow_eq_ok {place target : Place} {names : List String}
    (h : t.follow place names = .ok target) :
    target = resolve place names ∧ ∀ q ∈ visited place names, t.find? q = some .directory := by
  induction names generalizing place with
  | nil =>
      cases h
      exact ⟨rfl, by simp⟩
  | cons name rest ih =>
      rw [follow] at h
      cases hs : t.step place name with
      | error reason => simp [hs] at h
      | ok following =>
          rw [hs] at h
          obtain ⟨hd, rfl⟩ := step_eq_ok hs
          obtain ⟨htarget, hrest⟩ := ih h
          exact ⟨htarget, List.forall_mem_cons.mpr ⟨hd, hrest⟩⟩

/-- A name that can be followed still can when directories stay directories. -/
theorem step_mono (hdir : ∀ q, t.find? q = some .directory → t'.find? q = some .directory)
    {place target : Place} {name : String} (h : t.step place name = .ok target) :
    t'.step place name = .ok target := by
  have hd := (step_eq_ok h).1
  simp only [step, hd] at h
  simp only [step, hdir _ hd]
  exact h

/-- Names that can be followed still can when directories stay directories. -/
theorem follow_mono (hdir : ∀ q, t.find? q = some .directory → t'.find? q = some .directory)
    {place target : Place} {names : List String} (h : t.follow place names = .ok target) :
    t'.follow place names = .ok target := by
  induction names generalizing place with
  | nil => exact h
  | cons name rest ih =>
      rw [follow] at h ⊢
      cases hs : t.step place name with
      | error reason => simp [hs] at h
      | ok following =>
          rw [hs] at h
          rw [step_mono hdir hs]
          exact ih h

end Tree

/-! ## Texts of paths -/

namespace Path

/-- A path as a text denotes it: a root of at most two slashes and components that count. -/
structure WellFormed (p : Path) : Prop where
  root : p.root = "" ∨ p.root = "/" ∨ p.root = "//"
  components : ∀ c ∈ p.components, '/' ∉ c.toList ∧ counts c

/-- The components of a text count and are free of slashes. -/
theorem mem_componentsOf {text c : String} (h : c ∈ componentsOf text) :
    '/' ∉ c.toList ∧ counts c := by
  obtain ⟨hc, hcounts⟩ := List.mem_filter.mp h
  exact ⟨Text.notMem_of_mem_cut hc, hcounts⟩

/-- A character of a text other than slashes and dots is one of a component. -/
theorem exists_mem_componentsOf {text : String} {c : Char} (hc : c ∈ text.toList)
    (h : c ≠ '/' ∧ c ≠ '.') : ∃ component ∈ componentsOf text, c ∈ component.toList := by
  rw [← Text.joinWith_splitOn '/' text.toList] at hc
  rcases Text.mem_joinWith hc with hsep | ⟨part, hp, hmem⟩
  · exact absurd (List.mem_singleton.mp hsep) h.1
  · have hcounts : counts (String.ofList part) := by
      have hempty : String.ofList part ≠ "" := by
        intro he
        rw [← String.toList_inj, String.toList_ofList] at he
        simp [he] at hmem
      have hdot : String.ofList part ≠ "." := by
        intro he
        rw [← String.toList_inj, String.toList_ofList] at he
        rw [he] at hmem
        exact h.2 (List.mem_singleton.mp hmem)
      simp [counts, hempty, hdot]
    exact ⟨String.ofList part, List.mem_filter.mpr ⟨List.mem_map_of_mem hp, hcounts⟩,
      by rwa [String.toList_ofList]⟩

/-- A text with another character than slashes and dots has components. -/
theorem componentsOf_ne_nil {text : String} {c : Char} (hc : c ∈ text.toList)
    (h : c ≠ '/' ∧ c ≠ '.') : componentsOf text ≠ [] := by
  obtain ⟨component, hmem, -⟩ := exists_mem_componentsOf hc h
  exact List.ne_nil_of_mem hmem

/-- A path keeps the characters of its text other than slashes and dots, and has no others. -/
theorem mem_text_ofText_iff {text : String} {c : Char} (h : c ≠ '/' ∧ c ≠ '.') :
    c ∈ (ofText text).text.toList ↔ c ∈ text.toList := by
  have hroot : c ∉ (rootOf text).toList := by
    unfold rootOf
    split <;> simp [h.1]
  have hjoin : c ∈ (Text.join "/" (componentsOf text)).toList ↔ c ∈ text.toList := by
    rw [Text.toList_join]
    constructor
    · intro hc
      rcases Text.mem_joinWith hc with hsep | ⟨part, hp, hmem⟩
      · exact absurd (List.mem_singleton.mp hsep) h.1
      · obtain ⟨component, hcomponent, rfl⟩ := List.mem_map.mp hp
        obtain ⟨chars, hchars, rfl⟩ := List.mem_map.mp (List.mem_filter.mp hcomponent).1
        rw [String.toList_ofList] at hmem
        rw [← Text.joinWith_splitOn '/' text.toList]
        exact Text.mem_joinWith_of_mem hchars hmem
    · intro hc
      obtain ⟨component, hcomponent, hmem⟩ := exists_mem_componentsOf hc h
      exact Text.mem_joinWith_of_mem (List.mem_map_of_mem hcomponent) hmem
  unfold Path.text
  split
  · next hempty =>
      -- the single dot of the empty path stands for no character of the text
      have hnone : componentsOf text = [] := by
        rw [Bool.and_eq_true, List.isEmpty_iff] at hempty
        exact hempty.2
      refine ⟨fun hc => absurd (List.mem_singleton.mp hc) h.2, fun hc => ?_⟩
      exact absurd hnone (componentsOf_ne_nil hc h)
  · rw [String.toList_append, List.mem_append, ofText]
    exact ⟨fun hc => hjoin.mp (hc.resolve_left hroot), fun hc => .inr (hjoin.mpr hc)⟩

/-- A text denotes a well-formed path. -/
theorem wellFormed_ofText (text : String) : (ofText text).WellFormed where
  root := by
    simp only [ofText, rootOf]
    split <;> simp
  components := fun _ h => mem_componentsOf h

/-- A path stays well formed below. -/
theorem WellFormed.below {p : Path} (h : p.WellFormed) (relative : String) :
    (p.below relative).WellFormed where
  root := h.root
  components := fun c hc => (List.mem_append.mp hc).elim (h.components c) mem_componentsOf

/-- A path whose components are components of a well-formed one is well formed. -/
theorem WellFormed.of_subset {p : Path} (h : p.WellFormed) {components : List String}
    (hsub : components ⊆ p.components) : (Path.mk p.root components).WellFormed where
  root := h.root
  components := fun c hc => h.components c (hsub hc)

/-- The place from which a path starts: the working directory, or the root. -/
def startIn (p : Path) (workingDirectory : Place) : Place :=
  if p.root = "" then workingDirectory else []

/-- The place that a path denotes. -/
def placeIn (p : Path) (workingDirectory : Place) : Place :=
  Place.resolve (p.startIn workingDirectory) p.components

/-- The places at which the components of a path are followed. -/
def visitedIn (p : Path) (workingDirectory : Place) : List Place :=
  Place.visited (p.startIn workingDirectory) p.components

/-- The visited places of a path and the place that it denotes. -/
def trailIn (p : Path) (workingDirectory : Place) : List Place :=
  p.visitedIn workingDirectory ++ [p.placeIn workingDirectory]

/-- One more component follows the path in front of it. -/
theorem visitedIn_concat (root : String) (names : List String) (name : String)
    (workingDirectory : Place) :
    (Path.mk root (names ++ [name])).visitedIn workingDirectory =
      (Path.mk root names).trailIn workingDirectory := by
  simp [visitedIn, trailIn, placeIn, startIn, Place.visited_append]

/-- What a path visits is the trail of its parent. -/
theorem trailIn_parent {p : Path} (h : p.components ≠ []) (workingDirectory : Place) :
    p.parent.trailIn workingDirectory = p.visitedIn workingDirectory := by
  rw [parent, ← visitedIn_concat p.root p.components.dropLast (p.components.getLast h),
    List.dropLast_concat_getLast]

/-- A slash in front of a text puts an empty name in front of its names. -/
theorem cut_slash_append (s : String) : Text.cut '/' ("/" ++ s) = "" :: Text.cut '/' s := by
  simp [Text.cut, Text.splitOn]

/-- The names in the text of a path are its components behind names that stay. -/
theorem WellFormed.exists_cut_text {p : Path} (h : p.WellFormed) :
    ∃ idle, (∀ name ∈ idle, name = "" ∨ name = ".") ∧
      Text.cut '/' p.text = idle ++ p.components := by
  rcases p with ⟨root, components⟩
  -- without a component the empty name is left of the join
  have hjoin : ∃ idle, (∀ name ∈ idle, name = "" ∨ name = ".") ∧
      Text.cut '/' (Text.join "/" components) = idle ++ components := by
    by_cases hne : components = []
    · subst hne
      exact ⟨[""], by simp, by decide⟩
    · exact ⟨[], by simp, Text.cut_join hne fun c hc => (h.components c hc).1⟩
  obtain ⟨idle, hidle, hcut⟩ := hjoin
  rcases h.root with hr | hr | hr <;> simp only at hr <;> subst hr
  · by_cases hne : components = []
    · subst hne
      exact ⟨["."], by simp, by decide⟩
    · refine ⟨idle, hidle, ?_⟩
      simpa [text, hne] using hcut
  · refine ⟨"" :: idle, by simpa using hidle, ?_⟩
    simp [text, cut_slash_append, hcut]
  · refine ⟨"" :: "" :: idle, by simpa using hidle, ?_⟩
    have hroot : "//" ++ Text.join "/" components = "/" ++ ("/" ++ Text.join "/" components) := by
      rw [← String.append_assoc]
      rfl
    simp [text, hroot, cut_slash_append, hcut]

end Path

/-- Names that stay change neither the resolved place nor what else is visited. -/
theorem Place.resolve_idle {idle : List String} (h : ∀ name ∈ idle, name = "" ∨ name = ".")
    (place : Place) (names : List String) :
    resolve place (idle ++ names) = resolve place names ∧
      visited place names ⊆ visited place (idle ++ names) ∧
      (idle ++ names ≠ [] → place ∈ visited place (idle ++ names)) := by
  induction idle with
  | nil =>
      refine ⟨rfl, List.Subset.refl _, fun hne => ?_⟩
      obtain ⟨name, rest, rfl⟩ := List.exists_cons_of_ne_nil hne
      exact List.mem_cons_self
  | cons name idle ih =>
      rw [List.forall_mem_cons] at h
      have hnext : next place name = place := by
        rcases h.1 with rfl | rfl <;> rfl
      obtain ⟨hresolve, hsub, -⟩ := ih h.2
      simp only [List.cons_append, resolve_cons, visited_cons, hnext]
      exact ⟨hresolve, fun q hq => List.mem_cons_of_mem _ (hsub hq), fun _ => List.mem_cons_self⟩

namespace Tree

open Place

variable {t t' : Tree} {p : Path}

/-- The text of a path starts where the path does. -/
theorem startOf_text (h : p.WellFormed) : t.startOf p.text = p.startIn t.workingDirectory := by
  rcases p with ⟨root, components⟩
  rcases h.root with hr | hr | hr <;> simp only at hr <;> subst hr
  · have hhead : (Path.text ⟨"", components⟩).toList.head? ≠ some '/' := by
      cases components with
      | nil => decide
      | cons c rest =>
          obtain ⟨hslash, hcounts⟩ := h.components c List.mem_cons_self
          obtain ⟨tail, htail⟩ := Text.exists_joinWith_cons ['/'] c.toList (rest.map String.toList)
          have htext : (Path.text ⟨"", c :: rest⟩).toList = c.toList ++ tail := by
            simp [Path.text, htail]
          cases hc : c.toList with
          | nil =>
              have hempty : c = "" := String.toList_inj.mp hc
              simp [Path.counts, hempty] at hcounts
          | cons first others =>
              rw [hc, List.mem_cons, not_or] at hslash
              simpa [htext, hc] using Ne.symm hslash.1
    simp [startOf, hhead, Path.startIn]
  · simp [startOf, Path.text, Path.startIn]
  · simp [startOf, Path.text, Path.startIn]

/-- **A path text leads where its components lead**, through directories. -/
theorem locate_text (h : p.WellFormed) {place : Place} (hp : t.locate p.text = .ok place) :
    place = p.placeIn t.workingDirectory ∧
      t.find? (p.startIn t.workingDirectory) = some .directory ∧
      ∀ q ∈ p.visitedIn t.workingDirectory, t.find? q = some .directory := by
  obtain ⟨idle, hidle, hcut⟩ := h.exists_cut_text
  have hf : t.follow (p.startIn t.workingDirectory) (idle ++ p.components) = .ok place := by
    rw [locate, startOf_text h, hcut] at hp
    split_ifs at hp
    split at hp
    · next hf => cases hp; exact hf
    · cases hp
  obtain ⟨hresolve, hsub, hstart⟩ := resolve_idle hidle (p.startIn t.workingDirectory) p.components
  obtain ⟨htarget, hdirs⟩ := follow_eq_ok hf
  have hne : idle ++ p.components ≠ [] := by
    rw [← hcut, Text.cut]
    simpa using Text.splitOn_ne_nil '/' p.text.toList
  exact ⟨htarget.trans hresolve, hdirs _ (hstart hne), fun q hq => hdirs q (hsub hq)⟩

/-- A path text that can be followed still can when directories stay directories. -/
theorem locate_mono (hdir : ∀ q, t.find? q = some .directory → t'.find? q = some .directory)
    (hw : t'.workingDirectory = t.workingDirectory) {path : String} {place : Place}
    (h : t.locate path = .ok place) : t'.locate path = .ok place := by
  have hstart : t'.startOf path = t.startOf path := by rw [startOf, startOf, hw]
  unfold locate at h ⊢
  split_ifs at h ⊢
  rw [hstart]
  cases hf : t.follow (t.startOf path) (Text.cut '/' path) with
  | error reason => simp [hf] at h
  | ok target =>
      rw [hf] at h
      rw [follow_mono hdir hf]
      exact h

/-- The bytes of a file that is found are read. -/
theorem readBytes_of_locate {path : String} {place : Place} {content : ByteArray}
    (hl : t.locate path = .ok place) (hf : t.find? place = some (.file content)) :
    t.readBytes path = .ok content := by
  simp [readBytes, lookUp, hl, Except.map, hf]

end Tree

end RestBindings.Files
