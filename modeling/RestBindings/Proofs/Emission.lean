import RestBindings.Output.Memory
import RestBindings.Proofs.Traversal

/-!
# What a run of an emitter does

A run emits the units of a list one after the other and ends at the first that cannot be
built, collides or is refused by the store. `Emits` says that all units of a list are emitted,
one step per unit; `Ends` says how a run goes on from there. Every run is one followed by the
other (`emitAll_spec`), so what one step keeps holds of whole runs, finished or not.

For the store in memory, which refuses nothing, this gives the exact condition under which a
run returns (`Memory.returns_emitAll_iff`) and what it leaves (`Memory.emits_eq`). A run that
fails stops at its first blocked unit and has taken the units in front of it
(`Memory.exists_firstBlocked`). The order of the units decides neither whether a run returns nor
which text a path has (`Memory.returns_emitAll_iff_of_perm`, `Memory.Took.text?_eq_of_mem_iff`).
-/

namespace RestBindings.Output

section run

variable {σ : Type} {store : Store σ}

/-- All units are emitted: their texts, their locations and the progress behind them. -/
inductive Emits (store : Store σ) :
    List SourceUnit → Progress σ → List String → List String → Progress σ → Prop
  | nil (p : Progress σ) : Emits store [] p [] [] p
  | cons {unit : SourceUnit} {rest : List SourceUnit} {p q : Progress σ} {s : σ}
      {text location : String} {texts locations : List String}
      (built : unit.source = .ok text) (fresh : unit.path ∉ p.emitted)
      (stored : store unit.path text p.store = (.ok location, s))
      (tail : Emits store rest ⟨p.emitted ++ [unit.path], s⟩ texts locations q) :
      Emits store (unit :: rest) p (text :: texts) (location :: locations) q

/-- How a run ends that has emitted units at the given locations and has others left. -/
inductive Ends (store : Store σ) :
    List SourceUnit → Progress σ → List String → Except Error (List String) × Progress σ → Prop
  | finished (q : Progress σ) (locations : List String) :
      Ends store [] q locations (.ok locations, q)
  | unbuilt {unit : SourceUnit} {rest : List SourceUnit} {q : Progress σ} {e : Error}
      (locations : List String) (failed : unit.source = .error e) :
      Ends store (unit :: rest) q locations (.error e, q)
  | collided {unit : SourceUnit} {rest : List SourceUnit} {q : Progress σ} {text : String}
      (locations : List String) (built : unit.source = .ok text) (taken : unit.path ∈ q.emitted) :
      Ends store (unit :: rest) q locations (.error (.failure (.collision unit.path)), q)
  | refused {unit : SourceUnit} {rest : List SourceUnit} {q : Progress σ} {s : σ}
      {text : String} {e : Error} (locations : List String) (built : unit.source = .ok text)
      (fresh : unit.path ∉ q.emitted) (failed : store unit.path text q.store = (.error e, s)) :
      Ends store (unit :: rest) q locations (.error e, ⟨q.emitted, s⟩)

/-- A location in front of the result of a run. -/
def prepend (location : String) :
    Except Error (List String) × Progress σ → Except Error (List String) × Progress σ
  | (.ok locations, p) => (.ok (location :: locations), p)
  | (.error e, p) => (.error e, p)

/-- The end of a run with one more location in front. -/
theorem Ends.prepend {rest : List SourceUnit} {q : Progress σ} {locations : List String}
    {result : Except Error (List String) × Progress σ} (h : Ends store rest q locations result)
    (location : String) :
    Ends store rest q (location :: locations) (Output.prepend location result) := by
  cases h with
  | finished => exact .finished q _
  | unbuilt _ failed => exact .unbuilt _ failed
  | collided _ built taken => exact .collided _ built taken
  | refused _ built fresh failed => exact .refused _ built fresh failed

/-- A unit that is emitted comes in front of what the run does with the others. -/
theorem emitAll_cons_of_stored {unit : SourceUnit} {rest : List SourceUnit} {p : Progress σ}
    {s : σ} {text location : String} (built : unit.source = .ok text)
    (fresh : unit.path ∉ p.emitted)
    (stored : store unit.path text p.store = (.ok location, s)) :
    emitAll store (unit :: rest) p =
      prepend location (emitAll store rest ⟨p.emitted ++ [unit.path], s⟩) := by
  rw [emitAll, built]
  simp only [Progress.emit, if_neg fresh, stored]
  rcases emitAll store rest ⟨p.emitted ++ [unit.path], s⟩ with ⟨_ | _, _⟩ <;> rfl

/-- **Every run emits some first units and then ends**, at the first that fails or behind the
last. -/
theorem emitAll_spec (store : Store σ) (units : List SourceUnit) (p : Progress σ) :
    ∃ done rest texts locations q, units = done ++ rest ∧ Emits store done p texts locations q ∧
      Ends store rest q locations (emitAll store units p) := by
  induction units generalizing p with
  | nil => exact ⟨[], [], [], [], p, rfl, .nil p, .finished p []⟩
  | cons unit rest ih =>
      -- nothing is emitted when the first unit fails
      have stop : Ends store (unit :: rest) p [] (emitAll store (unit :: rest) p) →
          ∃ done others texts locations q, unit :: rest = done ++ others ∧
            Emits store done p texts locations q ∧
            Ends store others q locations (emitAll store (unit :: rest) p) :=
        fun h => ⟨[], unit :: rest, [], [], p, rfl, .nil p, h⟩
      cases hs : unit.source with
      | error e =>
          refine stop ?_
          have he : emitAll store (unit :: rest) p = (.error e, p) := by simp only [emitAll, hs]
          exact he ▸ .unbuilt [] hs
      | ok text =>
          by_cases hp : unit.path ∈ p.emitted
          · refine stop ?_
            have he : emitAll store (unit :: rest) p =
                (.error (.failure (.collision unit.path)), p) := by
              simp only [emitAll, hs, Progress.emit, if_pos hp]
            exact he ▸ .collided [] hs hp
          · cases hw : store unit.path text p.store with
            | mk outcome s =>
                cases outcome with
                | error e =>
                    refine stop ?_
                    have he : emitAll store (unit :: rest) p = (.error e, ⟨p.emitted, s⟩) := by
                      simp only [emitAll, hs, Progress.emit, if_neg hp, hw]
                    exact he ▸ .refused [] hs hp hw
                | ok location =>
                    obtain ⟨done, others, texts, locations, q, rfl, hd, he⟩ :=
                      ih ⟨p.emitted ++ [unit.path], s⟩
                    refine ⟨unit :: done, others, text :: texts, location :: locations, q, rfl,
                      .cons hs hp hw hd, ?_⟩
                    rw [emitAll_cons_of_stored hs hp hw]
                    exact he.prepend location

/-- A run returns exactly by emitting all its units. -/
theorem emitAll_eq_ok_iff {units : List SourceUnit} {p q : Progress σ}
    {locations : List String} :
    emitAll store units p = (.ok locations, q) ↔
      ∃ texts, Emits store units p texts locations q := by
  constructor
  · intro h
    obtain ⟨done, rest, texts, locs, r, rfl, hd, he⟩ := emitAll_spec store units p
    rw [h] at he
    cases he with
    | finished => exact ⟨texts, by simpa using hd⟩
  · rintro ⟨texts, h⟩
    induction h with
    | nil => rfl
    | cons built fresh stored _ ih => rw [emitAll_cons_of_stored built fresh stored, ih]; rfl

namespace Emits

variable {units : List SourceUnit} {p q : Progress σ} {texts locations : List String}

/-- The paths of emitted units join the paths so far, in order. -/
theorem emitted_eq (h : Emits store units p texts locations q) :
    q.emitted = p.emitted ++ units.map SourceUnit.path := by
  induction h with
  | nil => simp
  | cons _ _ _ _ ih => simp [ih]

/-- The texts are the sources of the units. -/
theorem forall₂_source (h : Emits store units p texts locations q) :
    List.Forall₂ (fun unit text => unit.source = .ok text) units texts := by
  induction h with
  | nil => exact .nil
  | cons built _ _ _ ih => exact .cons built ih

/-- Every emitted unit has a location. -/
theorem length_locations (h : Emits store units p texts locations q) :
    locations.length = units.length := by
  induction h with
  | nil => rfl
  | cons _ _ _ _ ih => rw [List.length_cons, List.length_cons, ih]

/-- Emitted units could be built. -/
theorem returns_source (h : Emits store units p texts locations q) :
    ∀ unit ∈ units, Returns unit.source := by
  induction h with
  | nil => simp
  | cons built _ _ _ ih => exact List.forall_mem_cons.mpr ⟨⟨_, built⟩, ih⟩

/-- The paths of emitted units are pairwise distinct and none was taken. -/
theorem nodup_and_fresh (h : Emits store units p texts locations q) :
    (units.map SourceUnit.path).Nodup ∧ ∀ path ∈ units.map SourceUnit.path, path ∉ p.emitted := by
  induction h with
  | nil => simp
  | cons _ fresh _ _ ih =>
      obtain ⟨hn, hf⟩ := ih
      rw [List.map_cons, List.nodup_cons, List.forall_mem_cons]
      refine ⟨⟨fun hm => hf _ hm (by simp), hn⟩, fresh, fun path hp => ?_⟩
      exact fun hmem => hf path hp (List.mem_append_left _ hmem)

end Emits

/-! ## The unit at which a run stops -/

/-- A unit cannot follow emitted ones: it cannot be built, or its path is taken. -/
def Blocked (p : Progress σ) (done : List SourceUnit) (unit : SourceUnit) : Prop :=
  ¬ Returns unit.source ∨ unit.path ∈ p.emitted ++ done.map SourceUnit.path

/-- The first unit of a list that cannot follow the ones in front of it, and its position. -/
structure FirstBlocked (p : Progress σ) (units : List SourceUnit) (k : Nat) (unit : SourceUnit) :
    Prop where
  found : units[k]? = some unit
  blocked : Blocked p (units.take k) unit
  before : ∀ i < k, ∀ other, units[i]? = some other → ¬ Blocked p (units.take i) other

/-- There is one first blocked unit. -/
theorem FirstBlocked.unique {p : Progress σ} {units : List SourceUnit} {k k' : Nat}
    {unit unit' : SourceUnit} (h : FirstBlocked p units k unit)
    (h' : FirstBlocked p units k' unit') : unit = unit' := by
  obtain rfl : k = k' := by
    rcases Nat.lt_trichotomy k k' with hlt | heq | hlt
    · exact absurd h.blocked (h'.before k hlt unit h.found)
    · exact heq
    · exact absurd h'.blocked (h.before k' hlt unit' h'.found)
  exact Option.some.inj (h.found.symm.trans h'.found)

/-- The error at a blocked unit: what keeps it from being built, even if its path is taken as
well, and the collision otherwise. -/
def blockingError (unit : SourceUnit) : Error :=
  match unit.source with
  | .error e => e
  | .ok _ => .failure (.collision unit.path)

/-- No emitted unit is blocked by those in front of it. -/
theorem Emits.not_blocked {units : List SourceUnit} {p q : Progress σ}
    {texts locations : List String} (h : Emits store units p texts locations q) {i : Nat}
    {unit : SourceUnit} (hu : units[i]? = some unit) : ¬ Blocked p (units.take i) unit := by
  obtain ⟨hi, hget⟩ := List.getElem?_eq_some_iff.mp hu
  have hsplit : units = units.take i ++ unit :: units.drop (i + 1) := by
    rw [← hget, ← List.drop_eq_getElem_cons hi, List.take_append_drop]
  have hmem : unit ∈ units := hget ▸ List.getElem_mem hi
  obtain ⟨hn, hf⟩ := h.nodup_and_fresh
  have hfront : unit.path ∉ (units.take i).map SourceUnit.path := by
    intro hfront
    rw [hsplit, List.map_append] at hn
    exact (List.nodup_append.mp hn).2.2 unit.path hfront unit.path (by simp) rfl
  rintro (hsource | hpath)
  · exact hsource (h.returns_source unit hmem)
  · rcases List.mem_append.mp hpath with hpath | hpath
    · exact hf unit.path (List.mem_map_of_mem hmem) hpath
    · exact hfront hpath

/-- A blocked unit behind emitted ones is the first blocked one. -/
theorem Emits.firstBlocked {done : List SourceUnit} {p q : Progress σ}
    {texts locations : List String} (h : Emits store done p texts locations q)
    {unit : SourceUnit} (hb : Blocked p done unit) (rest : List SourceUnit) :
    FirstBlocked p (done ++ unit :: rest) done.length unit where
  found := by simp
  blocked := by
    rw [List.take_left]
    exact hb
  before := by
    intro i hi other hother
    rw [List.getElem?_append_left hi] at hother
    rw [List.take_append_of_le_length (Nat.le_of_lt hi)]
    exact h.not_blocked hother

end run

/-! ## The store in memory -/

namespace Memory

/-- The store in memory takes every unit, and its path is the location. -/
theorem store_eq_ok {path text location : String} {s s' : Units}
    (h : store path text s = (.ok location, s')) :
    path = location ∧ Keyed.insert path text s = s' := by
  unfold store at h
  cases h
  exact ⟨rfl, rfl⟩

/-- The units are those of the paths emitted so far, in order. -/
def Coherent (p : Progress Units) : Prop :=
  p.emitted = p.store.map Prod.fst

theorem coherent_start : Coherent (.start []) := rfl

/-- Emitting a unit keeps the units those of the emitted paths. -/
theorem Coherent.emit {p : Progress Units} (h : Coherent p) (path text : String) :
    Coherent (p.emit store path text).2 := by
  rw [Progress.emit]
  split_ifs with hp
  · exact h
  · have hk : path ∉ p.store.map Prod.fst := h ▸ hp
    simp [store, Coherent, Keyed.insert_of_notMem hk, ← show p.emitted = _ from h]

/-- Units with distinct new paths that can be built are all emitted. -/
theorem exists_emits {units : List SourceUnit} {p : Progress Units}
    (hs : ∀ unit ∈ units, Returns unit.source) (hn : (units.map SourceUnit.path).Nodup)
    (hf : ∀ path ∈ units.map SourceUnit.path, path ∉ p.emitted) :
    ∃ texts q, Emits store units p texts (units.map SourceUnit.path) q := by
  induction units generalizing p with
  | nil => exact ⟨[], p, .nil p⟩
  | cons unit rest ih =>
      obtain ⟨text, ht⟩ := hs unit List.mem_cons_self
      rw [List.map_cons, List.nodup_cons] at hn
      rw [List.map_cons, List.forall_mem_cons] at hf
      have hrest : ∀ path ∈ rest.map SourceUnit.path, path ∉ p.emitted ++ [unit.path] := by
        intro path hp hmem
        rcases List.mem_append.mp hmem with hmem | hmem
        · exact hf.2 path hp hmem
        · exact hn.1 (List.mem_singleton.mp hmem ▸ hp)
      obtain ⟨texts, q, hq⟩ := ih (p := ⟨p.emitted ++ [unit.path], _⟩)
        (fun u hu => hs u (List.mem_cons_of_mem _ hu)) hn.2 hrest
      exact ⟨text :: texts, q, .cons ht hf.1 rfl hq⟩

/-- A run in memory returns exactly when every unit can be built and the paths are distinct
and new. -/
theorem returns_emitAll_iff {units : List SourceUnit} {p : Progress Units} :
    Returns (emitAll store units p).1 ↔
      (∀ unit ∈ units, Returns unit.source) ∧ (units.map SourceUnit.path).Nodup ∧
        ∀ path ∈ units.map SourceUnit.path, path ∉ p.emitted := by
  constructor
  · rintro ⟨locations, h⟩
    obtain ⟨texts, hq⟩ := emitAll_eq_ok_iff.mp (Prod.ext h rfl)
    exact ⟨hq.returns_source, hq.nodup_and_fresh⟩
  · rintro ⟨hs, hn, hf⟩
    obtain ⟨texts, q, hq⟩ := exists_emits hs hn hf
    exact ⟨_, congrArg Prod.fst (emitAll_eq_ok_iff.mpr ⟨texts, hq⟩)⟩

/-- Emitting in memory returns the paths as locations, and adds the units in order to those of
a coherent emitter. -/
theorem emits_eq {units : List SourceUnit} {p q : Progress Units} {texts locations : List String}
    (h : Emits store units p texts locations q) :
    locations = units.map SourceUnit.path ∧
      (Coherent p → q.store = p.store ++ (units.map SourceUnit.path).zip texts) := by
  induction h with
  | nil => simp
  | @cons unit rest p q s text location texts locations built fresh stored tail ih =>
      obtain ⟨rfl, rfl⟩ := store_eq_ok stored
      obtain ⟨hl, hst⟩ := ih
      refine ⟨by rw [hl, List.map_cons], fun hc => ?_⟩
      have hk : unit.path ∉ p.store.map Prod.fst := hc ▸ fresh
      have hstep := hc.emit unit.path text
      rw [Progress.emit, if_neg fresh, stored] at hstep
      rw [hst hstep]
      simp [Keyed.insert_of_notMem hk]

/-- After emitting in memory every new path has its text and every other path what it had. -/
theorem text?_of_emits {units : List SourceUnit} {p q : Progress Units}
    {texts locations : List String} (h : Emits store units p texts locations q) :
    (∀ entry ∈ (units.map SourceUnit.path).zip texts, text? entry.1 q.store = some entry.2) ∧
      ∀ path, path ∉ units.map SourceUnit.path → text? path q.store = text? path p.store := by
  induction h with
  | nil => simp
  | @cons unit rest p q s text location texts locations built fresh stored tail ih =>
      obtain ⟨rfl, rfl⟩ := store_eq_ok stored
      obtain ⟨hnew, hold⟩ := ih
      -- the path is taken now, so no later unit has it
      have hlater : unit.path ∉ rest.map SourceUnit.path :=
        fun hm => tail.nodup_and_fresh.2 _ hm (by simp)
      simp only [text?, Keyed.get?_insert] at hold hnew ⊢
      constructor
      · intro entry he
        rw [List.map_cons, List.zip_cons_cons, List.mem_cons] at he
        rcases he with rfl | he
        · rw [hold _ hlater, if_pos rfl]
        · exact hnew entry he
      · intro path hp
        rw [List.map_cons, List.mem_cons, not_or] at hp
        rw [hold path hp.2, if_neg (Ne.symm hp.1)]

/-- After emitting in memory the path of every unit has the text of its source. -/
theorem exists_text?_of_emits {units : List SourceUnit} {p q : Progress Units}
    {texts locations : List String} (h : Emits store units p texts locations q) :
    ∀ unit ∈ units, ∃ text, unit.source = .ok text ∧ text? unit.path q.store = some text := by
  induction h with
  | nil => simp
  | @cons unit rest p q s text location texts locations built fresh stored tail ih =>
      intro other hother
      rcases List.mem_cons.mp hother with rfl | hother
      · obtain ⟨rfl, rfl⟩ := store_eq_ok stored
        have hlater : other.path ∉ rest.map SourceUnit.path :=
          fun hm => tail.nodup_and_fresh.2 _ hm (by simp)
        refine ⟨text, built, ?_⟩
        rw [(text?_of_emits tail).2 _ hlater, text?, Keyed.get?_insert, if_pos rfl]
      · exact ih other hother

/-- The emitter has taken all units of a list, in their order, and nothing else. -/
structure Took (units : List SourceUnit) (p q : Progress Units) : Prop where
  emitted : q.emitted = p.emitted ++ units.map SourceUnit.path
  taken : ∀ unit ∈ units, ∃ text, unit.source = .ok text ∧ text? unit.path q.store = some text
  others : ∀ path, path ∉ units.map SourceUnit.path → text? path q.store = text? path p.store
  appended : Coherent p → ∃ texts,
    List.Forall₂ (fun unit text => unit.source = .ok text) units texts ∧
      q.store = p.store ++ (units.map SourceUnit.path).zip texts

/-- Emitting units in memory takes them, and nothing else. -/
theorem took_of_emits {units : List SourceUnit} {p q : Progress Units}
    {texts locations : List String} (h : Emits store units p texts locations q) :
    Took units p q where
  emitted := h.emitted_eq
  taken := exists_text?_of_emits h
  others := (text?_of_emits h).2
  appended := fun hc => ⟨texts, h.forall₂_source, (emits_eq h).2 hc⟩

/-- A unit that two emitters have taken has one text. -/
theorem Took.text?_eq {units units' : List SourceUnit} {p p' q q' : Progress Units}
    (h : Took units p q) (h' : Took units' p' q') {unit : SourceUnit} (hu : unit ∈ units)
    (hu' : unit ∈ units') : text? unit.path q.store = text? unit.path q'.store := by
  obtain ⟨text, hsource, htext⟩ := h.taken unit hu
  obtain ⟨text', hsource', htext'⟩ := h'.taken unit hu'
  have heq : text = text' := Except.ok.inj (hsource.symm.trans hsource')
  rw [htext, htext', heq]

/-- Emitters that started alike and have taken the same units hold the same texts, in whatever
order they have taken them. -/
theorem Took.text?_eq_of_mem_iff {units units' : List SourceUnit} {p q q' : Progress Units}
    (h : Took units p q) (h' : Took units' p q') (hmem : ∀ unit, unit ∈ units ↔ unit ∈ units')
    (path : String) : text? path q.store = text? path q'.store := by
  by_cases hpath : path ∈ units.map SourceUnit.path
  · obtain ⟨unit, hu, rfl⟩ := List.mem_map.mp hpath
    exact h.text?_eq h' hu ((hmem unit).mp hu)
  · have hpath' : path ∉ units'.map SourceUnit.path := by
      intro hpath'
      obtain ⟨unit, hu', rfl⟩ := List.mem_map.mp hpath'
      exact hpath (List.mem_map_of_mem ((hmem unit).mpr hu'))
    rw [h.others path hpath, h'.others path hpath']

/-- Whether a run in memory returns does not depend on the order of its units. -/
theorem returns_emitAll_iff_of_perm {units units' : List SourceUnit} (h : units.Perm units')
    (p : Progress Units) :
    Returns (emitAll store units p).1 ↔ Returns (emitAll store units' p).1 := by
  have hpaths := h.map SourceUnit.path
  rw [returns_emitAll_iff, returns_emitAll_iff, hpaths.nodup_iff]
  simp only [h.mem_iff, hpaths.mem_iff]

/-- **A run in memory that fails** stops at its first blocked unit, with the error of that unit,
and has taken exactly the units in front of it. -/
theorem exists_firstBlocked {units : List SourceUnit} {p q : Progress Units} {e : Error}
    (h : emitAll store units p = (.error e, q)) :
    ∃ k unit, FirstBlocked p units k unit ∧ Took (units.take k) p q ∧ e = blockingError unit := by
  obtain ⟨done, rest, texts, locations, r, rfl, hd, he⟩ := emitAll_spec store units p
  have htook := took_of_emits hd
  rw [h] at he
  cases he with
  | @unbuilt unit rest _ _ _ failed =>
      have hb : Blocked p done unit := by
        apply Or.inl
        rw [failed]
        exact not_returns_error e
      refine ⟨done.length, unit, hd.firstBlocked hb rest, ?_, ?_⟩
      · rw [List.take_left]
        exact htook
      · rw [blockingError, failed]
  | @collided unit rest _ text _ built taken =>
      have hb : Blocked p done unit := .inr (htook.emitted ▸ taken)
      refine ⟨done.length, unit, hd.firstBlocked hb rest, ?_, ?_⟩
      · rw [List.take_left]
        exact htook
      · rw [blockingError, built]
  | refused _ _ _ failed =>
      -- the store in memory refuses nothing
      cases failed

/-- A run in memory with a blocked unit fails with the error of the first one. -/
theorem emitAll_of_firstBlocked {units : List SourceUnit} {p : Progress Units} {k : Nat}
    {unit : SourceUnit} (h : FirstBlocked p units k unit) :
    (emitAll store units p).1 = .error (blockingError unit) := by
  cases hrun : emitAll store units p with
  | mk result q =>
      cases result with
      | ok locations =>
          obtain ⟨texts, hemits⟩ := emitAll_eq_ok_iff.mp hrun
          exact absurd h.blocked (hemits.not_blocked h.found)
      | error e =>
          obtain ⟨k', unit', h', -, rfl⟩ := exists_firstBlocked hrun
          rw [h.unique h']

end Memory

end RestBindings.Output
