import RestBindings.Output.Directory
import RestBindings.Proofs.Emission

/-!
# Whole runs of an emitter, failed attempts included

A caller that goes on after a failure makes one attempt per unit, whatever became of those before.
`attempts` lists them with the progress before and after each, and `emitEach` is the progress
behind the last.

One attempt adds its path to the emitted ones exactly when it succeeds (`emitted_attempt`), and
collides exactly when its path is among them (`collides_attempt_iff`, for a store that reports no
collisions of its own, as both stores do). By induction the emitted paths of a run are those of its
successful attempts (`emitted_emitEach`), so that what becomes of an attempt is decided by those in
front of it and by the store (`Attempt.Follows`). `orderly_attempts` puts this together for whole
runs, and for the units kept in memory.
-/

namespace RestBindings.Output

/-! ## Attempts -/

section run

variable {σ : Type} {store : Store σ}

/-- A result is the refusal of a second unit at one path. -/
def isCollision : Except Error String → Bool
  | .error (.failure (.collision _)) => true
  | _ => false

/-- A store reports no collisions: only the emitter does. -/
def NeverCollides (store : Store σ) : Prop :=
  ∀ path text s, isCollision (store path text s).1 = false

/-- An attempt to emit a unit. -/
structure Attempt (σ : Type) where
  path : String
  text : String
  before : Progress σ
  outcome : Except Error String
  after : Progress σ

namespace Attempt

/-- The unit that is to be emitted. -/
def unit (a : Attempt σ) : String × String :=
  (a.path, a.text)

/-- The unit has been emitted. -/
def succeeds (a : Attempt σ) : Bool :=
  match a.outcome with
  | .ok _ => true
  | .error _ => false

/-- The unit has been refused for its path. -/
def collides (a : Attempt σ) : Bool :=
  isCollision a.outcome

end Attempt

/-- The attempt to emit a unit. -/
def attempt (store : Store σ) (p : Progress σ) (unit : String × String) : Attempt σ :=
  let (outcome, after) := p.emit store unit.1 unit.2
  ⟨unit.1, unit.2, p, outcome, after⟩

/-- The attempts to emit units one after the other. -/
def attempts (store : Store σ) : List (String × String) → Progress σ → List (Attempt σ)
  | [], _ => []
  | unit :: rest, p => attempt store p unit :: attempts store rest (attempt store p unit).after

/-- The progress when it has been attempted to emit units one after the other. -/
def emitEach (store : Store σ) (units : List (String × String)) (p : Progress σ) : Progress σ :=
  units.foldl (fun p unit => (attempt store p unit).after) p

/-- The units of the attempts that succeeded, in order. -/
def taken (as : List (Attempt σ)) : List (String × String) :=
  (as.filter Attempt.succeeds).map Attempt.unit

/-- The units of the attempts that did not collide, in order. -/
def tried (as : List (Attempt σ)) : List (String × String) :=
  (as.filter fun a => !a.collides).map Attempt.unit

/-- A store with a record of all units that it was asked to store. -/
def recorded (store : Store σ) : Store (σ × List (String × String)) := fun path text s =>
  let (outcome, after) := store path text s.1
  (outcome, after, s.2 ++ [(path, text)])

/-! ## One attempt -/

section

variable {p : Progress σ}

/-- A unit whose path is taken is refused. -/
theorem attempt_of_mem (store : Store σ) {unit : String × String} (hp : unit.1 ∈ p.emitted) :
    attempt store p unit =
      ⟨unit.1, unit.2, p, .error (.failure (.collision unit.1)), p⟩ := by
  simp only [attempt, Progress.emit, if_pos hp]

/-- A unit that is stored is emitted. -/
theorem attempt_of_stored (store : Store σ) {unit : String × String} {location : String} {s : σ}
    (hp : unit.1 ∉ p.emitted) (hs : store unit.1 unit.2 p.store = (.ok location, s)) :
    attempt store p unit = ⟨unit.1, unit.2, p, .ok location, ⟨p.emitted ++ [unit.1], s⟩⟩ := by
  simp only [attempt, Progress.emit, if_neg hp, hs]

/-- A unit that the store refuses is not emitted. -/
theorem attempt_of_refused (store : Store σ) {unit : String × String} {e : Error} {s : σ}
    (hp : unit.1 ∉ p.emitted) (hs : store unit.1 unit.2 p.store = (.error e, s)) :
    attempt store p unit = ⟨unit.1, unit.2, p, .error e, ⟨p.emitted, s⟩⟩ := by
  simp only [attempt, Progress.emit, if_neg hp, hs]

/-- What can become of an attempt: its path is taken, or the store decides. -/
theorem attempt_cases (store : Store σ) (p : Progress σ) (unit : String × String) :
    (unit.1 ∈ p.emitted ∧ attempt store p unit =
      ⟨unit.1, unit.2, p, .error (.failure (.collision unit.1)), p⟩) ∨
    (unit.1 ∉ p.emitted ∧ ∃ location s, store unit.1 unit.2 p.store = (.ok location, s) ∧
      attempt store p unit =
        ⟨unit.1, unit.2, p, .ok location, ⟨p.emitted ++ [unit.1], s⟩⟩) ∨
    (unit.1 ∉ p.emitted ∧ ∃ e s, store unit.1 unit.2 p.store = (.error e, s) ∧
      attempt store p unit = ⟨unit.1, unit.2, p, .error e, ⟨p.emitted, s⟩⟩) := by
  by_cases hp : unit.1 ∈ p.emitted
  · exact .inl ⟨hp, attempt_of_mem store hp⟩
  · cases hs : store unit.1 unit.2 p.store with
    | mk outcome s =>
        cases outcome with
        | ok location => exact .inr (.inl ⟨hp, location, s, rfl, attempt_of_stored store hp hs⟩)
        | error e => exact .inr (.inr ⟨hp, e, s, rfl, attempt_of_refused store hp hs⟩)

@[simp] theorem unit_attempt (store : Store σ) (p : Progress σ) (unit : String × String) :
    (attempt store p unit).unit = unit := rfl

@[simp] theorem before_attempt (store : Store σ) (p : Progress σ) (unit : String × String) :
    (attempt store p unit).before = p := rfl

/-- The path joins the emitted ones exactly when the attempt succeeds. -/
theorem emitted_attempt (store : Store σ) (p : Progress σ) (unit : String × String) :
    (attempt store p unit).after.emitted =
      p.emitted ++ (taken [attempt store p unit]).map Prod.fst := by
  rcases attempt_cases store p unit with ⟨-, h⟩ | ⟨-, location, s, -, h⟩ | ⟨-, e, s, -, h⟩ <;>
    rw [h]
  · exact (List.append_nil _).symm
  · rfl
  · exact (List.append_nil _).symm

/-- An attempt keeps the emitted paths pairwise distinct. -/
theorem nodup_attempt (h : p.emitted.Nodup) (unit : String × String) :
    (attempt store p unit).after.emitted.Nodup := by
  rcases attempt_cases store p unit with ⟨-, ha⟩ | ⟨hp, location, s, -, ha⟩ | ⟨-, e, s, -, ha⟩ <;>
    simp only [ha]
  · exact h
  · exact List.nodup_append.mpr ⟨h, List.nodup_singleton _, by
      rintro path hmem _ hlast rfl
      exact hp (List.mem_singleton.mp hlast ▸ hmem)⟩
  · exact h

/-- An attempt collides exactly when its path is taken. -/
theorem collides_attempt_iff (hstore : NeverCollides store) (p : Progress σ)
    (unit : String × String) :
    (attempt store p unit).collides = true ↔ unit.1 ∈ p.emitted := by
  have hnever := hstore unit.1 unit.2 p.store
  rcases attempt_cases store p unit with ⟨hp, h⟩ | ⟨hp, location, s, -, h⟩ | ⟨hp, e, s, hs, h⟩
  · simp [h, hp, Attempt.collides, isCollision]
  · simp [h, hp, Attempt.collides, isCollision]
  · rw [hs] at hnever
    simp [h, hp, Attempt.collides, hnever]

/-- What is recorded of an attempt is what the store was asked to store, and changes nothing
else. -/
theorem attempt_recorded (hstore : NeverCollides store) (p : Progress σ)
    (log : List (String × String)) (unit : String × String) :
    (attempt (recorded store) ⟨p.emitted, p.store, log⟩ unit).after =
      ⟨(attempt store p unit).after.emitted, (attempt store p unit).after.store,
        log ++ tried [attempt store p unit]⟩ := by
  rcases attempt_cases store p unit with ⟨hp, h⟩ | ⟨hp, location, s, hs, h⟩ | ⟨hp, e, s, hs, h⟩
  · rw [h, attempt_of_mem (recorded store) hp]
    simp [tried, Attempt.collides, isCollision]
  · have hrecorded : recorded store unit.1 unit.2 (p.store, log) =
        (.ok location, (s, log ++ [unit])) := by
      simp only [recorded, hs]
    rw [h, attempt_of_stored (recorded store) (p := ⟨p.emitted, p.store, log⟩) hp hrecorded]
    rfl
  · have hrecorded : recorded store unit.1 unit.2 (p.store, log) =
        (.error e, (s, log ++ [unit])) := by
      simp only [recorded, hs]
    have hnever : isCollision (.error e) = false := by
      have hnever := hstore unit.1 unit.2 p.store
      rwa [hs] at hnever
    rw [h, attempt_of_refused (recorded store) (p := ⟨p.emitted, p.store, log⟩) hp hrecorded]
    simp [tried, Attempt.collides, Attempt.unit, hnever]

end

/-! ## Runs of attempts -/

variable {units : List (String × String)}

theorem attempts_append (store : Store σ) (units rest : List (String × String)) (p : Progress σ) :
    attempts store (units ++ rest) p =
      attempts store units p ++ attempts store rest (emitEach store units p) := by
  induction units generalizing p with
  | nil => rfl
  | cons unit units ih => simp [attempts, emitEach, ih]

/-- There is one attempt per unit. -/
theorem map_unit_attempts (store : Store σ) (units : List (String × String)) (p : Progress σ) :
    (attempts store units p).map Attempt.unit = units := by
  induction units generalizing p with
  | nil => rfl
  | cons unit units ih => simp [attempts, ih]

theorem taken_cons (a : Attempt σ) (as : List (Attempt σ)) :
    taken (a :: as) = taken [a] ++ taken as := by
  rw [taken, taken, taken, ← List.map_append, ← List.filter_append, List.singleton_append]

theorem tried_cons (a : Attempt σ) (as : List (Attempt σ)) :
    tried (a :: as) = tried [a] ++ tried as := by
  rw [tried, tried, tried, ← List.map_append, ← List.filter_append, List.singleton_append]

/-- The units of successful attempts. -/
theorem mem_taken {as : List (Attempt σ)} {unit : String × String} :
    unit ∈ taken as ↔ ∃ a ∈ as, a.succeeds = true ∧ a.unit = unit := by
  simp [taken, and_assoc]

/-- **The paths of the successful attempts are emitted**, in their order. -/
theorem emitted_emitEach (store : Store σ) (units : List (String × String)) (p : Progress σ) :
    (emitEach store units p).emitted =
      p.emitted ++ (taken (attempts store units p)).map Prod.fst := by
  induction units generalizing p with
  | nil => exact (List.append_nil _).symm
  | cons unit units ih =>
      rw [attempts, taken_cons, List.map_append, ← List.append_assoc, ← emitted_attempt]
      exact ih _

/-- Emitted paths stay pairwise distinct. -/
theorem nodup_emitEach (store : Store σ) (units : List (String × String)) {p : Progress σ}
    (h : p.emitted.Nodup) : (emitEach store units p).emitted.Nodup := by
  induction units generalizing p with
  | nil => exact h
  | cons unit units ih => exact ih (nodup_attempt h unit)

/-- The record of a run has the units that did not collide. -/
theorem emitEach_recorded (hstore : NeverCollides store) (units : List (String × String))
    (p : Progress σ) (log : List (String × String)) :
    emitEach (recorded store) units ⟨p.emitted, p.store, log⟩ =
      ⟨(emitEach store units p).emitted, (emitEach store units p).store,
        log ++ tried (attempts store units p)⟩ := by
  induction units generalizing p log with
  | nil => simp [emitEach, attempts, tried]
  | cons unit units ih =>
      rw [attempts, tried_cons, ← List.append_assoc]
      simp only [emitEach, List.foldl_cons, attempt_recorded hstore]
      exact ih _ _

/-- An attempt of a run is made when the units in front of it have been attempted. -/
theorem attempts_eq_append {earlier later : List (Attempt σ)} {a : Attempt σ} {p : Progress σ}
    (h : attempts store units p = earlier ++ a :: later) :
    ∃ front, earlier = attempts store front p ∧
      a = attempt store (emitEach store front p) a.unit := by
  have hunits := map_unit_attempts store units p
  rw [h, List.map_append, List.map_cons] at hunits
  have hlength : (attempts store (earlier.map Attempt.unit) p).length = earlier.length := by
    rw [← List.length_map Attempt.unit, map_unit_attempts, List.length_map]
  rw [← hunits, attempts_append] at h
  obtain ⟨hfront, hback⟩ := List.append_inj h hlength
  exact ⟨earlier.map Attempt.unit, hfront.symm, (List.cons.inj hback).1.symm⟩

/-! ## Orderly runs -/

/-- What becomes of one attempt. -/
structure Attempt.Made (store : Store σ) (a : Attempt σ) : Prop where
  /-- An attempt that collides is refused with its path, and nothing changes. -/
  collided : a.collides = true →
    a.outcome = .error (.failure (.collision a.path)) ∧ a.after = a.before
  /-- Otherwise the store decides. -/
  stored : a.collides = false → (a.outcome, a.after.store) = store a.path a.text a.before.store
  /-- A failure emits nothing. -/
  failed : a.succeeds = false → a.after.emitted = a.before.emitted
  /-- A success emits its path. -/
  succeeded : a.succeeds = true → a.after.emitted = a.before.emitted ++ [a.path]

/-- What an attempt has to do with the attempts in front of it. -/
structure Attempt.Follows (store : Store σ) (earlier : List (Attempt σ)) (a : Attempt σ) : Prop
    extends a.Made store where
  /-- The paths of the successful attempts have been emitted. -/
  emitted : a.before.emitted = (taken earlier).map Prod.fst
  /-- It collides if one of them has its path, and only then. -/
  collides_iff : a.collides = true ↔ ∃ b ∈ earlier, b.succeeds = true ∧ b.path = a.path

/-- Every attempt is made in this way. -/
theorem made_attempt (hstore : NeverCollides store) (p : Progress σ) (unit : String × String) :
    (attempt store p unit).Made store := by
  have hcollides := collides_attempt_iff hstore p unit
  rcases attempt_cases store p unit with ⟨hp, h⟩ | ⟨hp, location, s, hs, h⟩ | ⟨hp, e, s, hs, h⟩ <;>
    rw [h] at hcollides ⊢
  · exact ⟨fun _ => ⟨rfl, rfl⟩, nofun, fun _ => rfl, nofun⟩
  · exact ⟨fun htaken => absurd (hcollides.mp htaken) hp, fun _ => hs.symm, nofun, fun _ => rfl⟩
  · exact ⟨fun htaken => absurd (hcollides.mp htaken) hp, fun _ => hs.symm, fun _ => rfl, nofun⟩

/-- Each attempt of a run that starts afresh follows those in front of it. -/
theorem follows_of_attempts (hstore : NeverCollides store) {s : σ}
    {earlier later : List (Attempt σ)} {a : Attempt σ}
    (h : attempts store units (.start s) = earlier ++ a :: later) : a.Follows store earlier := by
  obtain ⟨front, rfl, ha⟩ := attempts_eq_append h
  have hmade : a.Made store := ha ▸ made_attempt hstore _ _
  have hemitted : a.before.emitted = (taken (attempts store front (.start s))).map Prod.fst := by
    rw [ha]
    exact emitted_emitEach store front (.start s)
  refine { hmade with emitted := hemitted, collides_iff := ?_ }
  have hcollides : a.collides = true ↔ a.path ∈ a.before.emitted := by
    rw [ha]
    exact collides_attempt_iff hstore _ _
  rw [hcollides, hemitted]
  constructor
  · intro hmem
    obtain ⟨unit, hu, hpath⟩ := List.mem_map.mp hmem
    obtain ⟨b, hb, hsucceeds, rfl⟩ := mem_taken.mp hu
    exact ⟨b, hb, hsucceeds, hpath⟩
  · rintro ⟨b, hb, hsucceeds, hpath⟩
    exact List.mem_map.mpr ⟨b.unit, mem_taken.mpr ⟨b, hb, hsucceeds, rfl⟩, hpath⟩

/-- A run that starts afresh keeps its emitted paths in order. -/
structure Orderly (store : Store σ) (s : σ) (units : List (String × String)) : Prop where
  /-- Every unit is attempted, in order. -/
  complete : (attempts store units (.start s)).map Attempt.unit = units
  /-- Each attempt follows those in front of it. -/
  follows : ∀ earlier a later, attempts store units (.start s) = earlier ++ a :: later →
    a.Follows store earlier
  /-- The emitted paths are those of the successful attempts. -/
  emitted : (emitEach store units (.start s)).emitted =
    (taken (attempts store units (.start s))).map Prod.fst
  /-- No path is emitted twice. -/
  nodup : (emitEach store units (.start s)).emitted.Nodup
  /-- The store is asked to store the units that do not collide, and nothing else. -/
  asked : (emitEach (recorded store) units (.start (s, []))).store =
    ((emitEach store units (.start s)).store, tried (attempts store units (.start s)))

/-- Every run that starts afresh is orderly. -/
theorem orderly (hstore : NeverCollides store) (s : σ) (units : List (String × String)) :
    Orderly store s units where
  complete := map_unit_attempts store units (.start s)
  follows := fun _ _ _ => follows_of_attempts hstore
  emitted := emitted_emitEach store units (.start s)
  nodup := nodup_emitEach store units List.nodup_nil
  asked := congrArg Progress.store (emitEach_recorded hstore units (.start s) [])

end run

/-! ## The two stores -/

/-- The store in memory reports no collisions, since it takes every unit. -/
theorem Memory.neverCollides : NeverCollides Memory.store :=
  fun _ _ _ => rfl

/-- A directory reports no collisions: a unit is refused for what the file operations report. -/
theorem Directory.neverCollides (directory : String) :
    NeverCollides (Directory.store directory) := by
  intro path text t
  have hwriting (at_ : String) (e : Files.Error) :
      isCollision (.error (writingError at_ e)) = false := by
    cases e <;> rfl
  unfold Directory.store
  cases he : t.ensurePath ((Files.Path.ofText directory).below path).parent with
  | mk outcome t₁ =>
      cases outcome with
      | error e => simp only [he, hwriting]
      | ok u =>
          simp only [he]
          cases t₁.writeText ((Files.Path.ofText directory).below path).text text with
          | error e => exact hwriting _ e
          | ok t₂ => rfl

namespace Memory

/-- An attempt in memory keeps the unit if it succeeds. -/
theorem store_attempt {p : Progress Units} (h : Coherent p) (unit : String × String) :
    (attempt store p unit).after.store = p.store ++ taken [attempt store p unit] := by
  rcases attempt_cases store p unit with ⟨-, ha⟩ | ⟨hp, location, s, hs, ha⟩ | ⟨-, e, s, hs, -⟩
  · rw [ha]
    exact (List.append_nil _).symm
  · obtain ⟨rfl, rfl⟩ := store_eq_ok hs
    have hk : unit.1 ∉ p.store.map Prod.fst := h ▸ hp
    rw [ha]
    exact Keyed.insert_of_notMem hk
  · cases hs

/-- The units in memory are those of the successful attempts, in order. -/
theorem store_emitEach (units : List (String × String)) {p : Progress Units} (h : Coherent p) :
    (emitEach store units p).store = p.store ++ taken (attempts store units p) := by
  induction units generalizing p with
  | nil => exact (List.append_nil _).symm
  | cons unit units ih =>
      rw [attempts, taken_cons, ← List.append_assoc, ← store_attempt h]
      exact ih (h.emit unit.1 unit.2)

/-- What is kept in memory when units have been attempted. -/
structure Kept (units : List (String × String)) (q : Progress Units) : Prop where
  /-- The units of the successful attempts, in order. -/
  store_eq : q.store = taken (attempts store units (.start []))
  /-- Their paths are the emitted ones, in order. -/
  keys : q.store.map Prod.fst = q.emitted
  /-- A path has the text of the successful attempt at it. -/
  text?_iff : ∀ path text, text? path q.store = some text ↔
    ∃ a ∈ attempts store units (.start []), a.succeeds = true ∧ a.path = path ∧ a.text = text

/-- Every run in memory keeps its units. -/
theorem kept (units : List (String × String)) : Kept units (emitEach store units (.start [])) := by
  have hstore := store_emitEach units coherent_start
  have hkeys : (emitEach store units (.start [])).store.map Prod.fst =
      (emitEach store units (.start [])).emitted := by
    rw [hstore, emitted_emitEach, List.map_append]
    rfl
  refine ⟨hstore, hkeys, fun path text => ?_⟩
  have hdistinct : Keyed.Distinct (emitEach store units (.start [])).store := by
    rw [Keyed.Distinct, hkeys]
    exact nodup_emitEach store units List.nodup_nil
  rw [text?, Keyed.get?_eq_some_iff hdistinct, hstore]
  refine mem_taken.trans (exists_congr fun a => ?_)
  simp [Attempt.unit]

end Memory

/-- **Whole runs of an emitter are orderly**, whatever its store refuses at whatever point. In
memory the unit of the one successful attempt is kept for each emitted path. -/
theorem orderly_attempts {σ : Type} {store : Store σ} (hstore : NeverCollides store) (s : σ)
    (units : List (String × String)) :
    Orderly store s units ∧ Orderly Memory.store [] units ∧
      Memory.Kept units (emitEach Memory.store units (.start [])) :=
  ⟨orderly hstore s units, orderly Memory.neverCollides [] units, Memory.kept units⟩

/-- The second unit is refused since a file stands where its directory would, and the third for
its path. -/
theorem orderly_attempts_below_file :
    let units := [("a", "1"), ("a/b", "2"), ("a", "3")]
    NeverCollides (Directory.store "out") ∧
      Orderly (Directory.store "out") (.ofWorkingDirectory ["work"]) units ∧
      (attempts (Directory.store "out") units (.start (.ofWorkingDirectory ["work"]))).map
          Attempt.outcome =
        [.ok "out/a", .error (.failure (.output "out/a/b" "[Errno 17] File exists: 'out/a'")),
          .error (.failure (.collision "a"))] :=
  ⟨Directory.neverCollides "out", (orderly_attempts (Directory.neverCollides "out") _ _).1,
    by decide +kernel⟩

end RestBindings.Output
