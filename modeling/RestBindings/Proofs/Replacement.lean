import RestBindings.Proofs.Acceptance
import RestBindings.Proofs.Problems

/-!
# Replacing a part of a value

A place in a value is a list of the names of members, outermost first; `Value.at?` is what stands
there and `Value.replaceAt` the value with something else there. Replacing goes through places
inside places (`replaceAt_append`), and putting back what was there changes nothing
(`replaceAt_self`).

Part of what is reported for a whole value may come from a part of it: it is `Localised` when the
rest neither lies at the place of the part nor depends on what stands there. This is kept when the
part has parts in its turn (`Localised.inside`), and it says what a repair does
(`Localised.filter_eq`).
-/

namespace RestBindings

/-- Storing under a key that is there replaces the value of one entry. -/
theorem Keyed.exists_split_of_get? {κ α : Type} [DecidableEq κ] {key : κ} {value : α}
    {entries : List (κ × α)} (h : get? key entries = some value) :
    ∃ front back, entries = front ++ (key, value) :: back ∧
      ∀ other, insert key other entries = front ++ (key, other) :: back := by
  induction entries with
  | nil => cases h
  | cons entry rest ih =>
      obtain ⟨k, v⟩ := entry
      by_cases hk : k = key
      · subst hk
        obtain rfl : v = value := by simpa [get?] using h
        exact ⟨[], rest, rfl, fun other => by simp [insert]⟩
      · obtain ⟨front, back, rfl, hinsert⟩ := ih (by simpa [get?, hk] using h)
        exact ⟨(k, v) :: front, back, rfl, fun other => by simp [insert, hk, hinsert]⟩

/-! ## Places in values -/

namespace Value

/-- The value at a place of a value. -/
def at? : Value → List String → Option Value
  | v, [] => some v
  | .mapping entries, step :: rest => (member? step entries).bind (at? · rest)
  | _, _ :: _ => none

/-- The value with another one at a place that it has. -/
def replaceAt : Value → List String → Value → Value
  | _, [], new => new
  | .mapping entries, step :: rest, new =>
    match member? step entries with
    | some inner => .mapping (Keyed.insert (.text step) (inner.replaceAt rest new) entries)
    | none => .mapping entries
  | v, _ :: _, _ => v

variable {v w new : Value} {step : String} {steps rest : List String}

@[simp] theorem at?_nil (v : Value) : v.at? [] = some v := by
  cases v <;> rfl

@[simp] theorem replaceAt_nil (v new : Value) : v.replaceAt [] new = new := by
  cases v <;> rfl

/-- A place below the root is a place in a member of a mapping. -/
theorem at?_cons_eq_some_iff :
    v.at? (step :: rest) = some w ↔
      ∃ entries inner, v = .mapping entries ∧ member? step entries = some inner ∧
        inner.at? rest = some w := by
  cases v <;> simp [at?, Option.bind_eq_some_iff]

/-- A place in a mapping of one entry is a place in that entry. -/
theorem at?_singleton_eq_some_iff {name : String} :
    (mapping [(.text name, v)]).at? (step :: rest) = some w ↔
      name = step ∧ v.at? rest = some w := by
  by_cases h : name = step <;> simp [at?, member?, Keyed.get?, h]

theorem replaceAt_cons {entries : List (Scalar × Value)} {inner : Value}
    (h : member? step entries = some inner) (rest : List String) (new : Value) :
    (mapping entries).replaceAt (step :: rest) new =
      .mapping (Keyed.insert (.text step) (inner.replaceAt rest new) entries) := by
  rw [replaceAt, h]

theorem at?_append : v.at? (steps ++ rest) = (v.at? steps).bind (·.at? rest) := by
  induction steps generalizing v with
  | nil => simp
  | cons step tail ih =>
      cases v with
      | mapping entries =>
          rw [List.cons_append, at?, at?]
          cases member? step entries with
          | none => rfl
          | some inner => exact ih
      | _ => rfl

/-- Replacing at a place inside a place is replacing there. -/
theorem replaceAt_append (h : v.at? steps = some w) (rest : List String) (new : Value) :
    v.replaceAt (steps ++ rest) new = v.replaceAt steps (w.replaceAt rest new) := by
  induction steps generalizing v with
  | nil =>
      obtain rfl : v = w := by simpa using h
      simp
  | cons step tail ih =>
      obtain ⟨entries, inner, rfl, hinner, hw⟩ := at?_cons_eq_some_iff.mp h
      rw [List.cons_append, replaceAt_cons hinner, replaceAt_cons hinner, ih hw]

/-- What stands at a place may be put there. -/
theorem replaceAt_self (h : v.at? steps = some w) : v.replaceAt steps w = v := by
  induction steps generalizing v with
  | nil => simpa using h.symm
  | cons step tail ih =>
      obtain ⟨entries, inner, rfl, hinner, hw⟩ := at?_cons_eq_some_iff.mp h
      obtain ⟨front, back, heq, hinsert⟩ := Keyed.exists_split_of_get? hinner
      rw [replaceAt_cons hinner, ih hw, hinsert, ← heq]

/-- What stands at a place of a JSON value is one. -/
theorem IsJson.of_at? (hv : v.IsJson) (h : v.at? steps = some w) : w.IsJson := by
  induction steps generalizing v with
  | nil =>
      obtain rfl : v = w := by simpa using h
      exact hv
  | cons step tail ih =>
      obtain ⟨entries, inner, rfl, hinner, hw⟩ := at?_cons_eq_some_iff.mp h
      exact ih (hv.of_member? hinner) hw

end Value

/-! ## Localised problems -/

/-- Of the problems of a whole, those of a part alone lie at the place of the part. The others lie
elsewhere, and they are the same whatever the part is. -/
def Localised (whole part : Value → List Problem) (place : List String) : Prop :=
  ∃ front back, (∀ p ∈ front ++ back, ¬ place <+: p.place) ∧
    ∀ v, whole v = front ++ (part v).map (.below place) ++ back

/-- A part of a part is localised at the place of the one inside that of the other. -/
theorem Localised.inside (whole : Value → List Problem) {middle part : Value → List Problem}
    {v w : Value} {outer inner : List String}
    (ho : Localised (fun x => whole (v.replaceAt outer x)) middle outer)
    (hw : v.at? outer = some w)
    (hi : Localised (fun x => middle (w.replaceAt inner x)) part inner) :
    Localised (fun x => whole (v.replaceAt (outer ++ inner) x)) part (outer ++ inner) := by
  obtain ⟨front, back, haway, hwhole⟩ := ho
  obtain ⟨front', back', haway', hmiddle⟩ := hi
  refine ⟨front ++ front'.map (.below outer), back'.map (.below outer) ++ back, ?_, ?_⟩
  · have houter : ∀ p ∈ front ++ back, ¬ outer ++ inner <+: p.place := by
      intro p hp h
      exact haway p hp ((List.prefix_append outer inner).trans h)
    have hinner : ∀ p ∈ front' ++ back', ¬ outer ++ inner <+: (p.below outer).place := by
      intro p hp h
      exact haway' p hp ((List.prefix_append_right_inj outer).mp h)
    simp only [List.forall_mem_append, List.forall_mem_map] at houter hinner ⊢
    exact ⟨⟨houter.1, hinner.1⟩, hinner.2, houter.2⟩
  · intro x
    simp only [Value.replaceAt_append hw, hwhole, hmiddle, List.map_append, map_below_map_below,
      List.append_assoc]

/-- Replacing a part with one that has no problems removes the problems at its place. -/
theorem Localised.filter_eq {whole part : Value → List Problem} {place : List String}
    (h : Localised whole part place) {new : Value} (hnew : part new = []) (old : Value) :
    whole new = (whole old).filter fun p => ¬ place <+: p.place := by
  obtain ⟨front, back, haway, hwhole⟩ := h
  have hkept : ∀ p ∈ front ++ back, decide (¬ place <+: p.place) = true := by
    intro p hp
    exact decide_eq_true (haway p hp)
  have hgone : ((part old).map (Problem.below place)).filter
      (fun p => ¬ place <+: p.place) = [] := by
    rw [List.filter_eq_nil_iff]
    intro p hp
    obtain ⟨q, -, rfl⟩ := List.mem_map.mp hp
    simp [Problem.below]
  rw [List.forall_mem_append] at hkept
  rw [hwhole, hwhole, hnew, List.filter_append, List.filter_append, hgone,
    List.filter_eq_self.mpr hkept.1, List.filter_eq_self.mpr hkept.2, List.map_nil]

end RestBindings
