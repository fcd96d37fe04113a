import RestBindings.Discovery.Reading
import RestBindings.Proofs.Traversal

/-!
# Checks that find no problem

A check is valid when it yields a value. Validity goes through every way in which a reader is
put together: a combination of checks is valid exactly when all its parts are, in whatever
place they stand (`isValid_seq`, `isValid_under`, `isValid_all`). For the values the same
steps are inverted one by one (`seq_eq_valid_iff` and its companions).

The second half says the same of members and mappings: a required member must be there and be
read (`isValid_required_iff`), one with a default may be absent (`isValid_withDefault_iff`),
and a mapping is read when all its keys and values are (`isValid_readMapping_iff`).
-/

namespace RestBindings

namespace Checked

variable {α β : Type}

/-- The check yields a value. -/
def IsValid (c : Checked α) : Prop :=
  ∃ a, c = .valid a

@[simp] theorem isValid_valid (a : α) : IsValid (.valid a) :=
  ⟨a, rfl⟩

@[simp] theorem not_isValid_invalid (ps : List Problem) :
    ¬ IsValid (.invalid ps : Checked α) := by
  rintro ⟨a, h⟩
  cases h

@[simp] theorem not_isValid_fail (fault : Fault) : ¬ IsValid (fail fault : Checked α) :=
  not_isValid_invalid _

@[simp] theorem isValid_map (f : α → β) (c : Checked α) : IsValid (f <$> c) ↔ IsValid c := by
  cases c with
  | valid a => exact iff_of_true (isValid_valid (f a)) (isValid_valid a)
  | invalid ps => exact iff_of_false (not_isValid_invalid ps) (not_isValid_invalid ps)

@[simp] theorem isValid_seq (f : Checked (α → β)) (c : Checked α) :
    IsValid (f <*> c) ↔ IsValid f ∧ IsValid c := by
  cases f with
  | valid g =>
      have h : IsValid (.valid g <*> c) ↔ IsValid c := isValid_map g c
      simp [h]
  | invalid ps =>
      have h : ¬ IsValid ((.invalid ps : Checked (α → β)) <*> c) := not_isValid_invalid _
      simp [h]

@[simp] theorem isValid_under (step : String) (c : Checked α) :
    IsValid (c.under step) ↔ IsValid c := by
  cases c with
  | valid a => exact Iff.rfl
  | invalid ps => exact iff_of_false (not_isValid_invalid _) (not_isValid_invalid ps)

theorem isValid_all (l : List (Checked α)) : IsValid (all l) ↔ ∀ c ∈ l, IsValid c := by
  induction l with
  | nil => exact iff_of_true (isValid_valid []) (by simp)
  | cons c rest ih => rw [all, isValid_seq, isValid_map, ih, List.forall_mem_cons]

/-! ## Values -/

theorem map_eq_valid_iff {f : α → β} {c : Checked α} {b : β} :
    f <$> c = .valid b ↔ ∃ a, c = .valid a ∧ f a = b := by
  cases c with
  | valid a =>
      constructor
      · rintro ⟨⟩
        exact ⟨a, rfl, rfl⟩
      · rintro ⟨_, ⟨⟩, rfl⟩
        rfl
  | invalid ps =>
      constructor
      · rintro ⟨⟩
      · rintro ⟨_, ⟨⟩, _⟩

theorem seq_eq_valid_iff {f : Checked (α → β)} {c : Checked α} {b : β} :
    f <*> c = .valid b ↔ ∃ g a, f = .valid g ∧ c = .valid a ∧ g a = b := by
  cases f with
  | valid g =>
      have h : (.valid g : Checked (α → β)) <*> c = .valid b ↔ ∃ a, c = .valid a ∧ g a = b :=
        map_eq_valid_iff
      simp [h]
  | invalid ps =>
      constructor
      · rintro ⟨⟩
      · rintro ⟨_, _, ⟨⟩, _, _⟩

theorem under_eq_valid_iff {step : String} {c : Checked α} {a : α} :
    c.under step = .valid a ↔ c = .valid a := by
  cases c <;> simp [under]

theorem all_eq_valid_iff {l : List (Checked α)} {as : List α} :
    all l = .valid as ↔ List.Forall₂ (fun c a => c = .valid a) l as := by
  induction l generalizing as with
  | nil =>
      cases as with
      | nil => exact iff_of_true rfl .nil
      | cons a as => exact iff_of_false (by rintro ⟨⟩) (by rintro ⟨⟩)
  | cons c rest ih =>
      rw [all, seq_eq_valid_iff]
      constructor
      · rintro ⟨g, tail, hg, ht, rfl⟩
        obtain ⟨a, hc, rfl⟩ := map_eq_valid_iff.mp hg
        exact .cons hc (ih.mp ht)
      · rintro (_ | ⟨hc, ht⟩)
        exact ⟨_, _, map_eq_valid_iff.mpr ⟨_, hc, rfl⟩, ih.mpr ht, rfl⟩

end Checked

namespace Discovery

open Checked (IsValid)

variable {α : Type}

/-! ## Members -/

/-- The value of a member: under its name in documents, or else under its plain name. -/
def Member.value? (m : Member) (entries : Entries) : Option Value :=
  match Value.member? m.name entries with
  | some value => some value
  | none => Value.member? m.plain entries

/-- A member is found exactly when it has a value. -/
theorem Member.find?_eq (m : Member) (entries : Entries) :
    (m.find? entries).map Prod.snd = m.value? entries := by
  rw [find?, value?]
  cases Value.member? m.name entries with
  | some value => rfl
  | none => cases Value.member? m.plain entries <;> rfl

@[simp] theorem Member.value?_of (name : String) (entries : Entries) :
    (Member.of name).value? entries = Value.member? name entries := by
  rw [value?, Member.of]
  cases Value.member? name entries <;> rfl

variable (read : Value → Checked α) (m : Member) (entries : Entries)

theorem required_eq_valid_iff {a : α} :
    required read m entries = .valid a ↔ ∃ v, m.value? entries = some v ∧ read v = .valid a := by
  rw [required, ← Member.find?_eq]
  cases hm : m.find? entries with
  | none => simp [Checked.under, Checked.fail]
  | some found => simp [Checked.under_eq_valid_iff]

theorem withDefault_eq_valid_iff {absent a : α} :
    withDefault read absent m entries = .valid a ↔
      (m.value? entries = none ∧ absent = a) ∨
        ∃ v, m.value? entries = some v ∧ read v = .valid a := by
  rw [withDefault, ← Member.find?_eq]
  cases hm : m.find? entries with
  | none => simp
  | some found => simp [Checked.under_eq_valid_iff]

/-- A required member must be there and be read. -/
theorem isValid_required_iff :
    IsValid (required read m entries) ↔ ∃ v, m.value? entries = some v ∧ IsValid (read v) := by
  simp only [IsValid, required_eq_valid_iff]
  exact ⟨fun ⟨a, v, hv, ha⟩ => ⟨v, hv, a, ha⟩, fun ⟨v, hv, a, ha⟩ => ⟨a, v, hv, ha⟩⟩

/-- A member with a default is read if it is there. -/
theorem isValid_withDefault_iff (absent : α) :
    IsValid (withDefault read absent m entries) ↔
      ∀ v, m.value? entries = some v → IsValid (read v) := by
  simp only [IsValid, withDefault_eq_valid_iff]
  cases m.value? entries with
  | none => simp
  | some v => simp

variable {read}

/-- A value that is not empty is read as such. -/
theorem readOptional_of_ne {v : Value} (h : v ≠ .null) : readOptional read v = some <$> read v := by
  unfold readOptional
  split
  · exact absurd rfl h
  · rfl

/-! ## Mappings -/

@[simp] theorem nameEntries_id (v : Value) : nameEntries id v = v := by
  cases v <;> simp [nameEntries]

theorem readEntry_eq_valid_iff {entry : Scalar × Value} {pair : String × α} :
    readEntry read entry = .valid pair ↔
      readText (.scalar entry.1) = .valid pair.1 ∧ read entry.2 = .valid pair.2 := by
  rw [readEntry, Checked.under_eq_valid_iff, Checked.seq_eq_valid_iff]
  constructor
  · rintro ⟨g, a, hg, ha, rfl⟩
    obtain ⟨key, hk, rfl⟩ := Checked.map_eq_valid_iff.mp hg
    exact ⟨Checked.under_eq_valid_iff.mp hk, ha⟩
  · rintro ⟨hk, ha⟩
    exact ⟨_, _, Checked.map_eq_valid_iff.mpr ⟨_, Checked.under_eq_valid_iff.mpr hk, rfl⟩, ha,
      rfl⟩

/-- A mapping is read when all its keys are texts and all its values are read. -/
theorem isValid_readMapping_iff {entries : Entries} :
    IsValid (readMapping read (.mapping entries)) ↔
      ∀ entry ∈ entries, IsValid (readText (.scalar entry.1)) ∧ IsValid (read entry.2) := by
  rw [readMapping, Checked.isValid_map, Checked.isValid_all, List.forall_mem_map]
  refine forall₂_congr fun entry _ => ?_
  simp [IsValid, readEntry_eq_valid_iff]

/-- What is read from a mapping has no key twice, and each of its values was read. -/
theorem of_readMapping_eq_valid {v : Value} {pairs : List (String × α)}
    (h : readMapping read v = .valid pairs) :
    Keyed.Distinct pairs ∧ ∀ pair ∈ pairs, ∃ w, read w = .valid pair.2 := by
  cases v with
  | mapping entries =>
      obtain ⟨all, ha, rfl⟩ := Checked.map_eq_valid_iff.mp h
      refine ⟨Keyed.distinct_ofList all, fun pair hp => ?_⟩
      obtain ⟨c, hc, hv⟩ := exists_of_mem_of_forall₂ (Checked.all_eq_valid_iff.mp ha)
        (Keyed.mem_of_mem_ofList hp)
      obtain ⟨entry, -, rfl⟩ := List.mem_map.mp hc
      exact ⟨entry.2, (readEntry_eq_valid_iff.mp hv).2⟩
  | _ => cases h

end Discovery

end RestBindings
