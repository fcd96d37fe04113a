import RestBindings.Proofs.Documents

/-!
# What a check reports

The problems of a check that is put together are the problems of its parts, in the order of the
parts, each below the step that its part stands under (`problems_seq`, `problems_under`,
`problems_all`). For the readers of a document this gives the problems of a member
(`problems_required`, `problems_withDefault`) and of a mapping (`problems_readMapping`) from those
of the values in them.

No reader refuses a value without saying why (`Explained`): a check is valid exactly when it has no
problem. The ways in which checks are put together keep this, so it holds of whole documents
(`returns_accept_iff_problems`).
-/

namespace RestBindings

/-- The problem as it is seen from further out. -/
def Problem.below (steps : List String) (p : Problem) : Problem :=
  { p with place := steps ++ p.place }

/-- Problems that are seen from further out in two steps. -/
theorem map_below_map_below (outer inner : List String) (problems : List Problem) :
    (problems.map (Problem.below inner)).map (Problem.below outer) =
      problems.map (.below (outer ++ inner)) := by
  rw [List.map_map]
  apply List.map_congr_left
  intro p _
  rw [Function.comp_apply, Problem.below, Problem.below, Problem.below, List.append_assoc]

namespace Checked

variable {α β : Type}

@[simp] theorem problems_valid (a : α) : (valid a).problems = [] :=
  rfl

@[simp] theorem problems_fail (fault : Fault) :
    (fail fault : Checked α).problems = [⟨[], fault⟩] :=
  rfl

@[simp] theorem problems_map (f : α → β) (c : Checked α) : (f <$> c).problems = c.problems := by
  cases c <;> rfl

@[simp] theorem problems_seq (f : Checked (α → β)) (c : Checked α) :
    (f <*> c).problems = f.problems ++ c.problems := by
  cases f with
  | valid g => exact problems_map g c
  | invalid ps => rfl

@[simp] theorem problems_under (step : String) (c : Checked α) :
    (c.under step).problems = c.problems.map (.below [step]) := by
  cases c <;> rfl

theorem problems_all (l : List (Checked α)) : (all l).problems = l.flatMap problems := by
  induction l with
  | nil => rfl
  | cons c rest ih => rw [all, problems_seq, problems_map, ih, List.flatMap_cons]

/-! ## Refusals are explained -/

/-- The check is valid if it reports no problem. -/
def Explained (c : Checked α) : Prop :=
  IsValid c ↔ c.problems = []

@[simp] theorem explained_valid (a : α) : Explained (valid a) :=
  iff_of_true (isValid_valid a) rfl

@[simp] theorem explained_fail (fault : Fault) : Explained (fail fault : Checked α) :=
  iff_of_false (not_isValid_fail fault) (List.cons_ne_nil _ _)

@[simp] theorem explained_map (f : α → β) (c : Checked α) :
    Explained (f <$> c) ↔ Explained c := by
  rw [Explained, isValid_map, problems_map, Explained]

@[simp] theorem explained_under (step : String) (c : Checked α) :
    Explained (c.under step) ↔ Explained c := by
  rw [Explained, isValid_under, problems_under, List.map_eq_nil_iff, Explained]

theorem Explained.seq {f : Checked (α → β)} {c : Checked α} (hf : Explained f)
    (hc : Explained c) : Explained (f <*> c) := by
  unfold Explained
  rw [isValid_seq, problems_seq, List.append_eq_nil_iff]
  exact and_congr hf hc

theorem explained_all {l : List (Checked α)} (h : ∀ c ∈ l, Explained c) :
    Explained (all l) := by
  unfold Explained
  rw [isValid_all, problems_all, List.flatMap_eq_nil_iff]
  exact forall₂_congr h

end Checked

namespace Discovery

open Checked (Explained)

variable {α : Type}

/-! ## Members and mappings -/

/-- The problems of a member: those of its value, below the name that it is found under, or the
given faults if it is absent. -/
def Member.problems (m : Member) (absent : List Fault) (check : Value → List Problem)
    (entries : Entries) : List Problem :=
  match m.find? entries with
  | some (name, value) => (check value).map (.below [name])
  | none => absent.map fun fault => ⟨[m.name], fault⟩

/-- The problems of a value that may be left empty. -/
def unlessNull (check : Value → List Problem) : Value → List Problem
  | .scalar .null => []
  | value => check value

/-- The problems of an entry of a mapping: first those of its key, all below the key. -/
def entryProblems (check : Scalar × Value → List Problem) (entry : Scalar × Value) :
    List Problem :=
  ((readKey entry.1).problems ++ check entry).map (.below [entry.1.shown])

/-- The problems of a mapping, entry by entry. -/
def mappingProblems (check : Scalar × Value → List Problem) : Value → List Problem
  | .mapping entries => entries.flatMap (entryProblems check)
  | _ => [⟨[], .notMapping⟩]

variable (read : Value → Checked α)

theorem problems_required (m : Member) (entries : Entries) :
    (required read m entries).problems =
      m.problems [.missing] (fun v => (read v).problems) entries := by
  rw [required, Member.problems]
  cases m.find? entries <;> simp [Problem.below]

theorem problems_withDefault (absent : α) (m : Member) (entries : Entries) :
    (withDefault read absent m entries).problems =
      m.problems [] (fun v => (read v).problems) entries := by
  rw [withDefault, Member.problems]
  cases m.find? entries <;> simp

theorem problems_readOptional (v : Value) :
    (readOptional read v).problems = unlessNull (fun w => (read w).problems) v := by
  by_cases hnull : v = .null
  · subst hnull
    rfl
  · rw [readOptional_of_ne hnull, Checked.problems_map, unlessNull.eq_def]
    split
    · exact absurd rfl hnull
    · rfl

theorem problems_readMapping (v : Value) :
    (readMapping read v).problems =
      mappingProblems (fun entry => (read entry.2).problems) v := by
  cases v with
  | mapping entries =>
      rw [readMapping, Checked.problems_map, Checked.problems_all, mappingProblems,
        List.flatMap_map]
      apply List.flatMap_congr
      intro entry _
      simp [readEntry, entryProblems]
  | _ => rfl

/-- The entries of a mapping may be named before they are checked or while they are. -/
theorem mappingProblems_nameEntries (check : Scalar × Value → List Problem)
    {name : Scalar × Value → Scalar × Value} (hkey : ∀ entry, (name entry).1 = entry.1)
    (v : Value) :
    mappingProblems check (nameEntries name v) =
      mappingProblems (fun entry => check (name entry)) v := by
  cases v with
  | mapping entries =>
      simp only [nameEntries, mappingProblems, List.flatMap_map]
      apply List.flatMap_congr
      intro entry _
      rw [entryProblems, hkey, entryProblems]
  | _ => rfl

/-! ## Readers explain their refusals -/

variable {read}

theorem explained_required (h : ∀ v, Explained (read v)) (m : Member) (entries : Entries) :
    Explained (required read m entries) := by
  rw [required]
  cases m.find? entries <;> simp [h]

theorem explained_withDefault (h : ∀ v, Explained (read v)) (absent : α) (m : Member)
    (entries : Entries) : Explained (withDefault read absent m entries) := by
  rw [withDefault]
  cases m.find? entries <;> simp [h]

theorem explained_readOptional (h : ∀ v, Explained (read v)) (v : Value) :
    Explained (readOptional read v) := by
  unfold readOptional
  split <;> simp [h]

theorem explained_readText (v : Value) : Explained (readText v) := by
  unfold readText
  split
  · simp
  · split <;> simp
  · simp

theorem explained_readTruthText (s : String) : Explained (readTruthText s) := by
  unfold readTruthText
  split <;> simp

theorem explained_readTruthNumber (n : Int) : Explained (readTruthNumber n) := by
  unfold readTruthNumber
  split_ifs <;> simp

theorem explained_readBoolean (v : Value) : Explained (readBoolean v) := by
  unfold readBoolean
  split
  · simp
  · exact explained_readTruthText _
  · split
    · exact explained_readTruthText _
    · simp
  · split_ifs
    · exact explained_readTruthNumber _
    · simp
  · split
    · split_ifs
      · exact explained_readTruthNumber _
      · simp
    · simp
  · simp

theorem explained_readItems (items : List Value) (index : Nat) :
    Explained (readTexts.readItems index items) := by
  induction items generalizing index with
  | nil => simp [readTexts.readItems]
  | cons item rest ih =>
      rw [readTexts.readItems]
      refine .seq ?_ (ih (index + 1))
      simp [explained_readText]

theorem explained_readTexts (v : Value) : Explained (readTexts v) := by
  unfold readTexts
  split
  · exact explained_readItems _ _
  · exact explained_readItems _ _
  · simp

theorem explained_readMapping (h : ∀ v, Explained (read v)) (v : Value) :
    Explained (readMapping read v) := by
  cases v with
  | mapping entries =>
      rw [readMapping, Checked.explained_map]
      apply Checked.explained_all
      rw [List.forall_mem_map]
      intro entry _
      have hkey : Explained (readKey entry.1) := by simp [readKey, explained_readText]
      rw [readEntry, Checked.explained_under]
      exact .seq ((Checked.explained_map _ _).mpr hkey) (h entry.2)
  | _ => simp [readMapping]

theorem explained_readEntity {read : Entries → Checked α} (entity : String)
    (h : ∀ entries, Explained (read entries)) (v : Value) :
    Explained (readEntity entity read v) := by
  cases v with
  | mapping entries => exact h entries
  | _ => simp [readEntity]

mutual

/-- Type descriptors are refused with an explanation, by recursion on the value. -/
theorem explained_readNested : (room : Nat) → (v : Value) → Explained (readNested room v)
  | 0, .mapping entries => by simp [readNested]
  | room + 1, .mapping entries => by
      rw [readNested]
      split
      · rw [Checked.explained_under, readPrimitive]
        refine .seq ?_ (explained_withDefault (explained_readOptional explained_readText) _ _ _)
        simp [explained_required explained_readText]
      · rw [Checked.explained_under]
        refine .seq ?_ (explained_readArrayItems room entries)
        simp [readArrayType, explained_withDefault explained_readText]
      · simp [readReference, explained_required explained_readText]
  | _, .scalar _ => by simp [readNested]
  | _, .list _ => by simp [readNested]
  | _, .set _ => by simp [readNested]
  | _, .opaqueNode => by simp [readNested]

theorem explained_readArrayItems : (room : Nat) → (entries : Entries) →
    Explained (readArrayItems room entries)
  | _, [] => by simp [readArrayItems]
  | room, entry :: rest => by
      rw [readArrayItems]
      split_ifs
      · rw [Checked.explained_under]
        exact explained_readEntryDescriptor room entry
      · exact explained_readArrayItems room rest

theorem explained_readEntryDescriptor : (room : Nat) → (entry : Scalar × Value) →
    Explained (readEntryDescriptor room entry)
  | room, (_, value) => by
      rw [readEntryDescriptor]
      exact explained_readNested room value

end

theorem explained_readDescriptor (v : Value) : Explained (readDescriptor v) :=
  explained_readNested nestingLimit v

/-! ## Entities -/

theorem explained_readSchema (v : Value) : Explained (readSchema v) := by
  apply explained_readEntity
  intro entries
  refine .seq ?_ (explained_withDefault (explained_readMapping explained_readDescriptor) _ _ _)
  simp [explained_required explained_readText]

theorem explained_readParameter (v : Value) : Explained (readParameter v) := by
  apply explained_readEntity
  intro entries
  refine .seq (.seq ?_ ?_) (explained_withDefault explained_readBoolean _ _ _)
  · simp [explained_required explained_readDescriptor]
  · exact explained_withDefault (explained_readOptional explained_readText) _ _ _

theorem explained_readRequestBody (v : Value) : Explained (readRequestBody v) := by
  apply explained_readEntity
  intro entries
  refine .seq ?_ (explained_withDefault explained_readText _ _ _)
  simp [explained_required explained_readText]

theorem explained_readResponseBody (v : Value) : Explained (readResponseBody v) := by
  apply explained_readEntity
  intro entries
  simp [explained_required explained_readText]

theorem explained_readMethod (v : Value) : Explained (readMethod v) := by
  apply explained_readEntity
  intro entries
  refine .seq (.seq (.seq (.seq (.seq (.seq ?_ ?_) ?_) ?_) ?_) ?_) ?_
  · simp [explained_required explained_readText]
  · exact explained_required explained_readText _ _
  · exact explained_required explained_readText _ _
  · exact explained_withDefault (explained_readOptional explained_readRequestBody) _ _ _
  · exact explained_withDefault (explained_readOptional explained_readResponseBody) _ _ _
  · exact explained_withDefault (explained_readMapping explained_readParameter) _ _ _
  · exact explained_withDefault (explained_readOptional explained_readTexts) _ _ _

theorem explained_readResource (v : Value) : Explained (readResource v) := by
  apply explained_readEntity
  intro entries
  refine .seq ?_ (explained_withDefault (fun w => ?_) _ _ _)
  · simp [explained_required explained_readText]
  · exact explained_readMapping explained_readMethod _

theorem explained_readDocument (v : Value) : Explained (readDocument v) := by
  apply explained_readEntity
  intro entries
  refine .seq (.seq (.seq (.seq (.seq ?_ ?_) ?_) ?_) ?_) ?_
  · simp [explained_required explained_readText]
  · exact explained_withDefault (explained_readOptional explained_readText) _ _ _
  · exact explained_withDefault (explained_readOptional explained_readText) _ _ _
  · exact explained_withDefault (explained_readOptional explained_readText) _ _ _
  · exact explained_withDefault (fun w => explained_readMapping explained_readSchema _) _ _ _
  · exact explained_withDefault (fun w => explained_readMapping explained_readResource _) _ _ _

/-- **A value is accepted as a document exactly when reading it reports no problem.** -/
theorem returns_accept_iff_problems (source : String) (v : Value) :
    Returns (accept source v) ↔ (readDocument v).problems = [] :=
  (exists_congr fun _ => accept_eq_ok_iff).trans (explained_readDocument v)

/-- An object that is not accepted is refused with the list of its problems. -/
theorem accept_mapping_eq_error {source : String} {entries : Entries} {e : Error}
    (h : accept source (.mapping entries) = .error e) :
    e = .failure
      (.malformed source ((readDocument (.mapping entries)).problems.map problemLine)) := by
  rw [accept] at h
  cases hread : readDocument (.mapping entries) with
  | valid d =>
      rw [hread] at h
      cases h
  | invalid ps =>
      rw [hread] at h
      cases h
      rfl

end Discovery

end RestBindings
