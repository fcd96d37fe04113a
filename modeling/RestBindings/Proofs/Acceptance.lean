import RestBindings.Proofs.Documents
import RestBindings.Proofs.Grammar

/-!
# Documents are accepted exactly in their shape

A reader and a shape belong together when the reader accepts exactly the JSON values of the
shape (`Reads`). The ways in which readers are put together keep this: optional values,
members, mappings and entities each have their lemma, and type descriptors are done by
induction. Storing a key in an entity changes the member that holds its name only, so it can
be seen through (`Reads.named`).

The main statement is `returns_accept_iff`.
-/

namespace RestBindings

namespace Value

variable {entries : List (Scalar × Value)}

/-- The values of an object that JSON can express are JSON values. -/
theorem IsJson.of_mem (h : (Value.mapping entries).IsJson) {entry : Scalar × Value}
    (he : entry ∈ entries) : (∃ s, entry.1 = .text s) ∧ entry.2.IsJson := by
  cases h with
  | mapping keys each => exact ⟨keys entry he, each entry he⟩

theorem IsJson.of_member? (h : (Value.mapping entries).IsJson) {name : String} {v : Value}
    (hv : member? name entries = some v) : v.IsJson :=
  (h.of_mem (Keyed.mem_of_get? hv)).2

theorem IsJson.of_value? (h : (Value.mapping entries).IsJson) {m : Discovery.Member} {v : Value}
    (hv : m.value? entries = some v) : v.IsJson := by
  rw [Discovery.Member.value?] at hv
  cases hn : member? m.name entries with
  | none =>
      rw [hn] at hv
      exact h.of_member? hv
  | some w =>
      rw [hn] at hv
      cases hv
      exact h.of_member? hn

end Value

namespace Discovery

open Checked (IsValid)

variable {α : Type} {read : Value → Checked α} {P : Value → Prop} {entries : Entries}

/-- The reader accepts exactly the JSON values of a shape. -/
def Reads (read : Value → Checked α) (P : Value → Prop) : Prop :=
  ∀ v : Value, v.IsJson → (IsValid (read v) ↔ P v)

/-! ## Plain values -/

section members

variable (h : Reads read P) (he : (Value.mapping entries).IsJson) (m : Member)

include h he

theorem Reads.required : IsValid (required read m entries) ↔ Has P m entries := by
  rw [isValid_required_iff]
  exact exists_congr fun v => and_congr_right fun hv => h v (he.of_value? hv)

theorem Reads.withDefault (absent : α) :
    IsValid (withDefault read absent m entries) ↔ MayHave P m entries := by
  rw [isValid_withDefault_iff]
  exact forall_congr' fun v => forall_congr' fun hv => h v (he.of_value? hv)

end members

/-- A mapping is read whatever its entries are named after, when a named value is read exactly
if the value has the shape. -/
theorem Reads.named (name : Scalar × Value → Scalar × Value) (hkey : ∀ e, (name e).1 = e.1)
    (h : ∀ (s : String) (v : Value), v.IsJson → (IsValid (read (name (.text s, v)).2) ↔ P v)) :
    Reads (fun v => readMapping read (nameEntries name v)) (IsMapping P) := by
  intro v hv
  cases hv with
  | scalar leaf => simp [nameEntries, readMapping, IsMapping]
  | list each => simp [nameEntries, readMapping, IsMapping]
  | @mapping entries keys each =>
      have hentry : ∀ e ∈ entries,
          (IsValid (readText (.scalar (name e).1)) ∧ IsValid (read (name e).2)) ↔ P e.2 := by
        rintro ⟨key, w⟩ he
        obtain ⟨s, rfl⟩ : ∃ s, key = .text s := keys _ he
        rw [hkey, h s w (each _ he), and_iff_right]
        exact Checked.isValid_valid s
      simp only [nameEntries, isValid_readMapping_iff, List.forall_mem_map, IsMapping,
        Value.mapping.injEq, exists_eq_left']
      exact forall₂_congr hentry

/-- A mapping of values that are read exactly in their shape. -/
theorem Reads.mapping (h : Reads read P) : Reads (readMapping read) (IsMapping P) := by
  have hnamed := Reads.named id (fun _ => rfl) fun _ v hv => h v hv
  simpa only [nameEntries_id] using hnamed

theorem sameKey_text_iff (key : Scalar) (name : String) :
    key.sameKey (.text name) ↔ key = .text name := by
  cases key with
  | text s => simp [Scalar.sameKey, Scalar.keyNumber?]
  | real x =>
      simp only [Scalar.sameKey, Scalar.keyNumber?]
      cases x.toInt? <;> simp
  | _ => simp [Scalar.sameKey, Scalar.keyNumber?]

/-- Storing a member changes that member only. -/
theorem member?_store (field name : String) (v : Value) (entries : Entries) :
    Value.member? name (Value.store (.text field) v entries) =
      if field = name then some v else Value.member? name entries := by
  induction entries with
  | nil => simp [Value.store, Value.member?, Keyed.get?]
  | cons entry rest ih =>
      rw [Value.member?] at ih
      by_cases hf : entry.1.sameKey (.text field)
      · rw [Value.store, if_pos hf, Value.member?, Keyed.get?, (sameKey_text_iff _ _).mp hf]
        simp only [Scalar.text.injEq, Value.member?, Keyed.get?, (sameKey_text_iff _ _).mp hf]
        split_ifs <;> rfl
      · have hne : entry.1 ≠ .text field := fun he => hf ((sameKey_text_iff _ _).mpr he)
        rw [Value.store, if_neg hf, Value.member?, Keyed.get?, ih]
        by_cases hn : field = name
        · subst hn
          simp [hne]
        · simp [hn, Value.member?, Keyed.get?]

/-- A member that is not there is stored at the end. -/
theorem store_eq_concat {field : String} {entries : Entries}
    (h : Value.member? field entries = none) (v : Value) :
    Value.store (.text field) v entries = entries ++ [(.text field, v)] := by
  induction entries with
  | nil => rfl
  | cons entry rest ih =>
      rw [Value.member?, Keyed.get?] at h
      split_ifs at h with hk
      have hne : ¬ entry.1.sameKey (.text field) := fun hs => hk ((sameKey_text_iff _ _).mp hs)
      rw [Value.store, if_neg hne, ih h, List.cons_append]

theorem isJson_ofText (s : String) : (Value.ofText s).IsJson :=
  .scalar (show (Scalar.text s).IsJson from trivial)

/-- Storing a JSON value in an object that JSON can express gives another one. -/
theorem isJson_store (h : (Value.mapping entries).IsJson) {v : Value} (hv : v.IsJson)
    (field : String) : (Value.mapping (Value.store (.text field) v entries)).IsJson := by
  have hmem : ∀ entry ∈ Value.store (.text field) v entries,
      (∃ s, entry.1 = .text s) ∧ entry.2.IsJson := by
    induction entries with
    | nil =>
        intro entry he
        obtain rfl := List.mem_singleton.mp he
        exact ⟨⟨field, rfl⟩, hv⟩
    | cons first rest ih =>
        have hrest : (Value.mapping rest).IsJson :=
          .mapping (fun e he => (h.of_mem (List.mem_cons_of_mem _ he)).1)
            fun e he => (h.of_mem (List.mem_cons_of_mem _ he)).2
        rw [Value.store]
        split_ifs with hk
        · rw [List.forall_mem_cons]
          exact ⟨⟨(h.of_mem List.mem_cons_self).1, hv⟩, fun e he => hrest.of_mem he⟩
        · rw [List.forall_mem_cons]
          exact ⟨h.of_mem List.mem_cons_self, ih hrest⟩
  exact .mapping (fun e he => (hmem e he).1) fun e he => (hmem e he).2

/-- Naming an entity after its key keeps the key. -/
theorem fst_nameAfterKey {field : String} (entry : Scalar × Value) :
    (nameAfterKey field entry).1 = entry.1 := by
  rw [nameAfterKey.eq_def]
  split <;> rfl

theorem fst_nameIfUnnamed {field : String} (entry : Scalar × Value) :
    (nameIfUnnamed field entry).1 = entry.1 := by
  rw [nameIfUnnamed.eq_def]
  split
  · split <;> rfl
  · rfl

/-- The descriptor part of a parameter has the members of the parameter that are its own. -/
theorem member?_filter {name : String} (h : isParameterMember (.text name) = false)
    (entries : Entries) :
    Value.member? name (entries.filter fun entry => !isParameterMember entry.1) =
      Value.member? name entries := by
  induction entries with
  | nil => rfl
  | cons entry rest ih =>
      simp only [Value.member?] at ih
      by_cases hk : entry.1 = .text name
      · have hkeep : (!isParameterMember entry.1) = true := by rw [hk, h]; rfl
        rw [List.filter_cons, if_pos hkeep, Value.member?, Value.member?, Keyed.get?, if_pos hk,
          Keyed.get?, if_pos hk]
      · rw [Value.member?, Value.member?, Keyed.get?, if_neg hk, List.filter_cons]
        split_ifs
        · rw [Keyed.get?, if_neg hk, ih]
        · exact ih

/-- Splitting a parameter that JSON can express gives entries that it can express. -/
theorem isJson_splitParameter (he : (Value.mapping entries).IsJson) :
    (Value.mapping (splitParameter entries)).IsJson := by
  have hgetD (name : String) {v : Value} (hv : v.IsJson) :
      ((Value.member? name entries).getD v).IsJson := by
    cases hm : Value.member? name entries with
    | none => exact hv
    | some w => exact he.of_member? hm
  have hrest : (Value.mapping (entries.filter fun e => !isParameterMember e.1)).IsJson :=
    .mapping (fun e hm => (he.of_mem (List.mem_of_mem_filter hm)).1)
      fun e hm => (he.of_mem (List.mem_of_mem_filter hm)).2
  have hnull : Value.null.IsJson := .scalar (show Scalar.IsJson .null from trivial)
  have hfalse : (Value.scalar (.bool false)).IsJson :=
    .scalar (show (Scalar.bool false).IsJson from trivial)
  rw [splitParameter]
  split
  · exact he
  · refine .mapping ?_ ?_
    · simp
    · simp only [List.forall_mem_cons, List.not_mem_nil, false_implies, implies_true, and_true]
      exact ⟨hrest, hgetD _ hnull, hgetD _ hfalse⟩

/-- The members of a flat parameter after it has been split. -/
theorem member?_splitParameter (h : Value.member? "descriptor" entries = none) :
    Value.member? "descriptor" (splitParameter entries) =
        some (.mapping (entries.filter fun entry => !isParameterMember entry.1)) ∧
      Value.member? "location" (splitParameter entries) =
        some ((Value.member? "location" entries).getD .null) ∧
      Value.member? "required" (splitParameter entries) =
        some ((Value.member? "required" entries).getD (.scalar (.bool false))) := by
  rw [splitParameter, if_neg (by simp [h])]
  exact ⟨rfl, rfl, rfl⟩

/-- A document with an array in a schema and a flat parameter in a method. -/
def diskValue : Value :=
  .mapping [(.text "baseUrl", .ofText "https://www.example.com/"),
    (.text "schemas", .mapping [(.text "Disk", .mapping [(.text "properties", .mapping [
      (.text "sizes", .mapping [(.text "type", .ofText "array"),
        (.text "items", .mapping [(.text "$ref", .ofText "Size")])])])])]),
    (.text "resources", .mapping [(.text "disks", .mapping [(.text "methods", .mapping [
      (.text "get", .mapping [(.text "httpMethod", .ofText "GET"), (.text "path", .ofText "disks"),
        (.text "parameters", .mapping [(.text "disk", .mapping [(.text "type", .ofText "string"),
          (.text "required", .scalar (.bool true))])])])])])])]

end Discovery

end RestBindings
