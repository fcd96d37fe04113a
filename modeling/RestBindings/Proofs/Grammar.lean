import Mathlib.Tactic.MkIffOfInductiveProp
import RestBindings.Proofs.Checked

/-!
# The shape of a discovery document

`IsDocument` says which decoded JSON values are discovery documents, member by member and
without a reader. Each entity is an object with members that it must have (`Has`) and members
that it may have (`MayHave`); a member is looked for under its name in documents first, and
only then under its plain name (`Member.value?`). Members that are not mentioned do not
matter.

The one shape that contains itself is that of type descriptors (`IsDescriptor`): an array has
items of any descriptor shape. It counts how many descriptors stand within one another, so that the
shapes that mention descriptors are there with a bound (`IsDocument (IsDescriptor n)`) and without
one (`IsDocument AnyDescriptor`).
-/

namespace RestBindings

/-- A key or a leaf that JSON can express. -/
def Scalar.IsJson : Scalar → Prop
  | null | bool _ | int _ | real _ | text _ => True
  | bytes _ | moment _ => False

/-- A decoded value that JSON can express. -/
inductive Value.IsJson : Value → Prop
  | scalar {s : Scalar} (leaf : s.IsJson) : IsJson (.scalar s)
  | list {items : List Value} (each : ∀ item ∈ items, IsJson item) : IsJson (.list items)
  | mapping {entries : List (Scalar × Value)} (keys : ∀ entry ∈ entries, ∃ s, entry.1 = .text s)
      (each : ∀ entry ∈ entries, IsJson entry.2) : IsJson (.mapping entries)

namespace Value

@[simp] theorem isJson_scalar_iff {s : Scalar} : (scalar s).IsJson ↔ s.IsJson :=
  ⟨fun h => by cases h with | scalar leaf => exact leaf, .scalar⟩

@[simp] theorem isJson_list_iff {items : List Value} :
    (list items).IsJson ↔ ∀ item ∈ items, item.IsJson :=
  ⟨fun h => by cases h with | list each => exact each, .list⟩

@[simp] theorem isJson_mapping_iff {entries : List (Scalar × Value)} :
    (mapping entries).IsJson ↔
      (∀ entry ∈ entries, ∃ s, entry.1 = .text s) ∧ ∀ entry ∈ entries, entry.2.IsJson :=
  ⟨fun h => by cases h with | mapping keys each => exact ⟨keys, each⟩, fun h => .mapping h.1 h.2⟩

end Value

namespace Discovery

variable (P D : Value → Prop)

/-! ## Members and plain values -/

/-- The member is there and has a shape. -/
def Has (m : Member) (entries : Entries) : Prop :=
  ∃ v, m.value? entries = some v ∧ P v

/-- The member has a shape if it is there. -/
def MayHave (m : Member) (entries : Entries) : Prop :=
  ∀ v, m.value? entries = some v → P v

/-- An object whose values have a shape. -/
def IsMapping (v : Value) : Prop :=
  ∃ entries, v = .mapping entries ∧ ∀ entry ∈ entries, P entry.2

end Discovery

end RestBindings
