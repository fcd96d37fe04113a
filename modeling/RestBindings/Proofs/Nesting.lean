import RestBindings.Proofs.Typing

/-!
# The types of nested arrays

The type of a descriptor is found array by array, and each list asks for the object type of its
items. In closed form: a descriptor with some number of arrays around its leaf has the type of as
many lists around the type of the leaf, which is the object type of it when there is a list at all
(`gives_iff_lists`). The reason is that the object type of a list is the list itself
(`box_listOf`) and that no object type is a value type (`box_notMem_valueTypes`); so only the
innermost list changes anything.

`typeOf_nested` has this for every table, together with the failures of a leaf that the table does
not name, and with what a parameter makes of the type of its descriptor.
-/

namespace RestBindings

open Discovery

/-- The number of arrays around the leaf of a descriptor. -/
def Discovery.Descriptor.depth : Descriptor → Nat
  | .array _ items => items.depth + 1
  | _ => 0

namespace Source

/-! ## Value types and object types -/

/-- The names of the value types. -/
def valueTypes : List String :=
  ["boolean", "byte", "char", "short", "int", "long", "float", "double"]

/-- A type that is no value type is its own object type. -/
theorem box_of_notMem {type : String} (h : type ∉ valueTypes) : box type = type := by
  have hkeys : boxedTypes.map Prod.fst = valueTypes := rfl
  rw [box, Keyed.get?_eq_none_iff.mpr (hkeys ▸ h)]
  rfl

/-- No object type is a value type. -/
theorem box_notMem_valueTypes (type : String) : box type ∉ valueTypes := by
  have hobjects : ∀ pair ∈ boxedTypes, pair.2 ∉ valueTypes := by decide
  by_cases h : type ∈ valueTypes
  · rw [box]
    cases hg : Keyed.get? type boxedTypes with
    | none => exact absurd h (Keyed.get?_eq_none_iff.mp hg)
    | some object => exact hobjects _ (Keyed.mem_of_get? hg)
  · rw [box_of_notMem h]
    exact h

/-- No list is a value type. -/
theorem listOf_notMem_valueTypes (item : String) : "List<" ++ item ++ ">" ∉ valueTypes := by
  have hinitials : ∀ type ∈ valueTypes, type.toList.head? ≠ some 'L' := by decide
  intro h
  refine hinitials _ h ?_
  rw [String.append_assoc, String.toList_append]
  rfl

/-- The object type of a list is the list. -/
theorem box_listOf (item : String) : box ("List<" ++ item ++ ">") = "List<" ++ item ++ ">" :=
  box_of_notMem (listOf_notMem_valueTypes item)

/-! ## Lists of lists -/

/-- A number of lists around a type: as many opening texts in front of it as closing ones behind
it. -/
def lists (n : Nat) (type : String) : String :=
  String.join (List.replicate n "List<") ++ type ++ String.join (List.replicate n ">")

/-- A type is an argument of one of a number of lists. -/
def IsArgument (n : Nat) (argument type : String) : Prop :=
  ∃ i < n, type = lists i ("List<" ++ argument ++ ">")

@[simp] theorem lists_zero (type : String) : lists 0 type = type := by
  simp [lists]

/-- The innermost list is the first one around the type. -/
theorem lists_succ (n : Nat) (type : String) :
    lists (n + 1) type = lists n ("List<" ++ type ++ ">") := by
  rw [← String.toList_inj, lists, lists, List.replicate_succ', List.replicate_succ]
  simp

/-- The outermost list is around all the others. -/
theorem lists_succ_outer (n : Nat) (type : String) :
    lists (n + 1) type = "List<" ++ lists n type ++ ">" := by
  induction n generalizing type with
  | zero => rw [lists_succ, lists_zero, lists_zero]
  | succ n ih => rw [lists_succ, ih, ← lists_succ]

/-- Lists around lists. -/
theorem lists_add (n k : Nat) (type : String) : lists (n + k) type = lists n (lists k type) := by
  induction n with
  | zero => rw [Nat.zero_add, lists_zero]
  | succ n ih => rw [Nat.add_right_comm, lists_succ_outer, ih, lists_succ_outer]

/-- What equally many lists are around comes back from them. -/
theorem lists_injective (n : Nat) : Function.Injective (lists n) := by
  intro type other h
  rw [lists, lists, String.append_assoc, String.append_assoc, String.append_right_inj,
    String.append_left_inj] at h
  exact h

end Source

namespace Binding

open Source

namespace TypeTable

variable {table : TypeTable} {pairs : List (String × String)} {context : Option String}

/-! ## The type of a descriptor -/

/-- The type of a leaf: the entry for a primitive, the schema itself for a reference. -/
def IsCore (pairs : List (String × String)) : Descriptor → String → Prop
  | .primitive type _, core => (type, core) ∈ pairs
  | .reference ref, core => core = ref
  | .array .., _ => False

/-- The type of a leaf below a number of lists: its object type when there is a list. -/
def coreBelow : Nat → String → String
  | 0, core => core
  | _ + 1, core => box core

/-- The object type of lists around a type is that of the type alone, or the lists themselves. -/
theorem box_lists (n : Nat) (core : String) :
    box (lists n (coreBelow n core)) = lists n (box core) := by
  cases n with
  | zero => rw [lists_zero, lists_zero, coreBelow]
  | succ n => rw [lists_succ_outer, box_listOf, ← lists_succ_outer, coreBelow]

/-- **The type of a descriptor in closed form**: as many lists as it has arrays, around the type of
its leaf. -/
theorem gives_iff_lists {d : Descriptor} {type : String} :
    Gives table d type ↔
      ∃ core, Gives table d.leaf core ∧ type = lists d.depth (coreBelow d.depth core) := by
  induction d generalizing type with
  | primitive name format => simp [Descriptor.leaf, Descriptor.depth, coreBelow]
  | reference ref => simp [Descriptor.leaf, Descriptor.depth, coreBelow]
  | array name items ih =>
      have hgives : Gives table (.array name items) type ↔
          ∃ item, Gives table items item ∧ type = "List<" ++ box item ++ ">" := by
        constructor
        · rintro (_ | ⟨-, inner⟩ | _)
          exact ⟨_, inner, rfl⟩
        · rintro ⟨item, inner, rfl⟩
          exact .array name inner
      rw [hgives, Descriptor.leaf, Descriptor.depth]
      constructor
      · rintro ⟨item, inner, rfl⟩
        obtain ⟨core, hcore, rfl⟩ := ih.mp inner
        refine ⟨core, hcore, ?_⟩
        rw [box_lists, lists_succ_outer, coreBelow]
      · rintro ⟨core, hcore, rfl⟩
        refine ⟨_, ih.mpr ⟨core, hcore, rfl⟩, ?_⟩
        rw [box_lists, lists_succ_outer, coreBelow]

/-- The type of a leaf is its entry or its schema. -/
theorem gives_leaf_iff (hd : Keyed.Distinct pairs) (d : Descriptor) (core : String) :
    Gives pairs d.leaf core ↔ IsCore pairs d.leaf core := by
  induction d with
  | primitive name format =>
      change Gives pairs (.primitive name format) core ↔ (name, core) ∈ pairs
      rw [← Keyed.get?_eq_some_iff hd]
      constructor
      · rintro (⟨-, entry⟩ | _ | _)
        exact entry
      · exact .primitive format
  | array name items ih => exact ih
  | reference ref =>
      change Gives pairs (.reference ref) core ↔ core = ref
      constructor
      · rintro (_ | _ | _)
        rfl
      · rintro rfl
        exact .reference _

/-- No argument of the lists around an object type is a value type. -/
theorem argument_notMem_valueTypes {n : Nat} {core argument : String}
    (h : IsArgument n argument (lists n (coreBelow n core))) : argument ∉ valueTypes := by
  obtain ⟨i, hi, h⟩ := h
  obtain ⟨k, rfl⟩ := Nat.exists_eq_add_of_lt hi
  rw [coreBelow, ← lists_succ, Nat.add_right_comm, lists_add] at h
  rw [← lists_injective (i + 1) h]
  cases k with
  | zero =>
      rw [lists_zero]
      exact box_notMem_valueTypes core
  | succ k =>
      rw [lists_succ_outer]
      exact listOf_notMem_valueTypes _

/-! ## The type of a parameter -/

/-- An array, a reference and what is required keep the type of the descriptor. -/
theorem typeOfParameter_eq_typeOf {p : Parameter}
    (h : isPrimitive p.descriptor = false ∨ p.required = true) :
    typeOfParameter table context p = typeOf table context p.descriptor := by
  have hplain : (!p.required && isPrimitive p.descriptor) = false := by
    rcases h with h | h <;> simp [h]
  rw [typeOfParameter, hplain]
  cases typeOf table context p.descriptor <;> rfl

/-- An optional primitive has the object type of its entry. -/
theorem typeOfParameter_of_optional {p : Parameter} {type found : String} {format : Option String}
    (hp : p.descriptor = .primitive type format) (ho : p.required = false)
    (entry : Keyed.get? type table = some found) :
    typeOfParameter table context p = .ok (box found) := by
  refine (typeOfParameter_eq_ok_iff context).mpr ⟨found, ?_, ?_⟩
  · rw [hp]
    exact .primitive format entry
  · rw [hp, if_pos ⟨ho, rfl⟩]

/-- What is optional has a value type only as a reference. -/
theorem notMem_valueTypes_of_optional {p : Parameter} {type : String} (ho : p.required = false)
    (hr : ∀ ref, p.descriptor ≠ .reference ref)
    (h : typeOfParameter table context p = .ok type) : type ∉ valueTypes := by
  obtain ⟨plain, hplain, rfl⟩ := (typeOfParameter_eq_ok_iff context).mp h
  cases hp : p.descriptor with
  | primitive name format =>
      rw [if_pos ⟨ho, rfl⟩]
      exact box_notMem_valueTypes plain
  | array name items =>
      rw [hp] at hplain
      obtain ⟨-, inner⟩ := hplain
      rw [if_neg (fun hboth => Bool.false_ne_true hboth.2)]
      exact listOf_notMem_valueTypes _
  | reference ref => exact absurd hp (hr ref)

/-! ## Types by any table -/

/-- A table of pairs with distinct names is the list of the pairs. -/
theorem ofPairs_of_distinct (hne : pairs ≠ []) (hd : Keyed.Distinct pairs) :
    ofPairs pairs = pairs := by
  have hempty : ¬ pairs.isEmpty = true := fun h => hne (List.isEmpty_iff.mp h)
  rw [ofPairs, if_neg hempty, Keyed.ofList_of_distinct hd]

/-- **Types of nested arrays.** For every nonempty table and whatever is being typed: a descriptor
has no type exactly when its leaf is a primitive that the table does not name, and the error names
this primitive and what is being typed. Otherwise its type is that of the leaf, the object type if
there is an array at all, with one list around it for each array; and no argument of these lists is
a value type. A parameter fails as its descriptor does. It has the type of an array, of a reference
and of a required primitive unchanged, the object type of the entry for an optional primitive, and
when it is optional and no reference never a value type. -/
theorem typeOf_nested (hne : pairs ≠ []) (hd : Keyed.Distinct pairs) (context : Option String) :
    (∀ d : Descriptor,
      (∀ e, typeOf (ofPairs pairs) context d = .error e ↔
        ∃ type format, d.leaf = .primitive type format ∧ type ∉ pairs.map Prod.fst ∧
          e = .failure (.unsupportedType type context)) ∧
      (∀ type, typeOf (ofPairs pairs) context d = .ok type ↔
        ∃ core, IsCore pairs d.leaf core ∧ type = lists d.depth (coreBelow d.depth core)) ∧
      ∀ type argument, typeOf (ofPairs pairs) context d = .ok type →
        IsArgument d.depth argument type → argument ∉ valueTypes) ∧
    ∀ p : Parameter,
      (∀ e, typeOfParameter (ofPairs pairs) context p = .error e ↔
        typeOf (ofPairs pairs) context p.descriptor = .error e) ∧
      (isPrimitive p.descriptor = false ∨ p.required = true →
        typeOfParameter (ofPairs pairs) context p = typeOf (ofPairs pairs) context p.descriptor) ∧
      (p.required = false → ∀ type format found, p.descriptor = .primitive type format →
        (type, found) ∈ pairs → typeOfParameter (ofPairs pairs) context p = .ok (box found)) ∧
      (p.required = false → (∀ ref, p.descriptor ≠ .reference ref) → ∀ type,
        typeOfParameter (ofPairs pairs) context p = .ok type → type ∉ valueTypes) := by
  rw [ofPairs_of_distinct hne hd]
  have hclosed (d : Descriptor) (type : String) : typeOf pairs context d = .ok type ↔
      ∃ core, IsCore pairs d.leaf core ∧ type = lists d.depth (coreBelow d.depth core) := by
    simp only [typeOf_eq_ok_iff, gives_iff_lists (d := d), gives_leaf_iff hd]
  refine ⟨fun d => ⟨fun e => typeOf_eq_error_iff pairs context, hclosed d, ?_⟩, fun p => ⟨fun e =>
    typeOfParameter_eq_error_iff pairs context, typeOfParameter_eq_typeOf, ?_,
    fun ho hr type => notMem_valueTypes_of_optional ho hr⟩⟩
  · intro type argument htype hargument
    obtain ⟨core, -, rfl⟩ := (hclosed d type).mp htype
    exact argument_notMem_valueTypes hargument
  · intro ho type format found hp entry
    exact typeOfParameter_of_optional hp ho ((Keyed.get?_eq_some_iff hd).mpr entry)

/-- A table in which integers are of a value type. -/
def longTable : List (String × String) :=
  [("string", "String"), ("integer", "long")]

/-- Arrays of arrays of integers, arrays of a type without an entry, and an optional and a required
integer in this table. -/
theorem typeOf_nested_longTable :
    longTable ≠ [] ∧ Keyed.Distinct longTable ∧
      typeOf (ofPairs longTable) (some "Disk.sizes")
        (.array "array" (.array "array" (.primitive "integer" none))) = .ok "List<List<Long>>" ∧
      (∀ argument ∈ ["Long", "List<Long>"], argument ∉ valueTypes) ∧
      typeOf (ofPairs longTable) (some "Disk.sizes") (.array "array" (.primitive "any" none)) =
        .error (.failure (.unsupportedType "any" (some "Disk.sizes"))) ∧
      typeOfParameter (ofPairs longTable) (some "Disk.sizes")
        ⟨.primitive "integer" none, none, false⟩ = .ok "Long" ∧
      typeOfParameter (ofPairs longTable) (some "Disk.sizes")
        ⟨.primitive "integer" none, none, true⟩ = .ok "long" := by
  have hne : longTable ≠ [] := by decide
  have hd : Keyed.Distinct longTable := by decide
  have hentry : ("integer", "long") ∈ longTable := by decide
  obtain ⟨hdescriptor, hparameter⟩ := typeOf_nested hne hd (some "Disk.sizes")
  obtain ⟨-, hlists, harguments⟩ :=
    hdescriptor (.array "array" (.array "array" (.primitive "integer" none)))
  obtain ⟨hfails, -, -⟩ := hdescriptor (.array "array" (.primitive "any" none))
  obtain ⟨-, hplain, -, -⟩ := hparameter ⟨.primitive "integer" none, none, true⟩
  obtain ⟨-, -, hboxed, hobject⟩ := hparameter ⟨.primitive "integer" none, none, false⟩
  obtain ⟨-, hentryType, -⟩ := hdescriptor (.primitive "integer" none)
  have hnested := (hlists "List<List<Long>>").mpr ⟨"long", hentry, by decide⟩
  have hoptional := hboxed rfl "integer" none "long" rfl hentry
  refine ⟨hne, hd, hnested, ?_, ?_, hoptional, ?_⟩
  · rw [List.forall_mem_cons, List.forall_mem_singleton]
    exact ⟨hobject rfl nofun "Long" hoptional,
      harguments _ "List<Long>" hnested ⟨0, by decide, by decide⟩⟩
  · exact (hfails _).mpr ⟨"any", none, rfl, by decide, rfl⟩
  · rw [hplain (.inr rfl)]
    exact (hentryType "long").mpr ⟨"long", hentry, by decide⟩

end TypeTable

end Binding

end RestBindings
