import RestBindings.Binding.ParameterOrder
import RestBindings.Binding.TypeTable
import RestBindings.Proofs.Traversal

/-!
# Types of descriptors and the order of parameters

* A descriptor has a source type exactly when the table covers it: its leaf, below any number
  of arrays, is a reference or a primitive that the table names (`returns_typeOf_iff`). The
  same holds of a parameter (`returns_typeOfParameter_iff`).
* Which type that is, is said by one rule for each kind of descriptor (`TypeTable.Gives`),
  without what is being typed (`typeOf_eq_ok_iff`, `typeOfParameter_eq_ok_iff`).
* The parameters of a method can be put in order exactly when its order names declared
  parameters only (`returns_arrange_iff`), and then the ordered parameters are the declared
  ones (`mem_arrange_iff`).
-/

namespace RestBindings

open Discovery

/-- The descriptor below all arrays. -/
def Discovery.Descriptor.leaf : Descriptor → Descriptor
  | .array _ items => items.leaf
  | d => d

namespace Binding

/-! ## Types -/

namespace TypeTable

variable (table : TypeTable) (context : Option String)

/-- The leaf of a descriptor is a reference or a primitive that the table names. -/
def Covers (d : Descriptor) : Prop :=
  match d.leaf with
  | .primitive type _ => type ∈ table.map Prod.fst
  | _ => True

@[simp] theorem covers_primitive (type : String) (format : Option String) :
    Covers table (.primitive type format) ↔ type ∈ table.map Prod.fst := Iff.rfl

@[simp] theorem covers_array (type : String) (items : Descriptor) :
    Covers table (.array type items) ↔ Covers table items := Iff.rfl

@[simp] theorem covers_reference (ref : String) : Covers table (.reference ref) := trivial

/-- A descriptor has a source type exactly when the table covers it. -/
theorem returns_typeOf_iff (d : Descriptor) :
    Returns (typeOf table context d) ↔ Covers table d := by
  induction d with
  | primitive type format =>
      rw [covers_primitive, ← Keyed.isSome_get?_iff, typeOf]
      cases Keyed.get? type table <;> simp
  | array type items ih =>
      rw [covers_array, ← ih, typeOf]
      cases typeOf table context items <;> simp
  | reference ref => simp [typeOf]

/-- A descriptor has no source type exactly when its leaf is a primitive that the table does not
name; the error names this primitive. -/
theorem typeOf_eq_error_iff {d : Descriptor} {e : Error} :
    typeOf table context d = .error e ↔
      ∃ type format, d.leaf = .primitive type format ∧ type ∉ table.map Prod.fst ∧
        e = .failure (.unsupportedType type context) := by
  induction d with
  | primitive type format =>
      simp only [Descriptor.leaf, Descriptor.primitive.injEq, ← Keyed.get?_eq_none_iff]
      rw [typeOf]
      cases hf : Keyed.get? type table with
      | none =>
          constructor
          · intro h
            cases h
            exact ⟨type, format, ⟨rfl, rfl⟩, hf, rfl⟩
          · rintro ⟨_, _, ⟨rfl, rfl⟩, -, rfl⟩
            rfl
      | some found =>
          constructor
          · intro h
            cases h
          · rintro ⟨_, _, ⟨rfl, rfl⟩, hnone, -⟩
            rw [hf] at hnone
            cases hnone
  | array type items ih =>
      rw [Descriptor.leaf, ← ih, typeOf]
      cases typeOf table context items <;> simp
  | reference ref => simp [typeOf, Descriptor.leaf]

/-- A parameter has no source type exactly when its descriptor has none. -/
theorem typeOfParameter_eq_error_iff {p : Parameter} {e : Error} :
    typeOfParameter table context p = .error e ↔ typeOf table context p.descriptor = .error e := by
  rw [typeOfParameter]
  cases typeOf table context p.descriptor <;> simp

/-- A parameter has a source type exactly when the table covers its descriptor. -/
theorem returns_typeOfParameter_iff (p : Parameter) :
    Returns (typeOfParameter table context p) ↔ Covers table p.descriptor := by
  rw [← returns_typeOf_iff table context, typeOfParameter]
  cases typeOf table context p.descriptor <;> simp

/-- The type that a table gives to a descriptor: a primitive has the type of its entry, an array
is a list of the object type of its items, and a reference is the schema itself. -/
inductive Gives (table : TypeTable) : Descriptor → String → Prop
  | primitive {type found : String} (format : Option String)
      (entry : Keyed.get? type table = some found) : Gives table (.primitive type format) found
  | array (type : String) {items : Descriptor} {item : String} (inner : Gives table items item) :
      Gives table (.array type items) ("List<" ++ Source.box item ++ ">")
  | reference (ref : String) : Gives table (.reference ref) ref

/-- The type that a table gives to a parameter: the one of its descriptor, or the object type of
it for an optional primitive. -/
def GivesParameter (table : TypeTable) (p : Parameter) (type : String) : Prop :=
  ∃ plain, Gives table p.descriptor plain ∧
    type = if p.required = false ∧ isPrimitive p.descriptor = true then Source.box plain else plain

variable {table}

/-- The type of a descriptor is the one that its table gives to it, whatever is being typed. -/
theorem typeOf_eq_ok_iff {d : Descriptor} {type : String} :
    typeOf table context d = .ok type ↔ Gives table d type := by
  induction d generalizing type with
  | primitive name format =>
      rw [typeOf]
      constructor
      · intro h
        cases hg : Keyed.get? name table with
        | none => simp [hg] at h
        | some found =>
            obtain rfl : found = type := by simpa [hg] using h
            exact .primitive format hg
      · rintro (⟨-, hg⟩ | _ | _)
        rw [hg]
  | array name items ih =>
      rw [typeOf]
      constructor
      · intro h
        cases hi : typeOf table context items with
        | error e => simp [hi] at h
        | ok item =>
            obtain rfl : listOf item = type := by simpa [hi] using h
            exact .array name (ih.mp hi)
      · rintro (_ | ⟨-, inner⟩ | _)
        rw [ih.mpr inner]
        rfl
  | reference ref =>
      constructor
      · intro h
        obtain rfl : ref = type := Except.ok.inj h
        exact .reference ref
      · rintro (_ | _ | _)
        rfl

/-- A table gives at most one type to a descriptor. -/
theorem Gives.unique {d : Descriptor} {type other : String} (h : Gives table d type)
    (h' : Gives table d other) : type = other := by
  have htype := (typeOf_eq_ok_iff none).mpr h
  have hother := (typeOf_eq_ok_iff none).mpr h'
  exact Except.ok.inj (htype.symm.trans hother)

/-- The type of a parameter is the one that its table gives to it. -/
theorem typeOfParameter_eq_ok_iff {p : Parameter} {type : String} :
    typeOfParameter table context p = .ok type ↔ GivesParameter table p type := by
  unfold typeOfParameter GivesParameter
  simp only [← typeOf_eq_ok_iff context]
  cases typeOf table context p.descriptor with
  | error e => simp
  | ok plain =>
      have hboxed : (!p.required && isPrimitive p.descriptor) = true ↔
          p.required = false ∧ isPrimitive p.descriptor = true := by simp
      simp only [Except.ok.injEq, hboxed, exists_eq_left']
      exact eq_comm

end TypeTable

/-! ## The order of parameters -/

variable {declared : List Named}

/-- The leading parameters exist exactly when every name is declared. -/
theorem returns_leading_iff (method : String) (seen names : List String) :
    Returns (leading method declared seen names) ↔
      ∀ name ∈ names, name ∈ declared.map Prod.fst := by
  induction names generalizing seen with
  | nil => simp [leading]
  | cons name rest ih =>
      rw [List.forall_mem_cons, ← Keyed.isSome_get?_iff, leading]
      cases Keyed.get? name declared with
      | none => simp
      | some p =>
          simp only [Option.isSome_some, true_and]
          by_cases hs : name ∈ seen
          · rw [if_pos hs, ih]
          · rw [if_neg hs, ← ih (name :: seen)]
            cases leading method declared (name :: seen) rest <;> simp

/-- The leading parameters do not exist exactly when some name is not declared; the error names the
first such name. -/
theorem leading_eq_error_iff (method : String) (seen names : List String) {e : Error} :
    leading method declared seen names = .error e ↔
      ∃ front name back, names = front ++ name :: back ∧
        (∀ other ∈ front, other ∈ declared.map Prod.fst) ∧ name ∉ declared.map Prod.fst ∧
        e = .failure (.undeclaredParameter name (some method)) := by
  induction names generalizing seen with
  | nil => simp [leading]
  | cons name rest ih =>
      rw [exists_split_cons_iff, leading]
      cases hg : Keyed.get? name declared with
      | none =>
          have hnot := Keyed.get?_eq_none_iff.mp hg
          simp [hnot, eq_comm]
      | some p =>
          have hd : name ∈ declared.map Prod.fst := Keyed.isSome_get?_iff.mp (by simp [hg])
          by_cases hs : name ∈ seen
          · simp only [if_pos hs, ih]
            simp [hd]
          · simp only [if_neg hs]
            rw [← ih (name :: seen)]
            cases leading method declared (name :: seen) rest <;> simp [hd]

/-- The leading parameters are the declared ones with a name that is listed and not yet
seen. -/
theorem mem_leading_iff {method : String} {seen names : List String} {first : List Named}
    (h : leading method declared seen names = .ok first) (named : Named) :
    named ∈ first ↔
      named.1 ∈ names ∧ named.1 ∉ seen ∧ Keyed.get? named.1 declared = some named.2 := by
  induction names generalizing seen first with
  | nil =>
      obtain rfl : first = [] := by simpa [leading] using h.symm
      simp
  | cons name rest ih =>
      rw [leading] at h
      cases hp : Keyed.get? name declared with
      | none => simp [hp] at h
      | some p =>
          simp only [hp] at h
          by_cases hs : name ∈ seen
          · rw [if_pos hs] at h
            rw [ih h, List.mem_cons]
            constructor
            · rintro ⟨hn, hns, hg⟩
              exact ⟨Or.inr hn, hns, hg⟩
            · rintro ⟨hn | hn, hns, hg⟩
              · exact absurd (hn ▸ hs) hns
              · exact ⟨hn, hns, hg⟩
          · rw [if_neg hs] at h
            cases hl : leading method declared (name :: seen) rest with
            | error e => simp [hl] at h
            | ok others =>
                obtain rfl : (name, p) :: others = first := by simpa [hl] using h
                rw [List.mem_cons, List.mem_cons, ih hl, List.mem_cons, not_or]
                constructor
                · rintro (rfl | ⟨hn, ⟨-, hns⟩, hg⟩)
                  · exact ⟨Or.inl rfl, hs, hp⟩
                  · exact ⟨Or.inr hn, hns, hg⟩
                · rintro ⟨hn, hns, hg⟩
                  by_cases he : named.1 = name
                  · refine Or.inl (Prod.ext he ?_)
                    rw [he, hp] at hg
                    exact (Option.some.inj hg).symm
                  · exact Or.inr ⟨hn.resolve_left he, ⟨he, hns⟩, hg⟩

variable {m : Method}

/-- The parameters of a method can be put in order exactly when its order names declared
parameters only. -/
theorem returns_arrange_iff :
    Returns (arrange m) ↔
      ∀ name ∈ m.parameterOrder.getD [], name ∈ m.parameters.map Prod.fst := by
  rw [← returns_leading_iff m.name [], arrange]
  cases leading m.name m.parameters [] (m.parameterOrder.getD []) <;> simp

/-- The parameters of a method cannot be put in order exactly when its order names one that is not
declared; the error names the first such name and the method. -/
theorem arrange_eq_error_iff {e : Error} :
    arrange m = .error e ↔
      ∃ front name back, m.parameterOrder.getD [] = front ++ name :: back ∧
        (∀ other ∈ front, other ∈ m.parameters.map Prod.fst) ∧ name ∉ m.parameters.map Prod.fst ∧
        e = .failure (.undeclaredParameter name (some m.name)) := by
  rw [← leading_eq_error_iff m.name [], arrange]
  cases leading m.name m.parameters [] (m.parameterOrder.getD []) <;> simp

/-- The ordered parameters are the leading ones and the declared ones that are not listed. -/
theorem exists_leading_of_arrange {ordered : List Named} (h : arrange m = .ok ordered) :
    ∃ first, leading m.name m.parameters [] (m.parameterOrder.getD []) = .ok first ∧
      ordered = first ++ m.parameters.filter (·.1 ∉ m.parameterOrder.getD []) := by
  rw [arrange] at h
  cases hl : leading m.name m.parameters [] (m.parameterOrder.getD []) with
  | error e => simp [hl] at h
  | ok first =>
      refine ⟨first, rfl, (Except.ok.inj (hl ▸ h)).symm.trans ?_⟩
      refine congrArg (first ++ ·) (List.filter_congr fun named _ => ?_)
      simp

/-- No parameter comes up by putting the declared ones in order. -/
theorem mem_of_mem_arrange {ordered : List Named} (h : arrange m = .ok ordered) {named : Named}
    (hn : named ∈ ordered) : named ∈ m.parameters := by
  obtain ⟨first, hl, rfl⟩ := exists_leading_of_arrange h
  rcases List.mem_append.mp hn with hn | hn
  · exact Keyed.mem_of_get? ((mem_leading_iff hl named).mp hn).2.2
  · exact (List.mem_filter.mp hn).1

/-- The ordered parameters are the declared ones. -/
theorem mem_arrange_iff (hd : Keyed.Distinct m.parameters) {ordered : List Named}
    (h : arrange m = .ok ordered) (named : Named) : named ∈ ordered ↔ named ∈ m.parameters := by
  obtain ⟨first, hl, rfl⟩ := exists_leading_of_arrange h
  rw [List.mem_append, List.mem_filter, mem_leading_iff hl, Keyed.get?_eq_some_iff hd]
  by_cases hn : named.1 ∈ m.parameterOrder.getD [] <;> simp [hn]

end Binding

end RestBindings
