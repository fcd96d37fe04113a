import RestBindings.Binding.Interface
import RestBindings.Binding.Model
import RestBindings.Proofs.Identifiers
import RestBindings.Proofs.Typing
import RestBindings.Proofs.Writing

/-!
# When the source of a unit can be built

* The class of a schema can be built exactly when the table covers every property that the
  class map leaves to it (`Model.returns_source_iff`).
* The interface of a resource can be built exactly when each of its methods is bindable
  (`Interface.returns_source_iff`): its order names declared parameters, the table covers its
  parameters, and its variables keep a character (`Bindable`). Which shapes are wanted makes
  no difference, because at least one always is.

Neither depends on the package: the writer refuses no unit (`Proofs.Writing`).
-/

namespace RestBindings

open Discovery

namespace Binding

open Source.Identifier (HasStarter)

/-! ## Calls -/

namespace Signature

variable (table : TypeTable)

/-- A variable has an identifier exactly when a starter remains of its name. -/
theorem returns_identifierFor_iff (name : String) :
    Returns (identifierFor name) ↔ HasStarter name := by
  rw [← Source.Identifier.returns_ofName_iff]
  unfold identifierFor
  cases Source.Identifier.ofName name <;> simp

/-- The request body can be added exactly when its variable has an identifier. -/
theorem returns_withBody_iff (s : Signature) (request : Option RequestBody) :
    Returns (s.withBody request) ↔ ∀ body ∈ request, HasStarter body.parameterName := by
  cases request with
  | none => simp [withBody]
  | some body =>
      simp only [Option.mem_some_iff, forall_eq']
      rw [← returns_identifierFor_iff, withBody, bodyArgument]
      cases identifierFor body.parameterName <;> simp

/-- A parameter becomes an argument exactly when it has a type and an identifier. -/
theorem returns_parameterArgument_iff (call : String) (named : Named) :
    Returns (parameterArgument table call named) ↔
      table.Covers named.2.descriptor ∧ HasStarter named.1 := by
  rw [← TypeTable.returns_typeOfParameter_iff table (some (call ++ "." ++ named.1)),
    ← returns_identifierFor_iff, parameterArgument]
  cases table.typeOfParameter (some (call ++ "." ++ named.1)) named.2 with
  | error e => simp
  | ok type => cases identifierFor named.1 <;> simp

/-- Parameters are added as their arguments, and fail as the first that becomes none. -/
theorem withParameters_eq (s : Signature) (parameters : List Named) :
    s.withParameters table parameters =
      (Traversal.all (parameterArgument table s.name) parameters).map fun arguments =>
        { s with arguments := s.arguments ++ arguments } := by
  induction parameters generalizing s with
  | nil => simp [withParameters, extend, Traversal.all, Except.map]
  | cons named rest ih =>
      rw [Traversal.all]
      cases ha : parameterArgument table s.name named with
      | error e => simp [withParameters, extend, ha, Except.map]
      | ok a =>
          have hstep : s.withParameters table (named :: rest) =
              (s.add a).withParameters table rest := by
            rw [withParameters, extend, ha, withParameters]
          have hname : (s.add a).name = s.name := rfl
          rw [hstep, ih, hname]
          cases Traversal.all (parameterArgument table s.name) rest <;>
            simp [Except.map, add]

/-- Parameters can be added exactly when each of them becomes an argument. -/
theorem returns_withParameters_iff (s : Signature) (parameters : List Named) :
    Returns (s.withParameters table parameters) ↔
      ∀ named ∈ parameters, table.Covers named.2.descriptor ∧ HasStarter named.1 := by
  simp only [withParameters_eq, returns_map_iff, Traversal.returns_all_iff,
    returns_parameterArgument_iff]

end Signature

variable {table : TypeTable} {shapes : Shapes}

/-- A call can be built in any shape exactly when its body and its parameters can be
added. -/
theorem returns_signatureOf_iff (m : Method) (parameters : List Named) (shape : Shape) :
    Returns (signatureOf table m parameters shape) ↔
      (∀ body ∈ m.request, HasStarter body.parameterName) ∧
        ∀ named ∈ parameters, table.Covers named.2.descriptor ∧ HasStarter named.1 := by
  rw [← Signature.returns_withBody_iff (Signature.start m.name), signatureOf]
  cases (Signature.start m.name).withBody m.request with
  | error e => simp
  | ok s =>
      simp only [returns_ok, true_and]
      rw [← Signature.returns_withParameters_iff table s]
      cases s.withParameters table parameters <;> simp

/-- The calls of a method can be generated with a table. -/
structure Bindable (table : TypeTable) (m : Method) : Prop where
  /-- The order names declared parameters only. -/
  declared : ∀ name ∈ m.parameterOrder.getD [], name ∈ m.parameters.map Prod.fst
  /-- Every parameter has a type. -/
  typed : ∀ named ∈ m.parameters, table.Covers named.2.descriptor
  /-- Every parameter has an identifier. -/
  named : ∀ named ∈ m.parameters, HasStarter named.1
  /-- The body has an identifier. -/
  bodyNamed : ∀ body ∈ m.request, HasStarter body.parameterName

/-- In place of no shape both are wanted, so that some shape is. -/
theorem Shapes.orBoth_ne_neither (shapes : Shapes) : shapes.orBoth ≠ .neither := by
  unfold Shapes.orBoth
  split
  · decide
  · assumption

/-- In place of no shape both are generated, so some shape always is. -/
theorem Shapes.exists_mem_toList_orBoth (shapes : Shapes) :
    ∃ shape, shape ∈ shapes.orBoth.toList := by
  rcases shapes with ⟨_ | _, _ | _⟩
  · exact ⟨.sync, by decide⟩
  · exact ⟨.async, by decide⟩
  · exact ⟨.sync, by decide⟩
  · exact ⟨.sync, by decide⟩

/-- The calls of a method can be built exactly when it is bindable. -/
theorem returns_signaturesOf_iff {m : Method} (hd : Keyed.Distinct m.parameters) :
    Returns (signaturesOf table shapes.orBoth m) ↔ Bindable table m := by
  rw [signaturesOf]
  cases ha : arrange m with
  | error e =>
      have hnot : ¬ Returns (arrange m) := by simp [ha]
      simp only [not_returns_error, false_iff]
      exact fun h => hnot (returns_arrange_iff.mpr h.declared)
  | ok parameters =>
      have hdecl := returns_arrange_iff.mp ⟨parameters, ha⟩
      simp only [Traversal.returns_all_iff, returns_signatureOf_iff, mem_arrange_iff hd ha]
      constructor
      · intro h
        obtain ⟨shape, hs⟩ := shapes.exists_mem_toList_orBoth
        obtain ⟨hbody, hparams⟩ := h shape hs
        exact ⟨hdecl, fun n hn => (hparams n hn).1, fun n hn => (hparams n hn).2, hbody⟩
      · intro h shape _
        exact ⟨h.bodyNamed, fun n hn => ⟨h.typed n hn, h.named n hn⟩⟩

/-! ## Classes -/

namespace Model

variable {classes : ClassMap}

/-- A field has a type exactly when the class map names it or the table covers it. -/
theorem returns_fieldOf_iff (s : Schema) (property : String × Descriptor) :
    Returns (fieldOf table classes s property) ↔
      (property.1 ∉ classes.map Prod.fst → table.Covers property.2) := by
  rw [fieldOf, fieldType, ClassMap.typeOf?, ← Keyed.get?_eq_none_iff]
  cases Keyed.get? property.1 classes with
  | some type => simp
  | none =>
      simp only [forall_const]
      rw [← TypeTable.returns_typeOf_iff table (some (s.id ++ "." ++ property.1))]
      cases table.typeOf (some (s.id ++ "." ++ property.1)) property.2 <;> simp

/-- A field is a declaration of one line. -/
theorem isSome_memberLine_fieldOf {s : Schema} {property : String × Descriptor}
    {d : Source.Declaration} (h : fieldOf table classes s property = .ok d) :
    d.memberLine?.isSome := by
  rw [fieldOf] at h
  cases ht : fieldType table classes s property with
  | error e => simp [ht] at h
  | ok type =>
      obtain rfl : Source.Declaration.field type property.1 ["public"] = d := by
        simpa [ht] using h
      rfl

/-- All fields of a class are declarations of one line. -/
theorem isSome_memberLine_of_mem {s : Schema} {fields : List Source.Declaration}
    (h : Traversal.all (fieldOf table classes s) s.properties = .ok fields) :
    ∀ d ∈ fields, d.memberLine?.isSome := by
  intro d hd
  obtain ⟨property, -, hp⟩ := Traversal.exists_of_mem_all h hd
  exact isSome_memberLine_fieldOf hp

/-- The fields of a class can always be written. -/
theorem returns_textOf_fields (package : String) {s : Schema} {fields : List Source.Declaration}
    (h : Traversal.all (fieldOf table classes s) s.properties = .ok fields) :
    Returns (Source.textOfDeclarations (opening package s ++ fields ++ [.endType])) :=
  Source.returns_textOfDeclarations package (package ++ "." ++ s.id) "class" ["public"]
    [.imports ["java.util.List"], .emptyLine] (by simp [Source.Declaration.isHeader])
    (isSome_memberLine_of_mem h)

/-- The class of a schema can be built exactly when the table covers every property that the
class map leaves to it. -/
theorem returns_source_iff (package : String) (s : Schema) :
    Returns (source package table classes s) ↔
      ∀ property ∈ s.properties,
        property.1 ∉ classes.map Prod.fst → table.Covers property.2 := by
  simp only [← returns_fieldOf_iff s]
  rw [← Traversal.returns_all_iff, source, declarations]
  cases hf : Traversal.all (fieldOf table classes s) s.properties with
  | error e => simp
  | ok fields =>
      obtain ⟨text, ht⟩ := returns_textOf_fields package hf
      simp only [ht, returns_ok]

/-- A field fails to have a type with an unsupported type. -/
theorem fieldOf_eq_error {s : Schema} {property : String × Descriptor} {e : Error}
    (h : fieldOf table classes s property = .error e) :
    ∃ type context, e = .failure (.unsupportedType type context) := by
  rw [fieldOf, fieldType] at h
  cases hc : classes.typeOf? property.1 with
  | some type => simp [hc] at h
  | none =>
      simp only [hc] at h
      cases ht : table.typeOf (some (s.id ++ "." ++ property.1)) property.2 with
      | ok type => simp [ht] at h
      | error cause =>
          simp only [ht] at h
          cases h
          obtain ⟨type, -, -, -, rfl⟩ := (TypeTable.typeOf_eq_error_iff table _).mp ht
          exact ⟨type, _, rfl⟩

/-- The class of a schema fails to be built with an unsupported type. -/
theorem source_eq_error {package : String} {s : Schema} {e : Error}
    (h : source package table classes s = .error e) :
    ∃ type context, e = .failure (.unsupportedType type context) := by
  rw [source, declarations] at h
  cases hf : Traversal.all (fieldOf table classes s) s.properties with
  | error cause =>
      simp only [hf] at h
      cases h
      obtain ⟨-, property, -, -, -, hproperty⟩ := Traversal.all_eq_error_iff.mp hf
      exact fieldOf_eq_error hproperty
  | ok fields =>
      obtain ⟨text, ht⟩ := returns_textOf_fields package hf
      simp only [hf, ht] at h
      cases h

end Model

/-! ## Interfaces -/

namespace Interface

/-- The members of a method can be built exactly when its calls can. -/
theorem returns_membersOf_iff (m : Method) :
    Returns (membersOf table shapes m) ↔ Returns (signaturesOf table shapes m) := by
  rw [membersOf]
  cases signaturesOf table shapes m <;> simp

/-- The members of a method are declarations of one line. -/
theorem isSome_memberLine_membersOf {m : Method} {ds : List Source.Declaration}
    (h : membersOf table shapes m = .ok ds) {d : Source.Declaration} (hd : d ∈ ds) :
    d.memberLine?.isSome := by
  rw [membersOf] at h
  cases hs : signaturesOf table shapes m with
  | error e => simp [hs] at h
  | ok signatures =>
      obtain rfl : signatures.flatMap (memberOf m) = ds := by simpa [hs] using h
      obtain ⟨s, -, hd⟩ := List.mem_flatMap.mp hd
      simp only [memberOf, List.mem_cons, List.not_mem_nil, or_false] at hd
      rcases hd with rfl | rfl <;> rfl

/-- All members of an interface are declarations of one line. -/
theorem isSome_memberLine_of_mem {methods : List Method} {members : List (List Source.Declaration)}
    (h : Traversal.all (membersOf table shapes) methods = .ok members) :
    ∀ d ∈ members.flatten, d.memberLine?.isSome := by
  intro d hd
  obtain ⟨ds, hds, hd⟩ := List.mem_flatten.mp hd
  obtain ⟨m, -, hms⟩ := Traversal.exists_of_mem_all h hds
  exact isSome_memberLine_membersOf hms hd

/-- The interface of a resource can be built exactly when all its methods are bindable. -/
theorem returns_source_iff (package : String) {r : Resource}
    (hd : ∀ entry ∈ r.methods, Keyed.Distinct entry.2.parameters) :
    Returns (source package table shapes r) ↔ ∀ entry ∈ r.methods, Bindable table entry.2 := by
  have hmethods : (∀ entry ∈ r.methods, Bindable table entry.2) ↔
      Returns (Traversal.all (membersOf table shapes.orBoth) (r.methods.map Prod.snd)) := by
    simp only [Traversal.returns_all_iff, List.forall_mem_map, returns_membersOf_iff]
    exact forall₂_congr fun entry he => (returns_signaturesOf_iff (hd entry he)).symm
  rw [hmethods, source, declarations]
  cases hm : Traversal.all (membersOf table shapes.orBoth) (r.methods.map Prod.snd) with
  | error e => simp
  | ok members =>
      have hw := Source.returns_textOfDeclarations package (package ++ "." ++ typeName r)
        "interface" ["public"]
        [.imports [package ++ ".model.*"], .emptyLine, .imports ["java.util.List"], .emptyLine,
          .imports clientImports, .emptyLine]
        (by simp [Source.Declaration.isHeader]) (isSome_memberLine_of_mem hm)
      obtain ⟨text, ht⟩ := hw
      have ho : Source.textOfDeclarations
          (opening package r ++ members.flatten ++ [.endType]) = .ok text := ht
      simp only [ho, returns_ok]

end Interface

end Binding

end RestBindings
