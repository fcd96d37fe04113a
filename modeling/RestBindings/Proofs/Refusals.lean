import RestBindings.Proofs.Selection
import RestBindings.Proofs.Stopping

/-!
# What generation may fail with

Generation is meant to fail with a type that has no meaning, a parameter that is not declared, or a
unit that cannot be written (`Foreseen`). A variable that gets no identifier is not among these.

* `Nameless` says of a method which name this is: the names in its order are declared, and the
  variables in front of it have types and identifiers. The call of a method fails with a foreseen
  error, or because of such a name (`sharedCall_eq_error`, `Nameless.sharedCall_eq`).
* `LosesName` says the same of a run: the first unit that is blocked is an interface, and the first
  method of it that has no call is nameless.
* `generate_foreseen_iff`: a run into memory that has a package fails with foreseen errors only
  exactly when it loses no name, so it does when every variable of its document has a starter.
-/

namespace RestBindings.Binding

open Discovery Output Source
open Source.Identifier (HasStarter lossOf)

/-- The errors that are promised of generation. -/
inductive Foreseen : Error → Prop
  | unsupportedType (type : String) (context : Option String) :
      Foreseen (.failure (.unsupportedType type context))
  | undeclaredParameter (parameter : String) (method : Option String) :
      Foreseen (.failure (.undeclaredParameter parameter method))
  | output (path : String) (cause : Option String) : Foreseen (.failure (.output path cause))
  | collision (path : String) : Foreseen (.failure (.collision path))

/-- The variables of a method keep a character each. -/
structure WellNamed (m : Method) : Prop where
  parameters : ∀ named ∈ m.parameters, HasStarter named.1
  body : ∀ body ∈ m.request, HasStarter body.parameterName

/-- The first thing that keeps a method from having a call is that a name gives no identifier. -/
inductive Nameless (table : TypeTable) (m : Method) : String → Prop
  /-- The name is that of the request body. -/
  | body {body : RequestBody}
      (declared : ∀ name ∈ m.parameterOrder.getD [], name ∈ m.parameters.map Prod.fst)
      (requested : m.request = some body) (lost : ¬ HasStarter body.parameterName) :
      Nameless table m body.parameterName
  /-- The name is that of a parameter; those in front of it become arguments. -/
  | parameter {front back : List Named} {named : Named}
      (arranged : arrange m = .ok (front ++ named :: back))
      (bodyNamed : ∀ body ∈ m.request, HasStarter body.parameterName)
      (before : ∀ other ∈ front, table.Covers other.2.descriptor ∧ HasStarter other.1)
      (typed : table.Covers named.2.descriptor) (lost : ¬ HasStarter named.1) :
      Nameless table m named.1

variable {table : TypeTable} {m : Method} {e : Error}

/-- A method whose variables keep a character each is not nameless. -/
theorem WellNamed.not_nameless (h : WellNamed m) (name : String) : ¬ Nameless table m name := by
  rintro (⟨-, requested, lost⟩ | ⟨arranged, -, -, -, lost⟩)
  · exact lost (h.body _ requested)
  · exact lost (h.parameters _ (mem_of_mem_arrange arranged (by simp)))

/-! ## Calls -/

namespace Signature

/-- A variable fails to get an identifier exactly when its name has no starter. -/
theorem identifierFor_eq_error_iff {name : String} :
    identifierFor name = .error e ↔ ¬ HasStarter name ∧ e = .identifier (lossOf name) := by
  unfold identifierFor
  cases hname : Source.Identifier.ofName name with
  | ok identifier =>
      have hstarter : HasStarter name :=
        (Source.Identifier.returns_ofName_iff name).mp ⟨identifier, hname⟩
      simp [hstarter]
  | error cause =>
      obtain ⟨hlost, rfl⟩ := Source.Identifier.ofName_eq_error_iff.mp hname
      simp [hlost, eq_comm]

/-- The request body fails to be added exactly when its variable gets no identifier. -/
theorem withBody_eq_error_iff {s : Signature} {request : Option RequestBody} :
    s.withBody request = .error e ↔
      ∃ body, request = some body ∧ identifierFor body.parameterName = .error e := by
  cases request with
  | none => simp [withBody]
  | some body =>
      simp only [Option.some.injEq, exists_eq_left', withBody, bodyArgument]
      cases identifierFor body.parameterName <;> simp

/-- A parameter fails to become an argument because it has no type, which is foreseen, or because
it gets no identifier. -/
theorem parameterArgument_eq_error {call : String} {named : Named}
    (h : parameterArgument table call named = .error e) :
    Foreseen e ∨
      table.Covers named.2.descriptor ∧ ¬ HasStarter named.1 ∧ e = .identifier (lossOf named.1) := by
  rw [parameterArgument] at h
  cases htype : table.typeOfParameter (some (call ++ "." ++ named.1)) named.2 with
  | error cause =>
      rw [htype] at h
      cases h
      obtain ⟨type, format, -, -, rfl⟩ := (TypeTable.typeOf_eq_error_iff table _).mp
        ((TypeTable.typeOfParameter_eq_error_iff table _).mp htype)
      exact .inl (.unsupportedType type _)
  | ok type =>
      have hcovers := (TypeTable.returns_typeOfParameter_iff table _ _).mp ⟨type, htype⟩
      rw [htype] at h
      cases hname : identifierFor named.1 with
      | ok identifier =>
          simp only [hname] at h
          cases h
      | error cause =>
          simp only [hname] at h
          cases h
          obtain ⟨hlost, rfl⟩ := identifierFor_eq_error_iff.mp hname
          exact .inr ⟨hcovers, hlost, rfl⟩

/-- A parameter that has a type and gets no identifier fails with the loss of its name. -/
theorem parameterArgument_of_lost {call : String} {named : Named}
    (typed : table.Covers named.2.descriptor) (lost : ¬ HasStarter named.1) :
    parameterArgument table call named = .error (.identifier (lossOf named.1)) := by
  obtain ⟨type, htype⟩ :=
    (TypeTable.returns_typeOfParameter_iff table (some (call ++ "." ++ named.1)) _).mpr typed
  have hname := identifierFor_eq_error_iff.mpr ⟨lost, rfl⟩
  rw [parameterArgument, htype]
  simp only [hname]

end Signature

open Signature

/-- The call of a method fails with a foreseen error, or because the method is nameless. -/
theorem sharedCall_eq_error (h : sharedCall table m = .error e) :
    Foreseen e ∨ ∃ name, Nameless table m name ∧ e = .identifier (lossOf name) := by
  unfold sharedCall callTaking at h
  cases ha : arrange m with
  | error cause =>
      rw [ha] at h
      cases h
      obtain ⟨-, name, -, -, -, -, rfl⟩ := arrange_eq_error_iff.mp ha
      exact .inl (.undeclaredParameter name _)
  | ok parameters =>
      rw [ha] at h
      cases hb : (Signature.start m.name).withBody m.request with
      | error cause =>
          simp only [hb] at h
          cases h
          obtain ⟨body, hrequest, hname⟩ := withBody_eq_error_iff.mp hb
          obtain ⟨hlost, rfl⟩ := identifierFor_eq_error_iff.mp hname
          exact .inr ⟨_, .body (returns_arrange_iff.mp ⟨_, ha⟩) hrequest hlost, rfl⟩
      | ok s =>
          have hbody := (returns_withBody_iff _ _).mp ⟨s, hb⟩
          simp only [hb] at h
          rw [withParameters_eq, map_eq_error_iff, Traversal.all_eq_error_iff] at h
          obtain ⟨front, named, back, rfl, hfront, hnamed⟩ := h
          rcases parameterArgument_eq_error hnamed with hforeseen | ⟨typed, lost, rfl⟩
          · exact .inl hforeseen
          · have hbefore : ∀ other ∈ front,
                table.Covers other.2.descriptor ∧ HasStarter other.1 :=
              fun other ho => (returns_parameterArgument_iff table _ other).mp (hfront other ho)
            exact .inr ⟨_, .parameter ha hbody hbefore typed lost, rfl⟩

/-- The call of a nameless method fails with the loss of its name. -/
theorem Nameless.sharedCall_eq {name : String} (h : Nameless table m name) :
    sharedCall table m = .error (.identifier (lossOf name)) := by
  cases h with
  | body declared requested lost =>
      obtain ⟨parameters, ha⟩ := returns_arrange_iff.mpr declared
      have hb : (Signature.start m.name).withBody m.request = .error (.identifier (lossOf _)) :=
        withBody_eq_error_iff.mpr ⟨_, requested, identifierFor_eq_error_iff.mpr ⟨lost, rfl⟩⟩
      unfold sharedCall callTaking
      rw [ha]
      simp only [hb]
  | @parameter front back named arranged bodyNamed before typed lost =>
      obtain ⟨s, hb⟩ := (returns_withBody_iff (Signature.start m.name) _).mpr bodyNamed
      unfold sharedCall callTaking
      rw [arranged]
      simp only [hb]
      rw [withParameters_eq, map_eq_error_iff, Traversal.all_eq_error_iff]
      exact ⟨front, named, back, rfl,
        fun other ho => (returns_parameterArgument_iff table _ other).mpr (before other ho),
        parameterArgument_of_lost typed lost⟩

/-! ## Units -/

/-- The source of an interface fails exactly as the first of its methods that has no call. -/
theorem Interface.source_eq_error_iff (package : String) (shapes : Shapes) {r : Resource} :
    Interface.source package table shapes r = .error e ↔
      ∃ front m back, r.methods.map Prod.snd = front ++ m :: back ∧
        (∀ other ∈ front, Returns (sharedCall table other)) ∧ sharedCall table m = .error e := by
  have hsource : Interface.source package table shapes r =
      Interface.source package table shapes.orBoth r := by
    have hidem : shapes.orBoth.orBoth = shapes.orBoth := if_neg shapes.orBoth_ne_neither
    unfold Interface.source
    rw [hidem]
  rw [hsource, Interface.source_eq package r shapes.orBoth_ne_neither, map_eq_error_iff,
    Traversal.all_eq_error_iff]

/-! ## Runs -/

variable {options : Options} {package : String} {d : Document} {p : Progress Memory.Units}

/-- A run stops at an interface, at its first method without a call, for want of an identifier for
a name. -/
inductive LosesName (options : Options) (package : String) (d : Document)
    (p : Progress Memory.Units) (name : String) : Prop
  | intro {k : Nat} {entry : String × Resource} {front back : List Method} {m : Method}
      (found : d.resources[k]? = some entry)
      (stops : FirstBlocked p (unitsIn options package d) (d.schemas.length + k)
        (interfaceUnit options package entry.2))
      (methods : entry.2.methods.map Prod.snd = front ++ m :: back)
      (before : ∀ other ∈ front, Returns (sharedCall options.table other))
      (nameless : Nameless options.table m name)

/-- A run that loses a name fails with this loss. -/
theorem LosesName.generate_eq (hp : Package.ofUrl d.baseUrl = .ok package) {name : String}
    (h : LosesName options package d p name) :
    (generate Memory.store options d p).1 = .error (.identifier (lossOf name)) := by
  obtain ⟨-, stops, methods, before, nameless⟩ := h
  have hsource := (Interface.source_eq_error_iff package options.shapes).mpr
    ⟨_, _, _, methods, before, nameless.sharedCall_eq⟩
  rw [generate_of_ok hp, Memory.emitAll_of_firstBlocked stops, blockingError, interfaceUnit]
  simp only [hsource]

/-- A run fails with a foreseen error, or because it loses a name. -/
theorem generate_eq_error (hp : Package.ofUrl d.baseUrl = .ok package)
    (h : (generate Memory.store options d p).1 = .error e) :
    Foreseen e ∨ ∃ name, LosesName options package d p name ∧ e = .identifier (lossOf name) := by
  obtain ⟨q, hq⟩ := exists_eq_of_fst h
  obtain ⟨k, unit, hfirst, -, he⟩ := generate_of_error_in_memory hp hq
  unfold blockingError at he
  split at he
  · next cause hsource =>
      subst he
      rcases schema_or_resource_of_getElem? hfirst.found with
        ⟨entry, -, rfl⟩ | ⟨i, entry, rfl, hentry, rfl⟩
      · obtain ⟨type, context, rfl⟩ := Model.source_eq_error hsource
        exact .inl (.unsupportedType type context)
      · obtain ⟨front, m, back, methods, before, hcall⟩ :=
          (Interface.source_eq_error_iff package options.shapes).mp hsource
        rcases sharedCall_eq_error hcall with hforeseen | ⟨name, nameless, rfl⟩
        · exact .inl hforeseen
        · exact .inr ⟨name, ⟨hentry, hfirst, methods, before, nameless⟩, rfl⟩
  · subst he
    exact .inl (.collision unit.path)

/-- A run over methods whose variables keep a character each loses no name. -/
theorem not_losesName_of_wellNamed
    (h : ∀ entry ∈ d.resources, ∀ method ∈ entry.2.methods, WellNamed method.2) (name : String) :
    ¬ LosesName options package d p name := by
  rintro ⟨found, -, methods, -, nameless⟩
  have hm : _ ∈ List.map Prod.snd _ := methods ▸ List.mem_append_right _ List.mem_cons_self
  obtain ⟨method, hmethod, rfl⟩ := List.mem_map.mp hm
  exact (h _ (List.mem_of_getElem? found) method hmethod).not_nameless name nameless

/-- **What generation may fail with.** A run of a document that has a package, with any options and
into any emitter in memory, fails with an unsupported type, an undeclared parameter or a path that
is taken, exactly when it loses no name: when the first unit that is blocked is not an interface
whose first method without a call wants an identifier for an empty name or for one that consists of
marks. A name that is lost is what the run fails with. No name is lost when every variable of the
document keeps a character. -/
theorem generate_foreseen_iff (options : Options) (p : Progress Memory.Units)
    (hp : Package.ofUrl d.baseUrl = .ok package) :
    ((∀ e, (generate Memory.store options d p).1 = .error e → Foreseen e) ↔
      ∀ name, ¬ LosesName options package d p name) ∧
    (∀ name, LosesName options package d p name →
      (generate Memory.store options d p).1 = .error (.identifier (lossOf name))) ∧
    ((∀ entry ∈ d.resources, ∀ method ∈ entry.2.methods, WellNamed method.2) →
      ∀ e, (generate Memory.store options d p).1 = .error e → Foreseen e) := by
  have hforeseen (hnone : ∀ name, ¬ LosesName options package d p name) (e : Error)
      (he : (generate Memory.store options d p).1 = .error e) : Foreseen e :=
    (generate_eq_error hp he).resolve_right fun ⟨name, hlost, _⟩ => hnone name hlost
  refine ⟨⟨fun h name hlost => ?_, hforeseen⟩, fun name hlost => hlost.generate_eq hp, ?_⟩
  · cases h _ (hlost.generate_eq hp)
  · intro hnamed
    exact hforeseen (not_losesName_of_wellNamed hnamed)

/-! ## A name that is lost -/

/-- A method with one parameter of the given name. -/
def methodTaking (name : String) : Method where
  name := "m"
  httpMethod := "GET"
  path := "x"
  request := none
  response := none
  parameters := [(name, ⟨.primitive "string" none, none, false⟩)]
  parameterOrder := none

/-- A document whose only method is this one. -/
def documentTaking (name : String) : Document :=
  { emptySchemas [] with resources := [("r", ⟨"r", [("m", methodTaking name)]⟩)] }

/-- A value that describes this document. -/
def valueTaking (name : String) : Value :=
  .mapping [(.text "baseUrl", .ofText "http://api/"),
    (.text "resources", .mapping [(.text "r", .mapping [(.text "methods", .mapping
      [(.text "m", .mapping [(.text "httpMethod", .ofText "GET"), (.text "path", .ofText "x"),
        (.text "parameters", .mapping
          [(.text name, .mapping [(.text "type", .ofText "string")])])])])])])]

/-- The document that takes a page token loses no name: into an emitter that has taken the path of
its interface it fails, and with an error that is promised. -/
theorem generate_foreseen_pageToken :
    Package.ofUrl (documentTaking "pageToken").baseUrl = .ok "api" ∧
      ∃ e, (generate Memory.store .standard (documentTaking "pageToken")
        ⟨["api/R.java"], []⟩).1 = .error e ∧ Foreseen e := by
  have hp : Package.ofUrl (documentTaking "pageToken").baseUrl = .ok "api" := ofUrl_disksDocument
  have hrun : (generate Memory.store .standard (documentTaking "pageToken")
      ⟨["api/R.java"], []⟩).1 = .error (.failure (.collision "api/R.java")) := by
    decide +kernel
  have hnamed : ∀ entry ∈ (documentTaking "pageToken").resources,
      ∀ method ∈ entry.2.methods, WellNamed method.2 := by
    intro entry he method hm
    obtain rfl := List.mem_singleton.mp he
    obtain rfl := List.mem_singleton.mp hm
    refine ⟨fun named hn => ?_, nofun⟩
    obtain rfl := List.mem_singleton.mp hn
    exact ⟨'p', by decide, by decide⟩
  obtain ⟨-, -, hforeseen⟩ := generate_foreseen_iff .standard ⟨["api/R.java"], []⟩ hp
  exact ⟨hp, _, hrun, hforeseen hnamed _ hrun⟩

/-- An accepted document whose only parameter is named by a mark: generation fails, and with no
error that is promised. -/
theorem generate_mark_not_foreseen :
    accept "mark.json" (valueTaking "\u0301") = .ok (documentTaking "\u0301") ∧
      Package.ofUrl (documentTaking "\u0301").baseUrl = .ok "api" ∧
      (generate Memory.store .standard (documentTaking "\u0301") (.start [])).1 =
        .error (.identifier .nothingLeft) ∧
      ¬ Foreseen (.identifier .nothingLeft) := by
  refine ⟨by decide +kernel, ofUrl_disksDocument, by decide +kernel, nofun⟩

end RestBindings.Binding
