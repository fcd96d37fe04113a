import RestBindings.Proofs.Calls
import RestBindings.Proofs.Documents
import RestBindings.Proofs.Identifiers

/-!
# Distinct variables in a generated call

The variables of a call are those of its request body, of the declared parameters and, in the
shape that delivers to a callback, `cb`. Their identifiers are made from the names of the
document, and nothing keeps two of them apart: `page-size` and `page_size` give one
identifier.

`nodup_variables_iff` says exactly when the variables of a call are distinct: when the names
of its method have distinct identifiers (`Method.SeparateVariables`) and, with a callback,
none of them has the identifier of the callback (`Method.LeavesCallback`). Where all names are
identifiers already, the names themselves decide.
-/

namespace RestBindings.Discovery

open Source

/-- The names that become variables of a call: that of the request body and those of the
declared parameters. -/
def Method.variableNames (m : Method) : List String :=
  m.request.toList.map RequestBody.parameterName ++ m.parameters.map Prod.fst

/-- The names of a method have distinct identifiers. -/
def Method.SeparateVariables (m : Method) : Prop :=
  (m.variableNames.map Identifier.ofName).Nodup

/-- No name of a method has the identifier of the callback. -/
def Method.LeavesCallback (m : Method) : Prop :=
  ∀ name ∈ m.variableNames,
    Identifier.ofName name ≠ .ok Binding.Signature.callbackIdentifier

instance (m : Method) : Decidable m.SeparateVariables :=
  inferInstanceAs (Decidable (m.variableNames.map Identifier.ofName).Nodup)

instance (m : Method) : Decidable m.LeavesCallback :=
  inferInstanceAs (Decidable (∀ name ∈ m.variableNames,
    Identifier.ofName name ≠ .ok Binding.Signature.callbackIdentifier))

end RestBindings.Discovery

namespace RestBindings.Binding

open Discovery Source

/-- The variables of a call, in the order of its arguments. -/
def Signature.variables (s : Signature) : List String :=
  s.arguments.map Argument.identifier

variable {table : TypeTable} {shapes : Shapes} {m : Method}

/-! ## Distinct variables -/

/-- The variables of a call in front of the callback are the identifiers of the names of its
method, in some order. -/
theorem perm_map_ofName {ordered : List Named} {bodies arguments : List Argument}
    (hp : ordered.Perm m.parameters)
    (hb : List.Forall₂ (fun body a => Signature.bodyArgument body = .ok a)
      m.request.toList bodies)
    (ha : List.Forall₂ (fun named a => Signature.parameterArgument table m.name named = .ok a)
      ordered arguments) :
    (((bodies ++ arguments).map Argument.identifier).map Except.ok).Perm
      (m.variableNames.map Identifier.ofName) := by
  have hbodies : m.request.toList.map (fun body => Identifier.ofName body.parameterName) =
      bodies.map fun a => Except.ok a.identifier :=
    map_eq_map_of_forall₂ (hb.imp fun _ _ h => Signature.ofName_of_bodyArgument h)
  have harguments : ordered.map (fun named => Identifier.ofName named.1) =
      arguments.map fun a => Except.ok a.identifier :=
    map_eq_map_of_forall₂ (ha.imp fun _ _ h => (Signature.parameterArgument_eq_ok h).1)
  have hleft : ((bodies ++ arguments).map Argument.identifier).map Except.ok =
      m.request.toList.map (fun body => Identifier.ofName body.parameterName) ++
        ordered.map fun named => Identifier.ofName named.1 := by
    rw [hbodies, harguments, List.map_map, List.map_append]
    rfl
  have hright : m.variableNames.map Identifier.ofName =
      m.request.toList.map (fun body => Identifier.ofName body.parameterName) ++
        m.parameters.map fun named => Identifier.ofName named.1 := by
    rw [Method.variableNames, List.map_append, List.map_map, List.map_map]
    rfl
  rw [hleft, hright]
  exact List.Perm.append_left _ (hp.map _)

/-- Names that are identifiers are separate exactly when the request body is named like no
parameter. -/
theorem separateVariables_iff (hm : m.WellKeyed)
    (hn : ∀ name ∈ m.variableNames, Identifier.isIdentifier name.toList = true) :
    m.SeparateVariables ↔
      ∀ body ∈ m.request, body.parameterName ∉ m.parameters.map Prod.fst := by
  have hself : m.variableNames.map Identifier.ofName = m.variableNames.map Except.ok :=
    List.map_congr_left fun name hname => Identifier.ofName_of_isIdentifier (hn name hname)
  have hok : Function.Injective (Except.ok : String → Except Identifier.Error String) :=
    fun _ _ h => Except.ok.inj h
  have hkeys : (m.parameters.map Prod.fst).Nodup := hm
  rw [Method.SeparateVariables, hself, List.nodup_map_iff hok, Method.variableNames]
  cases m.request with
  | none => simpa using hkeys
  | some body =>
      simp only [Option.toList_some, List.map_cons, List.map_nil, List.singleton_append,
        List.nodup_cons, Option.mem_some_iff, forall_eq']
      exact and_iff_left hkeys

/-- Names that are identifiers leave the callback its identifier exactly when none of them is
that identifier. -/
theorem leavesCallback_iff
    (hn : ∀ name ∈ m.variableNames, Identifier.isIdentifier name.toList = true) :
    m.LeavesCallback ↔ Signature.callbackIdentifier ∉ m.variableNames := by
  constructor
  · intro h hmem
    exact h _ hmem (Identifier.ofName_of_isIdentifier (hn _ hmem))
  · intro h name hname heq
    rw [Identifier.ofName_of_isIdentifier (hn name hname)] at heq
    exact h (Except.ok.inj heq ▸ hname)

/-- **When the variables of a call are distinct.** In every shape this is so exactly when the
names of the method have distinct identifiers and, where the shape has a callback, none has the
identifier of the callback. If all these names are identifiers already, then the first means
that the request body is named like no parameter, and the second that nothing is named like the
callback. -/
theorem nodup_variables_iff (hm : m.WellKeyed) {signatures : List Signature}
    (h : signaturesOf table shapes m = .ok signatures) :
    List.Forall₂ (fun shape s => s.variables.Nodup ↔
        m.SeparateVariables ∧ (shape = .async → m.LeavesCallback)) shapes.toList signatures ∧
      ((∀ name ∈ m.variableNames, Identifier.isIdentifier name.toList = true) →
        (m.SeparateVariables ↔
          ∀ body ∈ m.request, body.parameterName ∉ m.parameters.map Prod.fst) ∧
        (m.LeavesCallback ↔ Signature.callbackIdentifier ∉ m.variableNames)) := by
  refine ⟨?_, fun hn => ⟨separateVariables_iff hm hn, leavesCallback_iff hn⟩⟩
  obtain ⟨ordered, hp, hall⟩ := forall₂_signaturesOf hm h
  refine hall.imp fun shape s hs => ?_
  obtain ⟨bodies, arguments, hb, ha, rfl⟩ := hs
  have hok : Function.Injective (Except.ok : String → Except Identifier.Error String) :=
    fun _ _ h => Except.ok.inj h
  have hperm := perm_map_ofName hp hb ha
  have hnodup : ((bodies ++ arguments).map Argument.identifier).Nodup ↔
      m.SeparateVariables := by
    rw [← List.nodup_map_iff hok, hperm.nodup_iff]
    rfl
  have hcallback : Signature.callbackIdentifier ∉
      (bodies ++ arguments).map Argument.identifier ↔ m.LeavesCallback := by
    rw [← List.mem_map_of_injective hok, hperm.mem_iff]
    simp [Method.LeavesCallback]
  cases shape with
  | sync =>
      simp only [Signature.variables, Signature.callbackOf, List.append_nil, hnodup]
      simp
  | async =>
      rw [Signature.variables, Signature.callbackOf, List.map_append, List.map_singleton,
        List.nodup_append_comm, List.singleton_append, List.nodup_cons, hnodup, and_comm]
      simp only [forall_const]
      exact and_congr_right fun _ => hcallback

/-- A method with a request body and query parameters of the given names. -/
def methodNaming (body : String) (parameters : List String) : Method where
  name := "list"
  httpMethod := "POST"
  path := "items"
  request := some ⟨"Item", body⟩
  response := none
  parameters := parameters.map fun name =>
    (name, ⟨.primitive "string" none, some "query", false⟩)
  parameterOrder := none

/-- Names that are different identifiers, none of them that of the callback, give distinct
variables in both shapes. -/
theorem nodup_variables_zones :
    (methodNaming "item" ["zone", "maxResults"]).WellKeyed ∧
      (∀ name ∈ (methodNaming "item" ["zone", "maxResults"]).variableNames,
        Identifier.isIdentifier name.toList = true) ∧
      ∃ signatures, signaturesOf .standard .both (methodNaming "item" ["zone", "maxResults"]) =
          .ok signatures ∧
        ∀ s ∈ signatures, s.variables.Nodup := by
  have hwell : (methodNaming "item" ["zone", "maxResults"]).WellKeyed := by decide
  have hnames : ∀ name ∈ (methodNaming "item" ["zone", "maxResults"]).variableNames,
      Identifier.isIdentifier name.toList = true := by decide
  obtain ⟨signatures, h⟩ : Returns (signaturesOf .standard .both
    (methodNaming "item" ["zone", "maxResults"])) := ⟨_, rfl⟩
  obtain ⟨hall, hself⟩ := nodup_variables_iff hwell h
  obtain ⟨hseparate, hleaves⟩ := hself hnames
  refine ⟨hwell, hnames, signatures, h, fun s hs => ?_⟩
  obtain ⟨shape, -, hiff⟩ := exists_of_mem_of_forall₂ hall hs
  exact hiff.mpr ⟨hseparate.mpr (by decide), fun _ => hleaves.mpr (by decide)⟩

/-- **Variables that clash**: the request body is named like a parameter, two parameters differ
in a character that no identifier holds, and one is named like the callback. The calls can be
built, and in either shape two variables are the same. -/
theorem clashing_variables :
    (methodNaming "body" ["body", "page-size", "page_size", "cb"]).WellKeyed ∧
      (signaturesOf .standard .both
          (methodNaming "body" ["body", "page-size", "page_size", "cb"])).map
          (List.map Signature.variables) =
        .ok [["body", "body", "page_size", "page_size", "cb"],
          ["body", "body", "page_size", "page_size", "cb", "cb"]] ∧
      ¬ ["body", "body", "page_size", "page_size", "cb"].Nodup ∧
      ¬ ["body", "body", "page_size", "page_size", "cb", "cb"].Nodup :=
  ⟨by decide, rfl, by decide, by decide⟩

end RestBindings.Binding
