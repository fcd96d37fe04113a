import RestBindings.Proofs.Calls
import RestBindings.Proofs.RoundTrip

/-!
# The members of an interface do not clash

Methods of one type may share a name when they differ in the number of their parameters. The
members of an interface always differ in one of the two:

* a call takes its request body, every declared parameter and, for a callback, one argument more
  (`arity`), so that the calls of one method differ in their number of parameters
  (`arity_injective`);
* a method is declared under its name once for every wanted shape (`overloads_membersOf`), and in a
  document that is accepted the name of a method is its key, so that the calls of two methods
  differ in their names (`nodup_overloads`).
-/

namespace RestBindings

/-- What tells the methods of a type apart: the name and the number of parameters. -/
def Source.Declaration.overload? : Source.Declaration → Option (String × Nat)
  | .method _ name parameters _ => some (name, parameters.length)
  | _ => none

namespace Binding

open Discovery Source Signature

variable {package : String} {table : TypeTable} {shapes : Shapes} {m : Method}

/-- The number of parameters of the call of a method in a shape. -/
def arity (m : Method) : Shape → Nat
  | .sync => m.request.toList.length + m.parameters.length
  | .async => m.request.toList.length + m.parameters.length + 1

/-- The calls of a method in different shapes take different numbers of parameters. -/
theorem arity_injective (m : Method) : Function.Injective (arity m) := by
  intro a b hab
  cases a <;> cases b <;> simp [arity] at hab ⊢

/-- No shape is wanted twice. -/
theorem Shapes.nodup_toList (shapes : Shapes) : shapes.toList.Nodup :=
  List.Nodup.filter _ (by decide)

/-- What is called with a name of its own, in each shape with another number of parameters, is
told apart. -/
theorem nodup_overloads {methods : List (String × Method)} (h : Keyed.Distinct methods)
    (shapes : Shapes) :
    (methods.flatMap fun method =>
      shapes.toList.map fun shape => (method.1, arity method.2 shape)).Nodup := by
  refine List.nodup_flatMap.mpr ⟨fun method _ => ?_, ?_⟩
  · refine shapes.nodup_toList.map fun a b hab => ?_
    exact arity_injective method.2 (Prod.mk.inj hab).2
  · refine (List.pairwise_map.mp h).imp fun {one other} hne => ?_
    -- the calls of two methods differ in the name
    intro overload hone hother
    obtain ⟨a, -, rfl⟩ := List.mem_map.mp hone
    obtain ⟨b, -, hb⟩ := List.mem_map.mp hother
    exact hne (Prod.mk.inj hb).1.symm

namespace Interface

/-- A member declares the method of its signature. -/
theorem overloads_memberOf (m : Method) (s : Signature) :
    (memberOf m s).filterMap Declaration.overload? = [(s.name, s.arguments.length)] := by
  simp [memberOf, List.filterMap_cons, Declaration.overload?, argumentTexts]

/-- **The members of a method**: one for every wanted shape, with the name of the method and the
number of parameters of its call in that shape. -/
theorem overloads_membersOf (hs : shapes ≠ .neither) (hm : Keyed.Distinct m.parameters)
    {ds : List Declaration} (h : membersOf table shapes m = .ok ds) :
    ds.filterMap Declaration.overload? =
      shapes.toList.map fun shape => (m.name, arity m shape) := by
  rw [membersOf] at h
  cases hsignatures : signaturesOf table shapes m with
  | error e => simp [hsignatures] at h
  | ok signatures =>
      obtain rfl : signatures.flatMap (memberOf m) = ds := by simpa [hsignatures] using h
      obtain ⟨ordered, bodies, arguments, ha, hb, hp, rfl⟩ :=
        (signaturesOf_eq_ok_iff hs).mp hsignatures
      have hbodies : bodies.length = m.request.toList.length := hb.length_eq.symm
      have harguments : arguments.length = m.parameters.length := by
        rw [← hp.length_eq, (perm_of_arrange hm ha).length_eq]
      have harity (shape : Shape) :
          (bodies ++ arguments ++ callbackOf m.response shape).length = arity m shape := by
        cases shape <;> simp [callbackOf, arity, hbodies, harguments, Nat.add_assoc]
      simp only [List.filterMap_flatMap, overloads_memberOf, List.flatMap_map, harity]
      exact List.flatMap_pure_eq_map _ _

/-- The members of all methods are the members of each. -/
theorem overloads_declarations {r : Resource} (hs : shapes ≠ .neither)
    (hr : ∀ method ∈ r.methods, Keyed.Distinct method.2.parameters) {ds : List Declaration}
    (h : declarations package table shapes r = .ok ds) :
    ds.filterMap Declaration.overload? = r.methods.flatMap fun method =>
      shapes.toList.map fun shape => (method.2.name, arity method.2 shape) := by
  rw [declarations] at h
  cases hall : Traversal.all (membersOf table shapes) (r.methods.map Prod.snd) with
  | error e => simp [hall] at h
  | ok members =>
      obtain rfl : opening package r ++ members.flatten ++ [.endType] = ds := by
        simpa [hall] using h
      have hopening : (opening package r).filterMap Declaration.overload? = [] := rfl
      have hend : [Declaration.endType].filterMap Declaration.overload? = [] := rfl
      rw [Traversal.all_eq_ok_iff, List.forall₂_map_left_iff] at hall
      have hmembers : List.Forall₂ (fun method ds =>
          (shapes.toList.map fun shape => (method.2.name, arity method.2 shape)) =
            ds.filterMap Declaration.overload?) r.methods members :=
        ((List.forall₂_and_left _ _).mpr ⟨hr, hall⟩).imp fun method ds hds =>
          (overloads_membersOf hs hds.1 hds.2).symm
      rw [List.filterMap_append, List.filterMap_append, hopening, hend, List.nil_append,
        List.append_nil, List.filterMap_flatten, List.flatMap_def,
        map_eq_map_of_forall₂ hmembers]

/-- An interface that can be built is the text of its declarations. -/
theorem exists_declarations_of_source {r : Resource} (hs : shapes ≠ .neither) {text : String}
    (h : source package table shapes r = .ok text) :
    ∃ ds, declarations package table shapes r = .ok ds ∧ textOfDeclarations ds = .ok text := by
  have horBoth : shapes.orBoth = shapes := if_neg hs
  rw [source, horBoth] at h
  cases hds : declarations package table shapes r with
  | error e => simp [hds] at h
  | ok ds =>
      cases htext : textOfDeclarations ds with
      | error cause => simp [hds, htext] at h
      | ok written =>
          obtain rfl : written = text := by simpa [hds, htext] using h
          exact ⟨ds, rfl, htext⟩

/-- **The members of an interface never clash.** In an accepted document every interface that can
be built declares exactly one member for each method and wanted shape, under the key of the method
and with as many parameters as its call takes in the shape; no two of its members agree in name
and number of parameters. -/
theorem members_distinct {source : String} {v : Value} {d : Document}
    {entry : String × Resource} {text : String} (hd : accept source v = .ok d)
    (he : entry ∈ d.resources) (hs : shapes ≠ .neither)
    (h : Interface.source package table shapes entry.2 = .ok text) :
    ∃ ds, declarations package table shapes entry.2 = .ok ds ∧
      textOfDeclarations ds = .ok text ∧
      ds.filterMap Declaration.overload? = (entry.2.methods.flatMap fun method =>
        shapes.toList.map fun shape => (method.1, arity method.2 shape)) ∧
      (ds.filterMap Declaration.overload?).Nodup := by
  have hwell : entry.2.WellKeyed := (Document.wellKeyed_of_accept hd).eachResource entry he
  obtain ⟨-, hnames, -⟩ := exists_of_readDocument (accept_eq_ok_iff.mp hd)
  obtain ⟨ds, hds, htext⟩ := exists_declarations_of_source hs h
  -- the parser has put the key of a method in the place of any name that it gives itself
  have hkeys : ds.filterMap Declaration.overload? = entry.2.methods.flatMap fun method =>
      shapes.toList.map fun shape => (method.1, arity method.2 shape) := by
    rw [overloads_declarations hs hwell.each hds]
    refine List.flatMap_congr fun method hm => ?_
    rw [hnames entry he method hm]
  exact ⟨ds, hds, htext, hkeys, hkeys ▸ nodup_overloads hwell.methods shapes⟩

/-- Two methods that give themselves each other's name, one of them with a request body. -/
def renamedValue : Value :=
  .mapping [(.text "baseUrl", .ofText "http://api/"),
    (.text "resources", .mapping [(.text "disks", .mapping [(.text "methods", .mapping [
      (.text "get", .mapping [(.text "name", .ofText "insert"),
        (.text "httpMethod", .ofText "GET"), (.text "path", .ofText "disks")]),
      (.text "insert", .mapping [(.text "name", .ofText "get"),
        (.text "httpMethod", .ofText "POST"), (.text "path", .ofText "disks"),
        (.text "request", .mapping [(.text "$ref", .ofText "Disk")])])])])])]

/-- The resource of these methods as it is read: they have the names of their keys. -/
def renamedResource : Resource where
  name := "disks"
  methods := [
    ("get", { name := "get", httpMethod := "GET", path := "disks", request := none,
              response := none, parameters := [], parameterOrder := none }),
    ("insert", { name := "insert", httpMethod := "POST", path := "disks",
                 request := some ⟨"Disk", "body"⟩, response := none, parameters := [],
                 parameterOrder := none })]

/-- The members of the two methods: for each method a call that returns and a call with a
callback. -/
theorem members_distinct_renamed :
    ∃ d text ds, accept "disks.json" renamedValue = .ok d ∧
      ("disks", renamedResource) ∈ d.resources ∧ Shapes.both ≠ .neither ∧
      Interface.source "api" .standard .both renamedResource = .ok text ∧
      textOfDeclarations ds = .ok text ∧
      ds.filterMap Declaration.overload? =
        [("get", 0), ("get", 1), ("insert", 1), ("insert", 2)] ∧
      (ds.filterMap Declaration.overload?).Nodup := by
  obtain ⟨d, hd, hresources⟩ : ∃ d, accept "disks.json" renamedValue = .ok d ∧
      d.resources = [("disks", renamedResource)] := ⟨_, rfl, rfl⟩
  have he : ("disks", renamedResource) ∈ d.resources := by simp [hresources]
  have hs : Shapes.both ≠ .neither := by decide
  obtain ⟨text, htext⟩ : Returns (Interface.source "api" .standard .both renamedResource) :=
    ⟨_, rfl⟩
  obtain ⟨ds, -, hwritten, hmembers, hnodup⟩ := members_distinct hd he hs htext
  exact ⟨d, text, ds, hd, he, hs, htext, hwritten, hmembers, hnodup⟩

end Interface

end Binding

end RestBindings
