import RestBindings.Proofs.Templates

/-!
# What a selection of shapes decides

The calls of a method come from one call without a shape: its name, the request body and the
parameters in order (`sharedCall`). A shape adds what the call returns, or the callback. All that
can fail lies in the shared call, so the selection of shapes decides neither whether an interface
can be built nor with which error it cannot; it only picks lines.

* `signaturesOf_eq`, `Interface.source_eq`: the calls of a method and the source of a resource, as
  images of what is shared.
* `Paired`: the two calls of a method. The second has the parameters of the first and then the
  callback, which takes what the first returns, or `Void` for a method without a response.
* `source_selection` has these for every package, table and resource.

The callback of a response is typed by the response itself and not by the text `void`: the two
differ for a response that refers to `void` (`voidResponse_callback`).
-/

namespace RestBindings.Binding

open Discovery Source Template

variable {table : TypeTable} {shapes : Shapes} {m : Method}

/-! ## What all calls of a method share -/

/-- The call of a method that takes the request body and the given parameters. -/
def callTaking (table : TypeTable) (m : Method) (parameters : List Named) :
    Except Error Signature :=
  match (Signature.start m.name).withBody m.request with
  | .error e => .error e
  | .ok s => s.withParameters table parameters

/-- The call of a method without a shape. -/
def sharedCall (table : TypeTable) (m : Method) : Except Error Signature :=
  match arrange m with
  | .error e => .error e
  | .ok parameters => callTaking table m parameters

/-- The shared call has the name of the method and returns nothing. -/
theorem of_sharedCall_eq_ok {s : Signature} (h : sharedCall table m = .ok s) :
    s.name = m.name ∧ s.returnType = "void" := by
  unfold sharedCall callTaking at h
  cases ha : arrange m with
  | error e => simp [ha] at h
  | ok parameters =>
      cases hb : (Signature.start m.name).withBody m.request with
      | error e => simp [ha, hb] at h
      | ok body =>
          simp only [ha, hb] at h
          obtain ⟨bodies, -, rfl⟩ := Signature.withBody_eq_ok_iff.mp hb
          obtain ⟨arguments, -, rfl⟩ := Signature.withParameters_eq_ok_iff.mp h
          exact ⟨rfl, rfl⟩

/-- Some shape is wanted. -/
theorem Shapes.toList_ne_nil (hs : shapes ≠ .neither) : shapes.toList ≠ [] := by
  obtain ⟨shape, hshape⟩ := shapes.exists_mem_toList_orBoth
  rw [Shapes.orBoth, if_neg hs] at hshape
  exact List.ne_nil_of_mem hshape

/-- A shape completes the call that takes body and parameters. -/
theorem signatureOf_eq (parameters : List Named) (shape : Shape) :
    signatureOf table m parameters shape =
      (callTaking table m parameters).map fun s => s.shaped m.response shape := by
  unfold signatureOf callTaking
  cases (Signature.start m.name).withBody m.request with
  | error e => rfl
  | ok s =>
      simp only
      cases s.withParameters table parameters <;> rfl

/-- **The calls of a method** are its shared call in every wanted shape, and fail as the shared
call does. -/
theorem signaturesOf_eq (hs : shapes ≠ .neither) :
    signaturesOf table shapes m =
      (sharedCall table m).map fun s => shapes.toList.map (s.shaped m.response) := by
  unfold signaturesOf sharedCall
  cases arrange m with
  | error e => rfl
  | ok parameters =>
      simp only
      rw [funext (signatureOf_eq parameters)]
      exact Traversal.all_shared _ _ (Shapes.toList_ne_nil hs)

/-! ## The two calls of a method -/

/-- The call of a method that returns its result, and the one that delivers it to a callback. -/
structure Paired (table : TypeTable) (m : Method) (sync async : Signature) : Prop where
  onlySync : signaturesOf table (.only .sync) m = .ok [sync]
  onlyAsync : signaturesOf table (.only .async) m = .ok [async]
  both : signaturesOf table .both m = .ok [sync, async]
  names : sync.name = m.name ∧ async.name = m.name
  returned : sync.returnType = responseOr "void" m.response
  nothing : async.returnType = "void"
  arguments : async.argumentTexts = sync.argumentTexts ++
    ["Callback<" ++ (if m.response = none then "Void" else sync.returnType) ++ "> cb"]

/-- The shared call in its two shapes. -/
theorem paired_of_sharedCall {s : Signature} (h : sharedCall table m = .ok s) :
    Paired table m (s.shaped m.response .sync) (s.shaped m.response .async) := by
  obtain ⟨hname, hresult⟩ := of_sharedCall_eq_ok h
  have hcalls {shapes : Shapes} (hs : shapes ≠ .neither) : signaturesOf table shapes m =
      .ok (shapes.toList.map (s.shaped m.response)) := by
    rw [signaturesOf_eq hs, h]
    rfl
  have hreturned : (s.shaped m.response .sync).returnType = responseOr "void" m.response := by
    unfold Signature.shaped Signature.returning responseOr
    cases m.response <;> rfl
  have htype : responseOr "Void" m.response =
      if m.response = none then "Void" else (s.shaped m.response .sync).returnType := by
    rw [hreturned]
    cases m.response <;> rfl
  refine ⟨hcalls (by decide), hcalls (by decide), hcalls (by decide), ⟨hname, hname⟩, hreturned,
    hresult, ?_⟩
  have hadded : (s.shaped m.response .async).argumentTexts =
      s.argumentTexts ++ [(Signature.callbackArgument m.response).text] := List.map_append
  rw [hadded, text_callbackArgument, htype]
  rfl

/-! ## Lines of an interface -/

namespace Interface

/-- The call that a signature of a method declares. -/
def callOf (m : Method) (s : Signature) : Call :=
  ⟨m.httpMethod, m.path, s.returnType, s.name, s.argumentTexts⟩

/-- The text of an interface with the given lines of members. -/
def textWith (package : String) (r : Resource) (members : List String) : String :=
  ended (openingLines package r ++ members ++ ["\x7d"])

/-- The calls of a method as its interface declares them. -/
def callsOf (shapes : Shapes) (m : Method) (s : Signature) : List Call :=
  shapes.toList.map fun shape => callOf m (s.shaped m.response shape)

/-- The members of a method declare its calls. -/
theorem membersOf_eq (hs : shapes ≠ .neither) :
    membersOf table shapes m =
      (sharedCall table m).map fun s => (callsOf shapes m s).flatMap Call.declarations := by
  have hdeclared (s : Signature) :
      (shapes.toList.map (s.shaped m.response)).flatMap (memberOf m) =
        (callsOf shapes m s).flatMap Call.declarations := by
    unfold callsOf
    rw [List.flatMap_map, List.flatMap_map]
    rfl
  unfold membersOf
  rw [signaturesOf_eq hs]
  cases sharedCall table m with
  | error e => rfl
  | ok s => exact congrArg Except.ok (hdeclared s)

/-- What is made of the parts of joined lists is joined. -/
theorem flatMap_flatten_zipWith {α β γ δ : Type} (f : γ → List δ) (g : α → β → List γ)
    (as : List α) (bs : List β) :
    (List.zipWith g as bs).flatten.flatMap f =
      (List.zipWith (fun a b => (g a b).flatMap f) as bs).flatten := by
  rw [List.flatMap_def, List.map_flatten, List.flatten_flatten, List.map_map, List.map_zipWith]
  rfl

/-- **The source of a resource** holds the lines of the shared calls of its methods in every wanted
shape, and fails as the first shared call that does. -/
theorem source_eq (package : String) (r : Resource) (hs : shapes ≠ .neither) :
    source package table shapes r =
      (Traversal.all (sharedCall table) (r.methods.map Prod.snd)).map fun calls =>
        textWith package r (List.zipWith (fun m s => (callsOf shapes m s).flatMap Call.lines)
          (r.methods.map Prod.snd) calls).flatten := by
  have horBoth : shapes.orBoth = shapes := if_neg hs
  have hmembers : membersOf table shapes = fun m =>
      (sharedCall table m).map fun s => (callsOf shapes m s).flatMap Call.declarations :=
    funext fun m => membersOf_eq hs
  unfold source declarations
  rw [horBoth, hmembers, Traversal.all_map]
  cases Traversal.all (sharedCall table) (r.methods.map Prod.snd) with
  | error e => rfl
  | ok calls =>
      simp only [Except.map]
      rw [← flatMap_flatten_zipWith, textOfDeclarations_opening, flatMap_flatten_zipWith]
      rfl

/-! ## Selections -/

/-- The lines of the two calls of a method. -/
def linesInShapes (m : Method) (s : Signature) : List String × List String :=
  ((callOf m (s.shaped m.response .sync)).lines, (callOf m (s.shaped m.response .async)).lines)

/-- The lines that a selection picks from the lines of two calls. -/
def pick (shapes : Shapes) (group : List String × List String) : List String :=
  (if shapes.sync then group.1 else []) ++ if shapes.async then group.2 else []

/-- The lines of the calls of a method are picked from those of its two calls. -/
theorem flatMap_callsOf (shapes : Shapes) (m : Method) (s : Signature) :
    (callsOf shapes m s).flatMap Call.lines = pick shapes (linesInShapes m s) := by
  unfold callsOf pick linesInShapes
  rw [Shapes.toList_eq]
  by_cases hs : shapes.sync = true <;> by_cases ha : shapes.async = true <;> simp [hs, ha]

/-- The lines of the two calls of each method, and the source in every selection of shapes, which
picks from them. -/
theorem exists_groups {r : Resource} {calls : List Signature}
    (h : Traversal.all (sharedCall table) (r.methods.map Prod.snd) = .ok calls)
    (package : String) :
    ∃ groups : List (List String × List String),
      List.Forall₂ (fun entry group => ∃ sync async, Paired table entry.2 sync async ∧
        group = ((callOf entry.2 sync).lines, (callOf entry.2 async).lines)) r.methods groups ∧
      ∀ shapes : Shapes, shapes ≠ .neither →
        source package table shapes r =
          .ok (textWith package r (groups.flatMap (pick shapes))) := by
  refine ⟨List.zipWith linesInShapes (r.methods.map Prod.snd) calls, ?_, ?_⟩
  · have hall := Traversal.all_eq_ok_iff.mp h
    rw [List.forall₂_map_left_iff] at hall
    rw [List.zipWith_map_left]
    exact forall₂_zipWith (fun _ _ hs => ⟨_, _, paired_of_sharedCall hs, rfl⟩) hall
  · intro shapes hs
    have hlines : (fun m s => (callsOf shapes m s).flatMap Call.lines) =
        fun m s => pick shapes (linesInShapes m s) := funext₂ fun m s => flatMap_callsOf shapes m s
    rw [source_eq package r hs, h, hlines, List.flatMap_def, List.map_zipWith]
    rfl

end Interface

open Interface

/-- **A selection of shapes only picks members.** For every package, table and resource, all
selections that want some shape fail alike, with one error. When they return, the text opens and
closes with the same lines, and in between stand the lines of the wanted calls, method by method in
document order: those of both shapes are those of the first followed by those of the second. The
call with a callback takes the parameters of the other one and then the callback, which is typed by
what the other one returns, or by `Void` when the method has no response. -/
theorem source_selection (package : String) (table : TypeTable) :
    (∀ (r : Resource) (S T : Shapes), S ≠ .neither → T ≠ .neither → ∀ e,
      source package table S r = .error e ↔ source package table T r = .error e) ∧
    (∀ (r : Resource) (S : Shapes) (text : String), S ≠ .neither →
      source package table S r = .ok text →
      ∃ groups : List (List String × List String),
        List.Forall₂ (fun entry group => ∃ sync async, Paired table entry.2 sync async ∧
          group = ((callOf entry.2 sync).lines, (callOf entry.2 async).lines)) r.methods groups ∧
        source package table (.only .sync) r =
          .ok (textWith package r (groups.flatMap Prod.fst)) ∧
        source package table (.only .async) r =
          .ok (textWith package r (groups.flatMap Prod.snd)) ∧
        source package table .both r =
          .ok (textWith package r (groups.flatMap fun group => group.1 ++ group.2))) ∧
    ∀ m : Method, (∃ sync async, Paired table m sync async) ∨
      ∃ e, ∀ S : Shapes, S ≠ .neither → signaturesOf table S m = .error e := by
  refine ⟨?_, ?_, ?_⟩
  · intro r S T hS hT e
    rw [source_eq package r hS, source_eq package r hT]
    cases Traversal.all (sharedCall table) (r.methods.map Prod.snd) with
    | error cause => exact Iff.rfl
    | ok calls => exact iff_of_false nofun nofun
  · intro r S text hS h
    cases hcalls : Traversal.all (sharedCall table) (r.methods.map Prod.snd) with
    | error cause =>
        rw [source_eq package r hS, hcalls] at h
        cases h
    | ok calls =>
        obtain ⟨groups, hgroups, hsource⟩ := exists_groups hcalls package
        have hsync : pick (.only .sync) = Prod.fst := funext fun group => List.append_nil group.1
        refine ⟨groups, hgroups, ?_, hsource _ (by decide), hsource _ (by decide)⟩
        rw [hsource _ (by decide), hsync]
  · intro m
    cases hcall : sharedCall table m with
    | ok s => exact .inl ⟨_, _, paired_of_sharedCall hcall⟩
    | error e =>
        refine .inr ⟨e, fun S hS => ?_⟩
        rw [signaturesOf_eq hS, hcall]
        rfl

set_option maxRecDepth 2000 in
/-- The interface of a resource with one method, in each shape and in both. -/
theorem source_selection_insert :
    ∃ sync async,
      Paired .standard insertMethod sync async ∧
      source "api" .standard (.only .sync) ⟨"disk_ops", [("insert", insertMethod)]⟩ =
        .ok (textWith "api" ⟨"disk_ops", [("insert", insertMethod)]⟩
          (callOf insertMethod sync).lines) ∧
      source "api" .standard (.only .async) ⟨"disk_ops", [("insert", insertMethod)]⟩ =
        .ok (textWith "api" ⟨"disk_ops", [("insert", insertMethod)]⟩
          (callOf insertMethod async).lines) ∧
      source "api" .standard .both ⟨"disk_ops", [("insert", insertMethod)]⟩ =
        .ok (textWith "api" ⟨"disk_ops", [("insert", insertMethod)]⟩
          ((callOf insertMethod sync).lines ++ (callOf insertMethod async).lines)) := by
  obtain ⟨text, htext⟩ : Returns (source "api" .standard .both
    ⟨"disk_ops", [("insert", insertMethod)]⟩) := ⟨_, rfl⟩
  obtain ⟨groups, hgroups, hsync, hasync, hboth⟩ :=
    (source_selection "api" .standard).2.1 _ .both text (by decide) htext
  obtain ⟨group, rest, ⟨sync, async, hpaired, rfl⟩, hrest, rfl⟩ :=
    List.forall₂_cons_left_iff.mp hgroups
  obtain rfl := List.forall₂_nil_left_iff.mp hrest
  simp only [List.flatMap_cons, List.flatMap_nil, List.append_nil] at hsync hasync hboth
  exact ⟨sync, async, hpaired, hsync, hasync, hboth⟩

/-- A method whose response refers to `void`. -/
def voidResponse : Method where
  name := "get"
  httpMethod := "GET"
  path := "x"
  request := none
  response := some ⟨"void"⟩
  parameters := []
  parameterOrder := none

/-- Its calls return `void` and take a callback of `void`, since it has a response. -/
theorem voidResponse_callback :
    ∃ sync async, signaturesOf .standard (.only .sync) voidResponse = .ok [sync] ∧
      signaturesOf .standard (.only .async) voidResponse = .ok [async] ∧
      sync.returnType = "void" ∧ async.argumentTexts = ["Callback<void> cb"] ∧
      async.argumentTexts ≠ sync.argumentTexts ++ ["Callback<Void> cb"] :=
  ⟨_, _, rfl, rfl, rfl, by decide, by decide⟩

end RestBindings.Binding
