import Mathlib.Data.List.Nodup
import Mathlib.Data.List.Perm.Basic
import RestBindings.Binding.Signature
import RestBindings.Proofs.Building

/-!
# What a generated call consists of

* An argument has the identifier of its name; that of the request body has its schema as type,
  that of a parameter the mark of its location and the type that the table gives to it
  (`bodyArgument_eq_ok_iff`, `parameterArgument_eq_ok_iff`).
* The arguments of a call are the one for the request body, one per parameter in the given
  order and, in the shape that delivers to a callback, the callback
  (`signatureOf_eq_ok_iff`).
* Putting the parameters of a method in order neither loses nor repeats one
  (`perm_of_arrange`).

So all calls of a method take the same arguments up to the callback (`signaturesOf_eq_ok_iff`),
and there is one for each declared parameter (`forall₂_signaturesOf`).
-/

namespace RestBindings.Binding

open Discovery

variable {table : TypeTable} {m : Method}

namespace Signature

/-- What a call of a shape returns for a response. -/
def resultOf (response : Option ResponseBody) : Shape → String
  | .sync => match response with
    | some body => body.ref
    | none => noResult
  | .async => noResult

/-- The arguments of a call of a shape behind its parameters. -/
def callbackOf (response : Option ResponseBody) : Shape → List Argument
  | .sync => []
  | .async => [callbackArgument response]

/-! ## Single arguments -/

/-- A variable has the identifier of its name. -/
theorem identifierFor_eq_ok_iff {name identifier : String} :
    identifierFor name = .ok identifier ↔ Source.Identifier.ofName name = .ok identifier := by
  unfold identifierFor
  cases Source.Identifier.ofName name <;> simp

/-- The argument for a request body has its schema as type and the identifier of its name. -/
theorem bodyArgument_eq_ok_iff {body : RequestBody} {a : Argument} :
    bodyArgument body = .ok a ↔
      a.mark = .body ∧ a.type = body.ref ∧
        Source.Identifier.ofName body.parameterName = .ok a.identifier := by
  rw [bodyArgument, ← identifierFor_eq_ok_iff]
  obtain ⟨mark, type, identifier⟩ := a
  cases identifierFor body.parameterName with
  | error e => simp
  | ok found =>
      simp only [Except.ok.injEq, Argument.mk.injEq]
      exact and_congr eq_comm (and_congr_left fun _ => eq_comm)

/-- The argument for a parameter has the mark of its location, the type that the table gives to
it and the identifier of its name. -/
theorem parameterArgument_eq_ok_iff {call : String} {named : Named} {a : Argument} :
    parameterArgument table call named = .ok a ↔
      a.mark = markFor named.1 named.2.location ∧ table.GivesParameter named.2 a.type ∧
        Source.Identifier.ofName named.1 = .ok a.identifier := by
  rw [parameterArgument, ← identifierFor_eq_ok_iff,
    ← TypeTable.typeOfParameter_eq_ok_iff (some (call ++ "." ++ named.1))]
  obtain ⟨mark, type, identifier⟩ := a
  cases table.typeOfParameter (some (call ++ "." ++ named.1)) named.2 with
  | error e => simp
  | ok given =>
      cases identifierFor named.1 with
      | error e => simp
      | ok found =>
          simp only [Except.ok.injEq, Argument.mk.injEq]
          exact and_congr_left fun _ => eq_comm

/-- The argument for a request body has the identifier of its name. -/
theorem ofName_of_bodyArgument {body : RequestBody} {a : Argument}
    (h : bodyArgument body = .ok a) :
    Source.Identifier.ofName body.parameterName = .ok a.identifier :=
  (bodyArgument_eq_ok_iff.mp h).2.2

/-- The argument for a parameter has the identifier and the mark of its name. -/
theorem parameterArgument_eq_ok {call : String} {named : Named} {a : Argument}
    (h : parameterArgument table call named = .ok a) :
    Source.Identifier.ofName named.1 = .ok a.identifier ∧
      a.mark = markFor named.1 named.2.location :=
  have hparts := parameterArgument_eq_ok_iff.mp h
  ⟨hparts.2.2, hparts.1⟩

/-! ## The steps of building a call -/

/-- The request body adds its argument. -/
theorem withBody_eq_ok_iff {s t : Signature} {request : Option RequestBody} :
    s.withBody request = .ok t ↔
      ∃ bodies, List.Forall₂ (fun body a => bodyArgument body = .ok a) request.toList bodies ∧
        t = { s with arguments := s.arguments ++ bodies } := by
  cases request with
  | none =>
      have hid : { s with arguments := s.arguments ++ [] } = s := by
        rw [List.append_nil]
      constructor
      · intro h
        obtain rfl : s = t := Except.ok.inj h
        exact ⟨[], List.Forall₂.nil, hid.symm⟩
      · rintro ⟨bodies, hb, rfl⟩
        obtain rfl : bodies = [] := List.forall₂_nil_left_iff.mp hb
        rw [hid]
        rfl
  | some body =>
      have hone (bodies : List Argument) :
          List.Forall₂ (fun body a => bodyArgument body = .ok a) [body] bodies ↔
            ∃ a, bodyArgument body = .ok a ∧ bodies = [a] := by
        simp [List.forall₂_cons_left_iff]
      simp only [Option.toList_some, hone, withBody]
      cases hb : bodyArgument body with
      | error e => simp
      | ok a =>
          constructor
          · intro h
            obtain rfl : s.add a = t := Except.ok.inj h
            exact ⟨[a], ⟨a, rfl, rfl⟩, rfl⟩
          · rintro ⟨bodies, ⟨a', ha, rfl⟩, rfl⟩
            obtain rfl : a = a' := Except.ok.inj ha
            rfl

/-- Every parameter adds its argument. -/
theorem withParameters_eq_ok_iff {s t : Signature} {parameters : List Named} :
    s.withParameters table parameters = .ok t ↔
      ∃ arguments, List.Forall₂ (fun named a => parameterArgument table s.name named = .ok a)
          parameters arguments ∧
        t = { s with arguments := s.arguments ++ arguments } := by
  rw [withParameters_eq]
  simp only [← Traversal.all_eq_ok_iff]
  cases Traversal.all (parameterArgument table s.name) parameters <;> simp [Except.map, eq_comm]

/-- Completing a call sets what it returns and adds the callback. -/
theorem shaped_eq (name : String) (arguments : List Argument) (response : Option ResponseBody)
    (shape : Shape) :
    (⟨name, noResult, arguments⟩ : Signature).shaped response shape =
      ⟨name, resultOf response shape, arguments ++ callbackOf response shape⟩ := by
  cases shape with
  | sync =>
      rw [callbackOf, List.append_nil]
      rfl
  | async => rfl

end Signature

open Signature

/-- A call takes the request body, the parameters in their order and what its shape adds. -/
theorem signatureOf_eq_ok_iff {parameters : List Named} {shape : Shape} {s : Signature} :
    signatureOf table m parameters shape = .ok s ↔
      ∃ bodies arguments,
        List.Forall₂ (fun body a => bodyArgument body = .ok a) m.request.toList bodies ∧
        List.Forall₂ (fun named a => parameterArgument table m.name named = .ok a)
          parameters arguments ∧
        s = ⟨m.name, resultOf m.response shape,
          bodies ++ arguments ++ callbackOf m.response shape⟩ := by
  constructor
  · intro h
    unfold signatureOf at h
    cases hb : (start m.name).withBody m.request with
    | error e => simp [hb] at h
    | ok s₁ =>
        cases hp : s₁.withParameters table parameters with
        | error e => simp [hb, hp] at h
        | ok s₂ =>
            obtain rfl : s₂.shaped m.response shape = s := by simpa [hb, hp] using h
            obtain ⟨bodies, hbodies, rfl⟩ := withBody_eq_ok_iff.mp hb
            obtain ⟨arguments, harguments, rfl⟩ := withParameters_eq_ok_iff.mp hp
            exact ⟨bodies, arguments, hbodies, harguments, shaped_eq _ _ _ _⟩
  · rintro ⟨bodies, arguments, hbodies, harguments, rfl⟩
    have hb : (start m.name).withBody m.request = .ok ⟨m.name, noResult, bodies⟩ :=
      withBody_eq_ok_iff.mpr ⟨bodies, hbodies, rfl⟩
    have hp : (⟨m.name, noResult, bodies⟩ : Signature).withParameters table parameters =
        .ok ⟨m.name, noResult, bodies ++ arguments⟩ :=
      withParameters_eq_ok_iff.mpr ⟨arguments, harguments, rfl⟩
    unfold signatureOf
    simp only [hb, hp]
    rw [shaped_eq]

/-! ## The order of parameters -/

/-- No leading parameter is repeated. -/
theorem nodup_leading {method : String} {declared first : List Named} {seen names : List String}
    (h : leading method declared seen names = .ok first) : first.Nodup := by
  induction names generalizing seen first with
  | nil =>
      obtain rfl : first = [] := by simpa [leading] using h.symm
      exact List.nodup_nil
  | cons name rest ih =>
      rw [leading] at h
      cases hp : Keyed.get? name declared with
      | none => simp [hp] at h
      | some p =>
          simp only [hp] at h
          by_cases hs : name ∈ seen
          · rw [if_pos hs] at h
            exact ih h
          · rw [if_neg hs] at h
            cases hl : leading method declared (name :: seen) rest with
            | error e => simp [hl] at h
            | ok others =>
                obtain rfl : (name, p) :: others = first := by simpa [hl] using h
                refine List.nodup_cons.mpr ⟨fun hmem => ?_, ih hl⟩
                exact ((mem_leading_iff hl (name, p)).mp hmem).2.1 List.mem_cons_self

/-- The ordered parameters are the declared ones, each once. -/
theorem perm_of_arrange (hd : Keyed.Distinct m.parameters) {ordered : List Named}
    (h : arrange m = .ok ordered) : ordered.Perm m.parameters := by
  have hdeclared : m.parameters.Nodup := List.Nodup.of_map _ hd
  have hordered : ordered.Nodup := by
    obtain ⟨first, hl, rfl⟩ := exists_leading_of_arrange h
    refine List.Nodup.append (nodup_leading hl) (hdeclared.filter _) ?_
    -- a leading parameter is named in the order, a following one is not
    intro named hfirst hrest
    have hn := ((mem_leading_iff hl named).mp hfirst).1
    exact of_decide_eq_true (List.mem_filter.mp hrest).2 hn
  exact (List.perm_ext_iff_of_nodup hordered hdeclared).mpr (mem_arrange_iff hd h)

/-! ## All calls of a method -/

/-- When some shape is wanted, the calls of a method can be built exactly when its parameters can
be put in order and the arguments for body and parameters exist. All calls share these arguments;
a shape decides about the result and the callback only. -/
theorem signaturesOf_eq_ok_iff {shapes : Shapes} (hs : shapes ≠ .neither)
    {signatures : List Signature} :
    signaturesOf table shapes m = .ok signatures ↔
      ∃ ordered bodies arguments, arrange m = .ok ordered ∧
        List.Forall₂ (fun body a => bodyArgument body = .ok a) m.request.toList bodies ∧
        List.Forall₂ (fun named a => parameterArgument table m.name named = .ok a)
          ordered arguments ∧
        signatures = shapes.toList.map fun shape => ⟨m.name, resultOf m.response shape,
          bodies ++ arguments ++ callbackOf m.response shape⟩ := by
  unfold signaturesOf
  constructor
  · intro h
    cases ha : arrange m with
    | error e => simp [ha] at h
    | ok ordered =>
        simp only [ha, Traversal.all_eq_ok_iff, signatureOf_eq_ok_iff] at h
        -- the arguments of one call are those of all calls
        have hsome : shapes.toList ≠ [] := by
          obtain ⟨shape, hshape⟩ := shapes.exists_mem_toList_orBoth
          rw [Shapes.orBoth, if_neg hs] at hshape
          exact List.ne_nil_of_mem hshape
        obtain ⟨shape, hshape⟩ := List.exists_mem_of_ne_nil _ hsome
        obtain ⟨s, -, bodies, arguments, hb, hp, -⟩ := exists_of_mem_of_forall₂ h.flip hshape
        refine ⟨ordered, bodies, arguments, rfl, hb, hp, ?_⟩
        have hall : List.Forall₂ (fun shape s => (⟨m.name, resultOf m.response shape,
            bodies ++ arguments ++ callbackOf m.response shape⟩ : Signature) = s)
            shapes.toList signatures := by
          refine h.imp ?_
          rintro shape s ⟨bodies', arguments', hb', hp', rfl⟩
          rw [Traversal.eq_of_forall₂_ok hb' hb, Traversal.eq_of_forall₂_ok hp' hp]
        rw [← List.forall₂_map_left_iff, List.forall₂_eq_eq_eq] at hall
        exact hall.symm
  · rintro ⟨ordered, bodies, arguments, ha, hb, hp, rfl⟩
    simp only [ha, Traversal.all_eq_ok_iff, List.forall₂_map_right_iff, List.forall₂_same]
    intro shape _
    exact signatureOf_eq_ok_iff.mpr ⟨bodies, arguments, hb, hp, rfl⟩

/-- **The calls of a method.** For every wanted shape there is one, and it takes the request body,
one argument for each declared parameter, in an order that all calls share, and the callback of
its shape. -/
theorem forall₂_signaturesOf {shapes : Shapes} {signatures : List Signature}
    (hm : Keyed.Distinct m.parameters) (h : signaturesOf table shapes m = .ok signatures) :
    ∃ ordered : List Named, ordered.Perm m.parameters ∧
      List.Forall₂ (fun shape s => ∃ bodies arguments,
        List.Forall₂ (fun body a => bodyArgument body = .ok a) m.request.toList bodies ∧
        List.Forall₂ (fun named a => parameterArgument table m.name named = .ok a)
          ordered arguments ∧
        s = ⟨m.name, resultOf m.response shape,
          bodies ++ arguments ++ callbackOf m.response shape⟩) shapes.toList signatures := by
  unfold signaturesOf at h
  cases ha : arrange m with
  | error e => simp [ha] at h
  | ok ordered =>
      simp only [ha] at h
      refine ⟨ordered, perm_of_arrange hm ha, ?_⟩
      exact (Traversal.all_eq_ok_iff.mp h).imp fun _ _ hs => signatureOf_eq_ok_iff.mp hs

end RestBindings.Binding
