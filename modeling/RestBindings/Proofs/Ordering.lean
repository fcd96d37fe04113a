import RestBindings.Proofs.Calls
import RestBindings.Proofs.Documents

/-!
# The order of parameters is a stable permutation

The parameters of a call are the declared ones, each once (`perm_of_arrange`). Which comes where is
said for the two parts of the order.

* The leading parameters have the listed names, each at its first place in the list
  (`map_fst_leading`).
* The others follow as they are declared (`exists_leading_of_arrange`).

An order that lists the names of declared parameters, each once, is the order of these parameters
(`leading_map_fst`), so that listing the names of a call in the order that it has changes nothing
(`arrange_relisted`). `arrange_stable` has these together with the way in which the order fails.
-/

namespace RestBindings.Binding

open Discovery

variable {declared first ordered : List Named} {seen names : List String} {method : String}
  {m : Method}

/-! ## The leading parameters -/

/-- The leading parameters have the listed names that are not yet seen, each at its first place. -/
theorem map_fst_leading (h : leading method declared seen names = .ok first) :
    first.map Prod.fst = (names.filter (· ∉ seen)).eraseDups := by
  induction names generalizing seen first with
  | nil =>
      obtain rfl : first = [] := by simpa [leading] using h.symm
      rfl
  | cons name rest ih =>
      rw [leading] at h
      cases hp : Keyed.get? name declared with
      | none => simp [hp] at h
      | some p =>
          simp only [hp] at h
          by_cases hs : name ∈ seen
          · rw [if_pos hs] at h
            rw [ih h, List.filter_cons_of_neg (by simp [hs])]
          · rw [if_neg hs] at h
            cases hl : leading method declared (name :: seen) rest with
            | error e => simp [hl] at h
            | ok others =>
                obtain rfl : (name, p) :: others = first := by simpa [hl] using h
                -- what is behind the name keeps neither it nor what was seen in front of it
                have hrest : rest.filter (· ∉ name :: seen) =
                    (rest.filter (· ∉ seen)).filter fun other => !other == name := by
                  rw [List.filter_filter]
                  refine List.filter_congr fun other _ => ?_
                  by_cases he : other = name <;> simp [he]
                rw [List.map_cons, ih hl, List.filter_cons_of_pos (by simp [hs]),
                  List.eraseDups_cons, hrest]

/-- Declared parameters with distinct names that are not yet seen are the leading ones for the list
of their names. -/
theorem leading_map_fst (hd : Keyed.Distinct first) (hs : ∀ named ∈ first, named.1 ∉ seen)
    (hf : ∀ named ∈ first, Keyed.get? named.1 declared = some named.2) :
    leading method declared seen (first.map Prod.fst) = .ok first := by
  induction first generalizing seen with
  | nil => rfl
  | cons named rest ih =>
      rw [List.forall_mem_cons] at hs hf
      obtain ⟨hnew, hrest⟩ : named.1 ∉ rest.map Prod.fst ∧ Keyed.Distinct rest :=
        List.nodup_cons.mp hd
      have hunseen : ∀ other ∈ rest, other.1 ∉ named.1 :: seen := by
        intro other ho hmem
        rcases List.mem_cons.mp hmem with he | hmem
        · exact hnew (he ▸ List.mem_map_of_mem ho)
        · exact hs.2 other ho hmem
      rw [List.map_cons, leading]
      simp only [hf.1, if_neg hs.1, ih hrest hunseen hf.2]

/-! ## All parameters -/

/-- Listing the names of the ordered parameters keeps their order. -/
theorem arrange_relisted (hm : m.WellKeyed) (h : arrange m = .ok ordered) :
    arrange { m with parameterOrder := some (ordered.map Prod.fst) } = .ok ordered := by
  have hperm := perm_of_arrange hm h
  have hd : Keyed.Distinct ordered := (hperm.map Prod.fst).nodup_iff.mpr hm
  have hf : ∀ named ∈ ordered, Keyed.get? named.1 m.parameters = some named.2 := fun named hn =>
    (Keyed.get?_eq_some_iff hm).mpr (hperm.mem_iff.mp hn)
  have hleading : leading m.name m.parameters [] (ordered.map Prod.fst) = .ok ordered :=
    leading_map_fst hd (fun _ _ => List.not_mem_nil) hf
  -- every declared parameter is listed now, and none follows
  have hnone : (m.parameters.filter fun named => !(ordered.map Prod.fst).contains named.1) = [] := by
    refine List.filter_eq_nil_iff.mpr fun named hn => ?_
    have hlisted : named.1 ∈ ordered.map Prod.fst := List.mem_map_of_mem (hperm.mem_iff.mpr hn)
    simp only [List.contains_iff_mem.mpr hlisted, Bool.not_true, Bool.false_eq_true,
      not_false_eq_true]
  rw [arrange]
  simp only [Option.getD_some, hleading, hnone, List.append_nil]

/-- **The order of parameters.** It fails exactly when a listed name is not declared, and names the
first such name and the method. Otherwise it is a permutation of the declared parameters: first
those with the listed names, every repetition behind the first place removed, and then those that
are not listed, as they are declared. Listing the names in the order that results changes
nothing. -/
theorem arrange_stable (hm : m.WellKeyed) :
    (Returns (arrange m) ↔
      ∀ name ∈ m.parameterOrder.getD [], name ∈ m.parameters.map Prod.fst) ∧
    (∀ e, arrange m = .error e ↔
      ∃ front name back, m.parameterOrder.getD [] = front ++ name :: back ∧
        (∀ other ∈ front, other ∈ m.parameters.map Prod.fst) ∧ name ∉ m.parameters.map Prod.fst ∧
        e = .failure (.undeclaredParameter name (some m.name))) ∧
    ∀ ordered, arrange m = .ok ordered →
      ordered.Perm m.parameters ∧
      (∃ first, first.map Prod.fst = (m.parameterOrder.getD []).eraseDups ∧
        ordered = first ++ m.parameters.filter (·.1 ∉ m.parameterOrder.getD [])) ∧
      arrange { m with parameterOrder := some (ordered.map Prod.fst) } = .ok ordered := by
  refine ⟨returns_arrange_iff, fun e => arrange_eq_error_iff, fun ordered h => ?_⟩
  obtain ⟨first, hl, hordered⟩ := exists_leading_of_arrange h
  have hall : (m.parameterOrder.getD []).filter (· ∉ ([] : List String)) =
      m.parameterOrder.getD [] := List.filter_eq_self.mpr fun _ _ => rfl
  have hnames : first.map Prod.fst = (m.parameterOrder.getD []).eraseDups := by
    rw [map_fst_leading hl, hall]
  exact ⟨perm_of_arrange hm h, ⟨first, hnames, hordered⟩, arrange_relisted hm h⟩

/-- A required text that a request carries in its path. -/
def pathText : Parameter :=
  ⟨.primitive "string" none, some "path", true⟩

/-- A method with three parameters and the given order of them. -/
def listing (order : List String) : Method where
  name := "list"
  httpMethod := "GET"
  path := "disks"
  request := none
  response := none
  parameters := [("filter", pathText), ("project", pathText), ("zone", pathText)]
  parameterOrder := some order

/-- An order that repeats a name, and an order with two names that are not declared. -/
theorem arrange_stable_listing :
    (listing ["zone", "project", "zone"]).WellKeyed ∧
      arrange (listing ["zone", "project", "zone"]) =
        .ok [("zone", pathText), ("project", pathText), ("filter", pathText)] ∧
      arrange (listing ["zone", "project", "filter"]) =
        .ok [("zone", pathText), ("project", pathText), ("filter", pathText)] ∧
      arrange (listing ["zone", "region", "zones"]) =
        .error (.failure (.undeclaredParameter "region" (some "list"))) := by
  have hm : (listing ["zone", "project", "zone"]).WellKeyed := by decide
  have hmissing : (listing ["zone", "region", "zones"]).WellKeyed := by decide
  obtain ⟨hreturns, -, hordered⟩ := arrange_stable hm
  obtain ⟨-, hfails, -⟩ := arrange_stable hmissing
  obtain ⟨ordered, h⟩ := hreturns.mpr (by decide)
  have hlisted : ordered = [("zone", pathText), ("project", pathText), ("filter", pathText)] :=
    Except.ok.inj (h.symm.trans rfl)
  obtain ⟨-, -, hagain⟩ := hordered ordered h
  subst hlisted
  exact ⟨hm, h, hagain,
    (hfails _).mpr ⟨["zone"], "region", ["zones"], rfl, by decide, by decide, rfl⟩⟩

end RestBindings.Binding
