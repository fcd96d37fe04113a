import Mathlib.Data.List.Basic
import Mathlib.Data.List.TakeWhile
import RestBindings.Text.Lines

/-!
# Texts around a separator

What stands in front of and behind a separator, for texts that are written with one: the first
separator (`before_append_cons`, `after_append_cons`), the last one (`afterLast_append_cons`), or
each of them, where a text has one part more than separators (`length_splitOn`).

Unifying line ends leaves everything in front of the first return as it is
(`unifyLineEnds_append`).
-/

namespace RestBindings.Text

variable {sep : Char} {s : List Char}

/-! ## Cutting at one separator -/

/-- The characters of a text that lacks the separator differ from it. -/
theorem forall_bne_of_notMem (h : sep ∉ s) : ∀ c ∈ s, (c != sep) = true := by
  intro c hc
  rw [bne_iff_ne]
  exact fun heq => h (heq ▸ hc)

/-- All of a text stands in front of a separator that it lacks. -/
theorem before_of_notMem (h : sep ∉ s) : before sep s = s :=
  List.takeWhile_eq_self_iff.mpr (forall_bne_of_notMem h)

/-- What stands in front of the first separator. -/
theorem before_append_cons (h : sep ∉ s) (behind : List Char) :
    before sep (s ++ sep :: behind) = s := by
  rw [before, List.takeWhile_append_of_pos (forall_bne_of_notMem h), List.takeWhile_cons]
  simp

/-- What stands behind the first separator. -/
theorem after_append_cons (h : sep ∉ s) (behind : List Char) :
    after sep (s ++ sep :: behind) = behind := by
  rw [after, List.dropWhile_append_of_pos (forall_bne_of_notMem h), List.dropWhile_cons]
  simp

/-- All of a text stands behind a separator that it lacks. -/
theorem afterLast_of_notMem (h : sep ∉ s) : afterLast sep s = s := by
  have hreverse := before_of_notMem (mt List.mem_reverse.mp h)
  rw [before] at hreverse
  rw [afterLast, hreverse, List.reverse_reverse]

/-- What stands behind the last separator. -/
theorem afterLast_append_cons (h : sep ∉ s) (front : List Char) :
    afterLast sep (front ++ sep :: s) = s := by
  have hreverse := before_append_cons (mt List.mem_reverse.mp h) front.reverse
  rw [before] at hreverse
  rw [afterLast, List.reverse_append, List.reverse_cons, List.append_assoc, List.singleton_append,
    hreverse, List.reverse_reverse]

/-! ## Cutting at every separator -/

/-- A text has one part more than separators. -/
theorem length_splitOn (sep : Char) (s : List Char) :
    (splitOn sep s).length = s.count sep + 1 := by
  induction s with
  | nil => rfl
  | cons c rest ih =>
      rw [splitOn, List.count_cons]
      split
      · next h => rw [List.length_cons, ih, if_pos (beq_iff_eq.mpr h)]
      · next h =>
          obtain ⟨part, parts, hparts⟩ := List.exists_cons_of_ne_nil (splitOn_ne_nil sep rest)
          rw [if_neg (fun heq => h (beq_iff_eq.mp heq)), Nat.add_zero, ← ih, hparts]
          rfl

/-- The two parts of a text with one separator. -/
theorem splitOn_of_count_eq_one (h : s.count sep = 1) :
    splitOn sep s = [before sep s, after sep s] := by
  have hlength := length_splitOn sep s
  rw [h] at hlength
  obtain ⟨front, behind, hparts⟩ := List.length_eq_two.mp hlength
  have hfront : sep ∉ front := notMem_of_mem_splitOn (hparts ▸ List.mem_cons_self)
  have hs : s = front ++ sep :: behind := by
    rw [← joinWith_splitOn sep s, hparts]
    exact List.append_assoc front [sep] behind
  rw [hparts, hs, before_append_cons hfront, after_append_cons hfront]

/-! ## Line ends -/

theorem unifyLineEnds_cons {c : Char} (h : c ≠ '\r') (rest : List Char) :
    unifyLineEnds (c :: rest) = c :: unifyLineEnds rest := by
  rw [unifyLineEnds.eq_def]
  split
  · next heq => exact absurd (List.cons.inj heq).1 h
  · next heq => exact absurd (List.cons.inj heq).1 h
  · next heq =>
      obtain ⟨rfl, rfl⟩ := List.cons.inj heq
      rfl
  · next heq => cases heq

/-- Unifying line ends changes nothing in front of the first return. -/
theorem unifyLineEnds_append (h : '\r' ∉ s) (behind : List Char) :
    unifyLineEnds (s ++ behind) = s ++ unifyLineEnds behind := by
  induction s with
  | nil => rfl
  | cons c rest ih =>
      rw [List.mem_cons, not_or] at h
      rw [List.cons_append, unifyLineEnds_cons (Ne.symm h.1), ih h.2, List.cons_append]

/-- Unifying line ends changes nothing in a text without returns. -/
theorem unifyLineEnds_of_notMem (h : '\r' ∉ s) : unifyLineEnds s = s := by
  have happend := unifyLineEnds_append h []
  rw [List.append_nil] at happend
  rw [happend]
  exact List.append_nil s

end RestBindings.Text
