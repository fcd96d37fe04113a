import RestBindings.Unicode.CombiningClass
import RestBindings.Unicode.Decomposition

/-!
# Compatibility decomposition of texts

Every character is replaced by its full compatibility decomposition, then each run of marks is
sorted by combining class; marks of one class keep their order.
-/

namespace RestBindings.Unicode

/-- Places a character in front of an ordered text: a mark moves behind the marks of smaller
class that follow it, and never past a starter. -/
def insertOrdered (c : Char) : List Char → List Char
  | [] => [c]
  | d :: rest =>
    if 0 < combiningClass d ∧ combiningClass d < combiningClass c then d :: insertOrdered c rest
    else c :: d :: rest

/-- Sorts every run of marks by combining class. -/
def canonicalOrder : List Char → List Char
  | [] => []
  | c :: rest => insertOrdered c (canonicalOrder rest)

/-- The compatibility decomposition of a text. -/
def compatibilityForm (s : List Char) : List Char :=
  canonicalOrder (s.flatMap decompose)

/-- A text without its accents: the starters of its compatibility decomposition. -/
def stripMarks (s : List Char) : List Char :=
  (compatibilityForm s).filter isStarter

/-- A string without its accents. -/
def stripAccents (s : String) : String :=
  String.ofList (stripMarks s.toList)

/-- Placing a mark keeps the starters of a text, placing a starter puts it first. -/
theorem filter_isStarter_insertOrdered (c : Char) (s : List Char) :
    (insertOrdered c s).filter isStarter = (c :: s).filter isStarter := by
  induction s with
  | nil => rfl
  | cons d rest ih =>
    rw [insertOrdered]
    split
    · next h =>
      have hd : isStarter d = false := by simp [isStarter]; omega
      have hc : isStarter c = false := by simp [isStarter]; omega
      simp [hd, hc, ih]
    · rfl

/-- Ordering marks neither removes nor moves a starter. -/
theorem filter_isStarter_canonicalOrder (s : List Char) :
    (canonicalOrder s).filter isStarter = s.filter isStarter := by
  induction s with
  | nil => rfl
  | cons c rest ih =>
    rw [canonicalOrder, filter_isStarter_insertOrdered]
    simp [List.filter_cons, ih]

end RestBindings.Unicode
