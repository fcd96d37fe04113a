/-!
# Lists of pairs with one entry per key

An entry keeps the place of the first pair with its key and the value of the last one.
-/

namespace RestBindings.Keyed

variable {κ α : Type}

/-- Stores a value under a key: in the place of the entry with that key, at the end if there is
none. -/
def insert [DecidableEq κ] (key : κ) (value : α) : List (κ × α) → List (κ × α)
  | [] => [(key, value)]
  | entry :: rest =>
    if entry.1 = key then (entry.1, value) :: rest else entry :: insert key value rest

/-- The value under a key. -/
def get? [DecidableEq κ] (key : κ) : List (κ × α) → Option α
  | [] => none
  | entry :: rest => if entry.1 = key then some entry.2 else get? key rest

/-- The entries of a list of pairs, stored one after the other. -/
def ofList [DecidableEq κ] (pairs : List (κ × α)) : List (κ × α) :=
  pairs.foldl (fun entries pair => insert pair.1 pair.2 entries) []

/-- After an insertion the key has the new value and every other key its old one. -/
theorem get?_insert [DecidableEq κ] (key other : κ) (value : α) (entries : List (κ × α)) :
    get? other (insert key value entries) =
      if key = other then some value else get? other entries := by
  induction entries with
  | nil => rfl
  | cons entry rest ih =>
    by_cases h : entry.1 = key
    · by_cases ho : key = other <;> simp [insert, get?, h, ho]
    · by_cases ho : key = other
      · subst ho; simp [insert, get?, h, ih]
      · simp [insert, get?, h, ih, ho]

/-- Storing under a present key keeps the keys, storing under a new one adds it at the end. -/
theorem map_fst_insert [DecidableEq κ] (key : κ) (value : α) (entries : List (κ × α)) :
    (insert key value entries).map Prod.fst =
      if key ∈ entries.map Prod.fst then entries.map Prod.fst
      else entries.map Prod.fst ++ [key] := by
  induction entries with
  | nil => rfl
  | cons entry rest ih =>
    by_cases h : entry.1 = key
    · simp [insert, h]
    · by_cases hm : key ∈ rest.map Prod.fst <;>
        simp_all [insert, Ne.symm h]

end RestBindings.Keyed
