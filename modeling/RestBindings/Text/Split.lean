/-!
# Cutting and joining texts

Cutting a text at a separator and joining the parts with it are inverse to each other:
`joinWith_splitOn` for every text, and `splitOn_joinWith` for every nonempty list of parts that
are free of the separator.
-/

namespace RestBindings.Text

/-- Cuts a text at every occurrence of a character.  There is always at least one part. -/
def splitOn (sep : Char) : List Char → List (List Char)
  | [] => [[]]
  | c :: rest =>
    if c = sep then [] :: splitOn sep rest
    else match splitOn sep rest with
      | [] => [[c]]
      | part :: parts => (c :: part) :: parts

/-- Puts a text between consecutive parts. -/
def joinWith (sep : List Char) : List (List Char) → List Char
  | [] => []
  | [part] => part
  | part :: rest => part ++ sep ++ joinWith sep rest

/-- The parts of a string between the occurrences of a character. -/
def cut (sep : Char) (s : String) : List String :=
  (splitOn sep s.toList).map String.ofList

/-- The strings of a list with a text between them. -/
def join (sep : String) (parts : List String) : String :=
  String.ofList (joinWith sep.toList (parts.map String.toList))

/-- The characters before the first occurrence of a separator, all of them if there is none. -/
def before (sep : Char) (s : List Char) : List Char :=
  s.takeWhile (· != sep)

/-- The characters after the first occurrence of a separator, none if there is none. -/
def after (sep : Char) (s : List Char) : List Char :=
  (s.dropWhile (· != sep)).drop 1

/-- The characters after the last occurrence of a separator, all of them if there is none. -/
def afterLast (sep : Char) (s : List Char) : List Char :=
  (s.reverse.takeWhile (· != sep)).reverse

/-- A text occurs within another one. -/
def occursIn (part : List Char) : List Char → Bool
  | [] => part.isEmpty
  | c :: rest => part.isPrefixOf (c :: rest) || occursIn part rest

/-- A text has at least one part. -/
theorem splitOn_ne_nil (sep : Char) (s : List Char) : splitOn sep s ≠ [] := by
  induction s with
  | nil => simp [splitOn]
  | cons c rest ih =>
    rw [splitOn]
    split
    · simp
    · split <;> simp

/-- Before further parts a part is followed by the separator. -/
theorem joinWith_cons_of_ne_nil (sep part : List Char) {parts : List (List Char)}
    (h : parts ≠ []) : joinWith sep (part :: parts) = part ++ sep ++ joinWith sep parts := by
  cases parts with
  | nil => exact absurd rfl h
  | cons _ _ => rfl

/-- Joined parts begin with the first part. -/
theorem exists_joinWith_cons (sep part : List Char) (rest : List (List Char)) :
    ∃ tail, joinWith sep (part :: rest) = part ++ tail := by
  cases rest with
  | nil => exact ⟨[], (List.append_nil part).symm⟩
  | cons next others => exact ⟨sep ++ joinWith sep (next :: others), List.append_assoc _ _ _⟩

/-- A character of joined parts is one of a part or of the separator. -/
theorem mem_joinWith {sep : List Char} {parts : List (List Char)} {c : Char}
    (h : c ∈ joinWith sep parts) : c ∈ sep ∨ ∃ part ∈ parts, c ∈ part := by
  induction parts with
  | nil => cases h
  | cons part rest ih =>
    cases rest with
    | nil => exact .inr ⟨part, List.mem_cons_self, h⟩
    | cons next others =>
      rw [joinWith_cons_of_ne_nil _ _ (List.cons_ne_nil next others), List.mem_append,
        List.mem_append] at h
      rcases h with (h | h) | h
      · exact .inr ⟨part, List.mem_cons_self, h⟩
      · exact .inl h
      · rcases ih h with h | ⟨p, hp, hc⟩
        · exact .inl h
        · exact .inr ⟨p, List.mem_cons_of_mem _ hp, hc⟩

/-- The characters of a part are among those of the joined parts. -/
theorem mem_joinWith_of_mem {sep part : List Char} {parts : List (List Char)}
    (hp : part ∈ parts) {c : Char} (hc : c ∈ part) : c ∈ joinWith sep parts := by
  induction parts with
  | nil => cases hp
  | cons first rest ih =>
    obtain ⟨tail, ht⟩ := exists_joinWith_cons sep first rest
    rcases List.mem_cons.mp hp with rfl | hp
    · rw [ht]
      exact List.mem_append_left _ hc
    · rw [joinWith_cons_of_ne_nil _ _ (List.ne_nil_of_mem hp)]
      exact List.mem_append_right _ (ih hp)

/-- Joining the parts of a text gives the text back. -/
theorem joinWith_splitOn (sep : Char) (s : List Char) : joinWith [sep] (splitOn sep s) = s := by
  induction s with
  | nil => rfl
  | cons c rest ih =>
    rw [splitOn]
    split
    · next h => rw [joinWith_cons_of_ne_nil _ _ (splitOn_ne_nil sep rest), ih, h]; rfl
    · next h =>
      match hs : splitOn sep rest with
      | [] => exact absurd hs (splitOn_ne_nil sep rest)
      | [part] => rw [hs] at ih; simp only [joinWith] at ih ⊢; rw [ih]
      | part :: next :: parts =>
        rw [hs] at ih
        simp only [joinWith, List.cons_append] at ih ⊢
        rw [ih]

/-- Joined parts end with the last one. -/
theorem joinWith_concat (sep last : List Char) {parts : List (List Char)} (h : parts ≠ []) :
    joinWith sep (parts ++ [last]) = joinWith sep parts ++ sep ++ last := by
  induction parts with
  | nil => exact absurd rfl h
  | cons part rest ih =>
      cases rest with
      | nil => rfl
      | cons next others =>
          have hne := List.cons_ne_nil next others
          have hmore : next :: others ++ [last] ≠ [] := List.append_ne_nil_of_left_ne_nil hne _
          rw [List.cons_append, joinWith_cons_of_ne_nil _ _ hmore, ih hne,
            joinWith_cons_of_ne_nil _ _ hne]
          simp only [List.append_assoc]

/-- Cutting a text at one character and joining the parts with another one replaces the
character. -/
theorem joinWith_splitOn_eq_map (new old : Char) (s : List Char) :
    joinWith [new] (splitOn old s) = s.map fun c => if c = old then new else c := by
  induction s with
  | nil => rfl
  | cons c rest ih =>
      rw [splitOn, List.map_cons]
      by_cases hc : c = old
      · rw [if_pos hc, if_pos hc, joinWith_cons_of_ne_nil _ _ (splitOn_ne_nil old rest), ih]
        rfl
      · rw [if_neg hc, if_neg hc, ← ih]
        match hs : splitOn old rest with
        | [] => exact absurd hs (splitOn_ne_nil old rest)
        | [part] => rfl
        | part :: next :: parts => rfl

/-- The parts of two texts with the separator between them are those of the one, then those of the
other. -/
theorem splitOn_append (sep : Char) (s t : List Char) :
    splitOn sep (s ++ sep :: t) = splitOn sep s ++ splitOn sep t := by
  induction s with
  | nil => simp [splitOn]
  | cons c rest ih =>
    rw [List.cons_append, splitOn, splitOn, ih]
    split
    · rfl
    · match hs : splitOn sep rest with
      | [] => exact absurd hs (splitOn_ne_nil sep rest)
      | part :: parts => rfl

/-- A text that is free of the separator has one part. -/
theorem splitOn_of_notMem {sep : Char} {part : List Char} (h : sep ∉ part) :
    splitOn sep part = [part] := by
  induction part with
  | nil => rfl
  | cons c part ih =>
    rw [List.mem_cons, not_or] at h
    rw [splitOn, if_neg (Ne.symm h.1), ih h.2]

/-- A text in front of a separator is the first part, when it is free of the separator. -/
theorem splitOn_append_cons {sep : Char} {part : List Char} (h : sep ∉ part) (rest : List Char) :
    splitOn sep (part ++ sep :: rest) = part :: splitOn sep rest := by
  rw [splitOn_append, splitOn_of_notMem h, List.singleton_append]

/-- No part of a text contains the separator. -/
theorem notMem_of_mem_splitOn {sep : Char} {s part : List Char} (h : part ∈ splitOn sep s) :
    sep ∉ part := by
  induction s generalizing part with
  | nil =>
    obtain rfl : part = [] := by simpa [splitOn] using h
    exact List.not_mem_nil
  | cons c rest ih =>
    rw [splitOn] at h
    split at h
    · rcases List.mem_cons.mp h with rfl | h
      · exact List.not_mem_nil
      · exact ih h
    · next hc =>
      match hs : splitOn sep rest with
      | [] => exact absurd hs (splitOn_ne_nil sep rest)
      | first :: parts =>
        rw [hs] at h ih
        rcases List.mem_cons.mp h with rfl | h
        · rw [List.mem_cons, not_or]
          exact ⟨Ne.symm hc, ih List.mem_cons_self⟩
        · exact ih (List.mem_cons_of_mem _ h)

/-- Cutting joined parts gives the parts back, when they are free of the separator. -/
theorem splitOn_joinWith {sep : Char} {parts : List (List Char)} (hne : parts ≠ [])
    (h : ∀ part ∈ parts, sep ∉ part) : splitOn sep (joinWith [sep] parts) = parts := by
  induction parts with
  | nil => exact absurd rfl hne
  | cons part rest ih =>
    rw [List.forall_mem_cons] at h
    cases rest with
    | nil => exact splitOn_of_notMem h.1
    | cons next others =>
      rw [joinWith_cons_of_ne_nil _ _ (List.cons_ne_nil next others), List.append_assoc,
        List.singleton_append, splitOn_append_cons h.1, ih (List.cons_ne_nil next others) h.2]

/-- The characters of joined strings. -/
@[simp]
theorem toList_join (sep : String) (parts : List String) :
    (join sep parts).toList = joinWith sep.toList (parts.map String.toList) := by
  simp [join]

/-- Joining the parts of a string gives the string back. -/
theorem join_cut (sep : Char) (s : String) : join (String.ofList [sep]) (cut sep s) = s := by
  rw [← String.toList_inj, toList_join, cut, List.map_map]
  have h : String.toList ∘ String.ofList = id := funext fun _ => String.toList_ofList
  rw [h, List.map_id, String.toList_ofList, joinWith_splitOn]

/-- Cutting joined strings gives the strings back, when they are free of the separator. -/
theorem cut_join {sep : Char} {parts : List String} (hne : parts ≠ [])
    (h : ∀ part ∈ parts, sep ∉ part.toList) :
    cut sep (join (String.ofList [sep]) parts) = parts := by
  have hparts : ∀ part ∈ parts.map String.toList, sep ∉ part := by
    simpa only [List.forall_mem_map] using h
  rw [cut, toList_join, String.toList_ofList, splitOn_joinWith (by simpa using hne) hparts,
    List.map_map]
  have hid : String.ofList ∘ String.toList = id := funext fun _ => String.ofList_toList
  rw [hid, List.map_id]

/-- No part of a string contains the separator. -/
theorem notMem_of_mem_cut {sep : Char} {s part : String} (h : part ∈ cut sep s) :
    sep ∉ part.toList := by
  obtain ⟨chars, hc, rfl⟩ := List.mem_map.mp h
  rw [String.toList_ofList]
  exact notMem_of_mem_splitOn hc

end RestBindings.Text
