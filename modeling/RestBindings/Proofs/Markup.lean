import Mathlib.Data.List.TakeWhile
import RestBindings.CommandLine.Markup

/-!
# Messages without tags of their own

A message is put together from fixed tags and from texts that stand in it as they are written. What
is shown of it is found part by part, from the front: a text without brackets and backslashes
(`partsFrom_append`), a tag (`partsFrom_tag`), and a text without brackets at the end
(`partsFrom_of_notMem`). Texts are shown as they are, and tags only change the styles that are open
(`shownParts_append`, `shownParts_tag`).

So a message whose own tags are in order is shown without them whenever the texts in it have no
brackets.
-/

namespace RestBindings.CommandLine.Markup

variable {s tag : List Char} {position : Nat} {styles others : List (List Char)}

/-! ## Parts of a message -/

/-- Only a bracket makes a mark. -/
theorem mark?_of_notMem (h : '[' ∉ s) : mark? s = none := by
  unfold mark?
  split
  · next behind hbehind =>
      have hmem : '[' ∈ s.dropWhile (· == '\\') := by
        rw [hbehind]
        exact List.mem_cons_self
      exact absurd ((List.dropWhile_sublist _).subset hmem) h
  · rfl

/-- A text without brackets is its characters. -/
theorem partsFrom_of_notMem (h : '[' ∉ s) : partsFrom position 0 s = s.map .char := by
  induction s generalizing position with
  | nil => rfl
  | cons c rest ih =>
      have hrest : '[' ∉ rest := mt (List.mem_cons_of_mem c) h
      have hhead : ¬ (c = '\\' ∧ rest.head? = some '[') := fun ⟨_, hhead⟩ =>
        hrest (List.mem_of_mem_head? hhead)
      rw [partsFrom, mark?_of_notMem h]
      simp only [if_neg hhead, ih hrest, List.map_cons]

/-- A text without brackets and backslashes stands in front of what follows. -/
theorem partsFrom_append (h : ∀ c ∈ s, c ≠ '[' ∧ c ≠ '\\') (rest : List Char) :
    partsFrom position 0 (s ++ rest) = s.map .char ++ partsFrom (position + s.length) 0 rest := by
  induction s generalizing position with
  | nil => rfl
  | cons c s ih =>
      obtain ⟨⟨hbracket, hbackslash⟩, hs⟩ := List.forall_mem_cons.mp h
      have hmark : mark? (c :: (s ++ rest)) = none := by
        unfold mark?
        rw [List.dropWhile_cons_of_neg (by simpa using hbackslash)]
        split
        · next hbehind => exact absurd (List.cons.inj hbehind).1 hbracket
        · rfl
      rw [List.cons_append, partsFrom, hmark]
      simp only [hbackslash, false_and, if_false, ih hs, List.map_cons, List.cons_append,
        List.length_cons]
      rw [Nat.add_right_comm, Nat.add_assoc]

/-- Skipped characters have no parts. -/
theorem partsFrom_skip (position : Nat) (s rest : List Char) :
    partsFrom position s.length (s ++ rest) = partsFrom (position + s.length) 0 rest := by
  induction s generalizing position with
  | nil => rfl
  | cons c s ih =>
      rw [List.cons_append, List.length_cons, partsFrom, ih, Nat.add_right_comm, Nat.add_assoc]

/-- A tag is one part. -/
theorem partsFrom_tag {rest : List Char} (h : tagText? (tag ++ ']' :: rest) = some tag) :
    partsFrom position 0 ('[' :: tag ++ ']' :: rest) =
      .tag position tag :: partsFrom (position + tag.length + 2) 0 rest := by
  have hmark : mark? ('[' :: (tag ++ ']' :: rest)) = some ⟨0, tag⟩ := by
    unfold mark?
    simp [h]
  have hskip := partsFrom_skip (position + 1) (tag ++ [']']) rest
  rw [List.append_assoc, List.singleton_append, List.length_append, List.length_singleton] at hskip
  rw [List.cons_append, partsFrom, hmark]
  have hlength : 0 + tag.length + 2 - 1 = tag.length + 1 := by omega
  have hposition : position + 1 + (tag.length + 1) = position + tag.length + 2 := by omega
  simp only [Mark.parts, Mark.length, hlength, hskip, hposition]
  rfl

/-! ## What is shown of parts -/

/-- Characters are shown as they are. -/
theorem shownParts_append (styles : List (List Char)) (s : List Char) (parts : List Part) :
    shownParts styles (s.map .char ++ parts) = (shownParts styles parts).map (s ++ ·) := by
  induction s with
  | nil =>
      rw [List.map_nil, List.nil_append]
      cases shownParts styles parts <;> rfl
  | cons c s ih =>
      rw [List.map_cons, List.cons_append, shownParts, ih]
      cases shownParts styles parts <;> rfl

/-- Nothing but characters is shown as it is. -/
theorem shownParts_chars (s : List Char) : shownParts styles (s.map .char) = .ok s := by
  have happend := shownParts_append styles s []
  rw [List.append_nil] at happend
  rw [happend]
  exact congrArg Except.ok (List.append_nil s)

/-- A tag is not shown. -/
theorem shownParts_tag (h : stylesBehind styles position tag = .ok others) (parts : List Part) :
    shownParts styles (.tag position tag :: parts) = shownParts others parts := by
  rw [shownParts, h]

/-! ## Styles -/

/-- A name that a tag can have: it begins as tags do and has none of the characters at which a tag
is cut. -/
structure IsStyle (name : List Char) : Prop where
  opens : ∃ c rest, name = c :: rest ∧ opensTag c = true
  plain : ∀ c ∈ name, c ∉ ['[', ']', '/', '=']
  nonblank : Text.trim name ≠ []

variable {name : List Char}

/-- The text of a tag ends at its bracket. -/
theorem closedText?_append (h : ∀ c ∈ name, c ∉ ['[', ']', '/', '=']) (rest : List Char) :
    closedText? (name ++ ']' :: rest) = some name := by
  induction name with
  | nil => rfl
  | cons c name ih =>
      obtain ⟨hc, hname⟩ := List.forall_mem_cons.mp h
      have hclose : c ≠ ']' := fun heq => hc (by simp [heq])
      have hopen : c ≠ '[' := fun heq => hc (by simp [heq])
      rw [List.cons_append, closedText?, if_neg hclose, if_neg hopen, ih hname]
      rfl

namespace IsStyle

variable (h : IsStyle name)

include h

/-- The name of a style makes a tag. -/
theorem tagText?_append (rest : List Char) : tagText? (name ++ ']' :: rest) = some name := by
  obtain ⟨c, tail, rfl, hc⟩ := h.opens
  have hplain := (List.forall_mem_cons.mp h.plain).2
  rw [List.cons_append, tagText?, if_pos hc, closedText?_append hplain]
  rfl

/-- The name of a style with a slash in front makes a tag. -/
theorem tagText?_closing (rest : List Char) :
    tagText? ('/' :: name ++ ']' :: rest) = some ('/' :: name) := by
  rw [List.cons_append, tagText?, if_pos (by decide), closedText?_append h.plain]
  rfl

/-- A name has no parameters. -/
theorem before_eq : Text.before '=' name = name := by
  refine List.takeWhile_eq_self_iff.mpr fun c hc => ?_
  have hne : c ≠ '=' := fun heq => h.plain c hc (by simp [heq])
  simpa using hne

/-- The tag of a name opens its style. -/
theorem stylesBehind_open : stylesBehind styles position name = .ok (styleName name :: styles) := by
  unfold stylesBehind
  rw [h.before_eq]
  split
  · next rest => exact absurd (by simp) (h.plain '/' List.mem_cons_self)
  · rfl

/-- The tag of a name with a slash closes its style. -/
theorem stylesBehind_close :
    stylesBehind (styleName name :: styles) position ('/' :: name) = .ok styles := by
  have hbefore : Text.before '=' ('/' :: name) = '/' :: name :=
    congrArg (List.cons '/') h.before_eq
  unfold stylesBehind
  rw [hbefore]
  simp [h.nonblank]

end IsStyle

/-! ## Whole messages -/

/-- A message without brackets is shown as it is. -/
theorem render_of_notMem {message : String} (h : '[' ∉ message.toList) :
    render message = .ok message := by
  rw [render, partsFrom_of_notMem h, shownParts_chars]
  exact congrArg Except.ok (String.ofList_toList)

/-- A text without brackets behind one tag is shown without the tag. -/
theorem render_styled {name text : String} (hname : IsStyle name.toList)
    (h : '[' ∉ text.toList) : render ("[" ++ name ++ "]" ++ text) = .ok text := by
  have hmessage : ("[" ++ name ++ "]" ++ text).toList =
      '[' :: name.toList ++ ']' :: text.toList := by
    simp
  rw [render, hmessage, partsFrom_tag (hname.tagText?_append _),
    shownParts_tag hname.stylesBehind_open, partsFrom_of_notMem h, shownParts_chars]
  exact congrArg Except.ok (String.ofList_toList)

/-- A text without brackets behind another one in a style of its own is shown without the tags. -/
theorem render_emphasised {name emphasised text : String} (hname : IsStyle name.toList)
    (hemphasised : ∀ c ∈ emphasised.toList, c ≠ '[' ∧ c ≠ '\\') (h : '[' ∉ text.toList) :
    render (styled name emphasised ++ text) = .ok (emphasised ++ text) := by
  have hmessage : (styled name emphasised ++ text).toList =
      '[' :: name.toList ++ ']' ::
        (emphasised.toList ++ ('[' :: ('/' :: name.toList) ++ ']' :: text.toList)) := by
    simp [styled]
  rw [render, hmessage, partsFrom_tag (hname.tagText?_append _),
    shownParts_tag hname.stylesBehind_open, partsFrom_append hemphasised, shownParts_append,
    partsFrom_tag (hname.tagText?_closing _), shownParts_tag hname.stylesBehind_close,
    partsFrom_of_notMem h, shownParts_chars]
  exact congrArg Except.ok (String.toList_inj.mp (by simp))

end RestBindings.CommandLine.Markup
