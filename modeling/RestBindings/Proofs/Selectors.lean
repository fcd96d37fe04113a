import Mathlib.Data.List.TakeWhile
import Mathlib.Logic.Relation
import RestBindings.Config.Job
import RestBindings.Proofs.Building

/-!
# What a selector decides

A selector is missing, a text of words between commas, or a list of elements. Three words are
known; an element of a selector is recognised as one of them when it is the word, but for blanks
around it, or the shape of that name (`Token.StandsFor`). An element of any other kind, such as a
word with a comma in it, is not.

A selection is the union of what its elements stand for, with both shapes in place of none
(`Selector.shapes_eq`). So it is neither monotone nor a union itself: a further element can take a
shape away. What holds is that nothing counts but which words are recognised
(`wants_together_iff`). Changes that recognition does not notice (`Unnoticed`) are made of single
steps, of which each keeps the recognised words (`Unnoticed.recognised_iff`).

`Selector.shapes_determined` puts this together for every selector.
-/

namespace RestBindings

/-! ## Trimming -/

namespace Text

/-- Around what trimming leaves of a text there are only blanks. -/
theorem exists_blanks_trim (s : String) :
    ∃ front back : String, isBlankText front = true ∧ isBlankText back = true ∧
      s = front ++ String.ofList (trim s.toList) ++ back := by
  refine ⟨String.ofList (s.toList.takeWhile isBlank),
    String.ofList ((s.toList.dropWhile isBlank).reverse.takeWhile isBlank).reverse, ?_, ?_, ?_⟩
  · rw [isBlankText, String.toList_ofList, List.all_takeWhile]
  · rw [isBlankText, String.toList_ofList, List.all_reverse, List.all_takeWhile]
  · rw [← String.ofList_append, ← String.ofList_append, List.append_assoc, trim, dropTrailing,
      ← List.reverse_append, List.takeWhile_append_dropWhile, List.reverse_reverse,
      List.takeWhile_append_dropWhile, String.ofList_toList]

/-- Blanks around a text do not matter when it is trimmed. -/
theorem trim_surrounded {front back : String} (hf : isBlankText front = true)
    (hb : isBlankText back = true) (s : String) :
    trim (front ++ s ++ back).toList = trim s.toList := by
  have hfront := List.all_eq_true.mp hf
  have hback : ∀ c ∈ back.toList.reverse, isBlank c = true :=
    fun c hc => List.all_eq_true.mp hb c (List.mem_reverse.mp hc)
  rw [String.toList_append, String.toList_append, trim, trim, List.append_assoc,
    List.dropWhile_append_of_pos hfront, List.dropWhile_append]
  split
  · next hnone =>
      rw [List.isEmpty_iff] at hnone
      rw [hnone, List.dropWhile_eq_nil_iff.mpr (List.all_eq_true.mp hb)]
  · rw [dropTrailing, List.reverse_append, List.dropWhile_append_of_pos hback]
    rfl

end Text

namespace Binding

/-! ## Recognised elements -/

/-- A word that selectors know. -/
inductive KnownWord
  | sync
  | async
  | both
  deriving DecidableEq, Repr

namespace KnownWord

/-- The word itself. -/
def text : KnownWord → String
  | sync => "sync"
  | async => "async"
  | both => "both"

/-- The shapes that a known word stands for. -/
def meaning : KnownWord → Shapes
  | sync => .only .sync
  | async => .only .async
  | both => .both

/-- The name of a shape. -/
def ofShape : Shape → KnownWord
  | .sync => sync
  | .async => async

/-- There are no blanks around a known word. -/
theorem trim_text (word : KnownWord) : Text.trim word.text.toList = word.text.toList := by
  cases word <;> decide +kernel

/-- Every known word stands for some shape. -/
theorem exists_wants_meaning (word : KnownWord) :
    ∃ shape, word.meaning.wants shape = true := by
  cases word with
  | sync => exact ⟨.sync, rfl⟩
  | async => exact ⟨.async, rfl⟩
  | both => exact ⟨.sync, rfl⟩

end KnownWord

/-- What an element of a selector is recognised as. -/
inductive Token.StandsFor : Token → KnownWord → Prop
  /-- A known word with blanks around it. -/
  | word {front back : String} (hf : Text.isBlankText front = true)
      (hb : Text.isBlankText back = true) (known : KnownWord) :
      StandsFor (.word (front ++ known.text ++ back)) known
  /-- A shape, as the word that is its name. -/
  | shape (s : Shape) : StandsFor (.shape s) (.ofShape s)

/-- The known word is recognised among the elements of a selector. -/
def Recognised (tokens : List Token) (known : KnownWord) : Prop :=
  ∃ token ∈ tokens, token.StandsFor known

variable {known : KnownWord} {shape : Shape}

/-- A word is recognised as what is left of it when it is trimmed. -/
theorem standsFor_word_iff {text : String} :
    (Token.word text).StandsFor known ↔ Text.trim text.toList = known.text.toList := by
  constructor
  · rintro ⟨hf, hb, known⟩
    rw [Text.trim_surrounded hf hb, known.trim_text]
  · intro h
    obtain ⟨front, back, hf, hb, htext⟩ := Text.exists_blanks_trim text
    rw [h, String.ofList_toList] at htext
    rw [htext]
    exact .word hf hb known

/-- A shape is recognised as its name. -/
theorem standsFor_shape_iff {s : Shape} :
    (Token.shape s).StandsFor known ↔ known = .ofShape s := by
  constructor
  · rintro ⟨⟩
    rfl
  · rintro rfl
    exact .shape s

instance (token : Token) (known : KnownWord) : Decidable (token.StandsFor known) :=
  match token with
  | .word _ => decidable_of_iff _ standsFor_word_iff.symm
  | .shape _ => decidable_of_iff _ standsFor_shape_iff.symm
  | .other => isFalse nofun

instance (tokens : List Token) (known : KnownWord) : Decidable (Recognised tokens known) :=
  inferInstanceAs (Decidable (∃ token ∈ tokens, token.StandsFor known))

/-! ## What elements stand for -/

/-- The shapes that a word stands for are those of the known word that it is. -/
theorem wants_wordMeaning_iff (text : List Char) : (wordMeaning text).wants shape = true ↔
    ∃ known : KnownWord, text = known.text.toList ∧ known.meaning.wants shape = true := by
  constructor
  · intro h
    unfold wordMeaning at h
    split_ifs at h with hsync hasync hboth
    · exact ⟨.sync, hsync, h⟩
    · exact ⟨.async, hasync, h⟩
    · exact ⟨.both, hboth, h⟩
    · cases shape <;> cases h
  · rintro ⟨known, rfl, h⟩
    have hmeaning : wordMeaning known.text.toList = known.meaning := by
      cases known <;> decide +kernel
    rwa [hmeaning]

/-- The shapes that an element stands for are those of what it is recognised as. -/
theorem wants_meaning_iff (token : Token) : token.meaning.wants shape = true ↔
    ∃ known, token.StandsFor known ∧ known.meaning.wants shape = true := by
  cases token with
  | word text =>
      simp only [Token.meaning, wants_wordMeaning_iff, standsFor_word_iff]
  | shape s =>
      have hname : (KnownWord.ofShape s).meaning = .only s := by cases s <;> rfl
      simp only [Token.meaning, standsFor_shape_iff, exists_eq_left, hname]
  | other =>
      refine iff_of_false ?_ ?_
      · cases shape <;> exact nofun
      · rintro ⟨_, ⟨⟩, _⟩

namespace Shapes

/-- Selections that want the same shapes are equal. -/
theorem eq_of_wants {a b : Shapes} (h : ∀ shape, a.wants shape = true ↔ b.wants shape = true) :
    a = b := by
  have hsync : a.sync = b.sync := Bool.eq_iff_iff.mpr (h .sync)
  have hasync : a.async = b.async := Bool.eq_iff_iff.mpr (h .async)
  cases a
  cases b
  simp_all

/-- A union wants what one of its parts wants. -/
theorem wants_union_iff (a b : Shapes) :
    (a.union b).wants shape = true ↔ a.wants shape = true ∨ b.wants shape = true := by
  cases shape with
  | sync => exact Bool.or_eq_true_iff
  | async => exact Bool.or_eq_true_iff

/-- The empty selection wants nothing. -/
theorem not_wants_neither : ¬ neither.wants shape = true := by
  cases shape <;> exact nofun

/-- The shapes that elements of a selector stand for together. -/
def together (tokens : List Token) : Shapes :=
  tokens.foldr (fun token rest => token.meaning.union rest) neither

/-- **Elements stand together for the shapes of the words that are recognised.** -/
theorem wants_together_iff (tokens : List Token) : (together tokens).wants shape = true ↔
    ∃ known, Recognised tokens known ∧ known.meaning.wants shape = true := by
  have hsome : (together tokens).wants shape = true ↔
      ∃ token ∈ tokens, token.meaning.wants shape = true := by
    induction tokens with
    | nil => exact iff_of_false not_wants_neither (by simp)
    | cons token rest ih =>
        have hcons : together (token :: rest) = token.meaning.union (together rest) := rfl
        rw [hcons, wants_union_iff, ih, List.exists_mem_cons_iff]
  simp only [hsome, wants_meaning_iff, Recognised]
  constructor
  · rintro ⟨token, htoken, known, hknown, hwants⟩
    exact ⟨known, ⟨token, htoken, hknown⟩, hwants⟩
  · rintro ⟨known, ⟨token, htoken, hknown⟩, hwants⟩
    exact ⟨token, htoken, known, hknown, hwants⟩

/-- Elements stand together for no shape exactly when none is recognised. -/
theorem together_eq_neither_iff {tokens : List Token} :
    together tokens = neither ↔ ¬ ∃ known, Recognised tokens known := by
  constructor
  · rintro h ⟨known, hknown⟩
    obtain ⟨shape, hshape⟩ := known.exists_wants_meaning
    have hwants := (wants_together_iff tokens).mpr ⟨known, hknown, hshape⟩
    rw [h] at hwants
    exact not_wants_neither hwants
  · intro h
    refine eq_of_wants fun shape => iff_of_false (fun hwants => ?_) not_wants_neither
    obtain ⟨known, hknown, -⟩ := (wants_together_iff tokens).mp hwants
    exact h ⟨known, hknown⟩

/-- Elements among which the same words are recognised stand for the same shapes. -/
theorem together_congr {tokens others : List Token}
    (h : ∀ known, Recognised tokens known ↔ Recognised others known) :
    together tokens = together others :=
  eq_of_wants fun shape => by simp only [wants_together_iff, h]

end Shapes

/-! ## Changes that are not noticed -/

/-- A change to the elements of a selector that recognition does not notice. -/
inductive Unnoticed : List Token → List Token → Prop
  /-- The elements in another order. -/
  | order {xs ys : List Token} (h : xs.Perm ys) : Unnoticed xs ys
  /-- An element once more. -/
  | repetition {token : Token} {tokens : List Token} (h : token ∈ tokens) :
      Unnoticed tokens (token :: tokens)
  /-- Blanks around a word. -/
  | blanks {front back : String} (hf : Text.isBlankText front = true)
      (hb : Text.isBlankText back = true) (text : String) (tokens : List Token) :
      Unnoticed (.word text :: tokens) (.word (front ++ text ++ back) :: tokens)
  /-- A further element that is not recognised. -/
  | unrecognised {token : Token} (h : ∀ known, ¬ token.StandsFor known) (tokens : List Token) :
      Unnoticed tokens (token :: tokens)

/-- **A change that is not noticed** keeps the recognised words. -/
theorem Unnoticed.recognised_iff {xs ys : List Token} (h : Unnoticed xs ys) :
    Recognised xs known ↔ Recognised ys known := by
  unfold Recognised
  cases h with
  | order h => simp only [h.mem_iff]
  | repetition h =>
      rw [List.exists_mem_cons_iff]
      exact ⟨.inr, fun hor => hor.elim (fun hknown => ⟨_, h, hknown⟩) id⟩
  | blanks hf hb text tokens =>
      rw [List.exists_mem_cons_iff, List.exists_mem_cons_iff, standsFor_word_iff,
        standsFor_word_iff, Text.trim_surrounded hf hb]
  | unrecognised h tokens =>
      rw [List.exists_mem_cons_iff]
      exact ⟨.inr, fun hor => hor.resolve_left (h known)⟩

/-- Any number of changes that are not noticed, made or undone, keep the recognised words. -/
theorem recognised_iff_of_unnoticed {xs ys : List Token} (h : Relation.EqvGen Unnoticed xs ys) :
    Recognised xs known ↔ Recognised ys known := by
  induction h with
  | rel _ _ hstep => exact hstep.recognised_iff
  | refl _ => exact Iff.rfl
  | symm _ _ _ ih => exact ih.symm
  | trans _ _ _ _ _ ih₁ ih₂ => exact ih₁.trans ih₂

/-! ## Selectors -/

/-- A selector of call shapes. -/
inductive Selector
  /-- No selector. -/
  | missing
  /-- A text of words between commas. -/
  | text (words : String)
  /-- A list of elements. -/
  | list (tokens : List Token)

namespace Selector

/-- The elements of a selector. -/
def tokens : Selector → List Token
  | missing => []
  | text words => (Text.cut ',' words).map .word
  | list tokens => tokens

/-- The shapes that a selector selects. -/
def shapes : Selector → Shapes
  | missing => .both
  | text words => .ofText words
  | list tokens => .ofTokens tokens

/-- A selector selects what its elements stand for together, and both shapes in place of none. -/
theorem shapes_eq (s : Selector) : s.shapes = (Shapes.together s.tokens).orBoth := by
  cases s <;> rfl

/-- The selector that a value of a configuration holds. -/
def ofValue? : Value → Option Selector
  | .scalar .null => some missing
  | .scalar (.text words) => some (text words)
  | .list items => some (list (items.map Config.tokenOf))
  | _ => none

/-- The shapes that a configuration gives to a job are those of the selector it holds. -/
theorem readShapes_of_ofValue? {value : Value} {s : Selector} (h : ofValue? value = some s) :
    Config.readShapes value = .ok s.shapes := by
  unfold ofValue? at h
  split at h <;> cases h <;> rfl

/-- A selector in which a word is recognised selects the shapes of the recognised words. -/
theorem wants_shapes_iff {s : Selector} (h : ∃ known, Recognised s.tokens known) :
    s.shapes.wants shape = true ↔
      ∃ known, Recognised s.tokens known ∧ known.meaning.wants shape = true := by
  have hne : Shapes.together s.tokens ≠ .neither := fun heq =>
    Shapes.together_eq_neither_iff.mp heq h
  rw [shapes_eq, Shapes.orBoth, if_neg hne, Shapes.wants_together_iff]

/-- A selector in which no word is recognised selects both shapes. -/
theorem shapes_of_none {s : Selector} (h : ¬ ∃ known, Recognised s.tokens known) :
    s.shapes = .both := by
  rw [shapes_eq, Shapes.orBoth, if_pos (Shapes.together_eq_neither_iff.mpr h)]

/-- A further element can take a shape away. -/
example : (list [.word "all"]).shapes = .both ∧
    (list [.word "all", .word "sync"]).shapes = .only .sync := by decide +kernel

/-- Selectors in which the same words are recognised select the same shapes. -/
theorem shapes_congr {s t : Selector}
    (h : ∀ known, Recognised s.tokens known ↔ Recognised t.tokens known) :
    s.shapes = t.shapes := by
  rw [shapes_eq, shapes_eq, Shapes.together_congr h]

/-- A list of shapes, at least one, selects these. -/
theorem wants_shapes_of_members {members : List Shape} (h : members ≠ []) :
    (list (members.map .shape)).shapes.wants shape = true ↔ shape ∈ members := by
  have hrecognised (known : KnownWord) :
      Recognised (members.map .shape) known ↔ ∃ s ∈ members, known = .ofShape s := by
    simp [Recognised, standsFor_shape_iff]
  obtain ⟨first, hfirst⟩ := List.exists_mem_of_ne_nil members h
  have hsome : ∃ known, Recognised (list (members.map .shape)).tokens known :=
    ⟨_, (hrecognised _).mpr ⟨first, hfirst, rfl⟩⟩
  have hname (s : Shape) : (KnownWord.ofShape s).meaning.wants shape = true ↔ shape = s := by
    cases s <;> cases shape <;> decide
  rw [wants_shapes_iff hsome]
  constructor
  · rintro ⟨known, hknown, hwants⟩
    obtain ⟨s, hs, rfl⟩ := (hrecognised known).mp hknown
    rwa [(hname s).mp hwants]
  · intro hmem
    exact ⟨_, (hrecognised _).mpr ⟨shape, hmem, rfl⟩, (hname shape).mpr rfl⟩

/-- **What a selector decides.** Every selector selects some shape. Nothing counts but the known
words that are recognised among its elements, so that order, repetition, blanks around words and
elements that are not recognised do not matter, however often and in whatever order they change.
A text selects what the list of its parts between commas selects. Where a word is recognised, the
selected shapes are those of the recognised words, and both where none is. A list of the selected
shapes, in any order, selects them again. These are the shapes that a configuration gives to a
job. -/
theorem shapes_determined :
    (∀ s : Selector, s.shapes ≠ .neither) ∧
    (∀ s t : Selector, (∀ known, Recognised s.tokens known ↔ Recognised t.tokens known) →
      s.shapes = t.shapes) ∧
    (∀ s t : Selector, Relation.EqvGen Unnoticed s.tokens t.tokens → s.shapes = t.shapes) ∧
    (∀ words : String,
      (text words).shapes = (list ((Text.cut ',' words).map .word)).shapes) ∧
    (∀ s : Selector, (∃ known, Recognised s.tokens known) → ∀ shape,
      s.shapes.wants shape = true ↔
        ∃ known, Recognised s.tokens known ∧ known.meaning.wants shape = true) ∧
    (∀ s : Selector, (¬ ∃ known, Recognised s.tokens known) → s.shapes = .both) ∧
    (∀ (s : Selector) (members : List Shape),
      (∀ shape, shape ∈ members ↔ s.shapes.wants shape = true) →
      (list (members.map .shape)).shapes = s.shapes) ∧
    ∀ (value : Value) (s : Selector), ofValue? value = some s →
      Config.readShapes value = .ok s.shapes := by
  have hsome (s : Selector) : s.shapes ≠ .neither := by
    rw [shapes_eq]
    exact Shapes.orBoth_ne_neither _
  refine ⟨hsome, fun _ _ => shapes_congr, fun s t h => ?_, fun _ => rfl,
    fun _ h _ => wants_shapes_iff h, fun _ => shapes_of_none, fun s members h => ?_,
    fun _ _ => readShapes_of_ofValue?⟩
  · exact shapes_congr fun _ => recognised_iff_of_unnoticed h
  · have hmembers : members ≠ [] := by
      rintro rfl
      refine hsome s (Shapes.eq_of_wants fun shape => ?_)
      exact iff_of_false (fun hwants => List.not_mem_nil ((h shape).mpr hwants))
        Shapes.not_wants_neither
    refine Shapes.eq_of_wants fun shape => ?_
    rw [wants_shapes_of_members hmembers, h]

/-- A text with blanks around a word, a word that is not known, and a repetition. -/
def spaced : Selector :=
  text " async ,all,async"

/-- It selects what the word alone, or the shape of that name, selects. -/
theorem shapes_determined_spaced :
    (∀ known, Recognised spaced.tokens known ↔
      Recognised (list [.shape .async]).tokens known) ∧
    spaced.shapes = (list [.shape .async]).shapes ∧
    Relation.EqvGen Unnoticed spaced.tokens (text "async").tokens ∧
    spaced.shapes = (text "async").shapes ∧
    Recognised spaced.tokens .async ∧ spaced.shapes.wants .async = true ∧
    (¬ ∃ known, Recognised (text "all").tokens known) ∧ (text "all").shapes = .both ∧
    (∀ shape, shape ∈ [Shape.async] ↔ spaced.shapes.wants shape = true) ∧
    (list ([Shape.async].map .shape)).shapes = spaced.shapes ∧
    ofValue? (.ofText " async ,all,async") = some spaced ∧
    Config.readShapes (.ofText " async ,all,async") = .ok spaced.shapes := by
  obtain ⟨-, hsame, hchanged, -, hunion, hnone, hagain, hvalue⟩ := shapes_determined
  have hrecognised : ∀ known, Recognised spaced.tokens known ↔
      Recognised (list [.shape .async]).tokens known := by
    intro known
    cases known <;> decide +kernel
  have hunnoticed : Relation.EqvGen Unnoticed spaced.tokens (text "async").tokens := by
    have htokens : spaced.tokens = [.word " async ", .word "all", .word "async"] := by
      decide +kernel
    have hword : (text "async").tokens = [.word "async"] := by decide +kernel
    have hspaced : " " ++ "async" ++ " " = " async " := by decide +kernel
    have hunknown : ∀ known, ¬ (Token.word "all").StandsFor known := by
      intro known
      cases known <;> decide +kernel
    have hblank : Text.isBlankText " " = true := by decide +kernel
    have hblanks := Unnoticed.blanks hblank hblank "async" [.word "async"]
    rw [hspaced] at hblanks
    rw [htokens, hword]
    refine .trans _ _ _ (.rel _ _ (.order (List.Perm.swap _ _ _))) ?_
    refine .trans _ _ _ (.symm _ _ (.rel _ _ (.unrecognised hunknown _))) ?_
    refine .trans _ _ _ (.symm _ _ (.rel _ _ hblanks)) ?_
    exact .symm _ _ (.rel _ _ (.repetition List.mem_cons_self))
  have hasync : Recognised spaced.tokens .async := by decide +kernel
  have hwants := (hunion spaced ⟨_, hasync⟩ .async).mpr ⟨.async, hasync, rfl⟩
  have hnot : ¬ ∃ known, Recognised (text "all").tokens known := by
    rintro ⟨known, hknown⟩
    revert hknown
    cases known <;> decide +kernel
  have hmembers : ∀ shape, shape ∈ [Shape.async] ↔ spaced.shapes.wants shape = true := by
    intro shape
    cases shape <;> decide +kernel
  have hread : ofValue? (.ofText " async ,all,async") = some spaced := rfl
  exact ⟨hrecognised, hsame _ _ hrecognised, hunnoticed, hchanged _ _ hunnoticed, hasync, hwants,
    hnot, hnone _ hnot, hmembers, hagain _ _ hmembers, hread, hvalue _ _ hread⟩

end Selector

end Binding

end RestBindings
