import Mathlib.Data.List.Basic
import RestBindings.Proofs.Traversal
import RestBindings.Source.Identifier

/-!
# Identifiers made from names

* What is made from a name is an identifier: it begins with a character that may begin one, has
  only characters that may follow, and is no keyword (`isIdentifier_of_ofChars`).
* A name that is an identifier already stays as it is (`ofChars_of_isIdentifier`). So different
  identifiers never become the same one, while other names may.
* A name gives an identifier exactly when a character of combining class zero is left of it
  (`returns_ofName_iff`), and without one the error says whether there was anything at all
  (`ofName_eq_error_iff`).

`ofName_outcomes` puts this together for every name.
-/

namespace RestBindings

/-! ## Texts without accents -/

namespace Unicode

/-- A character before the first mark is a starter. -/
theorem isStarter_of_lt {c : Char} (h : c.toNat < 0x300) : isStarter c = true := by
  rw [isStarter, combiningClass, if_pos h]
  rfl

/-- A character before the first decomposable one stands for itself. -/
theorem decompose_of_lt {c : Char} (h : c.toNat < 0xA0) : decompose c = [c] := by
  rw [decompose, if_pos h]

/-- Placing a character in front of a starter leaves both where they are. -/
theorem insertOrdered_of_starter {d : Char} (h : isStarter d = true) (c : Char) (s : List Char) :
    insertOrdered c (d :: s) = c :: d :: s := by
  rw [isStarter, beq_iff_eq] at h
  rw [insertOrdered, if_neg (by omega)]

/-- A text of starters is in order. -/
theorem canonicalOrder_of_starters {s : List Char} (h : ∀ c ∈ s, isStarter c = true) :
    canonicalOrder s = s := by
  induction s with
  | nil => rfl
  | cons c rest ih =>
      rw [List.forall_mem_cons] at h
      rw [canonicalOrder, ih h.2]
      cases rest with
      | nil => rfl
      | cons d others => exact insertOrdered_of_starter (h.2 d List.mem_cons_self) c others

/-- A text of characters before the first decomposable one is its own decomposition. -/
theorem compatibilityForm_of_lt {s : List Char} (h : ∀ c ∈ s, c.toNat < 0xA0) :
    compatibilityForm s = s := by
  have hself : s.flatMap decompose = s := by
    induction s with
    | nil => rfl
    | cons c rest ih =>
        rw [List.forall_mem_cons] at h
        rw [List.flatMap_cons, decompose_of_lt h.1, ih h.2, List.singleton_append]
  rw [compatibilityForm, hself]
  exact canonicalOrder_of_starters fun c hc => isStarter_of_lt (Nat.lt_trans (h c hc) (by decide))

/-- Stripping the marks of a text without accented characters changes nothing. -/
theorem stripMarks_of_lt {s : List Char} (h : ∀ c ∈ s, c.toNat < 0xA0) : stripMarks s = s := by
  rw [stripMarks, compatibilityForm_of_lt h]
  exact List.filter_eq_self.mpr fun c hc =>
    isStarter_of_lt (Nat.lt_trans (h c hc) (by decide))

end Unicode

namespace Source.Identifier

/-! ## The shape of an identifier -/

/-- The text is an identifier. -/
def isIdentifier (s : List Char) : Bool :=
  s.head?.any isStart && s.all isPart && !isKeyword s

/-- The codes of the characters that may begin an identifier. -/
theorem isStart_iff {c : Char} : isStart c = true ↔
    (65 ≤ c.toNat ∧ c.toNat ≤ 90) ∨ (97 ≤ c.toNat ∧ c.toNat ≤ 122) ∨ c.toNat = 95 ∨
      c.toNat = 36 := by
  have hunderscore : c = '_' ↔ c.toNat = 95 := by
    rw [← Char.toNat_inj]
    rfl
  have hdollar : c = '$' ↔ c.toNat = 36 := by
    rw [← Char.toNat_inj]
    rfl
  unfold isStart Char.isAlpha Char.isUpper Char.isLower
  simp only [Bool.or_eq_true, Bool.and_eq_true, decide_eq_true_eq, beq_iff_eq, hunderscore,
    hdollar, UInt32.le_iff_toNat_le, ge_iff_le, or_assoc]
  rfl

/-- The codes of the digits. -/
theorem isDigit_iff {c : Char} : c.isDigit = true ↔ 48 ≤ c.toNat ∧ c.toNat ≤ 57 := by
  simp only [Char.isDigit, Bool.and_eq_true, decide_eq_true_eq, UInt32.le_iff_toNat_le,
    ge_iff_le]
  rfl

/-- The characters of identifiers come before all accented characters and all marks. -/
theorem lt_of_isPart {c : Char} (h : isPart c = true) : c.toNat < 0x80 := by
  rw [isPart, Bool.or_eq_true, isStart_iff, isDigit_iff] at h
  omega

/-- ASCII letters and digits may follow the first character. -/
theorem isPart_of_isAlphanum {c : Char} (h : c.isAlphanum = true) : isPart c = true := by
  rcases (Bool.or_eq_true _ _).mp h with ha | hd
  · simp [isPart, isStart, ha]
  · simp [isPart, hd]

/-- No digit begins an identifier. -/
theorem not_isDigit_of_isStart {c : Char} (h : isStart c = true) : ¬ c.isDigit = true := by
  rw [isStart_iff] at h
  rw [isDigit_iff]
  omega

/-- A character that follows the first one and is no digit may be the first one. -/
theorem isStart_of_isPart {c : Char} (h : isPart c = true) (hd : c.isDigit = false) :
    isStart c = true := by
  rw [isPart, hd, Bool.or_false] at h
  exact h

/-- Cleaning leaves only characters of identifiers. -/
theorem isPart_of_mem_clean {name : List Char} {c : Char} (h : c ∈ clean name) :
    isPart c = true := by
  obtain ⟨d, -, rfl⟩ := List.mem_map.mp h
  by_cases hd : isPart d = true
  · rw [if_pos hd]
    exact hd
  · rw [if_neg hd]
    decide

/-- Guarding a leading digit leaves only characters of identifiers. -/
theorem all_isPart_guardDigit {s : List Char} (h : ∀ c ∈ s, isPart c = true) :
    ∀ c ∈ guardDigit s, isPart c = true := by
  cases s with
  | nil => exact h
  | cons c rest =>
      rw [guardDigit]
      split
      · intro d hd
        rcases List.mem_cons.mp hd with rfl | hd
        · decide
        · exact h d hd
      · exact h

/-- Behind the guard of a leading digit a text begins like an identifier. -/
theorem head_guardDigit {s : List Char} (hne : s ≠ []) (h : ∀ c ∈ s, isPart c = true) :
    (guardDigit s).head?.any isStart = true := by
  cases s with
  | nil => exact absurd rfl hne
  | cons c rest =>
      rw [guardDigit]
      by_cases hd : c.isDigit = true
      · rw [if_pos hd]
        rfl
      · rw [if_neg hd]
        rw [Bool.not_eq_true] at hd
        exact isStart_of_isPart (h c List.mem_cons_self) hd

/-- No keyword holds an underscore, so a text with one behind it is none. -/
theorem not_isKeyword_append_underscore (s : List Char) : isKeyword (s ++ ['_']) = false := by
  have hnone : ∀ word ∈ keywords, '_' ∉ word.toList := by decide
  rw [← Bool.not_eq_true]
  intro h
  obtain ⟨word, hw, hs⟩ := List.any_eq_true.mp h
  refine hnone word hw ?_
  rw [beq_iff_eq.mp hs]
  exact List.mem_append_right _ List.mem_cons_self

/-- Guarding a keyword keeps the shape of an identifier and ends with no keyword. -/
theorem isIdentifier_guardKeyword {s : List Char} (hh : s.head?.any isStart = true)
    (hall : ∀ c ∈ s, isPart c = true) : isIdentifier (guardKeyword s) = true := by
  rw [guardKeyword]
  by_cases hk : isKeyword s = true
  · have hhead : (s ++ ['_']).head?.any isStart = true := by
      cases s with
      | nil => exact absurd hh (by decide)
      | cons c rest => exact hh
    have hparts : (s ++ ['_']).all isPart = true := by
      rw [List.all_append, List.all_eq_true.mpr hall]
      decide
    rw [if_pos hk, isIdentifier, hhead, hparts, not_isKeyword_append_underscore s]
    rfl
  · have hnot : isKeyword s = false := by rwa [Bool.not_eq_true] at hk
    rw [if_neg hk, isIdentifier, hh, List.all_eq_true.mpr hall, hnot]
    rfl

/-- **What is made from a name is an identifier.** -/
theorem isIdentifier_of_ofChars {name s : List Char} (h : ofChars name = .ok s) :
    isIdentifier s = true := by
  rw [ofChars] at h
  split at h
  · cases h
  split at h
  · cases h
  · next hne =>
      obtain rfl := Except.ok.inj h
      have hclean : clean name ≠ [] := fun hnil => hne (List.isEmpty_iff.mpr hnil)
      have hparts : ∀ c ∈ clean name, isPart c = true := fun c hc => isPart_of_mem_clean hc
      exact isIdentifier_guardKeyword (head_guardDigit hclean hparts)
        (all_isPart_guardDigit hparts)

/-- The characters of an identifier. -/
theorem isPart_of_isIdentifier {s : List Char} (h : isIdentifier s = true) :
    ∀ c ∈ s, isPart c = true := by
  rw [isIdentifier, Bool.and_eq_true, Bool.and_eq_true] at h
  exact List.all_eq_true.mp h.1.2

/-- An identifier has a first character. -/
theorem ne_nil_of_isIdentifier {s : List Char} (h : isIdentifier s = true) : s ≠ [] := by
  rintro rfl
  exact absurd h (by decide)

/-- **An identifier stays as it is.** -/
theorem ofChars_of_isIdentifier {s : List Char} (h : isIdentifier s = true) :
    ofChars s = .ok s := by
  have hparts := isPart_of_isIdentifier h
  have hne := ne_nil_of_isIdentifier h
  have hstrip : Unicode.stripMarks s = s := Unicode.stripMarks_of_lt fun c hc =>
    Nat.lt_trans (lt_of_isPart (hparts c hc)) (by decide)
  have hclean : clean s = s := by
    rw [clean, hstrip]
    refine (List.map_congr_left fun c hc => if_pos (hparts c hc)).trans ?_
    exact List.map_id s
  have hempty : ¬ s.isEmpty = true := fun he => hne (List.isEmpty_iff.mp he)
  rw [isIdentifier, Bool.and_eq_true, Bool.and_eq_true, Bool.not_eq_true'] at h
  have hdigit : guardDigit s = s := by
    cases s with
    | nil => rfl
    | cons c rest =>
        have hstart : isStart c = true := h.1.1
        rw [guardDigit, if_neg (not_isDigit_of_isStart hstart)]
  have hkeyword : guardKeyword s = s := by
    rw [guardKeyword, h.2]
    rfl
  rw [ofChars, hclean, if_neg hempty, if_neg hempty, hdigit, hkeyword]

/-- A name that is an identifier keeps its text. -/
theorem ofName_of_isIdentifier {name : String} (h : isIdentifier name.toList = true) :
    ofName name = .ok name := by
  rw [ofName, ofChars_of_isIdentifier h]
  exact congrArg Except.ok String.ofList_toList

/-! ## Names that give identifiers -/

/-- A character of combining class zero remains of the name after compatibility
decomposition. -/
def HasStarter (name : String) : Prop :=
  ∃ c ∈ Unicode.compatibilityForm name.toList, Unicode.combiningClass c = 0

/-- A name gives an identifier exactly when a starter remains of it. -/
theorem returns_ofName_iff (name : String) :
    Returns (ofName name) ↔ HasStarter name := by
  have hstrip : HasStarter name ↔ Unicode.stripMarks name.toList ≠ [] := by
    simp [HasStarter, Unicode.stripMarks, Unicode.isStarter, List.filter_eq_nil_iff]
  have hclean : clean name.toList = [] ↔ Unicode.stripMarks name.toList = [] := by
    simp [clean]
  rw [hstrip, ofName, ofChars]
  by_cases he : name.toList.isEmpty
  · have hnil : name.toList = [] := List.isEmpty_iff.mp he
    have hs : Unicode.stripMarks name.toList = [] := by rw [hnil]; rfl
    simp [he, hs, Except.map]
  · by_cases hc : (clean name.toList).isEmpty
    · simp [he, hc, hclean.mp (List.isEmpty_iff.mp hc), Except.map]
    · have hs : Unicode.stripMarks name.toList ≠ [] :=
        fun h => hc (List.isEmpty_iff.mpr (hclean.mpr h))
      simp [he, hc, hs, Except.map]

/-- Why a name without a starter gives no identifier: it is empty, or consists of marks. -/
def lossOf (name : String) : Error :=
  if name = "" then .emptyName else .nothingLeft

/-- A name without a starter gives no identifier. -/
theorem ofName_eq_error_iff {name : String} {cause : Error} :
    ofName name = .error cause ↔ ¬ HasStarter name ∧ cause = lossOf name := by
  have hempty : name.toList.isEmpty ↔ name = "" := by
    rw [List.isEmpty_iff, ← String.toList_inj]
    rfl
  have herror {other : Error} (h : ofName name = .error other) :
      other = lossOf name := by
    unfold ofName ofChars at h
    unfold lossOf
    by_cases he : name = ""
    · rw [if_pos (hempty.mpr he)] at h
      rw [if_pos he]
      cases h
      rfl
    · rw [if_neg (mt hempty.mp he)] at h
      rw [if_neg he]
      split at h
      · cases h
        rfl
      · cases h
  rw [← returns_ofName_iff]
  cases hname : ofName name with
  | ok identifier => simp
  | error other =>
      obtain rfl := herror hname
      simp [eq_comm]

/-! ## All that comes of a name -/

/-- The text begins with a letter, an underscore or a dollar sign, and only these and digits
follow. -/
def Formed (name : String) : Prop :=
  ∃ first rest, name.toList = first :: rest ∧ isStart first = true ∧ ∀ c ∈ rest, isPart c = true

/-- A text is a keyword exactly when it is listed. -/
theorem isKeyword_iff {name : String} : isKeyword name.toList = true ↔ name ∈ keywords := by
  simp only [isKeyword, List.any_eq_true, beq_iff_eq, String.toList_inj]
  exact ⟨fun ⟨word, hw, h⟩ => h ▸ hw, fun h => ⟨name, h, rfl⟩⟩

/-- The identifiers are the well-formed texts that are no keywords. -/
theorem isIdentifier_iff {name : String} :
    isIdentifier name.toList = true ↔ Formed name ∧ name ∉ keywords := by
  have hformed : (name.toList.head?.any isStart && name.toList.all isPart) = true ↔
      Formed name := by
    unfold Formed
    cases hname : name.toList with
    | nil => simp
    | cons first rest =>
        have hpart (h : isStart first = true) : isPart first = true := by simp [isPart, h]
        simp only [List.head?_cons, Option.any_some, List.all_cons, Bool.and_eq_true,
          List.all_eq_true, List.cons.injEq]
        constructor
        · rintro ⟨hs, -, hall⟩
          exact ⟨first, rest, ⟨rfl, rfl⟩, hs, hall⟩
        · rintro ⟨_, _, ⟨rfl, rfl⟩, hs, hall⟩
          exact ⟨hs, hpart hs, hall⟩
  rw [isIdentifier, Bool.and_eq_true, hformed, Bool.not_eq_true', ← Bool.not_eq_true,
    isKeyword_iff]

/-- What is made from a name is an identifier. -/
theorem isIdentifier_of_ofName {name identifier : String} (h : ofName name = .ok identifier) :
    isIdentifier identifier.toList = true := by
  unfold ofName at h
  cases hchars : ofChars name.toList with
  | error cause =>
      rw [hchars] at h
      cases h
  | ok chars =>
      rw [hchars] at h
      cases h
      rw [String.toList_ofList]
      exact isIdentifier_of_ofChars hchars

/-- **All that comes of a name.** It gives an identifier exactly when a character of combining
class zero is left of it after compatibility decomposition; without one, the error says whether
the name is empty or consists of marks. The identifier is well formed and no keyword, and making an
identifier from it changes nothing more; the names that stay as they are are the well-formed ones
that are no keywords. -/
theorem ofName_outcomes (name : String) :
    (Returns (ofName name) ↔
      ∃ c ∈ Unicode.compatibilityForm name.toList, Unicode.combiningClass c = 0) ∧
    (ofName name = .error .emptyName ↔ name = "") ∧
    (ofName name = .error .nothingLeft ↔ name ≠ "" ∧
      ∀ c ∈ Unicode.compatibilityForm name.toList, Unicode.combiningClass c ≠ 0) ∧
    (∀ identifier, ofName name = .ok identifier →
      Formed identifier ∧ identifier ∉ keywords ∧ ofName identifier = .ok identifier) ∧
    (ofName name = .ok name ↔ Formed name ∧ name ∉ keywords) := by
  have hlost : ¬ HasStarter name ↔
      ∀ c ∈ Unicode.compatibilityForm name.toList, Unicode.combiningClass c ≠ 0 := by
    simp [HasStarter]
  have hempty : ¬ HasStarter "" := by
    rintro ⟨c, hc, -⟩
    cases hc
  refine ⟨returns_ofName_iff name, ?_, ?_, fun identifier h => ?_, fun h => ?_, fun h => ?_⟩
  · rw [ofName_eq_error_iff, lossOf]
    split_ifs with hname <;> simp [hname, hempty]
  · rw [ofName_eq_error_iff, lossOf, hlost]
    split_ifs with hname <;> simp [hname]
  · have hid := isIdentifier_of_ofName h
    obtain ⟨hformed, hkeyword⟩ := isIdentifier_iff.mp hid
    exact ⟨hformed, hkeyword, ofName_of_isIdentifier hid⟩
  · exact isIdentifier_iff.mp (isIdentifier_of_ofName h)
  · exact ofName_of_isIdentifier (isIdentifier_iff.mpr h)

/-- A name with a digit in front, a sign and an accent. -/
theorem ofName_outcomes_accented :
    ofName "2-é" = .ok "_2_e" ∧ Formed "_2_e" ∧ "_2_e" ∉ keywords ∧
      ofName "_2_e" = .ok "_2_e" := by
  have h : ofName "2-é" = .ok "_2_e" := by decide +kernel
  obtain ⟨-, -, -, hmade, -⟩ := ofName_outcomes "2-é"
  exact ⟨h, hmade "_2_e" h⟩

end Source.Identifier

end RestBindings
