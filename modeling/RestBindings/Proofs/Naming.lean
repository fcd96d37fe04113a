import Mathlib.Data.List.Basic
import RestBindings.Proofs.Identifiers
import RestBindings.Proofs.Traversal
import RestBindings.Source.Package

/-!
# Names of interfaces and packages

Case mappings turn letters into letters. So a character below the letters, such as a dot, a
slash or a line feed, is in a mapped text exactly when it is in the text itself
(`mem_lowerAfter_iff`, `mem_capitalize_iff`). On ASCII characters they are the mappings of single
letters (`lower_of_ascii`, `capitalize_of_ascii`).

* Such a character is in the name of an interface exactly when it is in the name of the resource
  (`mem_interfaceChars_iff`).
* The name of an interface and the package of a host are made from the nonempty parts of the name
  of the resource and of the host (`words`); further separators make no difference
  (`words_append`, `words_replicate_append`, `interfaceChars_eq`).
* The package of a host with a nonempty label is not the unnamed one (`ofHost_ne_nil`), and a
  package consists of dots and characters of identifiers (`isPart_of_mem_ofHost`).
-/

namespace RestBindings

/-! ## Words -/

namespace Text

/-- The nonempty parts of a text. -/
def words (sep : Char) (s : List Char) : List (List Char) :=
  (splitOn sep s).filter (!·.isEmpty)

variable {sep : Char} {word : List Char}

/-- The words of two texts with the separator between them are those of the one, then those of the
other. -/
theorem words_append (sep : Char) (s t : List Char) :
    words sep (s ++ sep :: t) = words sep s ++ words sep t := by
  rw [words, splitOn_append, List.filter_append]
  rfl

/-- Separators in front of a text add no word. -/
theorem words_replicate_append (sep : Char) (n : Nat) (s : List Char) :
    words sep (List.replicate n sep ++ s) = words sep s := by
  induction n with
  | zero => rfl
  | succ n ih =>
      rw [List.replicate_succ, List.cons_append]
      exact (words_append sep [] _).trans ih

/-- A nonempty text that is free of the separator is one word. -/
theorem words_of_notMem (h : sep ∉ word) (hne : word ≠ []) : words sep word = [word] := by
  rw [words, splitOn_of_notMem h]
  simp [hne]

/-- Separators behind a word add no word. -/
theorem words_append_replicate (h : sep ∉ word) (hne : word ≠ []) (n : Nat) :
    words sep (word ++ List.replicate n sep) = [word] := by
  cases n with
  | zero => rw [List.replicate_zero, List.append_nil, words_of_notMem h hne]
  | succ n =>
      have hnone : words sep (List.replicate n sep) = [] := by
        have hall := words_replicate_append sep n []
        rwa [List.append_nil] at hall
      rw [List.replicate_succ, words_append, words_of_notMem h hne, hnone, List.append_nil]

/-- A word is a nonempty part. -/
theorem mem_words_iff {s : List Char} : word ∈ words sep s ↔ word ∈ splitOn sep s ∧ word ≠ [] := by
  simp [words]

/-- The characters of a word are characters of the text. -/
theorem mem_of_mem_words {s : List Char} (h : word ∈ words sep s) {c : Char} (hc : c ∈ word) :
    c ∈ s := by
  rw [← joinWith_splitOn sep s]
  exact mem_joinWith_of_mem (mem_words_iff.mp h).1 hc

end Text

/-! ## Case mappings -/

namespace Unicode

/-- The character has a code of its own below those of all letters. -/
def BelowLetters (k : Char) : Prop :=
  0 < k.toNat ∧ k.toNat < 65

instance (k : Char) : Decidable (BelowLetters k) :=
  inferInstanceAs (Decidable (0 < k.toNat ∧ k.toNat < 65))

namespace Case

/-- The mapping takes letters to letters. -/
structure Lettered (expansions : List (Nat × List Nat)) (runs : List Run) : Prop where
  expansions : ∀ entry ∈ expansions,
    65 ≤ entry.1 ∧ entry.2 ≠ [] ∧ ∀ code ∈ entry.2, 65 ≤ code
  runs : ∀ run ∈ runs, 65 ≤ run.first ∧ 65 ≤ (run.first : Int) + run.shift

theorem lettered_lower : Lettered lowerExpansions lowerRuns where
  expansions := by decide +kernel
  runs := by decide +kernel

theorem lettered_title : Lettered titleExpansions titleRuns where
  expansions := by decide +kernel
  runs := by decide +kernel

variable {expansions : List (Nat × List Nat)} {runs : List Run} {k : Char}

/-- A character with a code of its own comes from that code only. -/
theorem ofNat_eq_iff (hk : BelowLetters k) (n : Nat) : Char.ofNat n = k ↔ n = k.toNat := by
  constructor
  · rintro rfl
    by_cases hn : n.isValidChar
    · rw [Char.ofNat, dif_pos hn]
      rfl
    · have hpos := hk.1
      rw [Char.ofNat, dif_neg hn] at hpos
      exact absurd hpos (by decide)
  · rintro rfl
    exact Char.ofNat_toNat k

/-- Shifting letters reaches no code below them. -/
theorem shifted_eq_iff (h : ∀ run ∈ runs, 65 ≤ run.first ∧ 65 ≤ (run.first : Int) + run.shift)
    {code target : Nat} (ht : target < 65) : shifted runs code = target ↔ code = target := by
  induction runs with
  | nil => exact Iff.rfl
  | cons run rest ih =>
      rw [List.forall_mem_cons] at h
      rw [shifted]
      by_cases hc : run.covers code = true
      · have hfirst : run.first ≤ code := by
          rw [Run.covers, Bool.and_eq_true, Bool.and_eq_true] at hc
          exact of_decide_eq_true hc.1.1
        have hbounds := h.1
        have hcast : Int.ofNat code = (code : Int) := rfl
        rw [if_pos hc, hcast]
        omega
      · rw [if_neg hc]
        exact ih h.2

/-- A character below the letters is in an image exactly when it is the character mapped. -/
theorem mem_image_iff (h : Lettered expansions runs) (hk : BelowLetters k) (c : Char) :
    k ∈ image expansions runs c ↔ k = c := by
  rw [image]
  cases hl : expansions.lookup c.toNat with
  | none =>
      simp only [List.mem_singleton]
      rw [eq_comm, ofNat_eq_iff hk, shifted_eq_iff h.runs hk.2, Char.toNat_inj, eq_comm]
  | some codes =>
      have hentry := h.expansions _ (mem_of_lookup hl)
      simp only [List.mem_map]
      constructor
      · rintro ⟨code, hcode, heq⟩
        have hge := hentry.2.2 code hcode
        rw [(ofNat_eq_iff hk code).mp heq] at hge
        exact absurd hk.2 (Nat.not_lt.mpr hge)
      · rintro rfl
        exact absurd hk.2 (Nat.not_lt.mpr hentry.1)

/-- No character is mapped to nothing. -/
theorem image_ne_nil (h : Lettered expansions runs) (c : Char) : image expansions runs c ≠ [] := by
  rw [image]
  cases hl : expansions.lookup c.toNat with
  | none => simp
  | some codes =>
      have hentry := h.expansions _ (mem_of_lookup hl)
      simpa using hentry.2.1

end Case

variable {k : Char}

/-- Lowering a text neither adds nor removes a character below the letters. -/
theorem mem_lowerAfter_iff (hk : BelowLetters k) (before s : List Char) :
    k ∈ lowerAfter before s ↔ k ∈ s := by
  induction s generalizing before with
  | nil => exact Iff.rfl
  | cons c rest ih =>
      rw [lowerAfter, List.mem_append, List.mem_cons, ih]
      refine or_congr_left ?_
      by_cases hc : c = 'Σ'
      · subst hc
        -- neither form of a small sigma is below the letters, nor is the capital one
        have hcapital : k ≠ 'Σ' := by
          rintro rfl
          exact absurd hk (by decide)
        have hsmall : k ≠ lowerSigma before rest := by
          rw [lowerSigma]
          split <;> rintro rfl <;> exact absurd hk (by decide)
        simp [hcapital, hsmall]
      · rw [if_neg hc]
        exact Case.mem_image_iff Case.lettered_lower hk c

/-- Capitalising a word neither adds nor removes a character below the letters. -/
theorem mem_capitalize_iff (hk : BelowLetters k) (s : List Char) : k ∈ capitalize s ↔ k ∈ s := by
  cases s with
  | nil => exact Iff.rfl
  | cons c rest =>
      rw [capitalize, List.mem_append, List.mem_cons, mem_lowerAfter_iff hk]
      exact or_congr_left (Case.mem_image_iff Case.lettered_title hk c)

/-- A text with another character than a given one below the letters keeps such a one. -/
theorem exists_ne_of_mem_lowerAfter (hk : BelowLetters k) (before : List Char) {s : List Char}
    {c : Char} (hc : c ∈ s) (hne : c ≠ k) : ∃ d ∈ lowerAfter before s, d ≠ k := by
  induction s generalizing before with
  | nil => cases hc
  | cons a rest ih =>
      rw [lowerAfter]
      rcases List.mem_cons.mp hc with rfl | hc
      · by_cases hs : c = 'Σ'
        · refine ⟨lowerSigma before rest, by simp [hs], ?_⟩
          rw [lowerSigma]
          split <;> rintro rfl <;> exact absurd hk (by decide)
        · obtain ⟨d, hd⟩ := List.exists_mem_of_ne_nil _
            (Case.image_ne_nil Case.lettered_lower c)
          refine ⟨d, List.mem_append_left _ ?_, ?_⟩
          · rw [if_neg hs]
            exact hd
          · rintro rfl
            exact hne ((Case.mem_image_iff Case.lettered_lower hk c).mp hd).symm
      · obtain ⟨d, hd, hdk⟩ := ih (a :: before) hc
        exact ⟨d, List.mem_append_right _ hd, hdk⟩

/-! ### Texts of ASCII characters -/

/-- What is decided of the characters of a text one by one holds of all of them. Deciding the
right-hand side may run through all characters there are. -/
theorem forall_of_all {P : Char → Prop} [DecidablePred P] {s : List Char}
    (h : s.all (fun c => decide (P c)) = true) : ∀ c ∈ s, P c := by
  intro c hc
  exact of_decide_eq_true (List.all_eq_true.mp h c hc)

/-- What holds of the first characters one by one holds of all of them. -/
theorem forall_of_ascii {P : Char → Prop} (h : ∀ n < 128, P (Char.ofNat n)) {c : Char}
    (hc : c.toNat < 128) : P c := by
  have hself := h c.toNat hc
  rwa [Char.ofNat_toNat] at hself

/-- A code in front of all runs is not shifted. -/
theorem Case.shifted_of_lt {runs : List Run} {code : Nat} (h : ∀ run ∈ runs, code < run.first) :
    shifted runs code = code := by
  induction runs with
  | nil => rfl
  | cons run rest ih =>
      rw [List.forall_mem_cons] at h
      have hnot : ¬ run.covers code = true := by
        rw [Run.covers, Bool.and_eq_true, Bool.and_eq_true, decide_eq_true_eq]
        exact fun hc => absurd hc.1.1 (Nat.not_le.mpr h.1)
      rw [shifted, if_neg hnot]
      exact ih h.2

/-- Only the first run of a mapping touches ASCII characters, when all else in it lies behind
them. -/
theorem Case.image_of_ascii {expansions : List (Nat × List Nat)} {run : Run} {others : List Run}
    (hexpansions : ∀ entry ∈ expansions, 128 ≤ entry.1) (hothers : ∀ r ∈ others, 128 ≤ r.first)
    {c : Char} (hc : c.toNat < 128) :
    image expansions (run :: others) c = [Char.ofNat (shifted [run] c.toNat)] := by
  have hlookup : expansions.lookup c.toNat = none := by
    rw [List.lookup_eq_none_iff]
    intro entry he
    have hge := hexpansions entry he
    rw [bne_iff_ne]
    omega
  have hrest : shifted others c.toNat = c.toNat :=
    shifted_of_lt fun r hr => Nat.lt_of_lt_of_le hc (hothers r hr)
  rw [image, hlookup, shifted, shifted, hrest]
  rfl

/-- The lower-case form of an ASCII character. -/
theorem lowerChar_of_ascii {c : Char} (h : c.toNat < 128) : lowerChar c = [c.toLower] := by
  rw [lowerChar, Case.lowerRuns, Case.image_of_ascii (by decide +kernel) (by decide +kernel) h]
  exact forall_of_ascii
    (P := fun c => [Char.ofNat (Case.shifted [⟨0x41, 0x5A, 1, 32⟩] c.toNat)] = [c.toLower])
    (by decide +kernel) h

/-- The title-case form of an ASCII character. -/
theorem titleChar_of_ascii {c : Char} (h : c.toNat < 128) : titleChar c = [c.toUpper] := by
  rw [titleChar, Case.titleRuns, Case.image_of_ascii (by decide +kernel) (by decide +kernel) h]
  exact forall_of_ascii
    (P := fun c => [Char.ofNat (Case.shifted [⟨0x61, 0x7A, 1, -32⟩] c.toNat)] = [c.toUpper])
    (by decide +kernel) h

variable {c : Char}

theorem toLower_lt_of_ascii (h : c.toNat < 128) : c.toLower.toNat < 128 :=
  forall_of_ascii (P := fun c => c.toLower.toNat < 128) (by decide +kernel) h

theorem toUpper_lt_of_ascii (h : c.toNat < 128) : c.toUpper.toNat < 128 :=
  forall_of_ascii (P := fun c => c.toUpper.toNat < 128) (by decide +kernel) h

theorem toLower_toLower_of_ascii (h : c.toNat < 128) : c.toLower.toLower = c.toLower :=
  forall_of_ascii (P := fun c => c.toLower.toLower = c.toLower) (by decide +kernel) h

theorem toLower_toUpper_of_ascii (h : c.toNat < 128) : c.toUpper.toLower = c.toLower :=
  forall_of_ascii (P := fun c => c.toUpper.toLower = c.toLower) (by decide +kernel) h

theorem toUpper_toLower_of_ascii (h : c.toNat < 128) : c.toLower.toUpper = c.toUpper :=
  forall_of_ascii (P := fun c => c.toLower.toUpper = c.toUpper) (by decide +kernel) h

/-- A text of ASCII characters is lowered character by character. -/
theorem lowerAfter_of_ascii {s : List Char} (h : ∀ c ∈ s, c.toNat < 128) (before : List Char) :
    lowerAfter before s = s.map Char.toLower := by
  induction s generalizing before with
  | nil => rfl
  | cons c rest ih =>
      rw [List.forall_mem_cons] at h
      have hsigma : c ≠ 'Σ' := by
        rintro rfl
        exact absurd h.1 (by decide)
      rw [lowerAfter, if_neg hsigma, lowerChar_of_ascii h.1, ih h.2]
      rfl

/-- A text of ASCII characters in lower case. -/
theorem lower_of_ascii {s : List Char} (h : ∀ c ∈ s, c.toNat < 128) :
    lower s = s.map Char.toLower :=
  lowerAfter_of_ascii h []

/-- A word of ASCII characters, capitalised. -/
theorem capitalize_of_ascii {c : Char} {rest : List Char} (h : ∀ d ∈ c :: rest, d.toNat < 128) :
    capitalize (c :: rest) = c.toUpper :: rest.map Char.toLower := by
  rw [List.forall_mem_cons] at h
  rw [capitalize, titleChar_of_ascii h.1, lowerAfter_of_ascii h.2, List.singleton_append]

end Unicode

namespace Source

open Unicode (BelowLetters)

/-! ## Interfaces -/

/-- The name of an interface is made from the words of the name of the resource. -/
theorem Identifier.interfaceChars_eq (resource : List Char) :
    interfaceChars resource = (Text.words '_' resource).flatMap Unicode.capitalize := by
  rw [interfaceChars, Text.words]
  induction Text.splitOn '_' resource with
  | nil => rfl
  | cons part rest ih =>
      cases part with
      | nil => rw [List.flatMap_cons, ih]; rfl
      | cons c others => rw [List.flatMap_cons, ih]; rfl

/-- A character below the letters is in the name of an interface exactly when it is in the name
of the resource. -/
theorem Identifier.mem_interfaceChars_iff {k : Char} (hk : BelowLetters k)
    (resource : List Char) : k ∈ interfaceChars resource ↔ k ∈ resource := by
  have hunderscore : k ≠ '_' := by
    rintro rfl
    exact absurd hk (by decide)
  rw [interfaceChars, List.mem_flatMap]
  constructor
  · rintro ⟨word, hword, hmem⟩
    rw [← Text.joinWith_splitOn '_' resource]
    exact Text.mem_joinWith_of_mem hword ((Unicode.mem_capitalize_iff hk word).mp hmem)
  · intro hmem
    rw [← Text.joinWith_splitOn '_' resource] at hmem
    rcases Text.mem_joinWith hmem with h | ⟨word, hword, hin⟩
    · exact absurd (List.mem_singleton.mp h) hunderscore
    · exact ⟨word, hword, (Unicode.mem_capitalize_iff hk word).mpr hin⟩

/-! ## Packages -/

namespace Package

/-- The labels of a host are its words in lower case. -/
theorem labels_eq (host : List Char) : labels host = Text.words '.' (Unicode.lower host) :=
  rfl

/-- A host with a nonempty label has one in lower case. -/
theorem labels_ne_nil {host label : List Char} (hl : label ∈ Text.splitOn '.' host)
    (hne : label ≠ []) : labels host ≠ [] := by
  obtain ⟨c, hc⟩ := List.exists_mem_of_ne_nil label hne
  have hdot : c ≠ '.' := by
    rintro rfl
    exact Text.notMem_of_mem_splitOn hl hc
  have hhost : c ∈ host := by
    rw [← Text.joinWith_splitOn '.' host]
    exact Text.mem_joinWith_of_mem hl hc
  obtain ⟨d, hd, hne⟩ :=
    Unicode.exists_ne_of_mem_lowerAfter (k := '.') (by decide) [] hhost hdot
  have hlower : d ∈ Text.joinWith ['.'] (Text.splitOn '.' (Unicode.lower host)) := by
    rw [Text.joinWith_splitOn]
    exact hd
  rcases Text.mem_joinWith hlower with h | ⟨part, hp, hin⟩
  · exact absurd (List.mem_singleton.mp h) hne
  · refine List.ne_nil_of_mem (List.mem_filter.mpr ⟨hp, ?_⟩)
    simp [List.ne_nil_of_mem hin]

/-- A package consists of identifiers with dots between them. -/
theorem exists_identifiers_of_ofHost {host package : List Char} (h : ofHost host = .ok package) :
    ∃ identifiers : List (List Char), package = Text.joinWith ['.'] identifiers ∧
      identifiers.length = (labels host).length ∧
      ∀ s ∈ identifiers, Identifier.isIdentifier s = true := by
  rw [ofHost] at h
  cases ha : Traversal.all Identifier.ofChars (labels host).reverse with
  | error e => simp [ha, Except.map] at h
  | ok identifiers =>
      obtain rfl : Text.joinWith ['.'] identifiers = package := by
        simpa [ha, Except.map] using h
      have hall := Traversal.all_eq_ok_iff.mp ha
      refine ⟨identifiers, rfl, ?_, fun s hs => ?_⟩
      · rw [← hall.length_eq, List.length_reverse]
      · obtain ⟨label, -, hlabel⟩ := exists_of_mem_of_forall₂ hall hs
        exact Identifier.isIdentifier_of_ofChars hlabel

/-- The characters of a package are dots and those of identifiers. -/
theorem isPart_of_mem_ofHost {host package : List Char} (h : ofHost host = .ok package)
    {c : Char} (hc : c ∈ package) : c = '.' ∨ Identifier.isPart c = true := by
  obtain ⟨identifiers, rfl, -, hall⟩ := exists_identifiers_of_ofHost h
  rcases Text.mem_joinWith hc with hdot | ⟨s, hs, hmem⟩
  · exact .inl (List.mem_singleton.mp hdot)
  · exact .inr (Identifier.isPart_of_isIdentifier (hall s hs) c hmem)

/-- The package of a host with a label is not empty. -/
theorem ofHost_ne_nil {host package : List Char} (h : ofHost host = .ok package)
    (hl : labels host ≠ []) : package ≠ [] := by
  obtain ⟨identifiers, rfl, hlength, hall⟩ := exists_identifiers_of_ofHost h
  cases identifiers with
  | nil => exact absurd (List.eq_nil_of_length_eq_zero hlength.symm) hl
  | cons first rest =>
      obtain ⟨c, hc⟩ := List.exists_mem_of_ne_nil first
        (Identifier.ne_nil_of_isIdentifier (hall first List.mem_cons_self))
      exact List.ne_nil_of_mem (Text.mem_joinWith_of_mem List.mem_cons_self hc)

/-- The package of a base URL is that of its host. -/
theorem exists_host_of_ofUrl {base package : String} (h : ofUrl base = .ok package) :
    ∃ parts, Url.split base.toList = .ok parts ∧ ofHost parts.host = .ok package.toList := by
  rw [ofUrl] at h
  cases hurl : Url.split base.toList with
  | error cause => simp [hurl] at h
  | ok parts =>
      simp only [hurl] at h
      split at h
      · cases h
      · cases ho : ofHost parts.host with
        | error cause => simp [ho] at h
        | ok chars =>
            obtain rfl : String.ofList chars = package := by simpa [ho] using h
            exact ⟨parts, rfl, by rw [ho, String.toList_ofList]⟩

end Package

end Source

end RestBindings
