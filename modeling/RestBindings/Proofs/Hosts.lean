import RestBindings.Proofs.Cutting
import RestBindings.Proofs.Naming

/-!
# The package of a base URL depends on its host alone

A base URL of the web is written part by part (`BaseUrl`): scheme, user information, the labels of
the host with any number of dots around them, port, and whatever follows. Cutting it gives the
parts back (`split_text`), because no part in front of the suffix holds a character at which a URL
is cut, and the suffix is not looked at. Of the host only the labels count, in lower case
(`labels_host`).

`ofUrl_text` says what the package is: one segment for each label, the last one first.
-/

namespace RestBindings

/-! ## Joined parts -/

namespace Text

variable {sep : Char} {s : List Char}

/-- Mapping the characters of joined parts. -/
theorem map_joinWith (f : Char → Char) (parts : List (List Char)) :
    (joinWith [sep] parts).map f = joinWith [f sep] (parts.map (List.map f)) := by
  induction parts with
  | nil => rfl
  | cons part rest ih =>
      cases rest with
      | nil => rfl
      | cons next others =>
          rw [joinWith_cons_of_ne_nil _ _ (List.cons_ne_nil next others), List.map_append,
            List.map_append, ih, List.map_singleton]
          rfl

/-- The words of a text that is written from words, each with further separators behind it. -/
theorem words_joinWith {parts : List (List Char × Nat)}
    (h : ∀ part ∈ parts, sep ∉ part.1 ∧ part.1 ≠ []) :
    words sep (joinWith [sep] (parts.map fun part => part.1 ++ List.replicate part.2 sep)) =
      parts.map Prod.fst := by
  induction parts with
  | nil => rfl
  | cons part rest ih =>
      rw [List.forall_mem_cons] at h
      have hfirst := words_append_replicate h.1.1 h.1.2 part.2
      cases rest with
      | nil => exact hfirst
      | cons next others =>
          rw [List.map_cons, joinWith_cons_of_ne_nil _ _ (by simp), List.append_assoc,
            List.singleton_append, words_append, hfirst, ih h.2]
          rfl

end Text

namespace Url

/-! ## Base URLs part by part -/

/-- A label of a host: ASCII letters, digits and hyphens. -/
structure Label where
  chars : List Char
  ne_nil : chars ≠ []
  plain : ∀ c ∈ chars, c.isAlphanum = true ∨ c = '-'

/-- The characters of a label are ASCII characters. -/
theorem Label.lt_of_mem (label : Label) {c : Char} (h : c ∈ label.chars) : c.toNat < 128 := by
  rcases label.plain c h with halnum | rfl
  · exact Source.Identifier.lt_of_isPart (Source.Identifier.isPart_of_isAlphanum halnum)
  · decide

/-- The parts that a base URL of the web is written from. -/
structure BaseUrl where
  /-- The scheme, in any letter case. -/
  scheme : List Char
  isWeb : scheme.map Char.toLower = "http".toList ∨ scheme.map Char.toLower = "https".toList
  /-- User information, written in front of an at sign. -/
  user : Option (List Char)
  plainUser : ∀ c ∈ user.getD [], c.isAlphanum = true ∨ c = ':'
  /-- The number of dots in front of the first label. -/
  dots : Nat
  /-- The labels, each with the number of dots behind it besides the one in front of the next. -/
  labels : List (Label × Nat)
  labels_ne_nil : labels ≠ []
  /-- The port, written behind a colon. -/
  port : Option (List Char)
  digits : ∀ c ∈ port.getD [], c.isDigit = true
  /-- Path, query and fragment, if there are any. -/
  suffix : List Char
  ended : ∀ c ∈ suffix.head?, endsAuthority c = true

namespace BaseUrl

/-- A URL with nothing but a scheme, a host with single dots between its labels, and a suffix. -/
def bare (scheme : List Char)
    (isWeb : scheme.map Char.toLower = "http".toList ∨ scheme.map Char.toLower = "https".toList)
    (labels : List Label) (hne : labels ≠ []) (suffix : List Char)
    (ended : ∀ c ∈ suffix.head?, endsAuthority c = true) : BaseUrl where
  scheme
  isWeb
  user := none
  plainUser := nofun
  dots := 0
  labels := labels.map fun label => (label, 0)
  labels_ne_nil := mt List.map_eq_nil_iff.mp hne
  port := none
  digits := nofun
  suffix
  ended

section

variable (u : BaseUrl)

/-- The host as it is written. -/
def host : List Char :=
  List.replicate u.dots '.' ++ Text.joinWith ['.']
    (u.labels.map fun label => label.1.chars ++ List.replicate label.2 '.')

/-- The host and the port. -/
def hostAndPort : List Char :=
  match u.port with
  | none => u.host
  | some port => u.host ++ ':' :: port

/-- User information, host and port. -/
def authority : List Char :=
  match u.user with
  | none => u.hostAndPort
  | some user => user ++ '@' :: u.hostAndPort

/-- The text of the URL. -/
def text : String :=
  String.ofList (u.scheme ++ "://".toList ++ u.authority ++ u.suffix)

/-- The labels of the host in lower case. -/
def lowerLabels : List (List Char) :=
  u.labels.map fun label => label.1.chars.map Char.toLower

end

/-! ### The characters of the parts -/

/-- A character of a host: an ASCII letter, a digit, a hyphen or a dot. -/
def isHostChar (c : Char) : Bool :=
  c.isAlphanum || c == '-' || c == '.'

/-- A character of an authority: one of a host, a colon or an at sign. -/
def isPlain (c : Char) : Bool :=
  isHostChar c || c == ':' || c == '@'

/-- The characters of an authority are ASCII characters. -/
theorem lt_of_isPlain {c : Char} (h : isPlain c = true) : c.toNat < 128 := by
  simp only [isPlain, isHostChar, Bool.or_eq_true, beq_iff_eq] at h
  rcases h with (((halnum | rfl) | rfl) | rfl) | rfl
  · exact Source.Identifier.lt_of_isPart (Source.Identifier.isPart_of_isAlphanum halnum)
  all_goals decide

/-- At no character of an authority is a URL cut or a host enclosed. -/
theorem of_isPlain {c : Char} (h : isPlain c = true) :
    endsAuthority c = false ∧ isRemoved c = false ∧ c ≠ '[' ∧ c ≠ ']' :=
  Unicode.forall_of_ascii (P := fun c => isPlain c = true →
    endsAuthority c = false ∧ isRemoved c = false ∧ c ≠ '[' ∧ c ≠ ']')
    (by decide +kernel) (lt_of_isPlain h) h

/-- The characters of hosts are none of those around a host. -/
theorem of_isHostChar {c : Char} (h : isHostChar c = true) : c ≠ '@' ∧ c ≠ ':' ∧ c ≠ '%' := by
  refine ⟨?_, ?_, ?_⟩ <;> rintro rfl <;> exact absurd h (by decide)

variable (u : BaseUrl)

/-- The characters of the host. -/
theorem isHostChar_of_mem_host {c : Char} (h : c ∈ u.host) : isHostChar c = true := by
  rw [host, List.mem_append] at h
  rcases h with hdots | hlabels
  · rw [List.eq_of_mem_replicate hdots]
    rfl
  · rcases Text.mem_joinWith hlabels with hdot | ⟨part, hp, hc⟩
    · rw [List.mem_singleton.mp hdot]
      rfl
    · obtain ⟨label, -, rfl⟩ := List.mem_map.mp hp
      rcases List.mem_append.mp hc with hc | hc
      · rcases label.1.plain c hc with halnum | rfl
        · simp [isHostChar, halnum]
        · rfl
      · rw [List.eq_of_mem_replicate hc]
        rfl

/-- The characters of the host are ASCII characters. -/
theorem lt_of_mem_host {c : Char} (h : c ∈ u.host) : c.toNat < 128 :=
  lt_of_isPlain (by simp [isPlain, u.isHostChar_of_mem_host h])

/-- The characters of the host and the port. -/
theorem of_mem_hostAndPort {c : Char} (h : c ∈ u.hostAndPort) :
    isHostChar c = true ∨ c = ':' := by
  unfold hostAndPort at h
  split at h
  · exact .inl (u.isHostChar_of_mem_host h)
  · next port hport =>
      rcases List.mem_append.mp h with h | h
      · exact .inl (u.isHostChar_of_mem_host h)
      rcases List.mem_cons.mp h with rfl | h
      · exact .inr rfl
      · have hdigit := u.digits c (by rw [hport]; exact h)
        exact .inl (by simp [isHostChar, Char.isAlphanum, hdigit])

/-- The characters of the authority. -/
theorem isPlain_of_mem_authority {c : Char} (h : c ∈ u.authority) : isPlain c = true := by
  have hbehind (h : c ∈ u.hostAndPort) : isPlain c = true := by
    rcases u.of_mem_hostAndPort h with hc | rfl
    · simp [isPlain, hc]
    · rfl
  unfold authority at h
  split at h
  · exact hbehind h
  · next user huser =>
      rcases List.mem_append.mp h with h | h
      · rcases u.plainUser c (by rw [huser]; exact h) with halnum | rfl
        · simp [isPlain, isHostChar, halnum]
        · rfl
      rcases List.mem_cons.mp h with rfl | h
      · rfl
      · exact hbehind h

/-- A letter in lower case was a letter. -/
theorem isAlpha_of_toLower {c : Char} (h : c.toLower.isAlpha = true) : c.isAlpha = true := by
  by_cases hupper : c.isUpper = true
  · show (c.isUpper || c.isLower) = true
    rw [hupper]
    rfl
  · have hsame : c.toLower = c := dif_neg fun hrange => hupper (decide_eq_true hrange)
    rwa [hsame] at h

/-- The scheme is a word of letters. -/
theorem scheme_letters : u.scheme ≠ [] ∧ ∀ c ∈ u.scheme, c.isAlpha = true := by
  constructor
  · intro hnil
    rcases u.isWeb with hw | hw <;> rw [hnil] at hw <;> cases hw
  · intro c hc
    have hweb : ∀ d ∈ u.scheme.map Char.toLower, d.isAlpha = true := by
      rcases u.isWeb with hw | hw
      all_goals
        rw [hw]
        exact Unicode.forall_of_all (by decide)
    exact isAlpha_of_toLower (hweb _ (List.mem_map_of_mem hc))

/-! ### Cutting the text -/

/-- What counts of the suffix. -/
def significantSuffix : List Char :=
  u.suffix.filter fun c => !isRemoved c

/-- What counts of the suffix begins as the suffix does. -/
theorem endsAuthority_of_mem_head {c : Char} (h : c ∈ u.significantSuffix.head?) :
    endsAuthority c = true := by
  have hended := u.ended
  unfold significantSuffix at h
  cases hs : u.suffix with
  | nil =>
      rw [hs] at h
      cases h
  | cons d rest =>
      rw [hs] at h hended
      have hd : endsAuthority d = true := hended d rfl
      have hkept : (!isRemoved d) = true := by
        simp only [endsAuthority, Bool.or_eq_true, beq_iff_eq] at hd
        rcases hd with (rfl | rfl) | rfl <;> rfl
      rw [List.filter_cons_of_pos (by simpa using hkept)] at h
      obtain rfl := Option.some.inj h
      exact hd

/-- Everything in front of the suffix counts. -/
theorem significant_text :
    significant u.text.toList =
      u.scheme ++ "://".toList ++ u.authority ++ u.significantSuffix := by
  obtain ⟨hne, hletters⟩ := u.scheme_letters
  have hletter {c : Char} (h : c.isAlpha = true) : isSkipped c = false ∧ isRemoved c = false := by
    have hpart := Source.Identifier.isPart_of_isAlphanum (c := c) (by simp [Char.isAlphanum, h])
    exact Unicode.forall_of_ascii
      (P := fun c => c.isAlpha = true → isSkipped c = false ∧ isRemoved c = false)
      (by decide +kernel) (Source.Identifier.lt_of_isPart hpart) h
  have hskip : u.text.toList.dropWhile isSkipped = u.text.toList := by
    rw [text, String.toList_ofList]
    cases hs : u.scheme with
    | nil => exact absurd hs hne
    | cons c rest =>
        have hc := (hletter (hletters c (by rw [hs]; exact List.mem_cons_self))).1
        rw [List.cons_append, List.cons_append, List.cons_append, List.dropWhile_cons, hc]
        rfl
  have hfront : ∀ c ∈ u.scheme ++ "://".toList ++ u.authority, (!isRemoved c) = true := by
    intro c hc
    rcases List.mem_append.mp hc with hc | hc
    · rcases List.mem_append.mp hc with hc | hc
      · rw [(hletter (hletters c hc)).2]
        rfl
      · have hall : ∀ c ∈ "://".toList, (!isRemoved c) = true :=
          Unicode.forall_of_all (by decide)
        exact hall c hc
    · rw [(of_isPlain (u.isPlain_of_mem_authority hc)).2.1]
      rfl
  rw [significant, hskip, text, String.toList_ofList, List.filter_append,
    List.filter_eq_self.mpr hfront]
  rfl

/-- The scheme ends at the first colon. -/
theorem splitScheme_text :
    splitScheme (u.scheme ++ "://".toList ++ u.authority ++ u.significantSuffix) =
      (u.scheme.map Char.toLower, '/' :: '/' :: (u.authority ++ u.significantSuffix)) := by
  obtain ⟨hne, hletters⟩ := u.scheme_letters
  have hcolon : ':' ∉ u.scheme := fun h => absurd (hletters ':' h) (by decide)
  have htext : u.scheme ++ "://".toList ++ u.authority ++ u.significantSuffix =
      u.scheme ++ ':' :: ('/' :: '/' :: (u.authority ++ u.significantSuffix)) := by simp
  have hscheme : isScheme u.scheme = true := by
    have hall : u.scheme.all isSchemeChar = true := by
      rw [List.all_eq_true]
      intro c hc
      simp [isSchemeChar, Char.isAlphanum, hletters c hc]
    cases hs : u.scheme with
    | nil => exact absurd hs hne
    | cons c rest =>
        rw [hs] at hletters hall
        have hc := hletters c List.mem_cons_self
        rw [isScheme, hall]
        simp [hc]
  rw [htext, splitScheme, Text.before_append_cons hcolon, Text.after_append_cons hcolon, hscheme]
  simp

/-- The authority ends where the suffix begins. -/
theorem splitAuthority_text :
    splitAuthority ('/' :: '/' :: (u.authority ++ u.significantSuffix)) =
      (u.authority, u.significantSuffix) := by
  have hauthority : ∀ c ∈ u.authority, (!endsAuthority c) = true := fun c hc => by
    rw [(of_isPlain (u.isPlain_of_mem_authority hc)).1]
    rfl
  rw [splitAuthority, List.takeWhile_append_of_pos hauthority,
    List.dropWhile_append_of_pos hauthority]
  cases hs : u.significantSuffix with
  | nil => simp
  | cons c rest =>
      have hc := u.endsAuthority_of_mem_head (c := c) (by rw [hs]; rfl)
      rw [List.takeWhile_cons, List.dropWhile_cons, hc]
      simp

/-- The authority has no brackets. -/
theorem notMem_authority : '[' ∉ u.authority ∧ ']' ∉ u.authority :=
  ⟨fun h => (of_isPlain (u.isPlain_of_mem_authority h)).2.2.1 rfl,
    fun h => (of_isPlain (u.isPlain_of_mem_authority h)).2.2.2 rfl⟩

/-- **The parts of a base URL come back** when its text is cut. -/
theorem split_text : Url.split u.text.toList = .ok
    { scheme := u.scheme.map Char.toLower
      authority := u.authority
      rest := u.significantSuffix } := by
  have hbrackets : checkBrackets u.authority = .ok () := by
    rw [checkBrackets]
    simp [u.notMem_authority]
  have hdelimiters : checkDelimiters u.authority = .ok () := by
    have hascii : ∀ c ∈ u.authority.filter (!isDelimiter ·), c.toNat < 0xA0 := fun c hc =>
      Nat.lt_trans (lt_of_isPlain (u.isPlain_of_mem_authority (List.mem_filter.mp hc).1))
        (by decide)
    rw [checkDelimiters, Unicode.compatibilityForm_of_lt hascii]
    simp
  rw [Url.split, u.significant_text, u.splitScheme_text]
  simp only [u.splitAuthority_text, hbrackets, hdelimiters]
  rfl

/-! ### The host -/

/-- The host is what stands between the user information and the port. -/
theorem writtenHost_authority : writtenHost u.authority = u.host := by
  have hat : '@' ∉ u.hostAndPort := by
    intro h
    rcases u.of_mem_hostAndPort h with hc | hc
    · exact (of_isHostChar hc).1 rfl
    · exact absurd hc (by decide)
  have hbehind : Text.afterLast '@' u.authority = u.hostAndPort := by
    unfold authority
    split
    · exact Text.afterLast_of_notMem hat
    · exact Text.afterLast_append_cons hat _
  have hopen : '[' ∉ u.hostAndPort := by
    intro h
    rcases u.of_mem_hostAndPort h with hc | hc
    · exact absurd hc (by decide)
    · exact absurd hc (by decide)
  have hcolon : ':' ∉ u.host := fun h => (of_isHostChar (u.isHostChar_of_mem_host h)).2.1 rfl
  have hport : Text.before ':' u.hostAndPort = u.host := by
    unfold hostAndPort
    split
    · exact Text.before_of_notMem hcolon
    · exact Text.before_append_cons hcolon _
  rw [writtenHost, hbehind]
  simp [hopen, hport]

/-- The host that cutting gives is the written one in lower case. -/
theorem host_split (scheme rest : List Char) :
    Parts.host { scheme, authority := u.authority, rest } = u.host.map Char.toLower := by
  have hpercent : '%' ∉ u.host := fun h => (of_isHostChar (u.isHostChar_of_mem_host h)).2.2 rfl
  have hzone : u.host.dropWhile (· != '%') = [] :=
    List.dropWhile_eq_nil_iff.mpr (Text.forall_bne_of_notMem hpercent)
  rw [Parts.host, u.writtenHost_authority, Text.before_of_notMem hpercent, hzone,
    Unicode.lower_of_ascii fun _ => u.lt_of_mem_host, List.append_nil]

/-- The host is not empty. -/
theorem host_ne_nil : u.host ≠ [] := by
  obtain ⟨first, rest, hlabels⟩ := List.exists_cons_of_ne_nil u.labels_ne_nil
  obtain ⟨c, hc⟩ := List.exists_mem_of_ne_nil _ first.1.ne_nil
  have hmem : c ∈ Text.joinWith ['.']
      (u.labels.map fun label => label.1.chars ++ List.replicate label.2 '.') := by
    rw [hlabels, List.map_cons]
    exact Text.mem_joinWith_of_mem List.mem_cons_self (List.mem_append_left _ hc)
  exact List.ne_nil_of_mem (List.mem_append_right _ hmem)

end BaseUrl

end Url

namespace Source.Package

open Url (BaseUrl Label)

/-! ## The package -/

/-- A label in lower case consists of ASCII letters, digits and hyphens. -/
theorem lower_label (label : Label) : ∀ c ∈ label.chars.map Char.toLower,
    c.toNat < 128 ∧ (c.isAlphanum = true ∨ c = '-') := by
  have hlower : ∀ c : Char, c.toNat < 128 → (c.isAlphanum = true ∨ c = '-') →
      c.toLower.isAlphanum = true ∨ c.toLower = '-' := fun c =>
    Unicode.forall_of_ascii (P := fun c => (c.isAlphanum = true ∨ c = '-') →
      c.toLower.isAlphanum = true ∨ c.toLower = '-') (by decide +kernel)
  intro c hc
  obtain ⟨d, hd, rfl⟩ := List.mem_map.mp hc
  have hascii := label.lt_of_mem hd
  exact ⟨Unicode.toLower_lt_of_ascii hascii, hlower d hascii (label.plain d hd)⟩

/-- The labels of the host are the labels that the URL is written with, in lower case. -/
theorem labels_host (u : BaseUrl) : labels (u.host.map Char.toLower) = u.lowerLabels := by
  have hhost : u.host.map Char.toLower = List.replicate u.dots '.' ++ Text.joinWith ['.']
      ((u.labels.map fun label => (label.1.chars.map Char.toLower, label.2)).map fun part =>
        part.1 ++ List.replicate part.2 '.') := by
    rw [BaseUrl.host, List.map_append, Text.map_joinWith, List.map_replicate, List.map_map,
      List.map_map]
    simp [Function.comp_def]
  have hwords : ∀ part ∈ u.labels.map fun label => (label.1.chars.map Char.toLower, label.2),
      '.' ∉ part.1 ∧ part.1 ≠ [] := by
    refine List.forall_mem_map.mpr fun label _ => ⟨fun hdot => ?_, ?_⟩
    · exact absurd (lower_label label.1 '.' hdot).2 (by decide)
    · simpa using label.1.ne_nil
  have hlower : Unicode.lower (u.host.map Char.toLower) = u.host.map Char.toLower := by
    rw [Unicode.lower_of_ascii, List.map_map]
    · exact List.map_congr_left fun c hc => Unicode.toLower_toLower_of_ascii (u.lt_of_mem_host hc)
    · exact List.forall_mem_map.mpr fun c hc => Unicode.toLower_lt_of_ascii (u.lt_of_mem_host hc)
  rw [labels_eq, hlower, hhost, Text.words_replicate_append, Text.words_joinWith hwords,
    List.map_map]
  rfl

/-- The segment of a package for a label: the label in lower case with underscores for hyphens,
behind an underscore if it begins with a digit, in front of one if it is a keyword. -/
def segment (label : List Char) : List Char :=
  let word := (label.map Char.toLower).map fun c => if c = '-' then '_' else c
  (if word.head?.any Char.isDigit then ['_'] else []) ++ word ++
    (if String.ofList word ∈ Identifier.keywords then ['_'] else [])

/-- Guarding a word puts an underscore in front of a digit and one behind a keyword; no keyword
begins with either. -/
theorem guardKeyword_guardDigit (word : List Char) :
    Identifier.guardKeyword (Identifier.guardDigit word) =
      (if word.head?.any Char.isDigit then ['_'] else []) ++ word ++
        (if String.ofList word ∈ Identifier.keywords then ['_'] else []) := by
  have hkeyword (s : List Char) :
      Identifier.isKeyword s = true ↔ String.ofList s ∈ Identifier.keywords := by
    rw [← Identifier.isKeyword_iff, String.toList_ofList]
  have hnone {s : List Char} (h : s.head?.any (fun c => c.isDigit || c == '_') = true) :
      String.ofList s ∉ Identifier.keywords := by
    have hstart : ∀ k ∈ Identifier.keywords,
        k.toList.head?.any (fun c => c.isDigit || c == '_') = false := by decide
    intro hmem
    have hfirst := hstart _ hmem
    rw [String.toList_ofList, h] at hfirst
    cases hfirst
  cases word with
  | nil => rfl
  | cons c rest =>
      by_cases hdigit : c.isDigit = true
      · have hhead : (c :: rest).head?.any Char.isDigit = true := hdigit
        have hplain : String.ofList (c :: rest) ∉ Identifier.keywords := hnone (by simp [hdigit])
        have hguarded : ¬ Identifier.isKeyword ('_' :: c :: rest) = true :=
          mt (hkeyword _).mp (hnone rfl)
        rw [Identifier.guardDigit, if_pos hdigit, Identifier.guardKeyword, if_neg hguarded,
          if_pos hhead, if_neg hplain, List.append_nil]
        rfl
      · have hhead : ¬ (c :: rest).head?.any Char.isDigit = true := hdigit
        rw [Identifier.guardDigit, if_neg hdigit, Identifier.guardKeyword, if_neg hhead,
          List.nil_append]
        by_cases hk : Identifier.isKeyword (c :: rest) = true
        · rw [if_pos hk, if_pos ((hkeyword _).mp hk)]
        · rw [if_neg hk, if_neg (mt (hkeyword _).mpr hk), List.append_nil]

/-- The identifier for a label in lower case is its segment. -/
theorem ofChars_label (label : Label) :
    Identifier.ofChars (label.chars.map Char.toLower) = .ok (segment label.chars) := by
  have hplain := lower_label label
  have hstrip : Unicode.stripMarks (label.chars.map Char.toLower) =
      label.chars.map Char.toLower :=
    Unicode.stripMarks_of_lt fun c hc => Nat.lt_trans (hplain c hc).1 (by decide)
  have hclean : Identifier.clean (label.chars.map Char.toLower) =
      (label.chars.map Char.toLower).map fun c => if c = '-' then '_' else c := by
    rw [Identifier.clean, hstrip]
    refine List.map_congr_left fun c hc => ?_
    rcases (hplain c hc).2 with halnum | rfl
    · have hhyphen : c ≠ '-' := by
        rintro rfl
        exact absurd halnum (by decide)
      rw [if_pos (Identifier.isPart_of_isAlphanum halnum), if_neg hhyphen]
    · rfl
  have hne := label.ne_nil
  rw [Identifier.ofChars, hclean, guardKeyword_guardDigit]
  simp [hne, segment]

/-- Letter case makes no difference to a segment. -/
theorem segment_lower (label : Label) :
    segment (label.chars.map Char.toLower) = segment label.chars := by
  have htwice : (label.chars.map Char.toLower).map Char.toLower = label.chars.map Char.toLower := by
    rw [List.map_map]
    exact List.map_congr_left fun c hc => Unicode.toLower_toLower_of_ascii (label.lt_of_mem hc)
  rw [segment, htwice]
  rfl

/-- The text of a package: its segments with dots between them. -/
def ofSegments (segments : List (List Char)) : String :=
  String.ofList (Text.joinWith ['.'] segments)

/-- The package of the host of a base URL. -/
theorem ofHost_host (u : BaseUrl) : ofHost (u.host.map Char.toLower) =
    .ok (Text.joinWith ['.'] (u.labels.map fun label => segment label.1.chars).reverse) := by
  have hsegments : Traversal.all Identifier.ofChars u.lowerLabels.reverse =
      .ok (u.labels.map fun label => segment label.1.chars).reverse := by
    rw [Traversal.all_eq_ok_iff, List.forall₂_reverse_iff, BaseUrl.lowerLabels,
      List.forall₂_map_left_iff, List.forall₂_map_right_iff, List.forall₂_same]
    exact fun label _ => ofChars_label label.1
  rw [ofHost, labels_host, hsegments]
  rfl

/-- The package of a base URL has one segment for each label, the last one first. -/
theorem ofUrl_eq (u : BaseUrl) : ofUrl u.text =
    .ok (ofSegments (u.labels.map fun label => segment label.1.chars).reverse) := by
  have hne := u.host_ne_nil
  rw [ofUrl, u.split_text]
  simp only [u.host_split, ofHost_host]
  simp [hne, ofSegments]

/-- **The package of a base URL depends on its host alone.** It has one segment for each label, the
last one first; and two base URLs have one package as soon as their labels are equal in lower case,
whatever their schemes, user information, further dots, ports and suffixes are. -/
theorem ofUrl_text (u : BaseUrl) :
    ofUrl u.text = .ok (ofSegments (u.labels.map fun label => segment label.1.chars).reverse) ∧
      ∀ v : BaseUrl, v.lowerLabels = u.lowerLabels → ofUrl v.text = ofUrl u.text := by
  have hlower (u : BaseUrl) :
      (u.labels.map fun label => segment label.1.chars) = u.lowerLabels.map segment := by
    rw [BaseUrl.lowerLabels, List.map_map]
    exact List.map_congr_left fun label _ => (segment_lower label.1).symm
  refine ⟨ofUrl_eq u, fun v hv => ?_⟩
  rw [ofUrl_eq, ofUrl_eq, hlower, hlower, hv]

/-- A base URL with every part, whose suffix holds the signs that divide the parts. -/
def crowdedUrl : BaseUrl where
  scheme := "HttpS".toList
  isWeb := by decide
  user := some "me:1".toList
  plainUser := Unicode.forall_of_all (by decide)
  dots := 1
  labels := [(⟨"2nd-API".toList, by decide, Unicode.forall_of_all (by decide)⟩, 0),
    (⟨"New".toList, by decide, Unicode.forall_of_all (by decide)⟩, 2)]
  labels_ne_nil := by decide
  port := some "8080".toList
  digits := Unicode.forall_of_all (by decide)
  suffix := "?v=1@x.y:2/#.".toList
  ended := by
    intro c hc
    obtain rfl := Option.some.inj hc
    rfl

/-- A base URL with the same labels and nothing else. -/
def bareUrl : BaseUrl :=
  .bare "http".toList (by decide)
    [⟨"2ND-api".toList, by decide, Unicode.forall_of_all (by decide)⟩,
      ⟨"new".toList, by decide, Unicode.forall_of_all (by decide)⟩]
    (List.cons_ne_nil _ _) [] nofun

/-- Both have one package, with an underscore in front of the digit and one behind the keyword. -/
theorem ofUrl_text_crowdedUrl :
    crowdedUrl.text = "HttpS://me:1@.2nd-API.New..:8080?v=1@x.y:2/#." ∧
      bareUrl.text = "http://2ND-api.new" ∧
      ofUrl crowdedUrl.text = .ok "new_._2nd_api" ∧
      ofUrl bareUrl.text = ofUrl crowdedUrl.text := by
  obtain ⟨hpackage, hsame⟩ := ofUrl_text crowdedUrl
  exact ⟨by decide, by decide, hpackage, hsame bareUrl (by decide)⟩

end Source.Package

end RestBindings
