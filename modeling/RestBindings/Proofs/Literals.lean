import RestBindings.Source.Literal

/-!
# Reading string literals

A literal is scanned from its opening quote: a backslash takes the next character with it, and
the first quote that is not taken ends the literal. What was scanned is unescaped by dropping
the backslashes that took a character.

A text that is put between quotes as it is can be read back exactly when it holds neither a
quote nor a backslash (`exists_scan_bare_iff`), whatever follows the second quote.

A text that is quoted can always be read back: every character of it, with the backslash in front
that it may have got, is scanned as one (`scanBody_escapeChar`), and by induction so is the whole.
`scan_quote` has this for literals with any text behind them.
-/

namespace RestBindings.Source.Literal

/-- The characters up to the quote that ends a literal, and those behind it. -/
def scanBody : List Char → Option (List Char × List Char)
  | [] => none
  | '"' :: rest => some ([], rest)
  | ['\\'] => none
  | '\\' :: c :: rest => (scanBody rest).map fun parts => ('\\' :: c :: parts.1, parts.2)
  | c :: rest => (scanBody rest).map fun parts => (c :: parts.1, parts.2)

/-- The characters between the quotes of the literal that begins a text, and those behind it. -/
def scan : List Char → Option (List Char × List Char)
  | '"' :: rest => scanBody rest
  | _ => none

/-- The characters that the inside of a literal stands for. -/
def unescape : List Char → List Char
  | '\\' :: c :: rest => c :: unescape rest
  | c :: rest => c :: unescape rest
  | [] => []

/-! ## What is scanned -/

/-- A plain character is scanned as it is. -/
theorem scanBody_cons {c : Char} (hq : c ≠ '"') (hb : c ≠ '\\') (rest : List Char) :
    scanBody (c :: rest) = (scanBody rest).map fun parts => (c :: parts.1, parts.2) := by
  rw [scanBody.eq_def]
  split
  · next h => cases h
  · next h => exact absurd (List.cons.inj h).1 hq
  · next h => exact absurd (List.cons.inj h).1 hb
  · next h => exact absurd (List.cons.inj h).1 hb
  · next h =>
      obtain ⟨rfl, rfl⟩ := List.cons.inj h
      rfl

/-- A plain character stands for itself. -/
theorem unescape_cons {c : Char} (hb : c ≠ '\\') (rest : List Char) :
    unescape (c :: rest) = c :: unescape rest := by
  rw [unescape.eq_def]
  split
  · next h => exact absurd (List.cons.inj h).1 hb
  · next h =>
      obtain ⟨rfl, rfl⟩ := List.cons.inj h
      rfl
  · next h => cases h

/-- A character that begins no escape is no backslash, be it the last one or not. -/
theorem ne_backslash_of_plain {c : Char} {rest : List Char} (hlast : c = '\\' → rest = [] → False)
    (hpair : ∀ (d : Char) (others : List Char), c = '\\' → rest = d :: others → False) :
    c ≠ '\\' := by
  intro hc
  cases rest with
  | nil => exact hlast hc rfl
  | cons d others => exact hpair d others hc rfl

/-- What is scanned is the beginning of the text up to a quote. -/
theorem eq_of_scanBody {s body rest : List Char} (h : scanBody s = some (body, rest)) :
    s = body ++ '"' :: rest := by
  induction s using scanBody.induct generalizing body with
  | case1 => cases h
  | case2 tail =>
      obtain ⟨rfl, rfl⟩ := Prod.mk.inj (Option.some.inj h)
      rfl
  | case3 => cases h
  | case4 c tail ih =>
      rw [scanBody] at h
      obtain ⟨parts, hp, heq⟩ := Option.map_eq_some_iff.mp h
      obtain ⟨rfl, rfl⟩ := Prod.mk.inj heq
      rw [ih hp, List.cons_append, List.cons_append]
  | case5 c tail hq hb hpair ih =>
      rw [scanBody_cons hq (ne_backslash_of_plain hb hpair)] at h
      obtain ⟨parts, hp, heq⟩ := Option.map_eq_some_iff.mp h
      obtain ⟨rfl, rfl⟩ := Prod.mk.inj heq
      rw [ih hp, List.cons_append]

/-- A text that holds neither a quote nor a backslash is scanned up to the next quote. -/
theorem scanBody_of_plain {s : List Char} (hq : '"' ∉ s) (hb : '\\' ∉ s) (rest : List Char) :
    scanBody (s ++ '"' :: rest) = some (s, rest) := by
  induction s with
  | nil => rfl
  | cons c s ih =>
      rw [List.mem_cons, not_or] at hq hb
      rw [List.cons_append, scanBody_cons (Ne.symm hq.1) (Ne.symm hb.1), ih hq.2 hb.2]
      rfl

/-- Unescaping never lengthens a text. -/
theorem length_unescape_le (s : List Char) : (unescape s).length ≤ s.length := by
  induction s using unescape.induct with
  | case1 c rest ih =>
      rw [unescape, List.length_cons, List.length_cons, List.length_cons]
      omega
  | case2 c rest hpair ih =>
      rw [unescape.eq_2 c rest hpair, List.length_cons, List.length_cons]
      omega
  | case3 => exact Nat.le_refl _

/-- Of what is scanned, only what holds neither a quote nor a backslash stands for itself. -/
theorem notMem_of_unescape_eq {s body rest : List Char} (h : scanBody s = some (body, rest))
    (hself : unescape body = body) : '"' ∉ body ∧ '\\' ∉ body := by
  induction s using scanBody.induct generalizing body with
  | case1 => cases h
  | case2 tail =>
      obtain ⟨rfl, rfl⟩ := Prod.mk.inj (Option.some.inj h)
      exact ⟨List.not_mem_nil, List.not_mem_nil⟩
  | case3 => cases h
  | case4 c tail ih =>
      -- an escape is shortened, so the whole would not stand for itself
      rw [scanBody] at h
      obtain ⟨parts, hp, heq⟩ := Option.map_eq_some_iff.mp h
      obtain ⟨rfl, rfl⟩ := Prod.mk.inj heq
      have hlength := congrArg List.length hself
      have hle := length_unescape_le parts.1
      rw [unescape, List.length_cons, List.length_cons, List.length_cons] at hlength
      omega
  | case5 c tail hq hb hpair ih =>
      have hbackslash := ne_backslash_of_plain hb hpair
      rw [scanBody_cons hq hbackslash] at h
      obtain ⟨parts, hp, heq⟩ := Option.map_eq_some_iff.mp h
      obtain ⟨rfl, rfl⟩ := Prod.mk.inj heq
      rw [unescape_cons hbackslash] at hself
      obtain ⟨hquote, hslash⟩ := ih hp (List.cons.inj hself).2
      rw [List.mem_cons, List.mem_cons, not_or, not_or]
      exact ⟨⟨Ne.symm hq, hquote⟩, Ne.symm hbackslash, hslash⟩

/-- A text without backslashes stands for itself. -/
theorem unescape_of_plain {s : List Char} (hb : '\\' ∉ s) : unescape s = s := by
  induction s with
  | nil => rfl
  | cons c s ih =>
      rw [List.mem_cons, not_or] at hb
      rw [unescape_cons (Ne.symm hb.1), ih hb.2]

/-- Unescaping drops no quote. -/
theorem count_unescape (s : List Char) : (unescape s).count '"' = s.count '"' := by
  induction s using unescape.induct with
  | case1 c rest ih =>
      have hslash : ('\\' == '"') = false := by decide
      rw [unescape, List.count_cons, List.count_cons, List.count_cons, ih, hslash]
      rfl
  | case2 c rest hpair ih => rw [unescape.eq_2 c rest hpair, List.count_cons, List.count_cons, ih]
  | case3 => rfl

/-- What is scanned from a text between quotes is that text, if it stands for it at all: less
would stand for less, and more would hold the second quote. -/
theorem eq_of_scanBody_bare {value behind body rest : List Char}
    (h : scanBody (value ++ '"' :: behind) = some (body, rest)) (hvalue : unescape body = value) :
    body = value := by
  have hlength : value.length ≤ body.length := by
    rw [← hvalue]
    exact length_unescape_le body
  rcases List.append_eq_append_iff.mp (eq_of_scanBody h) with ⟨more, hbody, hmore⟩ |
    ⟨missing, hbody, -⟩
  · cases more with
    | nil => rw [hbody, List.append_nil]
    | cons c others =>
        obtain ⟨rfl, -⟩ := List.cons.inj hmore
        have hcount := count_unescape body
        rw [hvalue, hbody, List.count_append, List.count_cons_self] at hcount
        omega
  · have hnone : missing = [] := by
      rw [hbody, List.length_append] at hlength
      exact List.eq_nil_of_length_eq_zero (by omega)
    rw [hbody, hnone, List.append_nil]

/-- **A text between quotes** is scanned to something that stands for the text exactly when it
holds neither a quote nor a backslash; then the second quote ends the literal. -/
theorem exists_scan_bare_iff (value behind : List Char) :
    (∃ body rest, scan ('"' :: value ++ '"' :: behind) = some (body, rest) ∧
        unescape body = value) ↔
      '"' ∉ value ∧ '\\' ∉ value := by
  rw [List.cons_append, scan]
  constructor
  · rintro ⟨body, rest, hscan, hvalue⟩
    obtain rfl := eq_of_scanBody_bare hscan hvalue
    exact notMem_of_unescape_eq hscan hvalue
  · rintro ⟨hq, hb⟩
    exact ⟨value, behind, scanBody_of_plain hq hb behind, unescape_of_plain hb⟩

/-! ## Quoted texts -/

/-- Puts a text in place of every occurrence of a character. -/
def replaceAll (old : Char) (new s : List Char) : List Char :=
  s.flatMap fun c => if c = old then new else [c]

/-- Escaping doubles the backslashes first and puts a backslash in front of the quotes then; the
other way round the backslashes of the quotes would be doubled as well. -/
theorem escape_eq_replaceAll (s : List Char) :
    escape s = replaceAll '"' ['\\', '"'] (replaceAll '\\' ['\\', '\\'] s) := by
  rw [replaceAll, replaceAll, List.flatMap_assoc, escape]
  refine congrArg (s.flatMap ·) (funext fun c => ?_)
  by_cases hb : c = '\\'
  · subst hb
    rfl
  · by_cases hq : c = '"'
    · subst hq
      rfl
    · simp [escapeChar, hb, hq]

/-- A character is scanned with the backslash that it may have got. -/
theorem scanBody_escapeChar (c : Char) (s : List Char) :
    scanBody (escapeChar c ++ s) =
      (scanBody s).map fun parts => (escapeChar c ++ parts.1, parts.2) := by
  rw [escapeChar]
  split
  · rfl
  · next h =>
      rw [not_or] at h
      exact scanBody_cons h.2 h.1 s

/-- An escaped character stands for the character. -/
theorem unescape_escapeChar (c : Char) (s : List Char) :
    unescape (escapeChar c ++ s) = c :: unescape s := by
  rw [escapeChar]
  split
  · rfl
  · next h => exact unescape_cons (fun hb => h (.inl hb)) s

/-- An escaped text is scanned up to the quote behind it. -/
theorem scanBody_escape (s behind : List Char) :
    scanBody (escape s ++ '"' :: behind) = some (escape s, behind) := by
  induction s with
  | nil => rfl
  | cons c s ih =>
      have hcons : escape (c :: s) = escapeChar c ++ escape s := List.flatMap_cons
      rw [hcons, List.append_assoc, scanBody_escapeChar, ih]
      rfl

/-- An escaped text stands for the text. -/
theorem unescape_escape (s : List Char) : unescape (escape s) = s := by
  induction s with
  | nil => rfl
  | cons c s ih =>
      have hcons : escape (c :: s) = escapeChar c ++ escape s := List.flatMap_cons
      rw [hcons, unescape_escapeChar, ih]

/-- A literal ends where it ends, whatever follows. -/
theorem scanBody_append {s body rest : List Char} (h : scanBody s = some (body, rest))
    (behind : List Char) : scanBody (s ++ behind) = some (body, rest ++ behind) := by
  induction s using scanBody.induct generalizing body with
  | case1 => cases h
  | case2 tail =>
      obtain ⟨rfl, rfl⟩ := Prod.mk.inj (Option.some.inj h)
      rfl
  | case3 => cases h
  | case4 c tail ih =>
      rw [scanBody] at h
      obtain ⟨parts, hp, heq⟩ := Option.map_eq_some_iff.mp h
      obtain ⟨rfl, rfl⟩ := Prod.mk.inj heq
      rw [List.cons_append, List.cons_append, scanBody, ih hp]
      rfl
  | case5 c tail hq hb hpair ih =>
      have hbackslash := ne_backslash_of_plain hb hpair
      rw [scanBody_cons hq hbackslash] at h
      obtain ⟨parts, hp, heq⟩ := Option.map_eq_some_iff.mp h
      obtain ⟨rfl, rfl⟩ := Prod.mk.inj heq
      rw [List.cons_append, scanBody_cons hq hbackslash, ih hp]
      rfl

theorem scan_append {s body rest : List Char} (h : scan s = some (body, rest))
    (behind : List Char) : scan (s ++ behind) = some (body, rest ++ behind) := by
  unfold scan at h
  split at h
  · exact scanBody_append h behind
  · cases h

/-- The characters of a literal. -/
theorem toList_quote (value : String) :
    (quote value).toList = '"' :: (escape value.toList ++ ['"']) :=
  String.toList_ofList

/-- A literal is scanned to its last quote, whatever follows. -/
theorem scan_append_quote (value : String) (behind : List Char) :
    scan ((quote value).toList ++ behind) = some (escape value.toList, behind) := by
  rw [toList_quote, List.cons_append, scan, List.append_assoc, List.singleton_append,
    scanBody_escape]

/-- Only the whole of a literal is a literal: what is left out behind a scanned beginning is
empty. -/
theorem isSome_scan_take_iff (value : String) (n : Nat) :
    (scan ((quote value).toList.take n)).isSome ↔ (quote value).toList.length ≤ n := by
  constructor
  · intro h
    obtain ⟨⟨body, rest⟩, hscan⟩ := Option.isSome_iff_exists.mp h
    have hwhole := scan_append hscan ((quote value).toList.drop n)
    have hquote := scan_append_quote value []
    rw [List.append_nil] at hquote
    rw [List.take_append_drop, hquote] at hwhole
    have hrest := (Prod.mk.inj (Option.some.inj hwhole)).2
    exact List.drop_eq_nil_iff.mp (List.append_eq_nil_iff.mp hrest.symm).2
  · intro h
    rw [List.take_of_length_le h, ← List.append_nil (quote value).toList, scan_append_quote]
    rfl

/-- **Literals are read back.** Whatever text follows a literal, scanning it from its opening quote
stops right behind its last quote, and what was scanned stands for the value. So different values
have different literals, and no beginning of a literal short of the whole is a literal. -/
theorem scan_quote :
    (∀ value text : String, ∃ body, (quote value).toList = '"' :: (body ++ ['"']) ∧
      scan (quote value ++ text).toList = some (body, text.toList) ∧
      unescape body = value.toList) ∧
    (∀ value other : String, quote value = quote other ↔ value = other) ∧
    ∀ (value : String) (n : Nat),
      (scan ((quote value).toList.take n)).isSome ↔ (quote value).toList.length ≤ n := by
  refine ⟨fun value text => ?_, fun value other => ⟨fun h => ?_, congrArg quote⟩,
    isSome_scan_take_iff⟩
  · refine ⟨escape value.toList, toList_quote value, ?_, unescape_escape _⟩
    rw [String.toList_append, scan_append_quote]
  · -- the literals are scanned to the same, which stands for both values
    have hscan := scan_append_quote value []
    rw [h, scan_append_quote other []] at hscan
    have hbody := (Prod.mk.inj (Option.some.inj hscan)).1
    have hvalue := congrArg unescape hbody
    rw [unescape_escape, unescape_escape] at hvalue
    exact (String.toList_inj.mp hvalue).symm

end RestBindings.Source.Literal
