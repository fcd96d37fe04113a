import RestBindings.Proofs.Identifiers

/-!
# Accents are removed character by character

The compatibility decomposition of a text is not put together from those of its characters: marks
are sorted, also across the place where two texts meet. What is left without the marks is. Sorting
neither removes nor moves a starter, so the starters of a text are those of its characters in
order (`stripMarks_eq_flatMap`).

The decomposition of a character is full: what it consists of is not decomposed any further
(`decompose_of_mem`). For Hangul syllables that is arithmetic; for all other characters it is a
property of the tables, checked for each of their entries (`standsAlone_of_mem_rows`). So a text
without accents is one that keeps its characters (`stripMarks_eq_self_iff`).

`stripAccents_characterwise` puts this together for every string.
-/

namespace RestBindings.Unicode

/-! ## Decompositions are full -/

/-- The number whose bits are set at the given places. -/
def bitsAt (places : List Nat) : Nat :=
  places.foldr (fun place bits => bits ||| 1 <<< place) 0

/-- A bit is set exactly when its place is given. -/
theorem testBit_bitsAt (places : List Nat) (n : Nat) :
    (bitsAt places).testBit n = true ↔ n ∈ places := by
  induction places with
  | nil => simp [bitsAt]
  | cons place rest ih =>
      have hcons : bitsAt (place :: rest) = bitsAt rest ||| 1 <<< place := rfl
      rw [hcons, Nat.testBit_or, Bool.or_eq_true, ih, Nat.one_shiftLeft, Nat.testBit_two_pow,
        decide_eq_true_eq, List.mem_cons, or_comm, eq_comm]

/-- The code points that have an entry in the tables, a bit for each. -/
def tabulatedBits : Nat :=
  bitsAt (decompositionRows.flatMap fun row => row.2.map Prod.fst)

/-- The code point is neither a Hangul syllable nor one with an entry in the tables. -/
def standsAlone (code : Nat) : Bool :=
  !isHangulSyllable code && !tabulatedBits.testBit code

/-- A code point stands alone exactly when it is no Hangul syllable and begins no entry. -/
theorem standsAlone_iff {code : Nat} : standsAlone code = true ↔
    isHangulSyllable code = false ∧ ¬ ∃ row ∈ decompositionRows, code ∈ row.2.map Prod.fst := by
  have hbits : tabulatedBits.testBit code = true ↔
      ∃ row ∈ decompositionRows, code ∈ row.2.map Prod.fst := by
    rw [tabulatedBits, testBit_bitsAt, List.mem_flatMap]
  rw [standsAlone, Bool.and_eq_true, Bool.not_eq_true', Bool.not_eq_true', ← hbits,
    Bool.not_eq_true]

/-- What is found in the tables is an entry of one of the rows. -/
theorem exists_row_of_tabulated {code : Nat} {codes : List Nat}
    (h : tabulatedDecomposition code = some codes) :
    ∃ row ∈ decompositionRows, (code, codes) ∈ row.2 := by
  obtain ⟨entries, hentries, hcodes⟩ := Option.bind_eq_some_iff.mp h
  exact ⟨_, mem_of_lookup hentries, mem_of_lookup hcodes⟩

/-- A code point that is no Hangul syllable and has no entry in the tables is its own
decomposition. -/
theorem decomposeCode_of_untabulated {code : Nat} (hhangul : isHangulSyllable code = false)
    (htable : tabulatedDecomposition code = none) : decomposeCode code = [code] := by
  rw [decomposeCode, hhangul, htable]
  exact ite_self _

/-- A code point that stands alone is its own decomposition. -/
theorem decomposeCode_of_standsAlone {code : Nat} (h : standsAlone code = true) :
    decomposeCode code = [code] := by
  obtain ⟨hhangul, hentries⟩ := standsAlone_iff.mp h
  refine decomposeCode_of_untabulated hhangul ?_
  cases htable : tabulatedDecomposition code with
  | none => rfl
  | some codes =>
      obtain ⟨row, hrow, hentry⟩ := exists_row_of_tabulated htable
      exact absurd ⟨row, hrow, List.mem_map.mpr ⟨_, hentry, rfl⟩⟩ hentries

/-- The code points that the tables give stand alone. -/
theorem standsAlone_of_mem_rows {row : Nat × List (Nat × List Nat)} {entry : Nat × List Nat}
    {piece : Nat} (hrow : row ∈ decompositionRows) (hentry : entry ∈ row.2)
    (hpiece : piece ∈ entry.2) : standsAlone piece = true := by
  have hall : (decompositionRows.all fun row => row.2.all fun entry => entry.2.all standsAlone) =
      true := by decide +kernel
  have hentries := List.all_eq_true.mp hall row hrow
  have hpieces := List.all_eq_true.mp hentries entry hentry
  exact List.all_eq_true.mp hpieces piece hpiece

/-- The letters of a Hangul syllable are not decomposed. -/
theorem decomposeCode_of_mem_hangulLetters {code piece : Nat} (h : isHangulSyllable code = true)
    (hpiece : piece ∈ hangulLetters code) : decomposeCode piece = [piece] := by
  have hbounds : 0x1100 ≤ piece ∧ piece < 0x1200 := by
    simp only [isHangulSyllable, Bool.and_eq_true, decide_eq_true_eq] at h
    simp only [hangulLetters, List.mem_append, List.mem_cons, List.not_mem_nil, or_false] at hpiece
    rcases hpiece with (rfl | rfl) | htrailing
    · omega
    · omega
    · split at htrailing
      · cases htrailing
      · rw [List.mem_singleton] at htrailing
        omega
  have hhangul : isHangulSyllable piece = false := by
    simp only [isHangulSyllable, Bool.and_eq_false_iff, decide_eq_false_iff_not]
    omega
  -- no character of their row has an entry
  have hrow : decompositionRows.lookup 0x11 = none := by decide +kernel
  have hquotient : piece / 256 = 0x11 := by omega
  refine decomposeCode_of_untabulated hhangul ?_
  rw [tabulatedDecomposition, hquotient, hrow]
  rfl

/-- What a code point consists of is not decomposed any further. -/
theorem decomposeCode_of_mem {code piece : Nat} (h : piece ∈ decomposeCode code) :
    decomposeCode piece = [piece] := by
  have hself : decomposeCode code = [code] → decomposeCode piece = [piece] := by
    intro hcode
    rw [hcode, List.mem_singleton] at h
    rwa [h]
  by_cases hlow : code < 0xA0
  · exact hself (if_pos hlow)
  by_cases hhangul : isHangulSyllable code = true
  · rw [decomposeCode, if_neg hlow, if_pos hhangul] at h
    exact decomposeCode_of_mem_hangulLetters hhangul h
  · rw [Bool.not_eq_true] at hhangul
    cases htable : tabulatedDecomposition code with
    | none => exact hself (decomposeCode_of_untabulated hhangul htable)
    | some codes =>
        rw [decomposeCode, if_neg hlow, hhangul, htable] at h
        obtain ⟨row, hrow, hentry⟩ := exists_row_of_tabulated htable
        exact decomposeCode_of_standsAlone (standsAlone_of_mem_rows hrow hentry h)

/-- **Decompositions are full.** What a character consists of is not decomposed any further. -/
theorem decompose_of_mem {c d : Char} (h : d ∈ decompose c) : decompose d = [d] := by
  by_cases hc : c.toNat < 0xA0
  · rw [decompose_of_lt hc, List.mem_singleton] at h
    rw [h, decompose_of_lt hc]
  · rw [decompose, if_neg hc] at h
    obtain ⟨piece, hpiece, rfl⟩ := List.mem_map.mp h
    by_cases hvalid : piece.isValidChar
    · have hcode : (Char.ofNat piece).toNat = piece := by
        rw [Char.ofNat, dif_pos hvalid]
        rfl
      rw [decompose, hcode, decomposeCode_of_mem hpiece]
      exact ite_self _
    · -- a number that is no code point stands for the character zero
      have hzero : Char.ofNat piece = Char.ofNat 0 := dif_neg hvalid
      rw [hzero]
      exact decompose_of_lt (by decide)

/-! ## Texts without their marks -/

/-- **The marks of a text are removed character by character.** Where the marks are sorted to does
not matter. -/
theorem stripMarks_eq_flatMap (s : List Char) :
    stripMarks s = s.flatMap fun c => (decompose c).filter isStarter := by
  rw [stripMarks, compatibilityForm, filter_isStarter_canonicalOrder, List.filter_flatMap]

/-- The decomposition itself is not made character by character: a mark below a letter comes before
one above it, also when the two come from different texts. -/
example : compatibilityForm (['\u0301'] ++ ['\u0316']) ≠
    compatibilityForm ['\u0301'] ++ compatibilityForm ['\u0316'] := by decide +kernel

/-- The marks of joined texts are removed from each of them. -/
theorem stripMarks_append (s t : List Char) :
    stripMarks (s ++ t) = stripMarks s ++ stripMarks t := by
  rw [stripMarks_eq_flatMap, stripMarks_eq_flatMap, stripMarks_eq_flatMap, List.flatMap_append]

/-- A character without an accent: a starter that is not decomposed. -/
def IsBare (c : Char) : Prop :=
  decompose c = [c] ∧ isStarter c = true

/-- What is left of a text has no accents. -/
theorem isBare_of_mem_stripMarks {s : List Char} {c : Char} (h : c ∈ stripMarks s) : IsBare c := by
  rw [stripMarks_eq_flatMap, List.mem_flatMap] at h
  obtain ⟨d, -, hc⟩ := h
  rw [List.mem_filter] at hc
  exact ⟨decompose_of_mem hc.1, hc.2⟩

/-- **The texts that stay as they are** are those without accents. -/
theorem stripMarks_eq_self_iff (s : List Char) : stripMarks s = s ↔ ∀ c ∈ s, IsBare c := by
  constructor
  · intro h c hc
    rw [← h] at hc
    exact isBare_of_mem_stripMarks hc
  · intro h
    have hself : ∀ c ∈ s, (decompose c).filter isStarter = [c] := by
      intro c hc
      obtain ⟨hwhole, hstarter⟩ := h c hc
      rw [hwhole]
      exact List.filter_cons_of_pos hstarter
    rw [stripMarks_eq_flatMap, List.flatMap_congr hself, List.flatMap_singleton']

/-- Removing the marks of a text a second time changes nothing. -/
theorem stripMarks_stripMarks (s : List Char) : stripMarks (stripMarks s) = stripMarks s :=
  (stripMarks_eq_self_iff _).mpr fun _ hc => isBare_of_mem_stripMarks hc

/-! ## Strings -/

/-- **Accents are removed character by character.** What is left of a string are the starters of
the full compatibility decompositions of its characters, in order. So the accents of joined strings
are removed from each of them, and removing accents a second time changes nothing. -/
theorem stripAccents_characterwise :
    (∀ s : String, (stripAccents s).toList =
      s.toList.flatMap fun c => (decompose c).filter isStarter) ∧
    (∀ s t : String, stripAccents (s ++ t) = stripAccents s ++ stripAccents t) ∧
    ∀ s : String, stripAccents (stripAccents s) = stripAccents s := by
  refine ⟨fun s => ?_, fun s t => ?_, fun s => ?_⟩
  · rw [stripAccents, String.toList_ofList, stripMarks_eq_flatMap]
  · rw [stripAccents, String.toList_append, stripMarks_append, String.ofList_append]
    rfl
  · rw [stripAccents, stripAccents, String.toList_ofList, stripMarks_stripMarks]

end RestBindings.Unicode
