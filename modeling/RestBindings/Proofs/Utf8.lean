import Mathlib.Algebra.Order.BigOperators.Group.List
import RestBindings.Text.Encoding

/-!
# Decoding undoes encoding

The lenient decoder reads the bytes of a text back without a replacement character
(`decodeLossy_toUTF8`), because it takes the bytes of one character at a time and those of a
well-formed text are never ones it rejects (`decodeLossyFrom_encode`). So it agrees with the strict
one on every text that is well encoded.
-/

namespace RestBindings.Text

/-! ## The bytes of a text -/

/-- The bytes from an index on, behind those already taken. -/
theorem toList_loop (bytes : ByteArray) (i : Nat) (taken : List UInt8) :
    ByteArray.toList.loop bytes i taken = taken.reverse ++ bytes.data.toList.drop i := by
  fun_induction ByteArray.toList.loop bytes i taken with
  | case1 i taken hi ih =>
      have hdrop := List.drop_eq_getElem_cons (l := bytes.data.toList) (i := i) hi
      rw [ih, hdrop, List.reverse_cons, List.append_assoc, List.singleton_append]
      congr 2
      simp [ByteArray.get!, hi]
  | case2 i taken hi =>
      rw [List.drop_eq_nil_of_le (by simpa using hi), List.append_nil]

/-- The bytes of an array as a list. -/
theorem toList_eq (bytes : ByteArray) : bytes.toList = bytes.data.toList := by
  rw [ByteArray.toList, toList_loop]
  rfl

/-- The bytes of a text are those of its characters, one after the other. -/
theorem toList_toUTF8 (s : String) :
    s.toUTF8.toList = s.toList.flatMap String.utf8EncodeChar := by
  conv => lhs; rw [← String.ofList_toList (s := s)]
  rw [toList_eq, String.toUTF8_eq_toByteArray, String.toByteArray_ofList]
  simp [List.utf8Encode]

/-! ## One character -/

section

variable {fuel digit : Nat} {rest : List UInt8}

/-- A byte that follows has the next six bits of the code. -/
theorem readFollowing_cons {code following least greatest : Nat} (hdigit : digit < 64)
    (hleast : least ≤ digit + 128) (hgreatest : digit + 128 ≤ greatest) :
    readFollowing code (following + 1) least greatest (UInt8.ofNat (digit + 128) :: rest) =
      readFollowing (code * 64 + digit) following 0x80 0xBF rest := by
  have hbyte : (UInt8.ofNat (digit + 128)).toNat = digit + 128 :=
    UInt8.toNat_ofNat_of_lt' (by simp only [UInt8.size]; omega)
  rw [readFollowing, hbyte, if_pos ⟨hleast, hgreatest⟩, Nat.add_sub_cancel]

/-- The first byte of two. -/
theorem lead_two {bits : Nat} (hbits : 2 ≤ bits ∧ bits < 32) :
    Lead.of? (bits + 192) = some ⟨bits, 1, 0x80, 0xBF⟩ := by
  rw [Lead.of?, if_pos (by omega), Nat.add_sub_cancel]

/-- The first byte of three. -/
theorem lead_three {bits : Nat} (hbits : bits < 16) :
    Lead.of? (bits + 224) = some
      ⟨bits, 2, if bits = 0 then 0xA0 else 0x80, if bits = 13 then 0x9F else 0xBF⟩ := by
  rw [Lead.of?, if_neg (by omega), if_pos (by omega), Nat.add_sub_cancel]
  simp

/-- The first byte of four. -/
theorem lead_four {bits : Nat} (hbits : bits < 5) :
    Lead.of? (bits + 240) = some
      ⟨bits, 3, if bits = 0 then 0x90 else 0x80, if bits = 4 then 0x8F else 0xBF⟩ := by
  rw [Lead.of?, if_neg (by omega), if_neg (by omega), if_pos (by omega), Nat.add_sub_cancel]
  simp

/-- A first byte is followed by as many bytes as it says. -/
theorem decodeLossyFrom_cons {byte bits following least greatest : Nat} {c : Char}
    {behind : List UInt8} (hbyte : 128 ≤ byte ∧ byte < 256)
    (hlead : Lead.of? byte = some ⟨bits, following, least, greatest⟩)
    (hread : readFollowing bits following least greatest rest = (c, behind)) :
    decodeLossyFrom (fuel + 1) (UInt8.ofNat byte :: rest) = c :: decodeLossyFrom fuel behind := by
  have hnat : (UInt8.ofNat byte).toNat = byte :=
    UInt8.toNat_ofNat_of_lt' (by simp only [UInt8.size]; omega)
  rw [decodeLossyFrom, hnat, if_neg (by omega), hlead]
  simp only [hread]

/-- The bytes of a character are read back as this character. The ranges of the second byte are
the ones that shorter encodings and surrogates leave. -/
theorem decodeLossyFrom_encode (c : Char) (fuel : Nat) (rest : List UInt8) :
    decodeLossyFrom (fuel + 1) (String.utf8EncodeChar c ++ rest) =
      c :: decodeLossyFrom fuel rest := by
  have hvalid : c.toNat < 0xD800 ∨ 0xDFFF < c.toNat ∧ c.toNat < 0x110000 := c.valid
  have hback {code : Nat} (h : code = c.toNat) : Char.ofNat code = c := by
    rw [h, Char.ofNat_toNat]
  have hcode : c.val.toNat = c.toNat := rfl
  simp only [String.utf8EncodeChar, hcode]
  generalize c.toNat = v at *
  split
  · have hnat : (UInt8.ofNat v).toNat = v :=
      UInt8.toNat_ofNat_of_lt' (by simp only [UInt8.size]; omega)
    rw [List.singleton_append, decodeLossyFrom, hnat, if_pos (by omega), hback rfl]
  split
  · simp only [List.cons_append, List.nil_append]
    refine decodeLossyFrom_cons (by omega) (lead_two (by omega)) ?_
    rw [readFollowing_cons (by omega) (by omega) (by omega), readFollowing, hback (by omega)]
  split
  · simp only [List.cons_append, List.nil_append]
    refine decodeLossyFrom_cons (by omega) (lead_three (by omega)) ?_
    rw [readFollowing_cons (by omega) (by split <;> omega) (by split <;> omega),
      readFollowing_cons (by omega) (by omega) (by omega), readFollowing, hback (by omega)]
  · simp only [List.cons_append, List.nil_append]
    refine decodeLossyFrom_cons (by omega) (lead_four (by omega)) ?_
    rw [readFollowing_cons (by omega) (by split <;> omega) (by split <;> omega),
      readFollowing_cons (by omega) (by omega) (by omega),
      readFollowing_cons (by omega) (by omega) (by omega), readFollowing, hback (by omega)]

end

/-! ## A whole text -/

/-- Encoded characters are read back, given enough fuel for one step for each. -/
theorem decodeLossyFrom_flatMap {s : List Char} {fuel : Nat} (h : s.length ≤ fuel) :
    decodeLossyFrom fuel (s.flatMap String.utf8EncodeChar) = s := by
  induction s generalizing fuel with
  | nil => cases fuel <;> rfl
  | cons c rest ih =>
      obtain ⟨fuel, rfl⟩ : ∃ fewer, fuel = fewer + 1 :=
        ⟨fuel - 1, by rw [List.length_cons] at h; omega⟩
      rw [List.flatMap_cons, decodeLossyFrom_encode, ih (Nat.le_of_succ_le_succ h)]

/-- **Decoding leniently undoes encoding.** -/
theorem decodeLossy_toUTF8 (s : String) : decodeLossy s.toUTF8.toList = s := by
  have hsize : ∀ n ∈ s.toList.map Char.utf8Size, 1 ≤ n :=
    List.forall_mem_map.mpr fun c _ => c.utf8Size_pos
  have hlength : s.toList.length ≤ (s.toList.flatMap String.utf8EncodeChar).length := by
    rw [List.length_flatMap]
    simpa using List.length_le_sum_of_one_le _ hsize
  rw [decodeLossy, toList_toUTF8, decodeLossyFrom_flatMap hlength, String.ofList_toList]

/-- Decoding strictly undoes encoding. -/
theorem fromUTF8?_toUTF8 (s : String) : String.fromUTF8? s.toUTF8 = some s := by
  have hvalid : s.toUTF8.IsValidUTF8 := s.isValidUTF8
  rw [String.fromUTF8?, dif_pos hvalid]
  rfl

end RestBindings.Text
