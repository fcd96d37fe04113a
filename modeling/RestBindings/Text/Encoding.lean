/-!
# Encoded texts

Texts are stored and sent in UTF-8.  Where a text must be had from any bytes, each run of bytes
that begins no character, or only begins one, becomes a replacement character.
-/

namespace RestBindings.Text

/-- The text that bytes encode, if they are well formed. -/
def decodeUtf8? (bytes : List UInt8) : Option String :=
  String.fromUTF8? ⟨bytes.toArray⟩

/-- The character in place of bytes that encode none. -/
def replacement : Char := '\uFFFD'

/-- What the first byte of a character says about the bytes behind it. -/
structure Lead where
  /-- The bits of the code that the first byte holds. -/
  bits : Nat
  /-- The number of bytes that follow. -/
  following : Nat
  /-- The least and the greatest value of the next byte. -/
  least : Nat
  greatest : Nat

/-- The meaning of a first byte of a character of more than one byte. -/
def Lead.of? (byte : Nat) : Option Lead :=
  if 0xC2 ≤ byte ∧ byte ≤ 0xDF then some ⟨byte - 0xC0, 1, 0x80, 0xBF⟩
  else if 0xE0 ≤ byte ∧ byte ≤ 0xEF then
    some ⟨byte - 0xE0, 2, if byte = 0xE0 then 0xA0 else 0x80, if byte = 0xED then 0x9F else 0xBF⟩
  else if 0xF0 ≤ byte ∧ byte ≤ 0xF4 then
    some ⟨byte - 0xF0, 3, if byte = 0xF0 then 0x90 else 0x80, if byte = 0xF4 then 0x8F else 0xBF⟩
  else none

/-- Reads the bytes behind a first byte; the character and the rest of the bytes. -/
def readFollowing (code : Nat) : Nat → Nat → Nat → List UInt8 → Char × List UInt8
  | 0, _, _, rest => (Char.ofNat code, rest)
  | _ + 1, _, _, [] => (replacement, [])
  | following + 1, least, greatest, byte :: rest =>
    if least ≤ byte.toNat ∧ byte.toNat ≤ greatest then
      readFollowing (code * 64 + (byte.toNat - 0x80)) following 0x80 0xBF rest
    else (replacement, byte :: rest)

/-- The text that at most the given number of bytes encode, with replacement characters. -/
def decodeLossyFrom : Nat → List UInt8 → List Char
  | 0, _ => []
  | _ + 1, [] => []
  | fuel + 1, byte :: rest =>
    if byte.toNat < 0x80 then Char.ofNat byte.toNat :: decodeLossyFrom fuel rest
    else match Lead.of? byte.toNat with
      | none => replacement :: decodeLossyFrom fuel rest
      | some lead =>
        let (c, rest) := readFollowing lead.bits lead.following lead.least lead.greatest rest
        c :: decodeLossyFrom fuel rest

/-- The text that bytes encode, with replacement characters where they encode none. -/
def decodeLossy (bytes : List UInt8) : String :=
  String.ofList (decodeLossyFrom bytes.length bytes)

end RestBindings.Text
