/-!
# Bytes written as text

Four characters stand for three bytes.  Characters outside of the alphabet do not count, and
nothing counts behind the padding that completes a group.
-/

namespace RestBindings.Text.Base64

/-- The six bits that a character stands for. -/
def bits? (c : Char) : Option Nat :=
  if 'A' ≤ c ∧ c ≤ 'Z' then some (c.toNat - 'A'.toNat)
  else if 'a' ≤ c ∧ c ≤ 'z' then some (c.toNat - 'a'.toNat + 26)
  else if c.isDigit then some (c.toNat - '0'.toNat + 52)
  else if c = '+' then some 62
  else if c = '/' then some 63
  else none

/-- The byte that ends with the first character of a list of bits, given the place in the group and
the bits that are left over; nothing at the start of a group. -/
def completed (place left bits : Nat) : List UInt8 :=
  match place with
  | 0 => []
  | 1 => [UInt8.ofNat (left * 4 + bits / 16)]
  | 2 => [UInt8.ofNat (left * 16 + bits / 4)]
  | _ => [UInt8.ofNat (left * 64 + bits)]

/-- The bits that are left over for the next byte. -/
def leftOver (place bits : Nat) : Nat :=
  match place with
  | 0 => bits
  | 1 => bits % 16
  | 2 => bits % 4
  | _ => 0

/-- The bytes of a text from a place in a group on, with the paddings in a row before it. -/
def decodeFrom (place left paddings : Nat) : List Char → Option (List UInt8)
  | [] => if place = 0 then some [] else none
  | c :: rest =>
    if c = '=' then
      if place ≥ 2 then
        if place + paddings + 1 ≥ 4 then some [] else decodeFrom place left (paddings + 1) rest
      else decodeFrom place left paddings rest
    else match bits? c with
      | none => decodeFrom place left paddings rest
      | some bits =>
        (decodeFrom ((place + 1) % 4) (leftOver place bits) 0 rest).map
          (completed place left bits ++ ·)

/-- The bytes that a text stands for, if its groups are complete. -/
def decode? (s : List Char) : Option (List UInt8) :=
  decodeFrom 0 0 0 s

end RestBindings.Text.Base64
