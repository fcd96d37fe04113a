import RestBindings.Unicode.Decomposition.Alphabets
import RestBindings.Unicode.Decomposition.Symbols
import RestBindings.Unicode.Decomposition.Presentation
import RestBindings.Unicode.Decomposition.Supplementary

/-!
# Full compatibility decomposition of a character

A Hangul syllable is decomposed by arithmetic into its two or three letters; every other character
is looked up in the tables, and one without an entry stands for itself.
-/

namespace RestBindings.Unicode

/-- All rows of the tables by row number. -/
def decompositionRows : List (Nat × List (Nat × List Nat)) :=
  Decomposition.Alphabets.rows ++ Decomposition.Symbols.rows ++
    Decomposition.Presentation.rows ++ Decomposition.Supplementary.rows

/-- The table entry of a code point. -/
def tabulatedDecomposition (code : Nat) : Option (List Nat) :=
  (decompositionRows.lookup (code / 256)).bind fun row => row.lookup code

/-- The code point is a precomposed Hangul syllable. -/
def isHangulSyllable (code : Nat) : Bool :=
  0xAC00 ≤ code && code ≤ 0xD7A3

/-- The letters of a Hangul syllable: a leading consonant, a vowel and, unless its index is zero,
a trailing consonant. -/
def hangulLetters (code : Nat) : List Nat :=
  let index := code - 0xAC00
  let trailing := index % 28
  [0x1100 + index / 588, 0x1161 + index % 588 / 28] ++
    (if trailing = 0 then [] else [0x11A7 + trailing])

/-- The code points of the full compatibility decomposition of a code point. -/
def decomposeCode (code : Nat) : List Nat :=
  if code < 0xA0 then [code]
  else if isHangulSyllable code then hangulLetters code
  else (tabulatedDecomposition code).getD [code]

/-- The full compatibility decomposition of a character. -/
def decompose (c : Char) : List Char :=
  if c.toNat < 0xA0 then [c] else (decomposeCode c.toNat).map Char.ofNat

end RestBindings.Unicode
