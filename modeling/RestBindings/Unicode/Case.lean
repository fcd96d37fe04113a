import RestBindings.Unicode.Case.Table

/-!
# Case mappings of texts

Lower case and the capitalised form of a word.  A capital sigma is lowered by its position: to the
final letter form when a cased letter stands before it and none after it, both sought past the
characters that case ignores.
-/

namespace RestBindings.Unicode

namespace Case

/-- The image of a code point under a list of runs. -/
def shifted : List Run → Nat → Nat
  | [], code => code
  | run :: runs, code =>
    if run.covers code then (Int.ofNat code + run.shift).toNat else shifted runs code

/-- The image of a character under a mapping given by expansions and runs. -/
def image (expansions : List (Nat × List Nat)) (runs : List Run) (c : Char) : List Char :=
  match expansions.lookup c.toNat with
  | some codes => codes.map Char.ofNat
  | none => [Char.ofNat (shifted runs c.toNat)]

/-- Membership of a character in a list of inclusive ranges. -/
def within : List (Nat × Nat) → Char → Bool
  | [], _ => false
  | (first, last) :: rest, c => (first ≤ c.toNat && c.toNat ≤ last) || within rest c

/-- The character is skipped when looking for a neighbouring cased letter. -/
def isIgnorable (c : Char) : Bool :=
  within ignorableRanges c

/-- The character is a letter with case that is never skipped. -/
def isCased (c : Char) : Bool :=
  within casedRanges c

/-- The first character that case does not ignore is a cased letter. -/
def startsCased (s : List Char) : Bool :=
  (s.dropWhile isIgnorable).head?.any isCased

end Case

/-- The lower-case form of a character taken alone. -/
def lowerChar (c : Char) : List Char :=
  Case.image Case.lowerExpansions Case.lowerRuns c

/-- The title-case form of a character. -/
def titleChar (c : Char) : List Char :=
  Case.image Case.titleExpansions Case.titleRuns c

/-- The lower-case form of a capital sigma between two texts, the first of them reversed. -/
def lowerSigma (before after : List Char) : Char :=
  if Case.startsCased before && !Case.startsCased after then 'ς' else 'σ'

/-- Lower case of a text that follows the given reversed text. -/
def lowerAfter (before : List Char) : List Char → List Char
  | [] => []
  | c :: rest =>
    (if c = 'Σ' then [lowerSigma before rest] else lowerChar c) ++ lowerAfter (c :: before) rest

/-- Lower case of a text. -/
def lower (s : List Char) : List Char :=
  lowerAfter [] s

/-- A word with its first character in title case and the rest in lower case. -/
def capitalize : List Char → List Char
  | [] => []
  | c :: rest => titleChar c ++ lowerAfter [c] rest

end RestBindings.Unicode
