/-!
# Blank characters

The characters that count as blank when a text is trimmed: the Unicode white space, the four
information separators and the next-line control.
-/

namespace RestBindings.Text

/-- Code points of the blank characters. -/
def blankCodes : List Nat := [
  0x09, 0x0A, 0x0B, 0x0C, 0x0D, 0x1C, 0x1D, 0x1E, 0x1F, 0x20, 0x85, 0xA0, 0x1680, 0x2000,
  0x2001, 0x2002, 0x2003, 0x2004, 0x2005, 0x2006, 0x2007, 0x2008, 0x2009, 0x200A, 0x2028,
  0x2029, 0x202F, 0x205F, 0x3000]

/-- The character is blank. -/
def isBlank (c : Char) : Bool :=
  blankCodes.contains c.toNat

/-- A text without the characters of a class at its end. -/
def dropTrailing (p : Char → Bool) (s : List Char) : List Char :=
  (s.reverse.dropWhile p).reverse

/-- A text without the blanks at both of its ends. -/
def trim (s : List Char) : List Char :=
  dropTrailing isBlank (s.dropWhile isBlank)

/-- A text that holds nothing but blanks. -/
def isBlankText (s : String) : Bool :=
  s.toList.all isBlank

end RestBindings.Text
