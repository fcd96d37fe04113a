import RestBindings.Yaml.Error

/-!
# Walking through a YAML text

A cursor is the rest of a text with the place where it begins: an offset, a line and a column.
Line feeds, returns, next-line controls and the two Unicode separators end a line.
-/

namespace RestBindings.Yaml

/-- The rest of a text and the place where it begins. -/
structure Cursor where
  rest : List Char
  index : Nat
  line : Nat
  column : Nat
  deriving DecidableEq, Repr

/-- The character that ends a line, if it is one. -/
def isBreak (c : Char) : Bool :=
  c == '\n' || c == '\r' || c == '\x85' || c == '\u2028' || c == '\u2029'

/-- The end of a line or of the text, which reads as the character zero. -/
def endsLine (c : Char) : Bool :=
  c == '\x00' || isBreak c

/-- A blank or the end of a line. -/
def endsWord (c : Char) : Bool :=
  c == ' ' || c == '\t' || endsLine c

/-- A blank or the end of a line, a tab not being a blank. -/
def endsWordStrictly (c : Char) : Bool :=
  c == ' ' || endsLine c

/-- A letter, digit, hyphen or underscore. -/
def isNameChar (c : Char) : Bool :=
  c.isAlphanum || c == '-' || c == '_'

namespace Cursor

/-- The start of a text. -/
def start (text : List Char) : Cursor :=
  ⟨text, 0, 0, 0⟩

/-- The character at a distance, the character zero beyond the end. -/
def peek (c : Cursor) (distance : Nat) : Char :=
  c.rest[distance]?.getD '\x00'

/-- The next character. -/
def here (c : Cursor) : Char :=
  c.rest.head?.getD '\x00'

/-- The character ends a line when it stands before the given text. -/
def endsLineBefore (ch : Char) (rest : List Char) : Bool :=
  if ch = '\r' then rest.head? != some '\n' else isBreak ch

/-- Past one character.  A mark of byte order takes no column. -/
def next (c : Cursor) : Cursor :=
  match c.rest with
  | [] => c
  | ch :: rest =>
    if endsLineBefore ch rest then ⟨rest, c.index + 1, c.line + 1, 0⟩
    else ⟨rest, c.index + 1, c.line, if ch = '\uFEFF' then c.column else c.column + 1⟩

/-- Past a number of characters. -/
def skip (c : Cursor) : Nat → Cursor
  | 0 => c
  | n + 1 => c.next.skip n

/-- The longest run of characters of a class, and past it. -/
def span (p : Char → Bool) (c : Cursor) : List Char × Cursor :=
  let taken := c.rest.takeWhile p
  (taken, c.skip taken.length)

/-- Past the characters of a class. -/
def skipWhile (p : Char → Bool) (c : Cursor) : Cursor :=
  (c.span p).2

/-- Past a line end; what the line end stands for, nothing if there is none. -/
def lineEnd (c : Cursor) : List Char × Cursor :=
  match c.rest with
  | '\r' :: '\n' :: _ => (['\n'], c.skip 2)
  | ch :: _ =>
    if ch = '\n' ∨ ch = '\r' ∨ ch = '\x85' then (['\n'], c.next)
    else if isBreak ch then ([ch], c.next)
    else ([], c)
  | [] => ([], c)

/-- The text goes on with three characters that separate documents. -/
def atSeparator (c : Cursor) (mark : Char) : Bool :=
  c.here == mark && c.peek 1 == mark && c.peek 2 == mark && endsWord (c.peek 3)

/-- The text goes on with either separator of documents. -/
def atDocumentEdge (c : Cursor) : Bool :=
  c.atSeparator '-' || c.atSeparator '.'

/-- Past a comment. -/
def skipComment (c : Cursor) : Cursor :=
  if c.here = '#' then c.skipWhile (!endsLine ·) else c

/-- Past the blanks, a comment and the end of a line that holds nothing else. -/
def blankLine (c : Cursor) : Except Error Cursor :=
  let c := (c.skipWhile (· == ' ')).skipComment
  if endsLine c.here then .ok c.lineEnd.2 else .error .malformed

end Cursor

end RestBindings.Yaml
