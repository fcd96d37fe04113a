import RestBindings.Json
import RestBindings.Yaml.Cursor

/-!
# Quoted scalars of YAML

A quoted scalar may go on over several lines.  Line ends in it are folded: one becomes a blank, and
of several all but the first remain.
-/

namespace RestBindings.Yaml.Quoted

/-- The characters for single letters after a backslash. -/
def escapes : List (Char × Char) := [
  ('0', '\x00'), ('a', '\x07'), ('b', '\x08'), ('t', '\t'), ('\t', '\t'), ('n', '\n'),
  ('v', '\x0b'), ('f', '\x0c'), ('r', '\r'), ('e', '\x1b'), (' ', ' '), ('"', '"'),
  ('\\', '\\'), ('/', '/'), ('N', '\x85'), ('_', '\xa0'), ('L', '\u2028'), ('P', '\u2029')]

/-- The number of hexadecimal digits behind a letter after a backslash. -/
def codeLengths : List (Char × Nat) := [('x', 2), ('u', 4), ('U', 8)]

/-- The value of hexadecimal digits. -/
def hexValue? (digits : List Char) : Option Nat :=
  digits.foldl (fun value c => do some ((← value) * 16 + (← Json.hexValue? c))) (some 0)

/-- The character with a code; half a surrogate pair is no character, and U+FFFD stands for it. -/
def charOf (code : Nat) : Except Error Char :=
  if code > 0x7FFFFFFF then .error .hugeCode
  else if code > 0x10FFFF then .error (.outOfRange "chr() arg not in range(0x110000)")
  else if 0xD800 ≤ code ∧ code ≤ 0xDFFF then .ok '\uFFFD'
  else .ok (Char.ofNat code)

/-- A character that is part of a run within the quotes. -/
def isRun (c : Char) : Bool :=
  !(c == '\'' || c == '"' || c == '\\' || endsWord c)

/-- The line ends behind the first one, with the blanks around them skipped. -/
def breaks : Nat → List Char → Cursor → Except Error (List Char × Cursor)
  | 0, _, _ => .error .malformed
  | fuel + 1, read, c =>
    if c.atDocumentEdge then .error .malformed
    else
      let c := c.skipWhile fun ch => ch == ' ' || ch == '\t'
      match c.lineEnd with
      | ([], _) => .ok (read, c)
      | (text, c) => breaks fuel (read ++ text) c

/-- Blanks and line ends within the quotes, folded, with a bound on the characters behind them. -/
def spaces (bound : Nat) (c : Cursor) : Except Error (List Char × Cursor) := do
  let (blanks, c) := c.span fun ch => ch == ' ' || ch == '\t'
  if c.here = '\x00' then throw .malformed
  match c.lineEnd with
  | ([], _) => return (blanks, c)
  | (first, c) =>
    let (more, c) ← breaks bound [] c
    let folded := if first != ['\n'] then first else if more.isEmpty then [' '] else []
    return (folded ++ more, c)

/-- What a backslash stands for; the cursor is behind it. -/
def escape (bound : Nat) (c : Cursor) : Except Error (List Char × Cursor) := do
  match escapes.lookup c.here, codeLengths.lookup c.here with
  | some ch, _ => return ([ch], c.next)
  | none, some length =>
    let digits := c.next.rest.take length
    if digits.length < length then throw .malformed
    match hexValue? digits with
    | none => throw .malformed
    | some code => return ([← charOf code], c.next.skip length)
  | none, none =>
    if isBreak c.here then
      breaks bound [] c.lineEnd.2
    else throw .malformed

/-- The scalar up to its closing quote; the cursor is behind the opening one. -/
def body (double : Bool) : Nat → List Char → Cursor → Except Error (List Char × Cursor)
  | 0, _, _ => .error .malformed
  | fuel + 1, read, c => do
    let (run, c) := c.span isRun
    let read := read ++ run
    if c.here = '\'' then
      if double then body double fuel (read ++ ['\'']) c.next
      else if c.peek 1 = '\'' then body double fuel (read ++ ['\'']) (c.skip 2)
      else return (read, c.next)
    else if c.here = '"' then
      if double then return (read, c.next) else body double fuel (read ++ ['"']) c.next
    else if c.here = '\\' then
      if double then
        let (text, c) ← escape (fuel + 1) c.next
        body double fuel (read ++ text) c
      else body double fuel (read ++ ['\\']) c.next
    else
      let (text, c) ← spaces (fuel + 1) c
      body double fuel (read ++ text) c

/-- A quoted scalar, with a bound on the characters left; the cursor is at its opening quote. -/
def read (bound : Nat) (c : Cursor) : Except Error (String × Cursor) := do
  let (text, rest) ← body (c.here == '"') bound [] c.next
  return (String.ofList text, rest)

end RestBindings.Yaml.Quoted
