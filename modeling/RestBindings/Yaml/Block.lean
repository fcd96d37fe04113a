import RestBindings.Yaml.Cursor

/-!
# Block scalars of YAML

A block scalar takes the lines below its header that are indented far enough.  The header says how
line ends within it and at its end are kept.
-/

namespace RestBindings.Yaml.Block

/-- What becomes of the line ends at the end of a block scalar. -/
inductive Chomping
  /-- The last line end stays. -/
  | clip
  /-- All of them stay. -/
  | keep
  /-- None of them stays. -/
  | strip
  deriving DecidableEq, Repr

/-- The header of a block scalar. -/
structure Header where
  chomping : Chomping
  /-- How much deeper than its surroundings the scalar is indented, if that is given. -/
  increment : Option Nat

/-- A sign in a header. -/
def chomping? (c : Char) : Option Chomping :=
  if c = '+' then some .keep else if c = '-' then some .strip else none

/-- A digit in a header; zero is refused. -/
def increment? (c : Char) : Except Error (Option Nat) :=
  if c = '0' then .error .malformed
  else if c.isDigit then .ok (some (c.toNat - '0'.toNat))
  else .ok none

/-- A header, its sign and digit in either order. -/
def header (c : Cursor) : Except Error (Header × Cursor) := do
  let (h, c) ← match chomping? c.here with
    | some chomping =>
      match ← increment? c.next.here with
      | some n => pure (⟨chomping, some n⟩, c.skip 2)
      | none => pure (⟨chomping, none⟩, c.next)
    | none =>
      match ← increment? c.here with
      | some n =>
        match chomping? c.next.here with
        | some chomping => pure ((⟨chomping, some n⟩ : Header), c.skip 2)
        | none => pure (⟨.clip, some n⟩, c.next)
      | none => pure (⟨.clip, none⟩, c)
  if endsWordStrictly c.here then return (h, c) else throw .malformed

/-- The empty lines in front of the first line, and the deepest column reached in them. -/
def leadingLines : Nat → List Char → Nat → Cursor → (List Char × Nat) × Cursor
  | 0, read, deepest, c => ((read, deepest), c)
  | fuel + 1, read, deepest, c =>
    if c.here = ' ' then leadingLines fuel read (max deepest c.next.column) c.next
    else match c.lineEnd with
      | ([], _) => ((read, deepest), c)
      | (text, c) => leadingLines fuel (read ++ text) deepest c

/-- Past the blanks that indent a line, up to a column. -/
def skipIndent (indent : Nat) : Nat → Cursor → Cursor
  | 0, c => c
  | fuel + 1, c =>
    if c.column < indent ∧ c.here = ' ' then skipIndent indent fuel c.next else c

/-- The empty lines from here on, up to a line that is indented as given or less. -/
def emptyLines (indent : Nat) : Nat → List Char → Cursor → List Char × Cursor
  | 0, read, c => (read, c)
  | fuel + 1, read, c =>
    let c := skipIndent indent indent c
    match c.lineEnd with
    | ([], _) => (read, c)
    | (text, c) => emptyLines indent fuel (read ++ text) c

/-- A line can be folded with its neighbour at the given character. -/
def folds (c : Char) : Bool :=
  !(c == ' ' || c == '\t')

/-- What stands between two lines: the line end and the empty lines behind it. -/
def between (folded : Bool) (first : Char) (lineEnd breaks : List Char) (next : Char) :
    List Char :=
  if folded && lineEnd == ['\n'] && folds first && folds next then
    if breaks.isEmpty then [' '] else []
  else lineEnd

/-- What stays at the end of a scalar. -/
def tail (chomping : Chomping) (lineEnd breaks : List Char) : List Char :=
  match chomping with
  | .clip => lineEnd
  | .keep => lineEnd ++ breaks
  | .strip => []

/-- The lines of a block scalar from the given empty lines on. -/
def lines (folded : Bool) (chomping : Chomping) (indent : Nat) :
    Nat → List Char → List Char → List Char → Cursor → List Char × Cursor
  | 0, read, _, _, c => (read, c)
  | fuel + 1, read, lineEnd, breaks, c =>
    if c.column = indent ∧ c.here ≠ '\x00' then
      let first := c.here
      let (line, c) := c.span (!endsLine ·)
      let (ended, c) := c.lineEnd
      let (empty, c) := emptyLines indent (fuel + 1) [] c
      let read := read ++ breaks ++ line
      let more := c.column = indent ∧ c.here ≠ '\x00'
      let read := if more then read ++ between folded first ended empty c.here else read
      lines folded chomping indent fuel read ended empty c
    else (read ++ tail chomping lineEnd breaks, c)

/-- A block scalar within a node of the given indentation, with a bound on the characters left; the
cursor is at its first character. -/
def read (bound : Nat) (folded : Bool) (outer : Int) (c : Cursor) :
    Except Error (String × Cursor) := do
  let (h, c) ← header c.next
  let c ← c.blankLine
  let least := (max (outer + 1) 1).toNat
  let ((breaks, indent), c) := match h.increment with
    | none =>
      let ((breaks, deepest), c) := leadingLines bound [] 0 c
      ((breaks, max least deepest), c)
    | some increment =>
      let indent := least + increment - 1
      let (breaks, c) := emptyLines indent bound [] c
      ((breaks, indent), c)
  let (text, c) := lines folded h.chomping indent bound [] [] breaks c
  return (String.ofList text, c)

end RestBindings.Yaml.Block
