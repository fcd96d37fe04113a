import RestBindings.Yaml.Cursor

/-!
# Plain scalars of YAML

A plain scalar has no quotes.  It ends at a colon that a blank follows, at a comment, at a
bracket or comma inside of brackets, and at a line that is indented too little.
-/

namespace RestBindings.Yaml.Plain

/-- The characters with which no plain scalar begins. -/
def indicators : List Char := "-?:,[]{}#&*!|>'\"%@`".toList

/-- A bracket or a comma. -/
def isFlowMark (c : Char) : Bool :=
  c == ',' || c == '[' || c == ']' || c == '\x7b' || c == '\x7d'

/-- A plain scalar begins at the cursor. -/
def begins (inFlow : Bool) (c : Cursor) : Bool :=
  let first := c.here
  !(endsWord first || indicators.contains first) ||
    (!endsWord (c.peek 1) && (first == '-' || (!inFlow && (first == '?' || first == ':'))))

/-- The character, with the one behind it, ends a run of a plain scalar. -/
def endsRun (inFlow : Bool) (c next : Char) : Bool :=
  endsWord c || (c == ':' && (endsWord next || (inFlow && isFlowMark next))) ||
    (inFlow && (c == '?' || isFlowMark c))

/-- The length of the run at the start of a text. -/
def runLength (inFlow : Bool) : List Char → Nat
  | [] => 0
  | c :: rest =>
    if endsRun inFlow c (rest.head?.getD '\x00') then 0 else runLength inFlow rest + 1

/-- The line ends behind the first one, with the blanks around them skipped; nothing when
documents are separated there. -/
def breaks : Nat → List Char → Cursor → Option (List Char) × Cursor
  | 0, read, c => (some read, c)
  | fuel + 1, read, c =>
    if c.here = ' ' then breaks fuel read c.next
    else match c.lineEnd with
      | ([], _) => (some read, c)
      | (text, c) => if c.atDocumentEdge then (none, c) else breaks fuel (read ++ text) c

/-- What stands between two runs. -/
structure Gap where
  /-- The text that the scalar has there, if it goes on. -/
  text : List Char
  /-- A line ended in the gap. -/
  broken : Bool

/-- The gap at a cursor, with a bound on the characters behind it. -/
def gap (bound : Nat) (c : Cursor) : Gap × Cursor :=
  let (blanks, c) := c.span (· == ' ')
  match c.lineEnd with
  | ([], _) => (⟨blanks, false⟩, c)
  | (first, c) =>
    if c.atDocumentEdge then (⟨[], true⟩, c)
    else match breaks bound [] c with
      | (none, c) => (⟨[], true⟩, c)
      | (some more, c) =>
        let folded := if first != ['\n'] then first else if more.isEmpty then [' '] else []
        (⟨folded ++ more, true⟩, c)

/-- A plain scalar and whether a line ended behind its last run. -/
structure Scalar where
  text : List Char
  broken : Bool

/-- The runs of a scalar from the given gap on.  Outside of brackets, lines are indented up to the
given column at least. -/
def runs (inFlow : Bool) (column : Int) :
    Nat → List Char → Gap → Cursor → Scalar × Cursor
  | 0, read, before, c => (⟨read, before.broken⟩, c)
  | fuel + 1, read, before, c =>
    let length := if c.here = '#' then 0 else runLength inFlow c.rest
    if length = 0 then (⟨read, before.broken⟩, c)
    else
      let read := read ++ before.text ++ c.rest.take length
      let (after, c) := gap (fuel + 1) (c.skip length)
      if after.text.isEmpty || c.here == '#' || (!inFlow && c.column < column) then
        (⟨read, after.broken⟩, c)
      else runs inFlow column fuel read after c

/-- A plain scalar within a node of the given indentation, with a bound on the characters left. -/
def read (bound : Nat) (inFlow : Bool) (outer : Int) (c : Cursor) : Scalar × Cursor :=
  runs inFlow (outer + 1) bound [] ⟨[], false⟩ c

end RestBindings.Yaml.Plain
