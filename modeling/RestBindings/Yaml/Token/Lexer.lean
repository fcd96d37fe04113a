import RestBindings.Yaml.Block
import RestBindings.Yaml.Plain
import RestBindings.Yaml.Quoted
import RestBindings.Yaml.Token.Tag

/-!
# Cutting a YAML text into tokens

A key of a mapping is known as one only when its colon is reached.  So the lexer remembers where a
key may have begun, one such place for each level of brackets, and puts the token for a key there
afterwards.  Such a place is given up at the end of its line.
-/

namespace RestBindings.Yaml

/-- A place where a key may have begun. -/
structure KeyStart where
  /-- The number of tokens in front of it. -/
  position : Nat
  /-- Nothing but a key can stand there. -/
  required : Bool
  index : Nat
  line : Nat
  column : Nat
  deriving DecidableEq, Repr

/-- The state of the lexer. -/
structure Lexer where
  cursor : Cursor
  /-- The tokens so far, the last one first. -/
  read : List Token
  /-- The number of tokens so far. -/
  count : Nat
  /-- The column of the innermost block; −1 outside of all blocks. -/
  indent : Int
  /-- The columns of the blocks around it, from the inside out. -/
  outer : List Int
  /-- The number of open brackets. -/
  depth : Nat
  /-- A key may begin at the cursor. -/
  keyAllowed : Bool
  /-- The places where a key may have begun, by the number of brackets open there. -/
  keyStarts : List (Nat × KeyStart)

namespace Lexer

/-- The lexer in front of a text. -/
def start (text : List Char) : Lexer :=
  ⟨.start text, [], 0, -1, [], 0, true, []⟩

/-- Inside of brackets. -/
def inFlow (l : Lexer) : Bool :=
  l.depth != 0

/-- Adds a token. -/
def push (token : Token) (l : Lexer) : Lexer :=
  { l with read := token :: l.read, count := l.count + 1 }

/-- Adds a token behind the given number of tokens. -/
def insert (position : Nat) (token : Token) (l : Lexer) : Lexer :=
  let behind := l.count - position
  { l with
    read := l.read.take behind ++ token :: l.read.drop behind
    count := l.count + 1 }

/-- Moves the cursor. -/
def moveTo (c : Cursor) (l : Lexer) : Lexer :=
  { l with cursor := c }

/-- Whether a key may begin at the cursor from now on. -/
def allowKey (allowed : Bool) (l : Lexer) : Lexer :=
  { l with keyAllowed := allowed }

/-! ## Keys -/

/-- A key that began there can still be completed. -/
def isFresh (l : Lexer) (k : KeyStart) : Bool :=
  k.line == l.cursor.line && l.cursor.index - k.index ≤ 1024

/-- Gives up the places that are too far back. -/
def dropStale (l : Lexer) : Except Error Lexer :=
  if l.keyStarts.any fun (_, k) => !l.isFresh k && k.required then .error .malformed
  else .ok { l with keyStarts := l.keyStarts.filter fun (_, k) => l.isFresh k }

/-- Gives up the place at the current level of brackets. -/
def forgetKey (l : Lexer) : Except Error Lexer :=
  match l.keyStarts.lookup l.depth with
  | none => .ok l
  | some k =>
    if k.required then .error .malformed
    else .ok { l with keyStarts := l.keyStarts.filter fun (depth, _) => depth != l.depth }

/-- Remembers that a key may begin at the cursor. -/
def rememberKey (l : Lexer) : Except Error Lexer :=
  if l.keyAllowed then
    let c := l.cursor
    let required := !l.inFlow && l.indent == c.column
    l.forgetKey.map fun l =>
      { l with keyStarts := (l.depth, ⟨l.count, required, c.index, c.line, c.column⟩) ::
          l.keyStarts }
  else .ok l

/-! ## Indentation -/

/-- Closes the blocks that are indented deeper than a column, given the columns around. -/
def closeBlocks (column : Int) : List Int → Lexer → Lexer
  | [], l => l
  | around :: rest, l =>
    if l.indent > column then
      closeBlocks column rest (push .blockEnd { l with indent := around, outer := rest })
    else l

/-- Closes the blocks that are indented deeper than a column. -/
def unwind (column : Int) (l : Lexer) : Lexer :=
  if l.inFlow then l else closeBlocks column l.outer l

/-- Opens a block at a column, behind the given number of tokens, if it is indented deeper than the
innermost one. -/
def openBlock (column position : Nat) (opening : Token) (l : Lexer) : Lexer :=
  if l.indent < column then
    insert position opening { l with indent := column, outer := l.indent :: l.outer }
  else l

/-- Opens a block at the cursor where blocks may begin. -/
def openBlockHere (opening : Token) (l : Lexer) : Except Error Lexer :=
  if l.inFlow then .ok l
  else if !l.keyAllowed then .error .malformed
  else .ok (l.openBlock l.cursor.column l.count opening)

/-! ## The kinds of tokens -/

/-- Past the blanks, comments and line ends at the cursor. -/
def skipBlanks : Nat → Lexer → Lexer
  | 0, l => l
  | fuel + 1, l =>
    let c := (l.cursor.skipWhile (· == ' ')).skipComment
    match c.lineEnd with
    | ([], _) => l.moveTo c
    | (_, c) => skipBlanks fuel ((l.moveTo c).allowKey (l.keyAllowed || !l.inFlow))

/-- Past a mark of byte order at the start of the text. -/
def skipByteOrder (l : Lexer) : Lexer :=
  if l.cursor.index = 0 ∧ l.cursor.here = '\uFEFF' then l.moveTo l.cursor.next else l

/-- A token of one character. -/
def mark (token : Token) (l : Lexer) : Lexer :=
  (l.moveTo l.cursor.next).push token

/-- A token in front of or behind a document. -/
def documentEdge (token : Token) (l : Lexer) : Except Error Lexer := do
  let l ← (l.unwind (-1)).forgetKey
  return ((l.allowKey false).moveTo (l.cursor.skip 3)).push token

/-- A directive. -/
def directive (l : Lexer) : Except Error Lexer := do
  let l ← (l.unwind (-1)).forgetKey
  let (read, c) ← Token.directiveLine l.cursor
  return ((l.allowKey false).moveTo c).push (.directive read)

/-- An opening bracket. -/
def openFlow (token : Token) (l : Lexer) : Except Error Lexer := do
  let l ← l.rememberKey
  return (({ l with depth := l.depth + 1 }).allowKey true).mark token

/-- A closing bracket. -/
def closeFlow (token : Token) (l : Lexer) : Except Error Lexer := do
  if l.depth = 0 then throw .malformed
  let l ← l.forgetKey
  return (({ l with depth := l.depth - 1 }).allowKey false).mark token

/-- A comma inside of brackets. -/
def flowEntry (l : Lexer) : Except Error Lexer := do
  return (← (l.allowKey true).forgetKey).mark .flowEntry

/-- The hyphen of an item. -/
def blockEntry (l : Lexer) : Except Error Lexer := do
  let l ← l.openBlockHere .blockSequenceStart
  return (← (l.allowKey true).forgetKey).mark .blockEntry

/-- The question mark of a key. -/
def explicitKey (l : Lexer) : Except Error Lexer := do
  let l ← l.openBlockHere .blockMappingStart
  return (← (l.allowKey !l.inFlow).forgetKey).mark .key

/-- The colon of a value. -/
def value (l : Lexer) : Except Error Lexer := do
  match l.keyStarts.lookup l.depth with
  | some k =>
    let l := { l with keyStarts := l.keyStarts.filter fun (depth, _) => depth != l.depth }
    let l := l.insert k.position .key
    let l := if l.inFlow then l else l.openBlock k.column k.position .blockMappingStart
    return (l.allowKey false).mark .value
  | none =>
    let l ← l.openBlockHere .blockMappingStart
    return (← (l.allowKey !l.inFlow).forgetKey).mark .value

/-- A token that may be the start of a key. -/
def keyed (read : Cursor → Except Error (Token × Cursor)) (l : Lexer) : Except Error Lexer := do
  let l ← l.rememberKey
  let (token, c) ← read l.cursor
  return ((l.allowKey false).moveTo c).push token

/-- A plain scalar, with a bound on the characters left. -/
def plain (bound : Nat) (l : Lexer) : Except Error Lexer := do
  let l ← l.rememberKey
  let (scalar, c) := Plain.read bound l.inFlow l.indent l.cursor
  return ((l.allowKey scalar.broken).moveTo c).push (.scalar (String.ofList scalar.text) true)

/-- A block scalar, with a bound on the characters left. -/
def blockScalar (bound : Nat) (folded : Bool) (l : Lexer) : Except Error Lexer := do
  let l ← (l.allowKey true).forgetKey
  let (text, c) ← Block.read bound folded l.indent l.cursor
  return (l.moveTo c).push (.scalar text false)

/-- A token of the given kind from what a reader gives. -/
def asToken {α : Type} (make : α → Token) (read : Cursor → Except Error (α × Cursor))
    (c : Cursor) : Except Error (Token × Cursor) :=
  (read c).map fun (a, c) => (make a, c)

/-- The token at the cursor by its first character, with a bound on the characters left. -/
def token (bound : Nat) (l : Lexer) : Except Error Lexer :=
  let c := l.cursor
  let first := c.here
  let apart := endsWord (c.peek 1)
  if first = '%' ∧ c.column = 0 then l.directive
  else if c.column = 0 ∧ c.atSeparator '-' then l.documentEdge .documentStart
  else if c.column = 0 ∧ c.atSeparator '.' then l.documentEdge .documentEnd
  else if first = '[' then l.openFlow .flowSequenceStart
  else if first = '\x7b' then l.openFlow .flowMappingStart
  else if first = ']' then l.closeFlow .flowSequenceEnd
  else if first = '\x7d' then l.closeFlow .flowMappingEnd
  else if first = ',' then l.flowEntry
  else if first = '-' ∧ apart then l.blockEntry
  else if first = '?' ∧ (l.inFlow ∨ apart) then l.explicitKey
  else if first = ':' ∧ (l.inFlow ∨ apart) then l.value
  else if first = '*' then l.keyed (asToken .alias Token.anchorName)
  else if first = '&' then l.keyed (asToken .anchor Token.anchorName)
  else if first = '!' then l.keyed (asToken .tag Token.tagName)
  else if first = '|' ∧ !l.inFlow then l.blockScalar bound false
  else if first = '>' ∧ !l.inFlow then l.blockScalar bound true
  else if first = '\'' ∨ first = '"' then l.keyed (asToken (.scalar · false) (Quoted.read bound))
  else if Plain.begins l.inFlow c then l.plain bound
  else .error .malformed

/-- The tokens of the rest of a text, and the error that ends them if there is one. -/
def run : Nat → Lexer → List Token × Option Error
  | 0, l => (l.read.reverse, some .malformed)
  | fuel + 1, l =>
    match (l.skipByteOrder.skipBlanks (fuel + 1)).dropStale with
    | .error e => (l.read.reverse, some e)
    | .ok l =>
      let l := l.unwind l.cursor.column
      if l.cursor.rest.isEmpty then
        match (l.unwind (-1)).forgetKey with
        | .ok l => (l.read.reverse, none)
        | .error e => (l.read.reverse, some e)
      else match l.token (fuel + 1) with
        | .ok l => run fuel l
        | .error e => (l.read.reverse, some e)

end Lexer

/-- The tokens of a text, and the error that ends them if there is one. -/
def tokens (text : List Char) : List Token × Option Error :=
  Lexer.run (text.length + 2) (.start text)

end RestBindings.Yaml
