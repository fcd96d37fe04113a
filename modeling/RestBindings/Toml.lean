import RestBindings.Toml.Atom
import RestBindings.Toml.Table

/-!
# Reading TOML

A text is read line by line: an entry, a header of a table, or a header of a table in a list.
-/

namespace RestBindings.Toml

/-- Past blanks, line ends and comments. -/
def skipLines : Nat → List Char → Except Error (List Char)
  | 0, s => .ok s
  | fuel + 1, s =>
    match s.dropWhile isSpaceOrLine with
    | '#' :: rest =>
      match skipComment ('#' :: rest) with
      | .ok rest => skipLines fuel rest
      | .error e => .error e
    | rest => .ok rest

mutual

/-- A value, and the rest. -/
def readValue : Nat → List Char → Except Error (Value × List Char)
  | 0, _ => .error .malformed
  | fuel + 1, s => do
    match s with
    | '[' :: rest => readItems fuel [] rest
    | '\x7b' :: rest =>
      match skipSpace rest with
      | '\x7d' :: rest => return (.mapping [], rest)
      | rest => readInline fuel [] [] rest
    | _ =>
      match quoted? s with
      | some result =>
        let (text, rest) ← result
        return (.ofText (String.ofList text), rest)
      | none =>
        let (value, rest) ← Atom.read s
        return (.scalar value, rest)

/-- The items of a list after the given ones, and the rest. -/
def readItems : Nat → List Value → List Char → Except Error (Value × List Char)
  | 0, _, _ => .error .malformed
  | fuel + 1, read, s => do
    match ← skipLines (fuel + 1) s with
    | ']' :: rest => return (.list read, rest)
    | rest =>
      let (value, rest) ← readValue fuel rest
      match ← skipLines (fuel + 1) rest with
      | ']' :: rest => return (.list (read ++ [value]), rest)
      | ',' :: rest => readItems fuel (read ++ [value]) rest
      | _ => throw .malformed

/-- An entry: a key, an equals sign and a value; and the rest. -/
def readPair : Nat → List Char → Except Error ((Key × Value) × List Char)
  | 0, _ => .error .malformed
  | fuel + 1, s => do
    let (key, rest) ← key (fuel + 1) s
    match rest with
    | '=' :: rest =>
      let (value, rest) ← readValue fuel (skipSpace rest)
      return ((key, value), rest)
    | _ => throw .malformed

/-- The entries of a table in one line, after the given ones, and the rest. -/
def readInline : Nat → Entries → List Key → List Char → Except Error (Value × List Char)
  | 0, _, _, _ => .error .malformed
  | fuel + 1, entries, frozen, s => do
    let ((key, value), rest) ← readPair fuel s
    if isWithin key frozen then throw .malformed
    match addUnder false key value entries with
    | none => throw .malformed
    | some entries =>
      match skipSpace rest with
      | '\x7d' :: rest => return (.mapping entries, rest)
      | ',' :: rest =>
        readInline fuel entries (if hasParts value then key :: frozen else frozen)
          (skipSpace rest)
      | _ => throw .malformed

end

/-- The rest behind the closing brackets of a header. -/
def afterHeader (closing : List Char) (s : List Char) : Except Error (List Char) :=
  if closing.isPrefixOf s then .ok (s.drop closing.length) else .error .malformed

/-- A statement, and the rest. -/
def readStatement (fuel : Nat) (d : Document) (s : List Char) :
    Except Error (Document × List Char) := do
  match s with
  | '[' :: '[' :: rest =>
    let (key, rest) ← key fuel (skipSpace rest)
    return (← d.settle.openItem key, ← afterHeader [']', ']'] rest)
  | '[' :: rest =>
    let (key, rest) ← key fuel (skipSpace rest)
    return (← d.settle.openTable key, ← afterHeader [']'] rest)
  | _ =>
    let ((key, value), rest) ← readPair fuel s
    return (← d.add key value, rest)

/-- A line without a statement begins here. -/
def isIdle (s : List Char) : Bool :=
  match s with
  | [] => true
  | c :: _ => c == '\n' || c == '#'

/-- The statements of a text, one per line. -/
def readLines : Nat → Document → List Char → Except Error Document
  | 0, _, _ => .error .malformed
  | fuel + 1, d, s => do
    let s := skipSpace s
    let (d, s) ← if isIdle s then .ok (d, s) else readStatement (fuel + 1) d s
    match ← skipComment (skipSpace s) with
    | [] => return d
    | '\n' :: rest => readLines fuel d rest
    | _ => throw .malformed

/-- The entries of a text whose line ends are unified. -/
def read (source : String) : Except Error Entries :=
  let text := source.toList
  (readLines (text.length + 2) .empty text).map Document.entries

end RestBindings.Toml
