import RestBindings.Json
import RestBindings.Toml.Error

/-!
# Texts and keys of TOML

A text stands between double quotes, where a backslash begins an escape, or between single quotes,
where nothing does.  Three quotes surround a text of several lines.
-/

namespace RestBindings.Toml

/-- A blank within a line. -/
def isSpace (c : Char) : Bool :=
  c == ' ' || c == '\t'

/-- A blank or a line end. -/
def isSpaceOrLine (c : Char) : Bool :=
  isSpace c || c == '\n'

/-- A control that no line may hold. -/
def isIllegal (c : Char) : Bool :=
  (c.toNat < 0x20 || c.toNat == 0x7F) && c != '\t'

/-- A control that no text of several lines may hold. -/
def isIllegalInLines (c : Char) : Bool :=
  isIllegal c && c != '\n'

/-- A text without the blanks at its start. -/
def skipSpace (s : List Char) : List Char :=
  s.dropWhile isSpace

/-- A text without a comment at its start. -/
def skipComment (s : List Char) : Except Error (List Char) :=
  match s with
  | '#' :: rest =>
    if (rest.takeWhile (· != '\n')).any isIllegal then .error .malformed
    else .ok (rest.dropWhile (· != '\n'))
  | _ => .ok s

/-! ## Texts -/

/-- The characters for single letters after a backslash. -/
def escapes : List (Char × Char) := [
  ('b', '\x08'), ('t', '\t'), ('n', '\n'), ('f', '\x0c'), ('r', '\r'), ('"', '"'), ('\\', '\\')]

/-- The character with a code. -/
def charOf (code : Nat) : Except Error Char :=
  if code < 0xD800 ∨ (0xE000 ≤ code ∧ code ≤ 0x10FFFF) then .ok (Char.ofNat code)
  else .error .malformed

/-- The character of a number of hexadecimal digits, and the rest. -/
def codeEscape (length : Nat) (s : List Char) : Except Error (List Char × List Char) :=
  let digits := s.take length
  let step (value : Option Nat) (c : Char) : Option Nat := do
    some ((← value) * 16 + (← Json.hexValue? c))
  if digits.length < length then .error .malformed
  else match digits.foldl step (some 0) with
    | some code => (charOf code).map fun c => ([c], s.drop length)
    | none => .error .malformed

/-- A line that ends with a backslash goes on at the next character that is no blank. -/
def continueLine (s : List Char) : Except Error (List Char × List Char) :=
  match skipSpace s with
  | [] => .ok ([], [])
  | '\n' :: rest => .ok ([], rest.dropWhile isSpaceOrLine)
  | _ => .error .malformed

/-- What a backslash stands for; the text begins behind it. -/
def escape (inLines : Bool) (s : List Char) : Except Error (List Char × List Char) :=
  match s with
  | [] => .error .malformed
  | c :: rest =>
    if inLines && isSpaceOrLine c then continueLine s
    else if c = 'u' then codeEscape 4 rest
    else if c = 'U' then codeEscape 8 rest
    else match escapes.lookup c with
      | some d => .ok ([d], rest)
      | none => .error .malformed

/-- The text up to its closing double quotes, and the rest. -/
def basicChars (inLines : Bool) :
    Nat → List Char → List Char → Except Error (List Char × List Char)
  | 0, _, _ => .error .malformed
  | _ + 1, _, [] => .error .malformed
  | fuel + 1, read, '"' :: rest =>
    if inLines then
      match rest with
      | '"' :: '"' :: rest => .ok (read, rest)
      | _ => basicChars inLines fuel (read ++ ['"']) rest
    else .ok (read, rest)
  | fuel + 1, read, '\\' :: rest =>
    match escape inLines rest with
    | .ok (text, rest) => basicChars inLines fuel (read ++ text) rest
    | .error e => .error e
  | fuel + 1, read, c :: rest =>
    if (if inLines then isIllegalInLines c else isIllegal c) then .error .malformed
    else basicChars inLines fuel (read ++ [c]) rest

/-- The text up to a single quote, and the rest. -/
def literalChars (s : List Char) : Except Error (List Char × List Char) :=
  let text := s.takeWhile (· != '\'')
  match s.dropWhile (· != '\'') with
  | [] => .error .malformed
  | _ :: rest => if text.any isIllegal then .error .malformed else .ok (text, rest)

/-- The text up to three single quotes, and the rest. -/
def literalLines : List Char → Except Error (List Char × List Char)
  | '\'' :: '\'' :: '\'' :: rest => .ok ([], rest)
  | c :: rest =>
    if isIllegalInLines c then .error .malformed
    else (literalLines rest).map fun (text, rest) => (c :: text, rest)
  | [] => .error .malformed

/-- A text without a line end at its start. -/
def skipLineEnd : List Char → List Char
  | '\n' :: rest => rest
  | s => s

/-- Up to two quotes behind the closing ones belong to the text. -/
def extraQuotes (quote : Char) (text : List Char) (rest : List Char) : List Char × List Char :=
  let extra := (rest.take 2).takeWhile (· == quote)
  (text ++ extra, rest.drop extra.length)

/-- A text in quotes, if one begins, and the rest. -/
def quoted? (s : List Char) : Option (Except Error (List Char × List Char)) :=
  match s with
  | '"' :: '"' :: '"' :: rest =>
    some ((basicChars true (rest.length + 1) [] (skipLineEnd rest)).map fun (text, rest) =>
      extraQuotes '"' text rest)
  | '"' :: rest => some (basicChars false (rest.length + 1) [] rest)
  | '\'' :: '\'' :: '\'' :: rest =>
    some ((literalLines (skipLineEnd rest)).map fun (text, rest) => extraQuotes '\'' text rest)
  | '\'' :: rest => some (literalChars rest)
  | _ => none

/-! ## Keys -/

/-- A character of a key without quotes. -/
def isBare (c : Char) : Bool :=
  c.isAlphanum || c == '-' || c == '_'

/-- The names of a key, from the outside in. -/
abbrev Key := List String

/-- One name of a key, and the rest. -/
def keyPart (s : List Char) : Except Error (String × List Char) :=
  match s with
  | '\'' :: rest => (literalChars rest).map fun (text, rest) => (String.ofList text, rest)
  | '"' :: rest =>
    (basicChars false (rest.length + 1) [] rest).map fun (text, rest) => (String.ofList text, rest)
  | _ =>
    match s.takeWhile isBare with
    | [] => .error .malformed
    | name => .ok (String.ofList name, s.dropWhile isBare)

/-- A key: names between dots, with blanks around them. -/
def key : Nat → List Char → Except Error (Key × List Char)
  | 0, _ => .error .malformed
  | fuel + 1, s => do
    let (name, rest) ← keyPart s
    match skipSpace rest with
    | '.' :: rest =>
      let (names, rest) ← key fuel (skipSpace rest)
      return (name :: names, rest)
    | rest => return ([name], rest)

end RestBindings.Toml
