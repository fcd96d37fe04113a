import RestBindings.Json
import RestBindings.Text.Encoding
import RestBindings.Yaml.Cursor
import RestBindings.Yaml.Token

/-!
# Names, tags and directives in YAML
-/

namespace RestBindings.Yaml.Token

/-- A character of a tag's suffix. -/
def isTagChar (c : Char) : Bool :=
  c.isAlphanum || "-;/?:@&=+$,_.!~*'()[]".toList.contains c

/-- The characters that may follow the name of an anchor. -/
def endsAnchor (c : Char) : Bool :=
  endsWord c || "?:,]\x7d%@`".toList.contains c

/-- The name of an anchor; the cursor is at its mark. -/
def anchorName (c : Cursor) : Except Error (String × Cursor) :=
  match c.next.span isNameChar with
  | ([], _) => .error .malformed
  | (name, c) => if endsAnchor c.here then .ok (String.ofList name, c) else .error .malformed

/-- The bytes of escapes with a percent sign and two hexadecimal digits. -/
def escapedBytes : Nat → List UInt8 → Cursor → Except Error (List UInt8 × Cursor)
  | 0, read, c => .ok (read, c)
  | fuel + 1, read, c =>
    if c.here = '%' then
      match Json.hexValue? (c.peek 1), Json.hexValue? (c.peek 2) with
      | some high, some low =>
        escapedBytes fuel (read ++ [UInt8.ofNat (high * 16 + low)]) (c.skip 3)
      | _, _ => .error .malformed
    else .ok (read, c)

/-- The characters of a tag, its escapes decoded. -/
def tagChars : Nat → List Char → Cursor → Except Error (List Char × Cursor)
  | 0, read, c => .ok (read, c)
  | fuel + 1, read, c =>
    let (run, c) := c.span isTagChar
    let read := read ++ run
    if c.here = '%' then
      match escapedBytes (c.rest.length + 1) [] c with
      | .error e => .error e
      | .ok (bytes, c) =>
        match Text.decodeUtf8? bytes with
        | some text => tagChars fuel (read ++ text.toList) c
        | none => .error .malformed
    else .ok (read, c)

/-- The characters of a tag, at least one. -/
def tagText (c : Cursor) : Except Error (String × Cursor) :=
  if isTagChar c.here || c.here == '%' then
    (tagChars (c.rest.length + 1) [] c).map fun (text, c) => (String.ofList text, c)
  else .error .malformed

/-- A handle of tags: a mark, or a name between two marks. -/
def tagHandle (c : Cursor) : Except Error (String × Cursor) :=
  if c.here != '!' then .error .malformed
  else if c.peek 1 = ' ' then .ok ("!", c.next)
  else
    let (name, rest) := c.next.span isNameChar
    if rest.here = '!' then .ok (String.ofList ('!' :: name ++ ['!']), rest.next)
    else .error .malformed

/-- A second mark follows within the word. -/
def hasHandle (c : Cursor) : Bool :=
  (c.next.rest.takeWhile (!endsWordStrictly ·)).contains '!'

/-- A tag as it is written, without a look at what follows it. -/
def tagBody (c : Cursor) : Except Error (TagName × Cursor) := do
  let following := c.peek 1
  if following = '<' then
    let (written, c) ← tagText (c.skip 2)
    if c.here = '>' then return (.whole written, c.next) else throw .malformed
  else if endsWord following then
    return (.whole "!", c.next)
  else
    let (handle, c) ← if hasHandle c then tagHandle c else .ok ("!", c.next)
    let (suffix, c) ← tagText c
    return (.short handle suffix, c)

/-- A tag; the cursor is at its mark. -/
def tagName (c : Cursor) : Except Error (TagName × Cursor) := do
  let (name, c) ← tagBody c
  if endsWordStrictly c.here then return (name, c) else throw .malformed

/-- A number of a version. -/
def versionNumber (c : Cursor) : Except Error (Nat × Cursor) :=
  match c.span Char.isDigit with
  | ([], _) => .error .malformed
  | (digits, c) => .ok (Json.digitsValue digits, c)

/-- The version that a directive names. -/
def versionBody (c : Cursor) : Except Error (Directive × Cursor) := do
  let (major, c) ← versionNumber (c.skipWhile (· == ' '))
  if c.here != '.' then throw .malformed
  let (minor, c) ← versionNumber c.next
  if endsWordStrictly c.here then return (.version major minor, c) else throw .malformed

/-- The handle that a directive defines. -/
def handleBody (c : Cursor) : Except Error (Directive × Cursor) := do
  let (handle, c) ← tagHandle (c.skipWhile (· == ' '))
  if c.here != ' ' then throw .malformed
  let (start, c) ← tagText (c.skipWhile (· == ' '))
  if endsWordStrictly c.here then return (.handle handle start, c) else throw .malformed

/-- A directive; the cursor is at its mark. -/
def directiveLine (c : Cursor) : Except Error (Directive × Cursor) := do
  let (name, c) := c.next.span isNameChar
  if name.isEmpty || !endsWordStrictly c.here then throw .malformed
  let (read, c) ←
    if name = "YAML".toList then versionBody c
    else if name = "TAG".toList then handleBody c
    else .ok (.other, c.skipWhile (!endsLine ·))
  return (read, ← c.blankLine)

end RestBindings.Yaml.Token
