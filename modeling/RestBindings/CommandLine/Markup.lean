import RestBindings.Text.Blank
import RestBindings.Text.Split
import RestBindings.Unicode.Case

/-!
# Messages with markup

Tags in brackets say in which style a part of a message is shown, and are not shown themselves.  A
tag opens a style; with a slash in front it closes the last style of its name, or the last style of
all if it names none.  A tag that has nothing to close makes a message that cannot be shown.
Backslashes in front of a tag count in pairs, and an odd one makes a text of the tag.
-/

namespace RestBindings.CommandLine.Markup

/-! ## Where tags stand -/

/-- A character with which a tag begins. -/
def opensTag (c : Char) : Bool :=
  c.isLower || c == '#' || c == '/' || c == '@'

/-- The text up to the bracket that closes a tag, if none opens before it. -/
def closedText? : List Char → Option (List Char)
  | [] => none
  | c :: rest =>
    if c = ']' then some []
    else if c = '[' then none
    else (closedText? rest).map (c :: ·)

/-- The text of the tag behind an opening bracket, if there is one. -/
def tagText? : List Char → Option (List Char)
  | [] => none
  | c :: rest => if opensTag c then (closedText? rest).map (c :: ·) else none

/-- A tag with the backslashes in front of it. -/
structure Mark where
  escapes : Nat
  /-- What stands between the brackets. -/
  tag : List Char

/-- The tag with which a text begins, if it does. -/
def mark? (s : List Char) : Option Mark :=
  match s.dropWhile (· == '\\') with
  | '[' :: behind =>
    (tagText? behind).map fun tag => ⟨(s.takeWhile (· == '\\')).length, tag⟩
  | _ => none

/-- The parts of a message. -/
inductive Part
  | char (c : Char)
  /-- A tag, and the place of its bracket in the message. -/
  | tag (position : Nat) (text : List Char)
  deriving DecidableEq, Repr

namespace Mark

/-- The number of characters that a mark takes up. -/
def length (m : Mark) : Nat :=
  m.escapes + m.tag.length + 2

/-- What a mark at a place stands for. -/
def parts (m : Mark) (position : Nat) : List Part :=
  List.replicate (m.escapes / 2) (.char '\\') ++
    if m.escapes % 2 = 1 then ('[' :: m.tag ++ [']']).map .char
    else [.tag (position + m.escapes) m.tag]

end Mark

/-- The parts of a text from a place on, after a number of characters that are skipped.  Outside of
tags a backslash in front of a bracket is left out. -/
def partsFrom (position : Nat) : Nat → List Char → List Part
  | _, [] => []
  | skipped + 1, _ :: rest => partsFrom (position + 1) skipped rest
  | 0, c :: rest =>
    match mark? (c :: rest) with
    | some m => m.parts position ++ partsFrom (position + 1) (m.length - 1) rest
    | none =>
      if c = '\\' ∧ rest.head? = some '[' then partsFrom (position + 1) 0 rest
      else .char c :: partsFrom (position + 1) 0 rest

/-! ## What is shown -/

/-- The name of a style, as names are compared. -/
def styleName (name : List Char) : List Char :=
  Unicode.lower (Text.trim name)

/-- The styles that are open behind a tag, the last one first. -/
def stylesBehind (styles : List (List Char)) (position : Nat) (tag : List Char) :
    Except String (List (List Char)) :=
  match Text.before '=' tag with
  | '/' :: name =>
    if (Text.trim name).isEmpty then
      match styles with
      | [] => .error ("closing tag '[/]' at position " ++ toString position ++
          " has nothing to close")
      | _ :: others => .ok others
    else if styles.contains (styleName name) then .ok (styles.erase (styleName name))
    else .error ("closing tag '[" ++ String.ofList tag ++ "]' at position " ++
      toString position ++ " doesn't match any open tag")
  | name => .ok (styleName name :: styles)

/-- The text that is shown of parts while styles are open. -/
def shownParts : List (List Char) → List Part → Except String (List Char)
  | _, [] => .ok []
  | styles, .char c :: rest => (shownParts styles rest).map (c :: ·)
  | styles, .tag position tag :: rest =>
    match stylesBehind styles position tag with
    | .error message => .error message
    | .ok others => shownParts others rest

/-- The text that is shown of a message, or why it cannot be shown. -/
def render (message : String) : Except String String :=
  (shownParts [] (partsFrom 0 0 message.toList)).map String.ofList

/-- A text in a style of its own. -/
def styled (style text : String) : String :=
  "[" ++ style ++ "]" ++ text ++ "[/" ++ style ++ "]"

end RestBindings.CommandLine.Markup
