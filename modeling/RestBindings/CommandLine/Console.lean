import RestBindings.CommandLine.Markup
import RestBindings.Error

/-!
# Messages on the console

What is shown of a message with markup depends on the console: it knows which names of styles are
the same and which codes stand for pictures.  So the way from a message to its text is taken from
`Console`.  The console of the program itself takes the names of styles as they are written, letter
case and blanks around them not counting, and knows no codes.

Controls that move the cursor are dropped from a text, and tabs are filled with blanks up to the
next column that is a multiple of eight.
-/

namespace RestBindings.CommandLine

/-- What a console makes of messages with markup. -/
class Console where
  /-- The text that is shown of a message, or why the message is refused. -/
  render : String → Except String String

/-- The console of the program itself. -/
instance : Console where
  render := Markup.render

namespace Console

/-- The text that is shown of a message; a message that is refused ends what it is about. -/
def tell [Console] (message : String) : Except Error String :=
  (render message).mapError .badValue

/-- A control that is dropped. -/
def isDropped (c : Char) : Bool :=
  [0x07, 0x08, 0x0B, 0x0C, 0x0D].contains c.toNat

/-- The columns between tab stops. -/
def tabWidth : Nat := 8

/-- A text with its tabs filled, from a column on. -/
def fillTabs (column : Nat) : List Char → List Char
  | [] => []
  | c :: rest =>
    if c = '\t' then
      let width := tabWidth - column % tabWidth
      List.replicate width ' ' ++ fillTabs (column + width) rest
    else c :: fillTabs (if c = '\n' then 0 else column + 1) rest

/-- A text as the console shows it. -/
def shown (text : String) : String :=
  String.ofList (fillTabs 0 (text.toList.filter (!isDropped ·)))

end Console

end RestBindings.CommandLine
