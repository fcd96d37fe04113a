import RestBindings.Text.Split

/-!
# Line ends

Files end their lines with a line feed, a return, or a return and a line feed.  Reading turns each
of them into a line feed.
-/

namespace RestBindings.Text

/-- A text with every line end turned into a line feed. -/
def unifyLineEnds : List Char → List Char
  | '\r' :: '\n' :: rest => '\n' :: unifyLineEnds rest
  | '\r' :: rest => '\n' :: unifyLineEnds rest
  | c :: rest => c :: unifyLineEnds rest
  | [] => []

/-- The lines of a text with unified line ends, without their line feeds. -/
def lines (s : String) : List String :=
  cut '\n' s

end RestBindings.Text
