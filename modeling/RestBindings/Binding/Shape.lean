import RestBindings.Text.Blank
import RestBindings.Text.Split

/-!
# Call shapes

Every method is generated as a call that returns the result, as a call that delivers it to a
callback, or as both.  A selector names the shapes wanted; one that names none selects both.
-/

namespace RestBindings.Binding

/-- The shapes of a generated call. -/
inductive Shape
  | sync
  | async
  deriving DecidableEq, Repr

/-- Which shapes are wanted. -/
structure Shapes where
  sync : Bool
  async : Bool
  deriving DecidableEq, Repr

namespace Shapes

/-- No shape. -/
def neither : Shapes := ⟨false, false⟩

/-- Both shapes. -/
def both : Shapes := ⟨true, true⟩

/-- A single shape. -/
def only : Shape → Shapes
  | .sync => ⟨true, false⟩
  | .async => ⟨false, true⟩

/-- The shapes that at least one of two selections wants. -/
def union (a b : Shapes) : Shapes :=
  ⟨a.sync || b.sync, a.async || b.async⟩

/-- Both shapes in place of none. -/
def orBoth (a : Shapes) : Shapes :=
  if a = neither then both else a

/-- The selection wants a shape. -/
def wants (a : Shapes) : Shape → Bool
  | .sync => a.sync
  | .async => a.async

/-- The wanted shapes, the one that returns the result first. -/
def toList (a : Shapes) : List Shape :=
  [Shape.sync, Shape.async].filter a.wants

/-- The names of the wanted shapes in alphabetical order. -/
def names (a : Shapes) : List String :=
  (if a.async then ["async"] else []) ++ (if a.sync then ["sync"] else [])

end Shapes

/-- An element of a selector. -/
inductive Token
  /-- A word, with any blanks around it. -/
  | word (text : String)
  /-- A shape itself. -/
  | shape (shape : Shape)
  /-- An element that names no shape. -/
  | other
  deriving DecidableEq, Repr

/-- The shapes that a word stands for; a word that is not known stands for none. -/
def wordMeaning (word : List Char) : Shapes :=
  if word = "sync".toList then .only .sync
  else if word = "async".toList then .only .async
  else if word = "both".toList then .both
  else .neither

/-- The shapes that an element of a selector stands for. -/
def Token.meaning : Token → Shapes
  | word text => wordMeaning (Text.trim text.toList)
  | shape s => .only s
  | other => .neither

namespace Shapes

/-- The shapes that a list of elements selects. -/
def ofTokens (tokens : List Binding.Token) : Shapes :=
  (tokens.foldr (fun token rest => token.meaning.union rest) neither).orBoth

/-- The shapes that a text of words between commas selects. -/
def ofText (selector : String) : Shapes :=
  ofTokens ((Text.cut ',' selector).map .word)

end Shapes

end RestBindings.Binding
