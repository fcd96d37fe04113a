/-!
# String literals of the generated source
-/

namespace RestBindings.Source.Literal

/-- One character inside a string literal: a quote and a backslash take a backslash in front. -/
def escapeChar (c : Char) : List Char :=
  if c = '\\' ∨ c = '"' then ['\\', c] else [c]

/-- The characters between the quotes of a string literal. -/
def escape (s : List Char) : List Char :=
  s.flatMap escapeChar

/-- A string literal with the given value. -/
def quote (value : String) : String :=
  String.ofList ('"' :: escape value.toList ++ ['"'])

end RestBindings.Source.Literal
