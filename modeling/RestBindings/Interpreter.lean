import RestBindings.Value

/-!
# The stack of the interpreter

Reading a text and making a text of a value go as deep into the stack of the interpreter as the
parts stand within one another.  How deep that may be depends on the interpreter and on how much of
its stack is taken already, so it is taken from `Interpreter`: what goes too deep ends with the
interpreter's own error, of which there is the text.
-/

namespace RestBindings

/-- What goes too deep for the interpreter, with the text of its error. -/
class Interpreter where
  /-- Reading a text as JSON. -/
  readingJson? : String → Option String
  /-- Reading a text as YAML. -/
  readingYaml? : String → Option String
  /-- Making a text of a value. -/
  showing? : Value → Option String

/-- The interpreter of the program itself, for which nothing goes too deep. -/
instance : Interpreter where
  readingJson? _ := none
  readingYaml? _ := none
  showing? _ := none

end RestBindings
