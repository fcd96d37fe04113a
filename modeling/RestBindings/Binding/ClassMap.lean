import RestBindings.Keyed
import RestBindings.Text.Quoted
import RestBindings.Text.Split
import RestBindings.Text.Blank

/-!
# Class maps

A class map replaces the types of properties by name.  Its file has one entry per line, property
and type with a tab between them; a line of any other form is skipped.
-/

namespace RestBindings.Binding

/-- Source types by property name, in the order in which the names first appear. -/
abbrev ClassMap := List (String × String)

namespace ClassMap

/-- A character that ends a line. -/
def isLineEnd (c : Char) : Bool :=
  c == '\r' || c == '\n'

/-- The entry of a line, if it has exactly two fields. -/
def entryOf (line : String) : Option (String × String) :=
  match Text.splitOn '\t' (Text.dropTrailing isLineEnd line.toList) with
  | [property, type] => some (String.ofList property, String.ofList type)
  | _ => none

/-- The class map of a list of lines; a later line replaces an earlier one for the same
property. -/
def ofLines (lines : List String) : ClassMap :=
  Keyed.ofList (lines.filterMap entryOf)

/-- The type for a property. -/
def typeOf? (m : ClassMap) (property : String) : Option String :=
  Keyed.get? property m

/-- A class map as messages show it. -/
def shown (m : ClassMap) : String :=
  let entry (pair : String × String) := Text.quoted pair.1 ++ ": " ++ Text.quoted pair.2
  "ClassMap(\x7b" ++ Text.join ", " (m.map entry) ++ "\x7d)"

end ClassMap

end RestBindings.Binding
