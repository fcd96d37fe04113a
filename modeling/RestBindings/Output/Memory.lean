import RestBindings.Output.Emitter

/-!
# Units kept in memory
-/

namespace RestBindings.Output.Memory

/-- Texts by path, in the order in which they were stored. -/
abbrev Units := List (String × String)

/-- Stores a unit; its location is its path. -/
def store : Store Units := fun path text units =>
  (.ok path, Keyed.insert path text units)

/-- The text stored at a path. -/
def text? (path : String) (units : Units) : Option String :=
  Keyed.get? path units

end RestBindings.Output.Memory
