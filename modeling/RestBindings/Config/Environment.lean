import RestBindings.Unicode.Case

/-!
# Settings from the environment

Settings of the program carry a name of their own in front.  Letter case does not count in their
names, and of several settings of one name the last counts.
-/

namespace RestBindings.Config

/-- Names and values of the environment, in order. -/
abbrev Environment := List (String × String)

namespace Environment

/-- What the names of settings begin with, in lower case. -/
def start : String := "gce2retrofit_"

/-- A name in lower case. -/
def fold (name : String) : String :=
  String.ofList (Unicode.lower name.toList)

/-- The value of a setting. -/
def setting? (e : Environment) (name : String) : Option String :=
  ((e.filter fun entry => fold entry.1 == start ++ name).getLast?).map Prod.snd

end Environment

/-- Defaults for a single job. -/
structure Defaults where
  classMap : Option String
  methods : Option String
  deriving DecidableEq, Repr

/-- The defaults that the environment gives. -/
def Environment.defaults (e : Environment) : Defaults :=
  ⟨e.setting? "class_map", e.setting? "methods"⟩

end RestBindings.Config
