import RestBindings.Text.Split

/-!
# Options and operands

An argument that begins with a hyphen is an option, by its long name behind two hyphens or by a
letter behind one; letters may be put together.  A value follows an equals sign, the letter, or as
the next argument, which may begin with a hyphen.  Behind two hyphens alone, and everywhere else,
arguments are operands.
-/

namespace RestBindings.CommandLine

/-- An option. -/
structure Switch where
  name : String
  letter : Option Char
  takesValue : Bool
  deriving DecidableEq, Repr

/-- What arguments give: the options by name with their values, and the operands, in order. -/
structure Arguments where
  options : List (String × String)
  operands : List String
  deriving DecidableEq, Repr

namespace Arguments

/-- No arguments. -/
def empty : Arguments :=
  ⟨[], []⟩

/-- An option more. -/
def addOption (a : Arguments) (s : Switch) (value : String) : Arguments :=
  { a with options := a.options ++ [(s.name, value)] }

/-- Operands more. -/
def addOperands (a : Arguments) (operands : List String) : Arguments :=
  { a with operands := a.operands ++ operands }

/-- The last value of an option. -/
def value? (a : Arguments) (name : String) : Option String :=
  (a.options.filter (·.1 == name)).getLast?.map Prod.snd

/-- An option was given. -/
def has (a : Arguments) (name : String) : Bool :=
  a.options.any (·.1 == name)

/-- The arguments so far, with an option that waits for its value. -/
abbrev Pending := Arguments × Option Switch

/-- An option by its long name, perhaps with a value behind an equals sign. -/
def long (switches : List Switch) (text : List Char) (a : Arguments) : Option Pending :=
  let name := String.ofList (Text.before '=' text)
  match switches.find? (·.name == name) with
  | none => none
  | some s =>
    if text.contains '=' then
      if s.takesValue then some (a.addOption s (String.ofList (Text.after '=' text)), none)
      else none
    else if s.takesValue then some (a, some s)
    else some (a.addOption s "", none)

/-- Options by their letters; the rest of the letters is the value of one that takes a value. -/
def letters (switches : List Switch) : List Char → Arguments → Option Pending
  | [], a => some (a, none)
  | c :: rest, a =>
    match switches.find? (·.letter == some c) with
    | none => none
    | some s =>
      if !s.takesValue then letters switches rest (a.addOption s "")
      else if rest.isEmpty then some (a, some s)
      else some (a.addOption s (String.ofList rest), none)

/-- Reads arguments; nothing if an option is not known or lacks its value. -/
def readFrom (switches : List Switch) : Pending → List String → Option Arguments
  | (a, none), [] => some a
  | (_, some _), [] => none
  | (a, some s), arg :: rest => readFrom switches (a.addOption s arg, none) rest
  | (a, none), arg :: rest =>
    match arg.toList with
    | ['-', '-'] => some (a.addOperands rest)
    | '-' :: '-' :: text => (long switches text a).bind (readFrom switches · rest)
    | '-' :: c :: text => (letters switches (c :: text) a).bind (readFrom switches · rest)
    | _ => readFrom switches (a.addOperands [arg], none) rest

/-- Reads arguments; nothing if an option is not known or lacks its value. -/
def read (switches : List Switch) (args : List String) : Option Arguments :=
  readFrom switches (empty, none) args

end Arguments

end RestBindings.CommandLine
