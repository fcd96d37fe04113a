import RestBindings.Text.Split

/-!
# Paths

A path is a root, if it is absolute, and the components that count: empty components and single
dots are dropped, double dots are kept.
-/

namespace RestBindings.Files

/-- A path. -/
structure Path where
  /-- Empty for a relative path; one or two slashes for an absolute one. -/
  root : String
  components : List String
  deriving DecidableEq, Repr

namespace Path

/-- A component that counts. -/
def counts (component : String) : Bool :=
  component != "" && component != "."

/-- The components of a text that count. -/
def componentsOf (text : String) : List String :=
  (Text.cut '/' text).filter counts

/-- The root of a text: two slashes are a root of their own, more than two count as one. -/
def rootOf (text : String) : String :=
  match text.toList with
  | '/' :: '/' :: '/' :: _ => "/"
  | '/' :: '/' :: _ => "//"
  | '/' :: _ => "/"
  | _ => ""

/-- The path that a text denotes. -/
def ofText (text : String) : Path :=
  ⟨rootOf text, componentsOf text⟩

/-- The text of a path; a single dot for the empty relative path. -/
def text (p : Path) : String :=
  if p.root.isEmpty && p.components.isEmpty then "."
  else p.root ++ Text.join "/" p.components

/-- A relative path below a path. -/
def below (p : Path) (relative : String) : Path :=
  { p with components := p.components ++ componentsOf relative }

/-- The path without its last component. -/
def parent (p : Path) : Path :=
  { p with components := p.components.dropLast }

/-- The ending of a file name from its last dot on, if that dot is neither the first nor the last
character. -/
def suffixOf (name : List Char) : List Char :=
  let ending := (name.reverse.takeWhile (· != '.')).reverse
  if ending.isEmpty || ending.length + 1 ≥ name.length then [] else '.' :: ending

/-- The suffix of a path. -/
def suffix (p : Path) : String :=
  match p.components.getLast? with
  | some name => String.ofList (suffixOf name.toList)
  | none => ""

end Path

end RestBindings.Files
