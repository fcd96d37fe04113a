import RestBindings.Text.Split

/-!
# Writing source text

A unit of source is written declaration by declaration: the package clause, imports, and types
with their members.  Every line is indented by the number of types that are open at that moment.
-/

namespace RestBindings.Source

/-- The state of a unit being written. -/
structure Writer where
  /-- The lines so far, indented. -/
  lines : List String
  /-- The package, once it is set. -/
  package : Option String
  /-- The types that are open, innermost first. -/
  openTypes : List String
  deriving DecidableEq, Repr

/-- One thing to write. -/
inductive Declaration
  | package (name : String)
  | imports (names : List String)
  | emptyLine
  | beginType (name kind : String) (modifiers : List String)
  | endType
  | field (type name : String) (modifiers : List String)
  | annotate (name : String) (argument : Option String)
  | method (returnType name : String) (parameters modifiers : List String)
  deriving DecidableEq, Repr

namespace Writer

/-- Why a declaration cannot be written, or the text not be read. -/
inductive Error
  | packageNotFirst
  | noOpenType
  | openType (name : String)
  deriving DecidableEq, Repr

/-- The text of an error. -/
def Error.message : Error → String
  | packageNotFirst => "The package clause must be emitted first"
  | noOpenType => "No type is open"
  | openType name => "Type " ++ name ++ " is still open"

/-- A unit without lines. -/
def empty : Writer :=
  ⟨[], none, []⟩

/-- Two blanks for each of a number of open types. -/
def indent (depth : Nat) : String :=
  String.ofList (List.replicate (2 * depth) ' ')

/-- A line at a depth; an empty line is not indented. -/
def indented (depth : Nat) (line : String) : String :=
  if line.isEmpty then "" else indent depth ++ line

/-- Adds a line at the current depth. -/
def line (text : String) (w : Writer) : Writer :=
  { w with lines := w.lines ++ [indented w.openTypes.length text] }

/-- A text without another text in front of it. -/
def dropFront : List Char → List Char → Option (List Char)
  | [], s => some s
  | _ :: _, [] => none
  | p :: ps, c :: cs => if p = c then dropFront ps cs else none

/-- A qualified type name without the package, when what remains is a simple name. -/
def simpleName (package type : String) : String :=
  match dropFront (package.toList ++ ['.']) type.toList with
  | some name => if name.contains '.' then type else String.ofList name
  | none => type

/-- A type name as the unit writes it: members of its own package by their simple names. -/
def compressType (type : String) (w : Writer) : String :=
  match w.package with
  | some package => if package.isEmpty then type else simpleName package type
  | none => type

/-- Words with a blank between them. -/
def words (parts : List String) : String :=
  Text.join " " parts

/-- The text of an annotation. -/
def annotationText (name : String) : Option String → String
  | some argument => "@" ++ name ++ "(" ++ argument ++ ")"
  | none => "@" ++ name

/-- The text of a member without a body. -/
def memberText (returnType name : String) (parameters modifiers : List String) : String :=
  words (modifiers ++ [returnType, name]) ++ "(" ++ Text.join ", " parameters ++ ");"

/-- Sets the package and writes its clause; the clause of the unnamed package is empty. -/
def putPackage (name : String) (w : Writer) : Writer :=
  let w := { w with package := some name }
  if name.isEmpty then w else (w.line ("package " ++ name ++ ";")).line ""

/-- Writes one declaration. -/
def write (w : Writer) : Declaration → Except Error Writer
  | .package name => if w.lines.isEmpty then .ok (w.putPackage name) else .error .packageNotFirst
  | .imports names => .ok (names.foldl (fun w name => w.line ("import " ++ name ++ ";")) w)
  | .emptyLine => .ok (w.line "")
  | .beginType name kind modifiers =>
    let w := w.line (words (modifiers ++ [kind, w.compressType name]) ++ " \x7b")
    .ok { w with openTypes := name :: w.openTypes }
  | .endType =>
    match w.openTypes with
    | [] => .error .noOpenType
    | _ :: outer => .ok ({ w with openTypes := outer }.line "\x7d")
  | .field type name modifiers => .ok (w.line (words (modifiers ++ [type, name]) ++ ";"))
  | .annotate name argument => .ok (w.line (annotationText name argument))
  | .method returnType name parameters modifiers =>
    .ok (w.line (memberText returnType name parameters modifiers))

/-- Writes declarations one after the other up to the first that is refused. -/
def writeAll (w : Writer) : List Declaration → Except Error Writer
  | [] => .ok w
  | d :: rest =>
    match w.write d with
    | .ok w => w.writeAll rest
    | .error e => .error e

/-- The text of lines, each ended by a line feed; without lines, a single line feed. -/
def textOf (lines : List String) : String :=
  Text.join "\n" lines ++ "\n"

/-- The text of a finished unit. -/
def text (w : Writer) : Except Error String :=
  match w.openTypes with
  | [] => .ok (textOf w.lines)
  | name :: _ => .error (.openType name)

end Writer

/-- The text that declarations write on an empty unit. -/
def textOfDeclarations (declarations : List Declaration) : Except Writer.Error String :=
  match Writer.empty.writeAll declarations with
  | .ok w => w.text
  | .error e => .error e

end RestBindings.Source
