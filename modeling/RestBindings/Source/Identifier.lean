import RestBindings.Text.Split
import RestBindings.Unicode.Normalization
import RestBindings.Unicode.Case

/-!
# Identifiers of the generated source

A document names its parameters freely; a variable of the generated source needs a valid
identifier.  The name of a resource becomes the name of an interface by capitalising its words.
-/

namespace RestBindings.Source.Identifier

/-- The words that cannot be used as identifiers. -/
def keywords : List String := [
  "abstract", "assert", "boolean", "break", "byte", "case", "catch", "char", "class", "const",
  "continue", "default", "do", "double", "else", "enum", "extends", "false", "final", "finally",
  "float", "for", "goto", "if", "implements", "import", "instanceof", "int", "interface", "long",
  "native", "new", "null", "package", "private", "protected", "public", "return", "short",
  "static", "strictfp", "super", "switch", "synchronized", "this", "throw", "throws", "transient",
  "true", "try", "void", "volatile", "while"]

/-- The text is a keyword. -/
def isKeyword (s : List Char) : Bool :=
  keywords.any fun word => word.toList == s

/-- An ASCII letter, a dollar sign or an underscore. -/
def isStart (c : Char) : Bool :=
  c.isAlpha || c == '_' || c == '$'

/-- A character that may follow the first one. -/
def isPart (c : Char) : Bool :=
  isStart c || c.isDigit

/-- Why a name gives no identifier. -/
inductive Error
  /-- The name is empty. -/
  | emptyName
  /-- The name consists of combining marks only. -/
  | nothingLeft
  deriving DecidableEq, Repr

/-- The text of an error. -/
def Error.message : Error → String
  | emptyName => "Name cannot be empty"
  | nothingLeft => "string index out of range"

/-- The characters of a name with the accents removed and all that no identifier may hold
replaced by an underscore. -/
def clean (name : List Char) : List Char :=
  (Unicode.stripMarks name).map fun c => if isPart c then c else '_'

/-- An underscore in front of a leading digit. -/
def guardDigit : List Char → List Char
  | [] => []
  | c :: rest => if c.isDigit then '_' :: c :: rest else c :: rest

/-- An underscore behind a keyword. -/
def guardKeyword (s : List Char) : List Char :=
  if isKeyword s then s ++ ['_'] else s

/-- The identifier for a name given by its characters. -/
def ofChars (name : List Char) : Except Error (List Char) :=
  if name.isEmpty then .error .emptyName
  else if (clean name).isEmpty then .error .nothingLeft
  else .ok (guardKeyword (guardDigit (clean name)))

/-- The identifier for a name. -/
def ofName (name : String) : Except Error String :=
  (ofChars name.toList).map String.ofList

/-- The interface name for a resource name given by its characters: the words between underscores,
each capitalised, one after the other. -/
def interfaceChars (resource : List Char) : List Char :=
  (Text.splitOn '_' resource).flatMap Unicode.capitalize

/-- The interface name for a resource name. -/
def interfaceName (resource : String) : String :=
  String.ofList (interfaceChars resource.toList)

end RestBindings.Source.Identifier
