import RestBindings.Source.Identifier
import RestBindings.Traversal
import RestBindings.Url.Split

/-!
# Packages and paths

The package of the generated units follows the reverse-domain convention: the labels of the host in
reverse order, each made an identifier.  The directory of a package has one component per label.
-/

namespace RestBindings.Source.Package

/-- Why a URL gives no package. -/
inductive Error
  /-- The text is refused as a URL. -/
  | url (cause : Url.Error)
  /-- The URL names no host. -/
  | noHost (url : String)
  /-- A label gives no identifier. -/
  | label (cause : Identifier.Error)
  deriving DecidableEq, Repr

/-- The text of an error. -/
def Error.message : Error → String
  | .url cause => cause.message
  | .noHost base => "Base URL '" ++ base ++ "' has no host"
  | .label cause => cause.message

/-- The nonempty labels of a host in lower case. -/
def labels (host : List Char) : List (List Char) :=
  (Text.splitOn '.' (Unicode.lower host)).filter (!·.isEmpty)

/-- The package for a host: its labels as identifiers, last one first. -/
def ofHost (host : List Char) : Except Identifier.Error (List Char) :=
  (Traversal.all Identifier.ofChars (labels host).reverse).map (Text.joinWith ['.'])

/-- The package for a base URL. -/
def ofUrl (url : String) : Except Error String :=
  match Url.split url.toList with
  | .error cause => .error (.url cause)
  | .ok parts =>
    if parts.host.isEmpty then .error (.noHost url)
    else match ofHost parts.host with
      | .error cause => .error (.label cause)
      | .ok package => .ok (String.ofList package)

/-- The relative path of a file in the directory of a package. -/
def filePath (package file : String) : String :=
  Text.join "/" (Text.cut '.' package ++ [file])

end RestBindings.Source.Package
