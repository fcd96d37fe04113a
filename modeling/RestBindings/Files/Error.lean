import RestBindings.Text.Quoted

/-!
# Errors of file operations
-/

namespace RestBindings.Files

/-- Why a file operation is refused. -/
inductive Reason
  | notFound
  | exists
  | notDirectory
  | isDirectory
  | nameTooLong
  deriving DecidableEq, Repr

/-- The number of a reason. -/
def Reason.number : Reason → Nat
  | notFound => 2
  | .exists => 17
  | notDirectory => 20
  | isDirectory => 21
  | nameTooLong => 36

/-- The words for a reason. -/
def Reason.words : Reason → String
  | notFound => "No such file or directory"
  | .exists => "File exists"
  | notDirectory => "Not a directory"
  | isDirectory => "Is a directory"
  | nameTooLong => "File name too long"

/-- An error of a file operation. -/
inductive Error
  /-- The operation on a path was refused. -/
  | refused (reason : Reason) (path : String)
  /-- The path holds the character zero, which no path can hold. -/
  | nullInPath
  /-- The file holds no encoded text. -/
  | undecodable
  deriving DecidableEq, Repr

/-- The text of an error. -/
def Error.message : Error → String
  | refused reason path =>
    "[Errno " ++ toString reason.number ++ "] " ++ reason.words ++ ": " ++ Text.quoted path
  | nullInPath => "embedded null byte"
  | undecodable => "the file is not encoded text"

end RestBindings.Files
