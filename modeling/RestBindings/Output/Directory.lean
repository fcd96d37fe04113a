import RestBindings.Files.Tree
import RestBindings.Output.Emitter

/-!
# Units written to a directory

A unit is written to its path below the output directory.  Missing directories are made, and files
written before an error stay.
-/

namespace RestBindings.Output.Directory

open Files

/-- An error while the unit at a path is written: what the file operations report is reported as a
failure of output, anything else as it is. -/
def writingError (path : String) : Files.Error → Error
  | .refused reason at_ =>
    .failure (.output path (some (Files.Error.refused reason at_).message))
  | e => .file e

/-- Writes a unit below a directory. -/
def store (directory : String) : Store Tree := fun path text t =>
  let target := (Path.ofText directory).below path
  match t.ensurePath target.parent with
  | (.error e, t) => (.error (writingError target.text e), t)
  | (.ok (), t) =>
    match t.writeText target.text text with
    | .error e => (.error (writingError target.text e), t)
    | .ok t => (.ok target.text, t)

end RestBindings.Output.Directory
