import RestBindings.Files.Error
import RestBindings.Files.Path
import RestBindings.Keyed
import RestBindings.Text.Encoding
import RestBindings.Text.Lines

/-!
# File trees

A file tree maps places to directories and files; a place is the list of names that lead to it from
the root.  A path text is followed name by name from the root or from the working directory; every
place on the way must be a directory.
-/

namespace RestBindings.Files

/-- The names that lead from the root to a file or directory. -/
abbrev Place := List String

/-- What is at a place. -/
inductive Entry
  | directory
  | file (content : ByteArray)

/-- A file tree with a working directory. -/
structure Tree where
  entries : List (Place × Entry)
  workingDirectory : Place

namespace Tree

/-- What is at a place.  The root is always a directory. -/
def find? (t : Tree) (place : Place) : Option Entry :=
  if place.isEmpty then some .directory else Keyed.get? place t.entries

/-- The tree with an entry at a place. -/
def put (t : Tree) (place : Place) (entry : Entry) : Tree :=
  { t with entries := Keyed.insert place entry t.entries }

/-- The most bytes of a name. -/
def nameLimit : Nat := 255

/-- The most bytes of a path. -/
def pathLimit : Nat := 4095

/-- The place that one name leads to from a place. -/
def step (t : Tree) (place : Place) (name : String) : Except Reason Place :=
  match t.find? place with
  | none => .error .notFound
  | some (.file _) => .error .notDirectory
  | some .directory =>
    if name = "" ∨ name = "." then .ok place
    else if name = ".." then .ok place.dropLast
    else if name.utf8ByteSize > nameLimit then .error .nameTooLong
    else .ok (place ++ [name])

/-- The place that names lead to from a place.  It need not exist, but all before it do. -/
def follow (t : Tree) (place : Place) : List String → Except Reason Place
  | [] => .ok place
  | name :: rest =>
    match t.step place name with
    | .ok next => t.follow next rest
    | .error reason => .error reason

/-- The place that a path text starts from. -/
def startOf (t : Tree) (path : String) : Place :=
  if path.toList.head? = some '/' then [] else t.workingDirectory

/-- The place that a path text leads to. -/
def locate (t : Tree) (path : String) : Except Error Place :=
  if path.toList.contains '\x00' then .error .nullInPath
  else if path.isEmpty then .error (.refused .notFound path)
  else if path.utf8ByteSize > pathLimit then .error (.refused .nameTooLong path)
  else match t.follow (t.startOf path) (Text.cut '/' path) with
    | .ok place => .ok place
    | .error reason => .error (.refused reason path)

/-- What a path text leads to, if there is anything. -/
def lookUp (t : Tree) (path : String) : Except Error (Option Entry) :=
  (t.locate path).map t.find?

/-- A path text leads to a file or directory. -/
def holds (t : Tree) (path : String) : Bool :=
  match t.lookUp path with
  | .ok (some _) => true
  | _ => false

/-- A path text leads to a directory. -/
def holdsDirectory (t : Tree) (path : String) : Bool :=
  match t.lookUp path with
  | .ok (some .directory) => true
  | _ => false

/-- The bytes of a file. -/
def readBytes (t : Tree) (path : String) : Except Error ByteArray :=
  match t.lookUp path with
  | .error e => .error e
  | .ok none => .error (.refused .notFound path)
  | .ok (some .directory) => .error (.refused .isDirectory path)
  | .ok (some (.file content)) => .ok content

/-- The text that bytes hold, its line ends unified. -/
def textOf (content : ByteArray) : Except Error String :=
  match String.fromUTF8? content with
  | some text => .ok (String.ofList (Text.unifyLineEnds text.toList))
  | none => .error .undecodable

/-- The text of a file, its line ends unified. -/
def readText (t : Tree) (path : String) : Except Error String :=
  match t.readBytes path with
  | .ok content => textOf content
  | .error e => .error e

/-- Makes a directory. -/
def makeDirectory (t : Tree) (path : String) : Except Error Tree :=
  match t.locate path with
  | .error e => .error e
  | .ok place =>
    match t.find? place with
    | some _ => .error (.refused .exists path)
    | none => .ok (t.put place .directory)

/-- Makes a directory that may exist already. -/
def ensureDirectory (t : Tree) (path : String) : Except Error Tree :=
  match t.makeDirectory path with
  | .ok t => .ok t
  | .error .nullInPath => .error .nullInPath
  | .error e => if t.holdsDirectory path then .ok t else .error e

/-- Makes a directory that may exist already, and first the directories that it needs.  The names
are given from the last to the first; the tree is the one reached when an error stops it. -/
def ensureAll (t : Tree) (root : String) : List String → Except Error Unit × Tree
  | [] =>
    match t.ensureDirectory (Path.text ⟨root, []⟩) with
    | .ok t => (.ok (), t)
    | .error e => (.error e, t)
  | name :: above =>
    let path := Path.text ⟨root, (name :: above).reverse⟩
    match t.ensureDirectory path with
    | .ok t => (.ok (), t)
    | .error (.refused .notFound _) =>
      match t.ensureAll root above with
      | (.error e, t) => (.error e, t)
      | (.ok (), t) =>
        match t.ensureDirectory path with
        | .ok t => (.ok (), t)
        | .error e => (.error e, t)
    | .error e => (.error e, t)

/-- Makes the directory of a path and first the directories that it needs. -/
def ensurePath (t : Tree) (p : Path) : Except Error Unit × Tree :=
  t.ensureAll p.root p.components.reverse

/-- Writes a file; what was in it before is lost.  Every text can be written, since the type of
texts has no halves of surrogate pairs, the only characters without an encoding. -/
def writeText (t : Tree) (path text : String) : Except Error Tree :=
  match t.locate path with
  | .error e => .error e
  | .ok place =>
    match t.find? place with
    | some .directory => .error (.refused .isDirectory path)
    | _ => .ok (t.put place (.file text.toUTF8))

/-! ## Whole trees -/

/-- The directories that lead to a place, the root left out. -/
def ancestors : Place → List Place
  | [] => []
  | name :: rest => [name] :: (ancestors rest).map (name :: ·)

/-- A tree with directories at a place and on the way to it. -/
def withDirectory (t : Tree) (place : Place) : Tree :=
  (ancestors place).foldl (fun t p => if (t.find? p).isSome then t else t.put p .directory) t

/-- A tree with an empty working directory. -/
def ofWorkingDirectory (place : Place) : Tree :=
  withDirectory ⟨[], place⟩ place

/-- A tree with a file at a place and directories on the way to it. -/
def withFile (t : Tree) (place : Place) (content : ByteArray) : Tree :=
  (t.withDirectory place.dropLast).put place (.file content)

/-- What remains of a place behind a directory above it. -/
def relativeTo : Place → Place → Option Place
  | [], place => some place
  | _ :: _, [] => none
  | d :: ds, n :: ns => if d = n then relativeTo ds ns else none

/-- The files below the working directory, each by the names that lead to it from there. -/
def filesBelow (t : Tree) : List (Place × ByteArray) :=
  t.entries.filterMap fun (place, entry) =>
    match entry, relativeTo t.workingDirectory place with
    | .file content, some relative => some (relative, content)
    | _, _ => none

/-- The files below the working directory that another tree lacks or holds with other bytes. -/
def changesSince (t old : Tree) : List (Place × ByteArray) :=
  t.filesBelow.filter fun (place, content) =>
    match old.find? (old.workingDirectory ++ place) with
    | some (.file before) => before != content
    | _ => true

end Tree

end RestBindings.Files
