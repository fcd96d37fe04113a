import RestBindings.Toml.Quoted

/-!
# The tables of a TOML text

A table may be opened by its header once, may come into being by the keys of others, and may be
written in one piece, after which nothing is added to it.
-/

namespace RestBindings.Toml

/-- The entries of a table. -/
abbrev Entries := List (Scalar × Value)

/-- Changes the table under a key; tables on the way are made where they are missing, and of a list
of tables the last one is meant where lists may be entered. -/
def changeTable (intoLists : Bool) (change : Entries → Option Entries) :
    Key → Entries → Option Entries
  | [], table => change table
  | name :: rest, table =>
    match Value.member? name table with
    | none => (changeTable intoLists change rest []).map fun inner =>
        table ++ [(.text name, .mapping inner)]
    | some (.mapping inner) => (changeTable intoLists change rest inner).map fun inner =>
        Keyed.insert (.text name) (.mapping inner) table
    | some (.list items) =>
      match intoLists, items.getLast? with
      | true, some (.mapping inner) => (changeTable intoLists change rest inner).map fun inner =>
          Keyed.insert (.text name) (.list (items.dropLast ++ [.mapping inner])) table
      | _, _ => none
    | some _ => none

/-- Adds an entry under a name that the table does not have. -/
def addNew (name : String) (value : Value) (table : Entries) : Option Entries :=
  if (Value.member? name table).isSome then none else some (table ++ [(.text name, value)])

/-- Adds an entry under a key. -/
def addUnder (intoLists : Bool) (key : Key) (value : Value) (table : Entries) : Option Entries :=
  changeTable intoLists (addNew (key.getLast?.getD "") value) key.dropLast table

/-- Adds an empty table to the list under a name, which is made if it is missing. -/
def addToList (name : String) (table : Entries) : Option Entries :=
  match Value.member? name table with
  | none => some (table ++ [(.text name, .list [.mapping []])])
  | some (.list items) => some (Keyed.insert (.text name) (.list (items ++ [.mapping []])) table)
  | some _ => none

/-- A value that is written in one piece and has parts. -/
def hasParts : Value → Bool
  | .list _ => true
  | .mapping _ => true
  | _ => false

/-- The key or one that leads to it is in a list. -/
def isWithin (key : Key) (keys : List Key) : Bool :=
  keys.any fun other => other.isPrefixOf key

/-- What has been read of a text. -/
structure Document where
  entries : Entries
  /-- The key of the last header. -/
  header : Key
  /-- The tables that no header may open any more. -/
  opened : List Key
  /-- The tables that keys have opened since the last header. -/
  opening : List Key
  /-- The values with parts that are written in one piece. -/
  frozen : List Key

namespace Document

/-- The document in front of a text. -/
def empty : Document :=
  ⟨[], [], [], [], []⟩

/-- The tables that keys have opened count as opened when a header follows. -/
def settle (d : Document) : Document :=
  { d with opened := d.opening ++ d.opened, opening := [] }

/-- Opens a table by its header. -/
def openTable (key : Key) (d : Document) : Except Error Document :=
  if d.opened.contains key || isWithin key d.frozen then .error .malformed
  else match changeTable true some key d.entries with
    | some entries => .ok { d with entries, header := key, opened := key :: d.opened }
    | none => .error .malformed

/-- Opens the next table of a list by its header.  What was opened in the one before it may be
opened again. -/
def openItem (key : Key) (d : Document) : Except Error Document :=
  if isWithin key d.frozen then .error .malformed
  else
    let keep (keys : List Key) : List Key := keys.filter fun other => !key.isPrefixOf other
    match changeTable true (addToList (key.getLast?.getD "")) key.dropLast d.entries with
    | some entries => .ok
        { d with entries, header := key, opened := key :: keep d.opened, frozen := keep d.frozen }
    | none => .error .malformed

/-- The tables that a key leads through below the last header. -/
def passed (key : Key) (d : Document) : List Key :=
  ((List.range key.length).drop 1).map fun n => d.header ++ key.take n

/-- Adds an entry to the table of the last header. -/
def add (key : Key) (value : Value) (d : Document) : Except Error Document :=
  let passed := d.passed key
  let full := d.header ++ key
  if passed.any d.opened.contains || isWithin full.dropLast d.frozen then .error .malformed
  else match addUnder true full value d.entries with
    | some entries => .ok
        { d with
          entries
          opening := passed ++ d.opening
          frozen := if hasParts value then full :: d.frozen else d.frozen }
    | none => .error .malformed

end Document

end RestBindings.Toml
