import RestBindings.Decimal.Shortest
import RestBindings.Keyed
import RestBindings.Text.Quoted

/-!
# Decoded values

What a document or a configuration file holds once its notation has been read.  A mapping keeps
its entries in order, with one entry per key.
-/

namespace RestBindings

/-- What a date or time tells. -/
inductive Moment.Kind
  | date
  | dateTime
  | time
  deriving DecidableEq, Repr

/-- A date, a time of day, or both. -/
structure Moment where
  kind : Moment.Kind
  /-- The text that messages show for it. -/
  shown : String
  deriving DecidableEq, Repr

/-- A value without parts; only such values are keys of mappings. -/
inductive Scalar
  | null
  | bool (value : Bool)
  | int (value : Int)
  | real (value : Decimal.Binary64)
  | text (value : String)
  | bytes (value : List UInt8)
  | moment (value : Moment)
  deriving DecidableEq, Repr

/-- A decoded value. -/
inductive Value
  | scalar (value : Scalar)
  | list (items : List Value)
  /-- A set of scalars, in the order in which they were written. -/
  | set (members : List Scalar)
  | mapping (entries : List (Scalar × Value))
  /-- A value that no document can use: a pair, or a node that contains itself. -/
  | opaqueNode
  deriving Repr

namespace Scalar

/-- The number that a scalar equals as a key: truth values count as zero and one, and a number
without a fraction equals the integer of that value. -/
def keyNumber? : Scalar → Option Int
  | bool b => some (if b then 1 else 0)
  | int n => some n
  | real x => x.toInt?
  | _ => none

/-- Two scalars are one key. -/
def sameKey (a b : Scalar) : Bool :=
  match a.keyNumber?, b.keyNumber? with
  | some m, some n => m == n
  | none, none => a == b && a != real .nan
  | _, _ => false

/-- Bytes between quotes, all but the printable ASCII ones escaped. -/
def quotedBytes (bytes : List UInt8) : String :=
  let codes := bytes.map fun byte => Char.ofNat byte.toNat
  let quote := Text.quoteFor codes
  let shownByte (c : Char) : List Char :=
    if c.toNat < 0x7F then Text.quotedChar quote c else Text.numericEscape c
  String.ofList (quote :: codes.flatMap shownByte ++ [quote])

/-- How a location shows a key. -/
def shown : Scalar → String
  | null => "None"
  | bool b => if b then "1" else "0"
  | int n => toString n
  | real x => x.text
  | text s => s
  | bytes b => "b" ++ quotedBytes b
  | moment m => m.shown

end Scalar

namespace Value

/-- The value under a name in the entries of a mapping. -/
def member? (name : String) (entries : List (Scalar × Value)) : Option Value :=
  Keyed.get? (.text name) entries

/-- Stores a value under a key of a mapping. -/
def store (key : Scalar) (value : Value) : List (Scalar × Value) → List (Scalar × Value)
  | [] => [(key, value)]
  | entry :: rest =>
    if entry.1.sameKey key then (entry.1, value) :: rest else entry :: store key value rest

/-- A text as a value. -/
abbrev ofText (s : String) : Value :=
  .scalar (.text s)

/-- The empty value. -/
abbrev null : Value :=
  .scalar .null

end Value

end RestBindings
