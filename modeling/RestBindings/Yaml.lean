import RestBindings.Text.Base64
import RestBindings.Yaml.Node

/-!
# Reading YAML

The value of a YAML text.  The tag of a node says what kind of value it is; entries under a merge
key come in front of the entries of the mapping that holds them, which may replace them.
-/

namespace RestBindings.Yaml

/-! ## Scalars -/

/-- The truth value of a word. -/
def truth? (text : String) : Option Bool :=
  let word := String.ofList (text.toList.map Char.toLower)
  if ["yes", "true", "on"].contains word then some true
  else if ["no", "false", "off"].contains word then some false
  else none

/-- The value of a scalar by the name of its standard tag. -/
def namedScalar (name text : String) : Except Error Scalar :=
  match name with
  | "str" => .ok (.text text)
  | "null" => .ok .null
  | "bool" =>
    match truth? text with
    | some b => .ok (.bool b)
    | none => .error .unknownTruth
  | "int" => (Number.readInteger text).map .int
  | "float" => (Number.readReal text).map .real
  | "binary" =>
    if text.toList.all (·.toNat < 0x80) then
      match Text.Base64.decode? text.toList with
      | some bytes => .ok (.bytes bytes)
      | none => .error .malformed
    else .error .malformed
  | "timestamp" =>
    match Timestamp.written? (Tag.withoutLineFeed text.toList) with
    | some written => (Timestamp.moment written).map .moment
    | none => .error .notDate
  | _ => .error .malformed

/-- The name of a standard tag; empty for other tags. -/
def standardName (tag : String) : String :=
  let start := (Tag.standard "").toList
  if tag.toList.take start.length = start then String.ofList (tag.toList.drop start.length)
  else ""

/-- The value of a scalar by its tag. -/
def scalarOf (tag text : String) : Except Error Scalar :=
  namedScalar (standardName tag) text

namespace Node

/-- The tag of a node. -/
def tag : Node → String
  | .scalar tag _ => tag
  | .sequence tag _ => tag
  | .mapping tag _ => tag
  | .enclosing => ""

mutual

/-- The text that a node stands for as a scalar: its own, or that of the value of a mapping. -/
def scalarText : Node → Except Error String
  | .scalar _ text => .ok text
  | .mapping _ entries => valueText entries
  | _ => .error .malformed

/-- The text under the first key that stands for the value of a mapping. -/
def valueText : List (Node × Node) → Except Error String
  | [] => .error .malformed
  | (key, value) :: rest => if key.tag = Tag.value then scalarText value else valueText rest

end

/-- A key of a mapping, which is always a scalar. -/
def keyOf : Value → Except Error Scalar
  | .scalar key => .ok key
  | _ => .error .malformed

mutual

/-- The value of a node. -/
def value : Node → Except Error Value
  | .scalar tag text => (scalarOf tag text).map .scalar
  | .enclosing => .ok .opaqueNode
  | .sequence tag items =>
    match standardName tag with
    | "seq" => (values items).map .list
    | "omap" | "pairs" => (pairs items).map .list
    | _ => .error .malformed
  | .mapping tag entries =>
    match standardName tag with
    | "map" => do
      let stored ← storedEntries entries
      return .mapping stored
    | "set" => do
      let stored ← storedEntries entries
      return .set (stored.map Prod.fst)
    | _ => do
      let text ← valueText entries
      return .scalar (← scalarOf tag text)

/-- The values of nodes. -/
def values : List Node → Except Error (List Value)
  | [] => .ok []
  | node :: rest => do
    let first ← value node
    return first :: (← values rest)

/-- The values of nodes that are mappings of one entry each. -/
def pairs : List Node → Except Error (List Value)
  | [] => .ok []
  | .mapping _ [(first, second)] :: rest => do
    let _ ← value first
    let _ ← value second
    return .opaqueNode :: (← pairs rest)
  | _ :: _ => .error .malformed

/-- The entries of a mapping, one per key. -/
def storedEntries (entries : List (Node × Node)) : Except Error (List (Scalar × Value)) := do
  let merged ← mergedEntries entries
  let own ← ownEntries entries
  return (merged ++ own).foldl (fun stored entry => Value.store entry.1 entry.2 stored) []

/-- The entries that merge keys bring into a mapping. -/
def mergedEntries : List (Node × Node) → Except Error (List (Scalar × Value))
  | [] => .ok []
  | (key, node) :: rest => do
    let first ← if key.tag = Tag.merge then broughtEntries node else .ok []
    return first ++ (← mergedEntries rest)

/-- The entries under the other keys of a mapping. -/
def ownEntries : List (Node × Node) → Except Error (List (Scalar × Value))
  | [] => .ok []
  | (key, node) :: rest => do
    if key.tag = Tag.merge then ownEntries rest
    else
      let k ← if key.tag = Tag.value then (scalarText key).map .text else value key >>= keyOf
      let v ← value node
      return (k, v) :: (← ownEntries rest)

/-- The entries that the value of a merge key brings. -/
def broughtEntries : Node → Except Error (List (Scalar × Value))
  | .mapping _ entries => do
    let merged ← mergedEntries entries
    return merged ++ (← ownEntries entries)
  | .sequence _ items => broughtByItems items
  | .enclosing => .ok []
  | .scalar .. => .error .malformed

/-- The entries that a list of mappings brings, those of the first one last. -/
def broughtByItems : List Node → Except Error (List (Scalar × Value))
  | [] => .ok []
  | .mapping _ entries :: rest => do
    let merged ← mergedEntries entries
    let own ← ownEntries entries
    return (← broughtByItems rest) ++ merged ++ own
  | .enclosing :: rest => broughtByItems rest
  | _ :: _ => .error .malformed

end

end Node

/-- A character that may occur in a text. -/
def isAllowed (c : Char) : Bool :=
  let n := c.toNat
  c == '\t' || c == '\n' || c == '\r' || c == '\x85' || (0x20 ≤ n && n ≤ 0x7E) ||
    (0xA0 ≤ n && n ≤ 0xFFFD) || 0x10000 ≤ n

/-- The value that a text denotes; the empty value if it holds no document. -/
def read (source : String) : Except Error Value :=
  let text := source.toList
  if text.all isAllowed then
    let (tokens, broken) := tokens text
    match Node.ofTokens tokens broken with
    | .ok (some node) => node.value
    | .ok none => .ok .null
    | .error e => .error e
  else .error .malformed

end RestBindings.Yaml
