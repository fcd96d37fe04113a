import RestBindings.Keyed
import RestBindings.Yaml.Resolution
import RestBindings.Yaml.Token.Lexer

/-!
# Nodes of YAML documents

The tokens of a text make up at most one document, a tree of nodes with tags.  A node with an anchor
stands also wherever its alias stands.
-/

namespace RestBindings.Yaml

/-- A node of a document. -/
inductive Node
  | scalar (tag text : String)
  | sequence (tag : String) (items : List Node)
  | mapping (tag : String) (entries : List (Node × Node))
  /-- An alias for a node that holds it. -/
  | enclosing
  deriving Repr

namespace Node

/-- What remains to be read of a document and what is known about it. -/
structure State where
  tokens : List Token
  /-- The error that ends the tokens, if there is one. -/
  broken : Option Error
  /-- What the handles of tags stand for. -/
  handles : List (String × String)
  /-- The nodes with anchors. -/
  anchors : List (String × Node)

namespace State

/-- The error for tokens that do not go on as they should. -/
def unexpected {α : Type} (s : State) : Except Error α :=
  match s.tokens, s.broken with
  | [], some e => .error e
  | _, _ => .error .malformed

/-- Past one token. -/
def next (s : State) : State :=
  { s with tokens := s.tokens.tail }

/-- The next token. -/
def head? (s : State) : Option Token :=
  s.tokens.head?

/-- The next token is one of a list. -/
def atAny (s : State) (marks : List Token) : Bool :=
  match s.head? with
  | some token => marks.contains token
  | none => false

/-- Past a token that has to follow. -/
def expect (s : State) (token : Token) : Except Error State :=
  if s.head? = some token then .ok s.next else s.unexpected

/-- Gives a node its anchor. -/
def store (name : String) (node : Node) (s : State) : State :=
  { s with anchors := Keyed.insert name node s.anchors }

end State

/-! ## Tags and anchors -/

/-- The handles that every document knows. -/
def standardHandles : List (String × String) := [("!", "!"), ("!!", Tag.standard "")]

/-- The tag that is written. -/
def resolve (s : State) : TagName → Except Error String
  | .whole tag => .ok tag
  | .short handle suffix =>
    match Keyed.get? handle s.handles with
    | some start => .ok (start ++ suffix)
    | none => .error .malformed

/-- The tag and the anchor in front of a node. -/
structure Properties where
  tag : Option String
  anchor : Option String

/-- Reads tag and anchor, in either order. -/
def properties (s : State) : Except Error (Properties × State) := do
  match s.tokens with
  | .anchor name :: .tag written :: _ =>
    return (⟨some (← resolve s written), some name⟩, s.next.next)
  | .tag written :: .anchor name :: _ =>
    return (⟨some (← resolve s written), some name⟩, s.next.next)
  | .anchor name :: _ => return (⟨none, some name⟩, s.next)
  | .tag written :: _ => return (⟨some (← resolve s written), none⟩, s.next)
  | _ => return (⟨none, none⟩, s)

/-- The tag says nothing: there is none, or it is a single mark. -/
def Properties.isUntagged (p : Properties) : Bool :=
  p.tag == none || p.tag == some "!"

/-- The tag of a node with parts. -/
def Properties.tagOr (p : Properties) (default : String) : String :=
  if p.isUntagged then default else p.tag.getD default

/-- A scalar with the given properties. -/
def ofScalar (p : Properties) (text : String) (plain : Bool) : Node :=
  if p.isUntagged && (plain || p.tag.isSome) then .scalar (Tag.ofPlain text) text
  else .scalar (p.tagOr Tag.text) text

/-- The scalar where a node is missing. -/
def missing : Node :=
  .scalar Tag.null ""

/-- Reserves the anchor of a node that begins; no anchor is given twice. -/
def reserve (p : Properties) (s : State) : Except Error State :=
  match p.anchor with
  | none => .ok s
  | some name =>
    if (Keyed.get? name s.anchors).isSome then .error .malformed
    else .ok (s.store name .enclosing)

/-- Gives a node that has ended its anchor. -/
def settle (p : Properties) (node : Node) (s : State) : Node × State :=
  match p.anchor with
  | none => (node, s)
  | some name => (node, s.store name node)

/-! ## Nodes -/

/-- Where a node stands. -/
structure Place where
  /-- Outside of brackets. -/
  inBlock : Bool
  /-- A list may begin without more indentation. -/
  indentless : Bool

mutual

/-- A node. -/
def read : Nat → Place → State → Except Error (Node × State)
  | 0, _, s => s.unexpected
  | fuel + 1, place, s => do
    match s.head? with
    | some (.alias name) =>
      match Keyed.get? name s.anchors with
      | some node => return (node, s.next)
      | none => throw .malformed
    | _ =>
      let (p, s) ← properties s
      let (node, s) ← readContent fuel place p (← reserve p s)
      return settle p node s

/-- What follows tag and anchor. -/
def readContent : Nat → Place → Properties → State → Except Error (Node × State)
  | 0, _, _, s => s.unexpected
  | fuel + 1, place, p, s => do
    match s.head? with
    | some (.scalar text plain) => return (ofScalar p text plain, s.next)
    | some .flowSequenceStart =>
      let (items, s) ← readFlowItems fuel true s.next
      return (.sequence (p.tagOr Tag.sequence) items, s)
    | some .flowMappingStart =>
      let (entries, s) ← readFlowEntries fuel true s.next
      return (.mapping (p.tagOr Tag.mapping) entries, s)
    | token =>
      if place.indentless && token == some .blockEntry then
        let (items, s) ← readItems fuel false s
        return (.sequence (p.tagOr Tag.sequence) items, s)
      else if place.inBlock && token == some .blockSequenceStart then
        let (items, s) ← readItems fuel true s.next
        return (.sequence (p.tagOr Tag.sequence) items, s)
      else if place.inBlock && token == some .blockMappingStart then
        let (entries, s) ← readEntries fuel s.next
        return (.mapping (p.tagOr Tag.mapping) entries, s)
      else if p.tag.isSome || p.anchor.isSome then
        return (ofScalar p "" p.isUntagged, s)
      else s.unexpected

/-- A node, or a missing one if one of the given tokens follows. -/
def readUnless : Nat → List Token → Place → State → Except Error (Node × State)
  | 0, _, _, s => s.unexpected
  | fuel + 1, marks, place, s =>
    if s.atAny marks then .ok (missing, s) else read fuel place s

/-- The items of a list outside of brackets.  A list with indentation of its own ends with its
block, another one before the first token that begins no item. -/
def readItems : Nat → Bool → State → Except Error (List Node × State)
  | 0, _, s => s.unexpected
  | fuel + 1, indented, s => do
    if s.head? = some .blockEntry then
      let marks : List Token :=
        if indented then [.blockEntry, .blockEnd] else [.blockEntry, .key, .value, .blockEnd]
      let (item, s) ← readUnless fuel marks ⟨true, false⟩ s.next
      let (items, s) ← readItems fuel indented s
      return (item :: items, s)
    else if indented then return ([], ← s.expect .blockEnd)
    else return ([], s)

/-- The entries of a mapping outside of brackets. -/
def readEntries : Nat → State → Except Error (List (Node × Node) × State)
  | 0, s => s.unexpected
  | fuel + 1, s => do
    if s.head? = some .key then
      let marks := [.key, .value, .blockEnd]
      let (key, s) ← readUnless fuel marks ⟨true, true⟩ s.next
      let (value, s) ← readValue fuel marks ⟨true, true⟩ s
      let (entries, s) ← readEntries fuel s
      return ((key, value) :: entries, s)
    else return ([], ← s.expect .blockEnd)

/-- The value behind a key, a missing one if no colon follows. -/
def readValue : Nat → List Token → Place → State → Except Error (Node × State)
  | 0, _, _, s => s.unexpected
  | fuel + 1, marks, place, s =>
    if s.head? = some .value then readUnless fuel marks place s.next else .ok (missing, s)

/-- The items of a list inside of brackets.  A key among them is a mapping of one entry. -/
def readFlowItems : Nat → Bool → State → Except Error (List Node × State)
  | 0, _, s => s.unexpected
  | fuel + 1, first, s => do
    if s.head? = some .flowSequenceEnd then return ([], s.next)
    let s ← if first then .ok s else s.expect .flowEntry
    let marks := [.flowEntry, .flowSequenceEnd]
    if s.head? = some .flowSequenceEnd then return ([], s.next)
    else if s.head? = some .key then
      let (key, s) ← readUnless fuel (.value :: marks) ⟨false, false⟩ s.next
      let (value, s) ← readValue fuel marks ⟨false, false⟩ s
      let (items, s) ← readFlowItems fuel false s
      return (.mapping Tag.mapping [(key, value)] :: items, s)
    else
      let (item, s) ← read fuel ⟨false, false⟩ s
      let (items, s) ← readFlowItems fuel false s
      return (item :: items, s)

/-- The entries of a mapping inside of brackets.  A node without a colon is a key without a value.
-/
def readFlowEntries : Nat → Bool → State → Except Error (List (Node × Node) × State)
  | 0, _, s => s.unexpected
  | fuel + 1, first, s => do
    if s.head? = some .flowMappingEnd then return ([], s.next)
    let s ← if first then .ok s else s.expect .flowEntry
    let marks := [.flowEntry, .flowMappingEnd]
    if s.head? = some .flowMappingEnd then return ([], s.next)
    else if s.head? = some .key then
      let (key, s) ← readUnless fuel (.value :: marks) ⟨false, false⟩ s.next
      let (value, s) ← readValue fuel marks ⟨false, false⟩ s
      let (entries, s) ← readFlowEntries fuel false s
      return ((key, value) :: entries, s)
    else
      let (key, s) ← read fuel ⟨false, false⟩ s
      let (entries, s) ← readFlowEntries fuel false s
      return ((key, missing) :: entries, s)

end

/-! ## Documents -/

/-- Reads the directives in front of a document. -/
def readDirectives : List Token → Bool → List (String × String) →
    Except Error (List Token × List (String × String))
  | .directive (.version major _) :: rest, versioned, handles =>
    if versioned || major != 1 then .error .malformed else readDirectives rest true handles
  | .directive (.handle handle start) :: rest, versioned, handles =>
    if (Keyed.get? handle handles).isSome then .error .malformed
    else readDirectives rest versioned (handles ++ [(handle, start)])
  | .directive .other :: rest, versioned, handles => readDirectives rest versioned handles
  | tokens, _, handles => .ok (tokens, handles)

/-- The token stands in front of a document or behind one. -/
def isEdge : Token → Bool
  | .directive _ => true
  | .documentStart => true
  | .documentEnd => true
  | _ => false

/-- The node of a document; directives and the mark of its start may stand in front of it. -/
def readDocument (fuel : Nat) (s : State) : Except Error (Node × State) := do
  match s.head? with
  | some (.directive _) | some .documentStart =>
    let (tokens, handles) ← readDirectives s.tokens false []
    let s := { s with tokens, handles := handles ++ standardHandles }
    let s ← s.expect .documentStart
    if s.head?.any isEdge || (s.tokens.isEmpty && s.broken == none) then return (missing, s)
    else read fuel ⟨true, false⟩ s
  | _ => read fuel ⟨true, false⟩ s

/-- The node of the only document that tokens make up, if they make up any. -/
def ofTokens (tokens : List Token) (broken : Option Error) : Except Error (Option Node) := do
  let s : State := ⟨tokens, broken, standardHandles, []⟩
  if tokens.isEmpty && broken == none then return none
  let (node, s) ← readDocument (4 * tokens.length + 4) s
  let s := { s with tokens := s.tokens.dropWhile (· == Token.documentEnd) }
  if s.tokens.isEmpty && broken == none then return some node else s.unexpected

end Node

end RestBindings.Yaml
