/-!
# Tokens of YAML
-/

namespace RestBindings.Yaml

/-- A tag as it is written. -/
inductive TagName
  /-- A handle that a directive defines, and a suffix. -/
  | short (handle suffix : String)
  /-- The tag itself. -/
  | whole (tag : String)
  deriving DecidableEq, Repr

/-- A directive in front of a document. -/
inductive Directive
  /-- The version of the notation. -/
  | version (major minor : Nat)
  /-- What a handle of tags stands for. -/
  | handle (handle start : String)
  /-- A directive without a meaning here. -/
  | other
  deriving DecidableEq, Repr

/-- A token. -/
inductive Token
  | directive (directive : Directive)
  | documentStart
  | documentEnd
  | blockSequenceStart
  | blockMappingStart
  | blockEnd
  | flowSequenceStart
  | flowSequenceEnd
  | flowMappingStart
  | flowMappingEnd
  | blockEntry
  | flowEntry
  | key
  | value
  | alias (name : String)
  | anchor (name : String)
  | tag (name : TagName)
  /-- A scalar; a plain one has no quotes and is no block. -/
  | scalar (text : String) (plain : Bool)
  deriving DecidableEq, Repr

end RestBindings.Yaml
