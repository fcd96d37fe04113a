import RestBindings.Yaml.Number
import RestBindings.Yaml.Timestamp

/-!
# Tags of YAML scalars

A scalar that is written plainly and without a tag gets its tag from the way it looks.
-/

namespace RestBindings.Yaml

namespace Tag

/-- The standard tag with a name. -/
def standard (name : String) : String :=
  "tag:yaml.org,2002:" ++ name

/-- The tag of texts. -/
def text : String := standard "str"

/-- The tag of lists. -/
def sequence : String := standard "seq"

/-- The tag of mappings. -/
def mapping : String := standard "map"

/-- The tag of the empty value. -/
def null : String := standard "null"

/-- The tag of a key whose value is merged into the mapping around it. -/
def merge : String := standard "merge"

/-- The tag of a key that stands for the value of the mapping around it. -/
def value : String := standard "value"

/-- The words for truth values. -/
def truthWords : List String := [
  "yes", "Yes", "YES", "no", "No", "NO", "true", "True", "TRUE", "false", "False", "FALSE",
  "on", "On", "ON", "off", "Off", "OFF"]

/-- The words for the empty value. -/
def nullWords : List String := ["", "~", "null", "Null", "NULL"]

/-- A text without one line feed at its end. -/
def withoutLineFeed (s : List Char) : List Char :=
  if s.getLast? = some '\n' then s.dropLast else s

/-- The tag of a plain scalar. -/
def ofPlain (s : String) : String :=
  let look := withoutLineFeed s.toList
  let isAmong (words : List String) : Bool := words.any (·.toList == look)
  if isAmong truthWords then standard "bool"
  else if Number.isImplicitReal look then standard "float"
  else if Number.isImplicitInteger look then standard "int"
  else if isAmong ["<<"] then merge
  else if isAmong nullWords then null
  else if Timestamp.isImplicit look then standard "timestamp"
  else if isAmong ["="] then value
  else if isAmong ["!", "&", "*"] then standard "yaml"
  else text

end Tag

end RestBindings.Yaml
