import RestBindings.Discovery.Acceptance
import RestBindings.Files.Tree
import RestBindings.Http.Exchange
import RestBindings.Interpreter
import RestBindings.Json
import RestBindings.Unicode.Case
import RestBindings.Yaml

/-!
# Loading a discovery document

A document comes from a URL or from a file.  It is written in YAML if its name or its kind of
content says so, and in JSON otherwise.
-/

namespace RestBindings.Discovery

/-- The notations of documents. -/
inductive Format
  | json
  | yaml
  deriving DecidableEq, Repr

/-- Where documents come from. -/
structure Sources where
  tree : Files.Tree
  web : Http.Web
  /-- Responses that name another location are followed. -/
  followsRedirects : Bool

/-- The format of a file by its suffix, in any letter case. -/
def formatOfFile (p : Files.Path) : Format :=
  let suffix := String.ofList (Unicode.lower p.suffix.toList)
  if suffix = ".yaml" ∨ suffix = ".yml" then .yaml else .json

/-- The format of a response: by the kind of its content, or by the URL that was asked for. -/
def formatOfResponse (url : String) (response : Http.Response) : Format :=
  let contentType := (response.header? "content-type").getD ""
  if Text.occursIn "yaml".toList contentType.toList ||
      ".yaml".toList.isSuffixOf url.toList || ".yml".toList.isSuffixOf url.toList then .yaml
  else .json

/-- The text of a file and its format. -/
def readFile (tree : Files.Tree) (source : String) : Except Error (String × Format) :=
  let path := Files.Path.ofText source
  match tree.readText path.text with
  | .ok text => .ok (text, formatOfFile path)
  | .error (.refused reason at_) =>
    .error (.failure (.unreadable source (some (Files.Error.refused reason at_).message)))
  | .error e => .error (.file e)

/-- The error for a URL that gives no text: a report if it cannot be fetched, and else the error of
the client. -/
def errorOfUrl (url : String) (cause : Http.Error) : Error :=
  if cause.isFetching then .failure (.unreadable url (some cause.message))
  else .badValue cause.message

/-- The text behind a URL and its format. -/
def readUrl [Http.Client] (sources : Sources) (url : String) : Except Error (String × Format) :=
  match Http.fetch sources.web sources.followsRedirects url with
  | .error e => .error (errorOfUrl url e)
  | .ok response =>
    match response.text with
    | .error e => .error (errorOfUrl url e)
    | .ok text => .ok (text, formatOfResponse url response)

/-- The value that a text denotes in its notation.  Broken notation is reported as a malformed
document. -/
def decodeNotation (source text : String) : Format → Except Error Value
  | .json =>
    match Json.read text with
    | .ok value => .ok value
    | .error (.malformed message line column offset) =>
      .error (.failure (.malformed source
        [(Json.Error.malformed message line column offset).message]))
    | .error e => .error (.json e)
  | .yaml =>
    match Yaml.read text with
    | .ok value => .ok value
    | .error .malformed => .error (.malformedYaml source)
    | .error e => .error (.yaml e)

/-- The error of the interpreter for a text that goes too deep, if it does. -/
def exhaustion? [Interpreter] (text : String) : Format → Option String
  | .json => Interpreter.readingJson? text
  | .yaml => Interpreter.readingYaml? text

/-- The value that a text denotes. -/
def decode [Interpreter] (source text : String) (format : Format) : Except Error Value :=
  match exhaustion? text format with
  | some message => .error (.badValue message)
  | none => decodeNotation source text format

/-- Loads a document. -/
def load [Http.Client] [Interpreter] (sources : Sources) (source : String) :
    Except Error Document := do
  let (text, format) ←
    if Url.isFetchable source then readUrl sources source else readFile sources.tree source
  accept source (← decode source text format)

end RestBindings.Discovery
