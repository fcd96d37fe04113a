import RestBindings.Http.Client
import RestBindings.Http.Status
import RestBindings.Keyed
import RestBindings.Text.Encoding
import RestBindings.Url.NormalForm

/-!
# Fetching over HTTP

What can be fetched is given as a table of responses by URL; every other URL refuses the
connection.  A response that names another location is followed where the client does so, a limited
number of times.

What the client does by itself is taken from `Client`: the URLs that it refuses before anything is
sent, and how it decodes a body by the character set that is named for it.  What goes wrong in them
is no failure of fetching.
-/

namespace RestBindings.Http

/-- A response. -/
structure Response where
  status : Nat
  headers : List (String × String)
  body : ByteArray

/-- The responses that are to be had, by URL. -/
abbrev Web := List (String × Response)

/-- Why a URL cannot be fetched. -/
inductive Error
  | connectionRefused
  | tooManyRedirects
  /-- The client refuses the location that a response names. -/
  | refusedLocation (message : String)
  /-- The response for a URL is no success; it may name another location. -/
  | unsuccessful (status : Nat) (url : String) (location : Option String)
  /-- The client refuses the URL itself. -/
  | refusedUrl (message : String)
  /-- The body cannot be decoded by the character set that is named for it. -/
  | undecodableBody (message : String)
  deriving DecidableEq, Repr

/-- The text of an error. -/
def Error.message : Error → String
  | connectionRefused => "connection refused"
  | tooManyRedirects => "Exceeded maximum allowed redirects."
  | refusedLocation text => "Invalid URL in location header: " ++ text ++ "."
  | unsuccessful status url location =>
    let code := toString status
    let redirect := match location with
      | some text => "Redirect location: '" ++ text ++ "'\n"
      | none => ""
    Status.className status ++ " '" ++ code ++ " " ++ Status.phrase status ++ "' for url '" ++
      url ++ "'\n" ++ redirect ++ "For more information check: " ++
      "https://developer.mozilla.org/en-US/docs/Web/HTTP/Status/" ++ code
  | refusedUrl text => text
  | undecodableBody text => text

/-- An error is a failure of fetching, as those of the client itself are not. -/
def Error.isFetching : Error → Bool
  | refusedUrl _ => false
  | undecodableBody _ => false
  | _ => true

namespace Response

/-- A name in lower case, as headers are compared. -/
def foldName (name : String) : String :=
  String.ofList (name.toList.map Char.toLower)

/-- The value of a header; several of one name are put together. -/
def header? (r : Response) (name : String) : Option String :=
  match r.headers.filter fun (other, _) => foldName other == name with
  | [] => none
  | found => some (Text.join ", " (found.map Prod.snd))

/-- The location that a response names in place of its own. -/
def redirect? (r : Response) : Option String :=
  if Status.isRedirect r.status then r.header? "location" else none

/-- The text of the body, in UTF-8 unless the kind of its content names another character set. -/
def text [Client] (r : Response) : Except Error String :=
  match (r.header? "content-type").bind fun kind => Client.decoded? kind r.body with
  | some (.ok text) => .ok text
  | some (.error message) => .error (.undecodableBody message)
  | none => .ok (Text.decodeLossy r.body.toList)

end Response

/-- The most requests for one URL when redirects are followed. -/
def requestLimit : Nat := 21

/-- The response for a URL. -/
def request (web : Web) (url : String) : Except Error Response :=
  match Keyed.get? url web with
  | some response => .ok response
  | none => .error .connectionRefused

/-- The URL of the location that the response for a URL names. -/
def nextUrl [Client] (url location : String) : Except Error String :=
  match Client.refusal? location with
  | some message => .error (.refusedLocation message)
  | none =>
    let next := String.ofList (Url.normalForm (Url.join url.toList location.toList))
    match Client.refusal? next with
    | some message => .error (.refusedUrl message)
    | none => .ok next

/-- The first response that names no other location, with its URL. -/
def follow [Client] (web : Web) : Nat → String → Except Error (Response × String)
  | 0, _ => .error .tooManyRedirects
  | left + 1, url =>
    match request web url with
    | .error e => .error e
    | .ok response =>
      match response.redirect? with
      | none => .ok (response, url)
      | some location =>
        match nextUrl url location with
        | .error e => .error e
        | .ok next => follow web left next

/-- The response for a URL, which may name another location that the client accepts. -/
def requestOnce [Client] (web : Web) (url : String) : Except Error (Response × String) :=
  match request web url with
  | .error e => .error e
  | .ok response =>
    match response.redirect? with
    | none => .ok (response, url)
    | some location =>
      match nextUrl url location with
      | .error e => .error e
      | .ok _ => .ok (response, url)

/-- A response that is a success. -/
def checkStatus (response : Response) (url : String) : Except Error Response :=
  if Status.isSuccess response.status then .ok response
  else .error (.unsuccessful response.status url response.redirect?)

/-- Fetches a URL that the client accepts, by its normal form. -/
def fetch [Client] (web : Web) (follows : Bool) (source : String) : Except Error Response :=
  match Client.refusal? source with
  | some message => .error (.refusedUrl message)
  | none =>
    let url := String.ofList (Url.normalForm source.toList)
    match if follows then follow web requestLimit url else requestOnce web url with
    | .ok (response, final) => checkStatus response final
    | .error e => .error e

end RestBindings.Http
