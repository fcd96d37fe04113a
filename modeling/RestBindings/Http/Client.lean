import RestBindings.Text.Blank
import RestBindings.Text.Quoted
import RestBindings.Url.Join

/-!
# What a client does by itself

Whatever responses there are, a client refuses some URLs before anything is sent, and it decodes a
body by the character set that the kind of its content names.  Which URLs those are and which
character sets it knows depends on the client, so `Client` is a parameter of fetching.

The client of the program itself refuses a URL that holds a control character of ASCII and one whose
port is no number in ASCII digits, and it reads every body as UTF-8.
-/

namespace RestBindings.Http

/-- What a client does with URLs and bodies by itself. -/
class Client where
  /-- Why a URL is refused as such, if it is. -/
  refusal? : String → Option String
  /-- The text of a body, or why there is none, if the kind of its content names a character set
  that the client knows. -/
  decoded? : String → ByteArray → Option (Except String String)

/-- A control character of ASCII. -/
def isControl (c : Char) : Bool :=
  c.toNat < 0x20 || c.toNat == 0x7F

/-- The port behind the host of an authority; a host may stand in brackets. -/
def portOf (authority : List Char) : List Char :=
  let hostAndPort := Text.afterLast '@' authority
  let behind :=
    if hostAndPort.head? = some '[' && hostAndPort.contains ']' then
      Text.afterLast ']' hostAndPort
    else hostAndPort.dropWhile (· != ':')
  match behind with
  | ':' :: port => port
  | port => port

/-- ASCII digits, with single low lines between them. -/
def isNumeral (s : List Char) : Bool :=
  (Text.splitOn '_' s).all fun part => !part.isEmpty && part.all Char.isDigit

/-- A number with a sign or without, with blanks around it. -/
def isNumber (s : List Char) : Bool :=
  match Text.trim s with
  | '+' :: rest => isNumeral rest
  | '-' :: rest => isNumeral rest
  | rest => isNumeral rest

/-- Why the URL cannot be written down as one line of a request, if it cannot. -/
def controlFault? (url : String) : Option String :=
  (url.toList.find? isControl).map fun c =>
    "Invalid non-printable ASCII character in URL, " ++ Text.quoted (String.ofList [c]) ++
      " at position " ++ toString (url.toList.idxOf c) ++ "."

/-- Why the port of a URL is none, if it has one that is not. -/
def portFault? (url : String) : Option String :=
  let port := ((Url.Reference.ofText url.toList).authority.map portOf).getD []
  if port.isEmpty || isNumber port then none
  else some ("Invalid port: " ++ Text.quoted (String.ofList port))

/-- The client of the program itself. -/
instance : Client where
  refusal? url := (controlFault? url).or (portFault? url)
  decoded? _ _ := none

end RestBindings.Http
