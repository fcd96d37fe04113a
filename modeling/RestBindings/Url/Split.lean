import RestBindings.Text.Quoted
import RestBindings.Text.Split
import RestBindings.Unicode.Case
import RestBindings.Unicode.Normalization
import RestBindings.Url.Address

/-!
# Scheme, authority and host of a URL

A URL is cut into its scheme and authority without a look at the rest.  An authority is refused
when its brackets do not enclose a numeric address, or when the compatibility form of one of its
characters would bring in a delimiter.
-/

namespace RestBindings.Url

/-- Why a text is refused as a URL. -/
inductive Error
  /-- A bracket without its partner, or text between a bracket and the host it should enclose. -/
  | misplacedBrackets
  /-- A bracketed host that begins like a future address and is none. -/
  | malformedFutureAddress
  /-- A version 4 address in brackets. -/
  | bracketedVersion4
  /-- A bracketed host that is no address. -/
  | notAnAddress (host : String)
  /-- A character whose compatibility form holds a delimiter. -/
  | hiddenDelimiter (authority : String)
  deriving DecidableEq, Repr

/-- The text of an error. -/
def Error.message : Error → String
  | misplacedBrackets => "Invalid IPv6 URL"
  | malformedFutureAddress => "IPvFuture address is invalid"
  | bracketedVersion4 => "An IPv4 address cannot be in brackets"
  | notAnAddress host => Text.quoted host ++ " does not appear to be an IPv4 or IPv6 address"
  | hiddenDelimiter authority =>
    "netloc '" ++ authority ++ "' contains invalid characters under NFKC normalization"

/-- Controls and spaces, which are skipped at the start of a URL. -/
def isSkipped (c : Char) : Bool :=
  c.toNat ≤ 0x20

/-- Tabs and line ends, which are removed from a URL wherever they stand. -/
def isRemoved (c : Char) : Bool :=
  c == '\t' || c == '\r' || c == '\n'

/-- The characters of a URL that count. -/
def significant (url : List Char) : List Char :=
  (url.dropWhile isSkipped).filter fun c => !isRemoved c

/-- A character of a scheme. -/
def isSchemeChar (c : Char) : Bool :=
  c.isAlphanum || c == '+' || c == '-' || c == '.'

/-- A text that can stand before the colon of a scheme. -/
def isScheme (s : List Char) : Bool :=
  (s.head?.any Char.isAlpha) && s.all isSchemeChar

/-- The scheme of a URL in lower case, empty if there is none, and what follows it. -/
def splitScheme (url : List Char) : List Char × List Char :=
  if url.contains ':' && isScheme (Text.before ':' url) then
    ((Text.before ':' url).map Char.toLower, Text.after ':' url)
  else ([], url)

/-- A character that ends an authority. -/
def endsAuthority (c : Char) : Bool :=
  c == '/' || c == '?' || c == '#'

/-- The authority behind two slashes, empty if there is none, and what follows it. -/
def splitAuthority : List Char → List Char × List Char
  | '/' :: '/' :: rest => (rest.takeWhile (!endsAuthority ·), rest.dropWhile (!endsAuthority ·))
  | rest => ([], rest)

/-- A bracketed host of the form reserved for future address versions. -/
def isFutureAddress : List Char → Bool
  | 'v' :: rest =>
    let version := rest.takeWhile Address.isHexDigit
    match rest.dropWhile Address.isHexDigit with
    | '.' :: tail => !version.isEmpty && !tail.isEmpty
    | _ => false
  | _ => false

/-- Refuses a bracketed host that is neither a version 6 address nor a future address. -/
def checkBracketedHost (host : List Char) : Except Error Unit :=
  if host.head? = some 'v' then
    if isFutureAddress host then .ok () else .error .malformedFutureAddress
  else if Address.isVersion4 host then .error .bracketedVersion4
  else if Address.isVersion6 host then .ok ()
  else .error (.notAnAddress (String.ofList host))

/-- The host as it is written in an authority: behind the last at sign, inside the brackets if
there are any, before the port otherwise. -/
def writtenHost (authority : List Char) : List Char :=
  let hostAndPort := Text.afterLast '@' authority
  if hostAndPort.contains '[' then Text.before ']' (Text.after '[' hostAndPort)
  else Text.before ':' hostAndPort

/-- Brackets enclose the whole host: nothing but user information stands before them and nothing
but a port behind them. -/
def encloseHost (authority : List Char) : Bool :=
  let hostAndPort := Text.afterLast '@' authority
  let behind := Text.after ']' (Text.after '[' hostAndPort)
  !hostAndPort.contains '[' ||
    (hostAndPort.head? == some '[' && (behind.isEmpty || behind.head? == some ':'))

/-- Refuses an authority with misplaced brackets. -/
def checkBrackets (authority : List Char) : Except Error Unit :=
  if authority.contains '[' != authority.contains ']' then .error .misplacedBrackets
  else if !authority.contains '[' then .ok ()
  else if encloseHost authority then checkBracketedHost (writtenHost authority)
  else .error .misplacedBrackets

/-- The delimiters that a compatibility form must not bring into an authority. -/
def isDelimiter (c : Char) : Bool :=
  c == '/' || c == '?' || c == '#' || c == '@' || c == ':'

/-- Refuses an authority whose other characters decompose into a delimiter. -/
def checkDelimiters (authority : List Char) : Except Error Unit :=
  if (Unicode.compatibilityForm (authority.filter (!isDelimiter ·))).any isDelimiter then
    .error (.hiddenDelimiter (String.ofList authority))
  else .ok ()

/-- The parts of a URL that decide what it names. -/
structure Parts where
  /-- The scheme in lower case, empty if there is none. -/
  scheme : List Char
  /-- User information, host and port as written. -/
  authority : List Char
  /-- Path, query and fragment as written. -/
  rest : List Char
  deriving Repr, DecidableEq

/-- Cuts a URL into its parts. -/
def split (url : List Char) : Except Error Parts := do
  let (scheme, tail) := splitScheme (significant url)
  let (authority, rest) := splitAuthority tail
  checkBrackets authority
  checkDelimiters authority
  return { scheme, authority, rest }

/-- The text is a URL that documents can be fetched from. -/
def isFetchable (text : String) : Bool :=
  match split text.toList with
  | .ok parts =>
    (parts.scheme == "http".toList || parts.scheme == "https".toList) && !parts.authority.isEmpty
  | .error _ => false

/-- The host of an authority in lower case up to its zone, which is kept as written. -/
def Parts.host (parts : Parts) : List Char :=
  let host := writtenHost parts.authority
  Unicode.lower (Text.before '%' host) ++ host.dropWhile (· != '%')

end RestBindings.Url
