import RestBindings.Url.Join

/-!
# The normal form of a URL

Two URLs with one normal form name the same page: scheme and host are in lower case, the port that
the scheme implies is left out, dots in the path are resolved, and characters that no URL holds are
escaped.
-/

namespace RestBindings.Url

/-- The parts of a URL in which characters are escaped. -/
inductive Region
  | path
  | query
  | fragment
  deriving DecidableEq, Repr

/-- The printable characters that are escaped in a region. -/
def Region.escaped : Region → List Char
  | path => " \"#<>?`\x7b\x7d".toList
  | query => " \"#<>".toList
  | fragment => " \"<>`".toList

/-- A character that stays as it is in a region. -/
def Region.keeps (r : Region) (c : Char) : Bool :=
  0x20 ≤ c.toNat && c.toNat < 0x7F && !r.escaped.contains c

/-- A hexadecimal digit in upper case. -/
def upperHex (n : Nat) : Char :=
  if n < 10 then Char.ofNat ('0'.toNat + n) else Char.ofNat ('A'.toNat + (n - 10))

/-- The escape of a byte. -/
def escapeByte (byte : UInt8) : List Char :=
  ['%', upperHex (byte.toNat / 16), upperHex (byte.toNat % 16)]

/-- The bytes of a character, escaped. -/
def escapeChar (c : Char) : List Char :=
  (String.ofList [c]).toUTF8.toList.flatMap escapeByte

/-- A part of a URL with its characters escaped; escapes that it has stay. -/
def escapeIn (r : Region) : List Char → List Char
  | [] => []
  | '%' :: rest =>
    if (rest.take 2).length = 2 && (rest.take 2).all Address.isHexDigit then
      '%' :: escapeIn r rest
    else '%' :: '2' :: '5' :: escapeIn r rest
  | c :: rest => (if r.keeps c then [c] else escapeChar c) ++ escapeIn r rest

/-- The steps of a path with its dots resolved, the last one first; nothing is above the root. -/
def normalSteps : List (List Char) → List (List Char) → List (List Char)
  | taken, [] => taken
  | taken, step :: rest =>
    if step = ['.'] then normalSteps taken rest
    else if step = ['.', '.'] then
      normalSteps (if taken = [[]] then taken else taken.tail) rest
    else normalSteps (step :: taken) rest

/-- A path with its dots resolved. -/
def normalPath (path : List Char) : List Char :=
  Text.joinWith ['/'] (normalSteps [] (Text.splitOn '/' path)).reverse

/-- The port that a scheme implies. -/
def impliedPort (scheme : List Char) : List Char :=
  if scheme = "http".toList then ":80".toList
  else if scheme = "https".toList then ":443".toList
  else []

/-- A text without an ending. -/
def withoutEnding (ending s : List Char) : List Char :=
  if !ending.isEmpty && ending.isSuffixOf s then s.take (s.length - ending.length) else s

/-- An authority in normal form. -/
def normalAuthority (scheme authority : List Char) : List Char :=
  let host := Text.afterLast '@' authority
  let user := authority.take (authority.length - host.length)
  user ++ withoutEnding (impliedPort scheme) (Unicode.lower host)

/-- The normal form of a URL. -/
def normalForm (url : List Char) : List Char :=
  let r := Reference.ofText url
  Reference.text
    { r with
      authority := r.authority.map (normalAuthority r.scheme)
      path := escapeIn .path (normalPath r.path)
      query := r.query.take 1 ++ escapeIn .query (r.query.drop 1)
      fragment := r.fragment.take 1 ++ escapeIn .fragment (r.fragment.drop 1) }

end RestBindings.Url
