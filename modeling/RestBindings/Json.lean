import RestBindings.Value

/-!
# Reading JSON

A reader for JSON texts that also takes `NaN` and the infinities as numbers.  Integers are exact.
The first character that cannot be read decides the error; its place is given as line, column and
offset, all counted in characters.

A text is a sequence of characters, and half a surrogate pair is none.  Where an escape names one
that has no other half, U+FFFD stands for it in the text that is read.  This is a limit of the type
of texts: a document with such an escape is read with that character, and not with the half.
-/

namespace RestBindings.Json

/-- Why a text is refused, each with the rest of the text where reading stopped. -/
inductive Refusal
  /-- Something is not as the notation wants it. -/
  | malformed (message : String) (rest : List Char)
  /-- An integer has more digits than are converted. -/
  | longInteger (digits : Nat)
  deriving DecidableEq, Repr

/-- An error of the reader. -/
inductive Error
  /-- The notation is violated at an offset of the text, on a line and at a column. -/
  | malformed (message : String) (line column offset : Nat)
  /-- An integer has more digits than are converted. -/
  | longInteger (digits : Nat)
  deriving DecidableEq, Repr

/-- The text of an error. -/
def Error.message : Error → String
  | malformed text line column offset =>
    text ++ ": line " ++ toString line ++ " column " ++ toString column ++
      " (char " ++ toString offset ++ ")"
  | longInteger digits =>
    "Exceeds the limit (4300 digits) for integer string conversion: value has " ++
      toString digits ++ " digits; use sys.set_int_max_str_digits() to increase the limit"

/-- The most digits of an integer that are converted. -/
def digitLimit : Nat := 4300

/-- What a reader gives: the value and the rest of the text. -/
abbrev Read (α : Type) := Except Refusal (α × List Char)

/-- A blank between the parts of a value. -/
def isSpace (c : Char) : Bool :=
  c == ' ' || c == '\t' || c == '\n' || c == '\r'

/-- The text from its first character that is no blank. -/
def skipSpace (s : List Char) : List Char :=
  s.dropWhile isSpace

/-- The value of a run of digits. -/
def digitsValue (digits : List Char) : Nat :=
  digits.foldl (fun value c => value * 10 + (c.toNat - '0'.toNat)) 0

/-! ## Numbers -/

/-- The digits behind a decimal point and the rest, if there is such a part. -/
def fraction : List Char → List Char × List Char
  | '.' :: rest =>
    match rest.takeWhile Char.isDigit with
    | [] => ([], '.' :: rest)
    | digits => (digits, rest.dropWhile Char.isDigit)
  | rest => ([], rest)

/-- The exponent behind an `e` and the rest, if there is such a part. -/
def exponent : List Char → Option Int × List Char
  | c :: rest =>
    if c = 'e' ∨ c = 'E' then
      let (negative, digits) := match rest with
        | '-' :: more => (true, more)
        | '+' :: more => (false, more)
        | more => (false, more)
      match digits.takeWhile Char.isDigit with
      | [] => (none, c :: rest)
      | ds =>
        let n : Int := digitsValue ds
        (some (if negative then -n else n), digits.dropWhile Char.isDigit)
    else (none, c :: rest)
  | [] => (none, [])

/-- The digits in front of a fraction: a single zero, or a run that does not begin with one. -/
def wholePart : List Char → List Char × List Char
  | '0' :: rest => (['0'], rest)
  | s => (s.takeWhile Char.isDigit, s.dropWhile Char.isDigit)

/-- A number. -/
def readNumber (s : List Char) : Read Value :=
  let (negative, unsigned) := match s with
    | '-' :: rest => (true, rest)
    | rest => (false, rest)
  match wholePart unsigned with
  | ([], _) => .error (.malformed "Expecting value" s)
  | (whole, rest) =>
    let (decimals, rest) := fraction rest
    let (power, rest) := exponent rest
    if decimals.isEmpty && power.isNone then
      if whole.length > digitLimit then .error (.longInteger whole.length)
      else
        let n : Int := digitsValue whole
        .ok (.scalar (.int (if negative then -n else n)), rest)
    else
      let significand := digitsValue (whole ++ decimals)
      let number := Decimal.Binary64.ofDecimal negative significand
        (power.getD 0 - decimals.length)
      .ok (.scalar (.real number), rest)

/-! ## Texts -/

/-- The value of a hexadecimal digit. -/
def hexValue? (c : Char) : Option Nat :=
  if c.isDigit then some (c.toNat - '0'.toNat)
  else if 'a' ≤ c ∧ c ≤ 'f' then some (c.toNat - 'a'.toNat + 10)
  else if 'A' ≤ c ∧ c ≤ 'F' then some (c.toNat - 'A'.toNat + 10)
  else none

/-- The value of four hexadecimal digits and the rest. -/
def fourHex : List Char → Option (Nat × List Char)
  | a :: b :: c :: d :: rest => do
    let a ← hexValue? a
    let b ← hexValue? b
    let c ← hexValue? c
    let d ← hexValue? d
    some (((a * 16 + b) * 16 + c) * 16 + d, rest)
  | _ => none

/-- The character that stands for a single letter after a backslash. -/
def simpleEscape : Char → Option Char
  | '"' => some '"'
  | '\\' => some '\\'
  | '/' => some '/'
  | 'b' => some '\x08'
  | 'f' => some '\x0c'
  | 'n' => some '\n'
  | 'r' => some '\r'
  | 't' => some '\t'
  | _ => none

/-- The second half of a surrogate pair, if the rest begins with one. -/
def lowSurrogate : List Char → Option (Nat × List Char)
  | '\\' :: 'u' :: rest =>
    match fourHex rest with
    | some (code, rest) => if 0xDC00 ≤ code ∧ code ≤ 0xDFFF then some (code, rest) else none
    | none => none
  | _ => none

/-- The rest begins with an escape of four digits of which one is no hexadecimal digit. -/
def brokenSurrogate : List Char → Bool
  | '\\' :: 'u' :: a :: b :: c :: d :: _ :: _ => (fourHex [a, b, c, d]).isNone
  | _ => false

/-- The character of an escape with hexadecimal digits; `escaped` begins at its backslash and
`rest` behind its letter. -/
def readCodeEscape (escaped rest : List Char) : Read Char :=
  let refused {α : Type} : Read α := .error (.malformed "Invalid \\uXXXX escape" (escaped.drop 1))
  match fourHex rest with
  | none => refused
  | some (_, []) => refused
  | some (code, rest) =>
    if 0xD800 ≤ code ∧ code ≤ 0xDBFF then
      match lowSurrogate rest with
      | some (low, rest) =>
        .ok (Char.ofNat (0x10000 + (code - 0xD800) * 0x400 + (low - 0xDC00)), rest)
      | none =>
        if brokenSurrogate rest then .error (.malformed "Invalid \\uXXXX escape" (rest.drop 1))
        else .ok ('\uFFFD', rest)
    else if 0xDC00 ≤ code ∧ code ≤ 0xDFFF then .ok ('\uFFFD', rest)
    else .ok (Char.ofNat code, rest)

/-- The characters of a text up to its closing quote, in reverse; `opening` begins at the opening
quote. -/
def readChars (opening : List Char) : Nat → List Char → List Char → Read (List Char)
  | 0, _, _ => .error (.malformed "Unterminated string starting at" opening)
  | _ + 1, _, [] => .error (.malformed "Unterminated string starting at" opening)
  | fuel + 1, read, c :: rest =>
    if c = '"' then .ok (read, rest)
    else if c = '\\' then
      match rest with
      | [] => .error (.malformed "Unterminated string starting at" opening)
      | 'u' :: digits =>
        match readCodeEscape (c :: rest) digits with
        | .ok (d, rest) => readChars opening fuel (d :: read) rest
        | .error e => .error e
      | letter :: rest' =>
        match simpleEscape letter with
        | some d => readChars opening fuel (d :: read) rest'
        | none => .error (.malformed "Invalid \\escape" (c :: rest))
    else if c.toNat < 0x20 then .error (.malformed "Invalid control character at" (c :: rest))
    else readChars opening fuel (c :: read) rest

/-- A text, with a bound on the characters left; `opening` begins at its opening quote. -/
def readText (bound : Nat) (opening : List Char) : Read String :=
  match readChars opening bound [] (opening.drop 1) with
  | .ok (read, rest) => .ok (String.ofList read.reverse, rest)
  | .error e => .error e

/-! ## Values -/

/-- The values written as words. -/
def words : List (String × Scalar) := [
  ("null", .null), ("true", .bool true), ("false", .bool false), ("NaN", .real .nan),
  ("Infinity", .real (.infinite false)), ("-Infinity", .real (.infinite true))]

/-- The rest of a text behind a word. -/
def afterWord : List Char → List Char → Option (List Char)
  | [], s => some s
  | _ :: _, [] => none
  | w :: ws, c :: cs => if w = c then afterWord ws cs else none

/-- A value written as a word, or else a number. -/
def readAtom (s : List Char) : Read Value :=
  match words.findSome? fun (word, value) =>
      (afterWord word.toList s).map fun rest => (Value.scalar value, rest) with
  | some result => .ok result
  | none => readNumber s

mutual

/-- A value at the start of a text. -/
def readValue : Nat → List Char → Read Value
  | 0, s => .error (.malformed "Expecting value" s)
  | fuel + 1, s =>
    match s with
    | [] => .error (.malformed "Expecting value" [])
    | '"' :: _ =>
      match readText (fuel + 1) s with
      | .ok (text, rest) => .ok (.ofText text, rest)
      | .error e => .error e
    | '\x7b' :: rest =>
      match skipSpace rest with
      | '\x7d' :: rest => .ok (.mapping [], rest)
      | rest => readMembers fuel [] rest
    | '[' :: rest =>
      match skipSpace rest with
      | ']' :: rest => .ok (.list [], rest)
      | rest => readItems fuel [] rest
    | _ => readAtom s

/-- The members of an object from a key on, after the given ones. -/
def readMembers : Nat → List (Scalar × Value) → List Char → Read Value
  | 0, _, s => .error (.malformed "Expecting value" s)
  | fuel + 1, read, s =>
    match s with
    | '"' :: _ =>
      match readText (fuel + 1) s with
      | .error e => .error e
      | .ok (key, rest) =>
        match skipSpace rest with
        | ':' :: rest =>
          match readValue fuel (skipSpace rest) with
          | .error e => .error e
          | .ok (value, rest) =>
            let read := Keyed.insert (.text key) value read
            match skipSpace rest with
            | '\x7d' :: rest => .ok (.mapping read, rest)
            | ',' :: rest => readMembers fuel read (skipSpace rest)
            | rest => .error (.malformed "Expecting ',' delimiter" rest)
        | rest => .error (.malformed "Expecting ':' delimiter" rest)
    | _ => .error (.malformed "Expecting property name enclosed in double quotes" s)

/-- The items of an array from an item on, after the given ones in reverse. -/
def readItems : Nat → List Value → List Char → Read Value
  | 0, _, s => .error (.malformed "Expecting value" s)
  | fuel + 1, read, s =>
    match readValue fuel s with
    | .error e => .error e
    | .ok (value, rest) =>
      match skipSpace rest with
      | ']' :: rest => .ok (.list (value :: read).reverse, rest)
      | ',' :: rest => readItems fuel (value :: read) (skipSpace rest)
      | rest => .error (.malformed "Expecting ',' delimiter" rest)

end

/-- The error for an offset of a text. -/
def errorAt (text : List Char) (message : String) (offset : Nat) : Error :=
  let before := text.take offset
  let line := before.count '\n' + 1
  let column := (before.reverse.takeWhile (· != '\n')).length + 1
  .malformed message line column offset

/-- The error for a refusal within a text. -/
def errorOf (text : List Char) : Refusal → Error
  | .malformed message rest => errorAt text message (text.length - rest.length)
  | .longInteger digits => .longInteger digits

/-- The value that a text denotes. -/
def read (source : String) : Except Error Value :=
  let text := source.toList
  if text.head? = some '\uFEFF' then
    .error (errorAt text "Unexpected UTF-8 BOM (decode using utf-8-sig)" 0)
  else
    match readValue (2 * text.length + 2) (skipSpace text) with
    | .error refusal => .error (errorOf text refusal)
    | .ok (value, rest) =>
      match skipSpace rest with
      | [] => .ok value
      | extra => .error (errorOf text (.malformed "Extra data" extra))

end RestBindings.Json
