import RestBindings.Toml.Quoted
import RestBindings.Yaml.Timestamp

/-!
# Numbers, dates and words of TOML
-/

namespace RestBindings.Toml.Atom

/-! ## Numbers -/

/-- A run of digits between which single underscores may stand: the digits and the rest. -/
def digitRun (isDigit : Char → Bool) : List Char → List Char × List Char
  | c :: '_' :: d :: rest =>
    if !isDigit c then ([], c :: '_' :: d :: rest)
    else if isDigit d then
      let (digits, rest) := digitRun isDigit (d :: rest)
      (c :: digits, rest)
    else ([c], '_' :: d :: rest)
  | c :: rest =>
    if isDigit c then
      let (digits, rest) := digitRun isDigit rest
      (c :: digits, rest)
    else ([], c :: rest)
  | [] => ([], [])

/-- The value of digits to a base. -/
def valueOf (base : Nat) (digits : List Char) : Nat :=
  digits.foldl (fun value c => value * base + (Json.hexValue? c).getD 0) 0

/-- The bases with a mark of their own. -/
def bases : List (Char × Nat) := [('x', 16), ('b', 2), ('o', 8)]

/-- An integer with the mark of its base, and the rest. -/
def based? : List Char → Option (Int × List Char)
  | '0' :: mark :: rest => do
    let base ← bases.lookup mark
    match digitRun (fun c => (Json.hexValue? c).any (· < base)) rest with
    | ([], _) => none
    | (digits, rest) => some (valueOf base digits, rest)
  | _ => none

/-- A sign and the rest: the number is negative. -/
def sign : List Char → Bool × List Char
  | '-' :: rest => (true, rest)
  | '+' :: rest => (false, rest)
  | s => (false, s)

/-- The digits in front of a point: a single zero, or a run that does not begin with one. -/
def whole (s : List Char) : List Char × List Char :=
  match s with
  | '0' :: rest => (['0'], rest)
  | _ => digitRun Char.isDigit s

/-- The digits behind a point, if there are any, and the rest. -/
def fraction (s : List Char) : List Char × List Char :=
  match s with
  | '.' :: rest =>
    match digitRun Char.isDigit rest with
    | ([], _) => ([], s)
    | found => found
  | _ => ([], s)

/-- The exponent, if there is one, and the rest. -/
def exponent (s : List Char) : Option Int × List Char :=
  match s with
  | c :: rest =>
    if c = 'e' ∨ c = 'E' then
      let (negative, digits) := sign rest
      match digitRun Char.isDigit digits with
      | ([], _) => (none, s)
      | (digits, rest) =>
        let n : Int := Json.digitsValue digits
        (some (if negative then -n else n), rest)
    else (none, s)
  | [] => (none, [])

/-- A decimal number, and the rest. -/
def decimal? (s : List Char) : Option (Except Error Scalar × List Char) :=
  let (negative, unsigned) := sign s
  match whole unsigned with
  | ([], _) => none
  | (digits, rest) =>
    let (decimals, rest) := fraction rest
    let (power, rest) := exponent rest
    if decimals.isEmpty && power.isNone then
      let n : Int := Json.digitsValue digits
      let value : Except Error Scalar :=
        if digits.length > Json.digitLimit then .error (.longInteger digits.length)
        else .ok (.int (if negative then -n else n))
      some (value, rest)
    else
      let significand := Json.digitsValue (digits ++ decimals)
      some (.ok (.real (.ofDecimal negative significand (power.getD 0 - decimals.length))), rest)

/-! ## Dates and times -/

/-- A number of two digits in a range, and the rest. -/
def twoDigits (least greatest : Nat) : List Char → Option (Nat × List Char)
  | a :: b :: rest =>
    let n := Json.digitsValue [a, b]
    if a.isDigit && b.isDigit && least ≤ n && n ≤ greatest then some (n, rest) else none
  | _ => none

/-- A number of two digits behind a mark, and the rest. -/
def twoDigitsAfter (mark : Char) (least greatest : Nat) : List Char → Option (Nat × List Char)
  | c :: rest => if c = mark then twoDigits least greatest rest else none
  | [] => none

/-- The rest behind a time of day. -/
def afterTime? (s : List Char) : Option (List Char) := do
  let (_, rest) ← twoDigits 0 23 s
  let (_, rest) ← twoDigitsAfter ':' 0 59 rest
  let (_, rest) ← twoDigitsAfter ':' 0 59 rest
  match rest with
  | '.' :: c :: more => some (if c.isDigit then more.dropWhile Char.isDigit else rest)
  | _ => some rest

/-- The rest behind an offset, all of it if there is none. -/
def afterOffset (s : List Char) : List Char :=
  let signed (rest : List Char) : Option (List Char) := do
    let (_, rest) ← twoDigits 0 23 rest
    let (_, rest) ← twoDigitsAfter ':' 0 59 rest
    some rest
  match s with
  | c :: rest =>
    if c = 'Z' ∨ c = 'z' then rest
    else if c = '+' ∨ c = '-' then (signed rest).getD s
    else s
  | [] => []

/-- The rest behind a time of day that follows a date, if one does. -/
def afterDateTime? : List Char → Option (List Char)
  | c :: rest =>
    if c = 'T' ∨ c = 't' ∨ c = ' ' then (afterTime? rest).map afterOffset else none
  | [] => none

/-- The text in front of a rest. -/
def textBefore (rest s : List Char) : String :=
  String.ofList (s.take (s.length - rest.length))

/-- A date, with a time of day if it has one, and the rest. -/
def date? (s : List Char) : Option (Except Error Scalar × List Char) := do
  let (year, rest) ← Yaml.Timestamp.number 4 4 s
  let (month, rest) ← twoDigitsAfter '-' 1 12 rest
  let (day, rest) ← twoDigitsAfter '-' 1 31 rest
  let (kind, rest) := match afterDateTime? rest with
    | some rest => (Moment.Kind.dateTime, rest)
    | none => (Moment.Kind.date, rest)
  if year = 0 ∨ day > Yaml.Timestamp.daysOf year month then some (.error .malformed, rest)
  else some (.ok (.moment ⟨kind, textBefore rest s⟩), rest)

/-- A time of day, and the rest. -/
def time? (s : List Char) : Option (Except Error Scalar × List Char) := do
  let rest ← afterTime? s
  some (.ok (.moment ⟨.time, textBefore rest s⟩), rest)

/-! ## Words -/

/-- The values written as words. -/
def words : List (String × Scalar) := [
  ("true", .bool true), ("false", .bool false), ("inf", .real (.infinite false)),
  ("+inf", .real (.infinite false)), ("-inf", .real (.infinite true)), ("nan", .real .nan),
  ("+nan", .real .nan), ("-nan", .real .nan)]

/-- A word, and the rest. -/
def word? (s : List Char) : Option (Except Error Scalar × List Char) :=
  words.findSome? fun (word, value) =>
    if word.toList.isPrefixOf s then some (.ok value, s.drop word.length) else none

/-- A value without parts that is no text, and the rest. -/
def read (s : List Char) : Except Error (Scalar × List Char) :=
  let based := (based? s).map fun (n, rest) => ((.ok (.int n) : Except Error Scalar), rest)
  match date? s <|> time? s <|> based <|> decimal? s <|> word? s with
  | some (.ok value, rest) => .ok (value, rest)
  | some (.error e, _) => .error e
  | none => .error .malformed

end RestBindings.Toml.Atom
