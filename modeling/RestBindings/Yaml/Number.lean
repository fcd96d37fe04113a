import RestBindings.Json
import RestBindings.Text.Blank
import RestBindings.Text.Split
import RestBindings.Yaml.Cursor

/-!
# Numbers in YAML

Integers may be written to the bases 2, 8, 10, 16 and 60, numbers with a fraction to the bases 10
and 60.  Underscores between the digits do not count.
-/

namespace RestBindings.Yaml.Number

/-! ## Notation of plain scalars -/

/-- A digit or an underscore. -/
def isSpacedDigit (c : Char) : Bool :=
  c.isDigit || c == '_'

/-- A text without a sign at its start. -/
def unsigned : List Char → List Char
  | c :: rest => if c = '+' ∨ c = '-' then rest else c :: rest
  | [] => []

/-- A text that begins with a digit and goes on with digits and underscores. -/
def isSpacedRun : List Char → Bool
  | first :: rest => first.isDigit && rest.all isSpacedDigit
  | [] => false

/-- A number below sixty: a digit, behind a digit up to five if there are two. -/
def isSixtieth : List Char → Bool
  | [c] => c.isDigit
  | [tens, c] => tens.isDigit && tens ≤ '5' && c.isDigit
  | _ => false

/-- Nothing, or an exponent with a sign. -/
def isExponent : List Char → Bool
  | [] => true
  | e :: sign :: digits =>
    (e == 'e' || e == 'E') && (sign == '+' || sign == '-') && !digits.isEmpty &&
      digits.all Char.isDigit
  | _ => false

/-- A plain scalar that stands for an integer. -/
def isImplicitInteger (s : List Char) : Bool :=
  match unsigned s with
  | '0' :: 'b' :: rest =>
    !rest.isEmpty && rest.all fun c => c == '0' || c == '1' || c == '_'
  | '0' :: 'x' :: rest =>
    !rest.isEmpty && rest.all fun c => (Json.hexValue? c).isSome || c == '_'
  | '0' :: rest => rest.all fun c => ('0' ≤ c && c ≤ '7') || c == '_'
  | digits =>
    match Text.splitOn ':' digits with
    | whole :: sixtieths => isSpacedRun whole && sixtieths.all isSixtieth
    | [] => false

/-- Digits, a point, and perhaps digits and an exponent behind it. -/
def isDecimal (s : List Char) : Bool :=
  let fraction := s.dropWhile isSpacedDigit
  isSpacedRun (s.takeWhile isSpacedDigit) && fraction.head? == some '.' &&
    isExponent ((fraction.drop 1).dropWhile isSpacedDigit)

/-- A point, digits behind it, and perhaps an exponent. -/
def isFraction : List Char → Bool
  | '.' :: first :: rest => first.isDigit && isExponent (rest.dropWhile isSpacedDigit)
  | _ => false

/-- A number to the base sixty whose last part has a point. -/
def isSexagesimal (s : List Char) : Bool :=
  match Text.splitOn ':' (Text.before '.' s) with
  | whole :: first :: rest =>
    isSpacedRun whole && (first :: rest).all isSixtieth && s.contains '.' &&
      (Text.after '.' s).all isSpacedDigit
  | _ => false

/-- The words for infinity. -/
def infinityWords : List String := [".inf", ".Inf", ".INF"]

/-- The words for what is no number. -/
def nanWords : List String := [".nan", ".NaN", ".NAN"]

/-- A plain scalar that stands for a number with a fraction. -/
def isImplicitReal (s : List Char) : Bool :=
  let digits := unsigned s
  isDecimal digits || isFraction s || isSexagesimal digits ||
    infinityWords.any (·.toList == digits) || nanWords.any (·.toList == s)

/-! ## Values -/

/-- The value of a letter or digit as a digit. -/
def digitOf (c : Char) : Option Nat :=
  if c.isDigit then some (c.toNat - '0'.toNat)
  else if c.isAlpha then some (c.toLower.toNat - 'a'.toNat + 10)
  else none

/-- The value of digits to a base, if there are any and all of them are digits of the base. -/
def valueOf (base : Nat) (digits : List Char) : Option Nat :=
  if digits.isEmpty then none
  else digits.foldl (fun value c => do
    let d ← digitOf c
    if d < base then some ((← value) * base + d) else none) (some 0)

/-- The letter that may stand in front of digits to a base, behind a zero. -/
def baseLetter (base : Nat) : Option Char :=
  [(2, 'b'), (8, 'o'), (16, 'x')].lookup base

/-- Digits without the mark of their base. -/
def withoutMark (base : Nat) : List Char → List Char
  | '0' :: letter :: rest =>
    if baseLetter base = some letter.toLower then rest else '0' :: letter :: rest
  | digits => digits

/-- A sign at the start of a text: the number is negative. -/
def isNegative (s : List Char) : Bool :=
  s.head? == some '-'

/-- The integer that a text is to a base; blanks around it do not count. -/
def integer (base : Nat) (s : List Char) : Except Error Int :=
  let trimmed := Text.trim s
  let digits := withoutMark base (unsigned trimmed)
  match valueOf base digits with
  | some n =>
    if base = 10 ∧ digits.length > Json.digitLimit then
      .error (.outOfRange (Json.Error.longInteger digits.length).message)
    else .ok (if isNegative trimmed then -(n : Int) else n)
  | none =>
    let shown := Text.quoted (String.ofList s)
    .error (.outOfRange ("invalid literal for int() with base " ++ toString base ++ ": " ++
      String.ofList (shown.toList.take 200)))

/-- The value of the parts of a number to the base sixty, the first one first. -/
def sexagesimal (parts : List Int) : Int :=
  parts.foldl (fun value part => value * 60 + part) 0

/-- The integers that parts of a text are. -/
def integers : List (List Char) → Except Error (List Int)
  | [] => .ok []
  | part :: rest => do return (← integer 10 part) :: (← integers rest)

/-- The integer behind a sign. -/
def magnitude (s : List Char) : Except Error Int :=
  match s with
  | [] => .error .emptyNumber
  | ['0'] => .ok 0
  | '0' :: 'b' :: digits => integer 2 digits
  | '0' :: 'x' :: digits => integer 16 digits
  | '0' :: _ => integer 8 s
  | _ =>
    if s.contains ':' then (integers (Text.splitOn ':' s)).map sexagesimal else integer 10 s

/-- The integer that a scalar is. -/
def readInteger (text : String) : Except Error Int :=
  let s := text.toList.filter (· != '_')
  if s.isEmpty then .error .emptyNumber
  else (magnitude (unsigned s)).map fun n => if isNegative s then -n else n

/-- The power of ten behind a significand. -/
def power? : List Char → Option Int
  | [] => some 0
  | e :: rest =>
    if e = 'e' then
      match valueOf 10 (unsigned rest) with
      | some n => some (if isNegative rest then -(n : Int) else n)
      | none => none
    else none

/-- The numbers without digits, by the words for them. -/
def realWords : List (String × Decimal.Binary64) :=
  [("inf", .infinite false), ("infinity", .infinite false), ("nan", .nan)]

/-- The number that a text in lower case is; blanks around it do not count. -/
def real? (s : List Char) : Option Decimal.Binary64 :=
  let trimmed := Text.trim s
  let negative := isNegative trimmed
  let digits := unsigned trimmed
  match realWords.lookup (String.ofList digits) with
  | some x => some (if negative then x.negated else x)
  | none => do
    let whole := digits.takeWhile Char.isDigit
    let (decimals, rest) := match digits.dropWhile Char.isDigit with
      | '.' :: rest => (rest.takeWhile Char.isDigit, rest.dropWhile Char.isDigit)
      | rest => ([], rest)
    if whole.isEmpty && decimals.isEmpty then none
    else some (.ofDecimal negative (Json.digitsValue (whole ++ decimals))
      ((← power? rest) - decimals.length))

/-- The numbers that parts of a text are. -/
def reals : List (List Char) → Except Error (List Decimal.Binary64)
  | [] => .ok []
  | part :: rest =>
    match real? part with
    | some x => do return x :: (← reals rest)
    | none => .error (.outOfRange
        ("could not convert string to float: " ++ Text.quoted (String.ofList part)))

/-- The value of the parts of a number to the base sixty, the last one first, each counting for the
given unit. -/
def sexagesimalReal (unit : Nat) (value : Decimal.Binary64) :
    List Decimal.Binary64 → Decimal.Binary64
  | [] => value
  | part :: rest => sexagesimalReal (unit * 60) (value.add (part.times unit)) rest

/-- The number with a fraction that a scalar is. -/
def readReal (text : String) : Except Error Decimal.Binary64 :=
  let s := (text.toList.filter (· != '_')).map Char.toLower
  if s.isEmpty then .error .emptyNumber
  else
    let negative := isNegative s
    let digits := unsigned s
    if digits = ".inf".toList then .ok (.infinite negative)
    else if digits = ".nan".toList then .ok .nan
    else (reals (Text.splitOn ':' digits)).map fun parts =>
      let value := match parts with
        | [x] => x
        | parts => sexagesimalReal 1 .zero parts.reverse
      if negative then value.negated else value

end RestBindings.Yaml.Number
