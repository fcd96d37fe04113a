import RestBindings.Decimal.Binary64

/-!
# The shortest decimal text of a double precision number

Of the decimals that read back as the number, one with the fewest digits is taken, and among those
the nearest to the number.  It is written positionally for exponents from −4 to 15 and with an
exponent of at least two digits otherwise.
-/

namespace RestBindings.Decimal

namespace Binary64

/-- The exponent `k` with `10 ^ (k - 1) ≤ numerator / denominator < 10 ^ k`. -/
def decimalPoint (numerator denominator : Nat) : Int :=
  if numerator ≥ denominator then (Nat.toDigits 10 (numerator / denominator)).length
  else
    let quotient := (denominator - 1) / numerator
    1 - ((Nat.toDigits 10 quotient).length : Int)

/-- The decimals with a given number of digits just below and just above a fraction, as
significands at the exponent `point - digits`. -/
def neighbours (numerator denominator digits : Nat) (point : Int) : Nat × Nat :=
  let shift := (digits : Int) - point
  let below :=
    if shift ≥ 0 then numerator * Nat.pow 10 shift.toNat / denominator
    else numerator / (denominator * Nat.pow 10 (-shift).toNat)
  (below, below + 1)

/-- The first number of digits at which a neighbour reads back, with the significand. -/
def shortestFrom (x : Binary64) (numerator denominator : Nat) (point : Int) :
    Nat → Nat → Nat × Nat
  | 0, digits => ((neighbours numerator denominator digits point).1, digits)
  | tries + 1, digits =>
    let (below, above) := neighbours numerator denominator digits point
    let exponent := point - digits
    let readsBack (significand : Nat) : Bool := ofDecimal false significand exponent = x
    let scaled (significand : Nat) : Nat :=
      if exponent ≥ 0 then significand * Nat.pow 10 exponent.toNat * denominator
      else significand * denominator
    let target := if exponent ≥ 0 then numerator else numerator * Nat.pow 10 (-exponent).toNat
    match readsBack below, readsBack above with
    | false, false => shortestFrom x numerator denominator point tries (digits + 1)
    | true, false => (below, digits)
    | false, true => (above, digits)
    | true, true =>
      if target - scaled below ≤ scaled above - target then (below, digits) else (above, digits)

/-- Digits of a positive finite number and the place of its decimal point. -/
def shortestDigits (mantissa : Nat) (exponent : Int) : List Char × Int :=
  let numerator := if exponent ≥ 0 then mantissa * Nat.pow 2 exponent.toNat else mantissa
  let denominator := if exponent ≥ 0 then 1 else Nat.pow 2 (-exponent).toNat
  let point := decimalPoint numerator denominator
  let (significand, digits) :=
    shortestFrom (.finite false mantissa exponent) numerator denominator point 17 1
  let written := Nat.toDigits 10 significand
  let point := point + (written.length - digits : Int)
  let trimmed := (written.reverse.dropWhile (· == '0')).reverse
  (trimmed, point)

/-- An exponent with its sign and at least two digits. -/
def exponentText (e : Int) : List Char :=
  let digits := Nat.toDigits 10 e.natAbs
  (if e < 0 then ['e', '-'] else ['e', '+']) ++ List.replicate (2 - digits.length) '0' ++ digits

/-- The text of digits with a decimal point at a place. -/
def layout (digits : List Char) (point : Int) : List Char :=
  if -4 < point ∧ point ≤ 16 then
    if point ≤ 0 then '0' :: '.' :: List.replicate (-point).toNat '0' ++ digits
    else
      let n := point.toNat
      if digits.length ≤ n then digits ++ List.replicate (n - digits.length) '0' ++ ['.', '0']
      else digits.take n ++ ['.'] ++ digits.drop n
  else
    match digits with
    | [] => []
    | first :: rest =>
      (if rest.isEmpty then [first] else first :: '.' :: rest) ++ exponentText (point - 1)

/-- The shortest decimal text of a number. -/
def text : Binary64 → String
  | .nan => "nan"
  | .infinite negative => if negative then "-inf" else "inf"
  | .finite negative mantissa exponent =>
    let sign := if negative then ['-'] else []
    if mantissa = 0 then String.ofList (sign ++ ['0', '.', '0'])
    else
      let (digits, point) := shortestDigits mantissa exponent
      String.ofList (sign ++ layout digits point)

end Binary64

end RestBindings.Decimal
