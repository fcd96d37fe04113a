/-!
# Double precision numbers

Numbers with a fraction or an exponent are kept as the nearest number with a 53 bit mantissa, ties
going to the even mantissa.  All arithmetic is on natural numbers.
-/

namespace RestBindings.Decimal

/-- A double precision number.  A finite one is `mantissa · 2 ^ exponent` up to its sign. -/
inductive Binary64
  | finite (negative : Bool) (mantissa : Nat) (exponent : Int)
  | infinite (negative : Bool)
  | nan
  deriving DecidableEq, Repr

namespace Binary64

/-- The quotient of two numbers rounded to the nearest number, a tie to the even one. -/
def roundedQuotient (numerator denominator : Nat) : Nat :=
  let quotient := numerator / denominator
  let twice := 2 * (numerator % denominator)
  if twice > denominator ∨ (twice = denominator ∧ quotient % 2 = 1) then quotient + 1
  else quotient

/-- The exponent that gives a positive fraction a mantissa of at most 53 bits. -/
def binaryExponent (numerator denominator : Nat) : Int :=
  let guess := (Nat.log2 numerator : Int) - Nat.log2 denominator - 52
  let scaled : Bool :=
    if guess ≥ 0 then numerator < denominator * Nat.pow 2 (52 + guess.toNat)
    else numerator * Nat.pow 2 (-guess).toNat < denominator * Nat.pow 2 52
  max (-1074) (if scaled then guess - 1 else guess)

/-- The double precision number nearest to a fraction. -/
def ofFraction (negative : Bool) (numerator denominator : Nat) : Binary64 :=
  if numerator = 0 then .finite negative 0 (-1074)
  else
    let exponent := binaryExponent numerator denominator
    let mantissa :=
      if exponent ≥ 0 then roundedQuotient numerator (denominator * Nat.pow 2 exponent.toNat)
      else roundedQuotient (numerator * Nat.pow 2 (-exponent).toNat) denominator
    let carried := mantissa = Nat.pow 2 53
    let exponent := if carried then exponent + 1 else exponent
    let mantissa := if carried then Nat.pow 2 52 else mantissa
    if exponent > 971 then .infinite negative else .finite negative mantissa exponent

/-- The double precision number nearest to `significand · 10 ^ exponent`.  Exponents beyond every
finite number are decided without computing the power. -/
def ofDecimal (negative : Bool) (significand : Nat) (exponent : Int) : Binary64 :=
  let magnitude : Int := (Nat.toDigits 10 significand).length + exponent
  if significand = 0 ∨ magnitude < -400 then .finite negative 0 (-1074)
  else if magnitude > 400 then .infinite negative
  else if exponent ≥ 0 then ofFraction negative (significand * Nat.pow 10 exponent.toNat) 1
  else ofFraction negative significand (Nat.pow 10 (-exponent).toNat)

/-- The integer that the number equals, if there is one. -/
def toInt? : Binary64 → Option Int
  | .finite negative mantissa exponent =>
    let signed (n : Nat) : Int := if negative then -(n : Int) else n
    if exponent ≥ 0 then some (signed (mantissa * Nat.pow 2 exponent.toNat))
    else
      let unit := Nat.pow 2 (-exponent).toNat
      if mantissa % unit = 0 then some (signed (mantissa / unit)) else none
  | _ => none

/-- The positive zero. -/
def zero : Binary64 :=
  .finite false 0 (-1074)

/-- The number with the other sign. -/
def negated : Binary64 → Binary64
  | .finite negative mantissa exponent => .finite (!negative) mantissa exponent
  | .infinite negative => .infinite (!negative)
  | .nan => .nan

/-- A finite number as a whole number of the given power of two, which is at most its own. -/
def scaledTo (least : Int) (negative : Bool) (mantissa : Nat) (exponent : Int) : Int :=
  let n : Int := mantissa * Nat.pow 2 (exponent - least).toNat
  if negative then -n else n

/-- The number nearest to a whole number of a power of two. -/
def ofScaled (total least : Int) : Binary64 :=
  if least ≥ 0 then ofFraction (total < 0) (total.natAbs * Nat.pow 2 least.toNat) 1
  else ofFraction (total < 0) total.natAbs (Nat.pow 2 (-least).toNat)

/-- The rounded sum of two numbers. -/
def add : Binary64 → Binary64 → Binary64
  | .nan, _ => .nan
  | _, .nan => .nan
  | .infinite a, .infinite b => if a = b then .infinite a else .nan
  | .infinite a, _ => .infinite a
  | _, .infinite b => .infinite b
  | .finite a m e, .finite b n f =>
    let least := min e f
    ofScaled (scaledTo least a m e + scaledTo least b n f) least

/-- The rounded product of a number and a positive integer. -/
def times (x : Binary64) (factor : Nat) : Binary64 :=
  match x with
  | .finite negative mantissa exponent =>
    ofScaled (scaledTo exponent negative (mantissa * factor) exponent) exponent
  | _ => x

end Binary64

end RestBindings.Decimal
