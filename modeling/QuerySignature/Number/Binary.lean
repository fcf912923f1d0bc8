/-!
# Number/Binary — binary floating-point numbers of 64 bits

A `Binary` is infinite, not a number, or a signed product `mantissa * 2 ^ exponent` in its normal
form: the mantissa is below `2 ^ 53`, the exponent is at least `-1074`, and a mantissa below
`2 ^ 52` occurs with the least exponent only.  `ofDecimal` is the number nearest to a decimal
product, a tie going to the even mantissa; all its arithmetic is exact.
-/

namespace QuerySignature

/-- **A binary floating-point number** of 64 bits. -/
inductive Binary where
  | nan
  | infinite (negative : Bool)
  | finite (negative : Bool) (mantissa : Nat) (exponent : Int)
  deriving DecidableEq, Repr

namespace Binary

/-- The least exponent. -/
def leastExponent : Int := -1074

/-- The greatest exponent. -/
def greatestExponent : Int := 971

/-- The quotient rounded to the nearest natural number, a half to the even neighbour. -/
def nearestQuotient (num den : Nat) : Nat :=
  let q := num / den
  let twice := 2 * (num % den)
  if twice < den then q else if den < twice then q + 1 else q + q % 2

/-- The least mantissa that has all its digits: `2 ^ 52`. -/
def fullMantissa : Nat := 0x10000000000000

/-- The power of two, one for a negative exponent. -/
def powerOfTwo (exponent : Int) : Nat := Nat.pow 2 exponent.toNat

/-- The power of ten, one for a negative exponent. -/
def powerOfTen (exponent : Int) : Nat := Nat.pow 10 exponent.toNat

/-- `num * 2 ^ (-exponent) / den` as a fraction of natural numbers. -/
def scaled (num den : Nat) (exponent : Int) : Nat × Nat :=
  (num * powerOfTwo (-exponent), den * powerOfTwo exponent)

/-- **The number nearest to a fraction.** -/
def ofFraction (negative : Bool) (num den : Nat) : Binary :=
  if num = 0 then .finite negative 0 leastExponent else
  let guess := max ((num.log2 : Int) - den.log2 - 52) leastExponent
  let fits := (scaled num den guess).1 / (scaled num den guess).2 < fullMantissa
  let exponent := if fits && leastExponent < guess then guess - 1 else guess
  let mantissa := nearestQuotient (scaled num den exponent).1 (scaled num den exponent).2
  let (mantissa, exponent) :=
    if mantissa = 2 * fullMantissa then (fullMantissa, exponent + 1) else (mantissa, exponent)
  if greatestExponent < exponent then .infinite negative else .finite negative mantissa exponent

/-- **The number nearest to `digits * 10 ^ exponent`.**  Beyond the range of the format the powers
of ten are not computed. -/
def ofDecimal (negative : Bool) (digits : Nat) (exponent : Int) : Binary :=
  let size := (Nat.toDigits 10 digits).length + exponent
  if digits = 0 || size < -400 then .finite negative 0 leastExponent
  else if 400 < size then .infinite negative
  else ofFraction negative (digits * powerOfTen exponent) (powerOfTen (-exponent))

/-- The number is zero, of either sign. -/
def isZero : Binary → Bool
  | .finite _ mantissa _ => mantissa == 0
  | _ => false

end Binary

end QuerySignature
