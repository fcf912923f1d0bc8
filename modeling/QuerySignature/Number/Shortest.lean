import QuerySignature.Number.Binary
import QuerySignature.Text.Basic

/-!
# Number/Shortest — the shortest decimal that reads back

A finite binary number stands for an interval of reals: those that round to it.  `Binary.shortest`
finds the decimal with the fewest digits in that interval, of several the nearest, and of two equally
near ones the even one.  For one, two, … seventeen digits it tests the two neighbours of the number on
that decimal grid, in exact arithmetic.  `Binary.written` lays the digits out: positional from `1e-4` up
to below `1e16`, else with a marked exponent of at least two digits; a whole number keeps a zero after
its point.
-/

namespace QuerySignature.Binary

/-- The reals that round to a number, over a common denominator: the number itself, both ends, and
whether the ends belong to it. -/
structure Rounding where
  value : Nat
  low : Nat
  high : Nat
  den : Nat
  closed : Bool

/-- The interval of `mantissa * 2 ^ exponent`.  Below a power of two the gap is half as wide. -/
def rounding (mantissa : Nat) (exponent : Int) : Rounding :=
  let unit := powerOfTwo (exponent - 2)
  let narrow := mantissa = fullMantissa ∧ leastExponent < exponent
  { value := 4 * mantissa * unit
    low := (if narrow then 4 * mantissa - 1 else 4 * mantissa - 2) * unit
    high := (4 * mantissa + 2) * unit
    den := powerOfTwo (2 - exponent)
    closed := mantissa % 2 = 0 }

/-- `digits * 10 ^ exponent` lies in the interval. -/
def Rounding.holds (r : Rounding) (digits : Nat) (exponent : Int) : Bool :=
  let x := digits * powerOfTen exponent * r.den
  let scale := powerOfTen (-exponent)
  if r.closed then r.low * scale ≤ x && x ≤ r.high * scale
  else r.low * scale < x && x < r.high * scale

/-- The greatest power of ten that is not above the value. -/
def Rounding.magnitude (r : Rounding) : Int :=
  let atMost (e : Int) : Bool := powerOfTen e * r.den ≤ r.value * powerOfTen (-e)
  let guess : Int := ((r.value.log2 : Int) - r.den.log2) * 30103 / 100000
  if atMost (guess + 1) then guess + 1 else if atMost guess then guess else guess - 1

/-- The decimal of the interval on the grid of `10 ^ exponent` that is nearest to the value; of two
equally near ones the even one. -/
def Rounding.onGrid (r : Rounding) (exponent : Int) : Option Nat :=
  let num := r.value * powerOfTen (-exponent)
  let den := r.den * powerOfTen exponent
  let below := num / den
  let nearest := nearestQuotient num den
  let other := if nearest = below then below + 1 else below
  [nearest, other].find? (r.holds · exponent)

/-- The first grid from the coarsest to the finest that meets the interval. -/
def Rounding.search (r : Rounding) (exponent : Int) : Nat → Nat × Int
  | 0 => (0, exponent)
  | fuel + 1 =>
    match r.onGrid exponent with
    | some digits => (digits, exponent)
    | none => r.search (exponent - 1) fuel

/-- **The shortest decimal** `digits * 10 ^ exponent` that rounds to `mantissa * 2 ^ exponent`. -/
def shortest (mantissa : Nat) (exponent : Int) : Nat × Int :=
  let r := rounding mantissa exponent
  r.search r.magnitude 17

/-- The exponent mark: a sign and at least two digits. -/
def exponentMark (exponent : Int) : Text :=
  let digits := Text.ofNat exponent.natAbs
  'e' :: (if exponent < 0 then '-' else '+') :: List.replicate (2 - digits.length) '0' ++ digits

/-- Digits without the zeros at their end. -/
def significant (digits : Text) : Text :=
  (digits.reverse.dropWhile (· == '0')).reverse

/-- A decimal laid out: `point` is how many digits stand before the point. -/
def laidOut (digits : Text) (point : Int) : Text :=
  if -4 < point ∧ point ≤ 16 then
    if point ≤ 0 then '0' :: '.' :: List.replicate (-point).toNat '0' ++ digits
    else
      let whole := digits.take point.toNat
      let fraction := digits.drop point.toNat
      whole ++ List.replicate (point.toNat - whole.length) '0' ++ '.' ::
        (if fraction.isEmpty then ['0'] else fraction)
  else
    let fraction := digits.drop 1
    digits.take 1 ++ (if fraction.isEmpty then [] else '.' :: fraction) ++ exponentMark (point - 1)

/-- **The text of a number**, given the words for the values that have no digits. -/
def written (nanWord infiniteWord : Text) : Binary → Text
  | .nan => nanWord
  | .infinite negative => if negative then '-' :: infiniteWord else infiniteWord
  | .finite negative mantissa exponent =>
    let body :=
      if mantissa = 0 then ['0', '.', '0']
      else
        let (digits, power) := shortest mantissa exponent
        let digits := Text.ofNat digits
        laidOut (significant digits) (digits.length + power)
    if negative then '-' :: body else body

end QuerySignature.Binary
