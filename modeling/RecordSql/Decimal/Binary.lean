import RecordSql.Decimal.Basic

/-!
# Decimal and binary numbers

A decimal number becomes a binary one by adding its whole part and its fraction and rounding the sum back to the decimal places it
had. A binary number becomes a decimal one by trading powers of two for powers of ten on a coefficient of 96 bits, and then cutting
the digits that its precision does not carry.
-/

namespace RecordSql.Decimal

open Number

/-- The binary number of double precision for a decimal number. -/
def toDouble (d : Decimal) : Binary .double :=
  if d.scale = 0 then
    Binary.ofInt .double d.signed
  else
    let unit := Binary.roundTo .double (Fraction.ratio (tenTo d.scale) 1)
    let whole := Binary.roundTo .double (Fraction.ratio (d.coefficient / tenTo d.scale) 1)
    let part := d.coefficient % tenTo d.scale
    if part = 0 then
      Binary.nearest .double d.negative whole
    else
      let fraction := Binary.roundTo .double ((Binary.roundTo .double (Fraction.ratio part 1)).div unit)
      let sum := Binary.roundTo .double (whole.add fraction)
      let places := (Binary.roundTo .double (sum.mul unit)).roundHalfUp
      Binary.nearest .double d.negative ((Fraction.ratio places 1).div unit)

/-- The binary number of the given precision for a decimal number. -/
def toBinary (p : Precision) (d : Decimal) : Binary p :=
  d.toDouble.convert p

/-- The coefficient and the exponent of ten of `n` times ten to `e`, divided `times` times by two: an even coefficient is halved,
an odd one is multiplied by five and taken a tenth of, or halved with loss when five times it does not fit. -/
def halveTimes : Nat → Nat → Int → Nat × Int
  | 0, n, e => (n, e)
  | times + 1, n, e =>
    if n % 2 = 0 then halveTimes times (n / 2) (e + 1)
    else if n * 5 < bound then halveTimes times (n * 5) e
    else halveTimes times (n / 2) (e + 1)

/-- The number with a scale of at most 28. A coefficient that vanishes on the way is zero with scale zero. -/
def cutScale : Nat → Nat → Nat → Nat × Nat
  | 0, n, scale => (n, scale)
  | tries + 1, n, scale =>
    if maxScale < scale then
      if n / 10 = 0 then (0, 0) else cutScale tries (tenth n) (scale - 1)
    else
      (n, scale)

/-- The number with a coefficient below the limit, as far as digits after the point can be cut. -/
def cutDigits (limit : Nat) (n : Nat) : Nat → Nat × Nat
  | 0 => (n, 0)
  | scale + 1 => if limit ≤ n then cutDigits limit (tenth n) scale else (n, scale + 1)

/-- The number without zeros at the end of its fraction. -/
def stripZeros (n : Nat) : Nat → Nat × Nat
  | 0 => (n, 0)
  | scale + 1 => if n % 10 = 0 then stripZeros (n / 10) scale else (n, scale + 1)

/-- The bound on the coefficients that a binary number of the given precision determines. -/
def carriedBound : Precision → Nat
  | .single => twoTo 24
  | .double => twoTo 52

/-- The decimal number for a binary one below 2^96 in magnitude. The sign of zero is kept. -/
def ofBinary? {p : Precision} (x : Binary p) : Option Decimal :=
  match x.read with
  | .finite negative mantissa exponent =>
    let (n, e) :=
      if mantissa = 0 then (0, 0)
      else if 0 ≤ exponent then (mantissa * twoTo exponent.toNat, 0)
      else halveTimes (-exponent).toNat mantissa exponent
    let (n, scale) := cutScale (-e).toNat n (-e).toNat
    let (n, scale) := cutDigits (carriedBound p) n scale
    let (n, scale) := stripZeros n scale
    ofSigned? negative n scale
  | _ => none

end RecordSql.Decimal
