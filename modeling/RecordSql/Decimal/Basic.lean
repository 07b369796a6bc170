import RecordSql.Number.Binary
import RecordSql.Text.Digits

/-!
# Decimal numbers

A decimal number is a coefficient below 2^96 over a power of ten of at most 28, with a sign. The scale is part of the number as
it is written (`1.50` has scale two) but not of its value: `1.5` and `1.50` are equal. Zero may carry a sign, which only shows.
-/

namespace RecordSql

/-- The coefficients of decimal numbers are below this bound. -/
def Decimal.bound : Nat := Number.twoTo 96

/-- The largest scale of a decimal number. -/
def Decimal.maxScale : Nat := 28

/-- A decimal number: a signed coefficient divided by ten to the scale. -/
structure Decimal where
  negative : Bool
  coefficient : Nat
  scale : Nat
  coefficient_lt : coefficient < Decimal.bound
  scale_le : scale ≤ Decimal.maxScale
  deriving DecidableEq

namespace Decimal

open Number

/-- The decimal number of a sign, a coefficient and a scale, if they are within bounds. -/
def ofSigned? (negative : Bool) (coefficient scale : Nat) : Option Decimal :=
  if h : coefficient < bound ∧ scale ≤ maxScale then
    some ⟨negative, coefficient, scale, h.1, h.2⟩
  else
    none

/-- The decimal number of a sign, a coefficient and a scale, if they are within bounds. Zero takes no sign. -/
def ofParts? (negative : Bool) (coefficient scale : Nat) : Option Decimal :=
  ofSigned? (negative && coefficient != 0) coefficient scale

/-- The decimal number of an integer, if it is below 2^96 in magnitude. -/
def ofInt? (n : Int) : Option Decimal :=
  ofParts? (n < 0) n.natAbs 0

/-- The coefficient with its sign. -/
def signed (d : Decimal) : Int :=
  if d.negative then -(d.coefficient : Int) else d.coefficient

/-- A tenth of a number, rounded half up. -/
def tenth (n : Nat) : Nat :=
  n / 10 + (if 5 ≤ n % 10 then 1 else 0)

/-- Whether the value is zero. -/
def isZero (d : Decimal) : Bool :=
  d.coefficient == 0

/-- Whether two decimal numbers have the same value. -/
def sameValue (x y : Decimal) : Bool :=
  x.signed * tenTo y.scale == y.signed * tenTo x.scale

/-- The integer that the number equals, if it has no fraction. -/
def toInt? (d : Decimal) : Option Int :=
  if d.coefficient % tenTo d.scale = 0 then some (d.signed.tdiv (tenTo d.scale)) else none

/-- The number as it is written: all digits of the scale, and at least one digit before the point. -/
def text (d : Decimal) : String :=
  let whole := toString (d.coefficient / tenTo d.scale)
  let fraction := String.ofList (Text.fixedDigits d.scale (d.coefficient % tenTo d.scale))
  (if d.negative then "-" else "") ++ (if d.scale = 0 then whole else whole ++ "." ++ fraction)

end Decimal

end RecordSql
