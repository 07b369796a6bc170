import RecordSql.Number.Power

/-!
# Rounded fractions

Non-negative fractions of natural numbers, and their rounding to an integer. Binary numbers and decimals are both computed through
them, so that every result is exact before it is rounded once.
-/

namespace RecordSql.Number

/-- A non-negative fraction. The denominator is positive. -/
structure Fraction where
  num : Nat
  den : Nat
  den_pos : 0 < den

/-- The fraction zero. -/
def Fraction.zero : Fraction := ⟨0, 1, Nat.one_pos⟩

/-- A power of two or its inverse, times a natural number. -/
def Fraction.scaled (m : Nat) (e : Int) : Fraction :=
  if 0 ≤ e then ⟨m * twoTo e.toNat, 1, Nat.one_pos⟩
  else ⟨m, twoTo (-e).toNat, twoTo_pos _⟩

/-- The quotient of two natural numbers; a divisor of zero counts as one. -/
def Fraction.ratio (num den : Nat) : Fraction :=
  if h : 0 < den then ⟨num, den, h⟩ else ⟨num, 1, Nat.one_pos⟩

/-- The sum of two fractions. -/
def Fraction.add (x y : Fraction) : Fraction :=
  ⟨x.num * y.den + y.num * x.den, x.den * y.den, Nat.mul_pos x.den_pos y.den_pos⟩

/-- The product of two fractions. -/
def Fraction.mul (x y : Fraction) : Fraction :=
  ⟨x.num * y.num, x.den * y.den, Nat.mul_pos x.den_pos y.den_pos⟩

/-- The quotient of two fractions; a divisor of zero counts as its inverse denominator. -/
def Fraction.div (x y : Fraction) : Fraction :=
  Fraction.ratio (x.num * y.den) (x.den * y.num)

/-- The nearest integer; a half goes up. -/
def Fraction.roundHalfUp (x : Fraction) : Nat :=
  (2 * x.num + x.den) / (2 * x.den)

/-- The nearest integer to a quotient of natural numbers; a half goes to the even neighbour. -/
def roundHalfEven (num den : Nat) : Nat :=
  let q := num / den
  let r := num % den
  if 2 * r < den then q
  else if den < 2 * r then q + 1
  else if q % 2 = 0 then q else q + 1

end RecordSql.Number
