import RecordSql.Number.Binary

/-!
# Shortest digits

The fewest decimal digits that read back as the same binary number, and the texts made of them. The reals that round to a number
form an interval around it, whose ends belong to it when the mantissa is even. For one digit, two digits and so on, the two
neighbours of the number on the grid of that many digits are tried; the first grid with a neighbour inside the interval gives
the digits, and of two neighbours inside the nearer one is taken.
-/

namespace RecordSql.Number

/-- Decimal digits `d` read as `0.d` times ten to `point`. -/
structure DecimalDigits where
  digits : List Char
  point : Int

/-- How a number is laid out: positional when the point lies past `low` and not past `high`, else with an exponent. -/
structure Layout where
  low : Int
  high : Int
  /-- Whether a positive exponent has a sign. -/
  plus : Bool
  /-- Whether of two equally near digits the upper one is taken; otherwise it is the even one. -/
  tiesUp : Bool

/-- The number of decimal digits of a number; zero has none. -/
def decimalLength (n : Nat) : Nat :=
  if n = 0 then 0 else (Nat.toDigits 10 n).length

/-- The power of ten just above a positive fraction. -/
def pointOf (x : Fraction) : Int :=
  if x.den ≤ x.num then decimalLength (x.num / x.den)
  else 1 - (decimalLength ((x.den + x.num - 1) / x.num - 1) : Int)

/-- A fraction times a power of ten. -/
def Fraction.timesTen (x : Fraction) (e : Int) : Fraction :=
  if 0 ≤ e then x.mul (Fraction.ratio (tenTo e.toNat) 1) else x.mul (Fraction.ratio 1 (tenTo (-e).toNat))

/-- Whether `n` on the grid of unit ten to `unit` lies between two fractions, ends included when `closed`. -/
def onGridBetween (closed : Bool) (low high : Fraction) (unit : Int) (n : Nat) : Bool :=
  let x := (Fraction.ratio n 1).timesTen unit
  if closed then
    low.num * x.den ≤ x.num * low.den && x.num * high.den ≤ high.num * x.den
  else
    low.num * x.den < x.num * low.den && x.num * high.den < high.num * x.den

/-- The neighbour to take on the grid of unit ten to `unit`, if one of the two is inside the interval. -/
def neighbour? (tiesUp closed : Bool) (low value high : Fraction) (unit : Int) : Option Nat :=
  let y := value.timesTen (-unit)
  let below := y.num / y.den
  let rest := y.num % y.den
  let belowIn := onGridBetween closed low high unit below
  let aboveIn := onGridBetween closed low high unit (below + 1)
  if belowIn && aboveIn then
    if 2 * rest < y.den then some below
    else if y.den < 2 * rest then some (below + 1)
    else if tiesUp then some (below + 1)
    else some (if below % 2 = 0 then below else below + 1)
  else if belowIn then some below
  else if aboveIn then some (below + 1)
  else none

/-- The first grid with a neighbour inside the interval, from grids of `count` digits on. -/
def shortestFrom (tiesUp closed : Bool) (low value high : Fraction) (point : Int) : Nat → Nat → Nat × Int
  | 0, count => (((value.timesTen (count - point)).num / (value.timesTen (count - point)).den), point - count)
  | tries + 1, count =>
    match neighbour? tiesUp closed low value high (point - count) with
    | some n => (n, point - count)
    | none => shortestFrom tiesUp closed low value high point tries (count + 1)

/-- The digits of `n` times ten to `unit`, without zeros at the end. -/
def digitsOf (n : Nat) (unit : Int) : DecimalDigits :=
  let all := Nat.toDigits 10 n
  { digits := (all.reverse.dropWhile (· == '0')).reverse, point := all.length + unit }

/-- The shortest digits of a positive mantissa times two to an exponent. -/
def shortestDigits (p : Precision) (tiesUp : Bool) (mantissa : Nat) (exponent : Int) : DecimalDigits :=
  let narrow := mantissa == twoTo p.mantissaBits && p.leastExponent < exponent
  let low := Fraction.scaled (if narrow then 4 * mantissa - 1 else 4 * mantissa - 2) (exponent - 2)
  let value := Fraction.scaled (4 * mantissa) (exponent - 2)
  let high := Fraction.scaled (4 * mantissa + 2) (exponent - 2)
  let (n, unit) := shortestFrom tiesUp (mantissa % 2 == 0) low value high (pointOf value) 17 1
  digitsOf n unit

/-- Digits written with a point. There is always a digit before and after it. -/
def positional (d : DecimalDigits) : String :=
  let count : Int := d.digits.length
  if d.point ≤ 0 then
    "0." ++ String.ofList (List.replicate (-d.point).toNat '0' ++ d.digits)
  else if count ≤ d.point then
    String.ofList (d.digits ++ List.replicate (d.point - count).toNat '0') ++ ".0"
  else
    String.ofList (d.digits.take d.point.toNat) ++ "." ++ String.ofList (d.digits.drop d.point.toNat)

/-- Digits written with one digit before the point and an exponent of ten. -/
def scientific (plus : Bool) (d : DecimalDigits) : String :=
  let exponent := d.point - 1
  let mantissa :=
    match d.digits with
    | first :: second :: rest => String.ofList (first :: '.' :: second :: rest)
    | short => String.ofList short
  mantissa ++ "e" ++ (if plus && 0 ≤ exponent then "+" else "") ++ toString exponent

/-- The text of a finite number, read as a sign, a mantissa and an exponent of two. -/
def Layout.text (l : Layout) (p : Precision) (negative : Bool) (mantissa : Nat) (exponent : Int) : String :=
  (if negative then "-" else "") ++
    if mantissa = 0 then "0.0"
    else
      let d := shortestDigits p l.tiesUp mantissa exponent
      if l.low < d.point && d.point ≤ l.high then positional d else scientific l.plus d

end RecordSql.Number
