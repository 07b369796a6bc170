import RecordSql.Number.Fraction

/-!
# Binary numbers

Binary floating point numbers of single and double precision, kept as their bit patterns. Two numbers are the same when their
patterns are: positive and negative zero differ, and a pattern that is not a number equals itself. A pattern is read as a sign, a
mantissa and an exponent of two, and every computation is done on these exactly and rounded once, to the nearest number and to
the even mantissa on a tie.
-/

namespace RecordSql.Number

/-- The two precisions. -/
inductive Precision where
  | single
  | double
  deriving DecidableEq, Repr

namespace Precision

/-- The number of bits of a pattern. -/
def width : Precision → Nat
  | single => 32
  | double => 64

/-- The number of stored bits of the mantissa. -/
def mantissaBits : Precision → Nat
  | single => 23
  | double => 52

/-- The number of bits of the exponent. -/
def exponentBits : Precision → Nat
  | single => 8
  | double => 11

/-- The exponent of two of the last mantissa bit of the smallest numbers. -/
def leastExponent (p : Precision) : Int :=
  2 - twoTo (p.exponentBits - 1) - p.mantissaBits

/-- The exponent field of infinities and of patterns that are not numbers. -/
def exponentMask (p : Precision) : Nat :=
  twoTo p.exponentBits - 1

end Precision

/-- The pattern of a binary number. -/
structure Binary (p : Precision) where
  pattern : Nat
  lt : pattern < twoTo p.width
  deriving DecidableEq

/-- What a pattern denotes. -/
inductive Reading where
  | notANumber
  | infinite (negative : Bool)
  | finite (negative : Bool) (mantissa : Nat) (exponent : Int)

namespace Binary

/-- The number with the given pattern; bits past the width are dropped. -/
def ofPattern (p : Precision) (n : Nat) : Binary p :=
  ⟨n % twoTo p.width, Nat.mod_lt _ (twoTo_pos _)⟩

/-- Whether the sign bit is set. -/
def negative {p : Precision} (x : Binary p) : Bool :=
  twoTo (p.width - 1) ≤ x.pattern

/-- The stored bits of the mantissa. -/
def mantissaField {p : Precision} (x : Binary p) : Nat :=
  x.pattern % twoTo p.mantissaBits

/-- The exponent field. -/
def exponentField {p : Precision} (x : Binary p) : Nat :=
  x.pattern / twoTo p.mantissaBits % twoTo p.exponentBits

/-- What the number denotes. A finite number is its mantissa times two to its exponent. -/
def read {p : Precision} (x : Binary p) : Reading :=
  if x.exponentField = p.exponentMask then
    if x.mantissaField = 0 then .infinite x.negative else .notANumber
  else if x.exponentField = 0 then
    .finite x.negative x.mantissaField p.leastExponent
  else
    .finite x.negative (x.mantissaField + twoTo p.mantissaBits) (p.leastExponent + x.exponentField - 1)

/-- The pattern with the given sign and the given bits below it. -/
def ofSign (p : Precision) (negative : Bool) (magnitude : Nat) : Binary p :=
  ofPattern p (if negative then twoTo (p.width - 1) + magnitude else magnitude)

/-- The infinity of the given sign. -/
def infinity (p : Precision) (negative : Bool) : Binary p :=
  ofSign p negative (p.exponentMask * twoTo p.mantissaBits)

/-- The exponent at which a positive fraction has a full mantissa, or the least one. -/
def exponentOf (p : Precision) (x : Fraction) : Int :=
  let guess : Int := (Nat.log2 x.num : Int) - Nat.log2 x.den - p.mantissaBits
  let low := if guess - 1 < p.leastExponent then p.leastExponent else guess - 1
  let y := x.mul (Fraction.scaled 1 (-low))
  if twoTo (p.mantissaBits + 1) ≤ y.num / y.den then low + 1 else low

/-- The bits below the sign of the number nearest to a fraction. The bits of a mantissa that rounds up to the next power of two
carry into the exponent field, which is the pattern of that power. -/
def magnitudeOf (p : Precision) (x : Fraction) : Nat :=
  let e := exponentOf p x
  let y := x.mul (Fraction.scaled 1 (-e))
  let bits := (e - p.leastExponent).toNat * twoTo p.mantissaBits + roundHalfEven y.num y.den
  min bits (p.exponentMask * twoTo p.mantissaBits)

/-- The number nearest to a fraction with a sign. -/
def nearest (p : Precision) (negative : Bool) (x : Fraction) : Binary p :=
  if x.num = 0 then ofSign p negative 0 else ofSign p negative (magnitudeOf p x)

/-- The number nearest to an integer. -/
def ofInt (p : Precision) (n : Int) : Binary p :=
  nearest p (n < 0) (Fraction.ratio n.natAbs 1)

/-- The magnitude of a finite number as a fraction; zero for the others. -/
def magnitude {p : Precision} (x : Binary p) : Fraction :=
  match x.read with
  | .finite _ m e => Fraction.scaled m e
  | _ => .zero

/-- The fraction rounded to the precision. -/
def roundTo (p : Precision) (x : Fraction) : Fraction :=
  (nearest p false x).magnitude

/-- The number in another precision; in its own it stays as it is. A pattern that is not a number keeps its sign and its leading mantissa
bits and is made quiet. -/
def convert {p : Precision} (q : Precision) (x : Binary p) : Binary q :=
  if h : p = q then h ▸ x
  else
    match x.read with
    | .infinite s => infinity q s
    | .finite s m e => nearest q s (Fraction.scaled m e)
    | .notANumber =>
      let leading := x.mantissaField * twoTo q.mantissaBits / twoTo p.mantissaBits
      let quiet := twoTo (q.mantissaBits - 1)
      let bits := if leading / quiet % 2 = 1 then leading else leading + quiet
      ofSign q x.negative (q.exponentMask * twoTo q.mantissaBits + bits)

/-- A number stays as it is in its own precision. -/
theorem convert_self {p : Precision} (x : Binary p) : x.convert p = x := by
  rw [convert, dif_pos rfl]

/-- Whether the number is zero of either sign. -/
def isZero {p : Precision} (x : Binary p) : Bool :=
  match x.read with
  | .finite _ 0 _ => true
  | _ => false

end Binary

end RecordSql.Number
