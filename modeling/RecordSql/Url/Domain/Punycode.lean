import RecordSql.Number.Power

/-!
# Punycode

How a label with characters outside ASCII is written in ASCII: its ASCII characters, a hyphen if there are any, and then numbers that
say which character goes where, the lower ones first. A number is written with 36 digits, the lowest place first. The place of a digit
and the numbers before decide from which value on a digit is not the last one.
-/

namespace RecordSql.Url.Punycode

/-- The value of a digit: the letters, and after them the digits of decimal notation. -/
def digit? (c : Char) : Option Nat :=
  if 'a' ≤ c ∧ c ≤ 'z' then some (c.toNat - 97)
  else if 'A' ≤ c ∧ c ≤ 'Z' then some (c.toNat - 65)
  else if '0' ≤ c ∧ c ≤ '9' then some (c.toNat - 22)
  else none

/-- The value from which on a digit is not the last one of its number. -/
def threshold (bias place : Nat) : Nat :=
  min 26 (max 1 (place - bias))

/-- The parameter of the thresholds for a number that is about as large as the one before. -/
def biasFrom (delta bias : Nat) : Nat :=
  if 455 < delta then biasFrom (delta / 35) (bias + 36) else bias + 36 * delta / (delta + 38)
termination_by delta
decreasing_by exact Nat.div_lt_self (by omega) (by omega)

/-- The parameter of the thresholds after the number `delta`, which placed the last of `count` characters. -/
def adapt (delta count : Nat) (isFirst : Bool) : Nat :=
  let scaled := if isFirst then delta / 700 else delta / 2
  biasFrom (scaled + scaled / count) 0

/-- What has been decoded of a label. -/
structure Decoding where
  text : List Char
  /-- The code point of the last character placed. -/
  code : Nat
  bias : Nat
  /-- Where the number that is being read starts to count. -/
  start : Nat
  /-- The start and the digits read of the number. -/
  sum : Nat
  weight : Nat
  place : Nat

/-- The bound on the numbers of a label. -/
def bound : Nat := Number.twoTo 32

/-- The state after a digit. -/
def Decoding.step (s : Decoding) (c : Char) : Option Decoding := do
  let digit ← digit? c
  let sum := s.sum + digit * s.weight
  let limit := threshold s.bias s.place
  if bound ≤ sum then none
  else if limit ≤ digit then
    let weight := s.weight * (36 - limit)
    if bound ≤ weight then none else some { s with sum := sum, weight := weight, place := s.place + 36 }
  else
    let count := s.text.length + 1
    let code := s.code + sum / count
    let index := sum % count
    if Nat.isValidChar code then
      some ⟨s.text.insertIdx index (Char.ofNat code), code, adapt (sum - s.start) count (s.start == 0), index + 1, index + 1, 1, 36⟩
    else
      none

/-- The text that the ASCII form of a label denotes. The last number must be complete. -/
def decode? (cs : List Char) : Option (List Char) := do
  let numbers := (cs.reverse.takeWhile (· != '-')).reverse
  let plain := cs.take (cs.length - numbers.length - 1)
  if (plain.isEmpty && numbers.length < cs.length) || plain.any (128 ≤ ·.toNat) then none
  let last ← numbers.foldlM Decoding.step ⟨plain, 128, 72, 0, 0, 1, 36⟩
  if last.place = 36 then some last.text else none

end RecordSql.Url.Punycode
