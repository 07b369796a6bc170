import Mathlib.Tactic.IntervalCases
import Mathlib.Tactic.Ring
import RecordSql.Text.Digits

/-!
# Digits that read back

A number that is written in a field of fixed width is read back from the field, whatever follows it (`readDigits_fixedDigits`).
-/

namespace RecordSql.Text

/-- The digit of a number below ten has the number as its value. -/
theorem digitValue?_digit {n : Nat} (h : n < 10) : digitValue? (Char.ofNat (48 + n)) = some n := by
  interval_cases n <;> rfl

theorem length_fixedDigits (width n : Nat) : (fixedDigits width n).length = width := by
  induction width generalizing n with
  | zero => rfl
  | succ width ih => rw [fixedDigits, List.length_append, ih, List.length_singleton]

/-- A field of fixed width holds digits only. -/
theorem isSome_digitValue?_of_mem {width n : Nat} {c : Char} (h : c ∈ fixedDigits width n) : (digitValue? c).isSome = true := by
  induction width generalizing n with
  | zero => cases h
  | succ width ih =>
    rcases List.mem_append.mp h with h | h
    · exact ih h
    · rw [List.mem_singleton.mp h, digitValue?_digit (Nat.mod_lt n (by decide))]
      rfl

/-- Digits are read one run after the other. -/
theorem digitsValue_append (n : Nat) (cs ds : List Char) :
    digitsValue n (cs ++ ds) = (digitsValue n cs).bind fun m => digitsValue m ds := by
  induction cs generalizing n with
  | nil => rfl
  | cons c cs ih =>
    rw [List.cons_append, digitsValue, digitsValue]
    cases digitValue? c with
    | none => rfl
    | some digit => exact ih _

/-- A field of fixed width adds the last digits of the number to those before it. -/
theorem digitsValue_fixedDigits (m width n : Nat) :
    digitsValue m (fixedDigits width n) = some (m * 10 ^ width + n % 10 ^ width) := by
  induction width generalizing n with
  | zero => simp [fixedDigits, digitsValue, Nat.mod_one]
  | succ width ih =>
    have hlast : ∀ k, digitsValue k [Char.ofNat (48 + n % 10)] = some (k * 10 + n % 10) := by
      intro k
      rw [digitsValue, digitValue?_digit (Nat.mod_lt n (by decide))]
      rfl
    rw [fixedDigits, digitsValue_append, ih, Option.bind_some, hlast, Option.some.injEq]
    calc (m * 10 ^ width + n / 10 % 10 ^ width) * 10 + n % 10
        = m * (10 ^ width * 10) + (n % 10 + 10 * (n / 10 % 10 ^ width)) := by ring
      _ = m * 10 ^ (width + 1) + n % 10 ^ (width + 1) := by
        rw [← Nat.mod_mul, ← Nat.pow_succ, ← Nat.pow_succ']

/-- Digits of a field of the given width that stand for a number. -/
def IsNumeral (width value : Nat) (digits : List Char) : Prop :=
  digits.length = width ∧ digitsValue 0 digits = some value

/-- A number that has room in a field is written in it. -/
theorem isNumeral_fixedDigits {width n : Nat} (h : n < 10 ^ width) : IsNumeral width n (fixedDigits width n) := by
  refine ⟨length_fixedDigits width n, ?_⟩
  rw [digitsValue_fixedDigits, Nat.zero_mul, Nat.zero_add, Nat.mod_eq_of_lt h]

/-- A number that has room in a field is read back from it. -/
theorem readDigits_fixedDigits {width n : Nat} (h : n < 10 ^ width) (rest : List Char) :
    readDigits width (fixedDigits width n ++ rest) = some (n, rest) := by
  have htake : (fixedDigits width n ++ rest).take width = fixedDigits width n := List.take_left' (length_fixedDigits width n)
  have hdrop : (fixedDigits width n ++ rest).drop width = rest := List.drop_left' (length_fixedDigits width n)
  rw [readDigits, htake, hdrop, if_pos (length_fixedDigits width n), (isNumeral_fixedDigits h).2]
  rfl

end RecordSql.Text
