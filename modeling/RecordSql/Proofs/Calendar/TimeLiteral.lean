import RecordSql.Proofs.Calendar.Literal

/-!
# Literals of times of day

The literal of a time of day holds its hour, minute and second in two digits each and a fraction of one to nine digits. It is read back as
the same time (`readTime?_literal`), and no shorter fraction denotes the same nanoseconds (`length_fraction_le_of_denotes`), since it does
not end in a zero unless that is all of it.
-/

namespace RecordSql

namespace Text

/-- The last digit of a field is that of the number. -/
theorem getLast?_fixedDigits (width n : Nat) : (fixedDigits (width + 1) n).getLast? = some (Char.ofNat (48 + n % 10)) := by
  rw [fixedDigits, List.getLast?_concat]

/-- Only zero has the digit `0`. -/
theorem digit_eq_zero_iff {n : Nat} (h : n < 10) : Char.ofNat (48 + n) = '0' ↔ n = 0 := by
  constructor
  · intro hzero
    have hvalue := digitValue?_digit h
    rw [hzero] at hvalue
    exact (Option.some.inj hvalue).symm
  · rintro rfl
    rfl

end Text

namespace TimeOfDay

open Text

/-- Trimmed digits do not end in a zero, unless it is the only digit. -/
theorem eq_zero_of_getLast? {n width : Nat} (h : (trimmedDigits n (width + 1)).getLast? = some '0') :
    trimmedDigits n (width + 1) = ['0'] := by
  induction width generalizing n with
  | zero =>
    rw [trimmedDigits, getLast?_fixedDigits, Option.some.injEq] at h
    rw [trimmedDigits, fixedDigits, h]
    rfl
  | succ width ih =>
    rw [trimmedDigits] at h ⊢
    by_cases hzero : n % 10 = 0
    · rw [if_pos hzero] at h ⊢
      exact ih h
    · rw [if_neg hzero, getLast?_fixedDigits, Option.some.injEq, digit_eq_zero_iff (Nat.mod_lt n (by decide))] at h
      exact absurd h hzero

/-- No shorter run of digits stands for the same nanoseconds. -/
theorem length_fraction_le_of_denotes {t : TimeOfDay} {digits : List Char} {value : Nat}
    (hdenotes : value * 10 ^ (9 - digits.length) = t.nanosecond) (hne : 1 ≤ digits.length) : t.fraction.length ≤ digits.length := by
  by_contra hshort
  obtain ⟨written, hfraction, -, -, hnine, hvalue⟩ := Calendar.exists_fraction t
  obtain ⟨k, hlength⟩ : ∃ k, t.fraction.length = digits.length + k + 1 := ⟨t.fraction.length - digits.length - 1, by omega⟩
  -- the shorter run leaves room for a zero at the end of the written one
  have hwritten : written = value * 10 ^ k * 10 := by
    have hzeros : 9 - digits.length = k + 1 + (9 - t.fraction.length) := by omega
    rw [← hdenotes, hzeros, Nat.pow_add, ← Nat.mul_assoc] at hvalue
    rw [Nat.eq_of_mul_eq_mul_right (by positivity) hvalue, Nat.pow_succ, Nat.mul_assoc]
  have hlast : t.fraction.getLast? = some '0' := by
    rw [hfraction, hlength, getLast?_fixedDigits, hwritten, Nat.mul_mod_left]
  have hone : t.fraction = ['0'] := eq_zero_of_getLast? hlast
  rw [hone, List.length_singleton] at hlength
  omega

end TimeOfDay

theorem Calendar.readTime?_literal (t : TimeOfDay) : Calendar.readTime? (String.ofList t.literal) = some t := by
  have hread := timeWithFraction_literal t noDigit_nil
  rw [List.append_nil] at hread
  rw [readTime?, whole_of_some hread]
  rfl

/-- A text column that holds the literal of a time decodes to this time. -/
theorem Value.decode_timeLiteral (t : TimeOfDay) : (Value.varchar (String.ofList t.literal)).decode .time = .ok (.time t) := by
  rw [Value.varchar, Value.decode, Value.toTime, Calendar.readTime?_literal]
  rfl

/-- In every dialect the literal of a time of day stands between apostrophes: hour, minute and second with two digits each, and behind a
point one to nine digits, of which the last is not a zero unless it is the only one. With zeros up to the ninth digit they stand for the
nanoseconds, and no shorter run of digits does. The text decodes to the same time, so that no other time is written like it. -/
theorem timeLiteral_exact (d : Dialect) (t : TimeOfDay) :
    ∃ (text : String) (hour minute second fraction : List Char),
      d.literal (.of (.time t)) = .ok ("'" ++ text ++ "'") ∧
        text.toList = hour ++ ':' :: minute ++ ':' :: second ++ '.' :: fraction ∧
        Text.IsNumeral 2 t.hour hour ∧ Text.IsNumeral 2 t.minute minute ∧ Text.IsNumeral 2 t.second second ∧
        1 ≤ fraction.length ∧ fraction.length ≤ 9 ∧ (fraction.getLast? = some '0' → fraction = ['0']) ∧
        (∃ value, Text.IsNumeral fraction.length value fraction ∧ value * 10 ^ (9 - fraction.length) = t.nanosecond) ∧
        (∀ digits value, Text.IsNumeral digits.length value digits → 1 ≤ digits.length →
          value * 10 ^ (9 - digits.length) = t.nanosecond → fraction.length ≤ digits.length) ∧
        (Value.varchar text).decode .time = .ok (.time t) ∧
        ∀ u, d.literal (.of (.time u)) = .ok ("'" ++ text ++ "'") → u = t := by
  have hhour : t.hour < 10 ^ 2 := t.hour_lt.trans (by decide)
  have hminute : t.minute < 10 ^ 2 := t.minute_lt.trans (by decide)
  have hsecond : t.second < 10 ^ 2 := t.second_lt.trans (by decide)
  obtain ⟨value, hfraction, hroom, hone, hnine, hvalue⟩ := Calendar.exists_fraction t
  refine ⟨String.ofList t.literal, Text.fixedDigits 2 t.hour, Text.fixedDigits 2 t.minute, Text.fixedDigits 2 t.second, t.fraction, rfl,
    ?_, Text.isNumeral_fixedDigits hhour, Text.isNumeral_fixedDigits hminute, Text.isNumeral_fixedDigits hsecond, hone, hnine,
    TimeOfDay.eq_zero_of_getLast?, ⟨value, ?_, hvalue⟩, ?_, Value.decode_timeLiteral t, ?_⟩
  · rw [String.toList_ofList, TimeOfDay.literal]
  · have hnumeral := Text.isNumeral_fixedDigits hroom
    rwa [← hfraction] at hnumeral
  · intro digits value _ hne hdenotes
    exact TimeOfDay.length_fraction_le_of_denotes hdenotes hne
  · intro u hu
    have htext : String.ofList u.literal = String.ofList t.literal := by
      have hquoted := Except.ok.inj hu
      rw [Dialect.plainLiteral] at hquoted
      simpa using hquoted
    have hdecode := Value.decode_timeLiteral u
    rw [htext, Value.decode_timeLiteral, Except.ok.injEq, Scalar.time.injEq] at hdecode
    exact hdecode.symm

end RecordSql
