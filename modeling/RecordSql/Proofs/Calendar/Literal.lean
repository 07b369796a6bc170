import RecordSql.Calendar.Reading
import RecordSql.Dialect.Literal
import RecordSql.Proofs.Text.Digits
import RecordSql.Value.Decode

/-!
# Dates and times that read back

A time of day is read back from its literal, with its fraction to the nanosecond. So are dates and timestamps, but for the years -999 to -1:
the sign takes one of the four characters of the year, and a reader wants four digits after it (`literal_read_iff`).
-/

namespace RecordSql

namespace Calendar

open Text

theorem expect_cons (c : Char) (cs : List Char) : expect c (c :: cs) = some cs :=
  if_pos rfl

/-- No digit stands at the start of a text. -/
def NoDigit (cs : List Char) : Prop :=
  ∀ c, cs.head? = some c → digitValue? c = none

variable {rest : List Char}

/-! ## Fractions of a second -/

/-- A run of digits ends where no digit follows, unless it is longer than the limit. -/
theorem digitRun_append {ds : List Char} (hds : ∀ c ∈ ds, (digitValue? c).isSome = true) (hrest : NoDigit rest) {limit : Nat}
    (hlimit : ds.length ≤ limit) : digitRun limit (ds ++ rest) = ds := by
  induction ds generalizing limit with
  | nil =>
    cases limit with
    | zero => rfl
    | succ limit =>
      cases rest with
      | nil => rfl
      | cons c cs =>
        rw [List.nil_append, digitRun, hrest c rfl]
        rfl
  | cons c ds ih =>
    cases limit with
    | zero => cases hlimit
    | succ limit =>
      rw [List.forall_mem_cons] at hds
      rw [List.cons_append, digitRun, if_pos hds.1, ih hds.2 (Nat.le_of_succ_le_succ hlimit)]

/-- The trimmed digits of a number are a field of some width that the number fills but for zeros at its end. -/
theorem exists_trimmedDigits (n width : Nat) : ∃ kept zeros, 1 ≤ kept ∧ kept + zeros = width + 1 ∧
    TimeOfDay.trimmedDigits n (width + 1) = fixedDigits kept (n / 10 ^ zeros) ∧ n / 10 ^ zeros * 10 ^ zeros = n := by
  induction width generalizing n with
  | zero => exact ⟨1, 0, Nat.le_refl 1, rfl, by simp [TimeOfDay.trimmedDigits], by simp⟩
  | succ width ih =>
    rw [TimeOfDay.trimmedDigits]
    by_cases hzero : n % 10 = 0
    · obtain ⟨kept, zeros, hkept, hwidth, hdigits, hvalue⟩ := ih (n / 10)
      rw [Nat.div_div_eq_div_mul, ← Nat.pow_succ'] at hdigits hvalue
      refine ⟨kept, zeros + 1, hkept, by omega, by rw [if_pos hzero, hdigits], ?_⟩
      calc n / 10 ^ (zeros + 1) * 10 ^ (zeros + 1) = n / 10 ^ (zeros + 1) * 10 ^ zeros * 10 := by rw [Nat.pow_succ, Nat.mul_assoc]
        _ = n / 10 * 10 := by rw [hvalue]
        _ = n := by omega
    · exact ⟨width + 2, 0, by omega, rfl, by rw [if_neg hzero, Nat.pow_zero, Nat.div_one], by simp⟩

/-- The digits after the point are one to nine, and stand for the nanoseconds with zeros behind them. -/
theorem exists_fraction (t : TimeOfDay) : ∃ value, t.fraction = fixedDigits t.fraction.length value ∧ value < 10 ^ t.fraction.length ∧
    1 ≤ t.fraction.length ∧ t.fraction.length ≤ 9 ∧ value * 10 ^ (9 - t.fraction.length) = t.nanosecond := by
  obtain ⟨kept, zeros, hkept, hwidth, hdigits, hvalue⟩ := exists_trimmedDigits t.nanosecond 8
  have hroom : t.nanosecond / 10 ^ zeros < 10 ^ kept := by
    rw [Nat.div_lt_iff_lt_mul (by positivity), ← Nat.pow_add, hwidth]
    exact t.nanosecond_lt
  have hfraction : t.fraction = fixedDigits kept (t.nanosecond / 10 ^ zeros) := hdigits
  have hlength : t.fraction.length = kept := by rw [hfraction, length_fixedDigits]
  have hzeros : 9 - kept = zeros := by omega
  rw [hlength, hzeros]
  exact ⟨t.nanosecond / 10 ^ zeros, hfraction, hroom, hkept, by omega, hvalue⟩

theorem length_fraction_le (t : TimeOfDay) : t.fraction.length ≤ 9 := by
  obtain ⟨_, -, -, -, hnine, -⟩ := exists_fraction t
  exact hnine

/-- A fraction of a second is read back before anything but a digit, by a reader whose limit it does not pass. -/
theorem nanoseconds_fraction (t : TimeOfDay) (hrest : NoDigit rest) {limit : Nat} (hlimit : t.fraction.length ≤ limit) :
    nanoseconds limit (t.fraction ++ rest) = some (t.nanosecond, rest) := by
  obtain ⟨value, hfraction, hroom, hone, hnine, hvalue⟩ := exists_fraction t
  have hdigits : ∀ c ∈ t.fraction, (digitValue? c).isSome = true := fun c hc => isSome_digitValue?_of_mem (hfraction ▸ hc)
  have hnonempty : t.fraction.isEmpty = false := by
    rw [List.isEmpty_eq_false_iff, ← List.length_pos_iff]
    exact hone
  have hread : digitsValue 0 t.fraction = some value :=
    hfraction ▸ (isNumeral_fixedDigits hroom).2
  rw [nanoseconds, digitRun_append hdigits hrest hlimit, hnonempty, if_neg Bool.false_ne_true, List.take_of_length_le hnine]
  dsimp only
  rw [hread, List.drop_left, Number.tenTo]
  exact congrArg (fun n => some (n, rest)) hvalue

/-! ## Times of day -/

/-- A time of day is read back before anything but a digit. -/
theorem timeWithFraction_literal (t : TimeOfDay) (hrest : NoDigit rest) : timeWithFraction (t.literal ++ rest) = some (t, rest) := by
  have hhour : t.hour < 10 ^ 2 := t.hour_lt.trans (by decide)
  have hminute : t.minute < 10 ^ 2 := t.minute_lt.trans (by decide)
  have hsecond : t.second < 10 ^ 2 := t.second_lt.trans (by decide)
  have hvalid : TimeOfDay.of? t.hour t.minute t.second t.nanosecond = some t :=
    dif_pos ⟨t.hour_lt, t.minute_lt, t.second_lt, t.nanosecond_lt⟩
  have hlimit : t.fraction.length ≤ fractionLimit := (length_fraction_le t).trans (by decide)
  simp only [timeWithFraction, hourMinute, TimeOfDay.literal, List.append_assoc, List.cons_append, readDigits_fixedDigits hhour,
    readDigits_fixedDigits hminute, readDigits_fixedDigits hsecond, expect_cons, nanoseconds_fraction t hrest hlimit, hvalid,
    Option.bind_eq_bind, Option.bind_some]

/-! ## Dates -/

/-- A month and a day are read back after their year. -/
theorem dayOf_literal (x : Date) (rest : List Char) :
    dayOf x.year ('-' :: fixedDigits 2 x.month ++ '-' :: fixedDigits 2 x.day ++ rest) = some (x, rest) := by
  obtain ⟨-, -, -, hmonth, -, hday⟩ := x.valid
  have hlength : Date.monthLength x.year x.month ≤ 31 := by
    unfold Date.monthLength
    split
    · split <;> decide
    · split <;> decide
  have hmonth : x.month < 10 ^ 2 := by omega
  have hday : x.day < 10 ^ 2 := by omega
  have hvalid : Date.of? x.year x.month x.day = some x := dif_pos x.valid
  simp only [dayOf, List.append_assoc, List.cons_append, readDigits_fixedDigits hmonth, readDigits_fixedDigits hday, expect_cons, hvalid,
    Option.bind_eq_bind, Option.bind_some]

/-- A year that starts with a digit has no sign. -/
theorem year_of_digit {c : Char} (hc : (digitValue? c).isSome = true) (cs : List Char) :
    year (c :: cs) = (readDigits 4 (c :: cs)).map fun (n, rest) => ((n : Int), rest) := by
  have hminus : c ≠ '-' := by
    rintro rfl
    cases hc
  have hplus : c ≠ '+' := by
    rintro rfl
    cases hc
  unfold year
  split
  · rename_i heq
    exact absurd (List.cons.inj heq).1 hminus
  · rename_i heq
    exact absurd (List.cons.inj heq).1 hplus
  · rfl

/-- A year of four digits is read back, with or without a sign. -/
theorem year_literalYear {y : Int} (hbound : y.natAbs < 10 ^ 4) (h : y ≤ -1000 ∨ 0 ≤ y) (rest : List Char) :
    year (Date.literalYear y ++ rest) = some (y, rest) := by
  by_cases hneg : y < 0
  · have hlong : ¬ y.natAbs < 1000 := by omega
    have hvalue : -(y.natAbs : Int) = y := by omega
    rw [Date.literalYear, if_pos hneg, if_neg hlong, List.cons_append, year, readDigits_fixedDigits hbound, Option.map_some]
    exact congrArg (fun y => some (y, rest)) hvalue
  · have hvalue : (y.natAbs : Int) = y := by omega
    have hread := readDigits_fixedDigits hbound rest
    rw [Date.literalYear, if_neg hneg]
    cases hdigits : fixedDigits 4 y.natAbs with
    | nil => cases (length_fixedDigits 4 y.natAbs).symm.trans (congrArg List.length hdigits)
    | cons c cs =>
      have hc : (digitValue? c).isSome = true := isSome_digitValue?_of_mem (hdigits ▸ List.mem_cons_self ..)
      rw [hdigits] at hread
      rw [List.cons_append, year_of_digit hc, ← List.cons_append, hread, Option.map_some]
      exact congrArg (fun y => some (y, rest)) hvalue

/-- A year of three digits after its sign is not read where a hyphen follows it. -/
theorem year_literalYear_short {y : Int} (hlow : -1000 < y) (hneg : y < 0) (rest : List Char) :
    year (Date.literalYear y ++ '-' :: rest) = none := by
  have hshort : y.natAbs < 1000 := by omega
  have htake : (fixedDigits 3 y.natAbs ++ '-' :: rest).take 4 = fixedDigits 3 y.natAbs ++ ['-'] := by
    rw [List.take_append, length_fixedDigits, List.take_of_length_le (by rw [length_fixedDigits]; decide)]
    rfl
  have hread : readDigits 4 (fixedDigits 3 y.natAbs ++ '-' :: rest) = none := by
    rw [readDigits, htake, digitsValue_append, digitsValue_fixedDigits]
    exact ite_self none
  rw [Date.literalYear, if_pos hneg, if_pos hshort, List.cons_append, year, hread]
  rfl

/-- A date is read back before anything, unless its year is short. -/
theorem date_literal {x : Date} (h : x.year ≤ -1000 ∨ 0 ≤ x.year) (rest : List Char) : date (x.literal ++ rest) = some (x, rest) := by
  obtain ⟨hlow, hhigh, -⟩ := x.valid
  have hbound : x.year.natAbs < 10 ^ 4 := by
    rw [Date.yearBound] at hlow hhigh
    omega
  have hyear := year_literalYear hbound h ('-' :: fixedDigits 2 x.month ++ '-' :: fixedDigits 2 x.day ++ rest)
  have hday := dayOf_literal x rest
  simp only [List.append_assoc, List.cons_append] at hyear hday
  simp only [date, Date.literal, List.append_assoc, List.cons_append, hyear, hday, Option.bind_eq_bind, Option.bind_some]

/-- A date of a short year is not read. -/
theorem date_literal_short {x : Date} (hlow : -1000 < x.year) (hneg : x.year < 0) (rest : List Char) : date (x.literal ++ rest) = none := by
  simp only [date, Date.literal, List.append_assoc, List.cons_append, year_literalYear_short hlow hneg, Option.bind_eq_bind, Option.bind_none]

/-! ## Timestamps -/

/-- A timestamp is read back from its literal when its day and its time are. -/
theorem timestamp_literal {t : Timestamp} (h : t.date.year ≤ -1000 ∨ 0 ≤ t.date.year) (mark : Char) (hrest : NoDigit rest) :
    timestamp mark timeWithFraction (t.literal mark ++ rest) = some (t, rest) := by
  simp only [timestamp, Timestamp.literal, List.append_assoc, List.cons_append, date_literal h, expect_cons,
    timeWithFraction_literal t.time hrest, Option.bind_eq_bind, Option.bind_some]

/-- A timestamp of a short year is not read in any format. -/
theorem timestamp_literal_short {t : Timestamp} (hlow : -1000 < t.date.year) (hneg : t.date.year < 0) (mark other : Char)
    (time : Reader TimeOfDay) : timestamp other time (t.literal mark) = none := by
  simp only [timestamp, Timestamp.literal, date_literal_short hlow hneg, Option.bind_eq_bind, Option.bind_none]

/-! ## Whole texts -/

variable {α : Type} {reader : Reader α} {cs : List Char}

/-- A reader that leaves nothing reads the whole text. -/
theorem whole_of_some {a : α} (h : reader cs = some (a, [])) : whole reader (String.ofList cs) = some a := by
  rw [whole, String.toList_ofList, h]

/-- A reader that does not read a text does not read all of it. -/
theorem whole_of_none (h : reader cs = none) : whole reader (String.ofList cs) = none := by
  rw [whole, String.toList_ofList, h]

theorem noDigit_nil : NoDigit [] :=
  nofun

theorem readDate?_literal {x : Date} (h : x.year ≤ -1000 ∨ 0 ≤ x.year) : readDate? (String.ofList x.literal) = some x := by
  have hread := date_literal h []
  rw [List.append_nil] at hread
  exact whole_of_some hread

theorem readDate?_literal_short {x : Date} (hlow : -1000 < x.year) (hneg : x.year < 0) : readDate? (String.ofList x.literal) = none := by
  have hread := date_literal_short hlow hneg []
  rw [List.append_nil] at hread
  exact whole_of_none hread

theorem readTimestamp?_literal {t : Timestamp} (h : t.date.year ≤ -1000 ∨ 0 ≤ t.date.year) :
    readTimestamp? (String.ofList (t.literal 'T')) = some t := by
  have hread := timestamp_literal h 'T' noDigit_nil
  rw [List.append_nil] at hread
  rw [readTimestamp?, whole_of_some hread]
  rfl

theorem readTimestamp?_literal_short {t : Timestamp} (hlow : -1000 < t.date.year) (hneg : t.date.year < 0) :
    readTimestamp? (String.ofList (t.literal 'T')) = none := by
  have hnone : ∀ mark time, whole (timestamp mark time) (String.ofList (t.literal 'T')) = none := fun mark time =>
    whole_of_none (timestamp_literal_short hlow hneg 'T' mark time)
  rw [readTimestamp?, hnone, hnone, hnone, hnone]
  rfl

end Calendar

/-- What succeeds for the years of four digits and fails for the others succeeds exactly for the former. -/
theorem eq_ok_iff_of_year {y : Int} {answer : Except Fault Scalar} {s : Scalar} {fault : Fault}
    (hread : y ≤ -1000 ∨ 0 ≤ y → answer = .ok s) (hshort : -1000 < y → y < 0 → answer = .error fault) :
    answer = .ok s ↔ y ≤ -1000 ∨ 0 ≤ y := by
  refine ⟨fun h => ?_, hread⟩
  by_contra hyear
  rw [hshort (by omega) (by omega)] at h
  cases h

/-- In every dialect the literal of a date, and that of a timestamp, is a text between apostrophes. A text column that holds it decodes to
the date or timestamp exactly when the year is not one of -999 to -1; in these years the text denotes nothing. -/
theorem literal_read_iff (d : Dialect) :
    (∀ x : Date, ∃ text, d.literal (.of (.date x)) = .ok ("'" ++ text ++ "'") ∧
      ((Value.varchar text).decode .date = .ok (.date x) ↔ x.year ≤ -1000 ∨ 0 ≤ x.year) ∧
      (-1000 < x.year → x.year < 0 → (Value.varchar text).decode .date = .error (.unreadable text .date))) ∧
    ∀ t : Timestamp, ∃ text, d.literal (.of (.timestamp t)) = .ok ("'" ++ text ++ "'") ∧
      ((Value.varchar text).decode .timestamp = .ok (.timestamp t) ↔ t.date.year ≤ -1000 ∨ 0 ≤ t.date.year) ∧
      (-1000 < t.date.year → t.date.year < 0 →
        (Value.varchar text).decode .timestamp = .error (.unreadable text .timestamp)) := by
  constructor
  · intro x
    have hread : x.year ≤ -1000 ∨ 0 ≤ x.year → (Value.varchar (String.ofList x.literal)).decode .date = .ok (.date x) := by
      intro h
      rw [Value.varchar, Value.decode, Value.toDate, Calendar.readDate?_literal h]
      rfl
    have hshort : -1000 < x.year → x.year < 0 →
        (Value.varchar (String.ofList x.literal)).decode .date = .error (.unreadable (String.ofList x.literal) .date) := by
      intro hlow hneg
      rw [Value.varchar, Value.decode, Value.toDate, Calendar.readDate?_literal_short hlow hneg]
      rfl
    exact ⟨String.ofList x.literal, rfl, eq_ok_iff_of_year hread hshort, hshort⟩
  · intro t
    have hread : t.date.year ≤ -1000 ∨ 0 ≤ t.date.year →
        (Value.varchar (String.ofList (t.literal 'T'))).decode .timestamp = .ok (.timestamp t) := by
      intro h
      rw [Value.varchar, Value.decode, Value.toTimestamp, Calendar.readTimestamp?_literal h]
      rfl
    have hshort : -1000 < t.date.year → t.date.year < 0 → (Value.varchar (String.ofList (t.literal 'T'))).decode .timestamp =
        .error (.unreadable (String.ofList (t.literal 'T')) .timestamp) := by
      intro hlow hneg
      rw [Value.varchar, Value.decode, Value.toTimestamp, Calendar.readTimestamp?_literal_short hlow hneg]
      rfl
    exact ⟨String.ofList (t.literal 'T'), rfl, eq_ok_iff_of_year hread hshort, hshort⟩

/-- The date of the year -44 is written with three digits after its sign, and what is written does not decode. -/
theorem literal_short_year_unread :
    ∃ x : Date, x.year = -44 ∧ x.month = 3 ∧ x.day = 15 ∧ (∀ d : Dialect, d.literal (.of (.date x)) = .ok "'-044-03-15'") ∧
      (Value.varchar "-044-03-15").decode .date = .error (.unreadable "-044-03-15" .date) := by
  have hunread : Calendar.readDate? "-044-03-15" = none := by decide
  refine ⟨⟨-44, 3, 15, by decide⟩, rfl, rfl, rfl, fun d => congrArg Except.ok (by decide), ?_⟩
  rw [Value.varchar, Value.decode, Value.toDate, hunread]
  rfl

end RecordSql
