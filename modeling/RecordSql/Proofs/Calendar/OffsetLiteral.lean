import RecordSql.Dialect.Table
import RecordSql.Proofs.Calendar.Instant
import RecordSql.Proofs.Calendar.Literal
import RecordSql.Proofs.Logged
import RecordSql.Row

/-!
# Timestamps with an offset that do not read back

The literal of a timestamp with an offset is the one of its clock in universal time. A reader of such timestamps wants an offset after the
seconds and finds none, so no literal is read (`readOffsetTimestamp?_literal`), although the instant is the right one: with the mark of
universal time at its end the literal is read as the same instant, in the years that have no sign (`offsetLiteral_unread`).
-/

namespace RecordSql

namespace Calendar

open Text

variable {rest : List Char} {u : Timestamp}

theorem optionalFraction_literal (t : TimeOfDay) (hrest : NoDigit rest) :
    optionalFraction ('.' :: (t.fraction ++ rest)) = some (t.nanosecond, rest) := by
  refine nanoseconds_fraction t hrest ?_
  rw [List.length_append]
  omega

/-- In a year without a sign, what follows the literal of a timestamp is read as its offset. -/
theorem offsetTimestamp_literal (h : 0 ≤ u.date.year) (hrest : NoDigit rest) :
    offsetTimestamp (u.literal 'T' ++ rest) =
      (offset rest).bind fun (shift, cs) => (OffsetTimestamp.of? u shift).bind fun t => some (t, cs) := by
  obtain ⟨-, hhigh, -⟩ := u.date.valid
  have hyear : u.date.year.natAbs < 10 ^ 4 := by
    rw [Date.yearBound] at hhigh
    omega
  have hvalue : (u.date.year.natAbs : Int) = u.date.year := by omega
  have hday := dayOf_literal u.date
  have hhour : u.time.hour < 10 ^ 2 := u.time.hour_lt.trans (by decide)
  have hminute : u.time.minute < 10 ^ 2 := u.time.minute_lt.trans (by decide)
  have hsecond : u.time.second < 10 ^ 2 := u.time.second_lt.trans (by decide)
  have hvalid : TimeOfDay.of? u.time.hour u.time.minute u.time.second u.time.nanosecond = some u.time :=
    dif_pos ⟨u.time.hour_lt, u.time.minute_lt, u.time.second_lt, u.time.nanosecond_lt⟩
  have hleap : u.time.second ≠ 60 := u.time.second_lt.ne
  have hmark : ¬ 'T'.utf8Size ≠ 1 := by decide
  simp only [List.append_assoc, List.cons_append] at hday
  simp only [offsetTimestamp, hourMinute, Timestamp.literal, Date.literal, Date.literalYear, if_neg (Int.not_lt.mpr h), TimeOfDay.literal,
    List.append_assoc, List.cons_append, readDigits_fixedDigits hyear, hvalue, hday, readDigits_fixedDigits hhour,
    readDigits_fixedDigits hminute, readDigits_fixedDigits hsecond, expect_cons, optionalFraction_literal u.time hrest, hvalid, if_neg hleap,
    if_neg hmark, Option.bind_eq_bind, Option.bind_some]

/-- A timestamp in a year with a sign is not read, whatever follows it. -/
theorem offsetTimestamp_literal_neg (h : u.date.year < 0) (rest : List Char) : offsetTimestamp (u.literal 'T' ++ rest) = none := by
  have hread : ∀ cs, readDigits 4 ('-' :: cs) = none := by
    intro cs
    rw [readDigits]
    exact ite_self none
  simp only [offsetTimestamp, Timestamp.literal, Date.literal, Date.literalYear, if_pos h, List.append_assoc, List.cons_append, hread,
    Option.bind_eq_bind, Option.bind_none]

/-- The literal of a timestamp is never read as a timestamp with an offset. -/
theorem readOffsetTimestamp?_literal (u : Timestamp) : readOffsetTimestamp? (String.ofList (u.literal 'T')) = none := by
  refine whole_of_none ?_
  rw [← List.append_nil (u.literal 'T')]
  by_cases h : u.date.year < 0
  · exact offsetTimestamp_literal_neg h []
  · rw [offsetTimestamp_literal (Int.not_lt.mp h) noDigit_nil]
    rfl

/-- With the mark of universal time after it, the literal of a timestamp is read when its year has no sign. -/
theorem readOffsetTimestamp?_marked (u : Timestamp) : readOffsetTimestamp? (String.ofList (u.literal 'T') ++ "Z") =
    if 0 ≤ u.date.year then some (.ofUniversal u) else none := by
  have htext : String.ofList (u.literal 'T') ++ "Z" = String.ofList (u.literal 'T' ++ ['Z']) := by
    rw [String.ofList_append]
  rw [htext]
  split
  · rename_i h
    have hletter : NoDigit ['Z'] := by
      intro c hc
      cases hc
      rfl
    refine whole_of_some ?_
    rw [offsetTimestamp_literal h hletter]
    rfl
  · rename_i h
    exact whole_of_none (offsetTimestamp_literal_neg (Int.not_le.mp h) ['Z'])

end Calendar

/-- In SQLite a timestamp with an offset is written as its clock in universal time shows. -/
theorem Dialect.literal_offsetTimestamp {t : OffsetTimestamp} {u : Timestamp} (h : t.universal? = some u) :
    sqlite.literal (.of (.offsetTimestamp t)) = .ok ("'" ++ String.ofList (u.literal 'T') ++ "'") := by
  rw [literal, scalarLiteral, offsetTimestampLiteral, h]
  rfl

/-- In SQLite a default value that is a timestamp with an offset is written as a text between apostrophes. No row that holds this text in a
column gives it back: decoding fails, because the text has no offset. Nothing but the offset is missing. With `Z` at its end the text
decodes to a timestamp of the same instant, whatever day the offset moves it to, unless its year in universal time has a sign. -/
theorem offsetLiteral_unread (t : OffsetTimestamp) {u : Timestamp} (h : t.universal? = some u) :
    ∃ text, Dialect.sqlite.literal (.of (.offsetTimestamp t)) = .ok ("'" ++ text ++ "'") ∧
      (∀ f : Field, f.defaultValue = some (.of (.offsetTimestamp t)) →
        (Dialect.sqlite.defaultClause f).outcome.1 = .ok (" DEFAULT '" ++ text ++ "'")) ∧
      (∀ (r : Row) label optional, r.column? label = .ok (some (.varchar text)) → r.get label .offsetTimestamp optional =
        .error (.failed (.during (.decodingColumn label) (.unreadable text .offsetTimestamp)))) ∧
      ((∃ s, (Value.varchar (text ++ "Z")).decode .offsetTimestamp = .ok (.offsetTimestamp s) ∧ s.instant = t.instant) ↔
        0 ≤ u.date.year) := by
  have hliteral := Dialect.literal_offsetTimestamp h
  refine ⟨String.ofList (u.literal 'T'), hliteral, ?_, ?_, ?_⟩
  · intro f hf
    have hclause : (Dialect.sqlite.defaultClause f).Yields (.ok (" DEFAULT " ++ ("'" ++ String.ofList (u.literal 'T') ++ "'"))) := by
      rw [Dialect.defaultClause, hf]
      dsimp only
      rw [hliteral]
      exact .bind (.ofExcept _) (.pure _)
    have hwords : " DEFAULT '" = " DEFAULT " ++ "'" := by decide
    rw [hclause.outcome, hwords]
    simp only [String.append_assoc]
  · intro r label optional hcolumn
    have hdecode : (Value.varchar (String.ofList (u.literal 'T'))).decode .offsetTimestamp =
        .error (.unreadable (String.ofList (u.literal 'T')) .offsetTimestamp) := by
      rw [Value.varchar, Value.decode, Value.toOffsetTimestamp, Calendar.readOffsetTimestamp?_literal]
      rfl
    have hfield : (Value.varchar (String.ofList (u.literal 'T'))).decodeField .offsetTimestamp optional =
        .error (.unreadable (String.ofList (u.literal 'T')) .offsetTimestamp) := by
      rw [Value.decodeField, hdecode]
      cases optional <;> rfl
    rw [Row.get, hcolumn]
    dsimp only
    rw [hfield]
  · rw [Value.varchar, Value.decode, Value.toOffsetTimestamp, Calendar.readOffsetTimestamp?_marked]
    by_cases hyear : 0 ≤ u.date.year
    · rw [if_pos hyear]
      exact iff_of_true ⟨.ofUniversal u, rfl, OffsetTimestamp.instant_ofUniversal h⟩ hyear
    · rw [if_neg hyear]
      refine iff_of_false ?_ hyear
      rintro ⟨s, hs, -⟩
      cases hs

/-- Half past midnight on New Year's Day of 2024, two hours ahead of universal time, is in the year 2023 there. As a default value it is not
given back, and has only its offset missing. -/
theorem offsetLiteral_unread_newYear :
    ∃ t u text, t.clock.text = "2024-01-01 0:30:00.0" ∧ t.offset = 7200 ∧ t.universal? = some u ∧ u.date.year = 2023 ∧
      Dialect.sqlite.literal (.of (.offsetTimestamp t)) = .ok ("'" ++ text ++ "'") ∧
      (Row.mk ["at"] [.varchar text]).get "at" .offsetTimestamp false =
        .error (.failed (.during (.decodingColumn "at") (.unreadable text .offsetTimestamp))) ∧
      ∃ s, (Value.varchar (text ++ "Z")).decode .offsetTimestamp = .ok (.offsetTimestamp s) ∧ s.instant = t.instant := by
  let t : OffsetTimestamp :=
    ⟨⟨⟨2024, 1, 1, by decide⟩, ⟨0, 30, 0, 0, by decide, by decide, by decide, by decide⟩⟩, 7200, by decide⟩
  have huniversal : t.universal? =
      some ⟨⟨2023, 12, 31, by decide⟩, ⟨22, 30, 0, 0, by decide, by decide, by decide, by decide⟩⟩ := by decide
  obtain ⟨text, hliteral, -, hrow, hmarked⟩ := offsetLiteral_unread t huniversal
  exact ⟨t, _, text, by decide, rfl, huniversal, rfl, hliteral, hrow _ "at" false rfl, hmarked.mpr (by decide)⟩

/-- Noon of 2024-02-29 in universal time is written without an offset, and what is written decodes to no timestamp with an offset. -/
theorem offsetLiteral_not_read_back :
    ∃ t, t.clock.text = "2024-02-29 12:00:00.0" ∧ t.offset = 0 ∧
      Dialect.sqlite.literal (.of (.offsetTimestamp t)) = .ok "'2024-02-29T12:00:00.0'" ∧
      ¬ ∃ s, (Value.varchar "2024-02-29T12:00:00.0").decode .offsetTimestamp = .ok (.offsetTimestamp s) ∧ s.instant = t.instant := by
  let t : OffsetTimestamp :=
    ⟨⟨⟨2024, 2, 29, by decide⟩, ⟨12, 0, 0, 0, by decide, by decide, by decide, by decide⟩⟩, 0, by decide⟩
  have huniversal : t.universal? = some t.clock := by decide
  have hunread : Calendar.readOffsetTimestamp? "2024-02-29T12:00:00.0" = none := by decide
  refine ⟨t, by decide, rfl, (Dialect.literal_offsetTimestamp huniversal).trans (congrArg Except.ok (by decide)), ?_⟩
  rintro ⟨s, hs, -⟩
  rw [Value.varchar, Value.decode, Value.toOffsetTimestamp, hunread] at hs
  cases hs

end RecordSql
