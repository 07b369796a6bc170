import Mathlib.Tactic.Ring
import RecordSql.Calendar.Timestamp

/-!
# Days, seconds and instants

The day after a day has the next number, over the ends of months and years, so a day some days later has a number that is larger by as many
(`dayNumber_addDays?`). From this a timestamp some seconds later counts as many seconds more (`seconds_addSeconds?`), and a timestamp with an
offset names the instant that its form in universal time names (`instant_ofUniversal`).
-/

namespace RecordSql

namespace Date

theorem eq_of_of? {y : Int} {m day : Nat} {d : Date} (h : of? y m day = some d) : d.year = y ∧ d.month = m ∧ d.day = day := by
  unfold of? at h
  split at h
  · cases h
    exact ⟨rfl, rfl, rfl⟩
  · cases h

/-- The days before December and those of December are the days of a year. -/
theorem daysBeforeMonth_december (y : Int) : (daysBeforeMonth y 12 + 31 : Int) = 365 + if isLeap y then 1 else 0 := by
  cases h : isLeap y <;> simp [daysBeforeMonth, monthLength, h]

/-- The leap days before a year are those before the year before it, and the leap day of that year. -/
theorem leapDays_succ (y : Int) : (y + 1 - 1) / 4 - (y + 1 - 1) / 100 + (y + 1 - 1) / 400 =
    (y - 1) / 4 - (y - 1) / 100 + (y - 1) / 400 + if isLeap y then 1 else 0 := by
  have hleap : isLeap y = true ↔ y % 4 = 0 ∧ (y % 100 ≠ 0 ∨ y % 400 = 0) := by
    simp [isLeap]
  by_cases h : isLeap y = true
  · rw [if_pos h]
    rw [hleap] at h
    omega
  · rw [if_neg h]
    rw [hleap] at h
    omega

/-- The first day of a year follows the last day of the year before. -/
theorem dayNumber_newYear {d e : Date} (hd : d.month = 12 ∧ d.day = 31) (he : e.year = d.year + 1 ∧ e.month = 1 ∧ e.day = 1) :
    e.dayNumber = d.dayNumber + 1 := by
  have hyear := daysBeforeMonth_december d.year
  have hleap := leapDays_succ d.year
  have hjanuary : daysBeforeMonth (d.year + 1) 1 = 0 := rfl
  simp only [dayNumber, he.1, he.2.1, he.2.2, hd.1, hd.2, hjanuary]
  generalize (if isLeap d.year then (1 : Int) else 0) = leapDay at hyear hleap
  omega

/-- The first day of a month follows the last day of the month before. -/
theorem dayNumber_newMonth {d e : Date} (hd : d.day = monthLength d.year d.month)
    (he : e.year = d.year ∧ e.month = d.month + 1 ∧ e.day = 1) : e.dayNumber = d.dayNumber + 1 := by
  have hmonth : 1 ≤ d.month := d.valid.2.2.1
  obtain ⟨m, hm⟩ := Nat.exists_eq_add_of_le' hmonth
  simp only [dayNumber, he.1, he.2.1, he.2.2, hd, hm, daysBeforeMonth]
  omega

/-- A day follows the one before it in its month. -/
theorem dayNumber_day {d e : Date} (he : e.year = d.year ∧ e.month = d.month ∧ e.day = d.day + 1) : e.dayNumber = d.dayNumber + 1 := by
  simp only [dayNumber, he.1, he.2.1, he.2.2]
  omega

theorem isMonthEnd_iff {d : Date} : d.isMonthEnd = true ↔ d.day = monthLength d.year d.month := by
  rw [isMonthEnd, beq_iff_eq]

/-- The day after a day has the next number. -/
theorem dayNumber_next? {d e : Date} (h : d.next? = some e) : e.dayNumber = d.dayNumber + 1 := by
  unfold next? at h
  split at h
  · rename_i hend
    rw [isMonthEnd_iff] at hend
    split at h
    · rename_i hmonth
      refine dayNumber_newYear ⟨hmonth, ?_⟩ (eq_of_of? h)
      rw [hend, hmonth]
      rfl
    · exact dayNumber_newMonth hend (eq_of_of? h)
  · exact dayNumber_day (eq_of_of? h)

/-- The day before a day has the number before. -/
theorem dayNumber_previous? {d e : Date} (h : d.previous? = some e) : e.dayNumber = d.dayNumber - 1 := by
  have hmonth : 1 ≤ d.month := d.valid.2.2.1
  have hday : 1 ≤ d.day := d.valid.2.2.2.2.1
  suffices hnext : d.dayNumber = e.dayNumber + 1 by omega
  unfold previous? at h
  split at h
  · rename_i hfirst
    split at h
    · rename_i hjanuary
      obtain ⟨hy, hm, hlast⟩ := eq_of_of? h
      exact dayNumber_newYear ⟨hm, hlast⟩ ⟨by omega, hjanuary, hfirst⟩
    · obtain ⟨hy, hm, hlast⟩ := eq_of_of? h
      exact dayNumber_newMonth (by rw [hlast, hy, hm]) ⟨hy.symm, by omega, hfirst⟩
  · obtain ⟨hy, hm, hbefore⟩ := eq_of_of? h
    exact dayNumber_day ⟨hy.symm, hm.symm, by omega⟩

/-- Steps that each change the number of a day by as much change it by that much together. -/
theorem dayNumber_repeat {step : Date → Option Date} {change : Int}
    (hstep : ∀ {d e}, step d = some e → e.dayNumber = d.dayNumber + change) {d e : Date} {n : Nat}
    (h : n.repeat (· >>= step) (some d) = some e) : e.dayNumber = d.dayNumber + n * change := by
  induction n generalizing e with
  | zero =>
    cases h
    simp
  | succ n ih =>
    obtain ⟨x, hx, he⟩ := Option.bind_eq_some_iff.mp h
    rw [hstep he, ih hx]
    push_cast
    ring

/-- The day a number of days later has a number that is larger by as many. -/
theorem dayNumber_addDays? {d e : Date} {n : Int} (h : d.addDays? n = some e) : e.dayNumber = d.dayNumber + n := by
  cases n with
  | ofNat n =>
    have hlater := dayNumber_repeat dayNumber_next? h
    simpa using hlater
  | negSucc n =>
    have hstep : ∀ {d e : Date}, d.previous? = some e → e.dayNumber = d.dayNumber + -1 := fun h => dayNumber_previous? h
    have hearlier := dayNumber_repeat hstep h
    rw [hearlier, Int.negSucc_eq]
    omega

end Date

/-- The time a number of seconds after midnight is that many seconds after midnight, if they are less than a day. -/
theorem TimeOfDay.secondOfDay_ofSeconds {seconds : Nat} (h : seconds < 86400) (t : TimeOfDay) :
    (TimeOfDay.ofSeconds seconds t).secondOfDay = seconds := by
  simp only [TimeOfDay.secondOfDay, TimeOfDay.ofSeconds]
  omega

/-- The timestamp a number of seconds later counts as many seconds more, and keeps its fraction. -/
theorem Timestamp.seconds_addSeconds? {t u : Timestamp} {n : Int} (h : t.addSeconds? n = some u) :
    u.seconds = t.seconds + n ∧ u.time.nanosecond = t.time.nanosecond := by
  obtain ⟨day, hday, hu⟩ := Option.bind_eq_some_iff.mp h
  cases hu
  refine ⟨?_, rfl⟩
  have hnumber := Date.dayNumber_addDays? hday
  have hsecond : (((t.time.secondOfDay : Int) + n) % 86400).toNat < 86400 := by omega
  simp only [Timestamp.seconds, hnumber, TimeOfDay.secondOfDay_ofSeconds hsecond]
  omega

namespace OffsetTimestamp

theorem zero_lt_offsetBound : -offsetBound < 0 ∧ 0 < offsetBound := by
  decide

/-- A timestamp on a clock that shows universal time. -/
def ofUniversal (u : Timestamp) : OffsetTimestamp :=
  ⟨u, 0, zero_lt_offsetBound⟩

/-- The timestamp in universal time names the same instant. -/
theorem instant_ofUniversal {t : OffsetTimestamp} {u : Timestamp} (h : t.universal? = some u) : (ofUniversal u).instant = t.instant := by
  obtain ⟨hseconds, hfraction⟩ := Timestamp.seconds_addSeconds? h
  rw [instant, instant, ofUniversal, hseconds, hfraction, Int.sub_zero, Int.sub_eq_add_neg]

end OffsetTimestamp

end RecordSql
