import RecordSql.Text.Digits

/-!
# Dates

Days of the proleptic Gregorian calendar in the years -9999 to 9999.
-/

namespace RecordSql

/-- The largest year in magnitude. -/
def Date.yearBound : Int := 9999

/-- Whether a year has a leap day. -/
def Date.isLeap (year : Int) : Bool :=
  year % 4 == 0 && (year % 100 != 0 || year % 400 == 0)

/-- The number of days of a month; months are numbered from one. -/
def Date.monthLength (year : Int) (month : Nat) : Nat :=
  if month = 2 then (if isLeap year then 29 else 28)
  else if month = 4 ∨ month = 6 ∨ month = 9 ∨ month = 11 then 30
  else 31

/-- Whether a year, a month and a day are a day of the calendar. -/
def Date.Valid (year : Int) (month day : Nat) : Prop :=
  -Date.yearBound ≤ year ∧ year ≤ Date.yearBound ∧ 1 ≤ month ∧ month ≤ 12 ∧ 1 ≤ day ∧ day ≤ Date.monthLength year month

instance (year : Int) (month day : Nat) : Decidable (Date.Valid year month day) := by
  unfold Date.Valid
  infer_instance

/-- A day of the calendar. -/
structure Date where
  year : Int
  month : Nat
  day : Nat
  valid : Date.Valid year month day
  deriving DecidableEq

namespace Date

/-- The day with the given year, month and day, if there is one. -/
def of? (year : Int) (month day : Nat) : Option Date :=
  if h : Valid year month day then some ⟨year, month, day, h⟩ else none

/-- The number of days before the month in its year. -/
def daysBeforeMonth (year : Int) : Nat → Nat
  | 0 | 1 => 0
  | month + 2 => daysBeforeMonth year (month + 1) + monthLength year (month + 1)

/-- The number of days since the last day before year zero. -/
def dayNumber (d : Date) : Int :=
  let before := d.year - 1
  365 * d.year + before / 4 - before / 100 + before / 400 + daysBeforeMonth d.year d.month + d.day

/-- Whether the day is the last of its month. -/
def isMonthEnd (d : Date) : Bool :=
  d.day == monthLength d.year d.month

/-- The day after, if the calendar has it. -/
def next? (d : Date) : Option Date :=
  if d.isMonthEnd then
    if d.month = 12 then of? (d.year + 1) 1 1 else of? d.year (d.month + 1) 1
  else
    of? d.year d.month (d.day + 1)

/-- The day before, if the calendar has it. -/
def previous? (d : Date) : Option Date :=
  if d.day = 1 then
    if d.month = 1 then of? (d.year - 1) 12 31 else of? d.year (d.month - 1) (monthLength d.year (d.month - 1))
  else
    of? d.year d.month (d.day - 1)

/-- The day a number of days later, if the calendar has it. -/
def addDays? (d : Date) : Int → Option Date
  | .ofNat n => n.repeat (· >>= next?) (some d)
  | .negSucc n => (n + 1).repeat (· >>= previous?) (some d)

/-- The year in a field of four characters that the sign of a negative year shares. -/
def literalYear (year : Int) : List Char :=
  if year < 0 then '-' :: Text.fixedDigits (if year.natAbs < 1000 then 3 else 4) year.natAbs
  else Text.fixedDigits 4 year.natAbs

/-- The day as it stands in a statement, without quotes. -/
def literal (d : Date) : List Char :=
  literalYear d.year ++ '-' :: Text.fixedDigits 2 d.month ++ '-' :: Text.fixedDigits 2 d.day

/-- The day as it is shown to a reader: the year has four digits after its sign. -/
def text (d : Date) : String :=
  (if d.year < 0 then "-" else "") ++ String.ofList
    (Text.fixedDigits 4 d.year.natAbs ++ '-' :: Text.fixedDigits 2 d.month ++ '-' :: Text.fixedDigits 2 d.day)

end Date

end RecordSql
