import RecordSql.Calendar.Date
import RecordSql.Calendar.TimeOfDay

/-!
# Timestamps

A timestamp is a day and a time of day. A timestamp with an offset also says how far its clock is ahead of universal time; two of
them are equal when they name the same instant, whatever their offsets.
-/

namespace RecordSql

/-- A day and a time of day. -/
structure Timestamp where
  date : Date
  time : TimeOfDay
  deriving DecidableEq

namespace Timestamp

/-- The seconds since the last midnight before year zero. -/
def seconds (t : Timestamp) : Int :=
  t.date.dayNumber * 86400 + t.time.secondOfDay

/-- The timestamp a number of seconds later, if the calendar has its day. -/
def addSeconds? (t : Timestamp) (n : Int) : Option Timestamp := do
  let total := (t.time.secondOfDay : Int) + n
  let date ← t.date.addDays? (total / 86400)
  some ⟨date, TimeOfDay.ofSeconds (total % 86400).toNat t.time⟩

/-- The timestamp as it stands in a statement, without quotes; `mark` stands between the day and the time. -/
def literal (mark : Char) (t : Timestamp) : List Char :=
  t.date.literal ++ mark :: t.time.literal

/-- The timestamp as it is shown to a reader. -/
def text (t : Timestamp) : String :=
  t.date.text ++ " " ++ t.time.text

end Timestamp

/-- The offsets from universal time are below this number of seconds in magnitude. -/
def OffsetTimestamp.offsetBound : Int := 26 * 3600

/-- A timestamp on a clock that is `offset` seconds ahead of universal time. -/
structure OffsetTimestamp where
  clock : Timestamp
  offset : Int
  offset_lt : -OffsetTimestamp.offsetBound < offset ∧ offset < OffsetTimestamp.offsetBound
  deriving DecidableEq

namespace OffsetTimestamp

/-- The timestamp with the given offset, if the offset is in range. -/
def of? (clock : Timestamp) (offset : Int) : Option OffsetTimestamp :=
  if h : -offsetBound < offset ∧ offset < offsetBound then some ⟨clock, offset, h⟩ else none

/-- The instant: seconds since the last midnight before year zero in universal time, and nanoseconds. -/
def instant (t : OffsetTimestamp) : Int × Nat :=
  (t.clock.seconds - t.offset, t.clock.time.nanosecond)

/-- The timestamp in universal time, if the calendar has its day. -/
def universal? (t : OffsetTimestamp) : Option Timestamp :=
  t.clock.addSeconds? (-t.offset)

/-- The number of seconds since the start of 1970 in universal time. -/
def unixSeconds (t : OffsetTimestamp) : Int :=
  t.instant.1 - 719528 * 86400

/-- The offset as it is shown to a reader: a sign, hours, minutes and seconds. -/
def offsetText (offset : Int) : String :=
  let n := offset.natAbs
  (if offset < 0 then "-" else "+") ++ String.ofList
    (Text.fixedDigits 2 (n / 3600) ++ ':' :: Text.fixedDigits 2 (n / 60 % 60) ++ ':' :: Text.fixedDigits 2 (n % 60))

/-- The timestamp as it is shown to a reader. -/
def text (t : OffsetTimestamp) : String :=
  t.clock.text ++ " " ++ offsetText t.offset

end OffsetTimestamp

end RecordSql
