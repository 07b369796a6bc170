import RecordSql.Text.Digits

/-!
# Times of day

A time of day with a precision of one nanosecond. A fraction of a second is written with as few digits as hold it, at least one.
-/

namespace RecordSql

/-- A time of day. -/
structure TimeOfDay where
  hour : Nat
  minute : Nat
  second : Nat
  nanosecond : Nat
  hour_lt : hour < 24
  minute_lt : minute < 60
  second_lt : second < 60
  nanosecond_lt : nanosecond < 1000000000
  deriving DecidableEq

namespace TimeOfDay

/-- The time with the given parts, if they are in range. -/
def of? (hour minute second nanosecond : Nat) : Option TimeOfDay :=
  if h : hour < 24 ∧ minute < 60 ∧ second < 60 ∧ nanosecond < 1000000000 then
    some ⟨hour, minute, second, nanosecond, h.1, h.2.1, h.2.2.1, h.2.2.2⟩
  else
    none

/-- The number of seconds since midnight. -/
def secondOfDay (t : TimeOfDay) : Nat :=
  t.hour * 3600 + t.minute * 60 + t.second

/-- The time a number of seconds after midnight; whole days are dropped. -/
def ofSeconds (seconds : Nat) (t : TimeOfDay) : TimeOfDay where
  hour := seconds / 3600 % 24
  minute := seconds / 60 % 60
  second := seconds % 60
  nanosecond := t.nanosecond
  hour_lt := Nat.mod_lt _ (by decide)
  minute_lt := Nat.mod_lt _ (by decide)
  second_lt := Nat.mod_lt _ (by decide)
  nanosecond_lt := t.nanosecond_lt

/-- The digits of a number in a field of the given width, without zeros at the end but for the first digit. -/
def trimmedDigits (n : Nat) : Nat → List Char
  | 0 => []
  | 1 => Text.fixedDigits 1 n
  | width + 2 => if n % 10 = 0 then trimmedDigits (n / 10) (width + 1) else Text.fixedDigits (width + 2) n

/-- The digits after the point. -/
def fraction (t : TimeOfDay) : List Char :=
  trimmedDigits t.nanosecond 9

/-- The time as it stands in a statement, without quotes. -/
def literal (t : TimeOfDay) : List Char :=
  Text.fixedDigits 2 t.hour ++ ':' :: Text.fixedDigits 2 t.minute ++ ':' :: Text.fixedDigits 2 t.second ++ '.' :: t.fraction

/-- The time as it is shown to a reader: the hour is not padded. -/
def text (t : TimeOfDay) : String :=
  toString t.hour ++ ":" ++ String.ofList
    (Text.fixedDigits 2 t.minute ++ ':' :: Text.fixedDigits 2 t.second ++ '.' :: t.fraction)

end TimeOfDay

end RecordSql
