import RecordSql.Calendar.Timestamp
import RecordSql.Number.Power

/-!
# Reading dates and times

The formats in which dates and times are accepted as text. Every number has a fixed width, and nothing may follow. Where several
formats are accepted the first that fits decides; the formats of one type accept disjoint texts.
-/

namespace RecordSql.Calendar

open Text

/-- A reader takes what it reads from the start of the text and leaves the rest. -/
abbrev Reader (α : Type) := List Char → Option (α × List Char)

/-- Reads one given character. -/
def expect (c : Char) : List Char → Option (List Char)
  | [] => none
  | d :: cs => if d = c then some cs else none

/-- The value of a reader that leaves nothing. -/
def whole {α : Type} (reader : Reader α) (text : String) : Option α :=
  match reader text.toList with
  | some (value, []) => some value
  | _ => none

/-- Reads a year: an optional sign and four digits. -/
def year : Reader Int
  | '-' :: cs => (readDigits 4 cs).map fun (n, rest) => (-(n : Int), rest)
  | '+' :: cs => (readDigits 4 cs).map fun (n, rest) => ((n : Int), rest)
  | cs => (readDigits 4 cs).map fun (n, rest) => ((n : Int), rest)

/-- Reads a month and a day of the year `y`, with the hyphen in front of each. -/
def dayOf (y : Int) : Reader Date := fun cs => do
  let (month, cs) ← readDigits 2 (← expect '-' cs)
  let (day, cs) ← readDigits 2 (← expect '-' cs)
  some (← Date.of? y month day, cs)

/-- Reads a day: year, month and day with hyphens between them. -/
def date : Reader Date := fun cs => do
  let (y, cs) ← year cs
  dayOf y cs

/-- The longest run of at most `limit` decimal digits at the start of the text. -/
def digitRun : Nat → List Char → List Char
  | 0, _ => []
  | _, [] => []
  | limit + 1, c :: cs => if (digitValue? c).isSome then c :: digitRun limit cs else []

/-- Reads the digits after the point as nanoseconds. At most `limit` digits are read; those after the ninth do not count. -/
def nanoseconds (limit : Nat) : Reader Nat := fun cs =>
  let digits := digitRun limit cs
  if digits.isEmpty then none
  else do
    let kept := digits.take 9
    some ((← digitsValue 0 kept) * Number.tenTo (9 - kept.length), cs.drop digits.length)

/-- The most digits after the point of a second that the formats without an offset read. -/
def fractionLimit : Nat := 32

/-- Reads hour and minute with a colon between them. -/
def hourMinute : Reader (Nat × Nat) := fun cs => do
  let (hour, cs) ← readDigits 2 cs
  let (minute, cs) ← readDigits 2 (← expect ':' cs)
  some ((hour, minute), cs)

/-- Reads a time with seconds and a fraction. -/
def timeWithFraction : Reader TimeOfDay := fun cs => do
  let ((hour, minute), cs) ← hourMinute cs
  let (second, cs) ← readDigits 2 (← expect ':' cs)
  let (ns, cs) ← nanoseconds fractionLimit (← expect '.' cs)
  some (← TimeOfDay.of? hour minute second ns, cs)

/-- Reads a time with seconds. -/
def timeWithSeconds : Reader TimeOfDay := fun cs => do
  let ((hour, minute), cs) ← hourMinute cs
  let (second, cs) ← readDigits 2 (← expect ':' cs)
  some (← TimeOfDay.of? hour minute second 0, cs)

/-- Reads a time without seconds. -/
def timeWithMinutes : Reader TimeOfDay := fun cs => do
  let ((hour, minute), cs) ← hourMinute cs
  some (← TimeOfDay.of? hour minute 0 0, cs)

/-- Reads a day, the character `mark` and a time. -/
def timestamp (mark : Char) (time : Reader TimeOfDay) : Reader Timestamp := fun cs => do
  let (d, cs) ← date cs
  let (t, cs) ← time (← expect mark cs)
  some (⟨d, t⟩, cs)

/-- The date that a text denotes. -/
def readDate? (text : String) : Option Date :=
  whole date text

/-- The time of day that a text denotes. -/
def readTime? (text : String) : Option TimeOfDay :=
  whole timeWithFraction text <|> whole timeWithSeconds text <|> whole timeWithMinutes text

/-- The timestamp that a text denotes: a day and a time with a `T` or a space between them. -/
def readTimestamp? (text : String) : Option Timestamp :=
  whole (timestamp 'T' timeWithFraction) text <|> whole (timestamp 'T' timeWithSeconds) text <|>
    whole (timestamp ' ' timeWithFraction) text <|> whole (timestamp ' ' timeWithSeconds) text

/-- Reads an offset from universal time in seconds: `Z`, or a sign, hours and minutes. -/
def offset : Reader Int
  | 'Z' :: cs => some (0, cs)
  | 'z' :: cs => some (0, cs)
  | sign :: cs => do
    let direction ← if sign = '+' then some (1 : Int) else if sign = '-' then some (-1) else none
    let ((hour, minute), cs) ← hourMinute cs
    if hour < 24 ∧ minute < 60 then some (direction * (hour * 3600 + minute * 60 : Nat), cs) else none
  | [] => none

/-- Reads the optional fraction of a second. -/
def optionalFraction : Reader Nat
  | '.' :: cs => nanoseconds cs.length cs
  | cs => some (0, cs)

/-- Whether a timestamp can stand for a leap second: its instant is in the last second of a month in universal time. -/
def endsMonth (t : OffsetTimestamp) : Bool :=
  match t.universal? with
  | some u => u.date.isMonthEnd && u.time.secondOfDay == 86399
  | none => false

/-- Reads a timestamp with an offset: a year of four digits, one byte of any kind between day and time, seconds, an optional
fraction and the offset. Second 60 stands for the last nanosecond of the second before it, and only where a leap second can be. -/
def offsetTimestamp : Reader OffsetTimestamp := fun cs => do
  let (y, cs) ← readDigits 4 cs
  let (d, cs) ← dayOf y cs
  let (mark, cs) ← (match cs with | c :: cs => some (c, cs) | [] => none)
  if mark.utf8Size ≠ 1 then none
  let ((hour, minute), cs) ← hourMinute cs
  let (second, cs) ← readDigits 2 (← expect ':' cs)
  let (ns, cs) ← optionalFraction cs
  let (shift, cs) ← offset cs
  if second = 60 then
    let stamp ← OffsetTimestamp.of? ⟨d, ← TimeOfDay.of? hour minute 59 999999999⟩ shift
    if endsMonth stamp then some (stamp, cs) else none
  else
    some (← OffsetTimestamp.of? ⟨d, ← TimeOfDay.of? hour minute second ns⟩ shift, cs)

/-- The timestamp with an offset that a text denotes. -/
def readOffsetTimestamp? (text : String) : Option OffsetTimestamp :=
  whole offsetTimestamp text

end RecordSql.Calendar
