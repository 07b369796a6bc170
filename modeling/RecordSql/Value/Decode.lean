import RecordSql.Calendar.Reading
import RecordSql.Decimal.Binary
import RecordSql.Decimal.Reading
import RecordSql.Fault

/-!
# Decoding values

A value decodes into a native type when it is a scalar of the type's own kind, and for numbers when it is any number that the type
can take; texts are read where a type has a written form. A NULL decodes only into an optional field.
-/

namespace RecordSql

namespace Value

/-- Decoding fails because the value is of another kind. -/
def mismatch {α : Type} (v : Value) (target : Native) : Except Fault α :=
  .error (.notConvertible v target)

/-- The result of reading a text, or the fault that it denotes nothing. -/
def orUnreadable {α : Type} (text : String) (target : Native) : Option α → Except Fault α
  | some a => .ok a
  | none => .error (.unreadable text target)

/-- The integer that a value stands for: an integer of any type or a decimal number without a fraction. -/
def integral? : Value → Option Int
  | .of (.integer _ n _) => some n
  | .of (.decimal d _ _) => d.toInt?
  | _ => none

/-- The integer that a value decodes into, if the type holds it. -/
def toInteger (t : IntegerType) (v : Value) : Except Fault { n : Int // t.Holds n } :=
  match v.integral? with
  | some n => if h : t.Holds n then .ok ⟨n, h⟩ else .error (.outOfRange n t)
  | none => v.mismatch (.integer t)

/-- The binary number that a value decodes into: any number, rounded to the precision. -/
def toBinary (p : Number.Precision) (v : Value) : Except Fault (Number.Binary p) :=
  match v with
  | .of (.binary _ x) => .ok (x.convert p)
  | .of (.integer _ n _) => .ok (Number.Binary.ofInt p n)
  | .of (.decimal d _ _) => .ok (d.toBinary p)
  | _ => v.mismatch (.binary p)

/-- The truth value that a value decodes into; every integer but zero is true. -/
def toBoolean (v : Value) : Except Fault Bool :=
  match v with
  | .of (.boolean b) => .ok b
  | .of (.integer _ n _) => .ok (n != 0)
  | _ => v.mismatch .boolean

/-- A decimal number, or the fault that the value has none. -/
def orMismatch (v : Value) (target : Native) {α : Type} : Option α → Except Fault α
  | some a => .ok a
  | none => v.mismatch target

/-- The decimal number that a value decodes into: any number, or a text that denotes one. -/
def toDecimal (v : Value) : Except Fault Decimal :=
  match v with
  | .of (.decimal d _ _) => .ok d
  | .of (.integer _ n _) => v.orMismatch .decimal (Decimal.ofInt? n)
  | .of (.binary _ x) => v.orMismatch .decimal (Decimal.ofBinary? x)
  | .of (.varchar text) => orUnreadable text .decimal (Decimal.read? text)
  | _ => v.mismatch .decimal

/-- The character that a value decodes into: a character, or a text of one character. -/
def toChar (v : Value) : Except Fault Char :=
  match v with
  | .of (.char c) => .ok c
  | .of (.varchar text) =>
    match text.toList with
    | [c] => .ok c
    | _ => v.mismatch .char
  | _ => v.mismatch .char

/-- The text that a value decodes into: a text or a character. -/
def toText (v : Value) : Except Fault String :=
  match v with
  | .of (.varchar text) => .ok text
  | .of (.char c) => .ok (String.singleton c)
  | _ => v.mismatch .text

/-- The bytes that a value decodes into: bytes, or those of a text. -/
def toBytes (v : Value) : Except Fault (List UInt8) :=
  match v with
  | .of (.blob bytes) => .ok bytes
  | .of (.varchar text) => .ok text.toUTF8.toList
  | _ => v.mismatch .bytes

/-- The day that a value decodes into: a day, or a text that denotes one. -/
def toDate (v : Value) : Except Fault Date :=
  match v with
  | .of (.date d) => .ok d
  | .of (.varchar text) => orUnreadable text .date (Calendar.readDate? text)
  | _ => v.mismatch .date

/-- The time of day that a value decodes into: a time, or a text that denotes one. -/
def toTime (v : Value) : Except Fault TimeOfDay :=
  match v with
  | .of (.time t) => .ok t
  | .of (.varchar text) => orUnreadable text .time (Calendar.readTime? text)
  | _ => v.mismatch .time

/-- The timestamp that a value decodes into: a timestamp, or a text that denotes one. -/
def toTimestamp (v : Value) : Except Fault Timestamp :=
  match v with
  | .of (.timestamp t) => .ok t
  | .of (.varchar text) => orUnreadable text .timestamp (Calendar.readTimestamp? text)
  | _ => v.mismatch .timestamp

/-- The timestamp with an offset that a value decodes into: such a timestamp, or a text that denotes one. -/
def toOffsetTimestamp (v : Value) : Except Fault OffsetTimestamp :=
  match v with
  | .of (.offsetTimestamp t) => .ok t
  | .of (.varchar text) => orUnreadable text .offsetTimestamp (Calendar.readOffsetTimestamp? text)
  | _ => v.mismatch .offsetTimestamp

/-- The identifier that a value decodes into: an identifier, or a text that denotes one. -/
def toUuid (v : Value) : Except Fault Uuid :=
  match v with
  | .of (.uuid u) => .ok u
  | .of (.varchar text) => orUnreadable text .uuid (Uuid.read? text)
  | _ => v.mismatch .uuid

/-- The scalar of a native type that a value decodes into. -/
def decode (target : Native) (v : Value) : Except Fault Scalar :=
  match target with
  | .boolean => v.toBoolean.map .boolean
  | .integer t => (v.toInteger t).map fun n => .integer t n.1 n.2
  | .binary p => (v.toBinary p).map (.binary p)
  | .decimal => v.toDecimal.map fun d => .decimal d 0 0
  | .char => v.toChar.map .char
  | .text => v.toText.map .varchar
  | .bytes => v.toBytes.map .blob
  | .date => v.toDate.map .date
  | .time => v.toTime.map .time
  | .timestamp => v.toTimestamp.map .timestamp
  | .offsetTimestamp => v.toOffsetTimestamp.map .offsetTimestamp
  | .uuid => v.toUuid.map .uuid

/-- The value that a field of a native type holds after decoding. An optional field takes a NULL as the NULL of its type. -/
def decodeField (target : Native) (optional : Bool) (v : Value) : Except Fault Value :=
  if optional && v.isNull then .ok (.null target.valueType)
  else (v.decode target).map .of

end Value

end RecordSql
