import RecordSql.Number.Shortest
import RecordSql.Text.Unseen
import RecordSql.Value.Basic

/-!
# Values as messages show them

A value is shown as the name of its type with its content in parentheses, a NULL as a type with `None`. Texts and characters are
quoted, and characters that would not be seen are shown by their code points.
-/

namespace RecordSql

/-- A character inside quotes. Only the quote character that encloses it is escaped. -/
def Text.inspectChar (quote : Char) (c : Char) : String :=
  if c = quote ∨ c = '\\' then "\\" ++ String.singleton c
  else if c = '\n' then "\\n"
  else if c = '\r' then "\\r"
  else if c = '\t' then "\\t"
  else if c = '\x00' then "\\0"
  else if Text.isUnseen c then "\\u\x7b" ++ String.ofList (Nat.toDigits 16 c.toNat) ++ "\x7d"
  else String.singleton c

/-- Binary numbers in messages: positional from a ten-thousandth up to, and without, ten to the sixteenth. -/
def Number.inspectLayout : Number.Layout :=
  { low := -4, high := 16, plus := false, tiesUp := true }

/-- A binary number as messages show it. -/
def Number.Binary.inspect {p : Number.Precision} (x : Number.Binary p) : String :=
  match x.read with
  | .notANumber => "NaN"
  | .infinite negative => if negative then "-inf" else "inf"
  | .finite negative m e => Number.inspectLayout.text p negative m e

/-- The name of an integer type of values. -/
def IntegerType.label : IntegerType → String
  | int8 => "Int8"
  | int16 => "Int16"
  | int32 => "Int32"
  | int64 => "Int64"
  | uint8 => "UInt8"
  | uint16 => "UInt16"
  | uint32 => "UInt32"
  | uint64 => "UInt64"

/-- The name of a type of values. -/
def ValueType.label : ValueType → String
  | untyped => "Null"
  | boolean => "Boolean"
  | integer t => t.label
  | binary .single => "Float32"
  | binary .double => "Float64"
  | decimal _ _ => "Decimal"
  | char => "Char"
  | varchar => "Varchar"
  | blob => "Blob"
  | date => "Date"
  | time => "Time"
  | timestamp => "Timestamp"
  | offsetTimestamp => "TimestampWithTimezone"
  | uuid => "Uuid"

/-- The integer types. -/
def IntegerType.all : List IntegerType :=
  [.int8, .int16, .int32, .int64, .uint8, .uint16, .uint32, .uint64]

/-- The integer type of values with the given name. -/
def IntegerType.ofLabel? (label : String) : Option IntegerType :=
  all.find? (·.label == label)

/-- The types of values. Decimal types are those with the given precision and scale. -/
def ValueType.all (precision scale : Nat) : List ValueType :=
  IntegerType.all.map .integer ++
    [.untyped, .boolean, .binary .single, .binary .double, .decimal precision scale, .char, .varchar, .blob, .date, .time,
     .timestamp, .offsetTimestamp, .uuid]

/-- The type of values with the given name. -/
def ValueType.ofLabel? (label : String) (precision scale : Nat) : Option ValueType :=
  (all precision scale).find? (·.label == label)

/-- The content of a scalar. -/
def Scalar.inspectContent : Scalar → String
  | boolean b => if b then "true" else "false"
  | integer _ n _ => toString n
  | binary _ x => x.inspect
  | decimal d _ _ => d.text
  | char c => "'" ++ Text.inspectChar '\x27' c ++ "'"
  | varchar text => "\"" ++ String.join (text.toList.map (Text.inspectChar '\x22')) ++ "\""
  | blob bytes => "[" ++ ", ".intercalate (bytes.map fun b => toString b.toNat) ++ "]"
  | date d => d.text
  | time t => t.text
  | timestamp t => t.text
  | offsetTimestamp t => t.text
  | uuid u => u.text

/-- A value as messages show it. -/
def Value.inspect (v : Value) : String :=
  let content :=
    match v with
    | .null _ => "None"
    | .of s => "Some(" ++ s.inspectContent ++ ")"
  match v.type with
  | .untyped => "Null"
  | .decimal precision scale => "Decimal(" ++ content ++ ", " ++ toString precision ++ ", " ++ toString scale ++ ")"
  | t => t.label ++ "(" ++ content ++ ")"

end RecordSql
