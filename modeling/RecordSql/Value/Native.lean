import RecordSql.Value.Basic

/-!
# Native types

The types that a record field can have, and into which a value of a row is decoded. Each has a type of values that it is bound as,
and a name that error messages use.
-/

namespace RecordSql

/-- The types of record fields. -/
inductive Native where
  | boolean
  | integer (type : IntegerType)
  | binary (precision : Number.Precision)
  | decimal
  | char
  | text
  | bytes
  | date
  | time
  | timestamp
  | offsetTimestamp
  | uuid
  deriving DecidableEq

/-- The name of an integer type in messages. -/
def IntegerType.name : IntegerType → String
  | int8 => "i8"
  | int16 => "i16"
  | int32 => "i32"
  | int64 => "i64"
  | uint8 => "u8"
  | uint16 => "u16"
  | uint32 => "u32"
  | uint64 => "u64"

namespace Native

/-- The type of the values that the fields of the type are bound as. -/
def valueType : Native → ValueType
  | boolean => .boolean
  | integer t => .integer t
  | binary p => .binary p
  | decimal => .decimal 0 0
  | char => .char
  | text => .varchar
  | bytes => .blob
  | date => .date
  | time => .time
  | timestamp => .timestamp
  | offsetTimestamp => .offsetTimestamp
  | uuid => .uuid

/-- The type of fields whose values are bound as the given type; fields without a type do not exist. -/
def ofValueType? : ValueType → Option Native
  | .untyped => none
  | .boolean => some boolean
  | .integer t => some (integer t)
  | .binary p => some (binary p)
  | .decimal _ _ => some decimal
  | .char => some char
  | .varchar => some text
  | .blob => some bytes
  | .date => some date
  | .time => some time
  | .timestamp => some timestamp
  | .offsetTimestamp => some offsetTimestamp
  | .uuid => some uuid

/-- The name of the type in messages. -/
def name : Native → String
  | boolean => "bool"
  | integer t => t.name
  | binary .single => "f32"
  | binary .double => "f64"
  | decimal => "rust_decimal::decimal::Decimal"
  | char => "char"
  | text => "alloc::string::String"
  | bytes => "alloc::boxed::Box<[u8]>"
  | date => "time::date::Date"
  | time => "time::time::Time"
  | timestamp => "time::plain_date_time::PlainDateTime"
  | offsetTimestamp => "time::offset_date_time::OffsetDateTime"
  | uuid => "uuid::Uuid"

/-- The name of the type in messages about texts that do not denote one of its members. -/
def readingName : Native → String
  | decimal => "Decimal"
  | uuid => "Uuid"
  | t => t.name

end Native

end RecordSql
