import RecordSql.Calendar.Timestamp
import RecordSql.Decimal.Basic
import RecordSql.Uuid

/-!
# Values

A value is what a statement binds to a placeholder and what a row holds in a column. It is a scalar of one of the types below or
the NULL of a type; there is also a NULL without a type. Two values are equal when they have the same type and denote the same
thing: binary numbers by their patterns, decimal numbers and timestamps with an offset by what they stand for.
-/

namespace RecordSql

/-- The integer types. -/
inductive IntegerType where
  | int8
  | int16
  | int32
  | int64
  | uint8
  | uint16
  | uint32
  | uint64
  deriving DecidableEq, Repr

namespace IntegerType

/-- The least member of the type. -/
def least : IntegerType → Int
  | int8 => -128
  | int16 => -32768
  | int32 => -2147483648
  | int64 => -9223372036854775808
  | uint8 | uint16 | uint32 | uint64 => 0

/-- The greatest member of the type. -/
def greatest : IntegerType → Int
  | int8 => 127
  | int16 => 32767
  | int32 => 2147483647
  | int64 => 9223372036854775807
  | uint8 => 255
  | uint16 => 65535
  | uint32 => 4294967295
  | uint64 => 18446744073709551615

/-- Whether an integer is a member of the type. -/
def Holds (t : IntegerType) (n : Int) : Prop :=
  t.least ≤ n ∧ n ≤ t.greatest

instance (t : IntegerType) (n : Int) : Decidable (t.Holds n) := by
  unfold Holds
  infer_instance

end IntegerType

/-- The types of values. A decimal type also carries the precision and the scale that its column declares. -/
inductive ValueType where
  | untyped
  | boolean
  | integer (type : IntegerType)
  | binary (precision : Number.Precision)
  | decimal (precision scale : Nat)
  | char
  | varchar
  | blob
  | date
  | time
  | timestamp
  | offsetTimestamp
  | uuid
  deriving DecidableEq

/-- A value that is not NULL. -/
inductive Scalar where
  | boolean (b : Bool)
  | integer (type : IntegerType) (n : Int) (holds : type.Holds n)
  | binary (precision : Number.Precision) (x : Number.Binary precision)
  | decimal (d : Decimal) (precision scale : Nat)
  | char (c : Char)
  | varchar (text : String)
  | blob (bytes : List UInt8)
  | date (d : Date)
  | time (t : TimeOfDay)
  | timestamp (t : Timestamp)
  | offsetTimestamp (t : OffsetTimestamp)
  | uuid (u : Uuid)
  deriving DecidableEq

/-- A scalar or the NULL of a type. -/
inductive Value where
  | null (type : ValueType)
  | of (scalar : Scalar)
  deriving DecidableEq

namespace Scalar

/-- The type of a scalar. -/
def type : Scalar → ValueType
  | boolean _ => .boolean
  | integer t _ _ => .integer t
  | binary p _ => .binary p
  | decimal _ precision scale => .decimal precision scale
  | char _ => .char
  | varchar _ => .varchar
  | blob _ => .blob
  | date _ => .date
  | time _ => .time
  | timestamp _ => .timestamp
  | offsetTimestamp _ => .offsetTimestamp
  | uuid _ => .uuid

/-- Whether two scalars of the same type denote the same thing. -/
def denotesSame : Scalar → Scalar → Bool
  | decimal x _ _, decimal y _ _ => x.sameValue y
  | offsetTimestamp x, offsetTimestamp y => x.instant == y.instant
  | x, y => x == y

/-- Whether the scalar is the zero of its type. Characters, dates and times have none. -/
def isZero : Scalar → Bool
  | boolean b => !b
  | integer _ n _ => n == 0
  | binary _ x => x.isZero
  | decimal d _ _ => d.isZero
  | varchar text => text.isEmpty
  | blob bytes => bytes.isEmpty
  | uuid u => u.isNil
  | _ => false

end Scalar

namespace Value

/-- The value of an integer, if the type holds it. -/
def integer? (t : IntegerType) (n : Int) : Option Value :=
  if h : t.Holds n then some (.of (.integer t n h)) else none

/-- The value of a text. -/
def varchar (text : String) : Value :=
  .of (.varchar text)

/-- The type of a value. -/
def type : Value → ValueType
  | null t => t
  | of s => s.type

/-- Whether the value is NULL. -/
def isNull : Value → Bool
  | null _ => true
  | of _ => false

/-- Whether the value is NULL or the zero of its type. Such values are left to the database on insert. -/
def isZero : Value → Bool
  | null _ => true
  | of s => s.isZero

/-- The NULL of the type of a value. -/
def asNull (v : Value) : Value :=
  .null v.type

/-- Whether two values have the same type. -/
def sameType (v w : Value) : Bool :=
  v.type == w.type

/-- Whether two values are equal: of the same type, and both NULL or denoting the same. -/
def same : Value → Value → Bool
  | null t, null u => t == u
  | of s, of r => s.type == r.type && s.denotesSame r
  | _, _ => false

/-- The form in which values of linking columns are compared: every NULL is the untyped one, integers are taken out of their
width, and a character is a text. -/
def key : Value → Value
  | null _ => .null .untyped
  | of (.integer t n h) =>
    match integer? .int64 n with
    | some v => v
    | none => .of (.integer t n h)
  | of (.char c) => varchar (String.singleton c)
  | of s => .of s

/-- The key of a value, unless it is NULL. -/
def key? (v : Value) : Option Value :=
  if v.key.isNull then none else some v.key

/-- The values in the order of their first occurrence, each once. -/
def distinct (vs : List Value) : List Value :=
  vs.foldl (fun seen v => if seen.any (same v) then seen else seen ++ [v]) []

end Value

end RecordSql
