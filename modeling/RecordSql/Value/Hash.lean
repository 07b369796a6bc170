import RecordSql.Value.Basic

/-!
# What a value feeds a hasher

A hash table keeps values by a hash of what they write: the place of their variant, whether they are there, what is in them, and for decimal
numbers the precision and the scale of their column. Numbers, characters, texts and bytes are written in place. What the types of other
libraries write is up to these libraries.
-/

namespace RecordSql

/-- One write of a hasher. -/
inductive HashInput where
  /-- The place of a variant in its type. -/
  | tag (place : Nat)
  | integer (type : IntegerType) (n : Int)
  | text (text : String)
  /-- The number of elements that follow. -/
  | length (n : Nat)
  | bytes (bytes : List UInt8)
  deriving DecidableEq

/-- What the types that values take from other libraries write. -/
structure HashLibrary where
  decimal : Decimal → List HashInput
  date : Date → List HashInput
  time : TimeOfDay → List HashInput
  timestamp : Timestamp → List HashInput
  offsetTimestamp : OffsetTimestamp → List HashInput
  uuid : Uuid → List HashInput

/-- The place of an integer type among the variants of values. -/
def IntegerType.place : IntegerType → Nat
  | int8 => 2
  | int16 => 3
  | int32 => 4
  | int64 => 5
  | uint8 => 6
  | uint16 => 7
  | uint32 => 8
  | uint64 => 9

namespace ValueType

/-- The place of a type among the variants of values. -/
def place : ValueType → Nat
  | untyped => 0
  | boolean => 1
  | integer t => t.place
  | binary .single => 10
  | binary .double => 11
  | decimal _ _ => 12
  | char => 13
  | varchar => 14
  | blob => 15
  | date => 16
  | time => 17
  | timestamp => 18
  | offsetTimestamp => 19
  | uuid => 20

/-- What a type writes after the content: the precision and the scale of a decimal type. -/
def hashSuffix : ValueType → List HashInput
  | decimal precision scale => [.integer .uint8 precision, .integer .uint8 scale]
  | _ => []

end ValueType

/-- What a scalar writes. Binary numbers write their patterns, so a pattern that is not a number writes the same each time. -/
def Scalar.hashInput (library : HashLibrary) : Scalar → List HashInput
  | boolean b => [.integer .uint8 (if b then 1 else 0)]
  | integer t n _ => [.integer t n]
  | binary .single x => [.integer .uint32 x.pattern]
  | binary .double x => [.integer .uint64 x.pattern]
  | decimal d _ _ => library.decimal d
  | char c => [.integer .uint32 c.toNat]
  | varchar text => [.text text]
  | blob bytes => [.length bytes.length, .bytes bytes]
  | date d => library.date d
  | time t => library.time t
  | timestamp t => library.timestamp t
  | offsetTimestamp t => library.offsetTimestamp t
  | uuid u => library.uuid u

/-- What a value writes. The NULL without a type has nothing in it, not even whether it is there. -/
def Value.hashInput (library : HashLibrary) : Value → List HashInput
  | null .untyped => [.tag 0]
  | null t => .tag t.place :: .tag 0 :: t.hashSuffix
  | of s => .tag s.type.place :: .tag 1 :: (s.hashInput library ++ s.type.hashSuffix)

end RecordSql
