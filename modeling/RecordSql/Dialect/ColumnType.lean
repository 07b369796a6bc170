import RecordSql.Dialect.Basic
import RecordSql.Value.Basic

/-!
# Column types

The type in SQL of a column that holds values of a given type. Every type but the untyped one has a column type in every dialect.
-/

namespace RecordSql.Dialect

/-- The precision and the scale of a decimal column, unless both are left open. -/
def decimalArguments (precision scale : Nat) : String :=
  if precision = 0 ∧ scale = 0 then ""
  else "(" ++ toString precision ++ "," ++ toString scale ++ ")"

/-- The column types of integers in the dialects that have no unsigned ones. -/
def signedIntegerType : IntegerType → String
  | .int8 | .int16 | .uint8 => "SMALLINT"
  | .int32 | .uint16 => "INTEGER"
  | .int64 | .uint32 => "BIGINT"
  | .uint64 => "NUMERIC(20)"

/-- The column types of integers in MySQL. -/
def mysqlIntegerType : IntegerType → String
  | .int8 => "TINYINT"
  | .int16 => "SMALLINT"
  | .int32 => "INTEGER"
  | .int64 => "BIGINT"
  | .uint8 => "TINYINT UNSIGNED"
  | .uint16 => "SMALLINT UNSIGNED"
  | .uint32 => "INTEGER UNSIGNED"
  | .uint64 => "BIGINT UNSIGNED"

/-- The column types of the generic dialect. -/
def genericColumnType : ValueType → Option String
  | .untyped => none
  | .boolean => some "BOOLEAN"
  | .integer t => some (signedIntegerType t)
  | .binary .single => some "REAL"
  | .binary .double => some "DOUBLE PRECISION"
  | .decimal precision scale => some ("DECIMAL" ++ decimalArguments precision scale)
  | .char => some "CHAR(1)"
  | .varchar => some "VARCHAR"
  | .blob => some "BLOB"
  | .date => some "DATE"
  | .time => some "TIME"
  | .timestamp => some "TIMESTAMP"
  | .offsetTimestamp => some "TIMESTAMP WITH TIME ZONE"
  | .uuid => some "UUID"

/-- The column types of MySQL. Texts have a bounded length, which indexed and unique columns need. -/
def mysqlColumnType : ValueType → Option String
  | .integer t => some (mysqlIntegerType t)
  | .binary .single => some "FLOAT"
  | .binary .double => some "DOUBLE"
  | .varchar => some "VARCHAR(255)"
  | .timestamp => some "DATETIME"
  | .offsetTimestamp => some "DATETIME"
  | .uuid => some "CHAR(36)"
  | t => genericColumnType t

/-- The column types of Postgres. -/
def postgresColumnType : ValueType → Option String
  | .decimal precision scale => some ("NUMERIC" ++ decimalArguments precision scale)
  | .char => some "CHARACTER(1)"
  | .varchar => some "TEXT"
  | .blob => some "BYTEA"
  | t => genericColumnType t

/-- The column types of SQLite, which has few. -/
def sqliteColumnType : ValueType → Option String
  | .untyped => none
  | .boolean | .integer _ => some "INTEGER"
  | .binary _ => some "REAL"
  | .decimal precision scale => some ("REAL" ++ decimalArguments precision scale)
  | .blob => some "BLOB"
  | .char | .varchar | .date | .time | .timestamp | .offsetTimestamp | .uuid => some "TEXT"

/-- The type of a column that holds values of the given type. -/
def columnType? : Dialect → ValueType → Option String
  | generic => genericColumnType
  | mysql => mysqlColumnType
  | postgres => postgresColumnType
  | sqlite => sqliteColumnType

end RecordSql.Dialect
