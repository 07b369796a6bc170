import RecordSql.Dialect.ColumnType
import RecordSql.Fault
import RecordSql.Text.Quoted
import RecordSql.Text.Section

/-!
# Literals

The text that stands for a value in a statement, where no placeholder can stand. Only a timestamp with an offset may have none: it is
written in universal time, which can lie outside the calendar.
-/

namespace RecordSql

/-- Binary numbers in statements: positional from a small power of ten up to, and without, a large one. -/
def Number.literalLayout : Number.Precision → Number.Layout
  | .single => { low := -6, high := 13, plus := false, tiesUp := false }
  | .double => { low := -5, high := 16, plus := false, tiesUp := false }

namespace Dialect

/-- A string literal. -/
def stringLiteral (text : String) : String :=
  Text.enclosed Text.apostrophe text

/-- A text without quote characters between apostrophes. -/
def plainLiteral (cs : List Char) : String :=
  "'" ++ String.ofList cs ++ "'"

/-- The word `word` cast to the column type of double precision. -/
def castLiteral (d : Dialect) (word : String) : String :=
  "CAST('" ++ word ++ "' AS " ++ (d.columnType? (.binary .double)).getD "" ++ ")"

/-- An infinity. MySQL and SQLite take a number too large to represent for it. -/
def infinityLiteral (d : Dialect) (negative : Bool) : String :=
  match d with
  | mysql | sqlite => (if negative then "-" else "") ++ "1.0e+10000"
  | generic | postgres => d.castLiteral (if negative then "-inf" else "inf")

/-- A binary number. -/
def binaryLiteral (d : Dialect) {p : Number.Precision} (x : Number.Binary p) : String :=
  match x.read with
  | .notANumber => d.castLiteral "NaN"
  | .infinite negative => d.infinityLiteral negative
  | .finite negative m e => (Number.literalLayout p).text p negative m e

/-- A string of bytes. -/
def blobLiteral (d : Dialect) (bytes : List UInt8) : String :=
  match d with
  | mysql | sqlite => "X'" ++ Text.hexOfBytes Text.hexDigitUpper bytes ++ "'"
  | generic | postgres => "'\\x" ++ Text.hexOfBytes Text.hexDigit bytes ++ "'"

/-- A timestamp with an offset, in universal time. -/
def offsetTimestampLiteral (d : Dialect) (t : OffsetTimestamp) : Except Abort String :=
  match t.universal? with
  | none => .error (.beyondCalendar t)
  | some u =>
    match d with
    | mysql => .ok (plainLiteral (u.literal ' '))
    | generic | postgres | sqlite => .ok (plainLiteral (u.literal 'T'))

/-- A scalar. -/
def scalarLiteral (d : Dialect) : Scalar → Except Abort String
  | .boolean b => .ok (if b then "true" else "false")
  | .integer _ n _ => .ok (toString n)
  | .binary _ x => .ok (d.binaryLiteral x)
  | .decimal x _ _ => .ok x.text
  | .char c => .ok (stringLiteral (String.singleton c))
  | .varchar text => .ok (stringLiteral text)
  | .blob bytes => .ok (d.blobLiteral bytes)
  | .date x => .ok (plainLiteral x.literal)
  | .time t => .ok (plainLiteral t.literal)
  | .timestamp t => .ok (plainLiteral (t.literal 'T'))
  | .offsetTimestamp t => d.offsetTimestampLiteral t
  | .uuid u => .ok ("'" ++ u.text ++ "'")

/-- A value. -/
def literal (d : Dialect) : Value → Except Abort String
  | .null _ => .ok "NULL"
  | .of s => d.scalarLiteral s

end Dialect

end RecordSql
