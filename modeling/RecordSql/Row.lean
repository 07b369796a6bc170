import RecordSql.Value.Decode

/-!
# Rows and counts

What a database answers to a statement: labelled rows, and counts of affected rows. Counts add up over the answers of a statement; a
count or an identifier that no answer gives stays unknown.
-/

namespace RecordSql

/-- A row with the labels of its columns. -/
structure Row where
  labels : List String
  values : List Value
  deriving DecidableEq

namespace Row

/-- The value of the first column with the label, if there is one. A row may be too short to have it. -/
def column? (r : Row) (label : String) : Except Abort (Option Value) :=
  match r.labels.findIdx? (· == label) with
  | none => .ok none
  | some i =>
    match r.values[i]? with
    | some v => .ok (some v)
    | none => .error (.shortRow label)

/-- The value of a column decoded for a field. -/
def get (r : Row) (label : String) (target : Native) (optional : Bool) : Except Halt Value :=
  match r.column? label with
  | .error a => .error (.aborted a)
  | .ok none => .error (.failed (.missingColumn label))
  | .ok (some v) =>
    match v.decodeField target optional with
    | .ok w => .ok w
    | .error f => .error (.failed (.during (.decodingColumn label) f))

end Row

/-- How many rows a statement affected, and the identifier that it generated last, as far as they are known. -/
structure RowsAffected where
  count : Option Nat := none
  lastId : Option Int := none
  deriving DecidableEq

namespace RowsAffected

/-- The total with one more answer. -/
def add (total more : RowsAffected) : RowsAffected where
  count :=
    match more.count with
    | some n => some (total.count.getD 0 + n)
    | none => total.count
  lastId := more.lastId.orElse fun _ => total.lastId

/-- The total with more answers. -/
def extend (total : RowsAffected) (more : List RowsAffected) : RowsAffected :=
  more.foldl add total

/-- Answers may be added up in batches. -/
theorem extend_append (total : RowsAffected) (as bs : List RowsAffected) :
    total.extend (as ++ bs) = (total.extend as).extend bs :=
  List.foldl_append

/-- The number of rows, or the fault that it is unknown. -/
def rows (total : RowsAffected) : Except Fault Nat :=
  match total.count with
  | some n => .ok n
  | none => .error (.unsupported .driver .rowCount)

end RowsAffected

/-- One answer of a database. -/
inductive Reply where
  | row (r : Row)
  | affected (a : RowsAffected)
  deriving DecidableEq

namespace Reply

/-- The row of an answer. -/
def row? : Reply → Option Row
  | row r => some r
  | affected _ => none

/-- The counts of an answer. -/
def affected? : Reply → Option RowsAffected
  | row _ => none
  | affected a => some a

end Reply

end RecordSql
