import RecordSql.Condition.Basic
import RecordSql.Fault

/-!
# Models

A model describes a table: its fields with the columns behind them, its indexes and its foreign keys. Fields are found by name, by
column or by the position of the field in its record; where several would do, the first one declared is meant.
-/

namespace RecordSql

/-- A field of a record and the column behind it. -/
structure Field where
  name : String
  column : String
  /-- The type of the column in SQL; when it is empty it follows from `prototype`. -/
  columnType : String := ""
  /-- A value, usually NULL, of the type that the field is bound as. -/
  prototype : Value
  nullable : Bool := false
  primaryKey : Bool := false
  autoIncrement : Bool := false
  unique : Bool := false
  defaultValue : Option Value := none
  /-- The position of the field inside its record. -/
  offset : Option Nat := none
  /-- Whether the field holds the time of deletion; rows with a value in it count as deleted. -/
  softDelete : Bool := false

/-- A field of a native type whose column has the same name. -/
def Field.of (name : String) (type : Native) : Field :=
  { name, column := name, prototype := .null type.valueType }

/-- An index over fields, in order. -/
structure Index where
  name : String
  fields : List String
  unique : Bool
  deriving DecidableEq

/-- A field that references a column of another table. -/
structure ForeignKey where
  field : String
  table : String
  column : String
  deriving DecidableEq

/-- The description of a table. -/
structure Model where
  name : String
  fields : List Field := []
  indexes : List Index := []
  foreignKeys : List ForeignKey := []

namespace Model

/-- The primary key fields, in order. -/
def primaryKeys (m : Model) : List Field :=
  m.fields.filter (·.primaryKey)

/-- The primary key field of a model that has exactly one. -/
def onePrimary? (m : Model) : Option Field :=
  match m.primaryKeys with
  | [f] => some f
  | _ => none

/-- The field of the given name. -/
def field? (m : Model) (name : String) : Option Field :=
  m.fields.find? (·.name == name)

/-- The field at the given position of the record. -/
def fieldAt? (m : Model) (offset : Nat) : Option Field :=
  m.fields.find? (·.offset == some offset)

/-- The field behind which the given column stands. -/
def fieldOfColumn? (m : Model) (column : String) : Option Field :=
  m.fields.find? (·.column == column)

/-- The field of the given name, or the fault that there is none. -/
def requireField (m : Model) (name : String) : Except Fault Field :=
  match m.field? name with
  | some f => .ok f
  | none => .error (.unknownField m.name name)

/-- The primary key field of a model that must have exactly one. -/
def requireOnePrimary (m : Model) : Except Fault Field :=
  match m.onePrimary? with
  | some f => .ok f
  | none => .error (.unknownField m.name "primary key")

/-- The field of the given name, or the primary key when none is given. -/
def keyField (m : Model) : Option String → Except Fault Field
  | some name => m.requireField name
  | none => m.requireOnePrimary

/-- The columns of all fields, in order. -/
def columns (m : Model) : List String :=
  m.fields.map (·.column)

/-- The indexes that allow repetitions, in order. -/
def plainIndexes (m : Model) : List Index :=
  m.indexes.filter (!·.unique)

/-- The indexes that allow no repetitions, in order. -/
def uniqueIndexes (m : Model) : List Index :=
  m.indexes.filter (·.unique)

/-- The first foreign key of a field. -/
def foreignKey? (m : Model) (field : String) : Option ForeignKey :=
  m.foreignKeys.find? (·.field == field)

/-- The field that holds the time of deletion. -/
def softDeleteField? (m : Model) : Option Field :=
  m.fields.find? (·.softDelete)

/-- Whether a column is part of the primary key. -/
def isKeyColumn (m : Model) (column : String) : Bool :=
  (m.fieldOfColumn? column).any (·.primaryKey)

end Model

end RecordSql
