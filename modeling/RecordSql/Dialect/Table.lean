import RecordSql.Dialect.Literal
import RecordSql.Dialect.Name
import RecordSql.Log
import RecordSql.Model.Basic
import RecordSql.Statement

/-!
# Tables

Statements that create and drop tables and constraints. Creating a table is one statement with the columns, the primary key and
the foreign keys, followed by one statement per index, those that allow repetitions first.
-/

namespace RecordSql.Dialect

/-- Whether a field is the only primary key and counts up by itself, which in SQLite makes it the row number. -/
def isRowNumber (m : Model) (f : Field) : Bool :=
  f.autoIncrement && m.onePrimary?.any (·.name == f.name)

/-- The column type of a prototype. A value without a type has none, which is logged. -/
def prototypeType (d : Dialect) (prototype : Value) : Logged String :=
  match d.columnType? prototype.type with
  | some type => pure type
  | none => do
    Logged.line .error
      ("Unexpected quarry::Value, variant " ++ prototype.inspect ++ " does not describe a column type")
    pure ""

/-- The Postgres type of a column that counts up by itself. -/
def serialType : ValueType → String
  | .integer .int8 | .integer .int16 | .integer .uint8 => "SMALLSERIAL"
  | .integer .int32 | .integer .uint16 => "SERIAL"
  | _ => "BIGSERIAL"

/-- The type of the column of a field: the declared one, or the one that its prototype describes. -/
def fieldType (d : Dialect) (f : Field) : Logged String :=
  if !f.columnType.isEmpty then pure f.columnType
  else if d = postgres ∧ f.autoIncrement then pure (serialType f.prototype.type)
  else d.prototypeType f.prototype

/-- What makes the column of a field count up by itself. The serial types of Postgres need nothing more. -/
def autoIncrement (d : Dialect) (m : Model) (f : Field) : Logged String :=
  match d with
  | generic => pure " GENERATED BY DEFAULT AS IDENTITY"
  | mysql => pure " AUTO_INCREMENT"
  | postgres => pure (if f.columnType.isEmpty then "" else " GENERATED BY DEFAULT AS IDENTITY")
  | sqlite =>
    if isRowNumber m f then pure " PRIMARY KEY AUTOINCREMENT"
    else do
      Logged.line .warn
        ("SQLite cannot auto increment " ++ m.name ++ "." ++ f.column ++ ", only a single primary key column can be")
      pure ""

/-- The default value of a column. -/
def defaultClause (d : Dialect) (f : Field) : Logged String :=
  match f.defaultValue with
  | none => pure ""
  | some v => do
    let text ← Logged.ofExcept (Halt.ofAbort (d.literal v))
    pure (" DEFAULT " ++ text)

/-- The definition of the column of a field. -/
def columnDefinition (d : Dialect) (m : Model) (f : Field) : Logged String := do
  let type ← d.fieldType f
  let default ← d.defaultClause f
  let counting ← if f.autoIncrement then d.autoIncrement m f else pure ""
  pure (d.quoteName f.column ++ " " ++ type ++ (if !f.nullable && !f.primaryKey then " NOT NULL" else "") ++ default ++
    counting ++ (if f.unique && !f.primaryKey then " UNIQUE" else ""))

/-- The primary key of a table. In SQLite a row number declares it with its column. -/
def primaryKeyClause (d : Dialect) (m : Model) : String :=
  if d = sqlite ∧ m.onePrimary?.any (isRowNumber m) then ""
  else if m.primaryKeys.isEmpty then ""
  else ",\nPRIMARY KEY (" ++ d.quoteNames (m.primaryKeys.map (·.column)) ++ ")"

/-- A foreign key of a table. -/
def foreignKeyClause (d : Dialect) (m : Model) (key : ForeignKey) : String :=
  match m.field? key.field with
  | some f =>
    ",\nFOREIGN KEY (" ++ d.quoteName f.column ++ ") REFERENCES " ++ d.quoteName key.table ++
      "(" ++ d.quoteName key.column ++ ")"
  | none => ""

/-- The clause that keeps a statement from failing when its object exists, or does not. -/
def guardClause (words : String) (wanted : Bool) : String :=
  if wanted then words ++ " " else ""

/-- The statement that creates an index. MySQL cannot be told to keep an existing one. -/
def createIndex (d : Dialect) (m : Model) (index : Index) (ifNotExists : Bool) : Statement :=
  let columns := (index.fields.filterMap m.field?).map (·.column)
  .ofText ("CREATE " ++ (if index.unique then "UNIQUE " else "") ++ "INDEX " ++
    guardClause "IF NOT EXISTS" (ifNotExists && d != mysql) ++ d.quoteName index.name ++ " ON " ++ d.quoteName m.name ++
    " (" ++ d.quoteNames columns ++ ")")

/-- The statements that create a table and its indexes. -/
def createTable (d : Dialect) (m : Model) (foreignKeys ifNotExists : Bool) : Logged (List Statement) := do
  let columns ← m.fields.mapM (d.columnDefinition m)
  let table := Statement.ofText
    ("CREATE TABLE " ++ guardClause "IF NOT EXISTS" ifNotExists ++ d.quoteName m.name ++ " (\n" ++
      Text.separated ",\n" columns ++ d.primaryKeyClause m ++
      (if foreignKeys then String.join (m.foreignKeys.map (d.foreignKeyClause m)) else "") ++ ")")
  pure (table :: (m.plainIndexes ++ m.uniqueIndexes).map fun index => d.createIndex m index ifNotExists)

/-- The statement that drops a table. -/
def dropTable (d : Dialect) (m : Model) (ifExists : Bool) : Statement :=
  .ofText ("DROP TABLE " ++ guardClause "IF EXISTS" ifExists ++ d.quoteName m.name)

/-- The name of the constraint that makes a field reference another table. -/
def constraintName (m : Model) (f : Field) : String :=
  "fk_" ++ m.name ++ "_" ++ f.column

/-- The statement that makes a field reference the primary key of another table. SQLite has none. -/
def addForeignKey (d : Dialect) (m related : Model) (field : String) : Except Fault Statement :=
  if d = sqlite then .error (.unsupported (.dialect d) .addConstraint)
  else do
    let f ← m.requireField field
    let target ← related.requireOnePrimary
    .ok (.ofText ("ALTER TABLE " ++ d.quoteName m.name ++ " ADD CONSTRAINT " ++ d.quoteName (constraintName m f) ++
      " FOREIGN KEY (" ++ d.quoteName f.column ++ ") REFERENCES " ++ d.quoteName related.name ++
      "(" ++ d.quoteName target.column ++ ")"))

/-- The statement that drops the constraint of a field. SQLite has none. -/
def dropForeignKey (d : Dialect) (m : Model) (field : String) : Except Fault Statement :=
  if d = sqlite then .error (.unsupported (.dialect d) .dropConstraint)
  else do
    let f ← m.requireField field
    let verb := if d = mysql then " DROP FOREIGN KEY " else " DROP CONSTRAINT "
    .ok (.ofText ("ALTER TABLE " ++ d.quoteName m.name ++ verb ++ d.quoteName (constraintName m f)))

end RecordSql.Dialect
