import RecordSql.Dialect.Query

/-!
# Changes

Statements that write rows: insert, update, delete, and the replacement of the row with the same primary key. A dialect either has a
statement for the replacement, or it is an update that is followed by an insert when the update met no row.
-/

namespace RecordSql

/-- How a row is replaced. -/
inductive Replacement where
  | statement (s : Statement)
  | updateElseInsert (update insert : Statement)
  deriving DecidableEq

namespace Dialect

/-- The values of assignments, in order. -/
def assignedValues (values : List Assignment) : List Value :=
  values.map (·.value)

/-- The insert of the given values, without the clause that returns a key. -/
def insertText (d : Dialect) (verb : String) (m : Model) (values : List Assignment) : String :=
  verb ++ " INTO " ++ d.quoteName m.name ++ " (" ++ d.quoteNames (values.map (·.column)) ++ ")\nVALUES (" ++
    Text.separated ", " (values.map fun _ => "?") ++ ")"

/-- The clause that returns the key that the database generates, where it comes back as a row. -/
def returningClause (d : Dialect) (m : Model) : String :=
  match d.keySource, m.onePrimary? with
  | .returning, some f => if f.autoIncrement then "\nRETURNING " ++ d.quoteName f.column else ""
  | _, _ => ""

/-- The insert of the given values. -/
def insert (d : Dialect) (m : Model) (values : List Assignment) : Statement :=
  ⟨d.insertText "INSERT" m values ++ d.returningClause m, assignedValues values⟩

/-- The update of all rows to the given values. -/
def update (d : Dialect) (m : Model) (values : List Assignment) : Statement :=
  ⟨"UPDATE " ++ d.quoteName m.name ++ "\nSET " ++
    Text.separated ", " (values.map fun v => d.quoteName v.column ++ " = ?"), assignedValues values⟩

/-- The delete of all rows. -/
def delete (d : Dialect) (m : Model) : Statement :=
  .ofText ("DELETE FROM " ++ d.quoteName m.name)

/-- The update of all rows that marks them as deleted. -/
def softDelete (d : Dialect) (m : Model) (deletedAt : Value) : Except Fault Statement :=
  match m.softDeleteField? with
  | some f => .ok (d.update m [⟨f.column, deletedAt⟩])
  | none => .error (.unknownField m.name "soft delete")

/-- The values of primary key columns and the other values, each in order. Some value must be of a key column. -/
def splitPrimaryKey (d : Dialect) (m : Model) (values : List Assignment) :
    Except Fault (List Assignment × List Assignment) :=
  let (keys, rest) := values.partition fun v => m.isKeyColumn v.column
  if keys.isEmpty then .error (.unsupported (.dialect d) .replaceWithoutKey) else .ok (keys, rest)

/-- The condition that every one of the columns has its value. -/
def matching (values : List Assignment) : Condition :=
  .all (values.map fun v => some (.eq v.column v.value))

/-- The two halves of a text around the first occurrence of `mark`, which starts the second half. -/
def cutBefore (mark : List Char) : List Char → List Char × List Char
  | [] => ([], [])
  | c :: cs =>
    if mark.isPrefixOf (c :: cs) then ([], c :: cs)
    else
      let (before, after) := cutBefore mark cs
      (c :: before, after)

/-- The clause that turns an insert into a replacement in Postgres. -/
def conflictClause (d : Dialect) (keys rest : List Assignment) : String :=
  "\nON CONFLICT (" ++ d.quoteNames (keys.map (·.column)) ++ ")" ++
    if rest.isEmpty then " DO NOTHING"
    else
      " DO UPDATE SET\n" ++ Text.separated ",\n"
        (rest.map fun v => d.quoteName v.column ++ " = EXCLUDED." ++ d.quoteName v.column)

/-- The replacement of the row with the same primary key. A record of key columns only is updated to its own key, which tells
whether its row exists. In Postgres the conflict clause goes before the first text that reads like a returning clause. -/
def replace (d : Dialect) (m : Model) (values : List Assignment) : Except Fault Replacement :=
  match d.splitPrimaryKey m values with
  | .error f => .error f
  | .ok (keys, rest) =>
    match d with
    | generic =>
      match d.condition (matching keys) {} with
      | .error f => .error f
      | .ok filter =>
        .ok (.updateElseInsert (d.update m (if rest.isEmpty then keys else rest) ++ filter) (d.insert m values))
    | mysql | sqlite => .ok (.statement ⟨d.insertText "REPLACE" m values, assignedValues values⟩)
    | postgres =>
      let (before, after) := cutBefore "\nRETURNING ".toList (d.insert m values).sql.toList
      .ok (.statement ⟨String.ofList before ++ d.conflictClause keys rest ++ String.ofList after, assignedValues values⟩)

/-- A statement as it is sent. Postgres numbers its placeholders. -/
def finish (d : Dialect) (s : Statement) : Statement :=
  match d with
  | postgres => { s with sql := Text.numbered s.sql }
  | generic | mysql | sqlite => s

/-- The statement as it is sent, with the placeholders numbered by slices. Nothing comes of it where a stretch would start or end inside a
character. -/
def finish? (d : Dialect) (s : Statement) : Option Statement :=
  match d with
  | postgres => (Text.numbered? s.sql).map fun sql => { s with sql }
  | generic | mysql | sqlite => some s

end Dialect

end RecordSql
