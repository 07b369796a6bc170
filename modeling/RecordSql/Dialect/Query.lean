import RecordSql.Condition.Compile
import RecordSql.Model.Basic

/-!
# Queries

Statements that read: counting rows, selecting columns, and the condition and the clauses that follow either.
-/

namespace RecordSql

/-- The directions of an ordering. -/
inductive Direction where
  | ascending
  | descending
  deriving DecidableEq, Repr

/-- The keyword of a direction. -/
def Direction.keyword : Direction → String
  | ascending => " ASC"
  | descending => " DESC"

/-- A column that rows are ordered by. -/
structure OrderBy where
  column : String
  direction : Direction
  deriving DecidableEq

/-- What follows the condition of a statement. -/
structure Clauses where
  limit : Option Nat := none
  offset : Option Nat := none
  orderBy : List OrderBy := []
  groupBy : List String := []
  deriving DecidableEq

namespace Dialect

/-- The query that counts the tables named like the model. -/
def hasTable (d : Dialect) (m : Model) : Statement :=
  let catalog :=
    match d with
    | generic => "information_schema.tables WHERE table_name = ?"
    | mysql => "information_schema.tables WHERE table_schema = DATABASE() AND table_name = ?"
    | postgres => "pg_catalog.pg_tables WHERE tablename = ?"
    | sqlite => "sqlite_master WHERE type = 'table' AND name = ?"
  ⟨"SELECT COUNT(*) FROM " ++ catalog, [Value.varchar m.name]⟩

/-- The query that counts rows. -/
def count (d : Dialect) (m : Model) : Statement :=
  .ofText ("SELECT COUNT(*)\nFROM " ++ d.quoteName m.name)

/-- The query of the given columns. -/
def find (d : Dialect) (m : Model) (columns : List String) : Statement :=
  .ofText ("SELECT " ++ d.quoteNames columns ++ "\nFROM " ++ d.quoteName m.name)

/-- The limit clause. MySQL and SQLite take an offset only after a limit, so a limit that no table reaches stands for none. -/
def limitClause (d : Dialect) (limit offset : Option Nat) : String :=
  match limit, offset, d with
  | some n, _, _ => "\nLIMIT " ++ toString n
  | none, some _, mysql => "\nLIMIT 18446744073709551615"
  | none, some _, sqlite => "\nLIMIT -1"
  | none, _, _ => ""

/-- The limit and offset clauses. -/
def limitOffset (d : Dialect) (limit offset : Option Nat) : String :=
  d.limitClause limit offset ++
    match offset with
    | some n => "\nOFFSET " ++ toString n
    | none => ""

/-- The clauses after the condition, in order. -/
def clauses (d : Dialect) (c : Clauses) : String :=
  (if c.groupBy.isEmpty then "" else "\nGROUP BY " ++ d.quoteNames c.groupBy) ++
    (if c.orderBy.isEmpty then ""
     else "\nORDER BY " ++ Text.separated ", " (c.orderBy.map fun o => d.quoteName o.column ++ o.direction.keyword)) ++
    d.limitOffset c.limit c.offset

/-- The condition and the clauses after it. A condition without leaves leaves no trace. -/
def condition (d : Dialect) (search : Condition) (c : Clauses) : Except Fault Statement :=
  match search.compile d with
  | .error f => .error f
  | .ok fragment =>
    let filter := if fragment.isEmpty then .empty else .ofText "\nWHERE " ++ fragment
    .ok (filter ++ .ofText (d.clauses c))

end Dialect

end RecordSql
