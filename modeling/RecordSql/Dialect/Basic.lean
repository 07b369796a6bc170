/-!
# Dialects

The kinds of SQL that statements are written in. The generic dialect keeps to the standard.
-/

namespace RecordSql

/-- A kind of SQL. -/
inductive Dialect where
  | generic
  | mysql
  | postgres
  | sqlite
  deriving DecidableEq, Repr

/-- The dialects. -/
def Dialect.all : List Dialect :=
  [generic, mysql, postgres, sqlite]

/-- The name of a dialect. -/
def Dialect.name : Dialect → String
  | generic => "generic"
  | mysql => "mysql"
  | postgres => "postgres"
  | sqlite => "sqlite"

/-- How the key that an insert generates comes back. -/
inductive KeySource where
  /-- Reported with the number of affected rows. -/
  | lastInsertId
  /-- Returned as a row. -/
  | returning
  deriving DecidableEq, Repr

/-- How the key that an insert generates comes back in a dialect. -/
def Dialect.keySource : Dialect → KeySource
  | postgres => .returning
  | _ => .lastInsertId

end RecordSql
