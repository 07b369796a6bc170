import RecordSql.Dialect.Basic
import RecordSql.Text.Quoted
import RecordSql.Text.Section
import RecordSql.Text.Separated

/-!
# Quoted names

Names of tables, columns, indexes and constraints stand between quote characters, so any text can be a name.
-/

namespace RecordSql.Dialect

/-- The character that encloses names. -/
def nameQuote : Dialect → Char
  | mysql => Text.graveAccent
  | _ => Text.quotationMark

/-- A quoted name. -/
def quoteName (d : Dialect) (name : String) : String :=
  Text.enclosed d.nameQuote name

/-- Quoted names with commas between them. -/
def quoteNames (d : Dialect) (names : List String) : String :=
  Text.separated ", " (names.map d.quoteName)

end RecordSql.Dialect
