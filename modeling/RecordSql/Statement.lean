import RecordSql.Text.Section
import RecordSql.Text.Shortened
import RecordSql.Value.Json

/-!
# Statements

A statement is a text with the arguments of its placeholders, in order. Appending two statements appends their texts and their
arguments, so a statement does not depend on how its fragments were grouped.
-/

namespace RecordSql

/-- A text with the arguments of its placeholders. -/
structure Statement where
  sql : String
  args : List Value
  deriving DecidableEq

namespace Statement

/-- The statement without text and arguments. -/
def empty : Statement := ⟨"", []⟩

/-- A text without arguments. -/
def ofText (sql : String) : Statement := ⟨sql, []⟩

/-- The texts and the arguments of two statements, one after the other. -/
def append (s t : Statement) : Statement :=
  ⟨s.sql ++ t.sql, s.args ++ t.args⟩

instance : Append Statement := ⟨append⟩

@[simp] theorem sql_append (s t : Statement) : (s ++ t).sql = s.sql ++ t.sql := rfl

@[simp] theorem args_append (s t : Statement) : (s ++ t).args = s.args ++ t.args := rfl

/-- How fragments are grouped does not matter. -/
theorem append_assoc (s t u : Statement) : s ++ t ++ u = s ++ (t ++ u) := by
  change Statement.mk _ _ = Statement.mk _ _
  simp only [sql_append, args_append, String.append_assoc, List.append_assoc]

@[simp] theorem empty_append (s : Statement) : empty ++ s = s := by
  change Statement.mk ("" ++ s.sql) ([] ++ s.args) = s
  rw [String.empty_append, List.nil_append]

@[simp] theorem append_empty (s : Statement) : s ++ empty = s := by
  change Statement.mk (s.sql ++ "") (s.args ++ []) = s
  rw [String.append_empty, List.append_nil]

/-- The statement with one more argument. -/
def bind (s : Statement) (v : Value) : Statement :=
  { s with args := s.args ++ [v] }

/-- Whether the statement has neither text nor arguments. -/
def isEmpty (s : Statement) : Bool :=
  s.sql.isEmpty && s.args.isEmpty

/-- The arguments as the log shows them. -/
def jsonArgs (s : Statement) : String :=
  Value.jsonArray s.args

/-- The statement as the log shows it: its shortened text and its arguments. -/
def display (s : Statement) : String :=
  Text.shortened s.sql ++ " " ++ s.jsonArgs

/-- The number of placeholders of the text. -/
def placeholderCount (s : Statement) : Nat :=
  Text.placeholderCount s.sql

end Statement

end RecordSql
