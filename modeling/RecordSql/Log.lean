import RecordSql.Fault

/-!
# The log

Building and running statements leaves lines in a log. A line stays in the log whatever happens after it, also when the operation
that wrote it fails.
-/

namespace RecordSql

/-- How grave a log line is. -/
inductive Level where
  | error
  | warn
  | debug
  deriving DecidableEq, Repr

/-- A line of the log. -/
structure LogLine where
  level : Level
  text : String
  deriving DecidableEq

/-- A computation that writes log lines and may end without a result. -/
abbrev Logged (α : Type) : Type :=
  ExceptT Halt (StateM (List LogLine)) α

namespace Logged

/-- Writes one line. -/
def line (level : Level) (text : String) : Logged Unit :=
  modify (· ++ [⟨level, text⟩])

/-- Writes the given lines. -/
def lines (ls : List LogLine) : Logged Unit :=
  modify (· ++ ls)

/-- A result that may fail. -/
def ofExcept {α : Type} (x : Except Halt α) : Logged α :=
  liftExcept x
where
  liftExcept : Except Halt α → Logged α
    | .ok a => pure a
    | .error h => throw h

/-- The outcome with the lines that were written. -/
def outcome {α : Type} (x : Logged α) : Except Halt α × List LogLine :=
  x.run.run []

end Logged

end RecordSql
