import RecordSql.Log
import RecordSql.Statement

/-!
# Reports

An operation that sends several statements keeps a report: an entry for every statement in the order of sending, and a failure for
every batch item and every relation that did not complete.
-/

namespace RecordSql

/-- A statement that was sent. -/
structure Entry where
  index : ReportIndex
  sql : String
  args : List Value
  error : Option String
  deriving DecidableEq

/-- The statements of an operation and what did not complete. -/
structure Report where
  entries : List Entry := []
  failures : List Failure := []
  deriving DecidableEq

namespace Report

/-- The entries at a position. -/
def entriesAt (r : Report) (index : ReportIndex) : List Entry :=
  r.entries.filter (·.index == index)

/-- Whether everything completed. -/
def isOk (r : Report) : Bool :=
  r.failures.isEmpty

/-- The fault that sums up the failures. -/
def fault? (r : Report) : Option Fault :=
  if r.isOk then none else some (.incomplete r.failures)

/-- The report with one more entry. -/
def record (r : Report) (entry : Entry) : Report :=
  { r with entries := r.entries ++ [entry] }

/-- The report with one more failure. -/
def fail (r : Report) (index : ReportIndex) (message : String) : Report :=
  { r with failures := r.failures ++ [⟨index, message⟩] }

/-- The line that tells of a failure. -/
def failureLine (index : ReportIndex) (message : String) : LogLine :=
  ⟨.warn, "Operation " ++ index.text ++ " failed: " ++ message⟩

/-- The line that tells of a statement and how it went: with the message of its fault, or without. -/
def statementLine (s : Statement) : Option String → LogLine
  | none => ⟨.debug, s.display⟩
  | some message => ⟨.error, message ++ "\nwhile running " ++ s.display⟩

end Report

/-- The value of an operation with its report. -/
structure Outcome (α : Type) where
  value : α
  report : Report

/-- The value when everything completed, otherwise the fault that sums up the failures. -/
def Outcome.result {α : Type} (o : Outcome α) : Except Fault α :=
  match o.report.fault? with
  | some f => .error f
  | none => .ok o.value

end RecordSql
