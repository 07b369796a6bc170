import RecordSql.Config
import RecordSql.Dialect.Change
import RecordSql.Dialect.Table
import RecordSql.Executor
import RecordSql.Record
import RecordSql.Report.Basic

/-!
# Running statements

An operation of a session runs over a world: the state of the executor, the statements it has received, the log, the record types
whose models have been described, and the report of the operation. All of these keep what happened before a fault or an abort.
Every statement goes through `send`, which finishes it for the dialect, logs it and enters it into the report.
-/

namespace RecordSql

/-- What the operations of a session act on. -/
structure World (σ : Type) where
  executor : σ
  /-- The statements that the executor has received, in order. -/
  sent : List Statement := []
  log : List LogLine := []
  /-- The identifiers of the record types whose models have been described. -/
  described : List String := []
  report : Report := {}

/-- What an operation of a session needs to know. -/
structure Connection (σ : Type) where
  executor : Executor σ
  dialect : Dialect
  config : Config
  /-- What messages take from the libraries that read texts. -/
  library : ReadingLibrary

/-- An operation of a session. -/
abbrev Run (σ α : Type) : Type :=
  ExceptT Halt (StateM (World σ)) α

namespace Run

variable {σ α : Type}

/-- A result that may fail. -/
def ofExcept : Except Fault α → Run σ α
  | .ok a => pure a
  | .error f => throw (.failed f)

/-- A result that may end the operation. -/
def ofHalt : Except Halt α → Run σ α
  | .ok a => pure a
  | .error h => throw h

/-- Ends the operation with a fault. -/
def fail (f : Fault) : Run σ α :=
  throw (.failed f)

/-- Writes log lines. -/
def writeLog (lines : List LogLine) : Run σ Unit :=
  modify fun w => { w with log := w.log ++ lines }

/-- A computation that writes log lines. -/
def ofLogged (x : Logged α) : Run σ α := do
  let (result, lines) := x.outcome
  writeLog lines
  ofHalt result

/-- The result of an operation or the fault that ended it. An abort is not caught. -/
def attempt (x : Run σ α) : Run σ (Except Fault α) :=
  tryCatch (do return .ok (← x)) fun
    | .failed f => pure (.error f)
    | .aborted a => throw (.aborted a)

/-- An operation whose faults tell what was being done. -/
def during (activity : Activity) (x : Run σ α) : Run σ α :=
  tryCatch x fun
    | .failed f => throw (.failed (.during activity f))
    | .aborted a => throw (.aborted a)

/-- Enters a failure with its message into the report and the log. -/
def recordFailure (index : ReportIndex) (message : String) : Run σ Unit :=
  modify fun w => { w with
    report := w.report.fail index message
    log := w.log ++ [Report.failureLine index message] }

/-- The model of a record type. It is described when it is first needed, which is logged. -/
def model (t : RecordType) : Run σ Model := do
  let w ← get
  if w.described.contains t.id then
    pure t.model
  else
    let (m, warnings) := t.description.build
    set { w with
      described := w.described ++ [t.id]
      log := w.log ++ warnings ++ [LogLine.mk .debug ("Described model " ++ m.name)] }
    pure m

end Run

namespace Connection

variable {σ : Type}

/-- The log lines for a statement: faults are always logged, success only when the session asks for it. -/
def statementLines (c : Connection σ) (s : Statement) : Except Fault (List Reply) → List LogLine
  | .ok _ => if c.config.debug then [Report.statementLine s none] else []
  | .error f => [Report.statementLine s (some (f.message c.library))]

/-- The fault of a result. -/
def faultOf {α : Type} : Except Fault α → Option Fault
  | .ok _ => none
  | .error f => some f

/-- The world after a statement was sent from the given position, and what was collected from the answers. -/
def sendStep (c : Connection σ) (index : ReportIndex) (s : Statement) (w : World σ) :
    Except Fault (List Reply) × World σ :=
  let finished := c.dialect.finish s
  let (response, executor) := c.executor.answer finished w.executor
  let result := response.collect
  let entry : Entry := ⟨index, finished.sql, finished.args, (faultOf result).map (Fault.message c.library)⟩
  (result, { w with
    executor
    sent := w.sent ++ [finished]
    log := w.log ++ c.statementLines finished result
    report := w.report.record entry })

/-- Sends a statement and collects the replies. -/
def send (c : Connection σ) (index : ReportIndex) (s : Statement) : Run σ (List Reply) := do
  let (result, w) := c.sendStep index s (← get)
  set w
  Run.ofExcept result

/-- Sends a statement and collects the rows. -/
def fetch (c : Connection σ) (index : ReportIndex) (s : Statement) : Run σ (List Row) := do
  return (← c.send index s).filterMap Reply.row?

/-- Sends a statement and adds up the counts. -/
def execute (c : Connection σ) (index : ReportIndex) (s : Statement) : Run σ RowsAffected := do
  return RowsAffected.extend {} ((← c.send index s).filterMap Reply.affected?)

/-- The search restricted to rows that do not count as deleted, where the session honours soft deletion. -/
def scope (c : Connection σ) (m : Model) (search : Condition) : Condition :=
  match m.softDeleteField? with
  | some f => if c.config.softDelete then search.and (.null false f.column) else search
  | none => search

/-- A query followed by a scoped search and clauses. -/
def scopedQuery (c : Connection σ) (m : Model) (query : Statement) (search : Condition) (clauses : Clauses) :
    Except Fault Statement :=
  (c.dialect.condition (c.scope m search) clauses).map (query ++ ·)

/-- The rows of a table that fulfil a scoped search, with all columns of the model. -/
def findRows (c : Connection σ) (index : ReportIndex) (m : Model) (search : Condition) (clauses : Clauses) :
    Run σ (List Row) := do
  let s ← Run.ofExcept (c.scopedQuery m (c.dialect.find m m.columns) search clauses)
  c.fetch index s

end Connection

end RecordSql
