import RecordSql.Condition.Basic
import RecordSql.Dialect.Basic
import RecordSql.Report.Index
import RecordSql.Value.Inspect
import RecordSql.Value.Native

/-!
# Faults

Every way in which an operation can fail, with the message that tells it. A fault can stand inside a context that says what was
being done; the message then starts with the context. Where a library has refused a text, the message ends with the causes that the
library gives. Two more outcomes are not faults: the operation is aborted, and nothing of it is recorded or recovered.
-/

namespace RecordSql

/-- What is wrong with the nodes of a condition. -/
inductive TreeFlaw where
  | binaryWithoutOperands
  | notWithoutOperand
  | fragmentsLeft
  deriving DecidableEq

/-- The words for a flaw. -/
def TreeFlaw.reason : TreeFlaw → String
  | binaryWithoutOperands => "binary combinator needs two operands"
  | notWithoutOperand => "NOT needs one operand"
  | fragmentsLeft => "more than one fragment left after the last node"

/-- What can be asked of a backend in vain. -/
inductive Request where
  | replaceWithoutKey
  | replaceWithoutCount
  | insertWithoutValues
  | updateWithoutAssignments
  | identifyWithoutKey
  | addConstraint
  | dropConstraint
  | rowCount
  deriving DecidableEq

/-- The words for a request. -/
def Request.words : Request → String
  | replaceWithoutKey => "replace without primary key values"
  | replaceWithoutCount => "replace without rows affected"
  | insertWithoutValues => "insert without values"
  | updateWithoutAssignments => "update without assignments"
  | identifyWithoutKey => "identify a record without primary key"
  | addConstraint => "ALTER TABLE ADD CONSTRAINT"
  | dropConstraint => "ALTER TABLE DROP CONSTRAINT"
  | rowCount => "rows affected"

/-- Who does not support a request. -/
inductive Backend where
  | dialect (d : Dialect)
  | driver
  deriving DecidableEq

/-- The name of a backend. -/
def Backend.name : Backend → String
  | dialect d => d.name
  | driver => "driver"

/-- What was being done when a fault arose. -/
inductive Activity where
  | decodingColumn (column : String)
  | loadingJoin (table : String)
  | loadingThrough (child join : String)
  deriving DecidableEq

/-- The words for an activity. -/
def Activity.words : Activity → String
  | decodingColumn column => "While decoding column " ++ column
  | loadingJoin table => "While loading the join table " ++ table
  | loadingThrough child join => "While loading " ++ child ++ " through " ++ join

/-- A way in which an operation fails. -/
inductive Fault where
  /-- The nodes of a condition do not combine; `position` is the node that shows it. -/
  | invalidTree (position : Nat) (flaw : TreeFlaw)
  /-- A membership test has no values. -/
  | emptyList (column : String)
  /-- A node does not carry the operand of its kind. -/
  | mismatchedOperand (position : Nat) (kind : NodeKind)
  /-- A token of a template stands for nothing. -/
  | unknownPlaceholder (token : String)
  /-- A model lacks a field, or a record lacks its value. -/
  | unknownField (model field : String)
  /-- A backend cannot do what is asked. -/
  | unsupported (backend : Backend) (request : Request)
  /-- No dialect has the name. -/
  | unknownDialect (name : String)
  /-- Some items or relations of an operation failed. -/
  | incomplete (failures : List Failure)
  /-- A value cannot be decoded into a type. -/
  | notConvertible (value : Value) (target : Native)
  /-- An integer is not a member of a type. -/
  | outOfRange (n : Int) (target : IntegerType)
  /-- A text does not denote a member of a type. -/
  | unreadable (text : String) (target : Native)
  /-- A row has no column of the name. -/
  | missingColumn (column : String)
  /-- A template has fewer arguments than placeholders. -/
  | tooFewArguments (arguments : Nat)
  /-- A template has more arguments than placeholders. -/
  | tooManyArguments (arguments : Nat)
  /-- An insert did not return its key. -/
  | keyNotReturned (model : String)
  /-- A connection URL cannot be read. -/
  | invalidUrl (url : String)
  /-- A session parameter is neither true nor false. -/
  | notAFlag (parameter value : String)
  /-- The database reported an error. -/
  | database (message : String)
  /-- A fault that arose during an activity. -/
  | during (activity : Activity) (cause : Fault)

/-- What the libraries that read decimals, identifiers and addresses say of a text that they refuse: the causes, each with the one behind
it after it. -/
structure ReadingLibrary where
  decimal : String → List String
  uuid : String → List String
  url : String → List String

namespace ReadingLibrary

/-- The library that gives no causes. -/
def silent : ReadingLibrary :=
  ⟨fun _ => [], fun _ => [], fun _ => []⟩

/-- The causes that are given when a text does not denote a member of a type. Dates and times are refused without a cause. -/
def causes (library : ReadingLibrary) : Native → String → List String
  | .decimal => library.decimal
  | .uuid => library.uuid
  | _ => fun _ => []

end ReadingLibrary

namespace Fault

/-- The message of a fault: the outermost activity first, and the causes that a library gives last. -/
def message (library : ReadingLibrary) : Fault → String
  | invalidTree position flaw => "Invalid expression tree at node " ++ toString position ++ ": " ++ flaw.reason
  | emptyList column => "Empty IN list for column " ++ column
  | mismatchedOperand position kind =>
    "Node " ++ toString position ++ " of type " ++ kind.name ++ " does not carry the expected operand"
  | unknownPlaceholder token => "Unknown template placeholder `" ++ token ++ "`"
  | unknownField model field => "Model " ++ model ++ " does not have a field " ++ field
  | unsupported backend request => "Operation `" ++ request.words ++ "` is not supported by " ++ backend.name
  | unknownDialect name => "No dialect registered with the name `" ++ name ++ "`"
  | incomplete failures => "Preload failed at " ++ ", ".intercalate (failures.map Failure.text)
  | notConvertible value target => "Cannot convert " ++ value.inspect ++ " into " ++ target.name
  | outOfRange n target => "Value " ++ toString n ++ " is out of range for " ++ target.name
  | unreadable text target =>
    ": ".intercalate (("Cannot parse `" ++ text ++ "` as " ++ target.readingName) :: library.causes target text)
  | missingColumn column => "Row does not have a column " ++ column
  | tooFewArguments n => "Template skeleton has more placeholders than its " ++ toString n ++ " arguments"
  | tooManyArguments n => "Template skeleton has " ++ toString n ++ " arguments but fewer placeholders"
  | keyNotReturned model => "Insert into " ++ model ++ " did not return the generated key"
  | invalidUrl url => ": ".intercalate (("Invalid connection URL `" ++ url ++ "`") :: library.url url)
  | notAFlag parameter value => "Session parameter " ++ parameter ++ " expects a boolean, found `" ++ value ++ "`"
  | database text => text
  | during activity cause => activity.words ++ ": " ++ cause.message library

/-- The fault inside all activities. -/
def root : Fault → Fault
  | during _ cause => cause.root
  | fault => fault

end Fault

/-- Why an operation is aborted. -/
inductive Abort where
  /-- A row names a column and has no value for it. -/
  | shortRow (column : String)
  /-- A timestamp leaves the calendar in universal time. -/
  | beyondCalendar (t : OffsetTimestamp)

/-- How an operation ends without a result. -/
inductive Halt where
  | failed (fault : Fault)
  | aborted (cause : Abort)

/-- A result that may fail, as a step of an operation. -/
def Halt.ofFault {α : Type} : Except Fault α → Except Halt α
  | .ok a => .ok a
  | .error f => .error (.failed f)

/-- A result that may abort, as a step of an operation. -/
def Halt.ofAbort {α : Type} : Except Abort α → Except Halt α
  | .ok a => .ok a
  | .error a => .error (.aborted a)

end RecordSql
