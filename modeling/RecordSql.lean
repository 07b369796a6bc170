import RecordSql.Library.Records
import RecordSql.Session.Basic
import RecordSql.Text.CharTable
import RecordSql.Proofs.Condition.Formula
import RecordSql.Proofs.Text.Enclosed
import RecordSql.Proofs.Condition.Spelling
import RecordSql.Proofs.Condition.Meaning
import RecordSql.Proofs.Session.Asks
import RecordSql.Proofs.Condition.NullTest
import RecordSql.Proofs.Session.Scope
import RecordSql.Proofs.Text.Numbered
import RecordSql.Proofs.Dialect.Alignment
import RecordSql.Proofs.Session.Aligned
import RecordSql.Proofs.Session.Alike
import RecordSql.Proofs.Session.Tables
import RecordSql.Proofs.Session.Pointwise
import RecordSql.Proofs.Session.Preload
import RecordSql.Proofs.Condition.Verdict
import RecordSql.Proofs.Condition.Fluent
import RecordSql.Proofs.Text.Requoted
import RecordSql.Proofs.Dialect.Bare
import RecordSql.Proofs.Session.Ends
import RecordSql.Proofs.Session.Attached
import RecordSql.Proofs.Report.Preorder
import RecordSql.Proofs.Session.Reported
import RecordSql.Proofs.Dialect.Command
import RecordSql.Proofs.Session.Batch
import RecordSql.Proofs.Session.Keyed
import RecordSql.Proofs.Session.Table
import RecordSql.Proofs.Session.Upsert
import RecordSql.Proofs.Template.Rendered
import RecordSql.Proofs.Session.Operation
import RecordSql.Proofs.Session.Gate
import RecordSql.Proofs.Session.Refused
import RecordSql.Proofs.Session.Linked
import RecordSql.Proofs.Session.Paired
import RecordSql.Proofs.Session.Insert
import RecordSql.Proofs.Session.WholeKey
import RecordSql.Proofs.Value.Kind
import RecordSql.Proofs.Value.Typed
import RecordSql.Proofs.Session.Represented
import RecordSql.Proofs.Dialect.Holes
import RecordSql.Proofs.Template.Balanced
import RecordSql.Proofs.Session.Conflict
import RecordSql.Proofs.Dialect.Query
import RecordSql.Proofs.Model.Declared
import RecordSql.Proofs.Value.Integer
import RecordSql.Proofs.Calendar.Literal
import RecordSql.Proofs.Logged
import RecordSql.Proofs.Dialect.Creation
import RecordSql.Proofs.Calendar.Instant
import RecordSql.Proofs.Calendar.OffsetLiteral
import RecordSql.Proofs.Dialect.StringLiteral
import RecordSql.Proofs.Value.Key
import RecordSql.Proofs.Text.Separated
import RecordSql.Proofs.Dialect.Quoted
import RecordSql.Proofs.Text.Shortened
import RecordSql.Proofs.Calendar.TimeLiteral
