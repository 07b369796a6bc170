import RecordSql.Registry
import RecordSql.Session.Relation
import RecordSql.Template

/-!
# Sessions

The operations of a session: creating and dropping tables, writing and reading records, and running statements of one's own. What
can be built without the database is built before anything is sent. An operation starts with an empty report.
-/

namespace RecordSql

/-- What a find asks for: the records that fulfil a search, with clauses, and the relations to resolve for them. -/
structure Find where
  search : Condition := .empty
  clauses : Clauses := {}
  relations : List Relation := []

/-- The dialect and the options that a connection URL names. -/
def Registry.connect (r : Registry) (url : String) : Logged (Dialect × Config) := do
  let config ← Config.ofUrl url
  let dialect ← Logged.ofExcept (Halt.ofFault (r.get config.dialect))
  return (dialect, config)

namespace Session

variable {σ : Type}

/-- Starts an operation with an empty report. -/
def start : Run σ Unit :=
  modify fun w => { w with report := {} }

/-- The report of the operation so far. -/
def report : Run σ Report := do
  return (← get).report

/-- The value in the first column of the first row. -/
def firstValue? (rows : List Row) : Option Value :=
  rows.head?.bind fun row => row.values.head?

/-- Whether the key that an insert generates comes back as a row. -/
def returnsKey (d : Dialect) (m : Model) : Bool :=
  d.keySource == .returning && m.onePrimary?.any (·.autoIncrement)

/-- The condition that matches the primary key of a record. -/
def identify (d : Dialect) (m : Model) (r : Record) : Except Fault Condition := do
  let keys ← r.assignments m m.primaryKeys
  if keys.isEmpty then .error (.unsupported (.dialect d) .identifyWithoutKey)
  else .ok (Dialect.matching keys)

/-- The insert of a record. -/
def insertStatement (d : Dialect) (m : Model) (r : Record) : Except Fault Statement := do
  let values ← r.insertAssignments m
  if values.isEmpty then .error (.unsupported (.dialect d) .insertWithoutValues)
  else .ok (d.insert m values)

/-- The update of the row of a record. -/
def updateStatement (d : Dialect) (m : Model) (r : Record) : Except Fault Statement := do
  let values ← r.assignments m (m.fields.filter fun f => !f.primaryKey)
  if values.isEmpty then .error (.unsupported (.dialect d) .updateWithoutAssignments)
  else
    let key ← identify d m r
    let filter ← d.condition key {}
    .ok (d.update m values ++ filter)

/-- The time of deletion as the field for it holds it. -/
def deletionTime (now : OffsetTimestamp) (prototype : Value) : Value :=
  match prototype.type with
  | .timestamp => .of (.timestamp now.clock)
  | .date => .of (.date now.clock.date)
  | .integer .int64 => (Value.integer? .int64 now.unixSeconds).getD (.of (.offsetTimestamp now))
  | _ => .of (.offsetTimestamp now)

/-- The delete of the row of a record, or the update that marks it as deleted. -/
def deleteStatement (d : Dialect) (config : Config) (now : OffsetTimestamp) (m : Model) (r : Record) :
    Except Fault Statement := do
  let key ← identify d m r
  let change ←
    match m.softDeleteField? with
    | some f => if config.softDelete then d.softDelete m (deletionTime now f.prototype) else .ok (d.delete m)
    | none => .ok (d.delete m)
  let filter ← d.condition key {}
  .ok (change ++ filter)

/-- The replacement of the row of a record. -/
def replacement (d : Dialect) (m : Model) (r : Record) : Except Fault Replacement := do
  let values ← r.assignments m m.fields
  d.replace m values

/-- Inserts a record from the given position and gives the key that the database generated, if there is one. -/
def insertAt (c : Connection σ) (index : ReportIndex) (t : RecordType) (r : Record) : Run σ (Option Int) := do
  let m ← Run.model t
  let s ← Run.ofExcept (insertStatement c.dialect m r)
  if returnsKey c.dialect m then
    match firstValue? (← c.fetch index s) with
    | none => Run.fail (.keyNotReturned m.name)
    | some v => return some (← Run.ofExcept (v.toInteger .int64)).1
  else
    return (← c.execute index s).lastId

/-- Inserts a record. -/
def insert (c : Connection σ) (t : RecordType) (r : Record) : Run σ (Option Int) := do
  start
  insertAt c .root t r

/-- Inserts the records of a batch, the first of which is item `i`. An item that fails is entered into the report. -/
def insertFrom (c : Connection σ) (t : RecordType) (i : Nat) : List Record → Run σ (List (Option Int))
  | [] => return []
  | r :: rs => do
    let id ←
      match ← Run.attempt (insertAt c (.item i) t r) with
      | .ok id => pure id
      | .error f => do
        Run.recordFailure (.item i) (f.message c.library)
        pure none
    return id :: (← insertFrom c t (i + 1) rs)

/-- Inserts every record with its own statement. An item that fails does not stop the batch. -/
def insertMany (c : Connection σ) (t : RecordType) (rs : List Record) : Run σ (Outcome (List (Option Int))) := do
  start
  let ids ← insertFrom c t 0 rs
  return ⟨ids, ← report⟩

/-- Inserts a record, or overwrites the one with the same primary key. -/
def replace (c : Connection σ) (t : RecordType) (r : Record) : Run σ RowsAffected := do
  start
  let m ← Run.model t
  match ← Run.ofExcept (replacement c.dialect m r) with
  | .statement s => c.execute .root s
  | .updateElseInsert update insert =>
    let updated ← c.execute (.item 0) update
    match updated.count with
    | some 0 => c.execute (.item 1) insert
    | some _ => return updated
    | none => Run.fail (.unsupported (.dialect c.dialect) .replaceWithoutCount)

/-- Updates all but the primary key of the row of a record. -/
def update (c : Connection σ) (t : RecordType) (r : Record) : Run σ RowsAffected := do
  start
  let m ← Run.model t
  let s ← Run.ofExcept (updateStatement c.dialect m r)
  c.execute .root s

/-- Deletes the row of a record, or marks it as deleted at the time `now`. -/
def delete (c : Connection σ) (now : OffsetTimestamp) (t : RecordType) (r : Record) : Run σ RowsAffected := do
  start
  let m ← Run.model t
  let s ← Run.ofExcept (deleteStatement c.dialect c.config now m r)
  c.execute .root s

/-- Executes statements in order, the first of which is item `i`, until one fails. -/
def executeFrom (c : Connection σ) (i : Nat) : List Statement → Run σ Unit
  | [] => return ()
  | s :: rest => do
    discard (c.execute (.item i) s)
    executeFrom c (i + 1) rest

/-- Creates the table of a record type with its foreign keys and its indexes. -/
def createTable (c : Connection σ) (t : RecordType) (ifNotExists : Bool) : Run σ Unit := do
  start
  let m ← Run.model t
  let statements ← Run.ofLogged (c.dialect.createTable m true ifNotExists)
  executeFrom c 0 statements

/-- Drops the table of a record type. -/
def dropTable (c : Connection σ) (t : RecordType) (ifExists : Bool) : Run σ Unit := do
  start
  let m ← Run.model t
  discard (c.execute .root (c.dialect.dropTable m ifExists))

/-- Whether the table of a record type exists. -/
def hasTable (c : Connection σ) (t : RecordType) : Run σ Bool := do
  start
  let m ← Run.model t
  match firstValue? (← c.fetch .root (c.dialect.hasTable m)) with
  | none => return false
  | some v => return 0 < (← Run.ofExcept (v.toInteger .int64)).1

/-- Counts the records that fulfil a search. -/
def count (c : Connection σ) (t : RecordType) (search : Condition) : Run σ Int := do
  start
  let m ← Run.model t
  let s ← Run.ofExcept (c.scopedQuery m (c.dialect.count m) search {})
  match firstValue? (← c.fetch .root s) with
  | none => return 0
  | some v => return (← Run.ofExcept (v.toInteger .uint64)).1

/-- Finds records and resolves relations for them. Only the query of the records themselves can fail the operation. -/
def find (c : Connection σ) (t : RecordType) (request : Find) : Run σ (Outcome (List Record)) := do
  start
  let m ← Run.model t
  let rows ← c.findRows .root m request.search request.clauses
  let records ← Run.ofHalt (Record.ofRows m rows)
  let records ← Relation.preload c t .root request.relations records
  return ⟨records, ← report⟩

/-- Renders a template for the model of a record type. -/
def template (c : Connection σ) (t : RecordType) (skeleton : Statement) (fragments : List (String × Statement)) :
    Run σ Statement := do
  start
  let m ← Run.model t
  let ctx := fragments.foldl (fun ctx (name, fragment) => ctx.supply name fragment) { model := m : TemplateContext }
  Run.ofExcept (Template.render c.dialect skeleton ctx)

/-- Executes a statement. -/
def execute (c : Connection σ) (s : Statement) : Run σ RowsAffected := do
  start
  c.execute .root s

/-- Fetches the rows of a statement. -/
def fetch (c : Connection σ) (s : Statement) : Run σ (List Row) := do
  start
  c.fetch .root s

/-- Makes a field of a record type reference the primary key of another. -/
def addForeignKey (c : Connection σ) (t related : RecordType) (field : String) : Run σ Unit := do
  start
  let m ← Run.model t
  let target ← Run.model related
  let s ← Run.ofExcept (c.dialect.addForeignKey m target field)
  discard (c.execute .root s)

/-- Drops the constraint of a field of a record type. -/
def dropForeignKey (c : Connection σ) (t : RecordType) (field : String) : Run σ Unit := do
  start
  let m ← Run.model t
  let s ← Run.ofExcept (c.dialect.dropForeignKey m field)
  discard (c.execute .root s)

end Session

end RecordSql
