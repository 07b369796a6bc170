import RecordSql.Proofs.Session.Alike
import RecordSql.Proofs.Session.Scope
import RecordSql.Proofs.Value.Same

/-!
# A database of fixed tables

`Tables` holds the rows of every table in order. An executor answers a query of a relation from them when it gives exactly the rows
whose linking column has one of the keys that are asked for, and no deleted row where the session leaves those out
(`Connection.Answers`); a model is `Readable` by a field when its rows decode and the field keeps the key of its column. The rows of a
query are then the rows of the table that pass two tests, in order (`on_findRows`, `ofRows_select`).
-/

namespace RecordSql

/-- The rows of every table, in order. A row gives every column its value. -/
structure Tables where
  rows : String → List (String → Value)

namespace Tables

/-- A row as an answer holds it. -/
def answerRow (columns : List String) (row : String → Value) : Row :=
  ⟨columns, columns.map row⟩

/-- The rows of the table of a model, but for those that are deleted. -/
def live (tables : Tables) (m : Model) (deletion : Option String) : List (String → Value) :=
  (tables.rows m.name).filter fun row => deletion.all fun column => (row column).isNull

/-- The live rows whose column has one of some keys. -/
def select (tables : Tables) (m : Model) (deletion : Option String) (column : String) (keys : List Value) :
    List (String → Value) :=
  (tables.live m deletion).filter fun row => keys.any fun k => k.same (row column).key

/-- The record of a row. -/
def decoded (m : Model) (row : String → Value) : Record :=
  match Record.ofRow m (answerRow m.columns row) with
  | .ok r => r
  | .error _ => .ofValues []

/-- The record of a row has no children. -/
theorem isVacant_decoded (m : Model) (row : String → Value) (slot : String) : (decoded m row).IsVacant slot := by
  unfold decoded Record.ofRow
  cases Record.decodeFields (answerRow m.columns row) m.fields with
  | error h => exact Record.isVacant_ofValues [] slot
  | ok values => exact Record.isVacant_ofValues values slot

theorem mem_of_mem_live {tables : Tables} {m : Model} {deletion : Option String} {row : String → Value}
    (h : row ∈ tables.live m deletion) : row ∈ tables.rows m.name :=
  (List.mem_filter.mp h).1

theorem mem_of_mem_select {tables : Tables} {m : Model} {deletion : Option String} {column : String} {keys : List Value}
    {row : String → Value} (h : row ∈ tables.select m deletion column keys) : row ∈ tables.rows m.name :=
  mem_of_mem_live (List.mem_filter.mp h).1

/-- A row that was asked for has the value of each of its columns. -/
theorem column?_answerRow {columns : List String} {label : String} (h : label ∈ columns) (row : String → Value) :
    (answerRow columns row).column? label = .ok (some (row label)) := by
  have hlt : columns.findIdx (· == label) < columns.length :=
    List.findIdx_lt_length_of_exists ⟨label, h, beq_self_eq_true label⟩
  have hfind : columns.findIdx? (· == label) = some (columns.findIdx (· == label)) :=
    List.findIdx?_eq_some_iff_findIdx_eq.mpr ⟨hlt, rfl⟩
  have hlabel : columns[columns.findIdx (· == label)] = label := by
    simpa using List.findIdx_getElem (w := hlt)
  unfold Row.column? answerRow
  simp only [hfind, List.getElem?_map, List.getElem?_eq_getElem hlt, hlabel, Option.map_some]

end Tables

/-- What a linking column is compared with: a key that is not NULL. -/
def Value.IsKey (k : Value) : Prop :=
  ∃ v : Value, v.key? = some k

/-- The key of a value that has one. -/
theorem Value.key_of_key? {v k : Value} (h : v.key? = some k) : v.key = k := by
  unfold Value.key? at h
  split at h
  · cases h
  · exact Option.some.inj h

namespace Connection

variable {σ : Type} (c : Connection σ)

/-- The executor answers the queries of some columns of a table by the keys of one column from the tables. -/
def Answers (tables : Tables) (m : Model) (columns : List String) (column : String) : Prop :=
  ∀ keys, keys ≠ [] → (∀ k ∈ keys, k.IsKey) → ∀ q,
    c.scopedQuery m (c.dialect.find m columns) (.member false column keys) {} = .ok q → ∀ x,
      (c.executor.answer (c.dialect.finish q) x).1 =
        (tables.select m (c.deletionColumn? m) column keys).map fun row => .ok (.row (Tables.answerRow columns row))

/-- The rows of a table decode, and a field keeps the key of its column. -/
structure Readable (tables : Tables) (m : Model) (f : Field) : Prop where
  answers : c.Answers tables m m.columns f.column
  decodes : ∀ row ∈ tables.rows m.name, ∃ r, Record.ofRow m (Tables.answerRow m.columns row) = .ok r ∧
    ∃ v, r.value? f.name = some v ∧ v.key.same (row f.column).key = true

variable {c}

/-- An answer of rows is collected as these rows. -/
theorem collect_rows (rows : List Row) :
    Response.collect (rows.map fun row => .ok (.row row)) = .ok (rows.map .row) := by
  induction rows with
  | nil => rfl
  | cons row rows ih =>
    rw [List.map_cons, Response.collect, ih]
    rfl

/-- A search for the keys of a column compiles. -/
theorem exists_scopedQuery (m : Model) (query : Statement) (column : String) {keys : List Value} (hkeys : keys ≠ []) :
    ∃ q, c.scopedQuery m query (.member false column keys) {} = .ok q := by
  have hcompile : ∃ s, (Condition.member false column keys).compile c.dialect = .ok s := by
    cases keys with
    | nil => exact absurd rfl hkeys
    | cons k keys => exact ⟨_, rfl⟩
  obtain ⟨s, hs⟩ := hcompile
  exact ⟨_, c.scopedQuery_of_compile hs m query {}⟩

/-- A query for the keys of a column goes on behind the query that it was built from, and its arguments are the keys. -/
theorem scopedQuery_member {m : Model} {query : Statement} {column : String} {keys : List Value} {q : Statement}
    (h : c.scopedQuery m query (.member false column keys) {} = .ok q) :
    (∃ rest, q.sql = query.sql ++ rest) ∧ q.args = query.args ++ keys := by
  cases keys with
  | nil =>
    have hcompile : (Condition.member false column []).compile c.dialect = .error (.emptyList column) := rfl
    obtain ⟨g, hg⟩ := c.scopedQuery_of_compile_error hcompile m query {}
    rw [hg] at h
    cases h
  | cons k keys =>
    have hcompile : (Condition.member false column (k :: keys)).compile c.dialect = .ok (Condition.columnFragment c.dialect
        column _ (k :: keys)) := rfl
    rw [c.scopedQuery_of_compile hcompile] at h
    cases h
    refine ⟨⟨_, rfl⟩, ?_⟩
    rw [Statement.args_append, Statement.args_append, filter]
    cases c.deletionColumn? m with
    | none => simp [Condition.columnFragment, Statement.ofText, Condition.member, Condition.leaf, Condition.hasLeaf,
        NodeKind.isLeaf, NodeKind.isCombinator]
    | some deletion => simp [Condition.columnFragment, Statement.ofText, Condition.restricted, Condition.nullTest,
        Condition.member, Condition.leaf, Condition.hasLeaf, NodeKind.isLeaf, NodeKind.isCombinator]

/-- The rows of a statement that is answered with rows. -/
theorem on_fetch_rows (index : ReportIndex) {s : Statement} {rows : List Row} (w : World σ)
    (h : (c.executor.answer (c.dialect.finish s) w.executor).1 = rows.map fun row => .ok (.row row)) :
    ∃ w', (c.fetch index s).on w = (.ok rows, w') := by
  have hstep : (c.sendStep index s w).1 = .ok (rows.map .row) := by
    unfold sendStep
    dsimp only
    rw [h, collect_rows]
  refine ⟨(c.sendStep index s w).2, ?_⟩
  rw [on_fetch, hstep]
  have hrows : (rows.map Reply.row).filterMap Reply.row? = rows := by
    rw [List.filterMap_map]
    exact List.filterMap_some
  simp only [Except.mapError, Except.map, hrows]

/-- The rows of a query by keys. -/
theorem Answers.on_fetch {tables : Tables} {m : Model} {columns : List String} {column : String}
    (h : c.Answers tables m columns column) (index : ReportIndex) {keys : List Value} (hne : keys ≠ [])
    (hkeys : ∀ k ∈ keys, k.IsKey) {q : Statement}
    (hq : c.scopedQuery m (c.dialect.find m columns) (.member false column keys) {} = .ok q) (w : World σ) :
    ∃ w', (c.fetch index q).on w =
      (.ok ((tables.select m (c.deletionColumn? m) column keys).map (Tables.answerRow columns)), w') := by
  refine on_fetch_rows index w ?_
  rw [h keys hne hkeys q hq, List.map_map]
  rfl

/-- The rows of a find by keys. -/
theorem Answers.on_findRows {tables : Tables} {m : Model} {column : String} (h : c.Answers tables m m.columns column)
    (index : ReportIndex) {keys : List Value} (hne : keys ≠ []) (hkeys : ∀ k ∈ keys, k.IsKey) (w : World σ) :
    ∃ w', (c.findRows index m (.member false column keys) {}).on w =
      (.ok ((tables.select m (c.deletionColumn? m) column keys).map (Tables.answerRow m.columns)), w') := by
  obtain ⟨q, hq⟩ := exists_scopedQuery (c := c) m (c.dialect.find m m.columns) column hne
  obtain ⟨w', hw'⟩ := h.on_fetch index hne hkeys hq w
  refine ⟨w', ?_⟩
  rw [findRows, Run.on_bind, hq, Run.on_ofExcept_ok]
  exact hw'

namespace Readable

variable {tables : Tables} {m : Model} {f : Field} (h : c.Readable tables m f)

include h

/-- A row of the table is read as its record. -/
theorem ofRow_eq {row : String → Value} (hrow : row ∈ tables.rows m.name) :
    Record.ofRow m (Tables.answerRow m.columns row) = .ok (Tables.decoded m row) := by
  obtain ⟨r, hr, -⟩ := h.decodes row hrow
  rw [Tables.decoded, hr]

/-- Rows of the table are read as their records. -/
theorem ofRows_eq (rows : List (String → Value)) (hrows : ∀ row ∈ rows, row ∈ tables.rows m.name) :
    Record.ofRows m (rows.map (Tables.answerRow m.columns)) = .ok (rows.map (Tables.decoded m)) := by
  induction rows with
  | nil => rfl
  | cons row rows ih =>
    have hfirst := h.ofRow_eq (hrows row (List.mem_cons_self ..))
    have hrest := ih fun x hx => hrows x (List.mem_cons_of_mem _ hx)
    rw [List.map_cons, Record.ofRows, hfirst]
    simp only [hrest, Except.map, List.map_cons]

/-- A record of the table has a key exactly when its row does. -/
theorem hasKey_decoded {row : String → Value} (hrow : row ∈ tables.rows m.name) (key : Value) :
    Link.hasKey f.name key (Tables.decoded m row) = (row f.column).key.same key := by
  obtain ⟨r, hr, v, hv, hkey⟩ := h.decodes row hrow
  rw [Tables.decoded, hr, Link.hasKey]
  dsimp only
  rw [hv, Option.any_some, Bool.eq_iff_iff]
  exact ⟨fun hvk => Value.same_trans (Value.same_symm hkey) hvk, fun hrk => Value.same_trans hkey hrk⟩

end Readable

end Connection

end RecordSql
