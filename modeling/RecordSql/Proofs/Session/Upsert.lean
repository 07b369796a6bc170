import RecordSql.Proofs.Session.Keyed
import RecordSql.Proofs.Session.Table

/-!
# Replacing a row by an update and an insert

In a dialect without a statement for the replacement of a row, a replacement is an update by the key that is followed by an insert when the
update met no row. On a table of the model this replaces the row with the key of the record, or adds one, and leaves every other row as it
is (`replace_upserts`).
-/

namespace RecordSql

namespace Model

variable {m : Model}

/-- What is assigned to columns of the primary key, in order. -/
def keyPart (m : Model) (values : List Assignment) : List Assignment :=
  values.filter fun v => m.isKeyColumn v.column

/-- What is assigned to other columns, in order. -/
def otherPart (m : Model) (values : List Assignment) : List Assignment :=
  values.filter fun v => !m.isKeyColumn v.column

/-- What a replacement updates: all but the key, or the key where there is nothing else. -/
def replaced (m : Model) (values : List Assignment) : List Assignment :=
  if (m.otherPart values).isEmpty then m.keyPart values else m.otherPart values

/-- When no two fields have the same column, the columns of the key are those of the fields of the key. -/
theorem isKeyColumn_column (h : m.columns.Nodup) {f : Field} (hf : f ∈ m.fields) : m.isKeyColumn f.column = f.primaryKey := by
  have hfind : m.fieldOfColumn? f.column = some f := find?_of_nodup h hf
  rw [isKeyColumn, hfind, Option.any_some]

/-- The key part of an assignment of all columns is one equation for each column of the primary key. -/
theorem isKey_keyPart (h : m.columns.Nodup) {values : List Assignment} (hvalues : values.map (·.column) = m.columns) :
    StoredRow.IsKey m (m.keyPart values) := by
  have hfields : m.fields.filter (fun f => m.isKeyColumn f.column) = m.primaryKeys :=
    List.filter_congr fun f hf => isKeyColumn_column h hf
  calc (m.keyPart values).map (·.column)
      = (values.map (·.column)).filter m.isKeyColumn := by rw [keyPart, List.filter_map]; rfl
    _ = (m.fields.map (·.column)).filter m.isKeyColumn := by rw [hvalues, columns]
    _ = (m.fields.filter fun f => m.isKeyColumn f.column).map (·.column) := by rw [List.filter_map]; rfl
    _ = m.primaryKeys.map (·.column) := by rw [hfields]

/-- What is assigned is updated, or belongs to the key while only other columns are updated. -/
theorem mem_replaced_or {values : List Assignment} {v : Assignment} (hv : v ∈ values) :
    v ∈ m.replaced values ∨ v ∈ m.keyPart values ∧ ∀ s ∈ m.replaced values, m.isKeyColumn s.column = false := by
  have hkey : m.isKeyColumn v.column = true → v ∈ m.keyPart values := fun h => List.mem_filter.mpr ⟨hv, h⟩
  have hother : m.isKeyColumn v.column = false → v ∈ m.otherPart values := fun h =>
    List.mem_filter.mpr ⟨hv, by rw [h]; rfl⟩
  rw [replaced]
  cases hcolumn : m.isKeyColumn v.column with
  | false =>
    have hne : (m.otherPart values).isEmpty = false := List.isEmpty_eq_false_iff.mpr (List.ne_nil_of_mem (hother hcolumn))
    rw [hne]
    exact .inl (hother hcolumn)
  | true =>
    split
    · exact .inl (hkey hcolumn)
    · exact .inr ⟨hkey hcolumn, fun s hs => by simpa using (List.mem_filter.mp hs).2⟩

theorem replaced_ne_nil {values : List Assignment} (h : m.keyPart values ≠ []) : m.replaced values ≠ [] := by
  rw [replaced]
  split
  · exact h
  · rename_i hother
    simpa using hother

end Model

/-- Values of which one is of a key column are split into those of the key and the others. -/
theorem Dialect.splitPrimaryKey_eq (d : Dialect) {m : Model} {values : List Assignment} (h : m.keyPart values ≠ []) :
    d.splitPrimaryKey m values = .ok (m.keyPart values, m.otherPart values) := by
  rw [splitPrimaryKey, List.partition_eq_filter_filter]
  exact if_neg fun hempty => h (List.isEmpty_iff.mp hempty)

/-- The update that a replacement of some values starts with: it sets what is replaced in the rows that have the values of the key. -/
def Dialect.replacingUpdate (d : Dialect) (m : Model) (values : List Assignment) : Statement :=
  ⟨"UPDATE " ++ d.quoteName m.name ++ "\nSET " ++ ", ".intercalate (d.openEquations ((m.replaced values).map (·.column))) ++
    ("\nWHERE " ++ " AND ".intercalate (d.openEquations ((m.keyPart values).map (·.column)))),
    assignedValues (m.replaced values) ++ assignedValues (m.keyPart values)⟩

/-- A replacement of values of which one is of a key column, in two statements. -/
theorem Dialect.replace_generic {m : Model} {values : List Assignment} (h : m.keyPart values ≠ []) :
    generic.replace m values = .ok (.updateElseInsert (generic.replacingUpdate m values) (generic.insert m values)) := by
  rw [replace, generic.splitPrimaryKey_eq h]
  dsimp only
  rw [generic.condition_matching h]
  dsimp only
  rw [generic.update_eq]
  rfl

/-- The update of a replacement is read back. -/
theorem Command.read_replacingUpdate {m : Model} {values : List Assignment} (h : m.keyPart values ≠ []) :
    read? .generic (Dialect.generic.replacingUpdate m values) = some (.update m.name (m.replaced values) (m.keyPart values)) :=
  read_update .generic m.name (Model.replaced_ne_nil h) h

/-! ## Rows of a record -/

namespace StoredRow

variable {E : Equality} {m : Model} {row : StoredRow} {values : List Assignment}

/-- A row holds the given values; in the columns of the key it may hold others that the database takes for equal. -/
def Holds (E : Equality) (m : Model) (row : StoredRow) (values : List Assignment) : Prop :=
  List.Forall₂ (fun a v => a.column = v.column ∧
    (a.value = v.value ∨ m.isKeyColumn v.column = true ∧ E.equal a.value v.value = true)) row values

theorem Holds.refl (E : Equality) (m : Model) (values : List Assignment) : Holds E m values values :=
  List.forall₂_same.mpr fun _ _ => ⟨rfl, .inl rfl⟩

theorem Holds.map_column (h : Holds E m row values) : row.map (·.column) = values.map (·.column) := by
  induction h with
  | nil => rfl
  | cons hfirst _ ih => rw [List.map_cons, List.map_cons, hfirst.1, ih]

/-- A row that holds values is found by their key when no value of the key is NULL. -/
theorem Holds.fulfils (h : Holds E m row values) (hcolumns : (values.map (·.column)).Nodup)
    (hnull : ∀ v ∈ m.keyPart values, v.value.isNull = false) : row.fulfils E (m.keyPart values) = true := by
  have hrow : (row.map (·.column)).Nodup := by rwa [h.map_column]
  refine fulfils_iff.mpr fun v hv => ?_
  obtain ⟨a, ha, hcolumn, hvalue⟩ := exists_of_mem_forall₂ h.flip (List.mem_of_mem_filter hv)
  refine ⟨a.value, by rw [← hcolumn]; exact value?_of_mem hrow ha, ?_⟩
  rcases hvalue with hvalue | ⟨-, hequal⟩
  · rw [hvalue]
    exact E.refl v.value (hnull v hv)
  · exact hequal

/-- A row that is found by the key of some values holds them after a replacement. -/
theorem holds_set (hcolumns : (values.map (·.column)).Nodup) (hrow : row.map (·.column) = values.map (·.column))
    (h : row.fulfils E (m.keyPart values) = true) : (row.set (m.replaced values)).Holds E m values := by
  have hsame : List.Forall₂ (fun a v : Assignment => a.column = v.column) row values := by
    have heq : List.Forall₂ (· = ·) (row.map (·.column)) (values.map (·.column)) := by rwa [List.forall₂_eq_eq_eq]
    exact List.forall₂_map_right_iff.mp (List.forall₂_map_left_iff.mp heq)
  have hreplaced : ((m.replaced values).map (·.column)).Nodup := by
    refine hcolumns.sublist (List.Sublist.map _ ?_)
    rw [Model.replaced]
    split <;> exact List.filter_sublist
  refine List.forall₂_map_left_iff.mpr (List.forall₂_iff_zip.mpr ⟨hsame.length_eq, fun {a v} hav => ?_⟩)
  obtain ⟨ha, hv⟩ := List.of_mem_zip hav
  have hcolumn : a.column = v.column := (List.forall₂_iff_zip.mp hsame).2 hav
  refine ⟨hcolumn, ?_⟩
  rcases m.mem_replaced_or hv with hset | ⟨hkey, hothers⟩
  · rw [hcolumn, value?_of_mem hreplaced hset]
    exact .inl rfl
  · -- a column of the key is not set, and the row has an equal value in it already
    have hunset : v.column ∉ (m.replaced values).map (·.column) := by
      intro hmem
      obtain ⟨s, hs, hsv⟩ := List.mem_map.mp hmem
      have hs := hothers s hs
      rw [hsv, (List.mem_filter.mp hkey).2] at hs
      cases hs
    obtain ⟨w, hw, hequal⟩ := fulfils_iff.mp h v hkey
    rw [← hcolumn, value?_of_mem (hrow ▸ hcolumns) ha] at hw
    cases hw
    rw [hcolumn, value?_eq_none hunset]
    exact .inr ⟨(List.mem_filter.mp hkey).2, hequal⟩

end StoredRow

/-! ## A table after a replacement -/

/-- The row that is found by the key of some values now holds them, and where there was none they are a new row. Every other row is as
it was. -/
inductive Upserted (E : Equality) (m : Model) (values : List Assignment) : List StoredRow → List StoredRow → Prop
  | replaced {before after : List StoredRow} {old new : StoredRow} (found : old.fulfils E (m.keyPart values) = true)
      (holds : new.Holds E m values) : Upserted E m values (before ++ old :: after) (before ++ new :: after)
  | added {rows : List StoredRow} (unmet : ∀ row ∈ rows, row.fulfils E (m.keyPart values) = false) :
      Upserted E m values rows (rows ++ [values])

namespace Table

variable {E : Equality} {m : Model} {table : Table}

/-- A table of a model stays one with a row whose key none of the other rows has. -/
theorem IsOf.put {before after : List StoredRow} {new : StoredRow} {tests : List Assignment} (h : table.IsOf E m)
    (hothers : (before ++ after).Sublist table.rows) (hk : StoredRow.IsKey m tests)
    (hunmet : ∀ other ∈ before ++ after, other.fulfils E tests = false) (hnew : new.fulfils E tests = true)
    (hcolumns : new.map (·.column) = m.columns) : ({ table with rows := before ++ new :: after } : Table).IsOf E m where
  name := h.name
  columns row hrow := by
    rcases List.mem_append.mp hrow with hrow | hrow
    · exact h.columns row (hothers.mem (List.mem_append_left after hrow))
    rcases List.mem_cons.mp hrow with rfl | hrow
    · exact hcolumns
    · exact h.columns row (hothers.mem (List.mem_append_right before hrow))
  keyed := by
    refine (List.pairwise_middle fun hne hsame => hne hsame.symm).mpr (List.pairwise_cons.mpr ⟨fun other hother hsame => ?_, ?_⟩)
    · have hfulfils := hsame.symm.fulfils hk hnew
      rw [hunmet other hother] at hfulfils
      cases hfulfils
    · exact h.keyed.sublist hothers

/-- An update by the key, and an insert where it meets no row, replace the row of some values in a table or add it. -/
theorem IsOf.upserts (h : table.IsOf E m) (hcolumns : m.columns.Nodup) {values : List Assignment}
    (hvalues : values.map (·.column) = m.columns) (hnull : ∀ v ∈ m.keyPart values, v.value.isNull = false) :
    ∃ after : Table, after.IsOf E m ∧ Upserted E m values table.rows after.rows ∧
      (table.run E (.update m.name (m.replaced values) (m.keyPart values)) = ([.ok (.affected { count := some 1 })], after) ∨
        table.run E (.update m.name (m.replaced values) (m.keyPart values)) = ([.ok (.affected { count := some 0 })], table) ∧
        table.run E (.insert m.name values) = ([.ok (.affected { count := some 1 })], after)) := by
  have hk := Model.isKey_keyPart hcolumns hvalues
  have hnodup : (values.map (·.column)).Nodup := hvalues ▸ hcolumns
  rw [← h.name]
  by_cases hmet : ∃ row ∈ table.rows, row.fulfils E (m.keyPart values) = true
  · obtain ⟨row, hrow, hfulfils⟩ := hmet
    obtain ⟨before, after, hrows, hothers⟩ := h.exists_only hk.coversKey hrow hfulfils
    have hrowColumns : row.map (·.column) = values.map (·.column) := (h.columns row hrow).trans hvalues.symm
    have hholds := StoredRow.holds_set hnodup hrowColumns hfulfils
    have hsub : (before ++ after).Sublist table.rows := by
      rw [hrows]
      exact List.Sublist.append_left (List.sublist_cons_self row after) before
    refine ⟨_, h.put hsub hk hothers (hholds.fulfils hnodup hnull) (hholds.map_column.trans hvalues), ?_,
      .inl (run_update_met hrows hfulfils hothers)⟩
    rw [hrows]
    exact .replaced hfulfils hholds
  · have hunmet : ∀ row ∈ table.rows, row.fulfils E (m.keyPart values) = false := fun row hrow =>
      Bool.eq_false_iff.mpr fun hfulfils => hmet ⟨row, hrow, hfulfils⟩
    have hself := (StoredRow.Holds.refl E m values).fulfils hnodup hnull
    have hothers : (table.rows ++ []).Sublist table.rows := by rw [List.append_nil]
    have hput := h.put hothers hk (by rwa [List.append_nil]) hself hvalues
    exact ⟨_, hput, .added hunmet, .inr ⟨run_update_unmet hunmet, by rw [run, if_pos rfl]⟩⟩

end Table

/-! ## What a replacement sends -/

/-- The counts that executing a statement gives for an executor in a given state, or the fault. -/
def Connection.affected {σ : Type} (c : Connection σ) (s : Statement) (executor : σ) : Except Fault RowsAffected :=
  (c.executor.answer (c.dialect.finish s) executor).1.collect.map fun replies =>
    RowsAffected.extend {} (replies.filterMap Reply.affected?)

/-- Whether a statement succeeds and reports that it met no row. -/
def Connection.meetsNone {σ : Type} (c : Connection σ) (s : Statement) (executor : σ) : Bool :=
  match c.affected s executor with
  | .ok a => a.count == some 0
  | .error _ => false

theorem Connection.on_execute_affected {σ : Type} (c : Connection σ) (index : ReportIndex) (s : Statement) (w : World σ) :
    (c.execute index s).on w = ((c.affected s w.executor).mapError .failed, (c.sendStep index s w).2) := by
  rw [on_execute, affected]
  have hresult : (c.sendStep index s w).1 = (c.executor.answer (c.dialect.finish s) w.executor).1.collect := rfl
  rw [hresult]
  cases (c.executor.answer (c.dialect.finish s) w.executor).1.collect <;> rfl

namespace Session

variable {m : Model} {r : Record} {values : List Value}

/-- A record with all values is replaced by an update by its key and an insert. -/
theorem exists_replacement (hcolumns : m.columns.Nodup) (hkey : m.primaryKeys ≠ []) (h : r.Gives m.fields values) :
    ∃ update insert, replacement .generic m r = .ok (.updateElseInsert update insert) ∧
      Command.read? .generic update = some (.update m.name (m.replaced (Record.assigned m.fields values))
        (m.keyPart (Record.assigned m.fields values))) ∧
      Command.read? .generic insert = some (.insert m.name (Record.assigned m.fields values)) := by
  have hkeys : m.keyPart (Record.assigned m.fields values) ≠ [] := by
    have hmap := Model.isKey_keyPart hcolumns h.map_column
    intro hnil
    rw [StoredRow.IsKey, hnil, List.map_nil, eq_comm, List.map_eq_nil_iff] at hmap
    exact hkey hmap
  have hall : Record.assigned m.fields values ≠ [] := fun hnil => hkeys (by rw [hnil]; rfl)
  refine ⟨_, Dialect.generic.insert m (Record.assigned m.fields values), ?_, Command.read_replacingUpdate hkeys, ?_⟩
  · rw [replacement, h.assignments]
    exact Dialect.replace_generic hkeys
  · rw [Dialect.insert_eq .generic rfl]
    exact Command.read_insert .generic m.name hall

variable {σ : Type} {c : Connection σ} {t : RecordType} {update insert : Statement}

/-- A replacement in two statements sends the update, and goes on to the insert when the update met no row. -/
theorem on_replace (h : replacement c.dialect t.model r = .ok (.updateElseInsert update insert)) (w : World σ) :
    (replace c t r).on w =
      match c.affected update w.executor with
      | .error f => (.error (.failed f), (c.sendStep (.item 0) update (begun t w)).2)
      | .ok updated =>
        match updated.count with
        | some 0 => (c.execute (.item 1) insert).on (c.sendStep (.item 0) update (begun t w)).2
        | some (_ + 1) => (.ok updated, (c.sendStep (.item 0) update (begun t w)).2)
        | none => (.error (.failed (.unsupported (.dialect c.dialect) .replaceWithoutCount)),
            (c.sendStep (.item 0) update (begun t w)).2) := by
  rw [replace, on_start_model, h, Run.on_bind_ok (Run.on_ofExcept_ok _ _)]
  dsimp only
  rw [Run.on_bind, c.on_execute_affected, executor_begun]
  cases c.affected update w.executor with
  | error f => rfl
  | ok updated =>
    dsimp only [Except.mapError]
    rcases updated.count with _ | _ | n <;> rfl

/-- The insert of a replacement is sent exactly when the update met no row. -/
theorem sent_replace (h : replacement c.dialect t.model r = .ok (.updateElseInsert update insert)) (w : World σ) :
    ((replace c t r).on w).2.sent = w.sent ++ c.dialect.finish update ::
      (if c.meetsNone update w.executor then [c.dialect.finish insert] else []) := by
  rw [on_replace h, Connection.meetsNone]
  cases c.affected update w.executor with
  | error f => simp
  | ok updated =>
    rcases updated with ⟨_ | _ | n, lastId⟩ <;> simp [Connection.on_execute]

/-- A replacement fails with the update, and when the update reports no count. -/
theorem result_replace (h : replacement c.dialect t.model r = .ok (.updateElseInsert update insert)) (w : World σ) :
    (∀ f, c.affected update w.executor = .error f → ((replace c t r).on w).1 = .error (.failed f)) ∧
    ∀ updated, c.affected update w.executor = .ok updated → updated.count = none →
      ((replace c t r).on w).1 = .error (.failed (.unsupported (.dialect c.dialect) .replaceWithoutCount)) := by
  refine ⟨fun f hf => ?_, fun updated hupdated hcount => ?_⟩
  · rw [on_replace h, hf]
  · rw [on_replace h, hupdated]
    dsimp only
    rw [hcount]

/-- On a table of its model, a replacement makes one row hold the values of the record. -/
theorem on_replace_table {E : Equality} {c : Connection Table} (hd : c.dialect = .generic) (hc : c.executor = Table.executor E .generic)
    {assigned : List Assignment} (hcolumns : t.model.columns.Nodup) (hassigned : assigned.map (·.column) = t.model.columns)
    (hnull : ∀ v ∈ t.model.keyPart assigned, v.value.isNull = false)
    (h : replacement c.dialect t.model r = .ok (.updateElseInsert update insert))
    (hupdate : Command.read? .generic update = some (.update t.model.name (t.model.replaced assigned) (t.model.keyPart assigned)))
    (hinsert : Command.read? .generic insert = some (.insert t.model.name assigned)) {w : World Table}
    (hw : w.executor.IsOf E t.model) :
    ∃ w', (replace c t r).on w = (.ok { count := some 1 }, w') ∧ w'.executor.IsOf E t.model ∧
      Upserted E t.model assigned w.executor.rows w'.executor.rows := by
  have hanswer : ∀ {s command}, Command.read? .generic s = some command → ∀ table,
      c.executor.answer (c.dialect.finish s) table = table.run E command := by
    intro s command hs table
    rw [hd, hc]
    exact Table.answer_of_read hs table
  obtain ⟨after, hafter, hupserted, hmet | ⟨hunmet, hadded⟩⟩ := hw.upserts hcolumns hassigned hnull
  · refine ⟨(c.sendStep (.item 0) update (begun t w)).2, ?_, ?_, ?_⟩
    · rw [on_replace h, Connection.affected, hanswer hupdate, hmet]
      rfl
    all_goals
      have hexecutor : (c.sendStep (.item 0) update (begun t w)).2.executor = after := by
        rw [Connection.sendStep, executor_begun, hanswer hupdate, hmet]
    · rwa [hexecutor]
    · rwa [hexecutor]
  · have hexecutor : (c.sendStep (.item 0) update (begun t w)).2.executor = w.executor := by
      rw [Connection.sendStep, executor_begun, hanswer hupdate, hunmet]
    have hinserted : (c.sendStep (.item 1) insert (c.sendStep (.item 0) update (begun t w)).2).2.executor = after := by
      rw [Connection.sendStep, hexecutor, hanswer hinsert, hadded]
    refine ⟨(c.sendStep (.item 1) insert (c.sendStep (.item 0) update (begun t w)).2).2, ?_, ?_, ?_⟩
    · rw [on_replace h, Connection.affected, hanswer hupdate, hunmet]
      change (c.execute (.item 1) insert).on _ = _
      rw [c.on_execute_affected, Connection.affected, hexecutor, hanswer hinsert, hadded]
      rfl
    · rwa [hinserted]
    · rwa [hinserted]

end Session

/-- A record with all values is replaced, in a dialect without a statement for it, by an update of its row by the whole key and an insert
of all its values. The insert is sent exactly when the update succeeded and reported that it met no row; an update that fails or reports
no count ends the replacement. On a table of the model, where no two rows have the same key, the row with the key of the record is
replaced by its values, or added if there is none, and nothing else changes. A record that lacks a value is not replaced. -/
theorem replace_upserts (t : RecordType) (r : Record) (hcolumns : t.model.columns.Nodup) (hkey : t.model.primaryKeys ≠ []) :
    (∀ values, r.Gives t.model.fields values → ∃ update insert : Statement,
      Command.read? .generic update = some (.update t.model.name (t.model.replaced (Record.assigned t.model.fields values))
        (t.model.keyPart (Record.assigned t.model.fields values))) ∧
      Command.read? .generic insert = some (.insert t.model.name (Record.assigned t.model.fields values)) ∧
      (∀ (σ : Type) (c : Connection σ) (w : World σ), c.dialect = .generic →
        ((Session.replace c t r).on w).2.sent =
          w.sent ++ update :: (if c.meetsNone update w.executor then [insert] else []) ∧
        (∀ f, c.affected update w.executor = .error f → ((Session.replace c t r).on w).1 = .error (.failed f)) ∧
        ∀ updated, c.affected update w.executor = .ok updated → updated.count = none →
          ((Session.replace c t r).on w).1 = .error (.failed (.unsupported (.dialect .generic) .replaceWithoutCount))) ∧
      ∀ (E : Equality) (c : Connection Table) (w : World Table), c.dialect = .generic → c.executor = Table.executor E .generic →
        w.executor.IsOf E t.model → (∀ f ∈ t.model.primaryKeys, ∀ v, r.value? f.name = some v → v.isNull = false) →
        ∃ w', (Session.replace c t r).on w = (.ok { count := some 1 }, w') ∧ w'.executor.IsOf E t.model ∧
          Upserted E t.model (Record.assigned t.model.fields values) w.executor.rows w'.executor.rows) ∧
    ((∃ f ∈ t.model.fields, r.value? f.name = none) → ∀ (σ : Type) (c : Connection σ) (w : World σ),
      (Session.replace c t r).Refuses w) := by
  refine ⟨fun values hgives => ?_, ?_⟩
  · obtain ⟨update, insert, hreplacement, hupdate, hinsert⟩ := Session.exists_replacement hcolumns hkey hgives
    refine ⟨update, insert, hupdate, hinsert, fun σ c w hd => ?_, fun E c w hd hc hw hnull => ?_⟩
    · rw [← hd] at hreplacement
      have hsent := Session.sent_replace hreplacement w
      obtain ⟨hfails, huncounted⟩ := Session.result_replace hreplacement w
      rw [hd] at hsent huncounted
      exact ⟨hsent, hfails, huncounted⟩
    · rw [← hd] at hreplacement
      refine Session.on_replace_table hd hc hcolumns hgives.map_column (fun v hv => ?_) hreplacement hupdate hinsert hw
      obtain ⟨hmem, hcolumn⟩ := List.mem_filter.mp hv
      obtain ⟨f, hf, hvf, hvalue⟩ := hgives.exists_of_mem hmem
      rw [hvf, Model.isKeyColumn_column hcolumns hf] at hcolumn
      exact hnull f (List.mem_filter.mpr ⟨hf, hcolumn⟩) v.value hvalue
  · rintro ⟨f, hf, hmissing⟩ σ c w
    obtain ⟨g, hg⟩ := Record.exists_assignments_error t.model hf hmissing
    have herror : Session.replacement c.dialect t.model r = .error g := by
      rw [Session.replacement, hg]
      rfl
    refine ⟨g, Session.begun t w, ?_, Session.sent_begun t w, Session.executor_begun t w⟩
    rw [Session.replace, Session.on_start_model, herror, Run.on_bind, Run.on_ofExcept_error]

/-- A table with a key of two columns, in which the row of one record is replaced and then a row for another is added. -/
theorem replace_upserts_pair :
    ∃ (c : Connection Table) (t : RecordType) (r s : Record) (w w₁ w₂ : World Table),
      c.dialect = .generic ∧ c.executor = Table.executor .exact .generic ∧
      r = .ofValues [("l", .varchar "b"), ("x", .varchar "?"), ("k", .varchar "a")] ∧
      s = .ofValues [("l", .varchar "d"), ("x", .varchar "?"), ("k", .varchar "a")] ∧
      w.executor = ⟨"no\"te?", [[⟨"k?", .varchar "a"⟩, ⟨"x", .varchar "y"⟩, ⟨"l", .varchar "b"⟩],
        [⟨"k?", .varchar "a"⟩, ⟨"x", .varchar "z"⟩, ⟨"l", .varchar "c"⟩]]⟩ ∧
      (Session.replace c t r).on w = (.ok { count := some 1 }, w₁) ∧
      w₁.executor.rows = [[⟨"k?", .varchar "a"⟩, ⟨"x", .varchar "?"⟩, ⟨"l", .varchar "b"⟩],
        [⟨"k?", .varchar "a"⟩, ⟨"x", .varchar "z"⟩, ⟨"l", .varchar "c"⟩]] ∧
      (Session.replace c t s).on w₁ = (.ok { count := some 1 }, w₂) ∧ w₂.executor.IsOf .exact t.model ∧
      w₂.executor.rows = w₁.executor.rows ++ [[⟨"k?", .varchar "a"⟩, ⟨"x", .varchar "?"⟩, ⟨"l", .varchar "d"⟩]] := by
  let k : Field := { Field.of "k" .text with column := "k?", primaryKey := true }
  let x : Field := Field.of "x" .text
  let l : Field := { Field.of "l" .text with primaryKey := true }
  let t : RecordType := ⟨"note", "no\"te?", [.field k, .field x, .field l]⟩
  let c : Connection Table := ⟨Table.executor .exact .generic, .generic, {}, .silent⟩
  let table : Table := ⟨"no\"te?", [[⟨"k?", .varchar "a"⟩, ⟨"x", .varchar "y"⟩, ⟨"l", .varchar "b"⟩],
    [⟨"k?", .varchar "a"⟩, ⟨"x", .varchar "z"⟩, ⟨"l", .varchar "c"⟩]]⟩
  let record (b : String) := Record.ofValues [("l", .varchar b), ("x", .varchar "?"), ("k", .varchar "a")]
  have hcolumns : t.model.columns.Nodup := by decide
  have hkeys : t.model.primaryKeys = [k, l] := rfl
  have hgives : ∀ b, (record b).Gives t.model.fields [.varchar "a", .varchar "?", .varchar b] := fun b =>
    .cons rfl (.cons rfl (.cons rfl .nil))
  have hnull : ∀ b, ∀ f ∈ t.model.primaryKeys, ∀ v, (record b).value? f.name = some v → v.isNull = false := by
    intro b f hf v hv
    rw [hkeys] at hf
    rcases List.mem_cons.mp hf with rfl | hf
    · cases hv
      rfl
    · rw [List.mem_singleton.mp hf] at hv
      cases hv
      rfl
  have hkeyed : ¬ StoredRow.SameKey .exact t.model [⟨"k?", .varchar "a"⟩, ⟨"x", .varchar "y"⟩, ⟨"l", .varchar "b"⟩]
      [⟨"k?", .varchar "a"⟩, ⟨"x", .varchar "z"⟩, ⟨"l", .varchar "c"⟩] := by
    intro hsame
    obtain ⟨v, w, hv, hw, hequal⟩ := hsame l (List.mem_cons_of_mem _ (List.mem_singleton_self l))
    cases hv
    cases hw
    revert hequal
    decide
  have htable : table.IsOf .exact t.model := ⟨rfl, by decide, List.pairwise_pair.mpr hkeyed⟩
  have hkey : t.model.primaryKeys ≠ [] := hkeys ▸ List.cons_ne_nil k [l]
  obtain ⟨-, -, -, -, -, hfirst⟩ := (replace_upserts t (record "b") hcolumns hkey).1 _ (hgives "b")
  obtain ⟨-, -, -, -, -, hsecond⟩ := (replace_upserts t (record "d") hcolumns hkey).1 _ (hgives "d")
  obtain ⟨w₁, hrun₁, htable₁, -⟩ := hfirst .exact c { executor := table } rfl rfl htable (hnull "b")
  obtain ⟨w₂, hrun₂, htable₂, -⟩ := hsecond .exact c w₁ rfl rfl htable₁ (hnull "d")
  have hw₁ : w₁ = ((Session.replace c t (record "b")).on { executor := table }).2 := by rw [hrun₁]
  have hw₂ : w₂ = ((Session.replace c t (record "d")).on w₁).2 := by rw [hrun₂]
  refine ⟨c, t, record "b", record "d", { executor := table }, w₁, w₂, rfl, rfl, rfl, rfl, rfl, hrun₁, ?_, hrun₂, htable₂, ?_⟩
  · rw [hw₁]
    decide +kernel
  · rw [hw₂, hw₁]
    decide +kernel

end RecordSql
