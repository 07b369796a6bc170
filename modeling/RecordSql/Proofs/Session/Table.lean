import RecordSql.Executor
import RecordSql.Proofs.Dialect.Command
import RecordSql.Proofs.Related

/-!
# A database of one table

The executor of a table reads what it receives as a change and makes it: an update reports the number of rows that fulfil its equations and
sets columns in them, an insert adds a row. A table of a model has the columns of the model in every row and no two rows with the same key.
An update by a key therefore meets one row or none, and changes no other (`run_update_met`, `run_update_unmet`).
-/

namespace RecordSql

/-- When a database takes two values for equal. NULL need not be equal to itself. -/
structure Equality where
  equal : Value → Value → Bool
  refl : ∀ v, v.isNull = false → equal v v = true
  symm : ∀ v w, equal v w = true → equal w v = true
  trans : ∀ u v w, equal u v = true → equal v w = true → equal u w = true

/-- Only the same values are equal. -/
def Equality.exact : Equality where
  equal v w := decide (v = w)
  refl _ _ := decide_eq_true rfl
  symm _ _ h := decide_eq_true (of_decide_eq_true h).symm
  trans _ _ _ h h' := decide_eq_true ((of_decide_eq_true h).trans (of_decide_eq_true h'))

/-- A row of a table: its columns with their values. -/
abbrev StoredRow := List Assignment

namespace StoredRow

/-- The value of a column. -/
def value? (row : StoredRow) (column : String) : Option Value :=
  (row.find? (·.column == column)).map (·.value)

/-- The row with some columns set. -/
def set (row : StoredRow) (settings : List Assignment) : StoredRow :=
  row.map fun a => ⟨a.column, (value? settings a.column).getD a.value⟩

/-- Whether columns of the row have some values. -/
def fulfils (E : Equality) (row : StoredRow) (tests : List Assignment) : Bool :=
  tests.all fun test => (row.value? test.column).any fun v => E.equal v test.value

/-- Two rows have the same key. -/
def SameKey (E : Equality) (m : Model) (a b : StoredRow) : Prop :=
  ∀ f ∈ m.primaryKeys, ∃ v w, a.value? f.column = some v ∧ b.value? f.column = some w ∧ E.equal v w = true

variable {E : Equality} {m : Model} {a b row : StoredRow} {tests settings : List Assignment}

theorem fulfils_iff : row.fulfils E tests = true ↔
    ∀ test ∈ tests, ∃ v, row.value? test.column = some v ∧ E.equal v test.value = true := by
  simp only [fulfils, List.all_eq_true, Option.any_eq_true]

/-- The value of a column of a row whose columns are pairwise distinct. -/
theorem value?_of_mem (h : (row.map (·.column)).Nodup) {a : Assignment} (ha : a ∈ row) : row.value? a.column = some a.value := by
  rw [value?, find?_of_nodup h ha, Option.map_some]

theorem value?_eq_none {column : String} (h : column ∉ row.map (·.column)) : row.value? column = none := by
  rw [value?, Option.map_eq_none_iff, List.find?_eq_none]
  intro a ha heq
  exact h (beq_iff_eq.mp heq ▸ List.mem_map_of_mem ha)

theorem SameKey.symm (h : SameKey E m a b) : SameKey E m b a := by
  intro f hf
  obtain ⟨v, w, hv, hw, heq⟩ := h f hf
  exact ⟨w, v, hw, hv, E.symm v w heq⟩

/-- The equations of a key: one for each column of the primary key. -/
def IsKey (m : Model) (tests : List Assignment) : Prop :=
  tests.map (·.column) = m.primaryKeys.map (·.column)

/-- Every column of the primary key is among those of some values. -/
def CoversKey (m : Model) (values : List Assignment) : Prop :=
  ∀ f ∈ m.primaryKeys, f.column ∈ values.map (·.column)

/-- The equations of a key are for every column of it. -/
theorem IsKey.coversKey (h : IsKey m tests) : CoversKey m tests := by
  intro f hf
  rw [h]
  exact List.mem_map_of_mem hf

/-- Rows that fulfil the same equations for every column of the key have the same key. -/
theorem sameKey_of_fulfils (hk : CoversKey m tests) (ha : a.fulfils E tests = true) (hb : b.fulfils E tests = true) :
    SameKey E m a b := by
  intro f hf
  obtain ⟨test, htest, hcolumn⟩ := List.mem_map.mp (hk f hf)
  obtain ⟨v, hv, hva⟩ := fulfils_iff.mp ha test htest
  obtain ⟨w, hw, hwb⟩ := fulfils_iff.mp hb test htest
  rw [hcolumn] at hv hw
  exact ⟨v, w, hv, hw, E.trans v test.value w hva (E.symm w test.value hwb)⟩

/-- A row with the key of one that fulfils the equations of a key fulfils them too. -/
theorem SameKey.fulfils (h : SameKey E m a b) (hk : IsKey m tests) (hb : b.fulfils E tests = true) : a.fulfils E tests = true := by
  refine fulfils_iff.mpr fun test htest => ?_
  have hmem : test.column ∈ m.primaryKeys.map (·.column) := hk ▸ List.mem_map_of_mem htest
  obtain ⟨f, hf, hcolumn⟩ := List.mem_map.mp hmem
  obtain ⟨v, w, hv, hw, heq⟩ := h f hf
  obtain ⟨w', hw', hwb⟩ := fulfils_iff.mp hb test htest
  rw [hcolumn] at hv hw
  rw [hw] at hw'
  cases hw'
  exact ⟨v, hv, E.trans v w test.value heq hwb⟩

end StoredRow

/-- A table with its rows in order. -/
structure Table where
  name : String
  rows : List StoredRow

namespace Table

/-- What a table answers to a change, and the table after it. -/
def run (E : Equality) (table : Table) : Command → Response × Table
  | .update name settings tests =>
    if name = table.name then
      ([.ok (.affected { count := some (table.rows.countP fun row => row.fulfils E tests) })],
        { table with rows := table.rows.map fun row => if row.fulfils E tests then row.set settings else row })
    else ([.error (.database "no such table")], table)
  | .insert name values =>
    if name = table.name then ([.ok (.affected { count := some 1 })], { table with rows := table.rows ++ [values] })
    else ([.error (.database "no such table")], table)

/-- The executor of a table: it makes the changes that it can read. -/
def executor (E : Equality) (d : Dialect) : Executor Table where
  answer s table :=
    match Command.read? d s with
    | some command => table.run E command
    | none => ([.error (.database "syntax error")], table)

/-- A change that is read is made. -/
theorem answer_of_read {E : Equality} {d : Dialect} {s : Statement} {command : Command} (h : Command.read? d s = some command)
    (table : Table) : (executor E d).answer s table = table.run E command := by
  simp only [executor, h]

/-- A table of a model: every row has the columns of the model, and no two rows have the same key. -/
structure IsOf (E : Equality) (m : Model) (table : Table) : Prop where
  name : table.name = m.name
  columns : ∀ row ∈ table.rows, row.map (·.column) = m.columns
  keyed : table.rows.Pairwise fun a b => ¬ StoredRow.SameKey E m a b

variable {E : Equality} {m : Model} {table : Table} {tests settings : List Assignment}

/-- When a row fulfils equations for every column of the key, it is the only one. -/
theorem IsOf.exists_only (h : table.IsOf E m) (hk : StoredRow.CoversKey m tests) {row : StoredRow} (hrow : row ∈ table.rows)
    (hf : row.fulfils E tests = true) :
    ∃ before after, table.rows = before ++ row :: after ∧ ∀ other ∈ before ++ after, other.fulfils E tests = false := by
  obtain ⟨before, after, hrows⟩ := List.append_of_mem hrow
  have hkeyed := h.keyed
  rw [hrows, List.pairwise_append, List.pairwise_cons] at hkeyed
  obtain ⟨-, ⟨hafter, -⟩, hbefore⟩ := hkeyed
  refine ⟨before, after, hrows, fun other hother => Bool.eq_false_iff.mpr fun hfulfils => ?_⟩
  have hsame := StoredRow.sameKey_of_fulfils hk hfulfils hf
  rcases List.mem_append.mp hother with hother | hother
  · exact hbefore other hother row (List.mem_cons_self ..) hsame
  · exact hafter other hother hsame.symm

/-- An update changes nothing in rows that do not fulfil its equations. -/
theorem map_set_of_unmet {rows : List StoredRow} (h : ∀ row ∈ rows, row.fulfils E tests = false) :
    (rows.map fun row => if row.fulfils E tests then row.set settings else row) = rows := by
  refine (List.map_congr_left fun row hrow => ?_).trans (List.map_id rows)
  rw [h row hrow]
  rfl

theorem countP_of_unmet {rows : List StoredRow} (h : ∀ row ∈ rows, row.fulfils E tests = false) :
    (rows.countP fun row => row.fulfils E tests) = 0 := by
  refine List.countP_eq_zero.mpr fun row hrow => ?_
  rw [h row hrow]
  exact Bool.false_ne_true

/-- An update that meets no row reports so, and changes nothing. -/
theorem run_update_unmet (h : ∀ row ∈ table.rows, row.fulfils E tests = false) :
    table.run E (.update table.name settings tests) = ([.ok (.affected { count := some 0 })], table) := by
  rw [run, if_pos rfl, countP_of_unmet h, map_set_of_unmet h]

/-- An update that meets one row reports so, and sets the columns of this row. -/
theorem run_update_met {before after : List StoredRow} {row : StoredRow} (hrows : table.rows = before ++ row :: after)
    (hrow : row.fulfils E tests = true) (hothers : ∀ other ∈ before ++ after, other.fulfils E tests = false) :
    table.run E (.update table.name settings tests) =
      ([.ok (.affected { count := some 1 })], { table with rows := before ++ row.set settings :: after }) := by
  have hbefore := fun other hother => hothers other (List.mem_append_left after hother)
  have hafter := fun other hother => hothers other (List.mem_append_right before hother)
  rw [run, if_pos rfl, hrows, List.countP_append, List.countP_cons, countP_of_unmet hbefore, countP_of_unmet hafter, hrow,
    List.map_append, List.map_cons, map_set_of_unmet hbefore, map_set_of_unmet hafter, hrow]
  rfl

end Table

end RecordSql
