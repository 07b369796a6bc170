import RecordSql.Proofs.Session.Upsert

/-!
# Replacing by the whole key

A replacement is refused only when none of its values is of a primary key column. It names in its filter, or in its conflict target, the key
columns that it was given, so it stands for one row exactly when it was given all of them (`replace_whole_key_iff`): with a part of a
composite key the update of a replacement may meet several rows (`replace_part_of_key`).
-/

namespace RecordSql

namespace Model

variable {m : Model} {values : List Assignment}

/-- No value is of the key when none is of a key column. -/
theorem keyPart_eq_nil_iff : m.keyPart values = [] ↔ ∀ v ∈ values, m.isKeyColumn v.column = false := by
  simp only [keyPart, List.filter_eq_nil_iff, Bool.not_eq_true]

/-- The values of key columns are for every column of the key when all values together are. -/
theorem coversKey_keyPart_iff (hcolumns : m.columns.Nodup) :
    StoredRow.CoversKey m (m.keyPart values) ↔ StoredRow.CoversKey m values := by
  constructor
  · intro h f hf
    obtain ⟨v, hv, hcolumn⟩ := List.mem_map.mp (h f hf)
    exact List.mem_map.mpr ⟨v, List.mem_of_mem_filter hv, hcolumn⟩
  · intro h f hf
    obtain ⟨v, hv, hcolumn⟩ := List.mem_map.mp (h f hf)
    obtain ⟨hfield, hprimary⟩ := List.mem_filter.mp hf
    have hkey : m.isKeyColumn v.column = true := by rw [hcolumn, isKeyColumn_column hcolumns hfield, hprimary]
    exact List.mem_map.mpr ⟨v, List.mem_filter.mpr ⟨hv, hkey⟩, hcolumn⟩

/-- A key column is a column. -/
theorem mem_columns_of_isKeyColumn {column : String} (h : m.isKeyColumn column = true) : column ∈ m.columns := by
  obtain ⟨f, hf, -⟩ := (Option.any_eq_true ..).mp h
  have hcolumn := List.find?_some hf
  exact List.mem_map.mpr ⟨f, List.mem_of_find?_eq_some hf, beq_iff_eq.mp hcolumn⟩

end Model

/-! ## Rows that are met -/

namespace Table

variable {E : Equality} {m : Model} {table : Table} {tests : List Assignment}

/-- At most one row of a table fulfils equations for every column of the key. -/
theorem IsOf.countP_le_one (h : table.IsOf E m) (hk : StoredRow.CoversKey m tests) :
    (table.rows.countP fun row => row.fulfils E tests) ≤ 1 := by
  by_cases hmet : ∃ row ∈ table.rows, row.fulfils E tests = true
  · obtain ⟨row, hrow, hfulfils⟩ := hmet
    obtain ⟨before, after, hrows, hothers⟩ := h.exists_only hk hrow hfulfils
    have hbefore := countP_of_unmet fun other hother => hothers other (List.mem_append_left after hother)
    have hafter := countP_of_unmet fun other hother => hothers other (List.mem_append_right before hother)
    rw [hrows, List.countP_append, List.countP_cons, hbefore, hafter, hfulfils]
    exact Nat.le_refl 1
  · have hunmet : ∀ row ∈ table.rows, row.fulfils E tests = false := fun row hrow =>
      Bool.eq_false_iff.mpr fun hfulfils => hmet ⟨row, hrow, hfulfils⟩
    rw [countP_of_unmet hunmet]
    exact Nat.zero_le 1

/-- A row of a model that fulfils some equations and has a given value in another column. -/
def rowWith (m : Model) (tests : List Assignment) (column : String) (v : Value) : StoredRow :=
  m.columns.map fun other => ⟨other, if other = column then v else (StoredRow.value? tests other).getD (.null .untyped)⟩

variable {column : String}

theorem map_column_rowWith (m : Model) (tests : List Assignment) (column : String) (v : Value) :
    (rowWith m tests column v).map (·.column) = m.columns := by
  rw [rowWith, List.map_map]
  exact List.map_id _

/-- The value of a column of such a row. -/
theorem value?_rowWith (hcolumns : m.columns.Nodup) {other : String} (hother : other ∈ m.columns) (v : Value) :
    StoredRow.value? (rowWith m tests column v) other =
      some (if other = column then v else (StoredRow.value? tests other).getD (.null .untyped)) := by
  have hnodup : ((rowWith m tests column v).map (·.column)).Nodup := by rwa [map_column_rowWith]
  exact StoredRow.value?_of_mem hnodup (List.mem_map_of_mem hother)

/-- Without an equation for a column of the key, there is a table of the model with two rows that fulfil the equations. -/
theorem exists_countP_of_not_coversKey (hcolumns : m.columns.Nodup) (htests : (tests.map (·.column)).Nodup)
    (hmem : ∀ test ∈ tests, test.column ∈ m.columns) (h : ¬ StoredRow.CoversKey m tests) :
    ∃ table : Table, table.IsOf .exact m ∧ (table.rows.countP fun row => row.fulfils .exact tests) = 2 := by
  unfold StoredRow.CoversKey at h
  push Not at h
  obtain ⟨f, hf, hmissing⟩ := h
  have hfield : f.column ∈ m.columns := List.mem_map_of_mem (List.mem_of_mem_filter hf)
  have hmet : ∀ v, StoredRow.fulfils .exact (rowWith m tests f.column v) tests = true := by
    intro v
    refine StoredRow.fulfils_iff.mpr fun test htest => ⟨test.value, ?_, decide_eq_true rfl⟩
    have hne : test.column ≠ f.column := fun heq => hmissing (heq ▸ List.mem_map_of_mem htest)
    rw [value?_rowWith hcolumns (hmem test htest), if_neg hne, StoredRow.value?_of_mem htests htest]
    rfl
  have hkeyed : ¬ StoredRow.SameKey .exact m (rowWith m tests f.column (.varchar "a")) (rowWith m tests f.column (.varchar "b")) := by
    intro hsame
    obtain ⟨v, w, hv, hw, hequal⟩ := hsame f hf
    rw [value?_rowWith hcolumns hfield, if_pos rfl] at hv hw
    cases hv
    cases hw
    revert hequal
    decide
  refine ⟨⟨m.name, [rowWith m tests f.column (.varchar "a"), rowWith m tests f.column (.varchar "b")]⟩,
    ⟨rfl, ?_, List.pairwise_pair.mpr hkeyed⟩, ?_⟩
  · intro row hrow
    rcases List.mem_cons.mp hrow with rfl | hrow
    · exact map_column_rowWith ..
    · rw [List.mem_singleton.mp hrow]
      exact map_column_rowWith ..
  · rw [List.countP_cons, List.countP_cons, List.countP_nil, hmet, hmet]
    rfl

end Table

/-! ## Replacements -/

namespace Dialect

variable {m : Model} {values : List Assignment}

/-- Without a value of a key column a replacement is refused. -/
theorem replace_error (d : Dialect) (h : m.keyPart values = []) :
    d.replace m values = .error (.unsupported (.dialect d) .replaceWithoutKey) := by
  have hsplit : d.splitPrimaryKey m values = .error (.unsupported (.dialect d) .replaceWithoutKey) := by
    rw [splitPrimaryKey, List.partition_eq_filter_filter]
    exact if_pos (List.isEmpty_iff.mpr h)
  rw [replace, hsplit]

/-- What is cut is put together from its halves. -/
theorem cutBefore_append (mark cs : List Char) : (cutBefore mark cs).1 ++ (cutBefore mark cs).2 = cs := by
  induction cs with
  | nil => rfl
  | cons c cs ih =>
    rw [cutBefore]
    split
    · rfl
    · exact congrArg (c :: ·) ih

/-- In Postgres a replacement is an insert with a conflict clause in it, which names the given columns of the key as its target. -/
theorem exists_replace_postgres (h : m.keyPart values ≠ []) :
    ∃ before after rest : String, before ++ after = (postgres.insert m values).sql ∧
      postgres.replace m values = .ok (.statement ⟨before ++ ("\nON CONFLICT (" ++
        ", ".intercalate (((m.keyPart values).map (·.column)).map postgres.quoteName) ++ ")" ++ rest) ++ after,
        assignedValues values⟩) := by
  obtain ⟨rest, hclause⟩ : ∃ rest : String, postgres.conflictClause (m.keyPart values) (m.otherPart values) = "\nON CONFLICT (" ++
      ", ".intercalate (((m.keyPart values).map (·.column)).map postgres.quoteName) ++ ")" ++ rest := by
    rw [← quoteNames_eq]
    exact ⟨_, rfl⟩
  let sql := (postgres.insert m values).sql.toList
  refine ⟨String.ofList (cutBefore "\nRETURNING ".toList sql).1, String.ofList (cutBefore "\nRETURNING ".toList sql).2, rest, ?_, ?_⟩
  · rw [← String.ofList_append, cutBefore_append]
    exact String.ofList_toList
  · rw [replace, postgres.splitPrimaryKey_eq h, ← hclause]

/-- With a value of a key column a replacement succeeds. -/
theorem exists_replace (d : Dialect) (h : m.keyPart values ≠ []) : ∃ r, d.replace m values = .ok r := by
  cases d with
  | generic =>
    exact ⟨_, replace_generic h⟩
  | postgres =>
    obtain ⟨before, after, rest, -, hreplace⟩ := exists_replace_postgres h
    exact ⟨_, hreplace⟩
  | mysql =>
    rw [replace, mysql.splitPrimaryKey_eq h]
    exact ⟨_, rfl⟩
  | sqlite =>
    rw [replace, sqlite.splitPrimaryKey_eq h]
    exact ⟨_, rfl⟩

end Dialect

/-- A replacement succeeds exactly when one of its values is of a column of the primary key, and is refused otherwise. So in every dialect
the promise that it succeeds only with values for the whole key, and is refused without them, holds exactly for values none of which is
of a key column and for values that cover the key. Where columns are not repeated, what a replacement names is the key columns among its
values: the equations of the update and the conflict target are for the whole key, and the update meets at most one row of every table of
the model, exactly when the values cover the key. -/
theorem replace_whole_key_iff (m : Model) (values : List Assignment) :
    (∀ d : Dialect, ((∃ r, d.replace m values = .ok r) ↔ ∃ v ∈ values, m.isKeyColumn v.column = true) ∧
      (((∃ r, d.replace m values = .ok r) → StoredRow.CoversKey m values) ∧
        (¬ StoredRow.CoversKey m values → d.replace m values = .error (.unsupported (.dialect d) .replaceWithoutKey)) ↔
          (∀ v ∈ values, m.isKeyColumn v.column = false) ∨ StoredRow.CoversKey m values)) ∧
    (m.columns.Nodup → (values.map (·.column)).Nodup → (∃ v ∈ values, m.isKeyColumn v.column = true) →
      (∃ update insert settings tests, Dialect.generic.replace m values = .ok (.updateElseInsert update insert) ∧
        Command.read? .generic update = some (.update m.name settings tests) ∧
        ((∀ f ∈ m.primaryKeys, f.column ∈ tests.map (·.column)) ↔ StoredRow.CoversKey m values) ∧
        ((∀ (E : Equality) (table : Table), table.IsOf E m →
            ∃ n ≤ 1, ((Table.executor E .generic).answer update table).1 = [.ok (.affected { count := some n })]) ↔
          StoredRow.CoversKey m values)) ∧
      ∃ (before : String) (target : List String) (after rest : String), before ++ after = (Dialect.postgres.insert m values).sql ∧
        Dialect.postgres.replace m values = .ok (.statement ⟨before ++ ("\nON CONFLICT (" ++
          ", ".intercalate (target.map Dialect.postgres.quoteName) ++ ")" ++ rest) ++ after, Dialect.assignedValues values⟩) ∧
        ((∀ f ∈ m.primaryKeys, f.column ∈ target) ↔ StoredRow.CoversKey m values)) := by
  have hsome : (∃ v ∈ values, m.isKeyColumn v.column = true) ↔ m.keyPart values ≠ [] := by
    rw [ne_eq, Model.keyPart_eq_nil_iff]
    simp
  constructor
  · intro d
    rw [← Model.keyPart_eq_nil_iff, hsome]
    by_cases hnone : m.keyPart values = []
    · have hrefused := d.replace_error hnone
      simp [hrefused, hnone]
    · obtain ⟨r, hr⟩ := d.exists_replace hnone
      simp [hr, hnone]
  · intro hcolumns hvalues hkey
    have hne := hsome.mp hkey
    have hcovers : StoredRow.CoversKey m (m.keyPart values) ↔ StoredRow.CoversKey m values := Model.coversKey_keyPart_iff hcolumns
    constructor
    · have hread := Command.read_replacingUpdate hne
      refine ⟨_, _, _, _, Dialect.replace_generic hne, hread, hcovers, ?_⟩
      rw [← hcovers]
      constructor
      · intro hmeets
        by_contra hpart
        have hnodup : ((m.keyPart values).map (·.column)).Nodup := hvalues.sublist (List.Sublist.map _ List.filter_sublist)
        obtain ⟨table, htable, htwo⟩ := Table.exists_countP_of_not_coversKey hcolumns hnodup
          (fun v hv => Model.mem_columns_of_isKeyColumn (List.mem_filter.mp hv).2) hpart
        obtain ⟨n, hn, hanswer⟩ := hmeets .exact table htable
        rw [Table.answer_of_read hread, Table.run, if_pos htable.name.symm, htwo] at hanswer
        cases hanswer
        omega
      · intro hall E table htable
        refine ⟨_, htable.countP_le_one hall, ?_⟩
        rw [Table.answer_of_read hread, Table.run, if_pos htable.name.symm]
    · obtain ⟨before, after, rest, hinsert, hreplace⟩ := Dialect.exists_replace_postgres hne
      exact ⟨before, _, after, rest, hinsert, hreplace, hcovers⟩

/-- A note with a key of two columns, both of which are among the values. -/
theorem replace_whole_key_note :
    ∃ (m : Model) (values : List Assignment) (update insert : Statement),
      m.primaryKeys.map (·.column) = ["a", "b"] ∧ values.map (·.column) = ["b", "c", "a"] ∧
      Dialect.generic.replace m values = .ok (.updateElseInsert update insert) ∧
      update = ⟨"UPDATE \"note\"\nSET \"c\" = ?\nWHERE \"b\" = ? AND \"a\" = ?", [.varchar "z", .varchar "y", .varchar "x"]⟩ ∧
      ∀ (E : Equality) (table : Table), table.IsOf E m →
        ∃ n ≤ 1, ((Table.executor E .generic).answer update table).1 = [.ok (.affected { count := some n })] := by
  let m : Model := { name := "note", fields := [{ Field.of "a" .text with primaryKey := true },
    { Field.of "b" .text with primaryKey := true }, Field.of "c" .text] }
  let values : List Assignment := [⟨"b", .varchar "y"⟩, ⟨"c", .varchar "z"⟩, ⟨"a", .varchar "x"⟩]
  obtain ⟨-, hnamed⟩ := replace_whole_key_iff m values
  obtain ⟨⟨update, insert, settings, tests, hreplace, -, -, hmeets⟩, -⟩ := hnamed (by decide) (by decide) (by decide)
  have hcovers : StoredRow.CoversKey m values := by
    unfold StoredRow.CoversKey
    decide
  have hupdate : update = Dialect.generic.replacingUpdate m values := by
    rw [Dialect.replace_generic (by decide)] at hreplace
    cases hreplace
    rfl
  exact ⟨m, values, update, insert, rfl, rfl, hreplace, hupdate.trans (by decide +kernel), hmeets.mpr hcovers⟩

/-- Of a key of two columns only the first is among the values. No dialect refuses the replacement, and the update overwrites two rows. -/
theorem replace_part_of_key :
    ∃ (m : Model) (values : List Assignment) (update insert : Statement) (table after : Table),
      m.primaryKeys.map (·.column) = ["a", "b"] ∧ values = [⟨"a", .varchar "x"⟩, ⟨"c", .varchar "z"⟩] ∧
      (∀ d : Dialect, ∃ r, d.replace m values = .ok r) ∧
      Dialect.generic.replace m values = .ok (.updateElseInsert update insert) ∧
      update = ⟨"UPDATE \"note\"\nSET \"c\" = ?\nWHERE \"a\" = ?", [.varchar "z", .varchar "x"]⟩ ∧ table.IsOf .exact m ∧
      table.rows = [[⟨"a", .varchar "x"⟩, ⟨"b", .varchar "1"⟩, ⟨"c", .varchar "p"⟩],
        [⟨"a", .varchar "x"⟩, ⟨"b", .varchar "2"⟩, ⟨"c", .varchar "q"⟩]] ∧
      (Table.executor .exact .generic).answer update table = ([.ok (.affected { count := some 2 })], after) ∧
      after.rows = [[⟨"a", .varchar "x"⟩, ⟨"b", .varchar "1"⟩, ⟨"c", .varchar "z"⟩],
        [⟨"a", .varchar "x"⟩, ⟨"b", .varchar "2"⟩, ⟨"c", .varchar "z"⟩]] := by
  let b : Field := { Field.of "b" .text with primaryKey := true }
  let m : Model := { name := "note", fields := [{ Field.of "a" .text with primaryKey := true }, b, Field.of "c" .text] }
  let values : List Assignment := [⟨"a", .varchar "x"⟩, ⟨"c", .varchar "z"⟩]
  let rows (p q : String) : List StoredRow := [[⟨"a", .varchar "x"⟩, ⟨"b", .varchar "1"⟩, ⟨"c", .varchar p⟩],
    [⟨"a", .varchar "x"⟩, ⟨"b", .varchar "2"⟩, ⟨"c", .varchar q⟩]]
  have hkey : m.keyPart values ≠ [] := by decide
  have hkeyed : ¬ StoredRow.SameKey .exact m [⟨"a", .varchar "x"⟩, ⟨"b", .varchar "1"⟩, ⟨"c", .varchar "p"⟩]
      [⟨"a", .varchar "x"⟩, ⟨"b", .varchar "2"⟩, ⟨"c", .varchar "q"⟩] := by
    intro hsame
    have hb : b ∈ m.primaryKeys := List.mem_cons_of_mem _ (List.mem_singleton_self b)
    obtain ⟨v, w, hv, hw, hequal⟩ := hsame b hb
    cases hv
    cases hw
    revert hequal
    decide
  have htable : Table.IsOf .exact m ⟨"note", rows "p" "q"⟩ := ⟨rfl, by decide, List.pairwise_pair.mpr hkeyed⟩
  refine ⟨m, values, Dialect.generic.replacingUpdate m values, Dialect.generic.insert m values, ⟨"note", rows "p" "q"⟩,
    ⟨"note", rows "z" "z"⟩, rfl, rfl, fun d => d.exists_replace hkey, Dialect.replace_generic hkey, by decide +kernel, htable, rfl, ?_, rfl⟩
  rw [Table.answer_of_read (Command.read_replacingUpdate hkey)]
  rfl

end RecordSql
