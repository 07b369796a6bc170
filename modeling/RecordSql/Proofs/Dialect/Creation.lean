import RecordSql.Dialect.Table
import RecordSql.Proofs.Dialect.Keyed
import RecordSql.Proofs.Logged
import RecordSql.Proofs.Model.Declared
import RecordSql.Proofs.Text.Exact

/-!
# Creating a table

What stands between the parentheses of a CREATE TABLE is a list of entries: a definition for every column, the clause of the primary key, and
the clauses of the foreign keys. The key is declared by its clause, or in SQLite together with a column that counts up by itself, and never
by both (`exists_keyEntries`). A table is created completely whenever its default values can be written (`createTable_iff`); the only ones
that cannot are timestamps with an offset that leave the calendar in universal time, and with such a default nothing is created.
-/

namespace RecordSql

/-! ## Entries of a table -/

/-- How the definition of a column says that the column counts up by itself. -/
inductive Counting where
  /-- Nothing is said. -/
  | unsaid
  | identity
  | autoIncrement
  /-- The column is the row number, and so the primary key. -/
  | rowNumber

/-- The words for counting up. -/
def Counting.words : Counting → String
  | unsaid => ""
  | identity => " GENERATED BY DEFAULT AS IDENTITY"
  | autoIncrement => " AUTO_INCREMENT"
  | rowNumber => " PRIMARY KEY AUTOINCREMENT"

/-- What stands between the parentheses of the statement that creates a table. -/
inductive TableEntry where
  | column (name type : String) (required : Bool) (default : Option String) (counting : Counting) (unique : Bool)
  | primaryKey (columns : List String)
  | foreignKey (source table target : String)

namespace TableEntry

/-- The text of an entry. -/
def text (d : Dialect) : TableEntry → String
  | column name type required default counting unique =>
    d.quoteName name ++ " " ++ type ++ (if required then " NOT NULL" else "") ++ Text.clause " DEFAULT " id default ++
      counting.words ++ (if unique then " UNIQUE" else "")
  | primaryKey columns => "PRIMARY KEY (" ++ ", ".intercalate (columns.map d.quoteName) ++ ")"
  | foreignKey source table target =>
    "FOREIGN KEY (" ++ d.quoteName source ++ ") REFERENCES " ++ d.quoteName table ++ "(" ++ d.quoteName target ++ ")"

theorem text_column (d : Dialect) (name type : String) (required : Bool) (default : Option String) (counting : Counting) (unique : Bool) :
    (column name type required default counting unique).text d =
      d.quoteName name ++ " " ++ type ++ (if required then " NOT NULL" else "") ++ Text.clause " DEFAULT " id default ++
        counting.words ++ (if unique then " UNIQUE" else "") := rfl

theorem text_primaryKey (d : Dialect) (columns : List String) :
    (primaryKey columns).text d = "PRIMARY KEY (" ++ ", ".intercalate (columns.map d.quoteName) ++ ")" := rfl

theorem text_foreignKey (d : Dialect) (source table target : String) :
    (foreignKey source table target).text d =
      "FOREIGN KEY (" ++ d.quoteName source ++ ") REFERENCES " ++ d.quoteName table ++ "(" ++ d.quoteName target ++ ")" := rfl

/-- The columns of the primary key that an entry declares, if it declares one. -/
def key? : TableEntry → Option (List String)
  | column name _ _ _ .rowNumber _ => some [name]
  | primaryKey columns => some columns
  | _ => none

end TableEntry

/-- A field whose default value can be written: a timestamp with an offset must have its day in universal time. -/
def Field.HasWritableDefault (f : Field) : Prop :=
  ∀ t, f.defaultValue = some (.of (.offsetTimestamp t)) → t.universal? ≠ none

namespace Model

/-- A foreign key is declared by an entry for the column of its field. -/
def References (m : Model) (key : ForeignKey) (entry : TableEntry) : Prop :=
  ∃ f ∈ m.fields, f.name = key.field ∧ entry = .foreignKey f.column key.table key.column

/-- A column is that of the field with a name. -/
def IsColumnOf (m : Model) (name column : String) : Prop :=
  ∃ f ∈ m.fields, f.name = name ∧ f.column = column

/-- The columns of the primary key, in order. -/
def keyColumns (m : Model) : List String :=
  m.primaryKeys.map (·.column)

/-- A failure that comes from a default value which leaves the calendar. -/
def FailsByDefault (m : Model) (e : Halt) : Prop :=
  ∃ f ∈ m.fields, ∃ t, f.defaultValue = some (.of (.offsetTimestamp t)) ∧ t.universal? = none ∧ e = .aborted (.beyondCalendar t)

end Model

namespace Dialect

/-- The primary key is declared with the column of a field. -/
def KeyWithColumn (d : Dialect) (m : Model) (f : Field) : Prop :=
  d = sqlite ∧ m.primaryKeys = [f] ∧ f.autoIncrement = true

/-- A column is defined by an entry with its name, the type and the default value of its field, and what else holds of the field. -/
def Defines (d : Dialect) (m : Model) (f : Field) (entry : TableEntry) : Prop :=
  ∃ type default counting,
    entry = .column f.column type (!f.nullable && !f.primaryKey) default counting (f.unique && !f.primaryKey) ∧
    (d.fieldType f).outcome.1 = .ok type ∧ Option.Rel (fun v text => d.literal v = .ok text) f.defaultValue default ∧
    (counting = .rowNumber ↔ d.KeyWithColumn m f) ∧ (f.autoIncrement = false → counting = .unsaid)

/-- An index is created by a statement that names the column of each of its fields. -/
def CreatesIndex (d : Dialect) (m : Model) (ifNotExists : Bool) (index : Index) (s : Statement) : Prop :=
  ∃ columns, List.Forall₂ m.IsColumnOf index.fields columns ∧
    s = .ofText ("CREATE " ++ (if index.unique then "UNIQUE " else "") ++ "INDEX " ++
      guardClause "IF NOT EXISTS" (ifNotExists && d != mysql) ++ d.quoteName index.name ++ " ON " ++ d.quoteName m.name ++
      " (" ++ ", ".intercalate (columns.map d.quoteName) ++ ")")

/-- The statement that creates a table with some entries. -/
def tableText (d : Dialect) (name : String) (ifNotExists : Bool) (entries : List TableEntry) : String :=
  "CREATE TABLE " ++ guardClause "IF NOT EXISTS" ifNotExists ++ d.quoteName name ++ " (\n" ++
    ",\n".intercalate (entries.map (·.text d)) ++ ")"

/-- Statements create a table completely: the first has an entry for every field, for the primary key and for every foreign key that is
wanted, then every index has a statement, those that allow repetitions first. The entries declare the primary key once if there is one. -/
def Creates (d : Dialect) (m : Model) (foreignKeys ifNotExists : Bool) (statements : List Statement) : Prop :=
  ∃ columns keys references plain unique,
    statements = .ofText (d.tableText m.name ifNotExists (columns ++ keys ++ references)) :: (plain ++ unique) ∧
    List.Forall₂ (d.Defines m) m.fields columns ∧
    (keys = [] ∨ keys = [.primaryKey m.keyColumns]) ∧
    List.Forall₂ m.References (if foreignKeys then m.foreignKeys else []) references ∧
    (columns ++ keys ++ references).filterMap TableEntry.key? = (if m.primaryKeys.isEmpty then [] else [m.keyColumns]) ∧
    List.Forall₂ (d.CreatesIndex m ifNotExists) m.plainIndexes plain ∧
    List.Forall₂ (d.CreatesIndex m ifNotExists) m.uniqueIndexes unique ∧
    ∀ s ∈ statements, s.args = []

variable {d : Dialect} {m : Model} {f : Field} {t : OffsetTimestamp}

/-! ## Columns -/

/-- A timestamp that leaves the calendar in universal time has no literal. -/
theorem literal_beyond (h : t.universal? = none) : d.literal (.of (.offsetTimestamp t)) = .error (.beyondCalendar t) := by
  rw [literal, scalarLiteral, offsetTimestampLiteral, h]

/-- Every other value has a literal. -/
theorem exists_literal (d : Dialect) {v : Value} (h : ∀ t, v = .of (.offsetTimestamp t) → t.universal? ≠ none) :
    ∃ text, d.literal v = .ok text := by
  cases v with
  | null _ => exact ⟨_, rfl⟩
  | of s =>
    cases s with
    | offsetTimestamp t =>
      obtain ⟨u, hu⟩ := Option.ne_none_iff_exists'.mp (h t rfl)
      rw [literal, scalarLiteral, offsetTimestampLiteral, hu]
      cases d <;> exact ⟨_, rfl⟩
    | _ => exact ⟨_, rfl⟩

theorem fieldType_yields (d : Dialect) (f : Field) : ∃ type, (d.fieldType f).Yields (.ok type) := by
  unfold fieldType prototypeType
  split
  · exact ⟨_, .pure _⟩
  · split
    · exact ⟨_, .pure _⟩
    · split
      · exact ⟨_, .pure _⟩
      · exact ⟨_, .bind (.line _ _) (.pure _)⟩

/-- A default value that can be written is written behind its word. -/
theorem defaultClause_yields (d : Dialect) (h : f.HasWritableDefault) :
    ∃ default, Option.Rel (fun v text => d.literal v = .ok text) f.defaultValue default ∧
      (d.defaultClause f).Yields (.ok (Text.clause " DEFAULT " id default)) := by
  unfold defaultClause
  cases hdefault : f.defaultValue with
  | none => exact ⟨none, .none, .pure _⟩
  | some v =>
    obtain ⟨text, htext⟩ := d.exists_literal fun t ht => h t (hdefault.trans (congrArg some ht))
    refine ⟨some text, .some htext, .bind (a := text) ?_ (.pure _)⟩
    rw [htext]
    exact .ofExcept _

/-- Nothing is written for a default value that leaves the calendar. -/
theorem defaultClause_fails (hdefault : f.defaultValue = some (.of (.offsetTimestamp t))) (h : t.universal? = none) :
    (d.defaultClause f).Yields (.error (.aborted (.beyondCalendar t))) := by
  rw [defaultClause, hdefault]
  refine .bind_error ?_
  rw [literal_beyond h]
  exact .ofExcept _

/-- A field is the row number exactly when it is the whole primary key and counts up by itself. -/
theorem isRowNumber_iff (h : m.WellFormed) (hf : f ∈ m.fields) :
    isRowNumber m f = true ↔ m.primaryKeys = [f] ∧ f.autoIncrement = true := by
  rw [isRowNumber, Bool.and_eq_true, Option.any_eq_true, and_comm]
  refine and_congr_left fun _ => ⟨?_, fun hkeys => ⟨f, Model.onePrimary?_eq_some_iff.mpr hkeys, beq_self_eq_true _⟩⟩
  rintro ⟨g, hg, hname⟩
  rw [Model.onePrimary?_eq_some_iff] at hg
  have hgf : g ∈ m.primaryKeys := hg ▸ List.mem_singleton_self g
  obtain rfl : g = f := List.inj_on_of_nodup_map h.nodup (List.mem_of_mem_filter hgf) hf (beq_iff_eq.mp hname)
  exact hg

/-- A column that counts up is said to be the row number exactly in SQLite and for a field that is. -/
theorem autoIncrement_yields (d : Dialect) (m : Model) (f : Field) :
    ∃ counting : Counting, (counting = .rowNumber ↔ d = sqlite ∧ isRowNumber m f = true) ∧
      (d.autoIncrement m f).Yields (.ok counting.words) := by
  unfold autoIncrement
  cases d with
  | generic => exact ⟨.identity, by simp, .pure _⟩
  | mysql => exact ⟨.autoIncrement, by simp, .pure _⟩
  | postgres =>
    by_cases h : f.columnType.isEmpty
    · exact ⟨.unsaid, by simp, by simpa [h] using .pure _⟩
    · exact ⟨.identity, by simp, by simpa [h] using .pure _⟩
  | sqlite =>
    by_cases h : isRowNumber m f
    · exact ⟨.rowNumber, by simp [h], by simpa [h] using .pure _⟩
    · refine ⟨.unsaid, by simp [h], ?_⟩
      simp only [if_neg h]
      exact .bind (.line _ _) (.pure _)

/-- The column of a field is defined when the default value can be written. -/
theorem columnDefinition_yields (d : Dialect) (hm : m.WellFormed) (hf : f ∈ m.fields) (h : f.HasWritableDefault) :
    ∃ entry, d.Defines m f entry ∧ (d.columnDefinition m f).Yields (.ok (entry.text d)) := by
  obtain ⟨type, htype⟩ := d.fieldType_yields f
  obtain ⟨default, hrel, hdefault⟩ := d.defaultClause_yields h
  by_cases hauto : f.autoIncrement = true
  · obtain ⟨counting, hrow, hcounting⟩ := d.autoIncrement_yields m f
    rw [isRowNumber_iff hm hf] at hrow
    have hsaid : f.autoIncrement = false → counting = .unsaid := fun hnot => absurd hauto (Bool.eq_false_iff.mp hnot)
    refine ⟨_, ⟨type, default, counting, rfl, htype.outcome, hrel, hrow, hsaid⟩, htype.bind (hdefault.bind ?_)⟩
    rw [if_pos hauto]
    exact hcounting.bind (.pure _)
  · have hrow : Counting.unsaid = .rowNumber ↔ d.KeyWithColumn m f := iff_of_false nofun fun hkey => hauto hkey.2.2
    refine ⟨_, ⟨type, default, .unsaid, rfl, htype.outcome, hrel, hrow, fun _ => rfl⟩, htype.bind (hdefault.bind ?_)⟩
    rw [if_neg hauto]
    exact .bind (.pure "") (.pure _)

/-- The column of a field is not defined when the default value leaves the calendar. -/
theorem columnDefinition_fails (m : Model) (hdefault : f.defaultValue = some (.of (.offsetTimestamp t))) (h : t.universal? = none) :
    (d.columnDefinition m f).Yields (.error (.aborted (.beyondCalendar t))) := by
  obtain ⟨type, htype⟩ := d.fieldType_yields f
  exact htype.bind (defaultClause_fails hdefault h).bind_error

/-! ## Keys -/

/-- A column declares the primary key exactly when the key is declared with it. -/
theorem Defines.key?_eq {entry : TableEntry} (h : d.Defines m f entry) :
    (d.KeyWithColumn m f ∧ entry.key? = some [f.column]) ∨ (¬ d.KeyWithColumn m f ∧ entry.key? = none) := by
  obtain ⟨type, default, counting, rfl, -, -, hrow, -⟩ := h
  rw [← hrow]
  cases counting <;> simp [TableEntry.key?]

/-- The definition of a column starts with its name. -/
theorem Defines.text_ne {entry : TableEntry} (h : d.Defines m f entry) : entry.text d ≠ "" := by
  obtain ⟨type, default, counting, rfl, -⟩ := h
  simp only [TableEntry.text_column, String.append_assoc]
  exact d.quoteName_append_ne _ _

/-- Entries that follow others stand with a separator in front of each. -/
def trailing (d : Dialect) (entries : List TableEntry) : String :=
  String.join (entries.map fun entry => ",\n" ++ entry.text d)

theorem trailing_append (entries more : List TableEntry) : d.trailing (entries ++ more) = d.trailing entries ++ d.trailing more := by
  rw [trailing, List.map_append, String.join_append]
  rfl

/-- One field that counts up by itself is the whole primary key exactly when there is such a field. -/
theorem any_isRowNumber_iff : m.onePrimary?.any (isRowNumber m) = true ↔ ∃ f, m.primaryKeys = [f] ∧ f.autoIncrement = true := by
  rw [Option.any_eq_true]
  refine exists_congr fun f => ?_
  rw [Model.onePrimary?_eq_some_iff]
  refine and_congr_right fun hkeys => ?_
  rw [isRowNumber, Model.onePrimary?_eq_some_iff.mpr hkeys]
  simp

/-- The primary key has no clause when it is declared with a column. -/
theorem primaryKeyClause_of_keyWithColumn (h : d.KeyWithColumn m f) : d.primaryKeyClause m = "" := by
  rw [primaryKeyClause, if_pos ⟨h.1, any_isRowNumber_iff.mpr ⟨f, h.2⟩⟩]

/-- The primary key has a clause when it is not declared with a column. -/
theorem primaryKeyClause_of_forall_not (h : ∀ f, ¬ d.KeyWithColumn m f) :
    d.primaryKeyClause m = d.trailing (if m.primaryKeys.isEmpty then [] else [.primaryKey m.keyColumns]) := by
  rw [primaryKeyClause, if_neg]
  · cases m.primaryKeys.isEmpty with
    | true => rfl
    | false =>
      have hwords : ",\nPRIMARY KEY (" = ",\n" ++ "PRIMARY KEY (" := by decide
      change ",\nPRIMARY KEY (" ++ d.quoteNames m.keyColumns ++ ")" = String.join [",\n" ++ TableEntry.text d (.primaryKey m.keyColumns)]
      rw [String.join_cons, String.join_nil, String.append_empty, quoteNames_eq, TableEntry.text_primaryKey, hwords]
      simp only [String.append_assoc]
  · rintro ⟨hd, hany⟩
    obtain ⟨f, hf⟩ := any_isRowNumber_iff.mp hany
    exact h f ⟨hd, hf⟩

/-- The key is declared by its clause unless it is declared with a column. -/
theorem exists_keyEntries {columns : List TableEntry} (hcolumns : List.Forall₂ (d.Defines m) m.fields columns) :
    ∃ keys, (keys = [] ∨ keys = [.primaryKey m.keyColumns]) ∧ d.primaryKeyClause m = d.trailing keys ∧
      (columns ++ keys).filterMap TableEntry.key? = if m.primaryKeys.isEmpty then [] else [m.keyColumns] := by
  by_cases h : ∃ f, d.KeyWithColumn m f
  · -- the field is the only one of the key, so its column is the only one that declares it
    obtain ⟨f, hf⟩ := h
    have hkey : ∀ g ∈ m.fields, (d.KeyWithColumn m g ↔ g.primaryKey = true) := by
      intro g hg
      constructor
      · intro hkey
        have hmem : g ∈ m.primaryKeys := hkey.2.1 ▸ List.mem_singleton_self g
        exact (List.mem_filter.mp hmem).2
      · intro hkey
        have hmem : g ∈ m.primaryKeys := List.mem_filter.mpr ⟨hg, hkey⟩
        rw [hf.2.1, List.mem_singleton] at hmem
        exact hmem ▸ hf
    have hone : columns.filterMap TableEntry.key? = m.primaryKeys.map fun g => [g.column] := by
      rw [Model.primaryKeys, ← List.filterMap_eq_map', List.filterMap_filter]
      refine (filterMap_eq_of_forall₂ hcolumns fun g hg entry hentry => ?_).symm
      rcases hentry.key?_eq with ⟨hdeclared, hentry⟩ | ⟨hnot, hentry⟩
      · rw [hentry, if_pos ((hkey g hg).mp hdeclared)]
      · rw [hentry, if_neg fun hg' => hnot ((hkey g hg).mpr hg')]
    refine ⟨[], .inl rfl, primaryKeyClause_of_keyWithColumn hf, ?_⟩
    rw [List.append_nil, hone, Model.keyColumns, hf.2.1]
    rfl
  · rw [not_exists] at h
    have hnone : columns.filterMap TableEntry.key? = [] := by
      have hfields := filterMap_eq_of_forall₂ (f := fun _ => none) hcolumns fun g _ entry hentry => by
        rcases hentry.key?_eq with ⟨hdeclared, -⟩ | ⟨-, hentry⟩
        · exact absurd hdeclared (h g)
        · exact hentry.symm
      rw [← hfields, List.filterMap_none]
    refine ⟨if m.primaryKeys.isEmpty then [] else [.primaryKey m.keyColumns], ?_, primaryKeyClause_of_forall_not h, ?_⟩
    · cases m.primaryKeys.isEmpty <;> simp
    · rw [List.filterMap_append, hnone]
      cases m.primaryKeys.isEmpty <;> rfl

/-- Without fields no primary key is declared. -/
theorem eq_nil_of_keyEntries {columns keys : List TableEntry} (hkeys : keys = [] ∨ keys = [.primaryKey m.keyColumns])
    (hdeclared : (columns ++ keys).filterMap TableEntry.key? = if m.primaryKeys.isEmpty then [] else [m.keyColumns])
    (hnone : m.fields = []) : keys = [] := by
  refine hkeys.resolve_right fun hkey => ?_
  rw [hkey, List.filterMap_append, Model.primaryKeys, hnone] at hdeclared
  exact List.append_ne_nil_of_right_ne_nil _ (List.cons_ne_nil _ _) hdeclared

/-- Every foreign key is declared by an entry, which declares no primary key. -/
theorem exists_referenceEntries (d : Dialect) (hm : m.WellFormed) :
    ∃ references, List.Forall₂ m.References m.foreignKeys references ∧
      String.join (m.foreignKeys.map (d.foreignKeyClause m)) = d.trailing references ∧ references.filterMap TableEntry.key? = [] := by
  have hentry : ∀ key ∈ m.foreignKeys, ∃ entry, m.References key entry ∧
      d.foreignKeyClause m key = ",\n" ++ entry.text d ∧ entry.key? = none := by
    intro key hkey
    obtain ⟨f, hf, hname, hfound⟩ := Model.exists_of_isSome_field? (hm.foreignKeys key hkey)
    have hwords : ",\nFOREIGN KEY (" = ",\n" ++ "FOREIGN KEY (" := by decide
    refine ⟨.foreignKey f.column key.table key.column, ⟨f, hf, hname, rfl⟩, ?_, rfl⟩
    rw [foreignKeyClause, hfound, TableEntry.text_foreignKey, hwords]
    simp only [String.append_assoc]
  obtain ⟨references, h⟩ := exists_forall₂ hentry
  refine ⟨references, h.imp fun _ _ h => h.1, ?_, ?_⟩
  · exact congrArg String.join (map_eq_of_forall₂ h fun _ _ h => h.2.1)
  · have hnone := filterMap_eq_of_forall₂ (f := fun _ => none) h fun _ _ _ h => h.2.2.symm
    rw [← hnone, List.filterMap_none]

/-- Without fields no foreign key is declared. -/
theorem eq_nil_of_references {keys : List ForeignKey} {references : List TableEntry} (h : List.Forall₂ m.References keys references)
    (hnone : m.fields = []) : references = [] := by
  refine List.eq_nil_iff_forall_not_mem.mpr fun entry hentry => ?_
  obtain ⟨key, -, f, hf, -⟩ := exists_of_mem_forall₂ h.flip hentry
  exact List.not_mem_nil (hnone ▸ hf)

/-! ## Indexes -/

/-- The fields that names resolve to have the columns of the names. -/
theorem forall₂_isColumnOf {names : List String} (h : ∀ name ∈ names, (m.field? name).isSome = true) :
    List.Forall₂ m.IsColumnOf names ((names.filterMap m.field?).map (·.column)) := by
  induction names with
  | nil => exact .nil
  | cons name names ih =>
    rw [List.forall_mem_cons] at h
    obtain ⟨f, hf, hname, hfound⟩ := Model.exists_of_isSome_field? h.1
    rw [List.filterMap_cons, hfound]
    exact .cons ⟨f, hf, hname, rfl⟩ (ih h.2)

/-- An index of a model is created with all its columns. -/
theorem createsIndex (d : Dialect) (hm : m.WellFormed) (ifNotExists : Bool) {index : Index} (hindex : index ∈ m.indexes) :
    d.CreatesIndex m ifNotExists index (d.createIndex m index ifNotExists) := by
  refine ⟨_, forall₂_isColumnOf (hm.indexes index hindex), ?_⟩
  rw [createIndex, quoteNames_eq]

theorem forall₂_createsIndex (d : Dialect) (hm : m.WellFormed) (ifNotExists : Bool) (p : Index → Bool) :
    List.Forall₂ (d.CreatesIndex m ifNotExists) (m.indexes.filter p)
      ((m.indexes.filter p).map fun index => d.createIndex m index ifNotExists) := by
  rw [List.forall₂_map_right_iff, List.forall₂_same]
  exact fun index hindex => d.createsIndex hm ifNotExists (List.mem_of_mem_filter hindex)

/-! ## The table -/

/-- The columns with the entries that follow them, and a separator between any two. -/
theorem intercalate_entries {columns more : List TableEntry} (hcolumns : List.Forall₂ (d.Defines m) m.fields columns)
    (hmore : m.fields = [] → more = []) :
    ",\n".intercalate ((columns ++ more).map (·.text d)) = Text.separated ",\n" (columns.map (·.text d)) ++ d.trailing more := by
  have hparts : ∀ part ∈ columns.map (·.text d), part ≠ "" := by
    intro part hpart
    obtain ⟨entry, hentry, rfl⟩ := List.mem_map.mp hpart
    obtain ⟨f, -, hdefines⟩ := exists_of_mem_forall₂ hcolumns.flip hentry
    exact Defines.text_ne hdefines
  have hempty : columns.map (·.text d) = [] → more.map (·.text d) = [] := by
    intro hnil
    rw [List.map_eq_nil_iff] at hnil ⊢
    subst hnil
    exact hmore (List.forall₂_nil_right_iff.mp hcolumns)
  rw [Text.separated_eq_intercalate _ hparts, List.map_append, Text.intercalate_append _ hempty, List.map_map]
  rfl

/-- The columns of a model are defined when its default values can be written. -/
theorem columns_yield (d : Dialect) (hm : m.WellFormed) (h : ∀ f ∈ m.fields, f.HasWritableDefault) :
    ∃ columns, List.Forall₂ (d.Defines m) m.fields columns ∧
      (m.fields.mapM (d.columnDefinition m)).Yields (.ok (columns.map (·.text d))) := by
  obtain ⟨columns, hcolumns⟩ := exists_forall₂ fun f hf => d.columnDefinition_yields hm hf (h f hf)
  refine ⟨columns, hcolumns.imp fun _ _ h => h.1, .mapM ?_⟩
  rw [List.forall₂_map_right_iff]
  exact hcolumns.imp fun _ _ h => h.2

/-- A table is created completely when its default values can be written. -/
theorem createTable_yields (d : Dialect) (hm : m.WellFormed) (h : ∀ f ∈ m.fields, f.HasWritableDefault) (foreignKeys ifNotExists : Bool) :
    ∃ statements, d.Creates m foreignKeys ifNotExists statements ∧
      (d.createTable m foreignKeys ifNotExists).Yields (.ok statements) := by
  obtain ⟨columns, hcolumns, hyields⟩ := d.columns_yield hm h
  obtain ⟨keys, hkeys, hclause, hdeclared⟩ := exists_keyEntries hcolumns
  obtain ⟨references, hreferences, hjoined, hundeclared⟩ : ∃ references,
      List.Forall₂ m.References (if foreignKeys then m.foreignKeys else []) references ∧
      (if foreignKeys then String.join (m.foreignKeys.map (d.foreignKeyClause m)) else "") = d.trailing references ∧
      references.filterMap TableEntry.key? = [] := by
    cases foreignKeys with
    | true => exact d.exists_referenceEntries hm
    | false => exact ⟨[], .nil, rfl, rfl⟩
  have hempty : m.fields = [] → keys ++ references = [] := by
    intro hnone
    rw [eq_nil_of_keyEntries hkeys hdeclared hnone, eq_nil_of_references hreferences hnone, List.append_nil]
  have hentries := intercalate_entries hcolumns hempty
  rw [trailing_append, ← hclause, ← hjoined, ← List.append_assoc, ← String.append_assoc] at hentries
  have htext : d.tableText m.name ifNotExists (columns ++ keys ++ references) = _ :=
    congrArg (fun text => "CREATE TABLE " ++ guardClause "IF NOT EXISTS" ifNotExists ++ d.quoteName m.name ++ " (\n" ++ text ++ ")") hentries
  refine ⟨_, ⟨columns, keys, references, _, _, rfl, hcolumns, hkeys, hreferences, ?_, d.forall₂_createsIndex hm ifNotExists _,
    d.forall₂_createsIndex hm ifNotExists _, ?_⟩, ?_⟩
  · rw [List.filterMap_append, hdeclared, hundeclared, List.append_nil]
  · rw [List.forall_mem_cons, List.forall_mem_append, List.forall_mem_map, List.forall_mem_map]
    exact ⟨rfl, fun _ _ => rfl, fun _ _ => rfl⟩
  · rw [htext, ← List.map_append]
    simp only [← String.append_assoc]
    exact hyields.bind (.pure _)

/-- The column of a field is not defined when the default value cannot be written. -/
theorem columnDefinition_failsByDefault (d : Dialect) (hf : f ∈ m.fields) (h : ¬ f.HasWritableDefault) :
    ∃ e, m.FailsByDefault e ∧ (d.columnDefinition m f).Yields (.error e) := by
  unfold Field.HasWritableDefault at h
  push Not at h
  obtain ⟨t, ht, hu⟩ := h
  exact ⟨_, ⟨f, hf, t, ht, hu, rfl⟩, columnDefinition_fails m ht hu⟩

/-- A table with a default value that cannot be written is not created. -/
theorem createTable_fails (d : Dialect) (hm : m.WellFormed) (h : ¬ ∀ f ∈ m.fields, f.HasWritableDefault) (foreignKeys ifNotExists : Bool) :
    ∃ e, m.FailsByDefault e ∧ (d.createTable m foreignKeys ifNotExists).Yields (.error e) := by
  have heach : ∀ f ∈ m.fields, (∃ text, (d.columnDefinition m f).Yields (.ok text)) ∨
      ∃ e, m.FailsByDefault e ∧ (d.columnDefinition m f).Yields (.error e) := by
    intro f hf
    by_cases hwritable : f.HasWritableDefault
    · obtain ⟨entry, -, hyields⟩ := d.columnDefinition_yields hm hf hwritable
      exact .inl ⟨_, hyields⟩
    · exact .inr (d.columnDefinition_failsByDefault hf hwritable)
  push Not at h
  obtain ⟨f, hf, hnot⟩ := h
  obtain ⟨_, -, hfails⟩ := d.columnDefinition_failsByDefault hf hnot
  -- the first field that fails decides, which need not be this one
  obtain ⟨e, he, hall⟩ := Logged.Yields.mapM_error heach hf hfails
  exact ⟨e, he, hall.bind_error⟩

end Dialect

/-- A table is created completely exactly when every default value can be written. A timestamp with an offset that has no day in universal
time cannot be, and aborts the creation before there is any statement. -/
theorem createTable_iff (d : Dialect) (description : Description) (foreignKeys ifNotExists : Bool) :
    let m := description.build.1
    let answer := (d.createTable m foreignKeys ifNotExists).outcome.1
    ((∃ statements, answer = .ok statements ∧ d.Creates m foreignKeys ifNotExists statements) ↔
      ∀ f ∈ m.fields, f.HasWritableDefault) ∧
    ((¬ ∀ f ∈ m.fields, f.HasWritableDefault) → ∃ f ∈ m.fields, ∃ t,
      f.defaultValue = some (.of (.offsetTimestamp t)) ∧ t.universal? = none ∧ answer = .error (.aborted (.beyondCalendar t))) := by
  intro m answer
  have hm : m.WellFormed := description.wellFormed_build
  have hfails : (¬ ∀ f ∈ m.fields, f.HasWritableDefault) → ∃ f ∈ m.fields, ∃ t,
      f.defaultValue = some (.of (.offsetTimestamp t)) ∧ t.universal? = none ∧ answer = .error (.aborted (.beyondCalendar t)) := by
    intro hnot
    obtain ⟨_, ⟨f, hf, t, hdefault, hu, rfl⟩, hyields⟩ := d.createTable_fails hm hnot foreignKeys ifNotExists
    exact ⟨f, hf, t, hdefault, hu, hyields.outcome⟩
  refine ⟨⟨?_, ?_⟩, hfails⟩
  · rintro ⟨statements, hanswer, -⟩
    by_contra hnot
    obtain ⟨f, -, t, -, -, herror⟩ := hfails hnot
    cases hanswer.symm.trans herror
  · intro hwritable
    obtain ⟨statements, hcreates, hyields⟩ := d.createTable_yields hm hwritable foreignKeys ifNotExists
    exact ⟨statements, hyields.outcome, hcreates⟩

example : (Dialect.sqlite.createTable (Description.build ⟨"note", [
      .field { Field.of "id" (.integer .int64) with primaryKey := true, autoIncrement := true }, .field (Field.of "author" (.integer .int64)),
      .index "by_author" ["author"] false, .foreignKey "author" "person" "id"]⟩).1 true false).outcome.1.toOption.map (·.map (·.sql)) =
    some ["CREATE TABLE \"note\" (\n\"id\" INTEGER PRIMARY KEY AUTOINCREMENT,\n\"author\" INTEGER NOT NULL,\n" ++
      "FOREIGN KEY (\"author\") REFERENCES \"person\"(\"id\"))", "CREATE INDEX \"by_author\" ON \"note\" (\"author\")"] := by
  decide +kernel

/-- The last second of the year 9999 one hour behind universal time is outside of the calendar there, and no dialect creates a table with
this default value. -/
theorem createTable_beyond_calendar :
    ∃ t : OffsetTimestamp, t.clock.text = "9999-12-31 23:59:59.0" ∧ t.offset = -3600 ∧ ∀ d : Dialect,
      let description : Description := ⟨"t", [.field { Field.of "at" .offsetTimestamp with defaultValue := some (.of (.offsetTimestamp t)) }]⟩
      (d.createTable description.build.1 false false).outcome.1 = .error (.aborted (.beyondCalendar t)) := by
  let t : OffsetTimestamp :=
    ⟨⟨⟨9999, 12, 31, by decide⟩, ⟨23, 59, 59, 0, by decide, by decide, by decide, by decide⟩⟩, -3600, by decide⟩
  have hbeyond : t.universal? = none := by decide
  refine ⟨t, by decide, rfl, ?_⟩
  intro d description
  have hnot : ¬ ∀ f ∈ description.build.1.fields, f.HasWritableDefault :=
    fun h => h _ (List.mem_singleton_self _) t rfl hbeyond
  obtain ⟨_, ⟨f, hf, u, hu, -, rfl⟩, hyields⟩ := d.createTable_fails description.wellFormed_build hnot false false
  obtain rfl := List.mem_singleton.mp hf
  cases hu
  exact hyields.outcome

end RecordSql
