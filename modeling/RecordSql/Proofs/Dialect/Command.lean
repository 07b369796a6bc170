import RecordSql.Proofs.Dialect.Keyed
import RecordSql.Proofs.Text.Reading

/-!
# Reading changes back

An update of the rows that fulfil some equations and an insert are read from their texts as a database reads them: columns by their quoted
names, and every placeholder as the argument bound to it, in order. What a dialect builds for a key is read back as the update of its
table (`read_update`), and an insert as the insert of its values (`read_insert`).
-/

namespace RecordSql

/-- A change of one table. -/
inductive Command where
  /-- Sets columns in the rows in which all of some columns have given values. -/
  | update (table : String) (settings tests : List Assignment)
  /-- Adds a row. -/
  | insert (table : String) (values : List Assignment)
  deriving DecidableEq

namespace Command

/-- Columns with the arguments of their placeholders, in order. -/
def bound (columns : List String) (args : List Value) : List Assignment :=
  List.zipWith Assignment.mk columns args

/-- The column of an equation with a placeholder. -/
def readEquation? (quote : Char) (cs : List Char) : Option (String × List Char) := do
  let (column, rest) ← Text.readName? quote cs
  let rest ← Text.after? " = ?" rest
  return (column, rest)

/-- A placeholder. -/
def readHole? (cs : List Char) : Option (Unit × List Char) :=
  (Text.after? "?" cs).map fun rest => ((), rest)

/-- An update whose filter is one equation or several, all of which must hold. -/
def readUpdate? (quote : Char) (s : Statement) : Option Command := do
  let rest ← Text.after? "UPDATE " s.sql.toList
  let (table, rest) ← Text.readName? quote rest
  let rest ← Text.after? "\nSET " rest
  let (settings, rest) ← Text.readItems (readEquation? quote) ", " rest
  let rest ← Text.after? "\nWHERE " rest
  let (tests, rest) ← Text.readItems (readEquation? quote) " AND " rest
  if rest.isEmpty && s.args.length == settings.length + tests.length then
    some (.update table (bound settings s.args) (bound tests (s.args.drop settings.length)))
  else none

/-- An insert of one row. -/
def readInsert? (quote : Char) (s : Statement) : Option Command := do
  let rest ← Text.after? "INSERT INTO " s.sql.toList
  let (table, rest) ← Text.readName? quote rest
  let rest ← Text.after? " (" rest
  let (columns, rest) ← Text.readItems (Text.readName? quote) ", " rest
  let rest ← Text.after? ")\nVALUES (" rest
  let (holes, rest) ← Text.readItems readHole? ", " rest
  if rest == ")".toList && s.args.length == columns.length && holes.length == columns.length then
    some (.insert table (bound columns s.args))
  else none

/-- The change that a statement is. -/
def read? (d : Dialect) (s : Statement) : Option Command :=
  (readUpdate? d.nameQuote s).or (readInsert? d.nameQuote s)

/-- An equation is read back before any text. -/
theorem readEquation?_append (d : Dialect) (column : String) (rest : List Char) :
    readEquation? d.nameQuote ((d.quoteName column ++ " = ?").toList ++ rest) = some (column, rest) := by
  have hquote : (" = ?".toList ++ rest).head? ≠ some d.nameQuote := by
    cases d <;> simp [Dialect.nameQuote, Text.quotationMark, Text.graveAccent]
  rw [String.toList_append, List.append_assoc, readEquation?, Dialect.quoteName, Text.readName?_enclosed _ _ hquote]
  change (Text.after? " = ?" (" = ?".toList ++ rest) >>= fun rest => some (column, rest)) = _
  rw [Text.after?_append]
  rfl

/-- Columns that are bound to their own values, whatever arguments follow. -/
theorem bound_columns (values : List Assignment) (more : List Value) :
    bound (values.map (·.column)) (Dialect.assignedValues values ++ more) = values := by
  induction values with
  | nil => rfl
  | cons v values ih => exact congrArg (v :: ·) ih

variable (d : Dialect)

/-- Equations are read back before any text that does not go on with their separator. -/
theorem readItems_equations {separator : String} (hsep : separator.toList ≠ []) {rest : List Char}
    (hrest : Text.after? separator rest = none) {columns : List String} (hne : columns ≠ []) :
    Text.readItems (readEquation? d.nameQuote) separator
      ((separator.intercalate (d.openEquations columns)).toList ++ rest) = some (columns, rest) :=
  Text.readItems_intercalate hsep (fun column tail _ => readEquation?_append d column tail) hrest hne

/-- An update of the rows that fulfil some equations is read back. -/
theorem read_update (name : String) {settings tests : List Assignment} (hsettings : settings ≠ []) (htests : tests ≠ []) :
    read? d ⟨"UPDATE " ++ d.quoteName name ++ "\nSET " ++ ", ".intercalate (d.openEquations (settings.map (·.column))) ++
        ("\nWHERE " ++ " AND ".intercalate (d.openEquations (tests.map (·.column)))),
      Dialect.assignedValues settings ++ Dialect.assignedValues tests⟩ = some (.update name settings tests) := by
  have hname : ∀ rest, Text.readName? d.nameQuote ((d.quoteName name).toList ++ ("\nSET ".toList ++ rest)) =
      some (name, "\nSET ".toList ++ rest) := by
    intro rest
    refine Text.readName?_enclosed _ _ ?_
    cases d <;> simp [Dialect.nameQuote, Text.quotationMark, Text.graveAccent]
  have hset : ∀ rest, Text.readItems (readEquation? d.nameQuote) ", "
      ((", ".intercalate (d.openEquations (settings.map (·.column)))).toList ++ ("\nWHERE ".toList ++ rest)) =
      some (settings.map (·.column), "\nWHERE ".toList ++ rest) :=
    fun rest => readItems_equations d (by decide) rfl (by simpa using hsettings)
  have hwhere : Text.readItems (readEquation? d.nameQuote) " AND "
      (" AND ".intercalate (d.openEquations (tests.map (·.column)))).toList = some (tests.map (·.column), []) := by
    have hcolumns : tests.map (·.column) ≠ [] := by simpa using htests
    have hend : Text.after? " AND " [] = none := rfl
    have hread := readItems_equations d (by decide) hend hcolumns
    rwa [List.append_nil] at hread
  have hlength : (Dialect.assignedValues settings ++ Dialect.assignedValues tests).length =
      (settings.map (·.column)).length + (tests.map (·.column)).length := by
    simp [Dialect.assignedValues]
  have hdrop : (Dialect.assignedValues settings ++ Dialect.assignedValues tests).drop (settings.map (·.column)).length =
      Dialect.assignedValues tests ++ [] := by
    simp [Dialect.assignedValues]
  have hupdate : readUpdate? d.nameQuote ⟨"UPDATE " ++ d.quoteName name ++ "\nSET " ++
      ", ".intercalate (d.openEquations (settings.map (·.column))) ++
      ("\nWHERE " ++ " AND ".intercalate (d.openEquations (tests.map (·.column)))),
      Dialect.assignedValues settings ++ Dialect.assignedValues tests⟩ = some (.update name settings tests) := by
    simp only [readUpdate?, String.toList_append, List.append_assoc, Text.after?_append, Option.bind_eq_bind, Option.bind_some,
      hname, hset, hwhere, hlength, hdrop, bound_columns, List.isEmpty_nil, beq_self_eq_true, Bool.and_self, if_true]
  rw [read?, hupdate]
  rfl

/-- A quoted name is read back before the words that stand behind one in an insert. -/
theorem readName?_append (name : String) {words : String} (hwords : words = ", " ∨ words = " (" ∨ words = ")\nVALUES (")
    (rest : List Char) :
    Text.readName? d.nameQuote ((d.quoteName name).toList ++ (words.toList ++ rest)) = some (name, words.toList ++ rest) := by
  refine Text.readName?_enclosed _ _ ?_
  rcases hwords with rfl | rfl | rfl <;> cases d <;> simp [Dialect.nameQuote, Text.quotationMark, Text.graveAccent]

/-- An insert is read back. -/
theorem read_insert (name : String) {values : List Assignment} (hvalues : values ≠ []) :
    read? d ⟨"INSERT INTO " ++ d.quoteName name ++ " (" ++ ", ".intercalate ((values.map (·.column)).map d.quoteName) ++
      ")\nVALUES (" ++ ", ".intercalate (values.map fun _ => "?") ++ ")", Dialect.assignedValues values⟩ =
      some (.insert name values) := by
  have hcolumns : ∀ rest, Text.readItems (Text.readName? d.nameQuote) ", "
      ((", ".intercalate ((values.map (·.column)).map d.quoteName)).toList ++ (")\nVALUES (".toList ++ rest)) =
      some (values.map (·.column), ")\nVALUES (".toList ++ rest) := by
    intro rest
    refine Text.readItems_intercalate (by decide) (fun column tail htail => ?_) rfl (by simpa using hvalues)
    rcases htail with rfl | ⟨more, rfl⟩
    · exact readName?_append d column (.inr (.inr rfl)) rest
    · exact readName?_append d column (.inl rfl) more
  have hholes : Text.readItems readHole? ", " ((", ".intercalate (values.map fun _ => "?")).toList ++ ")".toList) =
      some (values.map fun _ => (), ")".toList) := by
    have hne : (values.map fun _ => ()) ≠ [] := by simpa using hvalues
    have hhole : ∀ (_ : Unit) tail, tail = ")".toList ∨ (∃ more, tail = ", ".toList ++ more) →
        readHole? ("?".toList ++ tail) = some ((), tail) := by
      intro _ tail _
      rw [readHole?, Text.after?_append]
      rfl
    have hread := Text.readItems_intercalate (by decide) hhole rfl hne
    rwa [List.map_map] at hread
  have hbound : bound (values.map (·.column)) (Dialect.assignedValues values) = values := by
    have hmore := bound_columns values []
    rwa [List.append_nil] at hmore
  have hlength : (Dialect.assignedValues values).length = values.length := List.length_map ..
  have hupdate : ∀ rest args, readUpdate? d.nameQuote ⟨"INSERT INTO " ++ rest, args⟩ = none := by
    intro rest args
    have hwords : Text.after? "UPDATE " ("INSERT INTO " ++ rest).toList = none := by
      rw [String.toList_append]
      rfl
    rw [readUpdate?, hwords]
    rfl
  have hinsert : readInsert? d.nameQuote ⟨"INSERT INTO " ++ d.quoteName name ++ " (" ++
      ", ".intercalate ((values.map (·.column)).map d.quoteName) ++ ")\nVALUES (" ++
      ", ".intercalate (values.map fun _ => "?") ++ ")", Dialect.assignedValues values⟩ = some (.insert name values) := by
    simp only [readInsert?, String.toList_append, List.append_assoc, Text.after?_append, Option.bind_eq_bind, Option.bind_some,
      readName?_append d name (.inr (.inl rfl)), hcolumns, hholes, hbound, hlength, List.length_map,
      beq_self_eq_true, Bool.and_self, if_true]
  rw [read?, hinsert]
  simp only [String.append_assoc, hupdate, Option.none_or]

end Command

namespace Dialect

/-- The insert of a row in a dialect that does not return its key. -/
theorem insert_eq (d : Dialect) (hd : d.keySource = .lastInsertId) (m : Model) (values : List Assignment) :
    d.insert m values = ⟨"INSERT INTO " ++ d.quoteName m.name ++ " (" ++ ", ".intercalate ((values.map (·.column)).map d.quoteName) ++
      ")\nVALUES (" ++ ", ".intercalate (values.map fun _ => "?") ++ ")", assignedValues values⟩ := by
  have hclause : d.returningClause m = "" := by
    rw [returningClause, hd]
  have hwords : "INSERT" ++ " INTO " = "INSERT INTO " := by decide
  rw [insert, insertText, hclause, String.append_empty, quoteNames_eq, separated_holes, hwords]

end Dialect

end RecordSql
