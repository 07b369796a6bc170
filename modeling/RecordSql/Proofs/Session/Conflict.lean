import RecordSql.Proofs.Session.Insert
import RecordSql.Proofs.Session.WholeKey
import RecordSql.Proofs.Text.Marks
import RecordSql.Proofs.Text.Requoted

/-!
# Replacing a row by an insert with a conflict clause

In Postgres a replacement is the insert of the row with a clause between its values and the clause that returns a generated key. The place
is found by searching the text of the insert for the words that the returning clause starts with, so the clause goes where it belongs
exactly when no name of the insert holds these words (`replace_conflict_iff`); a table whose name holds them is cut in two
(`replace_cuts_name`).
-/

namespace RecordSql

namespace Dialect

/-! ## Where a text is cut -/

variable {mark cs : List Char} {c : Char}

/-- A text is not cut in front of a character that the mark does not hold when the mark is not there. -/
theorem cutBefore_of_not_infix (hc : c ∉ mark) (h : ¬ mark <:+: cs) (ds : List Char) :
    cutBefore mark (cs ++ c :: ds) = (cs ++ c :: (cutBefore mark ds).1, (cutBefore mark ds).2) := by
  induction cs with
  | nil =>
    have hfirst : ¬ mark <+: c :: ds := by
      intro hprefix
      have hempty := (Text.prefix_append_cons hc [] ds).mp hprefix
      exact h hempty.isInfix
    rw [List.nil_append, cutBefore, if_neg (by simpa using hfirst)]
    rfl
  | cons d cs ih =>
    rw [List.infix_cons_iff, not_or] at h
    have hfirst : ¬ mark <+: d :: (cs ++ c :: ds) := fun hprefix => h.1 ((Text.prefix_append_cons hc (d :: cs) ds).mp hprefix)
    rw [List.cons_append, cutBefore, if_neg (by simpa using hfirst), ih h.2]
    rfl

/-- A text that starts with the mark is cut at its start. -/
theorem cutBefore_mark (mark cs : List Char) : cutBefore mark (mark ++ cs) = ([], mark ++ cs) := by
  cases htext : mark ++ cs with
  | nil => rfl
  | cons c rest =>
    have hprefix : mark <+: c :: rest := htext ▸ List.prefix_append mark cs
    rw [cutBefore, if_pos (by simpa using hprefix)]

/-- A text in which the mark stands is cut there, whatever follows. -/
theorem cutBefore_of_infix (h : mark <:+: cs) (ds : List Char) :
    ∃ before rest, cs = before ++ mark ++ rest ∧ cutBefore mark (cs ++ ds) = (before, mark ++ rest ++ ds) := by
  induction cs with
  | nil =>
    rw [List.infix_nil] at h
    subst h
    exact ⟨[], [], rfl, cutBefore_mark [] ds⟩
  | cons c cs ih =>
    by_cases hfirst : mark <+: c :: cs
    · obtain ⟨rest, hrest⟩ := hfirst
      refine ⟨[], rest, by rw [List.nil_append, hrest], ?_⟩
      rw [← hrest, List.append_assoc]
      exact cutBefore_mark mark (rest ++ ds)
    · have hlonger : ¬ mark <+: c :: (cs ++ ds) := by
        intro hprefix
        exact hfirst (List.prefix_of_prefix_length_le hprefix (List.prefix_append (c :: cs) ds) h.length_le)
      obtain ⟨before, rest, rfl, hcut⟩ := ih ((List.infix_cons_iff.mp h).resolve_left hfirst)
      refine ⟨c :: before, rest, rfl, ?_⟩
      rw [List.cons_append, cutBefore, if_neg (by simpa using hlonger), hcut]

end Dialect

/-! ## The parts of a replacement -/

/-- The primary key of a model that has one whose value the database generates. -/
def Model.generatedKey? (m : Model) : Option Field :=
  m.onePrimary?.filter (·.autoIncrement)

namespace Dialect

/-- The insert of a row into some columns, up to the list of its values. -/
def insertPart (m : Model) (columns : List String) : String :=
  "INSERT INTO " ++ postgres.quoteName m.name ++ " (" ++ ", ".intercalate (columns.map postgres.quoteName) ++ ")\nVALUES (" ++
    ", ".intercalate (columns.map fun _ => "?") ++ ")"

/-- What becomes of the row that has the key already: it stays, or it takes the new values of the other columns. -/
def conflictPart (keys others : List String) : String :=
  "\nON CONFLICT (" ++ ", ".intercalate (keys.map postgres.quoteName) ++ ")" ++
    if others = [] then " DO NOTHING"
    else " DO UPDATE SET\n" ++
      ",\n".intercalate (others.map fun column => postgres.quoteName column ++ " = EXCLUDED." ++ postgres.quoteName column)

/-- The clause that returns the key that the database generates. -/
def returningPart (m : Model) : String :=
  m.generatedKey?.elim "" fun key => "\nRETURNING " ++ postgres.quoteName key.column

variable (m : Model) (values : List Assignment)

/-- An insert is its part up to the values and the returning clause. -/
theorem insert_postgres :
    postgres.insert m values = ⟨insertPart m (values.map (·.column)) ++ returningPart m, assignedValues values⟩ := by
  have hwords : "INSERT" ++ " INTO " = "INSERT INTO " := by decide
  have hkey : postgres.returnedKey? m = m.generatedKey? := by
    have hsource : (postgres.keySource == .returning) = true := rfl
    simp only [returnedKey?, Model.generatedKey?, hsource, Bool.and_true]
  have hholes : ((values.map (·.column)).map fun _ => "?") = values.map fun _ => "?" := List.map_map
  unfold insertPart returningPart
  rw [insert, insertText, separated_holes, hwords, quoteNames_eq, returningClause_eq, hkey, hholes]

theorem conflictClause_eq (keys others : List Assignment) :
    postgres.conflictClause keys others = conflictPart (keys.map (·.column)) (others.map (·.column)) := by
  have hparts : ∀ part ∈ others.map fun v => postgres.quoteName v.column ++ " = EXCLUDED." ++ postgres.quoteName v.column,
      part ≠ "" := by
    intro part hpart
    obtain ⟨v, -, rfl⟩ := List.mem_map.mp hpart
    rw [String.append_assoc]
    exact postgres.quoteName_append_ne v.column _
  unfold conflictClause conflictPart
  rw [quoteNames_eq, Text.separated_eq_intercalate _ hparts, List.map_map, List.map_map]
  cases others <;> rfl

/-- The words that a returning clause starts with. -/
def returningWords : List Char :=
  "\nRETURNING ".toList

/-- The words of a returning clause stand in an insert up to its values only where a name holds them. -/
theorem infix_insertPart (columns : List String) : returningWords <:+: (insertPart m columns).toList ↔
    ∃ name ∈ m.name :: columns, returningWords <:+: name.toList := by
  have hne : returningWords ≠ [] := by decide
  have hquote : Text.quotationMark ∉ returningWords := by decide
  have hwords : ∀ words : String, '\n' ∉ words.toList → ∀ cs, returningWords <:+: words.toList ++ cs ↔ returningWords <:+: cs :=
    fun words h cs => Text.infix_words_append h cs
  have hname : ∀ name cs, returningWords <:+: (postgres.quoteName name).toList ++ cs ↔
      returningWords <:+: name.toList ∨ returningWords <:+: cs := fun name cs => Text.infix_append_enclosed hne hquote name cs
  have hcolumns : returningWords <:+: (", ".intercalate (columns.map postgres.quoteName)).toList ↔
      ∃ name ∈ columns, returningWords <:+: name.toList := Text.infix_intercalate_enclosed hquote (by decide) columns
  have hvalues : ¬ returningWords <:+: "\nVALUES ".toList := by decide
  have hholes : ¬ returningWords <:+: (", ".intercalate (columns.map fun _ => "?")).toList ++ ")".toList := by
    refine Text.not_infix_of_not_mem (by decide : '\n' ∈ returningWords) ?_
    rw [List.mem_append, not_or]
    refine ⟨Text.not_mem_intercalate (by decide) fun part hpart => ?_, by decide⟩
    obtain ⟨-, -, rfl⟩ := List.mem_map.mp hpart
    decide
  -- the parentheses, which the words do not hold, keep the names apart from the list of values
  have hopen : '(' ∉ returningWords := by decide
  have hclose : ')' ∉ returningWords := by decide
  have htext : (insertPart m columns).toList = "INSERT INTO ".toList ++ ((postgres.quoteName m.name).toList ++ (" (".toList ++
      ((", ".intercalate (columns.map postgres.quoteName)).toList ++ ')' :: ("\nVALUES ".toList ++ '(' ::
        ((", ".intercalate (columns.map fun _ => "?")).toList ++ ")".toList))))) := by
    unfold insertPart
    simp
  rw [htext, hwords "INSERT INTO " (by decide), hname, hwords " (" (by decide), Text.infix_append_cons hclose, hcolumns,
    Text.infix_append_cons hopen, List.exists_mem_cons_iff]
  have hrest : ¬ (returningWords <:+: "\nVALUES ".toList ∨
      returningWords <:+: (", ".intercalate (columns.map fun _ => "?")).toList ++ ")".toList) := by
    rintro (h | h)
    · exact hvalues h
    · exact hholes h
  exact or_congr_right (or_iff_left hrest)

/-! ## The names of a replacement -/

theorem quotes_name (name : String) : Text.Quotes (postgres.quoteName name) [name] :=
  .enclosed postgres.isQuote_nameQuote name

theorem quotes_names (names : List String) : Text.Quotes (", ".intercalate (names.map postgres.quoteName)) names := by
  have h := Text.Quotes.intercalate (by decide : Text.isUnquoted ", " = true) (by decide) quotes_name names
  rwa [List.flatMap_singleton'] at h

theorem quotes_insertPart (columns : List String) : Text.Quotes (insertPart m columns) (m.name :: columns) := by
  have hholes : Text.isUnquoted (", ".intercalate (columns.map fun _ => "?")) = true := by
    rw [← separated_holes]
    refine Text.isUnquoted_separated (by decide) fun part hpart => ?_
    obtain ⟨-, -, rfl⟩ := List.mem_map.mp hpart
    decide
  have htable := Text.Quotes.words_append (by decide : Text.isUnquoted "INSERT INTO " = true) (quotes_name m.name)
  have hcolumns := htable.between (by decide : Text.isUnquoted " (" = true) (by decide) (quotes_names columns)
  have hvalues := hcolumns.append_plain (by decide : Text.isUnquoted ")\nVALUES (" = true)
  exact (hvalues.append_plain hholes).append_plain (by decide)

/-- The conflict clause names the columns of the key, and every other column as what is set and as what it is set to. -/
theorem quotes_conflictPart (keys others : List String) :
    Text.Quotes (conflictPart keys others) (keys ++ others.flatMap fun column => [column, column]) := by
  have hset : ∀ column, Text.Quotes (postgres.quoteName column ++ " = EXCLUDED." ++ postgres.quoteName column) [column, column] :=
    fun column => (quotes_name column).between (by decide) (by decide) (quotes_name column)
  have htarget := Text.Quotes.words_append (by decide : Text.isUnquoted "\nON CONFLICT (" = true) (quotes_names keys)
  have hclosed := htarget.append_plain (by decide : Text.isUnquoted ")" = true)
  unfold conflictPart
  cases others with
  | nil =>
    rw [if_pos rfl, List.flatMap_nil, List.append_nil]
    exact hclosed.append_plain (by decide)
  | cons column others =>
    have hsets := Text.Quotes.intercalate (by decide : Text.isUnquoted ",\n" = true) (by decide) hset (column :: others)
    rw [if_neg (List.cons_ne_nil column others), ← String.append_assoc]
    exact hclosed.between (by decide) (by decide) hsets

theorem quotes_returningPart : Text.Quotes (returningPart m) (m.generatedKey?.toList.map (·.column)) := by
  unfold returningPart
  cases m.generatedKey? with
  | none => exact .empty
  | some key => exact .words_append (by decide) (quotes_name key.column)

/-! ## The text of a replacement -/

/-- The insert of a row with the conflict clause between its values and the clause that returns the key. -/
def upsertText (m : Model) (values : List Assignment) : String :=
  insertPart m (values.map (·.column)) ++ conflictPart ((m.keyPart values).map (·.column)) ((m.otherPart values).map (·.column)) ++
    returningPart m

/-- The quoted sections of the insert with the conflict clause are its names, each as it is. -/
theorem quotations_upsertText :
    Text.quotations (upsertText m values) = m.name :: (values.map (·.column) ++ (m.keyPart values).map (·.column) ++
      ((m.otherPart values).map (·.column)).flatMap (fun column => [column, column]) ++ m.generatedKey?.toList.map (·.column)) := by
  have hconflict : ∀ keys others, Text.startsWithQuote (conflictPart keys others).toList = false := by
    intro keys others
    unfold conflictPart
    rw [String.append_assoc, String.append_assoc]
    exact Text.startsWithQuote_words (by decide) (by decide) _
  have hreturning : Text.startsWithQuote (returningPart m).toList = false := by
    unfold returningPart
    cases m.generatedKey? with
    | none => rfl
    | some key => exact Text.startsWithQuote_words (by decide) (by decide) _
  have hinsert : ∀ keys others, Text.Quotes (insertPart m (values.map (·.column)) ++ conflictPart keys others)
      (m.name :: values.map (·.column) ++ (keys ++ others.flatMap fun column => [column, column])) := fun keys others =>
    (quotes_insertPart m _).append (quotes_conflictPart keys others) (hconflict keys others)
  have hnames := (hinsert ((m.keyPart values).map (·.column)) ((m.otherPart values).map (·.column))).append
    (quotes_returningPart m) hreturning
  rw [upsertText, hnames.quotations_eq]
  simp only [List.cons_append, List.append_assoc]

/-- A replacement in Postgres is the insert with the conflict clause where its text is cut. -/
theorem replace_postgres (h : m.keyPart values ≠ []) :
    ∃ q : Statement, postgres.replace m values = .ok (.statement q) ∧ q.args = assignedValues values ∧
      q.sql = String.ofList (cutBefore returningWords (insertPart m (values.map (·.column)) ++ returningPart m).toList).1 ++
        conflictPart ((m.keyPart values).map (·.column)) ((m.otherPart values).map (·.column)) ++
        String.ofList (cutBefore returningWords (insertPart m (values.map (·.column)) ++ returningPart m).toList).2 := by
  refine ⟨_, by rw [replace, postgres.splitPrimaryKey_eq h], rfl, ?_⟩
  dsimp only
  rw [insert_postgres, conflictClause_eq]
  rfl

/-- The conflict clause does not start with the words of a returning clause. -/
theorem conflictPart_append_ne (keys others : List String) (cs ds : List Char) :
    (conflictPart keys others).toList ++ cs ≠ returningWords ++ ds := by
  obtain ⟨rest, hrest⟩ : ∃ rest, (conflictPart keys others).toList = "\nON CONFLICT (".toList ++ rest := by
    unfold conflictPart
    rw [String.append_assoc, String.append_assoc, String.toList_append]
    exact ⟨_, rfl⟩
  intro h
  have hsecond := congrArg (·[1]?) h
  rw [hrest] at hsecond
  have hletters : some 'O' = some 'R' := hsecond
  cases hletters

/-- An insert whose part up to the values does not hold the words of a returning clause is cut between its values and that clause. -/
theorem cutBefore_insert {columns : List String} (h : ¬ returningWords <:+: (insertPart m columns).toList) :
    cutBefore returningWords (insertPart m columns ++ returningPart m).toList =
      ((insertPart m columns).toList, (returningPart m).toList) := by
  have hreturning : cutBefore returningWords (returningPart m).toList = ([], (returningPart m).toList) := by
    unfold returningPart
    cases m.generatedKey? with
    | none => rfl
    | some key =>
      dsimp only [Option.elim_some]
      rw [String.toList_append]
      exact cutBefore_mark returningWords _
  -- the part ends with a parenthesis, over which the words do not reach
  obtain ⟨body, hbody⟩ : ∃ body, (insertPart m columns).toList = body ++ [')'] := by
    unfold insertPart
    rw [String.toList_append]
    exact ⟨_, rfl⟩
  have hshort : ¬ returningWords <:+: body := fun hmark => h (hbody ▸ hmark.trans (List.prefix_append body [')']).isInfix)
  have hcut := cutBefore_of_not_infix (by decide : ')' ∉ returningWords) hshort (returningPart m).toList
  rw [String.toList_append, hbody, List.append_assoc, List.singleton_append, hcut, hreturning]

end Dialect

/-- A replacement in Postgres of values of which one is of a key column has the arguments of the insert of these values. Its text is the
insert with the conflict clause between the values and the clause that returns a generated key exactly when neither the table nor a column
of the values has a name that holds a line break followed by RETURNING and a blank. The quoted sections of such a text are the names of the
table, of the inserted columns, of the key, of the other columns, each as what is set and as what it is set to, and of the generated key. -/
theorem replace_conflict_iff (m : Model) (values : List Assignment) (h : ∃ v ∈ values, m.isKeyColumn v.column = true) :
    ∃ q : Statement, Dialect.postgres.replace m values = .ok (.statement q) ∧ q.args = (Dialect.postgres.insert m values).args ∧
      (Dialect.postgres.insert m values).sql =
        Dialect.insertPart m (values.map (·.column)) ++ Dialect.returningPart m ∧
      (q.sql = Dialect.upsertText m values ↔ ∀ name ∈ m.name :: values.map (·.column), ¬ Dialect.returningWords <:+: name.toList) ∧
      Text.quotations (Dialect.upsertText m values) = m.name :: (values.map (·.column) ++ (m.keyPart values).map (·.column) ++
        ((m.otherPart values).map (·.column)).flatMap (fun column => [column, column]) ++ m.generatedKey?.toList.map (·.column)) := by
  have hkeys : m.keyPart values ≠ [] := by
    obtain ⟨v, hv, hkey⟩ := h
    exact List.ne_nil_of_mem (List.mem_filter.mpr ⟨hv, hkey⟩)
  obtain ⟨q, hreplace, hargs, hsql⟩ := Dialect.replace_postgres m values hkeys
  rw [Dialect.insert_postgres]
  refine ⟨q, hreplace, hargs, rfl, ⟨fun htext name hname hmark => ?_, fun hclear => ?_⟩, Dialect.quotations_upsertText m values⟩
  · have hinfix := (Dialect.infix_insertPart m (values.map (·.column))).mpr ⟨name, hname, hmark⟩
    obtain ⟨before, rest, hpart, hcut⟩ := Dialect.cutBefore_of_infix hinfix (Dialect.returningPart m).toList
    rw [← String.toList_append] at hcut
    rw [hcut, htext, Dialect.upsertText] at hsql
    have hchars := congrArg String.toList hsql
    simp only [String.toList_append, String.toList_ofList, hpart, List.append_assoc, List.append_cancel_left_eq] at hchars
    exact Dialect.conflictPart_append_ne _ _ _ _ hchars.symm
  · have hinfix : ¬ Dialect.returningWords <:+: (Dialect.insertPart m (values.map (·.column))).toList := by
      rw [Dialect.infix_insertPart]
      rintro ⟨name, hname, hmark⟩
      exact hclear name hname hmark
    rw [hsql, Dialect.cutBefore_insert m hinfix, String.ofList_toList, String.ofList_toList, Dialect.upsertText]

/-- The names of a table and a column come close to the words, and another column holds quotes. Nothing is cut. -/
theorem replace_conflict_quoted :
    ∃ (m : Model) (values : List Assignment) (q : Statement),
      m.name = "t\nRETURNING" ∧ m.onePrimary?.map (·.autoIncrement) = some true ∧
      values.map (·.column) = ["id\nreturning ", "v\"\", ?", "RETURNING "] ∧
      Dialect.postgres.replace m values = .ok (.statement q) ∧
      q.sql = "INSERT INTO \"t\nRETURNING\" (\"id\nreturning \", \"v\"\"\"\", ?\", \"RETURNING \")\nVALUES (?, ?, ?)\n" ++
        "ON CONFLICT (\"id\nreturning \") DO UPDATE SET\n\"v\"\"\"\", ?\" = EXCLUDED.\"v\"\"\"\", ?\"," ++
        "\n\"RETURNING \" = EXCLUDED.\"RETURNING \"\nRETURNING \"id\nreturning \"" ∧
      Text.quotations q.sql = ["t\nRETURNING", "id\nreturning ", "v\"\", ?", "RETURNING ", "id\nreturning ", "v\"\", ?", "v\"\", ?",
        "RETURNING ", "RETURNING ", "id\nreturning "] := by
  let id : Field := { Field.of "id" .text with column := "id\nreturning ", primaryKey := true, autoIncrement := true }
  let m : Model := { name := "t\nRETURNING", fields := [id, Field.of "v\"\", ?" .text, Field.of "RETURNING " .text] }
  let values : List Assignment := [⟨"id\nreturning ", .varchar "1"⟩, ⟨"v\"\", ?", .varchar "x"⟩, ⟨"RETURNING ", .varchar "y"⟩]
  have hkey : ∃ v ∈ values, m.isKeyColumn v.column = true := ⟨_, List.mem_cons_self .., by decide⟩
  have hclear : ∀ name ∈ m.name :: values.map (·.column), ¬ Dialect.returningWords <:+: name.toList := by decide
  obtain ⟨q, hreplace, -, -, htext, hnames⟩ := replace_conflict_iff m values hkey
  have hq := htext.mpr hclear
  refine ⟨m, values, q, rfl, by decide, rfl, hreplace, hq.trans (by decide +kernel), ?_⟩
  rw [hq]
  exact hnames

/-- A table whose name holds the words is cut in two: the conflict clause stands inside of its name. -/
theorem replace_cuts_name :
    ∃ (m : Model) (values : List Assignment) (q : Statement),
      m.name = "t\nRETURNING x" ∧ values.map (·.column) = ["id", "v"] ∧ (∃ v ∈ values, m.isKeyColumn v.column = true) ∧
      Dialect.postgres.replace m values = .ok (.statement q) ∧
      q.sql = "INSERT INTO \"t\nON CONFLICT (\"id\") DO UPDATE SET\n\"v\" = EXCLUDED.\"v\"" ++
        "\nRETURNING x\" (\"id\", \"v\")\nVALUES (?, ?)\nRETURNING \"id\"" ∧
      (Dialect.postgres.insert m values).sql =
        "INSERT INTO \"t\nRETURNING x\" (\"id\", \"v\")\nVALUES (?, ?)\nRETURNING \"id\"" ∧
      q.sql ≠ Dialect.upsertText m values := by
  let id : Field := { Field.of "id" .text with primaryKey := true, autoIncrement := true }
  let m : Model := { name := "t\nRETURNING x", fields := [id, Field.of "v" .text] }
  let values : List Assignment := [⟨"id", .varchar "1"⟩, ⟨"v", .varchar "a"⟩]
  have hkey : ∃ v ∈ values, m.isKeyColumn v.column = true := ⟨_, List.mem_cons_self .., by decide⟩
  obtain ⟨q, hreplace, -, hsql⟩ := Dialect.replace_postgres m values (by decide)
  have hcut := hsql.trans (by decide +kernel : _ = "INSERT INTO \"t\nON CONFLICT (\"id\") DO UPDATE SET\n\"v\" = EXCLUDED.\"v\"" ++
    "\nRETURNING x\" (\"id\", \"v\")\nVALUES (?, ?)\nRETURNING \"id\"")
  refine ⟨m, values, q, rfl, rfl, hkey, hreplace, hcut, by decide +kernel, ?_⟩
  rw [hcut]
  decide +kernel

end RecordSql
