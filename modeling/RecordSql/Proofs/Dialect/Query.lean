import RecordSql.Proofs.Condition.Stack
import RecordSql.Proofs.Dialect.Keyed
import RecordSql.Proofs.Text.Exact

/-!
# Reading queries back

A query is written as its columns, its table and at most one clause of each kind, in a fixed order (`Query.statement`), and read clause by
clause as a database does: names by their quotes, and the condition as the line behind its keyword. The reader accepts exactly what is
written for a query, and gives that query (`Query.read_eq_some_iff`). What a find writes is the query of its columns, its condition and its
clauses, so it is read back as that (`find_reads_back`).
-/

namespace RecordSql

open Text (Reads reads_name reads_items reads_number reads_line reads_clause listed clause OneLine)

/-! ## Limits and orderings -/

/-- The limit of a query as it is written. -/
inductive Limit where
  /-- A number of rows. -/
  | rows (n : Nat)
  /-- As many rows as there are, which some databases write as a negative number. -/
  | unbounded
  deriving DecidableEq

namespace Limit

/-- A limit in a statement. -/
def text : Limit → String
  | rows n => toString n
  | unbounded => "-1"

/-- A limit. -/
def read? (cs : List Char) : Option (Limit × List Char) :=
  match Text.after? "-1" cs with
  | some rest => if Text.startsWithDigit rest then none else some (unbounded, rest)
  | none => (Text.readNumber? cs).map fun (n, rest) => (rows n, rest)

/-- A limit is read before anything but a digit. -/
theorem reads : Reads read? text fun _ rest => Text.startsWithDigit rest = false := by
  intro cs limit rest
  have hminus : ∀ (n : Nat) (more : List Char), (toString n).toList ++ rest ≠ "-1".toList ++ more := by
    intro n more htext
    have hlist : (toString n).toList = Nat.toDigits 10 n := String.toList_ofList
    obtain ⟨c, digits, hdigits⟩ := List.exists_cons_of_ne_nil (hlist ▸ Nat.toDigits_ne_nil : (toString n).toList ≠ [])
    have hdigit := Text.isDigit_toString n c (hdigits ▸ List.mem_cons_self ..)
    rw [hdigits] at htext
    have hc : c = '-' := (List.cons.inj htext).1
    rw [hc] at hdigit
    revert hdigit
    decide
  rw [read?]
  cases hafter : Text.after? "-1" cs with
  | none =>
    constructor
    · intro h
      simp only [Option.map_eq_some_iff, Prod.exists, Prod.mk.injEq] at h
      obtain ⟨n, tail, hnumber, rfl, rfl⟩ := h
      exact (reads_number cs n tail).mp hnumber
    · rintro ⟨rfl, hrest⟩
      cases limit with
      | rows n =>
        have hnumber := (reads_number _ n rest).mpr ⟨rfl, hrest⟩
        dsimp only [text]
        rw [hnumber]
        rfl
      | unbounded =>
        rw [text, Text.after?_append] at hafter
        cases hafter
  | some more =>
    rw [Text.after?_eq_some_iff] at hafter
    subst hafter
    constructor
    · intro h
      dsimp only at h
      split at h
      · cases h
      · rename_i hdigit
        cases h
        exact ⟨rfl, Bool.eq_false_iff.mpr hdigit⟩
    · rintro ⟨htext, hrest⟩
      cases limit with
      | rows n => exact absurd htext.symm (hminus n more)
      | unbounded =>
        obtain rfl : more = rest := List.append_cancel_left htext
        dsimp only
        rw [hrest]
        rfl

end Limit

namespace Dialect

variable (d : Dialect)

/-- A column with its direction in a statement. -/
def orderText (o : OrderBy) : String :=
  d.quoteName o.column ++ o.direction.keyword

/-- A column with its direction. -/
def readOrder? (cs : List Char) : Option (OrderBy × List Char) := do
  let (column, rest) ← Text.readName? d.nameQuote cs
  match Text.after? " ASC" rest with
  | some rest => some (⟨column, .ascending⟩, rest)
  | none => (Text.after? " DESC" rest).map fun rest => (⟨column, .descending⟩, rest)

/-- A column with its direction is read before any text. -/
theorem reads_order : Reads d.readOrder? d.orderText fun _ _ => True := by
  intro cs o rest
  simp only [readOrder?, Option.bind_eq_bind, Option.bind_eq_some_iff, Prod.exists, reads_name _ _ _ _]
  constructor
  · rintro ⟨column, tail, ⟨rfl, -⟩, hdirection⟩
    refine ⟨?_, trivial⟩
    split at hdirection
    · rename_i more hmore
      cases hdirection
      rw [Text.after?_eq_some_iff] at hmore
      rw [hmore, orderText, String.toList_append, List.append_assoc]
      rfl
    · obtain ⟨more, hmore, hsome⟩ := Option.map_eq_some_iff.mp hdirection
      cases hsome
      rw [Text.after?_eq_some_iff] at hmore
      rw [hmore, orderText, String.toList_append, List.append_assoc]
      rfl
  · rintro ⟨rfl, -⟩
    obtain ⟨column, direction⟩ := o
    refine ⟨column, direction.keyword.toList ++ rest, ⟨?_, ?_⟩, ?_⟩
    · rw [orderText, String.toList_append, List.append_assoc]
      rfl
    · cases d <;> cases direction <;> simp [nameQuote, Direction.keyword, Text.quotationMark, Text.graveAccent]
    · cases direction with
      | ascending => rw [Direction.keyword, Text.after?_append]
      | descending =>
        have hother : Text.after? " ASC" (" DESC".toList ++ rest) = none := rfl
        rw [Direction.keyword, hother, Text.after?_append]
        rfl

/-- The limit that stands for none before an offset, in a dialect that takes an offset only after a limit. -/
def noLimit? : Dialect → Option Limit
  | mysql => some (.rows 18446744073709551615)
  | sqlite => some .unbounded
  | generic | postgres => none

end Dialect

/-! ## Queries -/

/-- A query of columns of a table, as it is written. -/
structure Query where
  columns : List String
  table : String
  condition : Option Statement
  groupBy : List String
  orderBy : List OrderBy
  limit : Option Limit
  offset : Option Nat
  deriving DecidableEq

namespace Query

variable (d : Dialect)

/-- The items of a list that has any. -/
def given {α : Type} (as : List α) : Option (List α) :=
  if as.isEmpty then none else some as

/-- The text of a query: what is selected, then every clause that it has, in order. -/
def text (q : Query) : String :=
  "SELECT " ++ listed ", " d.quoteName q.columns ++ "\nFROM " ++ d.quoteName q.table ++
    clause "\nWHERE " (·.sql) q.condition ++
    clause "\nGROUP BY " (listed ", " d.quoteName) (given q.groupBy) ++
    clause "\nORDER BY " (listed ", " d.orderText) (given q.orderBy) ++
    clause "\nLIMIT " Limit.text q.limit ++
    clause "\nOFFSET " toString q.offset

/-- The statement of a query. Its arguments are those of its condition. -/
def statement (q : Query) : Statement :=
  ⟨q.text d, q.condition.elim [] (·.args)⟩

/-- The query that a statement is, read clause by clause to its end. -/
def read? (s : Statement) : Option Query := do
  let rest ← Text.after? "SELECT " s.sql.toList
  let (columns, rest) ← Text.readItems (Text.readName? d.nameQuote) ", " rest
  let rest ← Text.after? "\nFROM " rest
  let (table, rest) ← Text.readName? d.nameQuote rest
  let (condition, rest) ← Text.readClause? "\nWHERE " Text.readLine? rest
  let (groupBy, rest) ← Text.readClause? "\nGROUP BY " (Text.readItems (Text.readName? d.nameQuote) ", ") rest
  let (orderBy, rest) ← Text.readClause? "\nORDER BY " (Text.readItems d.readOrder? ", ") rest
  let (limit, rest) ← Text.readClause? "\nLIMIT " Limit.read? rest
  let (offset, rest) ← Text.readClause? "\nOFFSET " Text.readNumber? rest
  if rest.isEmpty && (condition.isSome || s.args.isEmpty) then
    some ⟨columns, table, condition.map (⟨·, s.args⟩), groupBy.getD [], orderBy.getD [], limit, offset⟩
  else none

theorem reads_names : Reads (Text.readItems (Text.readName? d.nameQuote) ", ") (listed ", " d.quoteName) fun names rest =>
    names ≠ [] ∧ rest.head? ≠ some d.nameQuote ∧ Text.after? ", " rest = none := by
  refine reads_items (by decide) (reads_name d.nameQuote) fun more => ?_
  cases d <;> simp [Dialect.nameQuote, Text.quotationMark, Text.graveAccent]

theorem reads_orders : Reads (Text.readItems d.readOrder? ", ") (listed ", " d.orderText) fun orders rest =>
    orders ≠ [] ∧ True ∧ Text.after? ", " rest = none :=
  reads_items (by decide) d.reads_order fun _ => trivial

variable {α : Type} {P : Prop}

/-- A clause that is read holds no empty list, so its list is given as it was read. -/
theorem given_getD {as : Option (List α)} {Q : List α → Prop} (h : as.elim P fun x => x ≠ [] ∧ Q x) : given (as.getD []) = as := by
  rcases as with _ | _ | ⟨a, as⟩
  · rfl
  · exact absurd rfl h.1
  · rfl

/-- What holds where a list is absent or has items holds of a list that is given. -/
theorem elim_given {Q : Prop} (as : List α) (hP : P) (hQ : Q) : (given as).elim P fun x => x ≠ [] ∧ Q := by
  cases as with
  | nil => exact hP
  | cons a as => exact ⟨List.cons_ne_nil a as, hQ⟩

theorem getD_given (as : List α) : (given as).getD [] = as := by
  cases as <;> rfl

/-- A text that starts with a line break or is empty ends a list of quoted names, and a number. -/
theorem ends_of_opens {words : List String} {cs : List Char} (h : Text.Opens words cs)
    (hwords : ∀ word ∈ words, word.toList.head? = some '\n') :
    cs.head? ≠ some d.nameQuote ∧ Text.startsWithDigit cs = false ∧ (cs = [] ∨ cs.head? = some '\n') := by
  have hquote : d.nameQuote ≠ '\n' := by cases d <;> decide
  rcases h.head? hwords with rfl | hhead
  · refine ⟨?_, rfl, .inl rfl⟩
    intro hsome
    cases hsome
  · rw [Text.startsWithDigit, hhead]
    exact ⟨fun hsome => hquote (Option.some.inj hsome).symm, rfl, .inr rfl⟩

theorem toList_text (q : Query) : (q.text d).toList =
    "SELECT ".toList ++ ((listed ", " d.quoteName q.columns).toList ++ ("\nFROM ".toList ++ ((d.quoteName q.table).toList ++
      ((clause "\nWHERE " (·.sql) q.condition).toList ++ ((clause "\nGROUP BY " (listed ", " d.quoteName) (given q.groupBy)).toList ++
      ((clause "\nORDER BY " (listed ", " d.orderText) (given q.orderBy)).toList ++ ((clause "\nLIMIT " Limit.text q.limit).toList ++
      (clause "\nOFFSET " toString q.offset).toList))))))) := by
  unfold text
  simp only [String.toList_append, List.append_assoc]

/-- Exactly the statement of a query with columns and with a condition of one line is read as that query. -/
theorem read_eq_some_iff {s : Statement} {q : Query} :
    read? d s = some q ↔ s = q.statement d ∧ q.columns ≠ [] ∧ ∀ f ∈ q.condition, OneLine f.sql := by
  have hwhere := reads_clause "\nWHERE " reads_line
  have hgroup := reads_clause "\nGROUP BY " (reads_names d)
  have horder := reads_clause "\nORDER BY " (reads_orders d)
  have hlimit := reads_clause "\nLIMIT " Limit.reads
  have hoffset := reads_clause "\nOFFSET " reads_number
  unfold read?
  simp only [Option.bind_eq_bind, Option.bind_eq_some_iff, Prod.exists, Text.after?_eq_some_iff, reads_names d _ _ _,
    reads_name _ _ _ _, hwhere _ _ _, hgroup _ _ _, horder _ _ _, hlimit _ _ _, hoffset _ _ _]
  constructor
  · rintro ⟨_, hsql, columns, _, ⟨rfl, hcolumns, -, -⟩, _, rfl, table, _, ⟨rfl, -⟩, line, _, ⟨rfl, hline⟩, groups, _, ⟨rfl, hgroups⟩,
      orders, _, ⟨rfl, horders⟩, limit, _, ⟨rfl, -⟩, offset, rest, ⟨rfl, -⟩, hend⟩
    -- the parts that are read make up the text, and nothing is left of it
    split at hend
    · rename_i hwhole
      rw [Bool.and_eq_true, List.isEmpty_iff] at hwhole
      obtain ⟨rfl, hargs⟩ := hwhole
      cases hend
      refine ⟨?_, hcolumns, ?_⟩
      · have htext : s.sql =
            text d ⟨columns, table, line.map fun text => ⟨text, s.args⟩, groups.getD [], orders.getD [], limit, offset⟩ := by
          rw [← String.toList_inj, hsql, toList_text, Text.clause_map, given_getD hgroups, given_getD horders, List.append_nil]
          rfl
        have hall : s.args = (line.map fun text => (⟨text, s.args⟩ : Statement)).elim [] (·.args) := by
          cases line with
          | none => simpa using hargs
          | some text => rfl
        rw [statement, ← htext, ← hall]
      · intro f hf
        obtain ⟨text, rfl, rfl⟩ := Option.map_eq_some_iff.mp hf
        exact hline.1
    · cases hend
  · rintro ⟨rfl, hcolumns, hcondition⟩
    -- what stands behind a clause is empty or starts with the words of a later one
    have hlast : Text.Opens ["\nOFFSET "] (clause "\nOFFSET " toString q.offset).toList := by
      have h := (Text.Opens.empty []).clause "\nOFFSET " toString q.offset
      rwa [List.append_nil] at h
    have hlimits := hlast.clause "\nLIMIT " Limit.text q.limit
    have horders := hlimits.clause "\nORDER BY " (listed ", " d.orderText) (given q.orderBy)
    have hgroups := horders.clause "\nGROUP BY " (listed ", " d.quoteName) (given q.groupBy)
    have hclauses := hgroups.clause "\nWHERE " (·.sql) q.condition
    refine ⟨_, toList_text d q, q.columns, _, ⟨rfl, hcolumns, ?_, ?_⟩, _, rfl, q.table, _, ⟨rfl, ?_⟩, q.condition.map (·.sql), _,
      ⟨by rw [Text.clause_map]; rfl, ?_⟩, given q.groupBy, _, ⟨rfl, ?_⟩, given q.orderBy, _, ⟨rfl, ?_⟩, q.limit, _, ⟨rfl, ?_⟩, q.offset, [],
      ⟨(List.append_nil _).symm, ?_⟩, ?_⟩
    · exact (ends_of_opens d (.inr ⟨"\nFROM ", List.mem_singleton_self _, _, rfl⟩ : Text.Opens ["\nFROM "] _) (by decide)).1
    · rfl
    · exact (ends_of_opens d hclauses (by decide)).1
    · cases hf : q.condition with
      | none => exact hgroups.after?_eq_none (by decide) (by decide)
      | some f => exact ⟨hcondition f hf, (ends_of_opens d hgroups (by decide)).2.2⟩
    · exact elim_given q.groupBy (horders.after?_eq_none (by decide) (by decide))
        ⟨(ends_of_opens d horders (by decide)).1, horders.after?_eq_none (by decide) (by decide)⟩
    · exact elim_given q.orderBy (hlimits.after?_eq_none (by decide) (by decide)) ⟨trivial, hlimits.after?_eq_none (by decide) (by decide)⟩
    · cases q.limit with
      | none => exact hlast.after?_eq_none (by decide) (by decide)
      | some limit => exact (ends_of_opens d hlast (by decide)).2.1
    · cases q.offset <;> rfl
    · rw [getD_given, getD_given]
      obtain ⟨columns, table, condition, groupBy, orderBy, limit, offset⟩ := q
      cases condition <;> rfl

/-- The number of rows that a query is limited to. Before an offset the limit that stands for none does not limit it. -/
def maxRows? (q : Query) : Option Nat :=
  if q.offset.isSome && q.limit == d.noLimit? then none
  else
    match q.limit with
    | some (.rows n) => some n
    | some .unbounded | none => none

end Query

/-! ## What a find writes -/

namespace Dialect

variable (d : Dialect)

/-- A quoted column before a text of one line without line breaks. -/
theorem oneLine_columnFragment (column : String) {rest : String} (args : List Value) (h : OneLine rest) :
    OneLine (Condition.columnFragment d column rest args).sql :=
  (Text.oneLine_enclosed d.isQuote_nameQuote column).append h

/-- The fragment of a leaf is one line. -/
theorem oneLine_compileLeaf {position : Nat} {node : Node} {s : Statement} (h : Condition.compileLeaf d position node = .ok s) :
    OneLine s.sql := by
  cases Condition.compileLeaf_eq_ok_iff.mp h with
  | compare c column v =>
    have htest : OneLine (" " ++ (NodeKind.compare c).keyword ++ " ?") := by cases c <;> decide
    exact d.oneLine_columnFragment column [v] htest
  | between n column low high =>
    have htest : OneLine (" " ++ (NodeKind.between n).keyword ++ " ? AND ?") := by cases n <;> decide
    exact d.oneLine_columnFragment column [low, high] htest
  | member n column v values =>
    have hwords : OneLine (" " ++ (NodeKind.member n).keyword ++ " (") := by cases n <;> decide
    have hholes : OneLine (Text.separated "," ((v :: values).map fun _ => "?")) := by
      refine .separated (by decide) fun part hpart => ?_
      obtain ⟨-, -, rfl⟩ := List.mem_map.mp hpart
      decide
    exact d.oneLine_columnFragment column (v :: values) ((hwords.append hholes).append (by decide))
  | nullColumn n column | nullValue n column v =>
    have htest : OneLine (" " ++ (NodeKind.null n).keyword) := by cases n <;> decide
    exact d.oneLine_columnFragment column [] htest

/-- The fragments of a condition are one line. -/
theorem kept_oneLine : Condition.Kept d fun s => OneLine s.sql where
  leaf h := d.oneLine_compileLeaf h
  join := by
    intro kind left right hk hleft hright
    have hboth : OneLine (left.sql ++ (" " ++ kind.keyword ++ " ") ++ right.sql) := by
      have hwords : OneLine (" " ++ kind.keyword ++ " ") := by rcases hk with rfl | rfl <;> decide
      exact (hleft.append hwords).append hright
    rcases hk with rfl | rfl
    · exact hboth
    · exact ((by decide : OneLine "(").append hboth).append (by decide : OneLine ")")
  negate hinner := ((by decide : OneLine (NodeKind.not.keyword ++ "(")).append hinner).append (by decide : OneLine ")")

/-- The limit that is written for a limit and an offset. -/
def writtenLimit? (limit offset : Option Nat) : Option Limit :=
  (limit.map .rows).or (if offset.isSome then d.noLimit? else none)

theorem limitOffset_eq (limit offset : Option Nat) :
    d.limitOffset limit offset = clause "\nLIMIT " Limit.text (d.writtenLimit? limit offset) ++ clause "\nOFFSET " toString offset := by
  have hlimit : d.limitClause limit offset = clause "\nLIMIT " Limit.text (d.writtenLimit? limit offset) := by
    cases limit with
    | some n => rfl
    | none =>
      cases offset with
      | none => cases d <;> rfl
      | some n => cases d <;> rfl
  unfold limitOffset
  rw [hlimit]
  cases offset <;> rfl

theorem clauses_eq (c : Clauses) :
    d.clauses c = clause "\nGROUP BY " (listed ", " d.quoteName) (Query.given c.groupBy) ++
      clause "\nORDER BY " (listed ", " d.orderText) (Query.given c.orderBy) ++
      clause "\nLIMIT " Limit.text (d.writtenLimit? c.limit c.offset) ++ clause "\nOFFSET " toString c.offset := by
  have hgroup : (if c.groupBy.isEmpty then "" else "\nGROUP BY " ++ d.quoteNames c.groupBy) =
      clause "\nGROUP BY " (listed ", " d.quoteName) (Query.given c.groupBy) := by
    rw [quoteNames_eq]
    cases c.groupBy <;> rfl
  have horder : (if c.orderBy.isEmpty then ""
      else "\nORDER BY " ++ Text.separated ", " (c.orderBy.map fun o => d.quoteName o.column ++ o.direction.keyword)) =
      clause "\nORDER BY " (listed ", " d.orderText) (Query.given c.orderBy) := by
    have hparts : ∀ part ∈ c.orderBy.map fun o => d.quoteName o.column ++ o.direction.keyword, part ≠ "" := by
      intro part hpart
      obtain ⟨o, -, rfl⟩ := List.mem_map.mp hpart
      exact d.quoteName_append_ne o.column o.direction.keyword
    rw [Text.separated_eq_intercalate _ hparts]
    cases c.orderBy <;> rfl
  unfold clauses
  rw [hgroup, horder, limitOffset_eq, ← String.append_assoc]

/-- The columns and the table that a find starts with. -/
theorem find_eq (m : Model) (columns : List String) :
    d.find m columns = .ofText ("SELECT " ++ listed ", " d.quoteName columns ++ "\nFROM " ++ d.quoteName m.name) := by
  rw [find, quoteNames_eq]
  rfl

/-- The limit that is written limits a query to the given number of rows. Only in MySQL there is a number that stands for none before an
offset. -/
theorem maxRows?_of_written {q : Query} {limit offset : Option Nat} (hlimit : q.limit = d.writtenLimit? limit offset)
    (hoffset : q.offset = offset) :
    q.maxRows? d = if d = mysql ∧ offset.isSome ∧ limit = some 18446744073709551615 then none else limit := by
  rw [Query.maxRows?, hlimit, hoffset]
  cases offset with
  | none => cases limit <;> simp [writtenLimit?]
  | some n =>
    cases limit with
    | none => cases d <;> simp [writtenLimit?, noLimit?]
    | some k => cases d <;> simp [writtenLimit?, noLimit?]

/-- A find with its condition and its clauses is the statement of a query. -/
theorem find_append_condition (m : Model) (columns : List String) (fragment : Option Statement) (c : Clauses) :
    d.find m columns ++ (fragment.elim .empty (.ofText "\nWHERE " ++ ·) ++ .ofText (d.clauses c)) =
      Query.statement d ⟨columns, m.name, fragment, c.groupBy, c.orderBy, d.writtenLimit? c.limit c.offset, c.offset⟩ := by
  have htext : (d.find m columns ++ (fragment.elim .empty (.ofText "\nWHERE " ++ ·) ++ .ofText (d.clauses c))).sql =
      Query.text d ⟨columns, m.name, fragment, c.groupBy, c.orderBy, d.writtenLimit? c.limit c.offset, c.offset⟩ := by
    have hwhere : (fragment.elim Statement.empty (.ofText "\nWHERE " ++ ·)).sql = clause "\nWHERE " (·.sql) fragment := by
      cases fragment <;> rfl
    unfold Query.text
    rw [Statement.sql_append, Statement.sql_append, find_eq, hwhere, Statement.ofText, Statement.ofText, clauses_eq]
    simp only [String.append_assoc]
  have hargs : (d.find m columns ++ (fragment.elim .empty (.ofText "\nWHERE " ++ ·) ++ .ofText (d.clauses c))).args =
      fragment.elim [] (·.args) := by
    cases fragment with
    | none => rfl
    | some f => exact List.append_nil f.args
  rw [Query.statement, ← htext, ← hargs]

end Dialect

/-- A find of some columns with a search that compiles and any clauses is a statement with a clause of each kind at most once, in the order
of `Query.text`, and is read back from its text as its columns, its table, the compiled search, absent exactly when the search has no leaf,
and its clauses. An offset without a limit is read with the limit that stands for none in the dialect, so the number of rows is read as it
was given, but for the one number that stands for none before an offset in MySQL. -/
theorem find_reads_back (d : Dialect) (m : Model) {columns : List String} (hcolumns : columns ≠ []) {search : Condition}
    {fragment : Statement} (hsearch : search.compile d = .ok fragment) (c : Clauses) :
    ∃ filter q, d.condition search c = .ok filter ∧ Query.read? d (d.find m columns ++ filter) = some q ∧
      d.find m columns ++ filter = q.statement d ∧ q.columns = columns ∧ q.table = m.name ∧
      q.condition = (if search.hasLeaf then some fragment else none) ∧ q.groupBy = c.groupBy ∧ q.orderBy = c.orderBy ∧
      q.limit = (c.limit.map Limit.rows).or (if c.offset.isSome then d.noLimit? else none) ∧ q.offset = c.offset ∧
      q.maxRows? d = if d = .mysql ∧ c.offset.isSome ∧ c.limit = some 18446744073709551615 then none else c.limit := by
  have hfilter := Dialect.condition_of_compile hsearch c
  have hcondition : (if search.hasLeaf then .ofText "\nWHERE " ++ fragment else .empty) =
      (if search.hasLeaf then some fragment else none).elim Statement.empty (.ofText "\nWHERE " ++ ·) := by
    cases search.hasLeaf <;> rfl
  have hline : ∀ f ∈ (if search.hasLeaf then some fragment else none), OneLine f.sql := by
    intro f hf
    cases hleaf : search.hasLeaf with
    | false =>
      rw [hleaf] at hf
      cases hf
    | true =>
      rw [hleaf] at hf
      cases hf
      exact d.kept_oneLine.compile hsearch hleaf
  rw [hcondition] at hfilter
  have hstatement := d.find_append_condition m columns (if search.hasLeaf then some fragment else none) c
  exact ⟨_, _, hfilter, (Query.read_eq_some_iff d).mpr ⟨hstatement, hcolumns, hline⟩, hstatement, rfl, rfl, rfl, rfl, rfl, rfl, rfl,
    d.maxRows?_of_written rfl rfl⟩

/-- The names of a find imitate clauses and hold quotes. An offset is given without a limit. -/
theorem find_reads_back_imitations :
    ∃ (m : Model) (columns : List String) (search : Condition) (c : Clauses) (fragment filter : Statement) (q : Query),
      m.name = "t`\nWHERE `" ∧ columns = ["a`, `b", "\nFROM c"] ∧
      c = { groupBy := ["g\nORDER BY `h` ASC"], orderBy := [⟨"o` ASC", .descending⟩, ⟨"\nLIMIT 1", .ascending⟩], offset := some 3 } ∧
      search.compile .mysql = .ok fragment ∧ fragment.sql = "`c\nGROUP BY ``d``` = ?" ∧ fragment.args = [.varchar "\nOFFSET 2"] ∧
      Dialect.mysql.condition search c = .ok filter ∧ Query.read? .mysql (Dialect.mysql.find m columns ++ filter) = some q ∧
      q = ⟨["a`, `b", "\nFROM c"], "t`\nWHERE `", some fragment, ["g\nORDER BY `h` ASC"],
        [⟨"o` ASC", .descending⟩, ⟨"\nLIMIT 1", .ascending⟩], some (.rows 18446744073709551615), some 3⟩ ∧
      q.maxRows? .mysql = none := by
  let m : Model := { name := "t`\nWHERE `" }
  let search := Condition.eq "c\nGROUP BY `d`" (.varchar "\nOFFSET 2")
  let c : Clauses :=
    { groupBy := ["g\nORDER BY `h` ASC"], orderBy := [⟨"o` ASC", .descending⟩, ⟨"\nLIMIT 1", .ascending⟩], offset := some 3 }
  have hcolumns : ["a`, `b", "\nFROM c"] ≠ [] := List.cons_ne_nil _ _
  have hsearch : search.compile .mysql = .ok (Condition.columnFragment .mysql "c\nGROUP BY `d`" " = ?" [.varchar "\nOFFSET 2"]) := rfl
  obtain ⟨filter, q, hfilter, hread, -, h₁, h₂, h₃, h₄, h₅, h₆, h₇, hrows⟩ := find_reads_back .mysql m hcolumns hsearch c
  refine ⟨m, _, search, c, _, filter, q, rfl, rfl, rfl, hsearch, by decide +kernel, rfl, hfilter, hread, ?_, hrows⟩
  obtain ⟨columns, table, condition, groupBy, orderBy, limit, offset⟩ := q
  dsimp only at h₁ h₂ h₃ h₄ h₅ h₆ h₇
  rw [h₁, h₂, h₃, h₄, h₅, h₆, h₇]
  rfl

end RecordSql
