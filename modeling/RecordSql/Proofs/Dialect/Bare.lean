import Mathlib.Data.List.Forall2
import RecordSql.Dialect.Change
import RecordSql.Proofs.Condition.Stack
import RecordSql.Proofs.Dialect.Alignment
import RecordSql.Proofs.Text.Requoted

/-!
# Statements under other names

A call of a builder is bare when its values are gone and its names are replaced by `f` of them. The statement of the bare call is
that of the call with the content of every quoted section replaced by `f` of it (`Call.corresponds`). So what is outside of the quoted
sections depends neither on the names nor on the values, and nothing in a text depends on the values (`statement_structure`).
-/

namespace RecordSql

/-! ## Bare inputs -/

section Bare

variable (f : String → String)

/-- The operand under other names and without its values. -/
def Operand.bare : Operand → Operand
  | value c _ => value (f c) (.null .untyped)
  | range c _ _ => range (f c) (.null .untyped) (.null .untyped)
  | list c values => list (f c) (values.map fun _ => .null .untyped)
  | column c => column (f c)

/-- The node under other names and without its values. -/
def Node.bare (node : Node) : Node :=
  ⟨node.kind, node.operand.map (·.bare f)⟩

/-- The condition under other names and without its values. -/
def Condition.bare (c : Condition) : Condition :=
  ⟨c.nodes.map (·.bare f)⟩

/-- The clauses under other names. -/
def Clauses.bare (c : Clauses) : Clauses :=
  { c with orderBy := c.orderBy.map fun o => ⟨f o.column, o.direction⟩, groupBy := c.groupBy.map f }

/-- The assignment under another name and without its value. -/
def Assignment.bare (v : Assignment) : Assignment :=
  ⟨f v.column, .null .untyped⟩

/-- The column of a field under another name, with the flags of the field. -/
def Field.bare (x : Field) : Field :=
  { name := "", column := f x.column, prototype := .null .untyped, nullable := x.nullable, primaryKey := x.primaryKey,
    autoIncrement := x.autoIncrement, unique := x.unique, softDelete := x.softDelete }

/-- The table and the columns of a model under other names, with the flags of the fields. -/
def Model.bare (m : Model) : Model :=
  { name := f m.name, fields := m.fields.map (·.bare f) }

/-- The fault under other names, as far as a builder names a table or a column in it. -/
def Fault.renamed : Fault → Fault
  | .emptyList column => .emptyList (f column)
  | .unknownField model field => .unknownField (f model) field
  | fault => fault

end Bare

/-- A call of a builder. -/
inductive Call where
  | find (m : Model) (columns : List String)
  | condition (search : Condition) (clauses : Clauses)
  | count (m : Model)
  | insert (m : Model) (values : List Assignment)
  | update (m : Model) (values : List Assignment)
  | delete (m : Model)
  | softDelete (m : Model) (deletedAt : Value)
  /-- One call after another. -/
  | append (first second : Call)

namespace Call

/-- The statement that a call builds. -/
def statement (d : Dialect) : Call → Except Fault Statement
  | find m columns => .ok (d.find m columns)
  | condition search clauses => d.condition search clauses
  | count m => .ok (d.count m)
  | insert m values => .ok (d.insert m values)
  | update m values => .ok (d.update m values)
  | delete m => .ok (d.delete m)
  | softDelete m deletedAt => d.softDelete m deletedAt
  | append first second => do
    let s ← first.statement d
    let t ← second.statement d
    .ok (s ++ t)

/-- The call under other names and without its values. -/
def bare (f : String → String) : Call → Call
  | find m columns => find (m.bare f) (columns.map f)
  | condition search clauses => condition (search.bare f) (clauses.bare f)
  | count m => count (m.bare f)
  | insert m values => insert (m.bare f) (values.map (·.bare f))
  | update m values => update (m.bare f) (values.map (·.bare f))
  | delete m => delete (m.bare f)
  | softDelete m _ => softDelete (m.bare f) (.null .untyped)
  | append first second => append (first.bare f) (second.bare f)

end Call

/-! ## Corresponding outcomes -/

/-- Both outcomes are related results, or the second is the fault of the first under other names. -/
inductive Corresponds {α β : Type} (f : String → String) (related : α → β → Prop) : Except Fault α → Except Fault β → Prop
  | ok {a : α} {b : β} (h : related a b) : Corresponds f related (.ok a) (.ok b)
  | error (fault : Fault) : Corresponds f related (.error fault) (.error (fault.renamed f))

/-- Statements whose texts correspond. -/
def Statement.Requotes (f : String → String) (s t : Statement) : Prop :=
  Text.Requotes f s.sql t.sql

variable {f : String → String} {d : Dialect}

namespace Dialect

theorem requotes_quoteName (name : String) : Text.Requotes f (d.quoteName name) (d.quoteName (f name)) :=
  .enclosed d.isQuote_nameQuote name

theorem requotes_quoteNames (names : List String) :
    Text.Requotes f (d.quoteNames names) (d.quoteNames (names.map f)) := by
  rw [quoteNames, quoteNames, List.map_map]
  exact .separated (by decide) (by decide) d.quoteName_ne (fun name => d.quoteName_ne (f name)) d.requotes_quoteName names

theorem isUnquoted_holes {α : Type} {separator : String} (h : Text.isUnquoted separator = true) (values : List α) :
    Text.isUnquoted (Text.separated separator (values.map fun _ => "?")) = true := by
  refine Text.isUnquoted_separated h fun part hp => ?_
  obtain ⟨_, -, rfl⟩ := List.mem_map.mp hp
  decide

end Dialect

/-! ## Conditions -/

namespace Condition

theorem requotes_columnFragment (column : String) {rest : String} (h : Text.isUnquoted rest = true) (args args' : List Value) :
    (columnFragment d column rest args).Requotes f (columnFragment d (f column) rest args') :=
  (d.requotes_quoteName column).append_plain h

/-- A leaf and the bare leaf correspond. -/
theorem corresponds_compileLeaf (p : Nat) (node : Node) :
    Corresponds f (Statement.Requotes f) (compileLeaf d p node) (compileLeaf d p (node.bare f)) := by
  obtain ⟨kind, operand⟩ := node
  cases kind with
  | compare c =>
    rcases operand with _ | ⟨column, v⟩ | _ | _ | _
    case some.value =>
      have htest : Text.isUnquoted (" " ++ (NodeKind.compare c).keyword ++ " ?") = true := by cases c <;> decide
      exact .ok (requotes_columnFragment column htest _ _)
    all_goals exact .error (.mismatchedOperand p (.compare c))
  | between n =>
    rcases operand with _ | _ | ⟨column, low, high⟩ | _ | _
    case some.range =>
      have htest : Text.isUnquoted (" " ++ (NodeKind.between n).keyword ++ " ? AND ?") = true := by cases n <;> decide
      exact .ok (requotes_columnFragment column htest _ _)
    all_goals exact .error (.mismatchedOperand p (.between n))
  | member n =>
    rcases operand with _ | _ | _ | ⟨column, values⟩ | _
    case some.list =>
      cases values with
      | nil => exact .error (.emptyList column)
      | cons v values =>
        have hwords : Text.isUnquoted (" " ++ (NodeKind.member n).keyword ++ " (") = true := by cases n <;> decide
        have hholes := Dialect.isUnquoted_holes (by decide : Text.isUnquoted "," = true) (v :: values)
        have hsame : ((v :: values).map fun _ => Value.null .untyped).map (fun _ => "?") = (v :: values).map fun _ => "?" := by
          rw [List.map_map]
          rfl
        refine .ok ?_
        rw [hsame]
        refine requotes_columnFragment column ?_ _ _
        rw [Text.isUnquoted_append, Text.isUnquoted_append, hwords, hholes]
        decide
    all_goals exact .error (.mismatchedOperand p (.member n))
  | null n =>
    have htest : Text.isUnquoted (" " ++ (NodeKind.null n).keyword) = true := by cases n <;> decide
    rcases operand with _ | ⟨column, v⟩ | _ | _ | column
    case some.value => exact .ok (requotes_columnFragment column htest _ _)
    case some.column => exact .ok (requotes_columnFragment column htest _ _)
    all_goals exact .error (.mismatchedOperand p (.null n))
  | and => exact .error (.mismatchedOperand p .and)
  | or => exact .error (.mismatchedOperand p .or)
  | not => exact .error (.mismatchedOperand p .not)
  | ignore => exact .error (.mismatchedOperand p .ignore)

theorem requotes_join {kind : NodeKind} (hk : kind = .and ∨ kind = .or) {s s' t t' : Statement} (hs : s.Requotes f s')
    (ht : t.Requotes f t') : (join kind s t).Requotes f (join kind s' t') := by
  rcases hk with rfl | rfl
  · exact hs.between (by decide) (by decide) ht
  · exact ((Text.Requotes.plain_append (by decide) (hs.between (by decide) (by decide) ht))).append_plain (by decide)

theorem requotes_negate {s s' : Statement} (hs : s.Requotes f s') : (negate s).Requotes f (negate s') :=
  (Text.Requotes.plain_append (by decide) hs).append_plain (by decide)

/-- A node and the bare node do the same to corresponding stacks. -/
theorem corresponds_compileNode (p : Nat) (node : Node) {stack stack' : List Statement}
    (h : List.Forall₂ (Statement.Requotes f) stack stack') :
    Corresponds f (List.Forall₂ (Statement.Requotes f)) (compileNode d p node stack) (compileNode d p (node.bare f) stack') := by
  have hpush : Corresponds f (List.Forall₂ (Statement.Requotes f)) ((compileLeaf d p node).map (· :: stack))
      ((compileLeaf d p (node.bare f)).map (· :: stack')) := by
    have hleaf := corresponds_compileLeaf (f := f) (d := d) p node
    revert hleaf
    generalize compileLeaf d p node = x
    generalize compileLeaf d p (node.bare f) = y
    rintro (hs | fault)
    · exact .ok (.cons hs h)
    · exact .error fault
  obtain ⟨kind, operand⟩ := node
  cases kind with
  | ignore => exact .ok h
  | and | or =>
    cases operand with
    | some operand => exact .error (.mismatchedOperand p _)
    | none =>
      rcases h with _ | ⟨hr, _ | ⟨hl, hrest⟩⟩
      · exact .error (.invalidTree p .binaryWithoutOperands)
      · exact .error (.invalidTree p .binaryWithoutOperands)
      · exact .ok (.cons (requotes_join (by decide) hl hr) hrest)
  | not =>
    cases operand with
    | some operand => exact .error (.mismatchedOperand p .not)
    | none =>
      rcases h with _ | ⟨hs, hrest⟩
      · exact .error (.invalidTree p .notWithoutOperand)
      · exact .ok (.cons (requotes_negate hs) hrest)
  | compare c => exact hpush
  | between n => exact hpush
  | member n => exact hpush
  | null n => exact hpush

/-- Nodes and the bare nodes do the same to corresponding stacks. -/
theorem corresponds_compileNodes (nodes : List Node) (p : Nat) {stack stack' : List Statement}
    (h : List.Forall₂ (Statement.Requotes f) stack stack') :
    Corresponds f (List.Forall₂ (Statement.Requotes f)) (compileNodes d p stack nodes)
      (compileNodes d p stack' (nodes.map (·.bare f))) := by
  induction nodes generalizing p stack stack' with
  | nil => exact .ok h
  | cons node nodes ih =>
    have hnode := corresponds_compileNode (d := d) p node h
    simp only [List.map_cons, compileNodes]
    revert hnode
    generalize compileNode d p node stack = x
    generalize compileNode d p (node.bare f) stack' = y
    rintro (hnext | fault)
    · exact ih (p + 1) hnext
    · exact .error fault

/-- A condition and the bare condition compile alike. -/
theorem corresponds_compile (c : Condition) :
    Corresponds f (Statement.Requotes f) (c.compile d) ((c.bare f).compile d) := by
  have hnodes := corresponds_compileNodes (f := f) (d := d) c.nodes 0 .nil
  have hlength : (c.bare f).nodes.length = c.nodes.length := List.length_map _
  unfold compile
  rw [hlength]
  revert hnodes
  change Corresponds f _ _ (compileNodes d 0 [] (c.bare f).nodes) → _
  generalize compileNodes d 0 [] c.nodes = x
  generalize compileNodes d 0 [] (c.bare f).nodes = y
  rintro (hfinal | fault)
  · rcases hfinal with _ | ⟨hs, _ | ⟨_, _⟩⟩
    · exact .ok (.plain (by decide))
    · exact .ok hs
    · exact .error (.invalidTree c.nodes.length .fragmentsLeft)
  · exact .error fault

theorem hasLeaf_bare (c : Condition) : (c.bare f).hasLeaf = c.hasLeaf := by
  simp [hasLeaf, bare, List.any_map, Function.comp_def, Node.bare]

end Condition

/-! ## Statements -/

/-- Statements whose texts correspond and can follow any other. -/
def Statement.Follows (f : String → String) (s t : Statement) : Prop :=
  Text.Follows f s.sql t.sql

namespace Dialect

theorem isUnquoted_limitOffset (limit offset : Option Nat) : Text.isUnquoted (d.limitOffset limit offset) = true := by
  have hnumber : ∀ (words : String) (n : Nat), Text.isUnquoted words = true → Text.isUnquoted (words ++ toString n) = true := by
    intro words n hwords
    rw [Text.isUnquoted_append, hwords, Text.isUnquoted_toString]
    rfl
  have hlimit : Text.isUnquoted (d.limitClause limit offset) = true := by
    cases limit with
    | some n => exact hnumber _ n (by decide)
    | none =>
      cases offset with
      | none => rfl
      | some n =>
        cases d with
        | mysql => exact (by decide : Text.isUnquoted "\nLIMIT 18446744073709551615" = true)
        | sqlite => exact (by decide : Text.isUnquoted "\nLIMIT -1" = true)
        | generic => rfl
        | postgres => rfl
  unfold limitOffset
  rw [Text.isUnquoted_append, hlimit]
  cases offset with
  | none => rfl
  | some n => exact hnumber _ n (by decide)

/-- The clauses and the bare clauses correspond. -/
theorem follows_clauses (c : Clauses) : Text.Follows f (d.clauses c) (d.clauses (c.bare f)) := by
  refine .append (.append ?_ ?_) (.plain (d.isUnquoted_limitOffset c.limit c.offset))
  · cases hg : c.groupBy with
    | nil => simpa [Clauses.bare, hg] using Text.Follows.empty
    | cons column columns =>
      have hnames := d.requotes_quoteNames (f := f) (column :: columns)
      simpa [Clauses.bare, hg] using Text.Follows.words (by decide : Text.isUnquoted "\nGROUP BY " = true) (by decide) hnames
  · cases ho : c.orderBy with
    | nil => simpa [Clauses.bare, ho] using Text.Follows.empty
    | cons o os =>
      have hdirection : ∀ direction : Direction, Text.isUnquoted direction.keyword = true := by
        intro direction
        cases direction <;> decide
      have hcolumns := Text.Requotes.separated (f := f) (by decide : Text.isUnquoted ", " = true) (by decide)
        (fun o : OrderBy => d.quoteName_append_ne o.column o.direction.keyword)
        (fun o : OrderBy => d.quoteName_append_ne (f o.column) o.direction.keyword)
        (fun o => (d.requotes_quoteName o.column).append_plain (hdirection o.direction)) (o :: os)
      have hwords := Text.Follows.words (by decide : Text.isUnquoted "\nORDER BY " = true) (by decide) hcolumns
      simpa [Clauses.bare, ho, Function.comp_def] using hwords

/-- The condition and the bare condition correspond. -/
theorem corresponds_condition (search : Condition) (c : Clauses) :
    Corresponds f (Statement.Follows f) (d.condition search c) (d.condition (search.bare f) (c.bare f)) := by
  have hcompile := Condition.corresponds_compile (f := f) (d := d) search
  generalize hx : search.compile d = x at hcompile
  generalize hy : (search.bare f).compile d = y at hcompile
  rcases hcompile with hs | fault
  · rw [condition_of_compile hx, condition_of_compile hy, Condition.hasLeaf_bare]
    refine .ok (Text.Follows.append ?_ (d.follows_clauses c))
    cases search.hasLeaf with
    | false => exact .empty
    | true => exact .words (by decide) (by decide) hs
  · rw [condition_of_error hx, condition_of_error hy]
    exact .error fault

theorem follows_find (m : Model) (columns : List String) :
    (d.find m columns).Follows f (d.find (m.bare f) (columns.map f)) :=
  (Text.Follows.words (by decide) (by decide) (d.requotes_quoteNames columns)).between (by decide) (by decide)
    (d.requotes_quoteName m.name)

theorem follows_count (m : Model) : (d.count m).Follows f (d.count (m.bare f)) :=
  .words (by decide) (by decide) (d.requotes_quoteName m.name)

theorem follows_delete (m : Model) : (d.delete m).Follows f (d.delete (m.bare f)) :=
  .words (by decide) (by decide) (d.requotes_quoteName m.name)

end Dialect

namespace Model

theorem onePrimary_bare (m : Model) : (m.bare f).onePrimary? = m.onePrimary?.map (·.bare f) := by
  have hkeys : (m.bare f).primaryKeys = m.primaryKeys.map (·.bare f) := by
    simp [primaryKeys, bare, List.filter_map, Function.comp_def, Field.bare]
  rw [onePrimary?, onePrimary?, hkeys]
  rcases m.primaryKeys with _ | ⟨x, _ | ⟨_, _⟩⟩ <;> rfl

theorem softDeleteField_bare (m : Model) : (m.bare f).softDeleteField? = m.softDeleteField?.map (·.bare f) :=
  List.find?_map

end Model

namespace Dialect

theorem follows_insert (m : Model) (values : List Assignment) :
    (d.insert m values).Follows f (d.insert (m.bare f) (values.map (·.bare f))) := by
  have hnames := d.requotes_quoteNames (f := f) (values.map (·.column))
  have hcolumns : (values.map (·.bare f)).map (·.column) = (values.map (·.column)).map f := by
    rw [List.map_map, List.map_map]
    rfl
  have hholes : (values.map (·.bare f)).map (fun _ => "?") = values.map fun _ => "?" := by
    rw [List.map_map]
    rfl
  have hinto : Text.Follows f ("INSERT INTO " ++ d.quoteName m.name) ("INSERT INTO " ++ d.quoteName (f m.name)) :=
    .words (by decide) (by decide) (d.requotes_quoteName m.name)
  have hvalues := ((hinto.between (by decide : Text.isUnquoted " (" = true) (by decide) hnames).append
    (.plain (by decide : Text.isUnquoted ")\nVALUES (" = true))).append
    (.plain (isUnquoted_holes (by decide : Text.isUnquoted ", " = true) values))
  have hreturning : Text.Follows f (d.returningClause m) (d.returningClause (m.bare f)) := by
    rw [returningClause, returningClause, Model.onePrimary_bare]
    cases d.keySource with
    | lastInsertId => exact .empty
    | returning =>
      cases m.onePrimary? with
      | none => exact .empty
      | some x =>
        change Text.Follows f (if x.autoIncrement then "\nRETURNING " ++ d.quoteName x.column else "")
          (if x.autoIncrement then "\nRETURNING " ++ d.quoteName (f x.column) else "")
        split
        · exact .words (by decide) (by decide) (d.requotes_quoteName x.column)
        · exact .empty
  simp only [Statement.Follows, insert, insertText, hcolumns, hholes]
  exact (hvalues.append (.plain (by decide : Text.isUnquoted ")" = true))).append hreturning

theorem follows_update (m : Model) (values : List Assignment) :
    (d.update m values).Follows f (d.update (m.bare f) (values.map (·.bare f))) := by
  have hset := Text.Requotes.separated (f := f) (by decide : Text.isUnquoted ", " = true) (by decide)
    (fun v : Assignment => d.quoteName_append_ne v.column " = ?") (fun v : Assignment => d.quoteName_append_ne (f v.column) " = ?")
    (fun v => (d.requotes_quoteName v.column).append_plain (by decide)) values
  have hbare : (values.map (·.bare f)).map (fun v => d.quoteName v.column ++ " = ?") =
      values.map fun v => d.quoteName (f v.column) ++ " = ?" := by
    rw [List.map_map]
    rfl
  simp only [Statement.Follows, update, hbare]
  exact (Text.Follows.words (by decide) (by decide) (d.requotes_quoteName m.name)).between (by decide) (by decide) hset

theorem corresponds_softDelete (m : Model) (deletedAt : Value) :
    Corresponds f (Statement.Follows f) (d.softDelete m deletedAt) (d.softDelete (m.bare f) (.null .untyped)) := by
  rw [softDelete, softDelete, Model.softDeleteField_bare]
  cases m.softDeleteField? with
  | none => exact .error (.unknownField m.name "soft delete")
  | some x => exact .ok (d.follows_update m [⟨x.column, deletedAt⟩])

end Dialect

/-- The statement of a bare call is that of the call with the content of its quoted sections replaced. -/
theorem Call.corresponds (f : String → String) (d : Dialect) (c : Call) :
    Corresponds f (Statement.Follows f) (c.statement d) ((c.bare f).statement d) := by
  induction c with
  | find m columns => exact .ok (d.follows_find m columns)
  | condition search clauses => exact d.corresponds_condition search clauses
  | count m => exact .ok (d.follows_count m)
  | insert m values => exact .ok (d.follows_insert m values)
  | update m values => exact .ok (d.follows_update m values)
  | delete m => exact .ok (d.follows_delete m)
  | softDelete m deletedAt => exact d.corresponds_softDelete m deletedAt
  | append first second ih₁ ih₂ =>
    simp only [statement, bare]
    generalize first.statement d = x at ih₁ ⊢
    generalize (first.bare f).statement d = x' at ih₁ ⊢
    rcases ih₁ with hs | fault
    · generalize second.statement d = y at ih₂ ⊢
      generalize (second.bare f).statement d = y' at ih₂ ⊢
      rcases ih₂ with ht | fault
      · exact .ok (Text.Follows.append hs ht)
      · exact .error fault
    · exact .error fault

theorem Fault.renamed_id (fault : Fault) : fault.renamed id = fault := by
  cases fault <;> rfl

/-- Calls that differ only in names and values build, when one of them builds anything, texts that are the same once the content of
every quoted section is erased. Calls that differ only in values build the same text or fail with the same fault. -/
theorem statement_structure (d : Dialect) (a b : Call) :
    (a.bare (fun _ => "") = b.bare (fun _ => "") → ∀ s, a.statement d = .ok s →
      ∃ t, b.statement d = .ok t ∧ Text.erased s.sql = Text.erased t.sql) ∧
    (a.bare id = b.bare id → (a.statement d).map (·.sql) = (b.statement d).map (·.sql)) := by
  refine ⟨fun hbare s hs => ?_, fun hbare => ?_⟩
  · have ha := a.corresponds (fun _ => "") d
    have hb := b.corresponds (fun _ => "") d
    rw [hs, hbare] at ha
    generalize (b.bare fun _ => "").statement d = u at ha hb
    generalize b.statement d = y at hb
    cases ha with
    | ok hsu =>
      cases hb with
      | ok htu => exact ⟨_, rfl, hsu.requoted.trans htu.requoted.symm⟩
  · have htext : ∀ c : Call, (c.statement d).map (·.sql) = ((c.bare id).statement d).map (·.sql) := by
      intro c
      have hc := c.corresponds id d
      generalize c.statement d = x at hc ⊢
      generalize (c.bare id).statement d = y at hc ⊢
      rcases hc with hst | fault
      · have hsql := hst.requoted
        rw [Text.requoted_id] at hsql
        exact congrArg Except.ok hsql
      · rw [fault.renamed_id]
    rw [htext a, htext b, hbare]

/-- A query and the same query with names that read like statements, and with another value. -/
theorem statement_structure_names :
    ∃ query : String → String → String → Value → Call,
      (query = fun table c₁ c₂ v => .append (.find { name := table } [c₁, c₂])
        (.condition (.and (.eq c₁ v) (.member false c₂ [v])) { limit := some 3 })) ∧
      (∃ s t, (query "user" "id" "name" (.varchar "x")).statement .generic = .ok s ∧
        (query "a\"; DROP TABLE b; --" "c\nFROM d?" "\"" (.null .untyped)).statement .generic = .ok t ∧
        t.sql = "SELECT \"c\nFROM d?\", \"\"\"\"\nFROM \"a\"\"; DROP TABLE b; --\"\n" ++
          "WHERE \"c\nFROM d?\" = ? AND \"\"\"\" IN (?)\nLIMIT 3" ∧
        Text.erased s.sql = Text.erased t.sql) ∧
      ((query "user" "id" "name" (.varchar "x")).statement .generic).map (·.sql) =
        ((query "user" "id" "name" (.varchar "' OR ''='")).statement .generic).map (·.sql) := by
  obtain ⟨query, hquery⟩ : ∃ query : String → String → String → Value → Call,
      query = fun table c₁ c₂ v => .append (.find { name := table } [c₁, c₂])
        (.condition (.and (.eq c₁ v) (.member false c₂ [v])) { limit := some 3 }) := ⟨_, rfl⟩
  refine ⟨query, hquery, ?_, (statement_structure .generic _ _).2 (by rw [hquery]; rfl)⟩
  obtain ⟨t, ht, herased⟩ := (statement_structure .generic (query "user" "id" "name" (.varchar "x"))
    (query "a\"; DROP TABLE b; --" "c\nFROM d?" "\"" (.null .untyped))).1 (by rw [hquery]; rfl) _ (by rw [hquery]; rfl)
  refine ⟨_, t, by rw [hquery]; rfl, ht, ?_, herased⟩
  rw [hquery] at ht
  cases ht
  rfl

end RecordSql
