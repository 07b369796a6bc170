import RecordSql.Dialect.Change
import RecordSql.Proofs.Condition.Stack
import RecordSql.Proofs.Text.Numbered

/-!
# Placeholders and arguments

Every statement that a dialect builds has as many placeholders as arguments and ends outside of quoted sections, whatever the names
and values are, and so does everything that is put together from such statements. The invariant of the builders is `Aligned`, which
also says what numbering needs: the pieces of a statement can be scanned one by one.
-/

namespace RecordSql

/-- A statement whose text can be scanned apart and has one placeholder for each argument. -/
def Statement.Aligned (s : Statement) : Prop :=
  Text.Scans s.sql s.args.length

namespace Statement.Aligned

/-- A text without placeholders. -/
theorem ofText {text : String} (h : Text.Scans text 0) : Aligned (.ofText text) := h

theorem empty : Aligned .empty := Text.Scans.empty

/-- Arguments stay with their placeholders when statements are put together. -/
theorem append {s t : Statement} (hs : Aligned s) (ht : Aligned t) : Aligned (s ++ t) := by
  have h := Text.Scans.append hs ht
  rwa [← List.length_append] at h

end Statement.Aligned

namespace Dialect

variable (d : Dialect)

/-- Names are quoted by a character that opens a section. -/
theorem isQuote_nameQuote : Text.isQuote d.nameQuote = true := by
  cases d <;> rfl

theorem quoteName_append_ne (name text : String) : d.quoteName name ++ text ≠ "" := by
  simp [quoteName, Text.enclosed, String.append_eq_empty_iff]

theorem quoteName_ne (name : String) : d.quoteName name ≠ "" := by
  have h := d.quoteName_append_ne name ""
  rwa [String.append_empty] at h

/-- A quoted name has no placeholder, whatever the name is. -/
theorem scans_quoteName (name : String) : Text.Scans (d.quoteName name) 0 :=
  Text.scans_enclosed d.isQuote_nameQuote name

theorem scans_quoteNames (names : List String) : Text.Scans (d.quoteNames names) 0 := by
  have h := Text.Scans.separated (by decide : Text.Scans ", " 0) d.quoteName 0 names fun name _ => d.scans_quoteName name
  rwa [Nat.mul_zero] at h

/-- As many placeholders as there are values. -/
theorem scans_holes {α : Type} {separator : String} (hsep : Text.Scans separator 0) (values : List α) :
    Text.Scans (Text.separated separator (values.map fun _ => "?")) values.length := by
  have h := Text.Scans.separated hsep (fun _ => "?") 1 values fun _ _ => by decide
  rwa [Nat.mul_one] at h

/-! ## Conditions -/

theorem aligned_columnFragment (column : String) {rest : String} {args : List Value} (h : Text.Scans rest args.length) :
    (Condition.columnFragment d column rest args).Aligned :=
  (d.scans_quoteName column).plain_append h

/-- The fragment of a leaf has one placeholder for each value of its operand. -/
theorem aligned_compileLeaf {position : Nat} {node : Node} {s : Statement} (h : Condition.compileLeaf d position node = .ok s) :
    s.Aligned := by
  cases Condition.compileLeaf_eq_ok_iff.mp h with
  | compare c column v =>
    have htest : Text.Scans (" " ++ (NodeKind.compare c).keyword ++ " ?") 1 := by cases c <;> decide
    exact d.aligned_columnFragment column htest
  | between n column low high =>
    have htest : Text.Scans (" " ++ (NodeKind.between n).keyword ++ " ? AND ?") 2 := by cases n <;> decide
    exact d.aligned_columnFragment column htest
  | member n column v values =>
    have hwords : Text.Scans (" " ++ (NodeKind.member n).keyword ++ " (") 0 := by cases n <;> decide
    have hholes := scans_holes (by decide : Text.Scans "," 0) (v :: values)
    exact d.aligned_columnFragment column ((hwords.plain_append hholes).append_plain (by decide))
  | nullColumn n column | nullValue n column v =>
    have htest : Text.Scans (" " ++ (NodeKind.null n).keyword) 0 := by cases n <;> decide
    exact d.aligned_columnFragment column htest

/-- The fragments of a condition are aligned. -/
theorem kept_aligned : Condition.Kept d Statement.Aligned where
  leaf h := d.aligned_compileLeaf h
  join := by
    intro kind left right hk hleft hright
    rcases hk with rfl | rfl
    · exact (hleft.append (.ofText (by decide))).append hright
    · exact ((Statement.Aligned.ofText (by decide)).append ((hleft.append (.ofText (by decide))).append hright)).append
        (.ofText (by decide))
  negate hinner := ((Statement.Aligned.ofText (by decide)).append hinner).append (.ofText (by decide))

theorem scans_limitOffset (limit offset : Option Nat) : Text.Scans (d.limitOffset limit offset) 0 := by
  have hlimit : Text.Scans (d.limitClause limit offset) 0 := by
    cases limit with
    | some n => exact Text.scans_append_toString "\nLIMIT " n (by decide) (by decide) (by decide)
    | none =>
      cases offset with
      | none => exact .empty
      | some n =>
        cases d with
        | mysql => exact (by decide : Text.Scans "\nLIMIT 18446744073709551615" 0)
        | sqlite => exact (by decide : Text.Scans "\nLIMIT -1" 0)
        | generic => exact .empty
        | postgres => exact .empty
  cases offset with
  | none => exact hlimit.append_plain .empty
  | some n => exact hlimit.append_plain (Text.scans_append_toString "\nOFFSET " n (by decide) (by decide) (by decide))

theorem scans_clauses (c : Clauses) : Text.Scans (d.clauses c) 0 := by
  have horder : Text.Scans
      (Text.separated ", " (c.orderBy.map fun o => d.quoteName o.column ++ o.direction.keyword)) 0 := by
    have hdirection : ∀ direction : Direction, Text.Scans direction.keyword 0 := by
      intro direction
      cases direction <;> decide
    have hcolumn : ∀ o ∈ c.orderBy, Text.Scans (d.quoteName o.column ++ o.direction.keyword) 0 := by
      intro o _
      exact (d.scans_quoteName o.column).append_plain (hdirection o.direction)
    have h := Text.Scans.separated (by decide : Text.Scans ", " 0) _ 0 c.orderBy hcolumn
    rwa [Nat.mul_zero] at h
  have hgroup := Text.Scans.append_plain (by decide : Text.Scans "\nGROUP BY " 0) (d.scans_quoteNames c.groupBy)
  have hordered := Text.Scans.append_plain (by decide : Text.Scans "\nORDER BY " 0) horder
  refine .append_plain (.append_plain ?_ ?_) (d.scans_limitOffset c.limit c.offset)
  · split
    · exact .empty
    · exact hgroup
  · split
    · exact .empty
    · exact hordered

/-- A condition with clauses is aligned, whatever its nodes are. -/
theorem aligned_condition {search : Condition} {c : Clauses} {s : Statement} (h : d.condition search c = .ok s) : s.Aligned := by
  rcases hc : search.compile d with f | fragment
  · rw [condition_of_error hc] at h
    cases h
  · rw [condition_of_compile hc] at h
    cases h
    refine .append ?_ (.ofText (d.scans_clauses c))
    cases hl : search.hasLeaf with
    | true => exact .append (.ofText (by decide)) (d.kept_aligned.compile hc hl)
    | false => exact .empty

/-! ## Queries -/

theorem aligned_hasTable (m : Model) : (d.hasTable m).Aligned := by
  cases d with
  | generic => exact (by decide +kernel : Text.Scans "SELECT COUNT(*) FROM information_schema.tables WHERE table_name = ?" 1)
  | mysql =>
    exact (by decide +kernel : Text.Scans
      "SELECT COUNT(*) FROM information_schema.tables WHERE table_schema = DATABASE() AND table_name = ?" 1)
  | postgres => exact (by decide +kernel : Text.Scans "SELECT COUNT(*) FROM pg_catalog.pg_tables WHERE tablename = ?" 1)
  | sqlite => exact (by decide +kernel : Text.Scans "SELECT COUNT(*) FROM sqlite_master WHERE type = 'table' AND name = ?" 1)

theorem aligned_count (m : Model) : (d.count m).Aligned :=
  .ofText (.append_plain (by decide) (d.scans_quoteName m.name))

theorem aligned_find (m : Model) (columns : List String) : (d.find m columns).Aligned := by
  have hcolumns : Text.Scans ("SELECT " ++ d.quoteNames columns) 0 := .append_plain (by decide) (d.scans_quoteNames columns)
  exact .ofText ((hcolumns.append_plain (by decide)).append_plain (d.scans_quoteName m.name))

/-! ## Changes -/

theorem scans_insertText {verb : String} (h : Text.Scans verb 0) (m : Model) (values : List Assignment) :
    Text.Scans (d.insertText verb m values) (assignedValues values).length := by
  have hnames := d.scans_quoteNames (values.map (·.column))
  have hholes := scans_holes (by decide : Text.Scans ", " 0) values
  rw [assignedValues, List.length_map]
  have hinto : Text.Scans (verb ++ " INTO " ++ d.quoteName m.name) 0 :=
    (h.append_plain (by decide)).append_plain (d.scans_quoteName m.name)
  have hcolumns := ((hinto.append_plain (by decide : Text.Scans " (" 0)).append_plain hnames).append_plain
    (by decide : Text.Scans ")\nVALUES (" 0)
  exact (hcolumns.plain_append hholes).append_plain (by decide)

theorem scans_returningClause (m : Model) : Text.Scans (d.returningClause m) 0 := by
  unfold returningClause
  split
  · split
    · rename_i f _ _ _
      exact Text.Scans.append_plain (by decide : Text.Scans "\nRETURNING " 0) (d.scans_quoteName f.column)
    · exact .empty
  · exact .empty

theorem aligned_insert (m : Model) (values : List Assignment) : (d.insert m values).Aligned := by
  have htext := d.scans_insertText (by decide : Text.Scans "INSERT" 0) m values
  exact htext.append_plain (d.scans_returningClause m)

theorem aligned_update (m : Model) (values : List Assignment) : (d.update m values).Aligned := by
  have hassignment : ∀ v ∈ values, Text.Scans (d.quoteName v.column ++ " = ?") 1 := by
    intro v _
    exact (d.scans_quoteName v.column).plain_append (by decide : Text.Scans " = ?" 1)
  have hset := Text.Scans.separated (by decide : Text.Scans ", " 0) _ 1 values hassignment
  rw [Nat.mul_one] at hset
  have htable : Text.Scans ("UPDATE " ++ d.quoteName m.name ++ "\nSET ") 0 :=
    .append_plain (.append_plain (by decide) (d.scans_quoteName m.name)) (by decide)
  rw [Statement.Aligned, update, assignedValues, List.length_map]
  exact htable.plain_append hset

theorem aligned_delete (m : Model) : (d.delete m).Aligned :=
  .ofText (.append_plain (by decide) (d.scans_quoteName m.name))

theorem aligned_softDelete {m : Model} {deletedAt : Value} {s : Statement} (h : d.softDelete m deletedAt = .ok s) :
    s.Aligned := by
  unfold softDelete at h
  split at h
  · cases h
    exact d.aligned_update m _
  · cases h

/-! ## Replacements -/

end Dialect

/-- The statements of a replacement. -/
def Replacement.statements : Replacement → List Statement
  | statement s => [s]
  | updateElseInsert update insert => [update, insert]

namespace Dialect

variable (d : Dialect)

/-- A replacement is aligned in every dialect but Postgres, where it is cut at a text that a name can hold. -/
theorem aligned_replace (hd : d ≠ postgres) {m : Model} {values : List Assignment} {r : Replacement}
    (h : d.replace m values = .ok r) : ∀ s ∈ r.statements, s.Aligned := by
  have hreplace : (⟨d.insertText "REPLACE" m values, assignedValues values⟩ : Statement).Aligned :=
    d.scans_insertText (by decide : Text.Scans "REPLACE" 0) m values
  unfold replace at h
  split at h
  · cases h
  · rename_i keys rest _
    split at h
    · split at h
      · cases h
      · rename_i filter hf
        cases h
        have hupdate := (generic.aligned_update m (if rest.isEmpty then keys else rest)).append (generic.aligned_condition hf)
        simp only [Replacement.statements, List.mem_cons, List.not_mem_nil, or_false]
        rintro s (rfl | rfl)
        · exact hupdate
        · exact generic.aligned_insert m values
    · cases h
      simpa [Replacement.statements] using hreplace
    · cases h
      simpa [Replacement.statements] using hreplace
    · exact absurd rfl hd

/-- What a dialect builds, and what is put together from it: every statement but those that create and drop tables and constraints,
and the replacement in Postgres. -/
inductive Builds : Statement → Prop
  | hasTable (m : Model) : Builds (d.hasTable m)
  | count (m : Model) : Builds (d.count m)
  | find (m : Model) (columns : List String) : Builds (d.find m columns)
  | condition {search : Condition} {c : Clauses} {s : Statement} (h : d.condition search c = .ok s) : Builds s
  | insert (m : Model) (values : List Assignment) : Builds (d.insert m values)
  | update (m : Model) (values : List Assignment) : Builds (d.update m values)
  | delete (m : Model) : Builds (d.delete m)
  | softDelete {m : Model} {deletedAt : Value} {s : Statement} (h : d.softDelete m deletedAt = .ok s) : Builds s
  | replace (hd : d ≠ postgres) {m : Model} {values : List Assignment} {r : Replacement} {s : Statement}
      (h : d.replace m values = .ok r) (hs : s ∈ r.statements) : Builds s
  | append {s t : Statement} : Builds s → Builds t → Builds (s ++ t)

variable {d}

/-- What a dialect builds is aligned. -/
theorem Builds.aligned {s : Statement} (h : d.Builds s) : s.Aligned := by
  induction h with
  | hasTable m => exact d.aligned_hasTable m
  | count m => exact d.aligned_count m
  | find m columns => exact d.aligned_find m columns
  | condition h => exact d.aligned_condition h
  | insert m values => exact d.aligned_insert m values
  | update m values => exact d.aligned_update m values
  | delete m => exact d.aligned_delete m
  | softDelete h => exact d.aligned_softDelete h
  | replace hd h hs => exact d.aligned_replace hd h _ hs
  | append _ _ hs ht => exact hs.append ht

end Dialect

end RecordSql
