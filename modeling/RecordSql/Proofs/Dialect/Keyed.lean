import RecordSql.Proofs.Condition.Fluent
import RecordSql.Proofs.Dialect.Alignment
import RecordSql.Proofs.Text.Joined

/-!
# Statements for the row of a key

The condition that matches a key is one equation for each of its columns (`condition_matching`), and an update sets its columns in
the same way (`update_eq`). What is sent has the equations with the placeholders of the dialect (`equations`), which number the arguments
through the whole statement (`Finishes.finish_eq`).
-/

namespace RecordSql.Dialect

variable (d : Dialect)

/-- Quoted names have commas between them. -/
theorem quoteNames_eq (names : List String) : d.quoteNames names = ", ".intercalate (names.map d.quoteName) := by
  refine Text.separated_eq_intercalate _ fun part hpart => ?_
  obtain ⟨name, -, rfl⟩ := List.mem_map.mp hpart
  exact d.quoteName_ne name

/-- Placeholders for some values have a separator between them. -/
theorem separated_holes {α : Type} (separator : String) (values : List α) :
    Text.separated separator (values.map fun _ => "?") = separator.intercalate (values.map fun _ => "?") := by
  refine Text.separated_eq_intercalate _ fun part hpart => ?_
  obtain ⟨v, -, rfl⟩ := List.mem_map.mp hpart
  decide

/-- Without clauses nothing follows a condition. -/
theorem ofText_clauses : Statement.ofText (d.clauses {}) = .empty := by
  cases d <;> rfl

/-! ## Equations -/

/-- The placeholder for argument `n` in what is sent. -/
def hole (n : Nat) : String :=
  match d with
  | postgres => "$" ++ toString n
  | generic | mysql | sqlite => "?"

/-- The equations of columns in what is sent, the first of which takes argument `n`. -/
def equations (columns : List String) (n : Nat) : List String :=
  (columns.zipIdx n).map fun p => d.quoteName p.1 ++ " = " ++ d.hole p.2

/-- The equations of columns in what is built. -/
def openEquations (columns : List String) : List String :=
  columns.map fun column => d.quoteName column ++ " = ?"

/-- Outside of Postgres equations are sent as they are built. -/
theorem equations_eq_open (h : d ≠ postgres) (columns : List String) (n : Nat) : d.equations columns n = d.openEquations columns := by
  have hhole : ∀ n, d.hole n = "?" := by
    intro n
    cases d with
    | postgres => exact absurd rfl h
    | generic | mysql | sqlite => rfl
  induction columns generalizing n with
  | nil => rfl
  | cons column columns ih =>
    have hcons : d.equations (column :: columns) n = (d.quoteName column ++ " = " ++ d.hole n) :: d.equations columns (n + 1) := rfl
    rw [hcons, ih, hhole, String.append_assoc]
    rfl

/-! ## What is built -/

/-- An update sets its columns by equations. -/
theorem update_eq (m : Model) (values : List Assignment) :
    d.update m values = ⟨"UPDATE " ++ d.quoteName m.name ++ "\nSET " ++
      ", ".intercalate (d.openEquations (values.map (·.column))), assignedValues values⟩ := by
  have hparts : ∀ part ∈ values.map fun v => d.quoteName v.column ++ " = ?", part ≠ "" := by
    intro part hpart
    obtain ⟨v, -, rfl⟩ := List.mem_map.mp hpart
    exact d.quoteName_append_ne v.column " = ?"
  rw [update, Text.separated_eq_intercalate _ hparts, openEquations, List.map_map]
  rfl

/-- Fragments that are all required stand with `AND` between them. -/
theorem chained_and (fragments : List Statement) :
    Condition.chained .and fragments = ⟨" AND ".intercalate (fragments.map (·.sql)), fragments.flatMap (·.args)⟩ := by
  have hfold : ∀ (rest : List Statement) (s : Statement), rest.foldl (Condition.join .and) s =
      ⟨" AND ".intercalate (s.sql :: rest.map (·.sql)), s.args ++ rest.flatMap (·.args)⟩ := by
    intro rest
    induction rest with
    | nil =>
      intro s
      rw [List.map_nil, String.intercalate_singleton, List.flatMap_nil, List.append_nil]
      rfl
    | cons t rest ih =>
      intro s
      rw [List.foldl_cons, Condition.join_and, ih, List.map_cons, String.intercalate_cons_cons, String.intercalate_cons_append,
        List.flatMap_cons, List.append_assoc]
  cases fragments with
  | nil => rfl
  | cons s fragments => rw [Condition.chained, hfold, List.map_cons, List.flatMap_cons]

/-- The fragment of the test that a column has its value. -/
def equation (v : Assignment) : Statement :=
  Condition.columnFragment d v.column " = ?" [v.value]

/-- The condition that columns have their values is one equation for each of them, with `AND` between them. -/
theorem compile_matching (values : List Assignment) :
    (matching values).compile d =
      .ok ⟨" AND ".intercalate (d.openEquations (values.map (·.column))), assignedValues values⟩ := by
  have hparts : List.Forall₂ (fun (c : Condition) s => c.compile d = .ok s)
      ((values.map fun v => some (Condition.eq v.column v.value)).filterMap id) (values.map d.equation) := by
    rw [List.filterMap_map, Function.id_comp, List.filterMap_eq_map']
    rw [List.forall₂_map_left_iff, List.forall₂_map_right_iff]
    exact List.forall₂_same.mpr fun v _ => rfl
  have hfragments : (Statement.empty :: values.map d.equation).filter (!·.isEmpty) = values.map d.equation := by
    rw [List.filter_cons]
    refine List.filter_eq_self.mpr fun s hs => ?_
    obtain ⟨v, -, rfl⟩ := List.mem_map.mp hs
    rw [Condition.isEmpty_eq_false_of_sql (d.quoteName_append_ne v.column " = ?")]
    rfl
  have hargs : values.flatMap (fun v => (d.equation v).args) = assignedValues values := List.map_eq_flatMap.symm
  rw [matching, Condition.all, Condition.compile_foldl (.inl rfl) hparts (c := .empty) (s := .empty) rfl, hfragments, chained_and,
    List.map_map, List.flatMap_map, hargs, openEquations, List.map_map]
  rfl

/-- Some equations are not nothing. -/
theorem intercalate_openEquations_ne (separator : String) {columns : List String} (h : columns ≠ []) :
    separator.intercalate (d.openEquations columns) ≠ "" := by
  cases columns with
  | nil => exact absurd rfl h
  | cons column columns =>
    cases columns with
    | nil => simp [openEquations]
    | cons next columns => simp [openEquations, String.append_eq_empty_iff]

/-- The condition that columns have their values follows a statement behind `WHERE`. -/
theorem condition_matching {values : List Assignment} (h : values ≠ []) :
    d.condition (matching values) {} =
      .ok ⟨"\nWHERE " ++ " AND ".intercalate (d.openEquations (values.map (·.column))), assignedValues values⟩ := by
  have hcompile := d.compile_matching values
  have hcolumns : values.map (·.column) ≠ [] := by simpa using h
  have hne := d.intercalate_openEquations_ne " AND " hcolumns
  have hleaf : (matching values).hasLeaf = true := by
    have hempty := Condition.isEmpty_of_compile hcompile
    rw [Condition.isEmpty_eq_false_of_sql hne] at hempty
    simpa using hempty.symm
  rw [condition_of_compile hcompile, hleaf, if_pos rfl, ofText_clauses, Statement.append_empty]
  rfl

/-! ## What is sent -/

variable {d}

/-- A text with `k` placeholders, the first of which takes argument `n`, is sent as another text. -/
structure Finishes (d : Dialect) (n k : Nat) (text new : String) : Prop where
  numbered : d = postgres → Text.Numbers n k text new
  same : d ≠ postgres → new = text

namespace Finishes

variable {n k l : Nat} {text new : String}

theorem plain (h : Text.Scans text 0) : d.Finishes n 0 text text :=
  ⟨fun _ => .plain h, fun _ => rfl⟩

theorem append {more other : String} (h : d.Finishes n k text new) (h' : d.Finishes (n + k) l more other) :
    d.Finishes n (k + l) (text ++ more) (new ++ other) where
  numbered hd := (h.numbered hd).append (h'.numbered hd)
  same hd := by rw [h.same hd, h'.same hd]

theorem plain_append {words : String} (hw : Text.Scans words 0) (h : d.Finishes n k text new) :
    d.Finishes n k (words ++ text) (words ++ new) := by
  have happend := (plain (n := n) hw).append h
  rwa [Nat.zero_add] at happend

theorem equations {separator : String} (hsep : Text.Scans separator 0) (columns : List String) (n : Nat) :
    d.Finishes n columns.length (separator.intercalate (d.openEquations columns))
      (separator.intercalate (d.equations columns n)) where
  numbered hd := by
    subst hd
    refine .intercalate hsep _ (fun column n => postgres.quoteName column ++ " = " ++ postgres.hole n) (fun column n => ?_) columns n
    have hname := (scans_quoteName postgres column).append_plain (by decide : Text.Scans " = " 0)
    have hpart := Text.Numbers.plain_append hname (.hole n)
    rwa [String.append_assoc] at hpart
  same hd := by rw [d.equations_eq_open hd]

/-- The statement that is sent for a text that is sent as another. -/
theorem finish_eq (h : d.Finishes 1 k text new) (args : List Value) : d.finish ⟨text, args⟩ = ⟨new, args⟩ := by
  cases d with
  | postgres => exact congrArg (Statement.mk · args) (h.numbered rfl).numbered_eq
  | generic | mysql | sqlite => rw [h.same (by decide)]; rfl

end Finishes

/-- The test for a key is sent behind a text with `k` placeholders. -/
theorem Finishes.where {n k : Nat} {text new : String} (h : d.Finishes n k text new) (keys : List String) :
    d.Finishes n (k + keys.length) (text ++ ("\nWHERE " ++ " AND ".intercalate (d.openEquations keys)))
      (new ++ ("\nWHERE " ++ " AND ".intercalate (d.equations keys (n + k)))) :=
  h.append (.plain_append (by decide) (.equations (by decide) keys (n + k)))

/-- An update is sent with its equations numbered from one. -/
theorem finishes_update (name : String) (columns : List String) :
    d.Finishes 1 columns.length ("UPDATE " ++ d.quoteName name ++ "\nSET " ++ ", ".intercalate (d.openEquations columns))
      ("UPDATE " ++ d.quoteName name ++ "\nSET " ++ ", ".intercalate (d.equations columns 1)) := by
  have htable : Text.Scans ("UPDATE " ++ d.quoteName name ++ "\nSET ") 0 :=
    .append_plain (.append_plain (by decide) (d.scans_quoteName name)) (by decide)
  exact .plain_append htable (.equations (by decide) columns 1)

/-- A delete is sent as it is built. -/
theorem finishes_delete (name : String) :
    d.Finishes 1 0 ("DELETE FROM " ++ d.quoteName name) ("DELETE FROM " ++ d.quoteName name) :=
  .plain (.append_plain (by decide) (d.scans_quoteName name))

end RecordSql.Dialect
