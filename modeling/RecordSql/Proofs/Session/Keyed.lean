import RecordSql.Proofs.Dialect.Keyed
import RecordSql.Proofs.Session.Scope

/-!
# Changing the row of a record

An update and a delete address the row of a record by all of its primary key fields and by nothing else. When the model has a key and
the record has the values, one statement is sent, whose text and arguments are those of `changes_keyed`; otherwise nothing is sent and
the operation fails.
-/

namespace RecordSql

/-- The fields that are not part of the primary key, in order. -/
def Model.otherFields (m : Model) : List Field :=
  m.fields.filter fun f => !f.primaryKey

/-- A field is part of the primary key or not. -/
theorem Model.mem_fields_iff {m : Model} {f : Field} : f ∈ m.fields ↔ f ∈ m.otherFields ∨ f ∈ m.primaryKeys := by
  rw [otherFields, primaryKeys, List.mem_filter, List.mem_filter]
  cases f.primaryKey <;> simp

namespace Record

/-- The record has the given values of some fields. -/
def Gives (r : Record) (fields : List Field) (values : List Value) : Prop :=
  List.Forall₂ (fun f v => r.value? f.name = some v) fields values

/-- The columns of fields with their values. -/
def assigned (fields : List Field) (values : List Value) : List Assignment :=
  List.zipWith (fun f v => ⟨f.column, v⟩) fields values

variable {r : Record} {fields : List Field} {values : List Value}

theorem Gives.map_column (h : r.Gives fields values) : (assigned fields values).map (·.column) = fields.map (·.column) := by
  induction h with
  | nil => rfl
  | cons _ _ ih => exact congrArg _ ih

theorem Gives.assignedValues (h : r.Gives fields values) : Dialect.assignedValues (assigned fields values) = values := by
  induction h with
  | nil => rfl
  | cons _ _ ih => exact congrArg _ ih

theorem Gives.assigned_ne_nil (h : r.Gives fields values) (hne : fields ≠ []) : assigned fields values ≠ [] := by
  cases h with
  | nil => exact absurd rfl hne
  | cons _ _ => exact List.cons_ne_nil _ _

/-- What is assigned to a column is the value of its field. -/
theorem Gives.exists_of_mem (h : r.Gives fields values) {v : Assignment} (hv : v ∈ assigned fields values) :
    ∃ f ∈ fields, v.column = f.column ∧ r.value? f.name = some v.value := by
  induction h with
  | nil => cases hv
  | cons hfirst _ ih =>
    rcases List.mem_cons.mp hv with rfl | hv
    · exact ⟨_, List.mem_cons_self .., rfl, hfirst⟩
    · obtain ⟨f, hf, hvf⟩ := ih hv
      exact ⟨f, List.mem_cons_of_mem _ hf, hvf⟩

/-- A record that has the values of some fields assigns them. -/
theorem Gives.assignments (h : r.Gives fields values) (m : Model) : r.assignments m fields = .ok (assigned fields values) := by
  induction h with
  | nil => rfl
  | cons hfirst _ ih =>
    rw [Record.assignments, hfirst, ih]
    rfl

/-- A record assigns nothing when it lacks the value of one of the fields. -/
theorem exists_assignments_error (m : Model) {f : Field} (hf : f ∈ fields) (h : r.value? f.name = none) :
    ∃ g, r.assignments m fields = .error g := by
  induction fields with
  | nil => cases hf
  | cons first fields ih =>
    rw [Record.assignments]
    cases hfirst : r.value? first.name with
    | none => exact ⟨_, rfl⟩
    | some v =>
      rcases List.mem_cons.mp hf with rfl | hf
      · rw [h] at hfirst
        cases hfirst
      · obtain ⟨g, hg⟩ := ih hf
        exact ⟨g, by rw [hg]; rfl⟩

end Record

namespace Session

variable {d : Dialect} {m : Model} {r : Record}

/-! ## What is built -/

/-- The condition for the key of a record that has the values of the key. -/
theorem identify_of_gives {keys : List Value} (hne : m.primaryKeys ≠ []) (h : r.Gives m.primaryKeys keys) :
    identify d m r = .ok (Dialect.matching (Record.assigned m.primaryKeys keys)) := by
  rw [identify, h.assignments]
  change (if (Record.assigned m.primaryKeys keys).isEmpty then _ else _) = _
  rw [if_neg (by simpa using h.assigned_ne_nil hne)]

/-- A record of a model without key, or without a value of the key, cannot be identified. -/
theorem identify_error (h : m.primaryKeys = [] ∨ ∃ f ∈ m.primaryKeys, r.value? f.name = none) :
    ∃ g, identify d m r = .error g := by
  rcases h with hnone | ⟨f, hf, hmissing⟩
  · exact ⟨_, by rw [identify, hnone]; rfl⟩
  · obtain ⟨g, hg⟩ := Record.exists_assignments_error m hf hmissing
    exact ⟨g, by rw [identify, hg]; rfl⟩

/-- The filter for the key of a record that has the values of the key. -/
theorem condition_of_gives (d : Dialect) {keys : List Value} (hne : m.primaryKeys ≠ []) (h : r.Gives m.primaryKeys keys) :
    d.condition (Dialect.matching (Record.assigned m.primaryKeys keys)) {} =
      .ok ⟨"\nWHERE " ++ " AND ".intercalate (d.openEquations (m.primaryKeys.map (·.column))), keys⟩ := by
  rw [d.condition_matching (h.assigned_ne_nil hne), h.map_column, h.assignedValues]

/-- The update of a record that has all values. -/
theorem updateStatement_of_gives {settings keys : List Value} (hother : m.otherFields ≠ []) (hkey : m.primaryKeys ≠ [])
    (hsettings : r.Gives m.otherFields settings) (hkeys : r.Gives m.primaryKeys keys) :
    updateStatement d m r =
      .ok ⟨"UPDATE " ++ d.quoteName m.name ++ "\nSET " ++ ", ".intercalate (d.openEquations (m.otherFields.map (·.column))) ++
        ("\nWHERE " ++ " AND ".intercalate (d.openEquations (m.primaryKeys.map (·.column)))), settings ++ keys⟩ := by
  have hvalues : r.assignments m (m.fields.filter fun f => !f.primaryKey) = .ok (Record.assigned m.otherFields settings) :=
    hsettings.assignments m
  rw [updateStatement, hvalues]
  change (if (Record.assigned m.otherFields settings).isEmpty then _ else _) = _
  rw [if_neg (by simpa using hsettings.assigned_ne_nil hother), identify_of_gives hkey hkeys]
  change (d.condition _ {} >>= _) = _
  rw [condition_of_gives d hkey hkeys, d.update_eq, hsettings.map_column, hsettings.assignedValues]
  rfl

/-- A record without key, without a value or without anything to assign cannot be updated. -/
theorem updateStatement_error
    (h : m.otherFields = [] ∨ m.primaryKeys = [] ∨ ∃ f ∈ m.fields, r.value? f.name = none) :
    ∃ g, updateStatement d m r = .error g := by
  have hidentify : (∃ g, identify d m r = .error g) → ∃ g, updateStatement d m r = .error g := by
    rintro ⟨g, hg⟩
    unfold updateStatement
    rw [hg]
    cases r.assignments m (m.fields.filter fun f => !f.primaryKey) with
    | error f => exact ⟨f, rfl⟩
    | ok values =>
      cases hvalues : values.isEmpty with
      | true => exact ⟨_, if_pos hvalues⟩
      | false => exact ⟨g, if_neg (by simp [hvalues])⟩
  rcases h with hnone | hnone | ⟨f, hf, hmissing⟩
  · unfold Model.otherFields at hnone
    exact ⟨_, by rw [updateStatement, hnone]; rfl⟩
  · exact hidentify (identify_error (.inl hnone))
  · rcases Model.mem_fields_iff.mp hf with hf | hf
    · obtain ⟨g, hg⟩ := Record.exists_assignments_error m hf hmissing
      unfold Model.otherFields at hg
      exact ⟨g, by rw [updateStatement, hg]; rfl⟩
    · exact hidentify (identify_error (.inr ⟨f, hf, hmissing⟩))

/-- The delete of a record that has the values of its key, where rows are deleted. -/
theorem deleteStatement_of_gives {config : Config} (h : m.softDeleteField? = none ∨ config.softDelete = false)
    (now : OffsetTimestamp) {keys : List Value} (hkey : m.primaryKeys ≠ []) (hkeys : r.Gives m.primaryKeys keys) :
    deleteStatement d config now m r =
      .ok ⟨"DELETE FROM " ++ d.quoteName m.name ++
        ("\nWHERE " ++ " AND ".intercalate (d.openEquations (m.primaryKeys.map (·.column)))), keys⟩ := by
  have hdelete : (d.condition (Dialect.matching (Record.assigned m.primaryKeys keys)) {} >>= fun filter =>
      (.ok (d.delete m ++ filter) : Except Fault Statement)) = .ok ⟨"DELETE FROM " ++ d.quoteName m.name ++
        ("\nWHERE " ++ " AND ".intercalate (d.openEquations (m.primaryKeys.map (·.column)))), keys⟩ := by
    rw [condition_of_gives d hkey hkeys]
    rfl
  rw [deleteStatement, identify_of_gives hkey hkeys]
  rcases h with h | h
  · rw [h]
    exact hdelete
  · rw [h]
    cases m.softDeleteField? <;> exact hdelete

/-- The delete of a record that has the values of its key, where rows are only marked. -/
theorem deleteStatement_of_softDelete {config : Config} {field : Field} (hfield : m.softDeleteField? = some field)
    (hconfig : config.softDelete = true) (now : OffsetTimestamp) {keys : List Value} (hkey : m.primaryKeys ≠ [])
    (hkeys : r.Gives m.primaryKeys keys) :
    deleteStatement d config now m r =
      .ok ⟨"UPDATE " ++ d.quoteName m.name ++ "\nSET " ++ ", ".intercalate (d.openEquations [field.column]) ++
        ("\nWHERE " ++ " AND ".intercalate (d.openEquations (m.primaryKeys.map (·.column)))),
        deletionTime now field.prototype :: keys⟩ := by
  rw [deleteStatement, identify_of_gives hkey hkeys]
  rw [hfield, hconfig]
  change (d.softDelete m (deletionTime now field.prototype) >>= fun change =>
    d.condition (Dialect.matching (Record.assigned m.primaryKeys keys)) {} >>= fun filter => .ok (change ++ filter)) = _
  rw [Dialect.softDelete, hfield, condition_of_gives d hkey hkeys]
  dsimp only
  rw [d.update_eq]
  rfl

/-- A record without key, or without a value of its key, cannot be deleted. -/
theorem deleteStatement_error {config : Config} {now : OffsetTimestamp}
    (h : m.primaryKeys = [] ∨ ∃ f ∈ m.primaryKeys, r.value? f.name = none) : ∃ g, deleteStatement d config now m r = .error g := by
  obtain ⟨g, hg⟩ := identify_error (d := d) h
  exact ⟨g, by rw [deleteStatement, hg]; rfl⟩

end Session

/-! ## What is sent -/

/-- An operation fails, and the executor receives nothing. -/
def Run.Refuses {σ α : Type} (x : Run σ α) (w : World σ) : Prop :=
  ∃ f w', x.on w = (.error (.failed f), w') ∧ w'.sent = w.sent ∧ w'.executor = w.executor

namespace Session

variable {σ : Type} {c : Connection σ} {t : RecordType} {build : Model → Except Fault Statement}

/-- An operation that builds one statement sends it. -/
theorem sent_of_built {s : Statement} (h : build t.model = .ok s) (w : World σ) :
    ((start >>= fun _ => Run.model t >>= fun m => Run.ofExcept (build m) >>= fun s => c.execute .root s).on w).2.sent =
      w.sent ++ [c.dialect.finish s] := by
  rw [on_start_model, h, Run.on_bind_ok (Run.on_ofExcept_ok s _), Connection.on_execute, Connection.sent_sendStep, sent_begun]

/-- An operation that cannot build its statement sends nothing. -/
theorem refuses_of_error (h : ∃ g, build t.model = .error g) (w : World σ) :
    (start >>= fun _ => Run.model t >>= fun m => Run.ofExcept (build m) >>= fun s => c.execute .root s).Refuses w := by
  obtain ⟨g, hg⟩ := h
  refine ⟨g, begun t w, ?_, sent_begun t w, executor_begun t w⟩
  rw [on_start_model, hg, Run.on_bind, Run.on_ofExcept_error]

end Session

/-- An update of a record with all values sets the fields that are not part of the key, in order, and a delete deletes, or marks as deleted
where the session honours it; each is one statement, whose filter is one equation for every primary key field, in order, and nothing else.
The arguments are the values of the record in the order of their placeholders. Without a key, without a value that is needed or without
anything to assign, the operation fails and nothing is sent. -/
theorem changes_keyed {σ : Type} (c : Connection σ) (now : OffsetTimestamp) (t : RecordType) (r : Record) (w : World σ) :
    (∀ settings keys, t.model.otherFields ≠ [] → t.model.primaryKeys ≠ [] →
      r.Gives t.model.otherFields settings → r.Gives t.model.primaryKeys keys →
      ((Session.update c t r).on w).2.sent = w.sent ++ [⟨
        "UPDATE " ++ c.dialect.quoteName t.model.name ++
        "\nSET " ++ ", ".intercalate (c.dialect.equations (t.model.otherFields.map (·.column)) 1) ++
        ("\nWHERE " ++ " AND ".intercalate
          (c.dialect.equations (t.model.primaryKeys.map (·.column)) (1 + t.model.otherFields.length))),
        settings ++ keys⟩]) ∧
    (t.model.otherFields = [] ∨ t.model.primaryKeys = [] ∨ (∃ f ∈ t.model.fields, r.value? f.name = none) →
      (Session.update c t r).Refuses w) ∧
    (∀ keys, t.model.primaryKeys ≠ [] → r.Gives t.model.primaryKeys keys →
      (t.model.softDeleteField? = none ∨ c.config.softDelete = false →
        ((Session.delete c now t r).on w).2.sent = w.sent ++ [⟨
          "DELETE FROM " ++ c.dialect.quoteName t.model.name ++
          ("\nWHERE " ++ " AND ".intercalate (c.dialect.equations (t.model.primaryKeys.map (·.column)) 1)), keys⟩]) ∧
      ∀ field, t.model.softDeleteField? = some field → c.config.softDelete = true →
        ((Session.delete c now t r).on w).2.sent = w.sent ++ [⟨
          "UPDATE " ++ c.dialect.quoteName t.model.name ++
          "\nSET " ++ (c.dialect.quoteName field.column ++ " = " ++ c.dialect.hole 1) ++
          ("\nWHERE " ++ " AND ".intercalate (c.dialect.equations (t.model.primaryKeys.map (·.column)) 2)),
          Session.deletionTime now field.prototype :: keys⟩]) ∧
    (t.model.primaryKeys = [] ∨ (∃ f ∈ t.model.primaryKeys, r.value? f.name = none) →
      (Session.delete c now t r).Refuses w) := by
  refine ⟨fun settings keys hother hkey hsettings hkeys => ?_, fun h => ?_,
    fun keys hkey hkeys => ⟨fun hconfig => ?_, fun field hfield hconfig => ?_⟩, fun h => ?_⟩
  · have hfinish := (c.dialect.finishes_update t.model.name (t.model.otherFields.map (·.column))).where
      (t.model.primaryKeys.map (·.column))
    rw [List.length_map] at hfinish
    refine (Session.sent_of_built (Session.updateStatement_of_gives hother hkey hsettings hkeys) w).trans ?_
    rw [hfinish.finish_eq]
  · exact Session.refuses_of_error (Session.updateStatement_error h) w
  · have hfinish := (c.dialect.finishes_delete t.model.name).where (t.model.primaryKeys.map (·.column))
    refine (Session.sent_of_built (Session.deleteStatement_of_gives hconfig now hkey hkeys) w).trans ?_
    rw [hfinish.finish_eq]
  · have hfinish := (c.dialect.finishes_update t.model.name [field.column]).where (t.model.primaryKeys.map (·.column))
    refine (Session.sent_of_built (Session.deleteStatement_of_softDelete hfield hconfig now hkey hkeys) w).trans ?_
    have hone : c.dialect.equations [field.column] 1 = [c.dialect.quoteName field.column ++ " = " ++ c.dialect.hole 1] := rfl
    rw [hfinish.finish_eq, hone, String.intercalate_singleton]
    rfl
  · exact Session.refuses_of_error (Session.deleteStatement_error h) w

/-- A key of two columns behind two settings in Postgres, with and without marking deleted rows, and a record that lacks a value. -/
theorem changes_keyed_pair :
    ∃ (c c' : Connection Unit) (now : OffsetTimestamp) (t : RecordType) (r s : Record),
      c.dialect = .postgres ∧ c.config.softDelete = true ∧ c' = { c with config.softDelete := false } ∧
      r = .ofValues [("l", .varchar "b"), ("x", .varchar "?"), ("k", .varchar "a"), ("gone", .null (.integer .int64))] ∧
      s = .ofValues [("l", .varchar "b"), ("x", .varchar "?"), ("gone", .null (.integer .int64))] ∧
      ((Session.update c t r).on { executor := () }).2.sent =
        [⟨"UPDATE \"no\"\"te?\"\nSET \"x\" = $1, \"gone\" = $2\nWHERE \"k?\" = $3 AND \"l\" = $4",
          [.varchar "?", .null (.integer .int64), .varchar "a", .varchar "b"]⟩] ∧
      ((Session.delete c now t r).on { executor := () }).2.sent =
        [⟨"UPDATE \"no\"\"te?\"\nSET \"gone\" = $1\nWHERE \"k?\" = $2 AND \"l\" = $3",
          [Session.deletionTime now (.null (.integer .int64)), .varchar "a", .varchar "b"]⟩] ∧
      ((Session.delete c' now t r).on { executor := () }).2.sent =
        [⟨"DELETE FROM \"no\"\"te?\"\nWHERE \"k?\" = $1 AND \"l\" = $2", [.varchar "a", .varchar "b"]⟩] ∧
      (Session.update c t s).Refuses { executor := () } ∧ (Session.delete c now t s).Refuses { executor := () } := by
  let k : Field := { Field.of "k" .text with column := "k?", primaryKey := true }
  let x : Field := Field.of "x" .text
  let l : Field := { Field.of "l" .text with primaryKey := true }
  let gone : Field := { Field.of "gone" (.integer .int64) with softDelete := true }
  let t : RecordType := ⟨"note", "no\"te?", [.field k, .field x, .field l, .field gone]⟩
  let c : Connection Unit := ⟨⟨fun _ _ => ([], ())⟩, .postgres, {}, .silent⟩
  let r := Record.ofValues [("l", .varchar "b"), ("x", .varchar "?"), ("k", .varchar "a"), ("gone", .null (.integer .int64))]
  let s := Record.ofValues [("l", .varchar "b"), ("x", .varchar "?"), ("gone", .null (.integer .int64))]
  have hother : r.Gives t.model.otherFields [.varchar "?", .null (.integer .int64)] := .cons rfl (.cons rfl .nil)
  have hkeys : r.Gives t.model.primaryKeys [.varchar "a", .varchar "b"] := .cons rfl (.cons rfl .nil)
  have hfields : t.model.otherFields ≠ [] ∧ t.model.primaryKeys ≠ [] := ⟨List.cons_ne_nil _ _, List.cons_ne_nil _ _⟩
  let now : OffsetTimestamp := ⟨⟨⟨2024, 2, 29, by decide⟩, ⟨23, 59, 59, 0, by decide, by decide, by decide, by decide⟩⟩, 0, by decide⟩
  let c' : Connection Unit := { c with config.softDelete := false }
  obtain ⟨hupdate, -, hdelete, -⟩ := changes_keyed c now t r { executor := () }
  obtain ⟨-, hnoUpdate, -, hnoDelete⟩ := changes_keyed c now t s { executor := () }
  obtain ⟨-, -, hplain, -⟩ := changes_keyed c' now t r { executor := () }
  have hmissing : k ∈ t.model.primaryKeys ∧ s.value? k.name = none := ⟨List.mem_cons_self .., rfl⟩
  refine ⟨c, c', now, t, r, s, rfl, rfl, rfl, rfl, rfl, ?_, ?_, ?_, ?_, ?_⟩
  · exact (hupdate _ _ hfields.1 hfields.2 hother hkeys).trans (by decide)
  · exact ((hdelete _ hfields.2 hkeys).2 gone rfl rfl).trans (by decide)
  · exact ((hplain _ hfields.2 hkeys).1 (.inr rfl)).trans (by decide)
  · exact hnoUpdate (.inr (.inr ⟨k, Model.mem_fields_iff.mpr (.inr hmissing.1), hmissing.2⟩))
  · exact hnoDelete (.inr ⟨k, hmissing⟩)

end RecordSql
