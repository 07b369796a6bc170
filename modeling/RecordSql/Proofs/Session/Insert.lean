import RecordSql.Proofs.Session.Batch
import RecordSql.Proofs.Session.Keyed
import RecordSql.Proofs.Session.Replies

/-!
# Inserting a record

An insert lists the fields of its model whose values are not left to the database, and takes these values from the record. The key that the
database generates comes back as a row exactly where the statement asks for it: the writer of the statement and the reader of the answer
both go by `Dialect.returnedKey?` (`returningClause_eq`, `returnsKey_eq`). What is sent and what the result is follows for every record and
for every answer (`inserts_listed`).
-/

namespace RecordSql

namespace Dialect

variable (d : Dialect)

/-- The primary key field whose value the database generates and returns as a row. -/
def returnedKey? (m : Model) : Option Field :=
  m.onePrimary?.filter fun key => key.autoIncrement && d.keySource == .returning

/-- The insert of a row into some columns as it is sent, without the clause that returns its key. -/
def insertion (m : Model) (columns : List String) : String :=
  "INSERT INTO " ++ d.quoteName m.name ++ " (" ++ ", ".intercalate (columns.map d.quoteName) ++ ")\nVALUES (" ++
    ", ".intercalate ((List.range' 1 columns.length).map d.hole) ++ ")"

/-- The clause that returns a generated key is there for a field whose value comes back as a row. -/
theorem returningClause_eq (m : Model) :
    d.returningClause m = (d.returnedKey? m).elim "" fun key => "\nRETURNING " ++ d.quoteName key.column := by
  unfold returningClause returnedKey?
  cases m.onePrimary? with
  | none => cases d.keySource <;> rfl
  | some key => cases hauto : key.autoIncrement <;> cases d.keySource <;> simp [Option.filter, hauto]

variable {d}

/-- Placeholders are numbered in order. -/
theorem Finishes.holes {α : Type} {separator : String} (hsep : Text.Scans separator 0) (values : List α) (n : Nat) :
    d.Finishes n values.length (separator.intercalate (values.map fun _ => "?"))
      (separator.intercalate ((List.range' n values.length).map d.hole)) where
  numbered hd := by
    subst hd
    have hholes := Text.Numbers.intercalate hsep (fun _ => "?") (fun _ n => postgres.hole n) (fun _ n => .hole n) values n
    rwa [← List.zipIdx_map_snd n values, List.map_map]
  same hd := by
    have hhole : ∀ n, d.hole n = "?" := by
      intro n
      cases d with
      | postgres => exact absurd rfl hd
      | generic | mysql | sqlite => rfl
    rw [funext hhole, List.map_const', List.map_const', List.length_range']

/-- An insert is sent with its placeholders numbered from one. -/
theorem finish_insert (m : Model) (values : List Assignment) :
    d.finish (d.insert m values) =
      ⟨d.insertion m (values.map (·.column)) ++ (d.returnedKey? m).elim "" fun key => "\nRETURNING " ++ d.quoteName key.column,
        assignedValues values⟩ := by
  have hhead : Text.Scans ("INSERT INTO " ++ d.quoteName m.name ++ " (" ++ d.quoteNames (values.map (·.column)) ++ ")\nVALUES (") 0 :=
    .append_plain (.append_plain (.append_plain (.append_plain (by decide) (d.scans_quoteName _)) (by decide)) (d.scans_quoteNames _))
      (by decide)
  have hholes : d.Finishes 1 values.length (", ".intercalate (values.map fun _ => "?"))
      (", ".intercalate ((List.range' 1 values.length).map d.hole)) := .holes (by decide) values 1
  have hfinish := ((hholes.plain_append hhead).append (.plain (by decide : Text.Scans ")" 0))).append (.plain (d.scans_returningClause m))
  have hwords : "INSERT" ++ " INTO " = "INSERT INTO " := by decide
  rw [insert, insertText, separated_holes, hwords, hfinish.finish_eq, returningClause_eq, quoteNames_eq]
  unfold insertion
  rw [List.length_map]

end Dialect

/-- The fields that an insert of a record lists: all but those whose value the database generates when the record has none, or has the
zero of its type. -/
def Record.listedFields (m : Model) (r : Record) : List Field :=
  m.fields.filter fun f => !(f.autoIncrement && (r.value? f.name).all Value.isZero)

namespace Session

variable {d : Dialect} {m : Model} {r : Record}

/-- The key is read from a row for a field whose value comes back as a row. -/
theorem returnsKey_eq (d : Dialect) (m : Model) : returnsKey d m = (d.returnedKey? m).isSome := by
  unfold returnsKey Dialect.returnedKey?
  cases m.onePrimary? with
  | none => simp
  | some key => cases hauto : key.autoIncrement <;> cases d.keySource <;> simp [hauto]

/-- The key that an insert gives is the first value of the first row, or the last identifier that was reported. -/
theorem generatedKey_eq {σ : Type} (c : Connection σ) (t : RecordType) (replies : List Reply) :
    generatedKey c t replies =
      match c.dialect.returnedKey? t.model with
      | some _ =>
        match (replies.filterMap Reply.row?).head?.bind (·.values.head?) with
        | some v => (v.toInteger .int64).map fun n => some n.1
        | none => .error (.keyNotReturned t.model.name)
      | none => .ok ((replies.filterMap Reply.affected?).filterMap (·.lastId)).getLast? := by
  unfold generatedKey firstValue?
  rw [returnsKey_eq, RowsAffected.lastId_extend]
  cases c.dialect.returnedKey? t.model with
  | none => rfl
  | some key =>
    dsimp only [Option.isSome_some, if_true]
    cases (replies.filterMap Reply.row?).head?.bind (·.values.head?) <;> rfl

/-- The insert of a record that has the values of its listed fields. -/
theorem insertStatement_of_gives {values : List Value} (hne : r.listedFields m ≠ []) (h : r.Gives (r.listedFields m) values) :
    insertStatement d m r = .ok (d.insert m (Record.assigned (r.listedFields m) values)) := by
  have hvalues : r.insertAssignments m = .ok (Record.assigned (r.listedFields m) values) := h.assignments m
  rw [insertStatement, hvalues]
  exact if_neg (by simpa using h.assigned_ne_nil hne)

/-- A record without listed fields, or without the value of one of them, cannot be inserted. -/
theorem insertStatement_error (h : r.listedFields m = [] ∨ ∃ f ∈ r.listedFields m, r.value? f.name = none) :
    ∃ g, insertStatement d m r = .error g := by
  have hlisted : r.insertAssignments m = r.assignments m (r.listedFields m) := rfl
  rw [insertStatement, hlisted]
  rcases h with hnone | ⟨f, hf, hmissing⟩
  · rw [hnone]
    exact ⟨_, rfl⟩
  · obtain ⟨g, hg⟩ := r.exists_assignments_error m hf hmissing
    rw [hg]
    exact ⟨g, rfl⟩

end Session

/-- An insert lists the fields of its model in the order of their declaration, but for those whose value is left to the database, and is one
statement: each listed column has its placeholder, to which the value of the record is bound, and a clause that returns the key stands
behind it when the key comes back as a row. It is then the first value of the first row, which must be there and convert; without the
clause the result is the last identifier that the database reports, if it reports one. A record without listed fields, or without the
value of one of them, is refused and nothing is sent. -/
theorem inserts_listed {σ : Type} (c : Connection σ) (t : RecordType) (r : Record) (index : ReportIndex) (w : World σ) :
    (∀ values q, r.Gives (r.listedFields t.model) values → r.listedFields t.model ≠ [] →
      q = ⟨c.dialect.insertion t.model ((r.listedFields t.model).map (·.column)) ++
        (c.dialect.returnedKey? t.model).elim "" fun key => "\nRETURNING " ++ c.dialect.quoteName key.column, values⟩ →
      ∃ outcome w', (Session.insertAt c index t r).on w = (outcome, w') ∧
        w'.sent = w.sent ++ [q] ∧ w'.executor = (c.executor.answer q w.executor).2 ∧
        (∀ f, (c.executor.answer q w.executor).1.collect = .error f → outcome = .error (.failed f)) ∧
        ∀ replies, (c.executor.answer q w.executor).1.collect = .ok replies →
          ((c.dialect.returnedKey? t.model).isSome →
            (∀ v n, (replies.filterMap Reply.row?).head?.bind (·.values.head?) = some v → v.toInteger .int64 = .ok n →
              outcome = .ok (some n.1)) ∧
            ((∀ v n, (replies.filterMap Reply.row?).head?.bind (·.values.head?) = some v → v.toInteger .int64 ≠ .ok n) →
              ∃ f, outcome = .error (.failed f))) ∧
          (c.dialect.returnedKey? t.model = none →
            outcome = .ok ((replies.filterMap Reply.affected?).filterMap (·.lastId)).getLast?)) ∧
    (r.listedFields t.model = [] ∨ (∃ f ∈ r.listedFields t.model, r.value? f.name = none) →
      (Session.insertAt c index t r).Refuses w) := by
  constructor
  · rintro values q hgives hne rfl
    have hbuilt := Session.insertStatement_of_gives (d := c.dialect) hne hgives
    have hfinish := Dialect.finish_insert (d := c.dialect) t.model (Record.assigned (r.listedFields t.model) values)
    rw [hgives.map_column, hgives.assignedValues] at hfinish
    have hexecutor : (Run.described t w).executor = w.executor := Run.executor_described ..
    rw [← hfinish, ← hexecutor]
    refine ⟨_, _, Session.on_insertAt_ok c t hbuilt index w, ?_, rfl, fun f hf => ?_, fun replies hreplies => ?_⟩
    · rw [Connection.sent_sendStep, Run.sent_described]
    · exact congrArg (fun result => (result.bind (Session.generatedKey c t)).mapError Halt.failed) hf
    · have hkey : (((c.sendStep index (c.dialect.insert t.model (Record.assigned (r.listedFields t.model) values))
          (Run.described t w)).1.bind (Session.generatedKey c t)).mapError Halt.failed) =
            (Session.generatedKey c t replies).mapError .failed :=
        congrArg (fun result => (result.bind (Session.generatedKey c t)).mapError Halt.failed) hreplies
      rw [hkey, Session.generatedKey_eq]
      constructor
      · intro hreturned
        obtain ⟨key, hreturned⟩ := Option.isSome_iff_exists.mp hreturned
        rw [hreturned]
        refine ⟨fun v n hv hn => ?_, fun hno => ?_⟩
        · rw [hv]
          dsimp only
          rw [hn]
          rfl
        · cases hv : (replies.filterMap Reply.row?).head?.bind (·.values.head?) with
          | none => exact ⟨_, rfl⟩
          | some v =>
            cases hn : v.toInteger .int64 with
            | error f =>
              dsimp only
              rw [hn]
              exact ⟨f, rfl⟩
            | ok n => exact absurd hn (hno v n hv)
      · intro hreported
        rw [hreported]
        rfl
  · intro hrefused
    obtain ⟨g, hg⟩ := Session.insertStatement_error (d := c.dialect) hrefused
    exact ⟨g, Run.described t w, Session.on_insertAt_error c t hg index w, Run.sent_described .., Run.executor_described ..⟩

/-- A note whose number the database generates and returns as a narrower integer, and one without text. -/
theorem inserts_listed_note :
    ∃ (c : Connection Unit) (t : RecordType) (r s : Record),
      c.dialect = .postgres ∧
      r = .ofValues [("id", Graph.number 0 (by decide)), ("text", .varchar "?"), ("pages", Graph.number 0 (by decide))] ∧
      s = .ofValues [("id", Graph.number 3 (by decide)), ("pages", Graph.number 0 (by decide))] ∧
      (∃ w', (Session.insertAt c .root t r).on { executor := () } = (.ok (some 7), w') ∧
        w'.sent = [⟨"INSERT INTO \"note\" (\"text?\", \"pages\")\nVALUES ($1, $2)\nRETURNING \"id\"",
          [.varchar "?", Graph.number 0 (by decide)]⟩]) ∧
      (Session.insertAt c .root t s).Refuses { executor := () } := by
  let t : RecordType := ⟨"note", "note", [.field { Field.of "id" (.integer .int64) with primaryKey := true, autoIncrement := true },
    .field { Field.of "text" .text with column := "text?" }, .field (Field.of "pages" (.integer .int64))]⟩
  let seven : Value := .of (.integer .int8 7 (by decide))
  let c : Connection Unit := ⟨⟨fun _ _ => ([.ok (.row ⟨["id"], [seven]⟩)], ())⟩, .postgres, {}, .silent⟩
  let r : Record := .ofValues [("id", Graph.number 0 (by decide)), ("text", .varchar "?"), ("pages", Graph.number 0 (by decide))]
  let s : Record := .ofValues [("id", Graph.number 3 (by decide)), ("pages", Graph.number 0 (by decide))]
  obtain ⟨hbuilt, -⟩ := inserts_listed c t r .root { executor := () }
  obtain ⟨-, hrefused⟩ := inserts_listed c t s .root { executor := () }
  obtain ⟨outcome, w', hrun, hsent, -, -, hreplies⟩ :=
    hbuilt [.varchar "?", Graph.number 0 (by decide)] _ (.cons rfl (.cons rfl .nil)) nofun rfl
  obtain ⟨hreturned, -⟩ := hreplies [.row ⟨["id"], [seven]⟩] rfl
  have houtcome : outcome = .ok (some 7) := (hreturned rfl).1 seven ⟨7, by decide⟩ rfl rfl
  have hmissing : ∃ f ∈ s.listedFields t.model, s.value? f.name = none :=
    ⟨{ Field.of "text" .text with column := "text?" }, List.mem_cons_of_mem _ (List.mem_cons_self ..), rfl⟩
  exact ⟨c, t, r, s, rfl, rfl, rfl, ⟨w', houtcome ▸ hrun, hsent.trans (by decide +kernel)⟩, hrefused (.inr hmissing)⟩

end RecordSql
