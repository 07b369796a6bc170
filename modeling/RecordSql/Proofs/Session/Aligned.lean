import RecordSql.Proofs.Session.Operation

/-!
# Sessions send what dialects build

The operations of a session send statements that the dialect built or that were put together from such statements, finished for the
dialect. So the arguments of everything they send belong to its placeholders in order, and in Postgres to its numbers
(`sent_aligned`). The statements that a caller writes by hand are not among them.
-/

namespace RecordSql

/-- The finished form of a statement that the dialect builds. -/
def Dialect.Sends (d : Dialect) (s : Statement) : Prop :=
  ∃ built, d.Builds built ∧ s = d.finish built

namespace Connection

variable {σ : Type} (c : Connection σ)

/-- A scoped query is put together from what the dialect builds. -/
theorem builds_scopedQuery {m : Model} {query : Statement} {search : Condition} {clauses : Clauses} {q : Statement}
    (hquery : c.dialect.Builds query) (h : c.scopedQuery m query search clauses = .ok q) : c.dialect.Builds q := by
  unfold scopedQuery at h
  rcases hc : c.dialect.condition (c.scope m search) clauses with f | filter
  · rw [hc] at h
    cases h
  · rw [hc] at h
    cases h
    exact hquery.append (.condition hc)

end Connection

namespace Session

variable {σ : Type} (c : Connection σ) (t : RecordType)

/-- The results of a computation that goes on with the result of another. -/
theorem eq_ok_of_bind {ε α β : Type} {x : Except ε α} {f : α → Except ε β} {b : β} (h : (x >>= f) = .ok b) :
    ∃ a, x = .ok a ∧ f a = .ok b := by
  cases x with
  | error e => cases h
  | ok a => exact ⟨a, rfl, h⟩

theorem builds_insertStatement {d : Dialect} {m : Model} {r : Record} {s : Statement} (h : insertStatement d m r = .ok s) :
    d.Builds s := by
  obtain ⟨values, -, h⟩ := eq_ok_of_bind h
  split at h
  · cases h
  · cases h
    exact .insert m values

theorem builds_updateStatement {d : Dialect} {m : Model} {r : Record} {s : Statement} (h : updateStatement d m r = .ok s) :
    d.Builds s := by
  obtain ⟨values, -, h⟩ := eq_ok_of_bind h
  split at h
  · cases h
  · obtain ⟨key, -, h⟩ := eq_ok_of_bind h
    obtain ⟨filter, hf, h⟩ := eq_ok_of_bind h
    cases h
    exact .append (.update m values) (.condition hf)

theorem builds_deleteStatement {d : Dialect} {config : Config} {now : OffsetTimestamp} {m : Model} {r : Record} {s : Statement}
    (h : deleteStatement d config now m r = .ok s) : d.Builds s := by
  obtain ⟨key, -, h⟩ := eq_ok_of_bind h
  have hbuilds : ∀ {change : Except Fault Statement}, (∀ {b}, change = .ok b → d.Builds b) →
      (change >>= fun change => d.condition key {} >>= fun filter => .ok (change ++ filter)) = .ok s → d.Builds s := by
    intro change hchange h
    obtain ⟨b, hb, h⟩ := eq_ok_of_bind h
    obtain ⟨filter, hf, h⟩ := eq_ok_of_bind h
    cases h
    exact .append (hchange hb) (.condition hf)
  have hdelete : ∀ {b}, (.ok (d.delete m) : Except Fault Statement) = .ok b → d.Builds b := by
    intro b hb
    cases hb
    exact .delete m
  dsimp only at h
  split at h
  · split at h
    · exact hbuilds .softDelete h
    · exact hbuilds hdelete h
  · exact hbuilds hdelete h

theorem builds_replacement {d : Dialect} (hd : d ≠ .postgres) {m : Model} {r : Record} {replaced : Replacement}
    (h : replacement d m r = .ok replaced) : ∀ s ∈ replaced.statements, d.Builds s := by
  obtain ⟨values, -, h⟩ := eq_ok_of_bind h
  exact fun s hs => .replace hd h hs

/-- An operation that builds what the dialect builds sends nothing else. -/
theorem sends_of_builds {α : Type} (op : Operation α) (h : ∀ s, op.Builds c s → c.dialect.Builds s) :
    Run.Sends c.dialect.Sends (op.run c) :=
  op.sends_run fun s hs => ⟨s, h s hs, rfl⟩

/-- The queries of relations are put together from what the dialect builds. -/
theorem builds_relations {relations : List Relation} {s : Statement} (h : Relation.Builds c relations s) : c.dialect.Builds s := by
  obtain ⟨_, -, m, columns, _, -, hq⟩ := h
  exact c.builds_scopedQuery (.find m columns) hq

theorem sends_hasTable : Run.Sends c.dialect.Sends (hasTable c t) :=
  sends_of_builds c (.hasTable t) fun _ hs => hs ▸ .hasTable _

theorem sends_count (search : Condition) : Run.Sends c.dialect.Sends (count c t search) :=
  sends_of_builds c (.count t search) fun _ hs => c.builds_scopedQuery (.count _) hs

theorem sends_preload (index : ReportIndex) (relations : List Relation) (parents : List Record) :
    Run.Sends c.dialect.Sends (Relation.preload c t index relations parents) := by
  refine (Relation.sends_preload c t index relations parents).mono ?_
  rintro s ⟨r, hr, m, columns, search, q, hasks, hq, rfl⟩
  exact ⟨q, builds_relations c ⟨r, hr, m, columns, search, hasks, hq⟩, rfl⟩

theorem sends_find (request : Find) : Run.Sends c.dialect.Sends (find c t request) :=
  sends_of_builds c (.find t request) fun _ hs => hs.elim (c.builds_scopedQuery (.find _ _)) (builds_relations c)

theorem sends_insert (r : Record) : Run.Sends c.dialect.Sends (insert c t r) :=
  sends_of_builds c (.insert t r) fun _ hs => builds_insertStatement hs

theorem sends_insertMany (rs : List Record) : Run.Sends c.dialect.Sends (insertMany c t rs) :=
  sends_of_builds c (.insertMany t rs) fun _ ⟨_, _, hs⟩ => builds_insertStatement hs

theorem sends_update (r : Record) : Run.Sends c.dialect.Sends (update c t r) :=
  sends_of_builds c (.update t r) fun _ hs => builds_updateStatement hs

theorem sends_delete (now : OffsetTimestamp) (r : Record) : Run.Sends c.dialect.Sends (delete c now t r) :=
  sends_of_builds c (.delete now t r) fun _ hs => builds_deleteStatement hs

theorem sends_replace (hd : c.dialect ≠ .postgres) (r : Record) : Run.Sends c.dialect.Sends (replace c t r) :=
  sends_of_builds c (.replace t r) fun s ⟨_, h, hs⟩ => builds_replacement hd h s hs

end Session

/-- A statement that a dialect builds, or that is put together from such statements, ends outside of quoted sections and has as many
placeholders as arguments. Numbered for Postgres it has the placeholders `$1` to `$n` for its `n` arguments, in order, and no question
mark is left. The operations of a session send nothing else, but for replacements in Postgres. -/
theorem sent_aligned :
    (∀ (d : Dialect) (s : Statement), d.Builds s →
      Text.Section.after none s.sql.toList = none ∧ s.placeholderCount = s.args.length ∧
      (Dialect.postgres.finish s).args = s.args ∧
      Text.dollars (Dialect.postgres.finish s).sql = (List.range' 1 s.args.length).map (fun i => "$" ++ toString i) ∧
      (Dialect.postgres.finish s).placeholderCount = 0) ∧
    ∀ {σ : Type} (c : Connection σ) (t : RecordType),
      Run.Sends c.dialect.Sends (Session.hasTable c t) ∧
      (∀ search, Run.Sends c.dialect.Sends (Session.count c t search)) ∧
      (∀ request, Run.Sends c.dialect.Sends (Session.find c t request)) ∧
      (∀ index relations parents, Run.Sends c.dialect.Sends (Relation.preload c t index relations parents)) ∧
      (∀ r, Run.Sends c.dialect.Sends (Session.insert c t r)) ∧
      (∀ rs, Run.Sends c.dialect.Sends (Session.insertMany c t rs)) ∧
      (∀ r, Run.Sends c.dialect.Sends (Session.update c t r)) ∧
      (∀ now r, Run.Sends c.dialect.Sends (Session.delete c now t r)) ∧
      (c.dialect ≠ .postgres → ∀ r, Run.Sends c.dialect.Sends (Session.replace c t r)) := by
  refine ⟨fun d s h => ?_, fun c t => ⟨Session.sends_hasTable c t, Session.sends_count c t, Session.sends_find c t,
    Session.sends_preload c t, Session.sends_insert c t, Session.sends_insertMany c t, Session.sends_update c t,
    Session.sends_delete c t, Session.sends_replace c t⟩⟩
  have haligned := h.aligned
  obtain ⟨hdollars, hcount⟩ := haligned.dollars_numbered
  exact ⟨haligned.closed, haligned.count, rfl, hdollars, hcount⟩

/-- Names with quotes, question marks and dollar signs in an update with its condition. -/
theorem sent_aligned_update :
    ∃ s : Statement, Dialect.postgres.Builds s ∧
      s = ⟨"UPDATE \"a?\"\"$9\"\nSET \"it's\" = ?\nWHERE \"k`\" IN (?,?)", [.varchar "?", .varchar "x", .varchar "y"]⟩ ∧
      s.placeholderCount = s.args.length ∧ Text.dollars (Dialect.postgres.finish s).sql = ["$1", "$2", "$3"] ∧
      ∃ (c : Connection Unit) (t : RecordType), c.dialect ≠ .postgres ∧
        Run.Sends c.dialect.Sends (Session.replace c t (.ofValues [])) := by
  have hcondition : Dialect.postgres.condition (.member false "k`" [.varchar "x", .varchar "y"]) {} = .ok _ := rfl
  have hbuilds := (Dialect.Builds.update { name := "a?\"$9" } [⟨"it's", .varchar "?"⟩]).append (.condition hcondition)
  obtain ⟨-, hcount, -, hdollars, -⟩ := sent_aligned.1 .postgres _ hbuilds
  let c : Connection Unit := ⟨⟨fun _ _ => ([], ())⟩, .sqlite, {}, .silent⟩
  let t : RecordType := ⟨"note", "note", []⟩
  obtain ⟨-, -, -, -, -, -, -, -, hreplace⟩ := sent_aligned.2 c t
  exact ⟨_, hbuilds, by decide, hcount, hdollars, c, t, by decide, hreplace (by decide) _⟩

end RecordSql
