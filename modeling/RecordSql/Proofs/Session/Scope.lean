import RecordSql.Proofs.Condition.NullTest
import RecordSql.Proofs.Session.Asks

/-!
# Scoped queries

A session that honours soft deletion restricts every search to rows in which the column for the time of deletion is NULL. Whatever
the search is, also one that no builder of conditions makes, a find, a count and the queries of relations send either nothing,
because the search itself does not compile, or the query with the condition of the search and the null test after it
(`sent_scoped`).
-/

namespace RecordSql

namespace Connection

variable {σ : Type} (c : Connection σ)

/-- The column that is NULL in the rows that count, where the session honours soft deletion and the model has such a column. -/
def deletionColumn? (m : Model) : Option String :=
  if c.config.softDelete then m.softDeleteField?.map (·.column) else none

/-- The filter of a scoped query whose search compiles to a fragment. -/
def filter (m : Model) (search : Condition) (fragment : Statement) : Statement :=
  match c.deletionColumn? m with
  | some column => .ofText "\nWHERE " ++ search.restricted c.dialect column fragment
  | none => if search.hasLeaf then .ofText "\nWHERE " ++ fragment else .empty

/-- What is sent for a scoped query: nothing when the search does not compile. -/
def asked (m : Model) (query : Statement) (search : Condition) (clauses : Clauses) : List Statement :=
  match search.compile c.dialect with
  | .ok fragment => [c.dialect.finish (query ++ (c.filter m search fragment ++ .ofText (c.dialect.clauses clauses)))]
  | .error _ => []

/-- A session scopes a search by the column of deletion or leaves it alone. -/
theorem scope_eq (m : Model) (search : Condition) :
    c.scope m search = (c.deletionColumn? m).elim search fun column => search.and (.null false column) := by
  unfold scope deletionColumn?
  cases m.softDeleteField? <;> cases c.config.softDelete <;> rfl

/-- A scoped query of a search that compiles has the filter of its fragment. -/
theorem scopedQuery_of_compile {search : Condition} {fragment : Statement} (h : search.compile c.dialect = .ok fragment)
    (m : Model) (query : Statement) (clauses : Clauses) :
    c.scopedQuery m query search clauses =
      .ok (query ++ (c.filter m search fragment ++ .ofText (c.dialect.clauses clauses))) := by
  unfold scopedQuery filter
  rw [scope_eq]
  cases c.deletionColumn? m with
  | none =>
    rw [Option.elim_none, Dialect.condition_of_compile h]
    rfl
  | some column =>
    rw [Option.elim_some, Dialect.condition_of_compile (Condition.compile_and_null column h), Condition.hasLeaf_and_null]
    rfl

/-- A scoped query cannot be built from a search that does not compile. -/
theorem scopedQuery_of_compile_error {search : Condition} {f : Fault} (h : search.compile c.dialect = .error f)
    (m : Model) (query : Statement) (clauses : Clauses) :
    ∃ g, c.scopedQuery m query search clauses = .error g := by
  have hscope : ∃ g, (c.scope m search).compile c.dialect = .error g := by
    rw [scope_eq]
    cases c.deletionColumn? m with
    | none => exact ⟨f, h⟩
    | some column => exact Condition.compile_and_null_error column h
  obtain ⟨g, hg⟩ := hscope
  exact ⟨g, by rw [scopedQuery, Dialect.condition_of_error hg]; rfl⟩

/-- Where deletion is honoured, a filter is the fragment of the search and the null test, and the test applies to all of the search. -/
theorem filter_of_softDelete {m : Model} {search : Condition} {fragment : Statement} {field : Field}
    (hc : search.compile c.dialect = .ok fragment) (hs : c.config.softDelete = true) (hf : m.softDeleteField? = some field) :
    ∃ test : Statement, c.filter m search fragment = .ofText "\nWHERE " ++ test ∧
      test.sql = (if search.hasLeaf then fragment.sql ++ " AND " else "") ++ c.dialect.quoteName field.column ++ " IS NULL" ∧
      test.args = fragment.args ∧
      ∃ g, Formula.read? c.dialect test = some g ∧
        ∀ row, g.truth row = ((search.truth? row).getD .holds).and (row (.null field.column false)) := by
  refine ⟨search.restricted c.dialect field.column fragment, ?_, ?_, ?_, Condition.read_restricted field.column hc⟩
  · simp [filter, deletionColumn?, hs, hf]
  · cases hl : search.hasLeaf <;>
      simp [Condition.restricted, Condition.nullTest, Statement.ofText, hl, String.append_assoc]
  · cases hl : search.hasLeaf with
    | true => simp [Condition.restricted, Condition.nullTest, Statement.ofText, hl]
    | false =>
      obtain ⟨-, hempty⟩ := Condition.compile_eq_ok_iff.mp hc
      rw [hempty hl]
      simp [Condition.restricted, Condition.nullTest, Statement.ofText, Statement.empty, hl]

/-- Where no column of deletion counts, a search stays as it is, and its filter is its own fragment. -/
theorem scope_of_unscoped {m : Model} (h : c.config.softDelete = false ∨ m.softDeleteField? = none) (search : Condition) :
    c.scope m search = search ∧
      ∀ fragment, c.filter m search fragment = if search.hasLeaf then .ofText "\nWHERE " ++ fragment else .empty := by
  have hnone : c.deletionColumn? m = none := by
    rcases h with h | h <;> simp [deletionColumn?, h]
  refine ⟨by rw [scope_eq, hnone, Option.elim_none], fun fragment => ?_⟩
  rw [filter, hnone]

/-- A query that could be built is the one that is asked. -/
theorem finish_mem_asked {m : Model} {query : Statement} {search : Condition} {clauses : Clauses} {q : Statement}
    (h : c.scopedQuery m query search clauses = .ok q) : c.dialect.finish q ∈ c.asked m query search clauses := by
  unfold asked
  rcases hc : search.compile c.dialect with f | fragment
  · obtain ⟨g, hg⟩ := c.scopedQuery_of_compile_error hc m query clauses
    rw [hg] at h
    cases h
  · rw [c.scopedQuery_of_compile hc] at h
    cases h
    exact List.mem_singleton_self _

/-- When nothing is asked, the query cannot be built. -/
theorem scopedQuery_of_asked_eq_nil {m : Model} {query : Statement} {search : Condition} {clauses : Clauses}
    (h : c.asked m query search clauses = []) : ∃ g, c.scopedQuery m query search clauses = .error g := by
  unfold asked at h
  rcases hc : search.compile c.dialect with f | fragment
  · exact c.scopedQuery_of_compile_error hc m query clauses
  · rw [hc] at h
    cases h

/-- Building a scoped query and then fetching its rows sends what is asked. -/
theorem sent_fetch_scopedQuery (index : ReportIndex) (m : Model) (query : Statement) (search : Condition) (clauses : Clauses)
    (w : World σ) :
    ((Run.ofExcept (c.scopedQuery m query search clauses) >>= fun q => c.fetch index q).on w).2.sent =
      w.sent ++ c.asked m query search clauses := by
  unfold asked
  rcases hc : search.compile c.dialect with f | fragment
  · obtain ⟨g, hg⟩ := c.scopedQuery_of_compile_error hc m query clauses
    rw [hg, Run.on_bind, Run.on_ofExcept_error]
    exact (List.append_nil _).symm
  · rw [c.scopedQuery_of_compile hc, Run.on_bind, Run.on_ofExcept_ok]
    dsimp only
    rw [on_fetch, sent_sendStep]

end Connection

/-! ## What operations send -/

namespace Run

variable {σ α β : Type}

/-- What an operation sends comes before what is sent after it, which is nothing when the operation fails. -/
theorem sent_bind {P : Statement → Prop} (x : Run σ α) {f : α → Run σ β} (hf : ∀ a, Sends P (f a)) (w : World σ) :
    ∃ rest, ((x >>= f).on w).2.sent = (x.on w).2.sent ++ rest ∧ (∀ s ∈ rest, P s) ∧
      ∀ h, (x.on w).1 = .error h → rest = [] := by
  rw [on_bind]
  rcases hx : x.on w with ⟨h | a, w'⟩
  · exact ⟨[], by simp⟩
  · obtain ⟨rest, hrest, hP⟩ := hf a w'
    exact ⟨rest, hrest, hP, by simp⟩

/-- What is sent after an operation that sends nothing more is what the operation sends. -/
theorem sent_bind_silent (x : Run σ α) {f : α → Run σ β} (hf : ∀ a, Sends (fun _ => False) (f a)) (w : World σ) :
    ((x >>= f).on w).2.sent = (x.on w).2.sent := by
  obtain ⟨rest, hsent, hnone, -⟩ := sent_bind x hf w
  rw [hsent, List.eq_nil_iff_forall_not_mem.mpr hnone, List.append_nil]

end Run

/-- A statement that is sent for one of the queries of some relations. -/
def Relation.Queried {σ : Type} (c : Connection σ) (relations : List Relation) (s : Statement) : Prop :=
  ∃ r ∈ relations, ∃ m columns search, r.Asks m columns search ∧ s ∈ c.asked m (c.dialect.find m columns) search {}

/-- What relations send is asked by one of them. -/
theorem Relation.Sent.queried {σ : Type} {c : Connection σ} {relations : List Relation} {s : Statement}
    (h : Relation.Sent c relations s) : Relation.Queried c relations s := by
  obtain ⟨r, hr, m, columns, search, q, hasks, hq, rfl⟩ := h
  exact ⟨r, hr, m, columns, search, hasks, c.finish_mem_asked hq⟩

namespace Session

variable {σ : Type} (c : Connection σ) (t : RecordType) (w : World σ)

/-- The world in which an operation goes on after its start, when it has the model of its record type. -/
def begun (t : RecordType) (w : World σ) : World σ :=
  Run.described t { w with report := {} }

@[simp] theorem sent_begun : (begun t w).sent = w.sent :=
  Run.sent_described t _

@[simp] theorem executor_begun : (begun t w).executor = w.executor :=
  Run.executor_described t _

/-- An operation that starts and asks for the model of its record type goes on with it, and has sent nothing. -/
theorem on_start_model {α : Type} (f : Model → Run σ α) :
    (start >>= fun _ => Run.model t >>= f).on w = (f t.model).on (begun t w) := by
  rw [Run.on_bind, Run.on_start]
  dsimp only
  rw [Run.on_bind, Run.on_model]
  rfl

/-- A count sends its scoped query. -/
theorem sent_count (search : Condition) :
    ((count c t search).on w).2.sent = w.sent ++ c.asked t.model (c.dialect.count t.model) search {} := by
  rw [count, on_start_model, ← sent_begun t w, ← c.sent_fetch_scopedQuery .root, ← bind_assoc]
  refine Run.sent_bind_silent _ (fun rows => ?_) _
  cases firstValue? rows with
  | none => exact .pure _
  | some v => exact .bind (.ofExcept _) fun _ => .pure _

/-- A find sends its scoped query and then what its relations ask. -/
theorem sent_find (request : Find) :
    ∃ rest, ((find c t request).on w).2.sent =
        w.sent ++ c.asked t.model (c.dialect.find t.model t.model.columns) request.search request.clauses ++ rest ∧
      (∀ s ∈ rest, Relation.Queried c request.relations s) ∧
      (c.asked t.model (c.dialect.find t.model t.model.columns) request.search request.clauses = [] → rest = []) := by
  have hrelations : ∀ rows, Run.Sends (Relation.Queried c request.relations) (do
      let records ← Run.ofHalt (Record.ofRows t.model rows)
      let records ← Relation.preload c t .root request.relations records
      return (⟨records, ← report⟩ : Outcome (List Record))) := by
    intro rows
    refine .bind (.ofHalt _) fun records => .bind ?_ fun _ => .bind .report fun _ => .pure _
    exact (Relation.sends_preload c t .root request.relations records).mono fun _ h => h.queried
  obtain ⟨rest, hsent, hasked, hfailed⟩ := Run.sent_bind (c.findRows .root t.model request.search request.clauses)
    hrelations (begun t w)
  refine ⟨rest, ?_, hasked, fun hnone => ?_⟩
  · rw [find, on_start_model, hsent, ← sent_begun t w, ← c.sent_fetch_scopedQuery .root]
    rfl
  · obtain ⟨f, hf⟩ := c.scopedQuery_of_asked_eq_nil hnone
    refine hfailed (.failed f) ?_
    rw [Connection.findRows, hf, Run.on_bind, Run.on_ofExcept_error]

end Session

/-- A count sends its scoped query, a find sends its scoped query and then only scoped queries of its relations, and relations send
only scoped queries, whatever is searched for. A search that does not compile sends nothing at all. Where deletion is honoured, the
filter of a scoped query is the fragment of the search with the null test after it, which applies to all of the search, and no
argument changes. Elsewhere a search stays as it is. -/
theorem sent_scoped {σ : Type} (c : Connection σ) (w : World σ) :
    (∀ t search,
      ((Session.count c t search).on w).2.sent = w.sent ++ c.asked t.model (c.dialect.count t.model) search {}) ∧
    (∀ t (request : Find), ∃ rest,
      ((Session.find c t request).on w).2.sent =
        w.sent ++ c.asked t.model (c.dialect.find t.model t.model.columns) request.search request.clauses ++ rest ∧
      (∀ s ∈ rest, Relation.Queried c request.relations s) ∧
      (c.asked t.model (c.dialect.find t.model t.model.columns) request.search request.clauses = [] → rest = [])) ∧
    (∀ t index relations parents, ∃ added,
      ((Relation.preload c t index relations parents).on w).2.sent = w.sent ++ added ∧
      ∀ s ∈ added, Relation.Queried c relations s) ∧
    (∀ m search fragment field, search.compile c.dialect = .ok fragment → c.config.softDelete = true →
      m.softDeleteField? = some field → ∃ test : Statement,
        c.filter m search fragment = .ofText "\nWHERE " ++ test ∧
        test.sql =
          (if search.hasLeaf then fragment.sql ++ " AND " else "") ++ c.dialect.quoteName field.column ++ " IS NULL" ∧
        test.args = fragment.args ∧
        ∃ g, Formula.read? c.dialect test = some g ∧
          ∀ row, g.truth row = ((search.truth? row).getD .holds).and (row (.null field.column false))) ∧
    (∀ m, c.config.softDelete = false ∨ m.softDeleteField? = none → ∀ search, c.scope m search = search ∧
      ∀ fragment, c.filter m search fragment = if search.hasLeaf then .ofText "\nWHERE " ++ fragment else .empty) := by
  refine ⟨fun t search => Session.sent_count c t w search, fun t request => Session.sent_find c t w request, ?_,
    fun m search fragment field hc hs hf => c.filter_of_softDelete hc hs hf, fun m h search => c.scope_of_unscoped h search⟩
  intro t index relations parents
  obtain ⟨added, hsent, hasked⟩ := Relation.sends_preload c t index relations parents w
  exact ⟨added, hsent, fun s hs => (hasked s hs).queried⟩

/-- A search by hand for deleted rows too, with a node that does nothing at its end, still counts no deleted row. -/
theorem sent_scoped_disjunction :
    ∃ (c : Connection Unit) (m : Model) (t : RecordType) (search : Condition) (field : Field),
      search.nodes = [⟨.compare .equal, some (.value "a" (.varchar "x"))⟩, ⟨.null true, some (.column "gone")⟩, ⟨.or, none⟩,
        ⟨.ignore, none⟩] ∧
      t.model = m ∧ c.config.softDelete = true ∧ m.softDeleteField? = some field ∧
      ((Session.count c t search).on { executor := () }).2.sent =
        [⟨"SELECT COUNT(*)\nFROM \"note\"\nWHERE (\"a\" = ? OR \"gone\" IS NOT NULL) AND \"gone\" IS NULL", [.varchar "x"]⟩] ∧
      ∃ test : Statement, c.filter m search ⟨"(\"a\" = ? OR \"gone\" IS NOT NULL)", [.varchar "x"]⟩ = .ofText "\nWHERE " ++ test ∧
        ∃ g, Formula.read? c.dialect test = some g ∧
          ∀ row, g.truth row = ((search.truth? row).getD .holds).and (row (.null "gone" false)) := by
  let field : Field := { Field.of "gone" .timestamp with softDelete := true }
  let t : RecordType := ⟨"note", "note", [.field (Field.of "a" .text), .field field]⟩
  let c : Connection Unit := ⟨⟨fun _ _ => ([], ())⟩, .sqlite, {}, .silent⟩
  let search : Condition := ⟨[⟨.compare .equal, some (.value "a" (.varchar "x"))⟩, ⟨.null true, some (.column "gone")⟩,
    ⟨.or, none⟩, ⟨.ignore, none⟩]⟩
  obtain ⟨hcount, -, -, hfilter, -⟩ := sent_scoped c { executor := () }
  obtain ⟨test, htest, -, -, hread⟩ := hfilter t.model search _ field rfl rfl rfl
  exact ⟨c, t.model, t, search, field, rfl, rfl, rfl, rfl, (hcount t search).trans (by decide), test, htest, hread⟩

end RecordSql
