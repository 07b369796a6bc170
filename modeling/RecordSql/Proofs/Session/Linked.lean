import RecordSql.Proofs.Dialect.Keyed
import RecordSql.Proofs.Session.Asks
import RecordSql.Proofs.Session.Attached

/-!
# What a direct link attaches

A link without a join table asks for its children with one query, which lists the keys of the parents, and pairs parents and children as a
nested loop over both would do: each parent gets the children whose key is its own, in the order of the rows and as often as they occur
(`direct_attached`). Nothing is assumed of the rows but that they decode, so the database may answer with children of any keys.
-/

namespace RecordSql

namespace Connection

variable {σ : Type} (c : Connection σ)

/-- The query for some columns of the rows that have one of some keys in a column. -/
def memberQuery (m : Model) (columns : List String) (column : String) (keys : List Value) : Statement :=
  ⟨"SELECT " ++ ", ".intercalate (columns.map c.dialect.quoteName) ++ "\nFROM " ++ c.dialect.quoteName m.name ++
    "\nWHERE " ++ c.dialect.quoteName column ++ " IN (" ++ ",".intercalate (keys.map fun _ => "?") ++ ")" ++
    (c.deletionColumn? m).elim "" (fun column => " AND " ++ c.dialect.quoteName column ++ " IS NULL"), keys⟩

variable {c}

/-- A scoped search for the keys of a column is the query for them. -/
theorem scopedQuery_eq_memberQuery (m : Model) (columns : List String) (column : String) {keys : List Value} (hkeys : keys ≠ []) :
    c.scopedQuery m (c.dialect.find m columns) (.member false column keys) {} = .ok (c.memberQuery m columns column keys) := by
  have hcompile : (Condition.member false column keys).compile c.dialect = .ok ⟨c.dialect.quoteName column ++
      (" IN (" ++ Text.separated "," (keys.map fun _ => "?") ++ ")"), keys⟩ := by
    cases keys with
    | nil => exact absurd rfl hkeys
    | cons k keys => rfl
  have hleaf : (Condition.member false column keys).hasLeaf = true := rfl
  rw [c.scopedQuery_of_compile hcompile, Dialect.ofText_clauses, Statement.append_empty]
  unfold filter Dialect.find memberQuery
  rw [Dialect.quoteNames_eq, Dialect.separated_holes]
  cases c.deletionColumn? m with
  | none =>
    dsimp only
    rw [hleaf, if_pos rfl, Option.elim_none]
    refine congrArg Except.ok (congrArg₂ Statement.mk ?_ rfl)
    simp [Statement.ofText, String.append_assoc]
  | some deletion =>
    dsimp only
    rw [Condition.restricted, hleaf, if_pos rfl, Option.elim_some]
    refine congrArg Except.ok (congrArg₂ Statement.mk ?_ (by simp [Statement.ofText, Condition.nullTest]))
    simp [Statement.ofText, Condition.nullTest, String.append_assoc, -String.reduceAppend]

end Connection

namespace Link

variable {σ : Type} (link : Link) (c : Connection σ)

/-- The query for the children with one of some keys. -/
def query (field : Field) (keys : List Value) : Statement :=
  c.memberQuery link.child.model link.child.model.columns field.column keys

/-- A parent with the children whose key is its own: all of them, or the first. -/
def joined (parentField childField : Field) (children : List Record) (parent : Record) : Record :=
  let own := (parent.key? parentField.name).elim [] fun key =>
    children.filter fun child => (child.value? childField.name).any fun v => v.key.same key
  parent.attach link.slot (match link.arity with
    | .one => .one own.head?
    | .many => .many own)

variable {link c}

/-- A link asks for its children with its query. -/
theorem scopedQuery_eq_query (field : Field) {keys : List Value} (hkeys : keys ≠ []) :
    c.scopedQuery link.child.model (c.dialect.find link.child.model link.child.model.columns) (.member false field.column keys) {} =
      .ok (link.query c field keys) :=
  Connection.scopedQuery_eq_memberQuery link.child.model link.child.model.columns field.column hkeys

/-- The children of a link whose rows are records are those of each key, with their own relations resolved. -/
theorem on_loadDirect_of_rows {m : Model} {field : Field} {rows : List Row} {children : List Record} {keys : List Value}
    {index : ReportIndex} {w w₁ : World σ} (hfield : m.keyField link.childKey = .ok field)
    (hrows : (c.findRows index m (.member false field.column keys) {}).on w = (.ok rows, w₁))
    (hchildren : Record.ofRows m rows = .ok children) (resolveNested : List Record → Run σ (List Record)) :
    (link.loadDirect c index m keys resolveNested).on w =
      (((resolveNested children).on w₁).1.map fun resolved key => resolved.filter (hasKey field.name key),
        ((resolveNested children).on w₁).2) := by
  have hload : (load c index m field keys resolveNested).on w = (resolveNested children).on w₁ := by
    rw [load, Run.on_bind_ok hrows, hchildren, Run.on_bind_ok (Run.on_ofHalt _ _)]
  rw [loadDirect, hfield, Run.on_bind_ok (Run.on_ofExcept_ok field w), Run.on_bind, hload]
  rcases (resolveNested children).on w₁ with ⟨_ | _, w'⟩ <;> rfl

/-- The rows of a query whose answer holds no fault. -/
theorem on_findRows_of_answer {m : Model} {search : Condition} {clauses : Clauses} {q : Statement} {replies : List Reply} {w : World σ}
    (hq : c.scopedQuery m (c.dialect.find m m.columns) search clauses = .ok q)
    (hanswer : (c.executor.answer (c.dialect.finish q) w.executor).1.collect = .ok replies) (index : ReportIndex) :
    (c.findRows index m search clauses).on w = (.ok (replies.filterMap Reply.row?), (c.sendStep index q w).2) := by
  have hsent : (c.sendStep index q w).1 = .ok replies := hanswer
  rw [Connection.findRows, hq, Run.on_bind_ok (Run.on_ofExcept_ok q w), Connection.on_fetch, hsent]
  rfl

/-- Attaching the children of each key gives each parent those whose key is its own. -/
theorem filled_filter (parentField childField : Field) (children : List Record) (parent : Record) :
    link.filled parentField.name (fun key => children.filter (hasKey childField.name key)) parent =
      link.joined parentField childField children parent := by
  unfold filled joined
  cases link.arity <;> rfl

/-- A direct link whose rows are records pairs the parents with these, once their own relations were resolved. -/
theorem on_resolve_of_rows {t : RecordType} {parentField childField : Field} {parents children : List Record} {rows : List Row}
    {index : ReportIndex} {w w₁ w' : World σ} {resolveNested : List Record → Run σ (List Record)} {outcome : Except Halt (List Record)}
    (hjoin : link.join = none) (hparent : t.model.keyField link.parentKey = .ok parentField)
    (hchild : link.child.model.keyField link.childKey = .ok childField)
    (hsome : parents.filterMap (·.key? parentField.name) ≠ [])
    (hrows : (c.findRows index link.child.model (.member false childField.column
      (Value.distinct (parents.filterMap (·.key? parentField.name)))) {}).on (Run.described link.child (Run.described t w)) =
        (.ok rows, w₁))
    (hchildren : Record.ofRows link.child.model rows = .ok children)
    (hnested : (resolveNested children).on w₁ = (outcome, w')) (houtcome : ∀ f, outcome ≠ .error (.failed f)) :
    (link.resolve c t index resolveNested parents).on w =
      (outcome.map fun resolved => parents.map (link.joined parentField childField resolved), w') := by
  have hload := on_loadDirect_of_rows hchild hrows hchildren resolveNested
  rw [hnested] at hload
  have hkeys : (link.loadKeys c index (Value.distinct (parents.filterMap (·.key? parentField.name))) resolveNested).on
      (Run.described link.child (Run.described t w)) =
        (outcome.map fun resolved key => resolved.filter (hasKey childField.name key), w') := by
    rw [loadKeys, hjoin]
    exact hload
  have hjoined : ∀ resolved, parents.map (link.filled parentField.name fun key => resolved.filter (hasKey childField.name key)) =
      parents.map (link.joined parentField childField resolved) :=
    fun resolved => List.map_congr_left fun parent _ => filled_filter parentField childField resolved parent
  rw [on_resolve_of_key hparent hsome hkeys (Halt.map_ne_failed houtcome _)]
  cases outcome with
  | error halt => rfl
  | ok resolved => exact congrArg (fun paired => (Except.ok paired, w')) (hjoined resolved)

end Link

/-- When some parent has a key there are keys to ask for. -/
theorem Record.keys_ne_nil {parents : List Record} {field : String} (h : ∃ p ∈ parents, (p.key? field).isSome) :
    parents.filterMap (·.key? field) ≠ [] := by
  obtain ⟨p, hp, hpkey⟩ := h
  obtain ⟨key, hkey⟩ := Option.isSome_iff_exists.mp hpkey
  exact List.ne_nil_of_mem (List.mem_filterMap.mpr ⟨p, hp, hkey⟩)

/-- Relations of children end with children of the same values, or are aborted. They send only what they ask. -/
theorem Relation.exists_outcome {σ : Type} (c : Connection σ) (t : RecordType) (index : ReportIndex) (nested : List Relation)
    (children : List Record) (w : World σ) :
    ∃ outcome w' below, (preload c t index nested children).on w = (outcome, w') ∧
      w'.sent = w.sent ++ below ∧ (∀ s ∈ below, Sent c nested s) ∧
      (c.executor.Whole → ∃ resolved, outcome = .ok resolved) ∧
      (∀ resolved, outcome = .ok resolved → List.Forall₂ (fun child r => r.values = child.values) children resolved) ∧
      ∀ f, outcome ≠ .error (.failed f) := by
  obtain ⟨below, hbelow, hasked⟩ := sends_preload c t index nested children w
  have hends := ends_preload_values c t index nested children w
  rcases hpreload : (preload c t index nested children).on w with ⟨outcome, w'⟩
  rw [hpreload] at hbelow
  rw [Run.EndsOr, hpreload] at hends
  refine ⟨outcome, w', below, rfl, hbelow, hasked, ?_, ?_, ?_⟩
  · intro hwhole
    obtain ⟨resolved, w₂, hresolved, -⟩ := exists_preload hwhole t index nested children w
    rw [hpreload] at hresolved
    exact ⟨resolved, (Prod.mk.inj hresolved).1⟩
  · rintro resolved rfl
    exact hends
  · rintro f rfl
    exact hends

/-- A link without a join table sends one query of its own, for the children whose key is among those of the parents: these are listed
once each, in the order in which they first occur. Before children are attached their own relations are resolved, which keeps their values
and sends only what these relations ask. Each parent then gets the children whose key is its own, in the order of the rows and as often as
they occur, or the first of them where the link takes one, and a parent without a key gets none. -/
theorem direct_attached {σ : Type} (c : Connection σ) (t : RecordType) (link : Link) (nested : List Relation) (hjoin : link.join = none)
    {parentField childField : Field} (hparent : t.model.keyField link.parentKey = .ok parentField)
    (hchild : link.child.model.keyField link.childKey = .ok childField) (parents : List Record)
    (hkey : ∃ p ∈ parents, (p.key? parentField.name).isSome) (index : ReportIndex) (w : World σ) {q : Statement}
    (hq : q = c.dialect.finish (link.query c childField (Value.firsts (parents.filterMap (·.key? parentField.name)))))
    {replies : List Reply} (hanswer : (c.executor.answer q w.executor).1.collect = .ok replies) {children : List Record}
    (hrows : List.Forall₂ (fun row child => Record.ofRow link.child.model row = .ok child) (replies.filterMap Reply.row?) children) :
    ∃ w₁ outcome w' below,
      w₁.sent = w.sent ++ [q] ∧ w₁.executor = (c.executor.answer q w.executor).2 ∧
      (Relation.preload c link.child index nested children).on w₁ = (outcome, w') ∧
      w'.sent = w₁.sent ++ below ∧ (∀ s ∈ below, Relation.Sent c nested s) ∧
      (c.executor.Whole → ∃ resolved, outcome = .ok resolved) ∧
      (∀ resolved, outcome = .ok resolved → List.Forall₂ (fun child r => r.values = child.values) children resolved) ∧
      ((Relation.mk link nested).resolve c t index parents).on w =
        (outcome.map fun resolved => parents.map (link.joined parentField childField resolved), w') := by
  let keys := Value.distinct (parents.filterMap (·.key? parentField.name))
  let v := Run.described link.child (Run.described t w)
  let w₁ := (c.sendStep index (link.query c childField keys) v).2
  have hv : v.executor = w.executor := (Run.executor_described ..).trans (Run.executor_described ..)
  have hsent : v.sent = w.sent := (Run.sent_described ..).trans (Run.sent_described ..)
  have hsome : parents.filterMap (·.key? parentField.name) ≠ [] := Record.keys_ne_nil hkey
  have hkeys : keys ≠ [] := mt Value.distinct_eq_nil_iff.mp hsome
  rw [← Value.distinct_eq_firsts] at hq
  subst hq
  rw [← hv] at hanswer
  have hfound := Link.on_findRows_of_answer (Link.scopedQuery_eq_query childField hkeys) hanswer index
  obtain ⟨outcome, w', below, hpreload, hbelow, hasked, hresolved, hvalues, houtcome⟩ :=
    Relation.exists_outcome c link.child index nested children w₁
  refine ⟨w₁, outcome, w', below, ?_, ?_, hpreload, hbelow, hasked, hresolved, hvalues, ?_⟩
  · rw [Connection.sent_sendStep, hsent]
  · rw [← hv]
    rfl
  · unfold Relation.resolve
    exact Link.on_resolve_of_rows hjoin hparent hchild hsome hfound (Record.ofRows_of_forall₂ hrows) hpreload houtcome

/-- Four authors, of whom two are the same and one has no number, and five books, of which one was not asked for and one has no author. -/
theorem direct_attached_books :
    ∃ (c : Connection Unit) (t : RecordType) (link : Link) (parents children : List Record),
      c.dialect = .postgres ∧ link.join = none ∧ link.arity = .many ∧
      parents.map (·.key? "id") =
        [some (Graph.number 2 (by decide)), some (Graph.number 1 (by decide)), some (Graph.number 2 (by decide)), none] ∧
      children.map (fun child => (child.key? "id", child.key? "author")) =
        [(some (Graph.number 1 (by decide)), some (Graph.number 1 (by decide))),
         (some (Graph.number 2 (by decide)), some (Graph.number 2 (by decide))),
         (some (Graph.number 3 (by decide)), some (Graph.number 3 (by decide))),
         (some (Graph.number 1 (by decide)), none),
         (some (Graph.number 3 (by decide)), some (Graph.number 2 (by decide)))] ∧
      ∃ resolved w', ((Relation.mk link []).resolve c t .root parents).on { executor := () } = (.ok resolved, w') ∧
        w'.sent = [⟨"SELECT \"id\", \"author\", \"gone\"\nFROM \"book\"\nWHERE \"author\" IN ($1,$2) AND \"gone\" IS NULL",
          [Graph.number 2 (by decide), Graph.number 1 (by decide)]⟩] ∧
        resolved.map (fun p => (p.children .many "books").map (·.key? "id")) =
          [[some (Graph.number 2 (by decide)), some (Graph.number 3 (by decide))], [some (Graph.number 1 (by decide))],
           [some (Graph.number 2 (by decide)), some (Graph.number 3 (by decide))], []] := by
  let one := Graph.number 1 (by decide)
  let two := Graph.number 2 (by decide)
  let three := Graph.number 3 (by decide)
  let author : RecordType := ⟨"author", "author", [.field Graph.id]⟩
  let book : RecordType := ⟨"book", "book", [.field Graph.id,
    .field { Field.of "author" (.integer .int64) with nullable := true },
    .field { Field.of "gone" .timestamp with softDelete := true, nullable := true }]⟩
  let link : Link := { container := "books", slot := "books", child := book, childKey := some "author", arity := .many }
  let rows : List Row := [(one, one), (two, two), (three, three), (one, .null .untyped), (three, two)].map fun book =>
    ⟨["id", "author", "gone"], [book.1, book.2, .null .untyped]⟩
  let c : Connection Unit := ⟨⟨fun _ _ => (rows.map fun row => .ok (.row row), ())⟩, .postgres, {}, .silent⟩
  let parents : List Record := [two, one, two, .null (.integer .int64)].map fun id => .ofValues [("id", id)]
  let children : List Record := [(one, one), (two, two), (three, three), (one, .null (.integer .int64)), (three, two)].map fun book =>
    .ofValues [("id", book.1), ("author", book.2), ("gone", .null .timestamp)]
  have hparent : author.model.keyField link.parentKey = .ok Graph.id := rfl
  have hrows : Record.ofRows book.model rows = .ok children := rfl
  obtain ⟨w₁, outcome, w', below, hsent, -, hnested, -, -, -, -, hresolve⟩ :=
    direct_attached c author link [] rfl hparent rfl parents ⟨_, List.mem_cons_self .., rfl⟩ .root
      { executor := () } rfl rfl (Record.forall₂_ofRows hrows)
  have hnone : (Relation.preload c book .root [] children).on w₁ = (.ok children, w₁) := by
    unfold Relation.preload Relation.unlessNone Relation.resolveFrom
    rfl
  obtain ⟨rfl, rfl⟩ := Prod.mk.inj (hnested.symm.trans hnone)
  exact ⟨c, author, link, parents, children, rfl, rfl, rfl, rfl, rfl, _, _, hresolve, hsent.trans (by decide +kernel), rfl⟩

end RecordSql
