import RecordSql.Proofs.Session.Linked

/-!
# What a link through a join table attaches

A link through a join table sends a query for the pairs of its parents, and then a query for the children of these pairs, unless there are
none. Each parent gets a child for every pair of its key, in the order of the pairs and as often as they occur: the first child that was
returned with the other key of the pair, or none when no child was (`joined_attached`). Nothing is assumed of the pairs and the children but
that the rows are whole and that those of the children decode.
-/

namespace RecordSql

namespace Row

/-- The value in the first column with a label. -/
def cell? (row : Row) (label : String) : Option Value :=
  ((row.labels.zip row.values).find? (·.1 == label)).map (·.2)

/-- A column of a whole row is read from its cell. -/
theorem IsWhole.column?_eq {row : Row} (h : row.IsWhole) (label : String) : row.column? label = .ok (row.cell? label) := by
  obtain ⟨labels, values⟩ := row
  unfold IsWhole at h
  unfold Row.column? cell?
  dsimp only at h ⊢
  induction labels generalizing values with
  | nil => rfl
  | cons first labels ih =>
    cases values with
    | nil => cases h
    | cons v values =>
      rw [List.findIdx?_cons, List.zip_cons_cons, List.find?_cons]
      cases hfirst : first == label with
      | true => rfl
      | false =>
        rw [← ih values (Nat.le_of_succ_le_succ h)]
        cases labels.findIdx? (· == label) <;> rfl

end Row

/-- The keys that a row of a join table pairs. A row with NULL in one of the two columns, or without it, pairs nothing. -/
def Row.keyPair? (parent child : String) (row : Row) : Option (Value × Value) :=
  match row.cell? parent, row.cell? child with
  | some p, some q => if p.isNull || q.isNull then none else some (p.key, q.key)
  | _, _ => none

/-- The query for the rows of a join table that have one of some keys of parents. -/
def JoinTable.query {σ : Type} (join : JoinTable) (c : Connection σ) (parent child : Field) (keys : List Value) : Statement :=
  c.memberQuery join.type.model [parent.column, child.column] parent.column keys

namespace Link

/-- The keys that the rows of a join table pair, in their order. -/
def keyPairs (parent child : String) (rows : List Row) : List (Value × Value) :=
  rows.filterMap (Row.keyPair? parent child)

/-- A whole row pairs its keys. -/
theorem pair?_of_whole {row : Row} (h : row.IsWhole) (parent child : String) :
    pair? parent child row = .ok (row.keyPair? parent child) := by
  unfold pair? Row.keyPair?
  rw [h.column?_eq parent, h.column?_eq child]
  cases row.cell? parent with
  | none => rfl
  | some p =>
    cases row.cell? child with
    | none => rfl
    | some q =>
      change Except.ok (p.key?.bind fun k => q.key?.bind fun l => some (k, l)) = _
      rw [p.key?_eq, q.key?_eq]
      dsimp only
      cases p.isNull <;> cases q.isNull <;> rfl

/-- Whole rows pair their keys. -/
theorem pairs_of_whole {rows : List Row} (h : ∀ row ∈ rows, row.IsWhole) (parent child : String) :
    pairs parent child rows = .ok (keyPairs parent child rows) := by
  induction rows with
  | nil => rfl
  | cons row rows ih =>
    have hrest := ih fun r hr => h r (List.mem_cons_of_mem _ hr)
    rw [pairs, pair?_of_whole (h row (List.mem_cons_self ..)), hrest, keyPairs, keyPairs, List.filterMap_cons]
    cases row.keyPair? parent child <;> rfl

variable {σ : Type} (link : Link)

/-- A parent with the children that pairs name for its key: for each of these pairs, in order, the first child with the other key of the
pair. -/
def paired (parentField childField : Field) (found : List (Value × Value)) (children : List Record) (parent : Record) : Record :=
  let own := (parent.key? parentField.name).elim [] fun key =>
    (found.filter fun pair => pair.1.same key).flatMap fun pair =>
      (children.filter fun child => (child.value? childField.name).any fun v => v.key.same pair.2).take 1
  parent.attach link.slot (match link.arity with
    | .one => .one own.head?
    | .many => .many own)

variable {link}

/-- Attaching the first child of each pair of a key gives each parent what the pairs name for its own key. -/
theorem filled_pairs (parentField childField : Field) (found : List (Value × Value)) (children : List Record) (parent : Record) :
    link.filled parentField.name (fun key => (found.filter fun pair => pair.1.same key).filterMap fun pair =>
      children.find? (hasKey childField.name pair.2)) parent = link.paired parentField childField found children parent := by
  have hfirst : ∀ key : Value, ((found.filter fun pair => pair.1.same key).filterMap fun pair =>
      children.find? (hasKey childField.name pair.2)) =
        (found.filter fun pair => pair.1.same key).flatMap fun pair =>
          (children.filter (hasKey childField.name pair.2)).take 1 := by
    intro key
    rw [List.filterMap_eq_flatMap_toList]
    exact List.flatMap_congr fun pair _ => (take_one_filter ..).symm
  unfold filled paired
  rw [funext hfirst]
  cases link.arity <;> rfl

/-- No pairs name no children. -/
theorem filled_nil (parentField childField : Field) (children : List Record) (parent : Record) :
    link.filled parentField.name (fun _ => []) parent = link.paired parentField childField [] children parent := by
  unfold filled paired
  cases parent.key? parentField.name <;> cases link.arity <;> rfl

variable {c : Connection σ}

/-- Without pairs nothing more is asked. -/
theorem on_loadPaired_nil (join : JoinTable) (index : ReportIndex) (m : Model) (resolveNested : List Record → Run σ (List Record))
    (w : World σ) : (loadPaired join c index m [] resolveNested).on w = (.ok fun _ => [], w) :=
  rfl

/-- The children of the pairs of a link whose rows are records are the first of each key, with their own relations resolved. -/
theorem on_loadPaired_of_rows (join : JoinTable) {m : Model} {field : Field} {found : List (Value × Value)} {rows : List Row}
    {children : List Record} {index : ReportIndex} {w w₁ w' : World σ} {resolveNested : List Record → Run σ (List Record)}
    {outcome : Except Halt (List Record)} (hne : found ≠ []) (hfield : m.requireOnePrimary = .ok field)
    (hrows : (c.findRows index m (.member false field.column (Value.distinct (found.map (·.2)))) {}).on w = (.ok rows, w₁))
    (hchildren : Record.ofRows m rows = .ok children) (hnested : (resolveNested children).on w₁ = (outcome, w'))
    (houtcome : ∀ f, outcome ≠ .error (.failed f)) :
    (loadPaired join c index m found resolveNested).on w =
      (outcome.map fun resolved key => (found.filter fun pair => pair.1.same key).filterMap fun pair =>
        resolved.find? (hasKey field.name pair.2), w') := by
  have hwanted : ¬ (Value.distinct (found.map (·.2))).isEmpty = true := by
    rw [List.isEmpty_iff, Value.distinct_eq_nil_iff, List.map_eq_nil_iff]
    exact hne
  have hload : (load c index m field (Value.distinct (found.map (·.2))) resolveNested).on w = (outcome, w') := by
    rw [load, Run.on_bind_ok hrows, hchildren, Run.on_bind_ok (Run.on_ofHalt _ _)]
    exact hnested
  rw [loadPaired, if_neg hwanted, hfield, Run.on_bind_ok (Run.on_ofExcept_ok field w), Run.on_bind, Run.on_during, hload]
  rcases outcome with (f | a) | resolved
  · exact absurd rfl (houtcome f)
  · rfl
  · rfl

/-- What a link through a join table loads for some keys, when the answer to the query for the pairs has no fault and its rows are whole:
it goes on with the pairs of these rows. -/
theorem on_loadKeys_of_pairs {join : JoinTable} (hjoin : link.join = some join) {joinParent joinChild : Field}
    (hjp : join.type.model.requireField join.parent = .ok joinParent) (hjc : join.type.model.requireField join.child = .ok joinChild)
    {keys : List Value} (hkeys : keys ≠ []) {replies : List Reply} {w : World σ}
    (hanswer : (c.executor.answer (c.dialect.finish (join.query c joinParent joinChild keys)) w.executor).1.collect = .ok replies)
    (hwhole : ∀ row ∈ replies.filterMap Reply.row?, row.IsWhole) (index : ReportIndex)
    (resolveNested : List Record → Run σ (List Record)) :
    (link.loadKeys c index keys resolveNested).on w =
      (loadPaired join c index link.child.model (keyPairs joinParent.column joinChild.column (replies.filterMap Reply.row?))
        resolveNested).on (c.sendStep index (join.query c joinParent joinChild keys) (Run.described join.type w)).2 := by
  have hexecutor : (Run.described join.type w).executor = w.executor := Run.executor_described ..
  rw [← hexecutor] at hanswer
  have hsent : (c.sendStep index (join.query c joinParent joinChild keys) (Run.described join.type w)).1 = .ok replies := hanswer
  have hrows : (c.fetch index (join.query c joinParent joinChild keys)).on (Run.described join.type w) =
      (.ok (replies.filterMap Reply.row?),
        (c.sendStep index (join.query c joinParent joinChild keys) (Run.described join.type w)).2) := by
    rw [Connection.on_fetch, hsent]
    rfl
  rw [loadKeys, hjoin]
  exact on_loadJoined_of_pairs hjp hjc (Connection.scopedQuery_eq_memberQuery _ _ _ hkeys) hrows (pairs_of_whole hwhole ..) resolveNested

section Resolve

variable {t : RecordType} {join : JoinTable} {parentField childField joinParent joinChild : Field} {parents : List Record}
  {index : ReportIndex} {w : World σ} {replies : List Reply} {resolveNested : List Record → Run σ (List Record)}

variable (link)

/-- The world in which a link through a join table has the answer to its query for pairs. -/
def afterPairs (c : Connection σ) (t : RecordType) (join : JoinTable) (joinParent joinChild : Field) (index : ReportIndex)
    (keys : List Value) (w : World σ) : World σ :=
  (c.sendStep index (join.query c joinParent joinChild keys)
    (Run.described join.type (Run.described link.child (Run.described t w)))).2

theorem sent_afterPairs (keys : List Value) :
    (link.afterPairs c t join joinParent joinChild index keys w).sent =
      w.sent ++ [c.dialect.finish (join.query c joinParent joinChild keys)] := by
  rw [afterPairs, Connection.sent_sendStep, Run.sent_described, Run.sent_described, Run.sent_described]

theorem executor_afterPairs (keys : List Value) :
    (link.afterPairs c t join joinParent joinChild index keys w).executor =
      (c.executor.answer (c.dialect.finish (join.query c joinParent joinChild keys)) w.executor).2 := by
  have hexecutor : (Run.described join.type (Run.described link.child (Run.described t w))).executor = w.executor :=
    (Run.executor_described ..).trans ((Run.executor_described ..).trans (Run.executor_described ..))
  rw [← hexecutor]
  rfl

variable (hjoin : link.join = some join) (hparent : t.model.keyField link.parentKey = .ok parentField)
  (hjp : join.type.model.requireField join.parent = .ok joinParent) (hjc : join.type.model.requireField join.child = .ok joinChild)
  (hsome : parents.filterMap (·.key? parentField.name) ≠ []) {keys : List Value}
  (hkeys : keys = Value.distinct (parents.filterMap (·.key? parentField.name)))
  (hanswer : (c.executor.answer (c.dialect.finish (join.query c joinParent joinChild keys)) w.executor).1.collect = .ok replies)
  (hwhole : ∀ row ∈ replies.filterMap Reply.row?, row.IsWhole) {found : List (Value × Value)}
  (hfound : found = keyPairs joinParent.column joinChild.column (replies.filterMap Reply.row?))

include hjoin hparent hjp hjc hsome hkeys hanswer hwhole hfound

/-- A link through a join table goes on with the pairs of the rows of the join table. -/
theorem on_resolve_of_loadPaired {outcome : Except Halt (Value → List Record)} {w' : World σ}
    (hload : (loadPaired join c index link.child.model found resolveNested).on
      (link.afterPairs c t join joinParent joinChild index keys w) = (outcome, w')) (houtcome : ∀ f, outcome ≠ .error (.failed f)) :
    (link.resolve c t index resolveNested parents).on w =
      (outcome.map fun childrenOf => parents.map (link.filled parentField.name childrenOf), w') := by
  subst hkeys hfound
  have hne : Value.distinct (parents.filterMap (·.key? parentField.name)) ≠ [] := mt Value.distinct_eq_nil_iff.mp hsome
  have hexecutor : (Run.described link.child (Run.described t w)).executor = w.executor :=
    (Run.executor_described ..).trans (Run.executor_described ..)
  rw [← hexecutor] at hanswer
  exact on_resolve_of_key hparent hsome ((on_loadKeys_of_pairs hjoin hjp hjc hne hanswer hwhole index resolveNested).trans hload) houtcome

/-- A link through a join table whose rows pair nothing gives the parents no child. -/
theorem on_resolve_of_no_pairs (childField : Field) (hnone : found = []) :
    (link.resolve c t index resolveNested parents).on w =
      (.ok (parents.map (link.paired parentField childField [] [])), link.afterPairs c t join joinParent joinChild index keys w) := by
  have hload := on_loadPaired_nil (c := c) join index link.child.model resolveNested
    (link.afterPairs c t join joinParent joinChild index keys w)
  rw [← hnone] at hload
  rw [on_resolve_of_loadPaired link hjoin hparent hjp hjc hsome hkeys hanswer hwhole hfound hload nofun]
  exact congrArg (fun paired => (Except.ok paired, _))
    (List.map_congr_left fun parent _ => filled_nil parentField childField [] parent)

/-- A link through a join table whose rows pair something asks for the children and gives the parents what they are paired with, once the
relations of the children were resolved. -/
theorem on_resolve_of_pairs (hchild : link.child.model.requireOnePrimary = .ok childField) (hne : found ≠ []) {replies' : List Reply}
    {children : List Record} {outcome : Except Halt (List Record)} {w' : World σ}
    (hanswer' : (c.executor.answer (c.dialect.finish (link.query c childField (Value.distinct (found.map (·.2)))))
      (link.afterPairs c t join joinParent joinChild index keys w).executor).1.collect = .ok replies')
    (hrows : List.Forall₂ (fun row child => Record.ofRow link.child.model row = .ok child) (replies'.filterMap Reply.row?) children)
    (hnested : (resolveNested children).on (c.sendStep index (link.query c childField (Value.distinct (found.map (·.2))))
      (link.afterPairs c t join joinParent joinChild index keys w)).2 = (outcome, w'))
    (houtcome : ∀ f, outcome ≠ .error (.failed f)) :
    (link.resolve c t index resolveNested parents).on w =
      (outcome.map fun resolved => parents.map (link.paired parentField childField found resolved), w') := by
  have hwanted : Value.distinct (found.map (·.2)) ≠ [] := by
    rw [ne_eq, Value.distinct_eq_nil_iff, List.map_eq_nil_iff]
    exact hne
  have hchildren := on_findRows_of_answer (scopedQuery_eq_query childField hwanted) hanswer' index
  rw [on_resolve_of_loadPaired link hjoin hparent hjp hjc hsome hkeys hanswer hwhole hfound
    (on_loadPaired_of_rows join hne hchild hchildren (Record.ofRows_of_forall₂ hrows) hnested houtcome) (Halt.map_ne_failed houtcome _)]
  cases outcome with
  | error halt => rfl
  | ok resolved =>
    exact congrArg (fun paired => (Except.ok paired, w'))
      (List.map_congr_left fun parent _ => filled_pairs parentField childField found resolved parent)

end Resolve

end Link

/-- A link through a join table sends a query for the pairs of the keys of its parents: these are listed once each, in the order in which
they first occur. A row of the answer pairs the keys of its two columns unless one of them is NULL. Without pairs nothing more is asked,
and every parent gets no child. Otherwise one query for the children follows, which lists the other keys of the pairs once each, in the
order in which they first occur. Before children are attached their own relations are resolved, which keeps their values and sends only
what these relations ask. Each parent then gets for every pair of its own key, in the order of the pairs and as often as they occur, the
first child with the other key of the pair, if one was returned, and a parent without a key gets none. -/
theorem joined_attached {σ : Type} (c : Connection σ) (t : RecordType) (link : Link) (nested : List Relation) {join : JoinTable}
    (hjoin : link.join = some join) {parentField childField joinParent joinChild : Field}
    (hparent : t.model.keyField link.parentKey = .ok parentField) (hchild : link.child.model.requireOnePrimary = .ok childField)
    (hjp : join.type.model.requireField join.parent = .ok joinParent) (hjc : join.type.model.requireField join.child = .ok joinChild)
    (parents : List Record) (hkey : ∃ p ∈ parents, (p.key? parentField.name).isSome) (index : ReportIndex) (w : World σ) {q : Statement}
    (hq : q = c.dialect.finish (join.query c joinParent joinChild (Value.firsts (parents.filterMap (·.key? parentField.name)))))
    {replies : List Reply} (hanswer : (c.executor.answer q w.executor).1.collect = .ok replies)
    (hwhole : ∀ row ∈ replies.filterMap Reply.row?, row.IsWhole) {found : List (Value × Value)}
    (hfound : found = Link.keyPairs joinParent.column joinChild.column (replies.filterMap Reply.row?)) :
    (found = [] → ∃ w', w'.sent = w.sent ++ [q] ∧ w'.executor = (c.executor.answer q w.executor).2 ∧
      ((Relation.mk link nested).resolve c t index parents).on w =
        (.ok (parents.map (link.paired parentField childField [] [])), w')) ∧
    (found ≠ [] → ∀ (q' : Statement) (replies' : List Reply) (children : List Record),
      q' = c.dialect.finish (link.query c childField (Value.firsts (found.map (·.2)))) →
      (c.executor.answer q' (c.executor.answer q w.executor).2).1.collect = .ok replies' →
      List.Forall₂ (fun row child => Record.ofRow link.child.model row = .ok child) (replies'.filterMap Reply.row?) children →
      ∃ w₁ outcome w' below,
        w₁.sent = w.sent ++ [q, q'] ∧ w₁.executor = (c.executor.answer q' (c.executor.answer q w.executor).2).2 ∧
        (Relation.preload c link.child index nested children).on w₁ = (outcome, w') ∧
        w'.sent = w₁.sent ++ below ∧ (∀ s ∈ below, Relation.Sent c nested s) ∧
        (c.executor.Whole → ∃ resolved, outcome = .ok resolved) ∧
        (∀ resolved, outcome = .ok resolved → List.Forall₂ (fun child r => r.values = child.values) children resolved) ∧
        ((Relation.mk link nested).resolve c t index parents).on w =
          (outcome.map fun resolved => parents.map (link.paired parentField childField found resolved), w')) := by
  let keys := Value.distinct (parents.filterMap (·.key? parentField.name))
  let w₀ := link.afterPairs c t join joinParent joinChild index keys w
  have hsome : parents.filterMap (·.key? parentField.name) ≠ [] := Record.keys_ne_nil hkey
  rw [← Value.distinct_eq_firsts] at hq
  subst hq
  have hsent : w₀.sent = w.sent ++ [c.dialect.finish (join.query c joinParent joinChild keys)] := link.sent_afterPairs keys
  have hexecutor : w₀.executor = (c.executor.answer (c.dialect.finish (join.query c joinParent joinChild keys)) w.executor).2 :=
    link.executor_afterPairs keys
  constructor
  · intro hnone
    refine ⟨w₀, hsent, hexecutor, ?_⟩
    unfold Relation.resolve
    exact link.on_resolve_of_no_pairs hjoin hparent hjp hjc hsome rfl hanswer hwhole hfound childField hnone
  · intro hne q' replies' children hq' hanswer' hrows
    rw [← Value.distinct_eq_firsts] at hq'
    subst hq'
    rw [← hexecutor] at hanswer'
    let w₁ := (c.sendStep index (link.query c childField (Value.distinct (found.map (·.2)))) w₀).2
    obtain ⟨outcome, w', below, hpreload, hbelow, hasked, hresolved, hvalues, houtcome⟩ :=
      Relation.exists_outcome c link.child index nested children w₁
    refine ⟨w₁, outcome, w', below, ?_, ?_, hpreload, hbelow, hasked, hresolved, hvalues, ?_⟩
    · rw [Connection.sent_sendStep, hsent, List.append_assoc]
      rfl
    · rw [← hexecutor]
      rfl
    · unfold Relation.resolve
      exact link.on_resolve_of_pairs hjoin hparent hjp hjc hsome rfl hanswer hwhole hfound hchild hne hanswer' hrows hpreload houtcome

/-- Four authors, of whom two are the same and one has no number, and seven credits: one is listed twice, two lack a number, and one is
for a book that is not returned. Of the three books that are returned two have the same number. -/
theorem joined_attached_credits :
    ∃ (c : Connection Nat) (t : RecordType) (link : Link) (join : JoinTable) (parents children : List Record),
      c.dialect = .postgres ∧ link.join = some join ∧ link.arity = .many ∧
      parents.map (·.key? "id") =
        [some (Graph.number 2 (by decide)), some (Graph.number 1 (by decide)), some (Graph.number 2 (by decide)), none] ∧
      children.map (fun child => (child.key? "id", child.key? "pages")) =
        [(some (Graph.number 2 (by decide)), some (Graph.number 50 (by decide))),
         (some (Graph.number 1 (by decide)), some (Graph.number 60 (by decide))),
         (some (Graph.number 1 (by decide)), some (Graph.number 70 (by decide)))] ∧
      ∃ resolved w', ((Relation.mk link []).resolve c t .root parents).on { executor := 0 } = (.ok resolved, w') ∧
        w'.sent =
          [⟨"SELECT \"author\", \"book\"\nFROM \"credit\"\nWHERE \"author\" IN ($1,$2)",
            [Graph.number 2 (by decide), Graph.number 1 (by decide)]⟩,
           ⟨"SELECT \"id\", \"pages\"\nFROM \"book\"\nWHERE \"id\" IN ($1,$2,$3)",
            [Graph.number 1 (by decide), Graph.number 3 (by decide), Graph.number 2 (by decide)]⟩] ∧
        resolved.map (fun p => (p.children .many "books").map (·.key? "pages")) =
          [[some (Graph.number 60 (by decide)), some (Graph.number 60 (by decide))],
           [some (Graph.number 60 (by decide)), some (Graph.number 50 (by decide))],
           [some (Graph.number 60 (by decide)), some (Graph.number 60 (by decide))], []] := by
  let one := Graph.number 1 (by decide)
  let two := Graph.number 2 (by decide)
  let three := Graph.number 3 (by decide)
  let pages : List (Value × Value) :=
    [(two, Graph.number 50 (by decide)), (one, Graph.number 60 (by decide)), (one, Graph.number 70 (by decide))]
  let author : RecordType := ⟨"author", "author", [.field Graph.id]⟩
  let book : RecordType := ⟨"book", "book", [.field Graph.id, .field (Field.of "pages" (.integer .int64))]⟩
  let credit : RecordType :=
    ⟨"credit", "credit", [.field (Field.of "author" (.integer .int64)), .field (Field.of "book" (.integer .int64))]⟩
  let join : JoinTable := ⟨credit, "author", "book"⟩
  let link := (Relation.manyToMany "books" "books" book join []).link
  let credits : List Reply := [(two, one), (one, one), (two, .null .untyped), (two, three), (two, one), (.null .untyped, two),
    (one, two)].map fun credit => .row ⟨["author", "book"], [credit.1, credit.2]⟩
  let books : List Reply := pages.map fun book => .row ⟨["id", "pages"], [book.1, book.2]⟩
  let c : Connection Nat := ⟨⟨fun _ n => ((if n = 0 then credits else books).map .ok, n + 1)⟩, .postgres, {}, .silent⟩
  let parents : List Record := [two, one, two, .null (.integer .int64)].map fun id => .ofValues [("id", id)]
  let children : List Record := pages.map fun book => .ofValues [("id", book.1), ("pages", book.2)]
  have hrows : Record.ofRows book.model (books.filterMap Reply.row?) = .ok children := rfl
  have hparent : author.model.keyField link.parentKey = .ok Graph.id := rfl
  have hchild : book.model.requireOnePrimary = .ok Graph.id := rfl
  have hjp : credit.model.requireField join.parent = .ok (Field.of "author" (.integer .int64)) := rfl
  have hjc : credit.model.requireField join.child = .ok (Field.of "book" (.integer .int64)) := rfl
  have hcredits : Response.collect (credits.map .ok) = .ok credits := rfl
  obtain ⟨-, hpaired⟩ := joined_attached c author link [] rfl hparent hchild hjp hjc parents ⟨_, List.mem_cons_self .., rfl⟩ .root
    { executor := 0 } rfl hcredits (by decide) rfl
  obtain ⟨w₁, outcome, w', below, hsent, -, hnested, -, -, -, -, hresolve⟩ :=
    hpaired nofun _ books children rfl rfl (Record.forall₂_ofRows hrows)
  have hnone : (Relation.preload c book .root [] children).on w₁ = (.ok children, w₁) := by
    unfold Relation.preload Relation.unlessNone Relation.resolveFrom
    rfl
  obtain ⟨rfl, rfl⟩ := Prod.mk.inj (hnested.symm.trans hnone)
  exact ⟨c, author, link, join, parents, children, rfl, rfl, rfl, rfl, rfl, _, _, hresolve, hsent.trans (by decide +kernel), rfl⟩

end RecordSql
