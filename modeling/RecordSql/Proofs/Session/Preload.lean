import RecordSql.Proofs.Session.Ends
import RecordSql.Proofs.Session.Pointwise

/-!
# Preloading a batch

The relations of a list of parents come out as they do for each parent alone, to any depth (`preload_alone`): the keys that the
parents share are asked for once, a parent without a key has no children, and children that several parents share are resolved once.
What is assumed is said by `Relation.Served`: the tables answer every query that the relations ask, the key fields exist, rows decode
and keep their keys, and each relation has a slot of its own.
-/

namespace RecordSql

namespace Link

variable {σ : Type}

/-- The tables answer what a link asks: its children by their key, or its pairs by the key of the parent and then its children by
their primary key. -/
inductive Served (c : Connection σ) (tables : Tables) (link : Link) : Prop
  | direct {f : Field} (hjoin : link.join = none) (hf : link.child.model.keyField link.childKey = .ok f)
      (hchildren : c.Readable tables link.child.model f)
  | joined {join : JoinTable} {parent child f : Field} (hjoin : link.join = some join)
      (hparent : join.type.model.requireField join.parent = .ok parent)
      (hchild : join.type.model.requireField join.child = .ok child)
      (hpairs : c.Answers tables join.type.model [parent.column, child.column] parent.column)
      (hf : link.child.model.requireOnePrimary = .ok f) (hchildren : c.Readable tables link.child.model f)

/-- The children of some keys, as a link loads them. -/
def loadKeys (link : Link) (c : Connection σ) (index : ReportIndex) (keys : List Value)
    (resolveNested : List Record → Run σ (List Record)) : Run σ (Value → List Record) :=
  match link.join with
  | none => link.loadDirect c index link.child.model keys resolveNested
  | some join => loadJoined join c index link.child.model keys resolveNested

variable {c : Connection σ} {tables : Tables} {link : Link} {slots : List String} {N : Record → Record}
  {resolveNested : List Record → Run σ (List Record)}

/-- A link that is served finds the same children for a key, whatever other keys are asked for with it. -/
theorem Served.exists_children (h : Served c tables link) (hN : Record.Natural slots N) :
    ∃ childrenFor : Value → List Record, ∀ (resolveNested : List Record → Run σ (List Record)), Run.Maps slots N resolveNested →
      ∀ (index : ReportIndex) (keys : List Value), keys ≠ [] → (∀ k ∈ keys, k.IsKey) → ∀ w, ∃ childrenOf w',
        (link.loadKeys c index keys resolveNested).on w = (.ok childrenOf, w') ∧
        ∀ key, (∃ k ∈ keys, k.same key = true) → ∀ n, List.Forall₂ (Record.Alike n) (childrenOf key) (childrenFor key) := by
  cases h with
  | @direct f hjoin hf hchildren =>
    refine ⟨linked c tables link.child.model f.column N, fun resolveNested hnested index keys hne hkeys w => ?_⟩
    rw [loadKeys, hjoin]
    exact on_loadDirect hchildren hN hnested hf index hne hkeys w
  | @joined join parent child f hjoin hparent hchild hpairs hf hchildren =>
    refine ⟨fun key => (linkedPairs c tables join.type.model parent.column child.column key).filterMap fun p =>
      (linked c tables link.child.model f.column N p.2).head?, fun resolveNested hnested index keys hne hkeys w => ?_⟩
    rw [loadKeys, hjoin]
    exact on_loadJoined hchildren hN hnested hparent hchild hf hpairs index hne hkeys w

/-- A parent with the children for its key attached. A parent without a key has none. -/
def filled (link : Link) (field : String) (childrenFor : Value → List Record) (parent : Record) : Record :=
  parent.attach link.slot (.ofChildren link.arity ((parent.key? field).elim [] childrenFor))

/-- Attaching children fills one slot and sees no difference between alike parents. -/
theorem natural_filled (link : Link) (field : String) (childrenFor : Value → List Record) :
    Record.Natural [link.slot] (link.filled field childrenFor) where
  values r := Record.values_attach ..
  others r slot hslot hvacant a := by
    have hne : link.slot ≠ slot := fun heq => hslot (by simp [heq])
    rw [filled, Record.children_attach, if_neg hne]
    exact hvacant a
  congr n r s hrs := by
    have hkey : r.key? field = s.key? field := by
      rw [Record.key?, Record.key?, Record.value?, Record.value?, hrs.values]
    rw [filled, filled, hkey]
    exact hrs.attach link.slot link.arity fun m => List.forall₂_same.mpr fun child _ => .refl m child

section Resolve

variable {parentType : RecordType} {field : Field} {parents : List Record}

/-- The keys of parents are those that they are paired with. -/
theorem keys_paired (parents : List Record) (field : String) :
    (parents.map fun parent => (parent, parent.key? field)).filterMap (·.2) = parents.filterMap (·.key? field) := by
  rw [List.filterMap_map]
  rfl

/-- Parents without any key are left as they are. -/
theorem on_tryResolve_of_none (hf : parentType.model.keyField link.parentKey = .ok field)
    (hnone : parents.filterMap (·.key? field.name) = []) (index : ReportIndex)
    (resolveNested : List Record → Run σ (List Record)) (w : World σ) :
    ∃ w', (link.tryResolve c parentType index resolveNested parents).on w = (.ok parents, w') := by
  rw [tryResolve, Run.on_bind_ok (Run.on_model parentType w), Run.on_bind_ok (Run.on_model link.child _), hf,
    Run.on_bind_ok (Run.on_ofExcept_ok field _)]
  dsimp only
  rw [keys_paired, hnone, if_pos (by rfl), Run.on_bind_ok (Run.on_writeLog _ _)]
  exact ⟨_, rfl⟩

/-- Parents with keys get what is loaded for all of their keys, and loading fails for all of them. -/
theorem on_tryResolve_of_key (hf : parentType.model.keyField link.parentKey = .ok field)
    (hsome : parents.filterMap (·.key? field.name) ≠ []) (index : ReportIndex)
    (resolveNested : List Record → Run σ (List Record)) (w : World σ) {result : Except Halt (Value → List Record)} {w' : World σ}
    (hload : (link.loadKeys c index (Value.distinct (parents.filterMap (·.key? field.name))) resolveNested).on
      (Run.described link.child (Run.described parentType w)) = (result, w')) :
    (link.tryResolve c parentType index resolveNested parents).on w =
      (result.map fun childrenOf => parents.map (link.filled field.name childrenOf), w') := by
  have hne : ¬ (Value.distinct (parents.filterMap (·.key? field.name))).isEmpty = true := by
    rw [List.isEmpty_iff, Value.distinct_eq_nil_iff]
    exact hsome
  rw [tryResolve, Run.on_bind_ok (Run.on_model parentType w), Run.on_bind_ok (Run.on_model link.child _), hf,
    Run.on_bind_ok (Run.on_ofExcept_ok field _)]
  dsimp only
  rw [keys_paired, if_neg hne]
  rw [loadKeys] at hload
  have hattach : ∀ childrenOf, link.attachAll childrenOf (parents.map fun parent => (parent, parent.key? field.name)) =
      parents.map (link.filled field.name childrenOf) := by
    intro childrenOf
    rw [attachAll, List.map_map]
    rfl
  have hloaded : ∀ {x : Run σ (Value → List Record)} {v : World σ}, x.on v = (result, w') →
      (x >>= fun childrenOf => pure (link.attachAll childrenOf (parents.map fun parent => (parent, parent.key? field.name)))).on v =
        (result.map fun childrenOf => parents.map (link.filled field.name childrenOf), w') := by
    intro x v hx
    rw [Run.on_bind, hx]
    cases result with
    | error halt => rfl
    | ok childrenOf => exact congrArg (fun filled => (Except.ok filled, w')) (hattach childrenOf)
  cases hjoin : link.join with
  | none =>
    rw [hjoin] at hload
    exact hloaded hload
  | some join =>
    rw [hjoin] at hload
    exact hloaded hload

/-- Parents with keys get the children that are loaded for all of their keys. -/
theorem on_tryResolve_of_load (hf : parentType.model.keyField link.parentKey = .ok field)
    (hsome : parents.filterMap (·.key? field.name) ≠ []) (index : ReportIndex) {w w' : World σ}
    {childrenOf : Value → List Record}
    (hload : (link.loadKeys c index (Value.distinct (parents.filterMap (·.key? field.name))) resolveNested).on
      (Run.described link.child (Run.described parentType w)) = (.ok childrenOf, w')) :
    (link.tryResolve c parentType index resolveNested parents).on w =
      (.ok (parents.map (link.filled field.name childrenOf)), w') :=
  on_tryResolve_of_key hf hsome index resolveNested w hload

/-- A link that is aborted or has a result is resolved so. -/
theorem on_resolve_of_tryResolve {index : ReportIndex} {parents : List Record} {w w' : World σ}
    {result : Except Halt (List Record)}
    (htry : (link.tryResolve c parentType index resolveNested parents).on w = (result, w')) (hresult : ∀ f, result ≠ .error (.failed f)) :
    (link.resolve c parentType index resolveNested parents).on w = (result, w') := by
  rw [resolve, Run.on_bind, Run.on_attempt, htry]
  rcases result with (f | a) | resolved
  · exact absurd rfl (hresult f)
  · rfl
  · rfl

/-- A link attaches what it loads for the keys of the parents, unless loading fails. -/
theorem on_resolve_of_key (hf : parentType.model.keyField link.parentKey = .ok field)
    (hsome : parents.filterMap (·.key? field.name) ≠ []) {index : ReportIndex} {w w' : World σ}
    {result : Except Halt (Value → List Record)}
    (hload : (link.loadKeys c index (Value.distinct (parents.filterMap (·.key? field.name))) resolveNested).on
      (Run.described link.child (Run.described parentType w)) = (result, w')) (hresult : ∀ f, result ≠ .error (.failed f)) :
    (link.resolve c parentType index resolveNested parents).on w =
      (result.map fun childrenOf => parents.map (link.filled field.name childrenOf), w') :=
  on_resolve_of_tryResolve (on_tryResolve_of_key hf hsome index resolveNested w hload) (Halt.map_ne_failed hresult _)

/-- A link that is served does to every list of parents what one function does to each of them. -/
theorem Served.maps_resolve (h : Served c tables link) (hf : parentType.model.keyField link.parentKey = .ok field)
    (hN : Record.Natural slots N) :
    ∃ F, Record.Natural [link.slot] F ∧ ∀ (resolveNested : List Record → Run σ (List Record)),
      Run.Maps slots N resolveNested → ∀ index, Run.Maps [link.slot] F (link.resolve c parentType index resolveNested) := by
  obtain ⟨childrenFor, hchildren⟩ := h.exists_children hN
  refine ⟨link.filled field.name childrenFor, natural_filled .., fun resolveNested hnested index parents hvacant w => ?_⟩
  have hresolve : ∀ {resolved w'}, (link.tryResolve c parentType index resolveNested parents).on w = (.ok resolved, w') →
      (link.resolve c parentType index resolveNested parents).on w = (.ok resolved, w') := by
    intro resolved w' htry
    exact on_resolve_of_tryResolve htry fun f hf => nomatch hf
  by_cases hkeys : parents.filterMap (·.key? field.name) = []
  · obtain ⟨w', htry⟩ := on_tryResolve_of_none hf hkeys index resolveNested w
    refine ⟨parents, w', hresolve htry, fun n => ?_⟩
    rw [List.forall₂_map_right_iff, List.forall₂_same]
    intro p hp
    have hnone : p.key? field.name = none := List.filterMap_eq_nil_iff.mp hkeys p hp
    rw [filled, hnone]
    -- nothing was attached here, where a batch with some key would have attached no child
    exact (Record.alike_attach_none (hvacant p hp link.slot (List.mem_singleton_self _)) link.arity n).symm
  · have hne : Value.distinct (parents.filterMap (·.key? field.name)) ≠ [] := mt Value.distinct_eq_nil_iff.mp hkeys
    have hiskey : ∀ k ∈ Value.distinct (parents.filterMap (·.key? field.name)), k.IsKey := by
      intro k hk
      obtain ⟨p, -, hp⟩ := List.mem_filterMap.mp (Value.mem_of_mem_distinct hk)
      obtain ⟨v, -, hv⟩ := Option.bind_eq_some_iff.mp hp
      exact ⟨v, hv⟩
    obtain ⟨childrenOf, w', hload, halike⟩ := hchildren resolveNested hnested index _ hne hiskey
      (Run.described link.child (Run.described parentType w))
    refine ⟨_, w', hresolve (on_tryResolve_of_load hf hkeys index hload), fun n => ?_⟩
    rw [List.forall₂_map_left_iff, List.forall₂_map_right_iff, List.forall₂_same]
    intro p hp
    refine (Record.Alike.refl n p).attach link.slot link.arity fun m => ?_
    cases hkey : p.key? field.name with
    | none => exact .nil
    | some key => exact halike key (Value.exists_distinct_same (List.mem_filterMap.mpr ⟨p, hp, hkey⟩)) m

end Resolve

end Link

/-! ## Trees of relations -/

/-- The tables answer whatever a tree of relations asks for records of a type: the keys of every link exist, and the relations of one
level have slots of their own. -/
inductive Relation.Served {σ : Type} (c : Connection σ) (tables : Tables) : RecordType → List Relation → Prop
  | nil (t : RecordType) : Served c tables t []
  | cons {t : RecordType} {link : Link} {nested rest : List Relation} {field : Field}
      (hkey : t.model.keyField link.parentKey = .ok field) (hlink : link.Served c tables)
      (hnested : Served c tables link.child nested) (hslot : ∀ r ∈ rest, r.link.slot ≠ link.slot)
      (hrest : Served c tables t rest) : Served c tables t (.mk link nested :: rest)

namespace Relation

variable {σ : Type} {c : Connection σ} {tables : Tables} {t : RecordType}

/-- The slots that relations fill. -/
def slots (relations : List Relation) : List String :=
  relations.map fun r => r.link.slot

/-- Nothing is done to no records. -/
theorem maps_unlessNone {slots : List String} {F : Record → Record} {op : List Record → Run σ (List Record)}
    (h : Run.Maps slots F op) : Run.Maps slots F (unlessNone op) := by
  intro parents hvacant w
  rw [unlessNone]
  split
  · rename_i hnone
    rw [List.isEmpty_iff.mp hnone]
    exact ⟨[], w, rfl, fun n => .nil⟩
  · exact h parents hvacant w

/-- Filling some slots and then others maps records by the one function after the other. -/
theorem maps_bind {first rest : List String} {F G : Record → Record} {op next : List Record → Run σ (List Record)}
    (hF : Record.Natural first F) (hG : Record.Natural rest G) (hop : Run.Maps first F op) (hnext : Run.Maps rest G next)
    (hdisjoint : ∀ slot ∈ rest, slot ∉ first) :
    Run.Maps (first ++ rest) (G ∘ F) (fun parents => op parents >>= next) := by
  intro parents hvacant w
  obtain ⟨middle, w₁, hmiddle, halike⟩ := hop parents (fun p hp slot hs => hvacant p hp slot (List.mem_append_left _ hs)) w
  have hrest : ∀ p ∈ middle, ∀ slot ∈ rest, p.IsVacant slot := by
    intro p hp slot hs
    obtain ⟨q, hq, hpq⟩ := exists_of_mem_forall₂ (halike 1) hp
    obtain ⟨parent, hparent, rfl⟩ := List.mem_map.mp hq
    -- the slot is vacant in what `F` makes of the parent, and so in the record that is alike to it
    exact (hF.others parent slot (hdisjoint slot hs) (hvacant parent hparent slot (List.mem_append_right _ hs))).of_alike hpq
  obtain ⟨result, w₂, hresult, hlast⟩ := hnext middle hrest w₁
  refine ⟨result, w₂, ?_, fun n => ?_⟩
  · rw [Run.on_bind_ok hmiddle]
    exact hresult
  · have hmap : List.Forall₂ (Record.Alike n) (middle.map G) ((parents.map F).map G) := by
      rw [List.forall₂_map_left_iff, List.forall₂_map_right_iff]
      exact (halike n).imp fun r s => hG.congr n r s
    rw [← List.map_map]
    exact forall₂_trans (hlast n) hmap fun _ _ _ => .trans

/-- Functions that fill some slots and then others fill both. -/
theorem natural_comp {first rest : List String} {F G : Record → Record} (hF : Record.Natural first F)
    (hG : Record.Natural rest G) : Record.Natural (first ++ rest) (G ∘ F) where
  values r := (hG.values _).trans (hF.values r)
  others r slot hslot hvacant := by
    rw [List.mem_append, not_or] at hslot
    exact hG.others _ slot hslot.2 (hF.others r slot hslot.1 hvacant)
  congr n r s hrs := hG.congr n _ _ (hF.congr n r s hrs)

/-- Relations that are served do to every list of parents what one function does to each of them. The induction goes over the tree: the
children of a link are the parents of the relations below it, and the relations beside it find their own slots untouched. -/
theorem Served.maps_resolveFrom {relations : List Relation} (h : Served c tables t relations) :
    ∃ F, Record.Natural (slots relations) F ∧
      ∀ index i, Run.Maps (slots relations) F (resolveFrom c t index i relations) := by
  induction h with
  | nil t =>
    refine ⟨id, ⟨fun _ => rfl, fun _ _ _ hvacant => hvacant, fun _ _ _ hrs => hrs⟩, fun index i parents _ w => ?_⟩
    refine ⟨parents, w, ?_, fun n => ?_⟩
    · rw [resolveFrom]
      rfl
    · rw [List.map_id]
      exact List.forall₂_same.mpr fun p _ => .refl n p
  | @cons t link nested rest field hkey hlink hnested hslot hrest ihnested ihrest =>
    obtain ⟨N, hN, hmapsN⟩ := ihnested
    obtain ⟨G, hG, hmapsG⟩ := ihrest
    obtain ⟨F, hF, hmapsF⟩ := hlink.maps_resolve hkey hN
    refine ⟨G ∘ F, natural_comp hF hG, fun index i => ?_⟩
    have hfirst : Run.Maps [link.slot] F (resolve c t (index.child i) (.mk link nested)) := by
      have hmaps := hmapsF _ (maps_unlessNone (hmapsN (index.child i) 0)) (index.child i)
      intro parents hvacant w
      rw [resolve]
      exact hmaps parents hvacant w
    have hdisjoint : ∀ slot ∈ slots rest, slot ∉ [link.slot] := by
      intro slot hs heq
      obtain ⟨r, hr, rfl⟩ := List.mem_map.mp hs
      exact hslot r hr (List.mem_singleton.mp heq)
    have hboth := maps_bind hF hG hfirst (hmapsG index (i + 1)) hdisjoint
    intro parents hvacant w
    rw [resolveFrom]
    exact hboth parents hvacant w

end Relation

/-- Every list of parents is resolved, and each parent comes out as when it is resolved alone, with children that are alike at every
level: when the tables answer what the relations ask, whatever keys and children the parents share. -/
theorem preload_alone {σ : Type} (c : Connection σ) (tables : Tables) (t : RecordType) (relations : List Relation)
    (h : Relation.Served c tables t relations) (parents : List Record)
    (hvacant : ∀ p ∈ parents, ∀ r ∈ relations, p.IsVacant r.link.slot) (index : ReportIndex) (w : World σ) :
    ∃ result, ((Relation.preload c t index relations parents).on w).1 = .ok result ∧
      List.Forall₂ (fun parent resolved => ∀ index' w', ∃ alone,
        ((Relation.preload c t index' relations [parent]).on w').1 = .ok [alone] ∧ ∀ n, Record.Alike n resolved alone)
        parents result := by
  obtain ⟨F, -, hmaps⟩ := h.maps_resolveFrom
  have hpreload : ∀ index, Run.Maps (Relation.slots relations) F (Relation.preload c t index relations) := fun index =>
    Relation.maps_unlessNone (hmaps index 0)
  have hslots : ∀ p ∈ parents, ∀ slot ∈ Relation.slots relations, p.IsVacant slot := by
    intro p hp slot hs
    obtain ⟨r, hr, rfl⟩ := List.mem_map.mp hs
    exact hvacant p hp r hr
  obtain ⟨result, w₁, hresult, halike⟩ := hpreload index parents hslots w
  refine ⟨result, by rw [hresult], ?_⟩
  have hbatch : List.Forall₂ (fun p r => ∀ n, Record.Alike n r (F p)) parents result :=
    forall₂_forall fun n => (List.forall₂_map_right_iff.mp (halike n)).flip
  refine List.Forall₂.imp ?_ ((List.forall₂_and_left parents result).mpr ⟨hslots, hbatch⟩)
  rintro p r ⟨hp, hr⟩ index' w'
  obtain ⟨single, w₂, hsingle, hlike⟩ := hpreload index' [p] (by simpa using hp) w'
  obtain ⟨alone, hlast, rfl⟩ : ∃ alone, (∀ n, Record.Alike n alone (F p)) ∧ single = [alone] := by
    have h := forall₂_forall hlike
    rw [List.map_singleton, List.forall₂_cons_right_iff] at h
    obtain ⟨alone, rest, halone, hrest, rfl⟩ := h
    exact ⟨alone, halone, by rw [List.forall₂_nil_right_iff.mp hrest]⟩
  exact ⟨alone, by rw [hsingle], fun n => (hr n).trans (hlast n).symm⟩

/-! ## A graph -/

namespace Graph

/-- A number. -/
def number (n : Int) (h : IntegerType.int64.Holds n) : Value :=
  .of (.integer .int64 n h)

/-- The number of a node. -/
def id : Field :=
  { Field.of "id" (.integer .int64) with primaryKey := true }

/-- The nodes of a graph, each known by its number. -/
def node : RecordType :=
  ⟨"node", "node", [.field id]⟩

/-- The edges of a graph. -/
def edge : RecordType :=
  ⟨"edge", "edge", [.field (Field.of "source" (.integer .int64)), .field (Field.of "target" (.integer .int64))]⟩

/-- Three nodes, of which the first two have the third as a successor and the first has the second. One edge leads nowhere. -/
def tables : Tables where
  rows name :=
    let one := number 1 (by decide)
    let two := number 2 (by decide)
    let three := number 3 (by decide)
    if name = "node" then [fun _ => one, fun _ => two, fun _ => three]
    else
      [(one, three), (one, two), (two, three), (three, .null .untyped)].map fun ends column =>
        if column = "source" then ends.1 else ends.2

/-- The rows that a query asks for. Only a query of edges has an `s` where the name of its first column starts. -/
def reply (s : Statement) : List Row :=
  if s.sql.toList[8]? = some 's' then
    (tables.select edge.model none "source" s.args).map (Tables.answerRow ["source", "target"])
  else
    (tables.select node.model none "id" s.args).map (Tables.answerRow ["id"])

/-- A session with a database that answers from the tables. -/
def connection : Connection Unit where
  executor := ⟨fun s x => ((reply s).map fun row => .ok (.row row), x)⟩
  dialect := .sqlite
  config := {}
  library := .silent

/-- The successors of nodes, and theirs. -/
def relations : List Relation :=
  [.manyToMany "next" "next" node ⟨edge, "source", "target"⟩
    [.manyToMany "next" "next" node ⟨edge, "source", "target"⟩ []]]

/-- Two nodes that share a successor, the first of them again, and one without a number. -/
def parents : List Record :=
  [number 1 (by decide), number 2 (by decide), number 1 (by decide), .null (.integer .int64)].map fun id => .ofValues [("id", id)]

/-- The first column of a query decides how it is answered. -/
theorem sql_of_scopedQuery {m : Model} {columns : List String} {column : String} {keys : List Value} {q : Statement}
    (h : connection.scopedQuery m (Dialect.sqlite.find m columns) (.member false column keys) {} = .ok q)
    (hlength : 8 < (Dialect.sqlite.find m columns).sql.toList.length) :
    q.sql.toList[8]? = (Dialect.sqlite.find m columns).sql.toList[8]? ∧ q.args = keys := by
  obtain ⟨⟨rest, hsql⟩, hargs⟩ := Connection.scopedQuery_member h
  rw [hsql, String.toList_append, List.getElem?_append_left hlength, hargs]
  exact ⟨rfl, rfl⟩

theorem answers_edge : connection.Answers tables edge.model ["source", "target"] "source" := by
  intro keys _ _ q hq x
  obtain ⟨hsql, hargs⟩ := sql_of_scopedQuery hq (by decide)
  have hcolumn : q.sql.toList[8]? = some 's' := by
    rw [hsql]
    decide
  have hanswer : (connection.executor.answer (connection.dialect.finish q) x).1 =
      (reply q).map fun row => .ok (.row row) := rfl
  rw [hanswer, reply, if_pos hcolumn, hargs, List.map_map]
  rfl

theorem readable_node : connection.Readable tables node.model id where
  answers := by
    intro keys _ _ q hq x
    obtain ⟨hsql, hargs⟩ := sql_of_scopedQuery hq (by decide)
    have hcolumn : q.sql.toList[8]? ≠ some 's' := by
      rw [hsql]
      decide
    have hanswer : (connection.executor.answer (connection.dialect.finish q) x).1 =
        (reply q).map fun row => .ok (.row row) := rfl
    rw [hanswer, reply, if_neg hcolumn, hargs, List.map_map]
    rfl
  decodes := by
    intro row hrow
    have hrows : tables.rows node.model.name =
      [fun _ => number 1 (by decide), fun _ => number 2 (by decide), fun _ => number 3 (by decide)] := rfl
    rw [hrows] at hrow
    simp only [List.mem_cons, List.not_mem_nil, or_false] at hrow
    rcases hrow with rfl | rfl | rfl <;> exact ⟨_, rfl, _, rfl, rfl⟩

/-- A link from nodes to their successors is served. -/
theorem served_next : Link.Served connection tables
    { container := "next", slot := "next", child := node, join := some ⟨edge, "source", "target"⟩, arity := .many } :=
  .joined rfl rfl rfl answers_edge rfl readable_node

end Graph

/-- Successors of successors in a graph, for nodes that share successors, that repeat and that have no key. -/
theorem preload_alone_graph :
    Relation.Served Graph.connection Graph.tables Graph.node Graph.relations ∧
    (∀ p ∈ Graph.parents, ∀ r ∈ Graph.relations, p.IsVacant r.link.slot) ∧
    ∃ result,
      ((Relation.preload Graph.connection Graph.node .root Graph.relations Graph.parents).on { executor := () }).1 = .ok result ∧
      List.Forall₂ (fun parent resolved => ∀ index' w', ∃ alone,
        ((Relation.preload Graph.connection Graph.node index' Graph.relations [parent]).on w').1 = .ok [alone] ∧
        ∀ n, Record.Alike n resolved alone) Graph.parents result := by
  have hserved : Relation.Served Graph.connection Graph.tables Graph.node Graph.relations :=
    .cons rfl Graph.served_next (.cons rfl Graph.served_next (.nil _) (by simp) (.nil _)) (by simp) (.nil _)
  have hvacant : ∀ p ∈ Graph.parents, ∀ r ∈ Graph.relations, p.IsVacant r.link.slot := by
    intro p hp r _
    obtain ⟨id, -, rfl⟩ := List.mem_map.mp hp
    exact Record.isVacant_ofValues [("id", id)] _
  exact ⟨hserved, hvacant, preload_alone Graph.connection Graph.tables Graph.node Graph.relations hserved Graph.parents hvacant
    .root { executor := () }⟩

end RecordSql
