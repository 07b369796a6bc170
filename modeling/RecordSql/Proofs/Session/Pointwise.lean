import RecordSql.Proofs.Related
import RecordSql.Proofs.Session.Tables

/-!
# Resolving parent by parent

Relations are resolved for a whole list of parents with one query for all of their keys. When the queries are answered from fixed
tables this comes to the same as resolving them for each parent alone: there is a function of one record that an operation on lists
applies to each of them (`Run.Maps`), which is the same function whatever the list is. For a link it attaches the children that the
tables have for the key of the parent (`on_resolve`); for a tree of relations it is found by induction (`maps_resolveFrom`).
-/

namespace RecordSql

/-- A function of records that may fill some slots and sees no difference between alike records. -/
structure Record.Natural (slots : List String) (F : Record → Record) : Prop where
  values : ∀ r, (F r).values = r.values
  others : ∀ r slot, slot ∉ slots → r.IsVacant slot → (F r).IsVacant slot
  congr : ∀ n r s, Record.Alike n r s → Record.Alike n (F r) (F s)

namespace Run

variable {σ α β : Type}

/-- An operation gives every list of records in which some slots are vacant what a function makes of each record. -/
def Maps (slots : List String) (F : Record → Record) (op : List Record → Run σ (List Record)) : Prop :=
  ∀ parents, (∀ p ∈ parents, ∀ slot ∈ slots, p.IsVacant slot) → ∀ w, ∃ result w', (op parents).on w = (.ok result, w') ∧
    ∀ n, List.Forall₂ (Record.Alike n) result (parents.map F)

theorem on_during_ok {x : Run σ α} {w w' : World σ} {a : α} (activity : Activity) (h : x.on w = (.ok a, w')) :
    (during activity x).on w = (.ok a, w') := by
  rw [on_during, h]

end Run

namespace Tables

variable (tables : Tables)

/-- The live rows whose column has a key. -/
def ofKey (m : Model) (deletion : Option String) (column : String) (key : Value) : List (String → Value) :=
  (tables.live m deletion).filter fun row => (row column).key.same key

variable {tables}

/-- Among the rows that were selected for some keys those with one of these keys are all that the table has. -/
theorem filter_select {m : Model} {deletion : Option String} {column : String} {keys : List Value} {key : Value}
    (h : ∃ k ∈ keys, k.same key = true) :
    (tables.select m deletion column keys).filter (fun row => (row column).key.same key) =
      tables.ofKey m deletion column key := by
  obtain ⟨k, hk, hsame⟩ := h
  rw [select, ofKey, List.filter_filter]
  refine List.filter_congr fun row _ => ?_
  cases hrow : (row column).key.same key with
  | false => rfl
  | true =>
    have hany : (keys.any fun k => k.same (row column).key) = true :=
      List.any_eq_true.mpr ⟨k, hk, Value.same_trans hsame (Value.same_symm hrow)⟩
    rw [hany]
    rfl

/-- The keys that a row of a join table pairs. -/
def pairOf (parent child : String) (row : String → Value) : Option (Value × Value) :=
  do some (← (row parent).key?, ← (row child).key?)

/-- The keys of a pair are those of the two columns. -/
theorem pairOf_eq_some {parent child : String} {row : String → Value} {p : Value × Value} (h : pairOf parent child row = some p) :
    (row parent).key? = some p.1 ∧ (row child).key? = some p.2 := by
  obtain ⟨k, hk, h⟩ := Option.bind_eq_some_iff.mp h
  obtain ⟨q, hq, h⟩ := Option.bind_eq_some_iff.mp h
  cases h
  exact ⟨hk, hq⟩

/-- The pairs of rows that were asked for. -/
theorem pairs_answerRow (parent child : String) (rows : List (String → Value)) :
    Link.pairs parent child (rows.map (answerRow [parent, child])) = .ok (rows.filterMap (pairOf parent child)) := by
  induction rows with
  | nil => rfl
  | cons row rows ih =>
    have hparent := column?_answerRow (List.mem_cons_self (a := parent) (l := [child])) row
    have hchild := column?_answerRow (List.mem_cons_of_mem parent (List.mem_singleton_self child)) row
    have hpair : Link.pair? parent child (answerRow [parent, child] row) = .ok (pairOf parent child row) := by
      unfold Link.pair?
      rw [hparent]
      change ((answerRow [parent, child] row).column? child >>= _) = _
      rw [hchild]
      rfl
    rw [List.map_cons, Link.pairs, hpair, ih, List.filterMap_cons]
    cases pairOf parent child row <;> rfl

/-- The pairs of a parent among those of the rows that were selected for some keys. -/
theorem filter_pairs {m : Model} {deletion : Option String} {parent child : String} {keys : List Value} {key : Value}
    (h : ∃ k ∈ keys, k.same key = true) :
    ((tables.select m deletion parent keys).filterMap (pairOf parent child)).filter (fun p => p.1.same key) =
      (tables.ofKey m deletion parent key).filterMap (pairOf parent child) := by
  rw [← filter_select h, List.filter_filterMap, List.filterMap_filter]
  refine List.filterMap_congr fun row _ => ?_
  cases hp : pairOf parent child row with
  | none => simp
  | some p =>
    obtain ⟨hkey, -⟩ := pairOf_eq_some hp
    have hparent := Value.key_of_key? hkey
    cases hsame : p.1.same key <;> simp [hparent, hsame]

end Tables

/-! ## Links -/

namespace Link

variable {σ : Type} {c : Connection σ} {tables : Tables} {slots : List String} {N : Record → Record}
  {resolveNested : List Record → Run σ (List Record)}

/-- Whether a record has a key depends on its values only. -/
theorem hasKey_eq_of_values {r s : Record} (h : r.values = s.values) (field : String) (key : Value) :
    hasKey field key r = hasKey field key s := by
  rw [hasKey, hasKey, Record.value?, Record.value?, h]

/-- The records that the tables have for a key, with what `N` makes of them. -/
def linked (c : Connection σ) (tables : Tables) (m : Model) (column : String) (N : Record → Record) (key : Value) :
    List Record :=
  (tables.ofKey m (c.deletionColumn? m) column key).map fun row => N (Tables.decoded m row)

/-- The pairs that the tables have for a key. -/
def linkedPairs (c : Connection σ) (tables : Tables) (m : Model) (parent child : String) (key : Value) :
    List (Value × Value) :=
  (tables.ofKey m (c.deletionColumn? m) parent key).filterMap (Tables.pairOf parent child)

/-- The children of each key for the pairs that a link through a join table has found. No pairs name no children to ask for. -/
def loadPaired (join : JoinTable) (c : Connection σ) (index : ReportIndex) (m : Model) (found : List (Value × Value))
    (resolveNested : List Record → Run σ (List Record)) : Run σ (Value → List Record) :=
  if (Value.distinct (found.map (·.2))).isEmpty then return fun _ => []
  else do
    let f ← Run.ofExcept m.requireOnePrimary
    let children ← Run.during (.loadingThrough m.name join.type.model.name)
      (load c index m f (Value.distinct (found.map (·.2))) resolveNested)
    return fun key => (found.filter fun p => p.1.same key).filterMap fun p => children.find? (hasKey f.name p.2)

/-- A link through a join table goes on with the pairs that it finds. -/
theorem on_loadJoined_of_pairs {join : JoinTable} {m : Model} {pf cf : Field} {keys : List Value} {q : Statement} {rows : List Row}
    {found : List (Value × Value)} {index : ReportIndex} {w w₁ : World σ} (hpf : join.type.model.requireField join.parent = .ok pf)
    (hcf : join.type.model.requireField join.child = .ok cf)
    (hq : c.scopedQuery join.type.model (c.dialect.find join.type.model [pf.column, cf.column])
      (.member false pf.column keys) {} = .ok q)
    (hrows : (c.fetch index q).on (Run.described join.type w) = (.ok rows, w₁))
    (hfound : pairs pf.column cf.column rows = .ok found) (resolveNested : List Record → Run σ (List Record)) :
    (loadJoined join c index m keys resolveNested).on w = (loadPaired join c index m found resolveNested).on w₁ := by
  have hhalt : Halt.ofAbort (pairs pf.column cf.column rows) = .ok found := by
    rw [hfound]
    rfl
  rw [loadJoined, Run.on_bind_ok (Run.on_model join.type w), hpf, Run.on_bind_ok (Run.on_ofExcept_ok pf _), hcf,
    Run.on_bind_ok (Run.on_ofExcept_ok cf _)]
  dsimp only
  rw [hq, Run.on_bind_ok (Run.on_ofExcept_ok q _), Run.on_bind_ok (Run.on_during_ok _ hrows), hhalt,
    Run.on_bind_ok (Run.on_ofHalt _ _)]
  rfl

section Children

variable {m : Model} {f : Field} (h : c.Readable tables m f) (hN : Record.Natural slots N)
  (hnested : Run.Maps slots N resolveNested)

include h hnested in
/-- The children of some keys are those of the selected rows, with their own relations resolved. -/
theorem on_load (index : ReportIndex) {keys : List Value} (hne : keys ≠ []) (hkeys : ∀ k ∈ keys, k.IsKey) (w : World σ) :
    ∃ children w', (load c index m f keys resolveNested).on w = (.ok children, w') ∧
      ∀ n, List.Forall₂ (Record.Alike n) children
        ((tables.select m (c.deletionColumn? m) f.column keys).map fun row => N (Tables.decoded m row)) := by
  obtain ⟨w₁, hrows⟩ := h.answers.on_findRows index hne hkeys w
  have hread := h.ofRows_eq (tables.select m (c.deletionColumn? m) f.column keys) fun _ => Tables.mem_of_mem_select
  have hvacant : ∀ p ∈ (tables.select m (c.deletionColumn? m) f.column keys).map (Tables.decoded m),
      ∀ slot ∈ slots, p.IsVacant slot := by
    intro p hp slot _
    obtain ⟨row, -, rfl⟩ := List.mem_map.mp hp
    exact Tables.isVacant_decoded m row slot
  obtain ⟨children, w₂, hchildren, halike⟩ := hnested _ hvacant w₁
  refine ⟨children, w₂, ?_, fun n => ?_⟩
  · rw [load, Run.on_bind_ok hrows, hread, Run.on_bind_ok (Run.on_ofHalt _ _)]
    exact hchildren
  · have h := halike n
    rw [List.map_map] at h
    exact h

include h hN in
/-- Among the children of some keys those with one of these keys are the ones that the tables have for it. -/
theorem alike_filter_hasKey {n : Nat} {keys : List Value} {children : List Record}
    (halike : List.Forall₂ (Record.Alike n) children
      ((tables.select m (c.deletionColumn? m) f.column keys).map fun row => N (Tables.decoded m row)))
    {key : Value} (hkey : ∃ k ∈ keys, k.same key = true) :
    List.Forall₂ (Record.Alike n) (children.filter (hasKey f.name key)) (linked c tables m f.column N key) := by
  have hfilter : ((tables.select m (c.deletionColumn? m) f.column keys).map fun row => N (Tables.decoded m row)).filter
      (hasKey f.name key) = linked c tables m f.column N key := by
    rw [List.filter_map, linked, ← Tables.filter_select hkey]
    congr 1
    refine List.filter_congr fun row hrow => ?_
    rw [Function.comp_apply, hasKey_eq_of_values (hN.values _), h.hasKey_decoded (Tables.mem_of_mem_select hrow)]
  rw [← hfilter]
  refine List.rel_filter ?_ halike
  intro r s hrs
  exact iff_of_eq (congrArg (· = true) (hasKey_eq_of_values hrs.values f.name key))

include h hN hnested in
/-- A link without a join table gives every key that was asked for the children that the tables have for it. -/
theorem on_loadDirect {link : Link} (hf : m.keyField link.childKey = .ok f) (index : ReportIndex) {keys : List Value}
    (hne : keys ≠ []) (hkeys : ∀ k ∈ keys, k.IsKey) (w : World σ) :
    ∃ childrenOf w', (link.loadDirect c index m keys resolveNested).on w = (.ok childrenOf, w') ∧
      ∀ key, (∃ k ∈ keys, k.same key = true) → ∀ n,
        List.Forall₂ (Record.Alike n) (childrenOf key) (linked c tables m f.column N key) := by
  obtain ⟨children, w', hload, halike⟩ := on_load h hnested index hne hkeys w
  refine ⟨fun key => children.filter (hasKey f.name key), w', ?_, fun key hkey n => ?_⟩
  · rw [loadDirect, hf, Run.on_bind_ok (Run.on_ofExcept_ok f w), Run.on_bind_ok hload]
    rfl
  · exact alike_filter_hasKey h hN (halike n) hkey

include h hN hnested in
/-- A link through a join table gives every key that was asked for the children that the tables have for its pairs: for each pair the
first one. -/
theorem on_loadJoined {join : JoinTable} {pf cf : Field} (hpf : join.type.model.requireField join.parent = .ok pf)
    (hcf : join.type.model.requireField join.child = .ok cf) (hf : m.requireOnePrimary = .ok f)
    (hpairs : c.Answers tables join.type.model [pf.column, cf.column] pf.column) (index : ReportIndex) {keys : List Value}
    (hne : keys ≠ []) (hkeys : ∀ k ∈ keys, k.IsKey) (w : World σ) :
    ∃ childrenOf w', (loadJoined join c index m keys resolveNested).on w = (.ok childrenOf, w') ∧
      ∀ key, (∃ k ∈ keys, k.same key = true) → ∀ n, List.Forall₂ (Record.Alike n) (childrenOf key)
        ((linkedPairs c tables join.type.model pf.column cf.column key).filterMap fun p =>
          (linked c tables m f.column N p.2).head?) := by
  obtain ⟨q, hq⟩ := Connection.exists_scopedQuery (c := c) join.type.model
    (c.dialect.find join.type.model [pf.column, cf.column]) pf.column hne
  obtain ⟨w₁, hrows⟩ := hpairs.on_fetch index hne hkeys hq (Run.described join.type w)
  let found := (tables.select join.type.model (c.deletionColumn? join.type.model) pf.column keys).filterMap
    (Tables.pairOf pf.column cf.column)
  have hfound : pairs pf.column cf.column ((tables.select join.type.model
      (c.deletionColumn? join.type.model) pf.column keys).map (Tables.answerRow [pf.column, cf.column])) = .ok found :=
    Tables.pairs_answerRow ..
  have hof : ∀ key, (∃ k ∈ keys, k.same key = true) →
      found.filter (fun p => p.1.same key) = linkedPairs c tables join.type.model pf.column cf.column key :=
    fun key hkey => Tables.filter_pairs hkey
  rw [on_loadJoined_of_pairs hpf hcf hq hrows hfound, loadPaired]
  by_cases hempty : (Value.distinct (found.map (·.2))).isEmpty = true
  · rw [if_pos hempty]
    have hnone : found = [] := by
      simpa [Value.distinct_eq_nil_iff] using hempty
    refine ⟨fun _ => [], w₁, rfl, fun key hkey n => ?_⟩
    rw [← hof key hkey, hnone]
    exact .nil
  · rw [if_neg hempty]
    have hwanted : ∀ k ∈ Value.distinct (found.map (·.2)), k.IsKey := by
      intro k hk
      obtain ⟨p, hp, rfl⟩ := List.mem_map.mp (Value.mem_of_mem_distinct hk)
      obtain ⟨row, -, hrow⟩ := List.mem_filterMap.mp hp
      exact ⟨row cf.column, (Tables.pairOf_eq_some hrow).2⟩
    obtain ⟨children, w₂, hload, halike⟩ := on_load h hnested index (by simpa using hempty) hwanted w₁
    refine ⟨fun key => (found.filter fun p => p.1.same key).filterMap fun p => children.find? (hasKey f.name p.2), w₂, ?_,
      fun key hkey n => ?_⟩
    · rw [hf, Run.on_bind_ok (Run.on_ofExcept_ok f _), Run.on_bind_ok (Run.on_during_ok _ hload)]
      rfl
    · dsimp only
      rw [hof key hkey]
      refine forall₂_filterMap fun p hp => ?_
      rw [← hof key hkey] at hp
      -- the first child with a key is the first of all children with it
      rw [← List.head?_filter]
      exact rel_head? (alike_filter_hasKey h hN (halike n)
        (Value.exists_distinct_same (List.mem_map_of_mem (List.mem_filter.mp hp).1)))

end Children

end Link

end RecordSql
