import RecordSql.Proofs.Session.Steps

/-!
# What relations ask

A relation asks for its children by the values of one column, and so for the rows of its join table; the relations of the children
ask in turn. `Relation.Asks` lists these queries. `Relation.leads_preload` says that resolving relations takes no steps but those of the
queries, whatever is observed of the steps, and so it sends nothing else (`Relation.sends_preload`).
-/

namespace RecordSql

/-- The queries of a relation: the model, the columns and the search of each. -/
inductive Relation.Asks : Relation → Model → List String → Condition → Prop
  /-- The children with one of some keys. -/
  | children {link : Link} {nested : List Relation} (field : Field) {keys : List Value} (hkeys : keys ≠ []) :
      Asks (.mk link nested) link.child.model link.child.model.columns (.member false field.column keys)
  /-- The pairs of the join table for some parents. -/
  | pairs {link : Link} {nested : List Relation} {join : JoinTable} (hjoin : link.join = some join) (parent child : Field)
      {keys : List Value} (hkeys : keys ≠ []) :
      Asks (.mk link nested) join.type.model [parent.column, child.column] (.member false parent.column keys)
  /-- What the relations of the children ask. -/
  | nested {link : Link} {nested : List Relation} {r : Relation} {m : Model} {columns : List String} {search : Condition}
      (hr : r ∈ nested) (h : Asks r m columns search) : Asks (.mk link nested) m columns search

/-- The statements that are sent for the queries of some relations. -/
def Relation.Sent {σ : Type} (c : Connection σ) (relations : List Relation) (s : Statement) : Prop :=
  ∃ r ∈ relations, ∃ m columns search q, r.Asks m columns search ∧
    c.scopedQuery m (c.dialect.find m columns) search {} = .ok q ∧ s = c.dialect.finish q

namespace Link

variable {σ : Type} {P : Statement → Prop} {R : World σ → World σ → Prop} {c : Connection σ} (hR : Run.Steps c P R) {link : Link}
  (index : ReportIndex) {resolveNested : List Record → Run σ (List Record)}

/-- What a link asks for the children of the keys of its parents, when the keys are not none. -/
structure Asking (link : Link) (c : Connection σ) (P : Statement → Prop) : Prop where
  children : ∀ (field : Field) (keys : List Value), keys ≠ [] → ∀ q,
    c.scopedQuery link.child.model (c.dialect.find link.child.model link.child.model.columns)
      (.member false field.column keys) {} = .ok q → P q
  pairs : ∀ join, link.join = some join → ∀ (parent child : Field) (keys : List Value), keys ≠ [] → ∀ q,
    c.scopedQuery join.type.model (c.dialect.find join.type.model [parent.column, child.column])
      (.member false parent.column keys) {} = .ok q → P q

include hR

/-- Loading the children of some keys asks for them, and for what their relations ask. -/
theorem leads_load (m : Model) (field : Field) (keys : List Value) (hnested : ∀ children, Run.Leads R (resolveNested children))
    (h : ∀ q, c.scopedQuery m (c.dialect.find m m.columns) (.member false field.column keys) {} = .ok q → P q) :
    Run.Leads R (load c index m field keys resolveNested) := by
  refine .bind hR.toIsTrail (hR.findRows index m _ _ h) fun rows => ?_
  exact .bind hR.toIsTrail (.ofHalt hR.toIsTrail _) hnested

theorem Asking.loadDirect (h : Asking link c P) (keys : List Value) (hkeys : keys ≠ [])
    (hnested : ∀ children, Run.Leads R (resolveNested children)) :
    Run.Leads R (link.loadDirect c index link.child.model keys resolveNested) := by
  refine .ofExcept_bind hR.toIsTrail fun field _ => ?_
  refine .bind hR.toIsTrail (leads_load hR index _ field keys hnested (h.children field keys hkeys)) fun _ => ?_
  exact .pure hR.toIsTrail _

theorem Asking.loadJoined (h : Asking link c P) (join : JoinTable) (hjoin : link.join = some join) (keys : List Value)
    (hkeys : keys ≠ []) (hnested : ∀ children, Run.Leads R (resolveNested children)) :
    Run.Leads R (Link.loadJoined join c index link.child.model keys resolveNested) := by
  have ht := hR.toIsTrail
  refine hR.model_bind ?_
  refine .ofExcept_bind ht fun parentField _ => ?_
  refine .ofExcept_bind ht fun childField _ => ?_
  refine .ofExcept_bind ht fun q hq => ?_
  refine .bind ht (.during _ (hR.fetch index (h.pairs join hjoin parentField childField keys hkeys q hq))) fun rows => ?_
  refine .bind ht (.ofHalt ht _) fun found => ?_
  dsimp only
  split
  · exact .pure ht _
  · rename_i hwanted
    refine .ofExcept_bind ht fun keyField _ => ?_
    refine .bind ht (.during _ ?_) fun _ => .pure ht _
    exact leads_load hR index _ keyField _ hnested (h.children keyField _ (by simpa using hwanted))

theorem Asking.tryResolve (h : Asking link c P) (parentType : RecordType)
    (hnested : ∀ children, Run.Leads R (resolveNested children)) (parents : List Record) :
    Run.Leads R (link.tryResolve c parentType index resolveNested parents) := by
  have ht := hR.toIsTrail
  refine hR.model_bind ?_
  refine hR.model_bind ?_
  refine .ofExcept_bind ht fun field _ => ?_
  dsimp only
  split
  · refine .bind ht (hR.writeLog fun line hline => ?_) fun _ => .pure ht _
    rw [List.mem_singleton.mp hline]
    exact .keyless _ _
  · rename_i hkeys
    have hne := fun heq => hkeys (List.isEmpty_iff.mpr heq)
    split
    · exact .bind ht (h.loadDirect hR index _ hne hnested) fun _ => .pure ht _
    · rename_i join hjoin
      exact .bind ht (h.loadJoined hR index join hjoin _ hne hnested) fun _ => .pure ht _

/-- A link asks what it asks for its children and its pairs, and what is asked for its children. -/
theorem Asking.resolve (h : Asking link c P) (parentType : RecordType)
    (hnested : ∀ children, Run.Leads R (resolveNested children)) (parents : List Record) :
    Run.Leads R (link.resolve c parentType index resolveNested parents) := by
  have ht := hR.toIsTrail
  refine .bind ht (.attempt (h.tryResolve hR index parentType hnested parents)) fun result => ?_
  cases result with
  | ok resolved => exact .pure ht _
  | error f => exact .bind ht (hR.recordFailure _ _) fun _ => .pure ht _

end Link

namespace Relation

variable {σ : Type} {P : Statement → Prop} {R : World σ → World σ → Prop} {c : Connection σ}

theorem leads_unlessNone (ht : Run.IsTrail R) {resolveAll : List Record → Run σ (List Record)}
    (h : ∀ parents, Run.Leads R (resolveAll parents)) (parents : List Record) : Run.Leads R (unlessNone resolveAll parents) := by
  unfold unlessNone
  split
  · exact .pure ht _
  · exact h parents

/-- The statements that are built for the queries of a relation satisfy `P`. -/
def Asking (c : Connection σ) (P : Statement → Prop) (r : Relation) : Prop :=
  ∀ m columns search q, r.Asks m columns search → c.scopedQuery m (c.dialect.find m columns) search {} = .ok q → P q

theorem Asking.link {link : Link} {nested : List Relation} (h : Asking c P (.mk link nested)) : Link.Asking link c P where
  children field _ hkeys q hq := h _ _ _ q (.children field hkeys) hq
  pairs _ hjoin parent child _ hkeys q hq := h _ _ _ q (.pairs hjoin parent child hkeys) hq

theorem Asking.nested {link : Link} {nested : List Relation} (h : Asking c P (.mk link nested)) :
    ∀ r ∈ nested, Asking c P r :=
  fun _ hr _ _ _ q hasks hq => h _ _ _ q (.nested hr hasks) hq

section Leads

variable (hR : Run.Steps c P R)

include hR

mutual

/-- Resolving a relation takes the steps for its queries and no others. -/
theorem Asking.resolve (parentType : RecordType) (index : ReportIndex) :
    ∀ (r : Relation) (parents : List Record), Asking c P r → Run.Leads R (Relation.resolve c parentType index r parents)
  | .mk link nested, parents, h => by
    unfold Relation.resolve
    refine h.link.resolve hR index parentType ?_ parents
    exact leads_unlessNone hR.toIsTrail fun children => Asking.resolveFrom link.child index 0 nested children h.nested

/-- Resolving relations takes the steps for their queries and no others. -/
theorem Asking.resolveFrom (parentType : RecordType) (index : ReportIndex) (i : Nat) :
    ∀ (rs : List Relation) (parents : List Record), (∀ r ∈ rs, Asking c P r) →
      Run.Leads R (Relation.resolveFrom c parentType index i rs parents)
  | [], parents, _ => by
    unfold Relation.resolveFrom
    exact .pure hR.toIsTrail _
  | r :: rs, parents, h => by
    unfold Relation.resolveFrom
    refine .bind hR.toIsTrail (Asking.resolve parentType (index.child i) r parents (h r (List.mem_cons_self ..))) fun parents => ?_
    exact Asking.resolveFrom parentType index (i + 1) rs parents fun r hr => h r (List.mem_cons_of_mem _ hr)

end

/-- Resolving relations for records takes the steps for the queries of these relations and no others. -/
theorem leads_preload (parentType : RecordType) (index : ReportIndex) (relations : List Relation) (parents : List Record)
    (h : ∀ r ∈ relations, Asking c P r) : Run.Leads R (preload c parentType index relations parents) :=
  leads_unlessNone hR.toIsTrail (fun parents => Asking.resolveFrom hR parentType index 0 relations parents h) parents

end Leads

/-- Resolving relations for records sends the statements for the queries of these relations and no others. -/
theorem sends_preload (c : Connection σ) (parentType : RecordType) (index : ReportIndex) (relations : List Relation)
    (parents : List Record) :
    Run.Sends (Relation.Sent c relations) (preload c parentType index relations parents) := by
  refine leads_preload (Run.steps_sent fun _ hq => hq) parentType index relations parents ?_
  intro r hr m columns search q hasks hq
  exact ⟨r, hr, m, columns, search, q, hasks, hq, rfl⟩

end Relation

end RecordSql
