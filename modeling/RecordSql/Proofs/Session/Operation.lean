import RecordSql.Proofs.Dialect.Alignment
import RecordSql.Proofs.Session.Asks

/-!
# Operations

`Session.Operation` lists what a session can be asked to do to its database, and `Builds` the statements that each operation builds.
An operation takes no steps but those that build these statements, whatever is observed of the steps (`leads_run`). So a fact that holds
across every step holds for all operations at once.
-/

namespace RecordSql

/-- The statements that are built for the queries of some relations. -/
def Relation.Builds {σ : Type} (c : Connection σ) (relations : List Relation) (s : Statement) : Prop :=
  ∃ r ∈ relations, ∃ m columns search, r.Asks m columns search ∧ c.scopedQuery m (c.dialect.find m columns) search {} = .ok s

namespace Session

/-- What a session can be asked to do to its database, by the type of the results. -/
inductive Operation : Type → Type 1
  | createTable (t : RecordType) (ifNotExists : Bool) : Operation Unit
  | dropTable (t : RecordType) (ifExists : Bool) : Operation Unit
  | hasTable (t : RecordType) : Operation Bool
  | insert (t : RecordType) (r : Record) : Operation (Option Int)
  | insertMany (t : RecordType) (rs : List Record) : Operation (Outcome (List (Option Int)))
  | replace (t : RecordType) (r : Record) : Operation RowsAffected
  | update (t : RecordType) (r : Record) : Operation RowsAffected
  | delete (now : OffsetTimestamp) (t : RecordType) (r : Record) : Operation RowsAffected
  | find (t : RecordType) (request : Find) : Operation (Outcome (List Record))
  | count (t : RecordType) (search : Condition) : Operation Int
  | execute (s : Statement) : Operation RowsAffected
  | fetch (s : Statement) : Operation (List Row)
  | addForeignKey (t related : RecordType) (field : String) : Operation Unit
  | dropForeignKey (t : RecordType) (field : String) : Operation Unit

namespace Operation

variable {σ α : Type} (c : Connection σ)

/-- What a session does when it is asked. -/
def run : Operation α → Run σ α
  | .createTable t ifNotExists => Session.createTable c t ifNotExists
  | .dropTable t ifExists => Session.dropTable c t ifExists
  | .hasTable t => Session.hasTable c t
  | .insert t r => Session.insert c t r
  | .insertMany t rs => Session.insertMany c t rs
  | .replace t r => Session.replace c t r
  | .update t r => Session.update c t r
  | .delete now t r => Session.delete c now t r
  | .find t request => Session.find c t request
  | .count t search => Session.count c t search
  | .execute s => Session.execute c s
  | .fetch s => Session.fetch c s
  | .addForeignKey t related field => Session.addForeignKey c t related field
  | .dropForeignKey t field => Session.dropForeignKey c t field

/-- The statements that an operation builds, or was given. -/
def Builds : Operation α → Statement → Prop
  | .createTable t ifNotExists, s => ∃ ss, (c.dialect.createTable t.model true ifNotExists).outcome.1 = .ok ss ∧ s ∈ ss
  | .dropTable t ifExists, s => s = c.dialect.dropTable t.model ifExists
  | .hasTable t, s => s = c.dialect.hasTable t.model
  | .insert t r, s => insertStatement c.dialect t.model r = .ok s
  | .insertMany t rs, s => ∃ r ∈ rs, insertStatement c.dialect t.model r = .ok s
  | .replace t r, s => ∃ replaced, replacement c.dialect t.model r = .ok replaced ∧ s ∈ replaced.statements
  | .update t r, s => updateStatement c.dialect t.model r = .ok s
  | .delete now t r, s => deleteStatement c.dialect c.config now t.model r = .ok s
  | .find t request, s =>
    c.scopedQuery t.model (c.dialect.find t.model t.model.columns) request.search request.clauses = .ok s ∨
      Relation.Builds c request.relations s
  | .count t search, s => c.scopedQuery t.model (c.dialect.count t.model) search {} = .ok s
  | .execute given, s => s = given
  | .fetch given, s => s = given
  | .addForeignKey t related field, s => c.dialect.addForeignKey t.model related.model field = .ok s
  | .dropForeignKey t field, s => c.dialect.dropForeignKey t.model field = .ok s

end Operation

section Leads

variable {σ α : Type} {c : Connection σ} {P : Statement → Prop} {R : World σ → World σ → Prop} (hR : Run.Steps c P R)

include hR

theorem leads_insertAt (index : ReportIndex) (t : RecordType) (r : Record)
    (h : ∀ s, insertStatement c.dialect t.model r = .ok s → P s) : Run.Leads R (insertAt c index t r) := by
  have ht := hR.toIsTrail
  refine hR.model_bind (.ofExcept_bind ht fun s hs => ?_)
  split
  · refine .bind ht (hR.fetch index (h s hs)) fun rows => ?_
    cases firstValue? rows with
    | none => exact .fail ht _
    | some v => exact .bind ht (.ofExcept ht _) fun _ => .pure ht _
  · exact .bind ht (hR.execute index (h s hs)) fun _ => .pure ht _

theorem leads_insertFrom (t : RecordType) (i : Nat) (rs : List Record)
    (h : ∀ r ∈ rs, ∀ s, insertStatement c.dialect t.model r = .ok s → P s) : Run.Leads R (insertFrom c t i rs) := by
  have ht := hR.toIsTrail
  induction rs generalizing i with
  | nil => exact .pure ht _
  | cons r rs ih =>
    have hrest := ih (i + 1) fun r hr => h r (List.mem_cons_of_mem _ hr)
    refine .bind ht (.attempt (leads_insertAt hR (.item i) t r (h r (List.mem_cons_self ..)))) fun result => ?_
    cases result with
    | ok id => exact .bind ht (.pure ht _) fun _ => .bind ht hrest fun _ => .pure ht _
    | error f => exact .bind ht (hR.recordFailure _ _) fun _ => .bind ht (.pure ht _) fun _ => .bind ht hrest fun _ => .pure ht _

theorem leads_executeFrom (i : Nat) (ss : List Statement) (h : ∀ s ∈ ss, P s) : Run.Leads R (executeFrom c i ss) := by
  have ht := hR.toIsTrail
  induction ss generalizing i with
  | nil => exact .pure ht _
  | cons s ss ih =>
    refine .bind ht (.bind ht (hR.execute (.item i) (h s (List.mem_cons_self ..))) fun _ => .pure ht _) fun _ => ?_
    exact ih (i + 1) fun s hs => h s (List.mem_cons_of_mem _ hs)

end Leads

/-- What follows the start of an operation runs in a world with an empty report. -/
theorem leads_start {σ α : Type} {R : World σ → World σ → Prop} {x : Unit → Run σ α} (h : Run.Leads R (x ())) (w : World σ) :
    R { w with report := {} } ((start >>= x).on w).2 :=
  h _

namespace Operation

variable {σ α : Type} {c : Connection σ} {R : World σ → World σ → Prop}

/-- An operation takes no steps but those that send the statements it builds. -/
theorem leads_run (op : Operation α) (hR : Run.Steps c (op.Builds c) R) (w : World σ) :
    R { w with report := {} } ((op.run c).on w).2 := by
  have ht := hR.toIsTrail
  cases op with
  | createTable t ifNotExists =>
    refine leads_start (hR.model_bind (hR.logged_bind (fun _ hline => .columns _ _ hline) fun ss hss => ?_)) w
    exact leads_executeFrom hR 0 ss fun s hs => ⟨ss, hss, hs⟩
  | dropTable t ifExists =>
    exact leads_start (hR.model_bind (.bind ht (hR.execute _ rfl) fun _ => .pure ht _)) w
  | hasTable t =>
    refine leads_start (hR.model_bind (.bind ht (hR.fetch _ rfl) fun rows => ?_)) w
    cases firstValue? rows with
    | none => exact .pure ht _
    | some v => exact .bind ht (.ofExcept ht _) fun _ => .pure ht _
  | insert t r => exact leads_start (leads_insertAt hR .root t r fun _ hs => hs) w
  | insertMany t rs =>
    refine leads_start (.bind ht (leads_insertFrom hR t 0 rs fun r hr _ hs => ⟨r, hr, hs⟩) fun ids => ?_) w
    exact .bind ht (.of_same ht fun _ => rfl) fun _ => .pure ht _
  | replace t r =>
    refine leads_start (hR.model_bind (.ofExcept_bind ht fun replaced h => ?_)) w
    have hbuilds : ∀ s ∈ replaced.statements, (Operation.replace t r).Builds c s := fun s hs => ⟨replaced, h, hs⟩
    cases replaced with
    | statement s => exact hR.execute _ (hbuilds s (by simp [Replacement.statements]))
    | updateElseInsert update insert =>
      refine .bind ht (hR.execute _ (hbuilds update (by simp [Replacement.statements]))) fun updated => ?_
      split
      · exact hR.execute _ (hbuilds insert (by simp [Replacement.statements]))
      · exact .pure ht _
      · exact .fail ht _
  | update t r => exact leads_start (hR.model_bind (.ofExcept_bind ht fun _ hs => hR.execute _ hs)) w
  | delete now t r => exact leads_start (hR.model_bind (.ofExcept_bind ht fun _ hs => hR.execute _ hs)) w
  | find t request =>
    refine leads_start (hR.model_bind (.bind ht (hR.findRows _ _ _ _ fun q hq => .inl hq) fun rows => ?_)) w
    refine .bind ht (.ofHalt ht _) fun records => .bind ht ?_ fun _ => .bind ht (.of_same ht fun _ => rfl) fun _ => .pure ht _
    refine Relation.leads_preload hR t .root request.relations records ?_
    exact fun r hr m columns search q hasks hq => .inr ⟨r, hr, m, columns, search, hasks, hq⟩
  | count t search =>
    refine leads_start (hR.model_bind (.ofExcept_bind ht fun _ hs => .bind ht (hR.fetch _ hs) fun rows => ?_)) w
    cases firstValue? rows with
    | none => exact .pure ht _
    | some v => exact .bind ht (.ofExcept ht _) fun _ => .pure ht _
  | execute s => exact leads_start (hR.execute _ rfl) w
  | fetch s => exact leads_start (hR.fetch _ rfl) w
  | addForeignKey t related field =>
    refine leads_start (hR.model_bind (hR.model_bind (.ofExcept_bind ht fun _ hs => ?_))) w
    exact .bind ht (hR.execute _ hs) fun _ => .pure ht _
  | dropForeignKey t field =>
    refine leads_start (hR.model_bind (.ofExcept_bind ht fun _ hs => ?_)) w
    exact .bind ht (hR.execute _ hs) fun _ => .pure ht _

/-- What an operation sends are the finished forms of the statements that it builds. -/
theorem sends_run {Q : Statement → Prop} (op : Operation α) (h : ∀ s, op.Builds c s → Q (c.dialect.finish s)) :
    Run.Sends Q (op.run c) :=
  fun w => op.leads_run (Run.steps_sent h) w

end Operation

end Session

end RecordSql
