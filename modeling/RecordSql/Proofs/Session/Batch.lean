import RecordSql.Proofs.Report.Preorder
import RecordSql.Proofs.Session.Enters
import RecordSql.Proofs.Session.Scope

/-!
# Batches of inserts

Inserting records in a batch comes to the same as inserting them one by one and going on after faults (`Session.insertEach`): what an
insert does depends on the state of the executor only and not on its position (`Session.exists_inserts`), so the statements, the state of
the executor and the keys are those of the single inserts, and the report of the batch is put together from theirs (`insertMany_each`).
-/

namespace RecordSql

/-- A single insert: the key that the database generated or the fault, and the report. -/
abbrev SingleInsert := Outcome (Except Fault (Option Int))

namespace SingleInsert

/-- The key that the database generated. A failed insert has none. -/
def id? (single : SingleInsert) : Option Int :=
  match single.value with
  | .ok id => id
  | .error _ => none

/-- The entries of a single insert as those of item `i`. -/
def entriesOf (single : SingleInsert) (i : Nat) : List Entry :=
  single.report.entries.map fun e => { e with index := .item i }

/-- The failure of item `i`, with the message of its fault, if the single insert failed. -/
def failuresOf (single : SingleInsert) (library : ReadingLibrary) (i : Nat) : List Failure :=
  match single.value with
  | .ok _ => []
  | .error f => [⟨.item i, f.message library⟩]

end SingleInsert

namespace Session

variable {σ : Type} (c : Connection σ) (t : RecordType)

/-- Inserts records one by one, each with an operation of its own, and goes on after faults. -/
def insertEach : List Record → Run σ (List SingleInsert)
  | [] => return []
  | r :: rs => do
    let result ← Run.attempt (insert c t r)
    let single : SingleInsert := ⟨result, ← report⟩
    return single :: (← insertEach rs)

/-- Whether the insert of a record can be built. -/
def isBuilt (r : Record) : Bool :=
  (insertStatement c.dialect t.model r).isOk

/-! ## One insert -/

/-- The key that an insert gives when the database answers with the given replies. -/
def generatedKey (replies : List Reply) : Except Fault (Option Int) :=
  if returnsKey c.dialect t.model then
    match firstValue? (replies.filterMap Reply.row?) with
    | none => .error (.keyNotReturned t.model.name)
    | some v => (v.toInteger .int64).map fun n => some n.1
  else .ok (RowsAffected.extend {} (replies.filterMap Reply.affected?)).lastId

/-- An insert that cannot be built sends nothing. -/
theorem on_insertAt_error {r : Record} {f : Fault} (h : insertStatement c.dialect t.model r = .error f) (index : ReportIndex)
    (w : World σ) : (insertAt c index t r).on w = (.error (.failed f), Run.described t w) := by
  rw [insertAt, Run.on_bind_ok (Run.on_model t w), h, Run.on_bind, Run.on_ofExcept_error]

/-- An insert that can be built is one step, and gives the key of its replies. -/
theorem on_insertAt_ok {r : Record} {s : Statement} (h : insertStatement c.dialect t.model r = .ok s) (index : ReportIndex)
    (w : World σ) :
    (insertAt c index t r).on w =
      (((c.sendStep index s (Run.described t w)).1.bind (generatedKey c t)).mapError .failed,
        (c.sendStep index s (Run.described t w)).2) := by
  rw [insertAt, Run.on_bind_ok (Run.on_model t w), h, Run.on_bind_ok (Run.on_ofExcept_ok s _)]
  unfold generatedKey
  split
  · rw [Run.on_bind, Connection.on_fetch]
    cases (c.sendStep index s (Run.described t w)).1 with
    | error f => rfl
    | ok replies =>
      dsimp only [Except.mapError, Except.map, Except.bind]
      cases firstValue? (replies.filterMap Reply.row?) with
      | none => rfl
      | some v =>
        dsimp only
        rw [Run.on_bind]
        cases v.toInteger .int64 <;> rfl
  · rw [Run.on_bind, Connection.on_execute]
    cases (c.sendStep index s (Run.described t w)).1 <;> rfl

/-- What inserting a record does in every world whose executor is in a given state, and from every position. -/
structure Inserts (r : Record) (executor : σ) (single : SingleInsert) (after : σ) : Prop where
  built : single.report.entries.map (·.index) = if isBuilt c t r then [.root] else []
  clean : single.report.failures = []
  runs : ∀ index w, w.executor = executor → ∃ w', (Run.attempt (insertAt c index t r)).on w = (.ok single.value, w') ∧
    w'.executor = after ∧ Run.Enters w w' (single.report.entries.map fun e => { e with index }) []

/-- What inserting a record does depends on the state of the executor only. -/
theorem exists_inserts (r : Record) (executor : σ) : ∃ single after, Inserts c t r executor single after := by
  cases h : insertStatement c.dialect t.model r with
  | error f =>
    refine ⟨⟨.error f, {}⟩, executor, ?_, rfl, fun index w hw => ⟨Run.described t w, ?_, ?_, .described t w⟩⟩
    · rw [isBuilt, h]
      rfl
    · exact Run.on_attempt_of_mapError (r := .error f) (on_insertAt_error c t h index w)
    · rw [Run.executor_described, hw]
  | ok s =>
    let start : World σ := { executor }
    let step := c.sendStep .root s start
    have hstart : ∀ w : World σ, w.executor = executor → (Run.described t w).executor = start.executor := by
      intro w hw
      rw [Run.executor_described, hw]
    refine ⟨⟨step.1.bind (generatedKey c t), { entries := [c.entry .root s start] }⟩, step.2.executor, ?_, rfl,
      fun index w hw => ⟨(c.sendStep index s (Run.described t w)).2, ?_, ?_, ?_⟩⟩
    · rw [isBuilt, h]
      rfl
    · rw [← (c.sendStep_alike index s (hstart w hw) .root).1]
      exact Run.on_attempt_of_mapError (on_insertAt_ok c t h index w)
    · exact (c.sendStep_alike index s (hstart w hw) .root).2
    · have henters := (Run.Enters.described t w).trans (c.enters_sendStep index s (Run.described t w))
      rw [c.entry_alike index s (hstart w hw) .root] at henters
      exact henters

/-! ## One insert after the other -/

/-- What inserting records one after the other does, for an executor in a given state. -/
inductive InsertsEach : List Record → σ → List SingleInsert → σ → Prop
  | nil (executor : σ) : InsertsEach [] executor [] executor
  | cons {r : Record} {rs : List Record} {executor next after : σ} {single : SingleInsert} {singles : List SingleInsert}
      (first : Inserts c t r executor single next) (rest : InsertsEach rs next singles after) :
      InsertsEach (r :: rs) executor (single :: singles) after

variable {c t}

theorem exists_insertsEach (rs : List Record) (executor : σ) : ∃ singles after, InsertsEach c t rs executor singles after := by
  induction rs generalizing executor with
  | nil => exact ⟨[], executor, .nil executor⟩
  | cons r rs ih =>
    obtain ⟨single, next, hfirst⟩ := exists_inserts c t r executor
    obtain ⟨singles, after, hrest⟩ := ih next
    exact ⟨single :: singles, after, .cons hfirst hrest⟩

/-- The entries of a single insert are those of the root. -/
theorem Inserts.index_eq_root {r : Record} {executor after : σ} {single : SingleInsert} (h : Inserts c t r executor single after) :
    ∀ e ∈ single.report.entries, e.index = .root := by
  intro e he
  have hmem := List.mem_map_of_mem (f := (·.index)) he
  rw [h.built] at hmem
  split at hmem
  · exact List.mem_singleton.mp hmem
  · cases hmem

section Runs

variable {r : Record} {rs : List Record} {executor after : σ} {single : SingleInsert} {singles : List SingleInsert}

/-- An insert by itself gives its result, and leaves its own report. -/
theorem Inserts.on_insert (h : Inserts c t r executor single after) {w : World σ} (hw : w.executor = executor) :
    ∃ w', (Run.attempt (insert c t r)).on w = (.ok single.value, w') ∧ w'.executor = after ∧ w'.report = single.report ∧
      w'.sent = w.sent ++ single.report.entries.map Entry.statement := by
  obtain ⟨w', hrun, hafter, henters⟩ := h.runs .root { w with report := {} } hw
  have hroot : single.report.entries.map (fun e => { e with index := .root }) = single.report.entries := by
    refine (List.map_congr_left fun e he => ?_).trans (List.map_id _)
    rw [← h.index_eq_root e he]
    rfl
  rw [hroot] at henters
  refine ⟨w', ?_, hafter, ?_, henters.sent⟩
  · rw [insert, Run.on_attempt, Run.on_bind, Run.on_start, ← Run.on_attempt]
    exact hrun
  · calc
      w'.report = ⟨w'.report.entries, w'.report.failures⟩ := rfl
      _ = ⟨single.report.entries, single.report.failures⟩ := by rw [henters.entered, henters.failed, h.clean]; rfl

/-- Inserting records one by one gives the single inserts. -/
theorem InsertsEach.on_insertEach (h : InsertsEach c t rs executor singles after) {w : World σ} (hw : w.executor = executor) :
    ∃ w', (insertEach c t rs).on w = (.ok singles, w') ∧ w'.executor = after ∧
      w'.sent = w.sent ++ singles.flatMap fun single => single.report.entries.map Entry.statement := by
  induction h generalizing w with
  | nil => exact ⟨w, rfl, hw, (List.append_nil _).symm⟩
  | @cons r rs executor next after single singles hfirst _ ih =>
    obtain ⟨w₁, hrun, hnext, hreport, hsent⟩ := hfirst.on_insert hw
    obtain ⟨w₂, hrest, hafter, hmore⟩ := ih hnext
    refine ⟨w₂, ?_, hafter, ?_⟩
    · have hown : (Session.report : Run σ Report).on w₁ = (.ok single.report, w₁) := by rw [← hreport]; rfl
      rw [insertEach, Run.on_bind_ok hrun, Run.on_bind_ok hown, Run.on_bind_ok hrest]
      rfl
    · rw [hmore, hsent, List.flatMap_cons, List.append_assoc]

/-- A batch goes on after its first item, with the failure of that item if it failed. -/
theorem Inserts.on_insertFrom_cons (h : Inserts c t r executor single after) (rs : List Record) (i : Nat) {w : World σ}
    (hw : w.executor = executor) :
    ∃ w₁, w₁.executor = after ∧ Run.Enters w w₁ (single.entriesOf i) (single.failuresOf c.library i) ∧
      ∀ ids w₂, (insertFrom c t (i + 1) rs).on w₁ = (.ok ids, w₂) →
        (insertFrom c t i (r :: rs)).on w = (.ok (single.id? :: ids), w₂) := by
  obtain ⟨w₁, hrun, hafter, henters⟩ := h.runs (.item i) w hw
  unfold SingleInsert.failuresOf SingleInsert.id?
  rw [insertFrom, Run.on_bind_ok hrun]
  cases single.value with
  | ok id =>
    refine ⟨w₁, hafter, henters, fun ids w₂ hrest => ?_⟩
    dsimp only
    rw [pure_bind, Run.on_bind_ok hrest]
    rfl
  | error f =>
    let record : Run σ Unit := Run.recordFailure (.item i) (f.message c.library)
    refine ⟨(record.on w₁).2, hafter, ?_, fun ids w₂ hrest => ?_⟩
    · have hfailed := henters.trans (.fail (.item i) (f.message c.library) w₁)
      rwa [List.append_nil] at hfailed
    · have hrecord : record.on w₁ = (.ok (), (record.on w₁).2) := rfl
      dsimp only
      rw [Run.on_bind_ok hrecord, pure_bind, Run.on_bind_ok hrest]
      rfl

/-- Inserting records in a batch gives the keys of the single inserts, and enters what they entered and their faults. -/
theorem InsertsEach.on_insertFrom (h : InsertsEach c t rs executor singles after) (i : Nat) {w : World σ}
    (hw : w.executor = executor) :
    ∃ w', (insertFrom c t i rs).on w = (.ok (singles.map SingleInsert.id?), w') ∧ w'.executor = after ∧
      Run.Enters w w' ((singles.zipIdx i).flatMap fun p => p.1.entriesOf p.2)
        ((singles.zipIdx i).flatMap fun p => p.1.failuresOf c.library p.2) := by
  induction h generalizing i w with
  | nil => exact ⟨w, rfl, hw, .refl w⟩
  | @cons r rs executor next after single singles hfirst _ ih =>
    obtain ⟨w₁, hnext, henters, hcons⟩ := hfirst.on_insertFrom_cons rs i hw
    obtain ⟨w₂, hrest, hafter, hmore⟩ := ih (i + 1) hnext
    exact ⟨w₂, hcons _ _ hrest, hafter, henters.trans hmore⟩

theorem InsertsEach.length_eq (h : InsertsEach c t rs executor singles after) : singles.length = rs.length := by
  induction h with
  | nil => rfl
  | cons _ _ ih => rw [List.length_cons, List.length_cons, ih]

/-- The entries of a batch stand at the items whose inserts can be built, one each. -/
theorem InsertsEach.map_index (h : InsertsEach c t rs executor singles after) (i : Nat) :
    ((singles.zipIdx i).flatMap fun p => p.1.entriesOf p.2).map (·.index) =
      ((rs.zipIdx i).filter fun p => isBuilt c t p.1).map fun p => .item p.2 := by
  induction h generalizing i with
  | nil => rfl
  | @cons r rs executor next after single singles hfirst _ ih =>
    have hown : (single.entriesOf i).map (·.index) = if isBuilt c t r then [.item i] else [] := by
      have hlength := congrArg List.length hfirst.built
      rw [List.length_map] at hlength
      rw [SingleInsert.entriesOf, List.map_map]
      change single.report.entries.map (fun _ => ReportIndex.item i) = _
      rw [List.map_const', hlength]
      split <;> rfl
    rw [List.zipIdx_cons, List.zipIdx_cons, List.flatMap_cons, List.map_append, hown, ih, List.filter_cons]
    cases isBuilt c t r <;> rfl

end Runs

end Session

namespace SingleInsert

/-- The failures of a batch stand at the items whose inserts failed. -/
theorem map_index_failuresOf (singles : List SingleInsert) (library : ReadingLibrary) (i : Nat) :
    ((singles.zipIdx i).flatMap fun p => p.1.failuresOf library p.2).map (·.index) =
      ((singles.zipIdx i).filter fun p => !p.1.value.isOk).map fun p => .item p.2 := by
  induction singles generalizing i with
  | nil => rfl
  | cons single singles ih =>
    rw [List.zipIdx_cons, List.flatMap_cons, List.map_append, ih, List.filter_cons]
    unfold failuresOf
    cases single.value <;> rfl

/-- The entries of a batch are those of the statements that the single inserts sent. -/
theorem map_statement_entriesOf (singles : List SingleInsert) (i : Nat) :
    ((singles.zipIdx i).flatMap fun p => p.1.entriesOf p.2).map Entry.statement =
      singles.flatMap fun single => single.report.entries.map Entry.statement := by
  induction singles generalizing i with
  | nil => rfl
  | cons single singles ih =>
    rw [List.zipIdx_cons, List.flatMap_cons, List.flatMap_cons, List.map_append, ih, entriesOf, List.map_map]
    rfl

end SingleInsert

/-- What stands at some of the items, in their order, is in strict order. -/
theorem ReportIndex.pairwise_of_items {α β : Type} {index : β → ReportIndex} {bs : List β} {as : List α}
    {keep : α × Nat → Bool} (h : bs.map index = (as.zipIdx.filter keep).map fun p => .item p.2) :
    bs.Pairwise fun x y => (index x).order (index y) = .lt := by
  have hitems : (as.zipIdx.map (·.2)).Pairwise (· < ·) := by
    rw [List.zipIdx_map_snd]
    exact List.pairwise_lt_range'
  have hkept := (List.pairwise_map.mp hitems).filter keep
  have hordered : (bs.map index).Pairwise fun x y => x.order y = .lt := by
    rw [h]
    exact List.pairwise_map.mpr (hkept.imp fun hij => Precedes.order_eq ⟨[], _, _, [], [], hij, rfl, rfl⟩)
  exact List.pairwise_map.mp hordered

/-- A batch of inserts sends the statements of the single inserts, leaves the executor in their state, and gives for every record the key
that its insert gives. Its failures are those of the inserts that failed, each with the text of the fault, and its entries are theirs, both
at the positions of the items and in strict order. Exactly the records whose insert can be built have an entry, each of them one. -/
theorem insertMany_each {σ : Type} (c : Connection σ) (t : RecordType) (rs : List Record) (w : World σ) :
    ∃ singles w₁ batch w₂,
      (Session.insertEach c t rs).on w = (.ok singles, w₁) ∧ (Session.insertMany c t rs).on w = (.ok batch, w₂) ∧
      w₂.sent = w₁.sent ∧ w₂.executor = w₁.executor ∧
      singles.length = rs.length ∧ batch.value = singles.map SingleInsert.id? ∧
      batch.report.failures = singles.zipIdx.flatMap (fun p => p.1.failuresOf c.library p.2) ∧
      batch.report.failures.Pairwise (fun f g => f.index.order g.index = .lt) ∧
      batch.report.entries = singles.zipIdx.flatMap (fun p => p.1.entriesOf p.2) ∧
      batch.report.entries.Pairwise (fun a b => a.index.order b.index = .lt) ∧
      batch.report.entries.map (·.index) =
        (rs.zipIdx.filter fun p => Session.isBuilt c t p.1).map fun p => .item p.2 := by
  obtain ⟨singles, after, heach⟩ := Session.exists_insertsEach (c := c) (t := t) rs w.executor
  obtain ⟨w₁, hsingles, hafter, hsent⟩ := heach.on_insertEach (w := w) rfl
  obtain ⟨w₂, hids, hafter', henters⟩ := heach.on_insertFrom 0 (w := { w with report := {} }) rfl
  have hbatch : (Session.insertMany c t rs).on w = (.ok ⟨singles.map SingleInsert.id?, w₂.report⟩, w₂) := by
    rw [Session.insertMany, Run.on_bind_ok (Run.on_start w), Run.on_bind_ok hids]
    rfl
  have hentries : w₂.report.entries = singles.zipIdx.flatMap fun p => p.1.entriesOf p.2 := henters.entered
  have hfailures : w₂.report.failures = singles.zipIdx.flatMap fun p => p.1.failuresOf c.library p.2 := henters.failed
  have hindex := heach.map_index 0
  refine ⟨singles, w₁, _, w₂, hsingles, hbatch, ?_, hafter'.trans hafter.symm, heach.length_eq, rfl, hfailures, ?_, hentries, ?_, ?_⟩
  · rw [henters.sent, hsent, SingleInsert.map_statement_entriesOf]
  · exact ReportIndex.pairwise_of_items (hfailures ▸ SingleInsert.map_index_failuresOf singles c.library 0)
  · exact ReportIndex.pairwise_of_items (hentries ▸ hindex)
  · rw [← hindex, hentries]

end RecordSql
