import RecordSql.Proofs.Session.Attached

/-!
# Faults that refuse an operation

A fault is a refusal when it says that something cannot be built: a condition, or a statement for a record or a dialect. Sending never
refuses, nor does decoding what was answered, so long as the executor does not refuse by itself (`Run.NeverRefuses`).
-/

namespace RecordSql

/-- The faults that say that something cannot be built. An update whose count is unknown is no such fault. -/
def Fault.IsRefusal : Fault → Prop
  | invalidTree _ _ | emptyList _ | mismatchedOperand _ _ | unknownField _ _ => True
  | unsupported _ request => request ≠ .replaceWithoutCount
  | during _ cause => cause.IsRefusal
  | _ => False

/-- An executor that never answers with a refusal of its own. -/
def Executor.NeverRefuses {σ : Type} (e : Executor σ) : Prop :=
  ∀ s state f, .error f ∈ (e.answer s state).1 → ¬ f.IsRefusal

/-- What is collected from a response fails with a fault that was in it. -/
theorem Response.mem_of_collect_error {r : Response} {f : Fault} (h : r.collect = .error f) : .error f ∈ r := by
  induction r with
  | nil => cases h
  | cons first rest ih =>
    cases first with
    | error g =>
      cases h
      exact List.mem_cons_self ..
    | ok reply =>
      cases hrest : collect rest with
      | error g =>
        rw [collect, hrest] at h
        cases h
        exact List.mem_cons_of_mem _ (ih hrest)
      | ok replies =>
        rw [collect, hrest] at h
        cases h

/-! ## Decoding never refuses -/

/-- A result whose fault is no refusal. -/
def Unrefused {α : Type} (r : Except Fault α) : Prop :=
  ∀ f, r = .error f → ¬ f.IsRefusal

namespace Unrefused

variable {α β : Type}

theorem ok (a : α) : Unrefused (.ok a) := by
  intro f h
  cases h

theorem map {r : Except Fault α} (h : Unrefused r) (g : α → β) : Unrefused (r.map g) := by
  cases r with
  | ok a => exact ok (g a)
  | error e =>
    intro f hf
    cases hf
    exact h e rfl

theorem mismatch (v : Value) (target : Native) : Unrefused (v.mismatch target : Except Fault α) := by
  intro f h
  cases h
  exact id

theorem orUnreadable (text : String) (target : Native) (r : Option α) : Unrefused (Value.orUnreadable text target r) := by
  cases r with
  | some a => exact ok a
  | none =>
    intro f h
    cases h
    exact id

theorem orMismatch (v : Value) (target : Native) (r : Option α) : Unrefused (v.orMismatch target r) := by
  cases r with
  | some a => exact ok a
  | none => exact mismatch v target

end Unrefused

namespace Value

theorem unrefused_toInteger (t : IntegerType) (v : Value) : Unrefused (v.toInteger t) := by
  unfold toInteger
  split
  · split
    · exact .ok _
    · intro f h
      cases h
      exact id
  · exact .mismatch _ _

/-- A value that does not decode is not refused. -/
theorem unrefused_decode (target : Native) (v : Value) : Unrefused (v.decode target) := by
  cases target with
  | boolean =>
    refine .map ?_ _
    unfold toBoolean
    split
    exacts [.ok _, .ok _, .mismatch _ _]
  | integer t => exact (unrefused_toInteger t v).map _
  | binary p =>
    refine .map ?_ _
    unfold toBinary
    split
    exacts [.ok _, .ok _, .ok _, .mismatch _ _]
  | decimal =>
    refine .map ?_ _
    unfold toDecimal
    split
    exacts [.ok _, .orMismatch _ _ _, .orMismatch _ _ _, .orUnreadable _ _ _, .mismatch _ _]
  | char =>
    refine .map ?_ _
    unfold toChar
    split
    · exact .ok _
    · split
      exacts [.ok _, .mismatch _ _]
    · exact .mismatch _ _
  | text =>
    refine .map ?_ _
    unfold toText
    split
    exacts [.ok _, .ok _, .mismatch _ _]
  | bytes =>
    refine .map ?_ _
    unfold toBytes
    split
    exacts [.ok _, .ok _, .mismatch _ _]
  | date =>
    refine .map ?_ _
    unfold toDate
    split
    exacts [.ok _, .orUnreadable _ _ _, .mismatch _ _]
  | time =>
    refine .map ?_ _
    unfold toTime
    split
    exacts [.ok _, .orUnreadable _ _ _, .mismatch _ _]
  | timestamp =>
    refine .map ?_ _
    unfold toTimestamp
    split
    exacts [.ok _, .orUnreadable _ _ _, .mismatch _ _]
  | offsetTimestamp =>
    refine .map ?_ _
    unfold toOffsetTimestamp
    split
    exacts [.ok _, .orUnreadable _ _ _, .mismatch _ _]
  | uuid =>
    refine .map ?_ _
    unfold toUuid
    split
    exacts [.ok _, .orUnreadable _ _ _, .mismatch _ _]

end Value

/-- A column that is missing or does not decode is not refused. -/
theorem Row.not_isRefusal_of_get {row : Row} {label : String} {target : Native} {optional : Bool} {f : Fault}
    (h : row.get label target optional = .error (.failed f)) : ¬ f.IsRefusal := by
  unfold Row.get at h
  split at h
  · cases h
  · cases h
    exact id
  · rename_i v _
    split at h
    · cases h
    · rename_i g hg
      cases h
      have hdecode : Unrefused (v.decodeField target optional) := by
        unfold Value.decodeField
        split
        · exact .ok _
        · exact (Value.unrefused_decode target v).map _
      exact hdecode g hg

/-- A fault of a result that is changed is a fault of the result. -/
theorem Halt.eq_error_of_map {α β : Type} {x : Except Halt α} {g : α → β} {h : Halt} (hx : x.map g = .error h) : x = .error h := by
  cases x with
  | ok a => cases hx
  | error e =>
    cases hx
    rfl

namespace Record

variable {f : Fault}

theorem not_isRefusal_of_decodeFields {row : Row} {fields : List Field} (h : decodeFields row fields = .error (.failed f)) :
    ¬ f.IsRefusal := by
  induction fields with
  | nil => cases h
  | cons field fields ih =>
    rw [decodeFields] at h
    split at h
    · exact ih h
    · split at h
      · rename_i hget
        cases h
        exact Row.not_isRefusal_of_get hget
      · exact ih (Halt.eq_error_of_map h)

/-- A row that does not decode is not refused. -/
theorem not_isRefusal_of_ofRows {m : Model} {rows : List Row} (h : ofRows m rows = .error (.failed f)) : ¬ f.IsRefusal := by
  induction rows with
  | nil => cases h
  | cons row rows ih =>
    rw [ofRows] at h
    split at h
    · rename_i hrow
      cases h
      exact not_isRefusal_of_decodeFields (Halt.eq_error_of_map hrow)
    · exact ih (Halt.eq_error_of_map h)

end Record

/-! ## Sending never refuses -/

namespace Run

variable {σ α β : Type}

/-- No fault of an operation is a refusal. -/
def NeverRefuses (x : Run σ α) : Prop :=
  ∀ w f w', x.on w = (.error (.failed f), w') → ¬ f.IsRefusal

namespace NeverRefuses

variable {x : Run σ α}

theorem pure (a : α) : NeverRefuses (Pure.pure a : Run σ α) := by
  intro w f w' h
  cases h

theorem bind {g : α → Run σ β} (hx : NeverRefuses x) (hg : ∀ a, NeverRefuses (g a)) : NeverRefuses (x >>= g) := by
  intro w f w' h
  rw [on_bind] at h
  rcases hw : x.on w with ⟨halt | a, v⟩ <;> rw [hw] at h
  · cases h
    exact hx _ _ _ hw
  · exact hg a v f w' h

theorem ofExcept {r : Except Fault α} (h : Unrefused r) : NeverRefuses (Run.ofExcept r : Run σ α) := by
  intro w f w' hf
  cases r with
  | ok a => cases hf
  | error e =>
    cases hf
    exact h _ rfl

theorem ofHalt {r : Except Halt α} (h : ∀ f, r = .error (.failed f) → ¬ f.IsRefusal) : NeverRefuses (Run.ofHalt r : Run σ α) := by
  intro w f w' hf
  rw [on_ofHalt] at hf
  exact h f (Prod.mk.inj hf).1

theorem fail {g : Fault} (h : ¬ g.IsRefusal) : NeverRefuses (Run.fail g : Run σ α) := by
  intro w f w' hf
  cases hf
  exact h

/-- A fault that is caught does not end an operation. -/
theorem attempt (x : Run σ α) : NeverRefuses (Run.attempt x) := by
  intro w f w' h
  rw [on_attempt] at h
  rcases hw : x.on w with ⟨(_ | _) | _, v⟩ <;> rw [hw] at h <;> cases h

theorem recordFailure (index : ReportIndex) (message : String) : NeverRefuses (Run.recordFailure index message : Run σ Unit) := by
  intro w f w' h
  cases h

theorem report : NeverRefuses (Session.report : Run σ Report) := by
  intro w f w' h
  cases h

end NeverRefuses

end Run

namespace Connection

variable {σ : Type} {c : Connection σ} (hc : c.executor.NeverRefuses) (index : ReportIndex) (s : Statement)

include hc

theorem unrefused_sendStep (w : World σ) : Unrefused (c.sendStep index s w).1 :=
  fun f h => hc _ _ f (Response.mem_of_collect_error h)

theorem neverRefuses_send : Run.NeverRefuses (c.send index s) := by
  intro w f w' h
  rw [on_send] at h
  have hsend := c.unrefused_sendStep hc index s w
  cases hresult : (c.sendStep index s w).1 with
  | ok replies =>
    rw [hresult] at h
    cases h
  | error g =>
    rw [hresult] at h
    cases h
    exact hsend _ hresult

theorem neverRefuses_fetch : Run.NeverRefuses (c.fetch index s) :=
  .bind (c.neverRefuses_send hc index s) fun _ => .pure _

theorem neverRefuses_execute : Run.NeverRefuses (c.execute index s) :=
  .bind (c.neverRefuses_send hc index s) fun _ => .pure _

end Connection

/-- Resolving relations never fails, since their faults are entered into the report. -/
theorem Relation.neverRefuses_preload {σ : Type} (c : Connection σ) (t : RecordType) (index : ReportIndex) (rs : List Relation)
    (parents : List Record) : Run.NeverRefuses (preload c t index rs parents) := by
  intro w f w' h
  have hends := ends_preload_values c t index rs parents w
  rw [Run.EndsOr, h] at hends
  exact hends.elim

end RecordSql
