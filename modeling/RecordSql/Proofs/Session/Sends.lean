import RecordSql.Session.Basic

/-!
# What operations send

`Run.on` is an operation applied to a world: its result and the world after it. `Leads R x` says that every run of an operation goes
from a world to one that stands in the relation `R` to it; for a relation that is reflexive and transitive it passes through every
way of putting operations together. `Sends P x` is the case in which the worlds differ by the statements that were sent, each of
which satisfies `P`.
-/

namespace RecordSql

namespace Run

variable {σ α β : Type}

/-- An operation applied to a world: its result and the world after it. -/
def on (x : Run σ α) (w : World σ) : Except Halt α × World σ :=
  x.run w

/-- After a result the next operation goes on, and after a halt nothing does. -/
theorem on_bind (x : Run σ α) (f : α → Run σ β) (w : World σ) :
    (x >>= f).on w = match x.on w with
      | (.ok a, w') => (f a).on w'
      | (.error h, w') => (.error h, w') := by
  simp only [on, ExceptT.run, bind, ExceptT.bind, ExceptT.mk, StateT.bind, ExceptT.bindCont]
  cases (x w) with
  | mk result w' => cases result <;> rfl

/-- What follows an operation goes on with its result. -/
theorem on_bind_ok {x : Run σ α} {f : α → Run σ β} {w w' : World σ} {a : α} (h : x.on w = (.ok a, w')) :
    (x >>= f).on w = (f a).on w' := by
  rw [on_bind, h]

/-- An operation whose result is not wanted runs all the same. -/
theorem on_discard (x : Run σ α) (w : World σ) : (discard x).on w = ((x.on w).1.map fun _ => (), (x.on w).2) := by
  change (x >>= fun _ => pure ()).on w = _
  rw [on_bind]
  rcases x.on w with ⟨_ | _, w'⟩ <;> rfl

@[simp] theorem on_get (w : World σ) : (get : Run σ (World σ)).on w = (.ok w, w) := rfl

@[simp] theorem on_ofExcept_ok (a : α) (w : World σ) : (ofExcept (.ok a) : Run σ α).on w = (.ok a, w) := rfl

@[simp] theorem on_ofExcept_error (f : Fault) (w : World σ) :
    (ofExcept (.error f) : Run σ α).on w = (.error (.failed f), w) := rfl

@[simp] theorem on_ofHalt (r : Except Halt α) (w : World σ) : (ofHalt r : Run σ α).on w = (r, w) := by
  cases r <;> rfl

@[simp] theorem on_writeLog (lines : List LogLine) (w : World σ) :
    (writeLog lines : Run σ Unit).on w = (.ok (), { w with log := w.log ++ lines }) := rfl

@[simp] theorem on_start (w : World σ) : (Session.start : Run σ Unit).on w = (.ok (), { w with report := {} }) := rfl

/-- What is done about a halt is done in the world where it happened. -/
theorem on_tryCatch (x : Run σ α) (handle : Halt → Run σ α) (w : World σ) :
    (tryCatch x handle : Run σ α).on w = match x.on w with
      | (.ok a, w') => (.ok a, w')
      | (.error h, w') => (handle h).on w' := by
  simp only [on, ExceptT.run, tryCatch, tryCatchThe, MonadExceptOf.tryCatch, ExceptT.tryCatch, ExceptT.mk, bind, StateT.bind]
  cases (x w) with
  | mk result w' => cases result <;> rfl

/-- A fault of an operation becomes its result. -/
theorem on_attempt (x : Run σ α) (w : World σ) :
    (attempt x).on w = match x.on w with
      | (.ok a, w') => (.ok (.ok a), w')
      | (.error (.failed f), w') => (.ok (.error f), w')
      | (.error (.aborted a), w') => (.error (.aborted a), w') := by
  rw [attempt, on_tryCatch, on_bind]
  rcases x.on w with ⟨_ | _, w'⟩
  · rename_i halt
    cases halt <;> rfl
  · rfl

/-- Whatever an operation ends with, but for an abort, becomes its result. -/
theorem on_attempt_of_mapError {x : Run σ α} {w w' : World σ} {r : Except Fault α} (h : x.on w = (r.mapError .failed, w')) :
    (attempt x).on w = (.ok r, w') := by
  rw [on_attempt, h]
  cases r <;> rfl

/-- An activity is told with a fault and changes nothing else. -/
theorem on_during (activity : Activity) (x : Run σ α) (w : World σ) :
    (during activity x).on w = match x.on w with
      | (.ok a, w') => (.ok a, w')
      | (.error (.failed f), w') => (.error (.failed (.during activity f)), w')
      | (.error (.aborted a), w') => (.error (.aborted a), w') := by
  rw [during, on_tryCatch]
  rcases x.on w with ⟨_ | _, w'⟩
  · rename_i halt
    cases halt <;> rfl
  · rfl

/-- The world after the model of a record type was asked for. A model that is described for the first time is logged. -/
def described (t : RecordType) (w : World σ) : World σ :=
  if w.described.contains t.id then w
  else { w with
    described := w.described ++ [t.id]
    log := w.log ++ t.description.build.2 ++ [LogLine.mk .debug ("Described model " ++ t.model.name)] }

/-- Asking for a model gives the model of the record type. -/
theorem on_model (t : RecordType) (w : World σ) : (model t : Run σ Model).on w = (.ok t.model, described t w) := by
  rw [model, on_bind, on_get]
  dsimp only [described]
  by_cases h : w.described.contains t.id = true
  · rw [if_pos h, if_pos h]
    rfl
  · rw [if_neg h, if_neg h]
    rfl

@[simp] theorem sent_described (t : RecordType) (w : World σ) : (described t w).sent = w.sent := by
  unfold described
  split <;> rfl

@[simp] theorem report_described (t : RecordType) (w : World σ) : (described t w).report = w.report := by
  unfold described
  split <;> rfl

@[simp] theorem executor_described (t : RecordType) (w : World σ) : (described t w).executor = w.executor := by
  unfold described
  split <;> rfl

/-! ## What every run of an operation keeps -/

/-- Every run of an operation goes from a world to a related one. -/
def Leads (R : World σ → World σ → Prop) (x : Run σ α) : Prop :=
  ∀ w, R w (x.on w).2

/-- The worlds differ by the statements sent in between, which satisfy `P`. -/
def Sent (P : Statement → Prop) (w w' : World σ) : Prop :=
  ∃ added, w'.sent = w.sent ++ added ∧ ∀ s ∈ added, P s

/-- Every statement that an operation sends satisfies `P`. -/
def Sends (P : Statement → Prop) (x : Run σ α) : Prop :=
  Leads (Sent P) x

/-- What can be said of the worlds before and after any number of steps. -/
structure IsTrail (R : World σ → World σ → Prop) : Prop where
  refl : ∀ w, R w w
  trans : ∀ {u v w}, R u v → R v w → R u w

theorem isTrail_sent (P : Statement → Prop) : IsTrail (@Sent σ P) where
  refl w := ⟨[], by simp, by simp⟩
  trans := by
    rintro u v w ⟨as, hv, has⟩ ⟨bs, hw, hbs⟩
    refine ⟨as ++ bs, by rw [hw, hv, List.append_assoc], ?_⟩
    intro s hs
    rcases List.mem_append.mp hs with hs | hs
    · exact has s hs
    · exact hbs s hs

namespace Leads

variable {R : World σ → World σ → Prop} {x : Run σ α}

theorem of_same (hR : IsTrail R) (h : ∀ w, (x.on w).2 = w) : Leads R x := by
  intro w
  rw [h]
  exact hR.refl w

theorem pure (hR : IsTrail R) (a : α) : Leads R (Pure.pure a : Run σ α) :=
  of_same hR fun _ => rfl

theorem ofExcept (hR : IsTrail R) (r : Except Fault α) : Leads R (Run.ofExcept r : Run σ α) :=
  of_same hR fun _ => by cases r <;> rfl

theorem ofHalt (hR : IsTrail R) (r : Except Halt α) : Leads R (Run.ofHalt r : Run σ α) :=
  of_same hR fun _ => by cases r <;> rfl

theorem fail (hR : IsTrail R) (f : Fault) : Leads R (Run.fail f : Run σ α) :=
  of_same hR fun _ => rfl

/-- What two operations keep, they keep one after the other. -/
theorem bind (hR : IsTrail R) {f : α → Run σ β} (hx : Leads R x) (hf : ∀ a, Leads R (f a)) : Leads R (x >>= f) := by
  intro w
  have h := hx w
  rw [on_bind]
  rcases hw : x.on w with ⟨_ | a, w'⟩
  · rw [hw] at h
    exact h
  · rw [hw] at h
    exact hR.trans h (hf a w')

/-- What follows a result that may fail needs to keep the relation only for the result. -/
theorem ofExcept_bind (hR : IsTrail R) {r : Except Fault α} {f : α → Run σ β} (hf : ∀ a, r = .ok a → Leads R (f a)) :
    Leads R (Run.ofExcept r >>= f) := by
  intro w
  rw [on_bind]
  cases r with
  | error h => exact hR.refl w
  | ok a => exact hf a rfl w

theorem attempt (hx : Leads R x) : Leads R (Run.attempt x) := by
  intro w
  have h := hx w
  rw [on_attempt]
  rcases hw : x.on w with ⟨(_ | _) | _, w'⟩ <;> rw [hw] at h <;> exact h

theorem during (activity : Activity) (hx : Leads R x) : Leads R (Run.during activity x) := by
  intro w
  have h := hx w
  rw [on_during]
  rcases hw : x.on w with ⟨(_ | _) | _, w'⟩ <;> rw [hw] at h <;> exact h

end Leads

namespace Sends

variable {P Q : Statement → Prop} {x : Run σ α}

/-- An operation that leaves the list of statements alone sends nothing. -/
theorem of_sent (h : ∀ w, (x.on w).2.sent = w.sent) : Sends P x := by
  intro w
  exact ⟨[], by simp [h], by simp⟩

theorem mono (h : Sends P x) (hPQ : ∀ s, P s → Q s) : Sends Q x := by
  intro w
  obtain ⟨added, hw, hp⟩ := h w
  exact ⟨added, hw, fun s hs => hPQ s (hp s hs)⟩

theorem pure (a : α) : Sends P (Pure.pure a : Run σ α) := Leads.pure (isTrail_sent P) a

theorem ofExcept (r : Except Fault α) : Sends P (Run.ofExcept r : Run σ α) := Leads.ofExcept (isTrail_sent P) r

theorem ofHalt (r : Except Halt α) : Sends P (Run.ofHalt r : Run σ α) := Leads.ofHalt (isTrail_sent P) r

theorem bind {f : α → Run σ β} (hx : Sends P x) (hf : ∀ a, Sends P (f a)) : Sends P (x >>= f) :=
  Leads.bind (isTrail_sent P) hx hf

theorem report : Sends P (Session.report : Run σ Report) :=
  of_sent fun _ => rfl

end Sends

end Run

namespace Connection

variable {σ : Type} (c : Connection σ) (index : ReportIndex) (s : Statement)

/-- Sending a statement is one step, which fails when the answer holds a fault. -/
theorem on_send (w : World σ) :
    (c.send index s).on w = ((c.sendStep index s w).1.mapError .failed, (c.sendStep index s w).2) := by
  rw [send, Run.on_bind, Run.on_get]
  dsimp only
  rw [Run.on_bind]
  have hset : (set (c.sendStep index s w).2 : Run σ PUnit).on w = (.ok ⟨⟩, (c.sendStep index s w).2) := rfl
  rw [hset]
  cases (c.sendStep index s w).1 <;> rfl

/-- Fetching the rows of a statement is one step, from which the rows are taken. -/
theorem on_fetch (w : World σ) :
    (c.fetch index s).on w =
      (((c.sendStep index s w).1.mapError .failed).map (·.filterMap Reply.row?), (c.sendStep index s w).2) := by
  rw [fetch, Run.on_bind, on_send]
  cases (c.sendStep index s w).1 <;> rfl

/-- Executing a statement is one step, from which the counts are added up. -/
theorem on_execute (w : World σ) :
    (c.execute index s).on w =
      (((c.sendStep index s w).1.mapError .failed).map fun replies => RowsAffected.extend {} (replies.filterMap Reply.affected?),
        (c.sendStep index s w).2) := by
  rw [execute, Run.on_bind, on_send]
  cases (c.sendStep index s w).1 <;> rfl

/-- A step sends the finished form of its statement and nothing else. -/
@[simp] theorem sent_sendStep (w : World σ) : (c.sendStep index s w).2.sent = w.sent ++ [c.dialect.finish s] := rfl

end Connection

end RecordSql
