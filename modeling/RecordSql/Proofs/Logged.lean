import Mathlib.Data.List.Forall2
import RecordSql.Log

/-!
# Results beside the log

What a computation that writes log lines ends with, whatever stands in the log before it. A computation over a list ends with all results
(`Yields.mapM`) or with the first failure (`Yields.mapM_error`).
-/

namespace RecordSql.Logged

variable {α β : Type}

/-- A computation goes on with the log that its first part left. -/
theorem run_bind (x : Logged α) (f : α → Logged β) (log : List LogLine) : ((x >>= f).run.run log) =
    match x.run.run log with
    | (.ok a, lines) => (f a).run.run lines
    | (.error e, lines) => (.error e, lines) := by
  rw [ExceptT.run_bind, StateT.run_bind]
  rcases x.run.run log with ⟨_ | _, _⟩ <;> rfl

/-- A computation ends with a result, whatever stands in the log. -/
def Yields (x : Logged α) (r : Except Halt α) : Prop :=
  ∀ log, (x.run.run log).1 = r

namespace Yields

variable {x : Logged α} {f : α → Logged β} {a : α} {r : Except Halt β}

theorem outcome {r : Except Halt α} (h : x.Yields r) : x.outcome.1 = r :=
  h []

protected theorem pure (a : α) : (pure a : Logged α).Yields (.ok a) :=
  fun _ => rfl

theorem line (level : Level) (text : String) : (Logged.line level text).Yields (.ok ()) :=
  fun _ => rfl

theorem ofExcept (e : Except Halt α) : (Logged.ofExcept e).Yields e := by
  cases e <;> exact fun _ => rfl

/-- A computation that goes on after a result ends as the rest does. -/
theorem bind (h : x.Yields (.ok a)) (hf : (f a).Yields r) : (x >>= f).Yields r := by
  intro log
  have hx := h log
  rw [run_bind]
  rcases hrun : x.run.run log with ⟨_ | _, lines⟩ <;> rw [hrun] at hx <;> cases hx
  exact hf lines

/-- A computation that fails does not go on. -/
theorem bind_error {e : Halt} (h : x.Yields (.error e)) : (x >>= f).Yields (.error e) := by
  intro log
  have hx := h log
  rw [run_bind]
  rcases hrun : x.run.run log with ⟨_ | _, lines⟩ <;> rw [hrun] at hx <;> cases hx
  rfl

end Yields

variable {f : α → Logged β} {as : List α}

/-- When every step has a result, so has the whole. -/
theorem Yields.mapM {bs : List β} (h : List.Forall₂ (fun a b => (f a).Yields (.ok b)) as bs) : (as.mapM f).Yields (.ok bs) := by
  induction h with
  | nil => exact .pure []
  | cons hfirst _ ih =>
    rw [List.mapM_cons]
    exact hfirst.bind (ih.bind (.pure _))

/-- When some step fails, the whole fails like one of its steps. -/
theorem Yields.mapM_error {P : Halt → Prop} (h : ∀ a ∈ as, (∃ b, (f a).Yields (.ok b)) ∨ ∃ e, P e ∧ (f a).Yields (.error e))
    {a : α} (ha : a ∈ as) {e : Halt} (hfails : (f a).Yields (.error e)) : ∃ e, P e ∧ (as.mapM f).Yields (.error e) := by
  induction as with
  | nil => cases ha
  | cons c as ih =>
    rw [List.forall_mem_cons] at h
    rw [List.mapM_cons]
    rcases h.1 with ⟨b, hb⟩ | ⟨e, he, hc⟩
    · have hrest : a ∈ as := by
        rcases List.mem_cons.mp ha with rfl | ha
        · cases (hb []).symm.trans (hfails [])
        · exact ha
      obtain ⟨e, he, hyields⟩ := ih h.2 hrest
      exact ⟨e, he, hb.bind hyields.bind_error⟩
    · exact ⟨e, he, hc.bind_error⟩

end RecordSql.Logged
