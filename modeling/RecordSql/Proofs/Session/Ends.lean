import RecordSql.Proofs.Session.Sends

/-!
# How operations end

`Run.EndsOr A x w Q E` says of the run of an operation from the world `w` that `Q` holds of its result, `E` of its fault, and `A` when
it is aborted. It passes through the ways of putting operations together, one rule for each; `Run.Ends` is the case of a run that is not
aborted. A run is aborted only by rows that are shorter than their labels, so nothing is aborted when an executor answers with whole rows
(`Executor.Whole`).
-/

namespace RecordSql

/-! ## Whole rows -/

/-- A row with a value for each of its labels. -/
def Row.IsWhole (row : Row) : Prop :=
  row.labels.length ≤ row.values.length

instance (row : Row) : Decidable row.IsWhole :=
  inferInstanceAs (Decidable (row.labels.length ≤ row.values.length))

/-- An executor that answers with whole rows, whatever it is asked. -/
def Executor.Whole {σ : Type} (e : Executor σ) : Prop :=
  ∀ s state row, .ok (.row row) ∈ (e.answer s state).1 → row.IsWhole

/-- What is collected from a response was in it. -/
theorem Response.mem_of_collect {r : Response} {replies : List Reply} (h : r.collect = .ok replies) :
    ∀ reply ∈ replies, .ok reply ∈ r := by
  induction r generalizing replies with
  | nil =>
    cases h
    simp
  | cons first rest ih =>
    cases first with
    | error f => cases h
    | ok reply =>
      cases hrest : collect rest with
      | error f =>
        rw [collect, hrest] at h
        cases h
      | ok others =>
        rw [collect, hrest] at h
        cases h
        intro other hother
        rcases List.mem_cons.mp hother with rfl | hother
        · exact List.mem_cons_self ..
        · exact List.mem_cons_of_mem _ (ih hrest other hother)

/-- A result that is not aborted is not after a change either. -/
theorem Halt.map_ne_aborted {α β : Type} {x : Except Halt α} {a : Abort} (h : x ≠ .error (.aborted a)) (f : α → β) :
    x.map f ≠ .error (.aborted a) := by
  cases x with
  | error halt => simpa [Except.map] using h
  | ok value => simp [Except.map]

/-- A result that has not failed has not after a change either. -/
theorem Halt.map_ne_failed {α β : Type} {x : Except Halt α} (h : ∀ f, x ≠ .error (.failed f)) (g : α → β) :
    ∀ f, x.map g ≠ .error (.failed f) := by
  intro f
  cases x with
  | error halt => simpa [Except.map] using h f
  | ok value => simp [Except.map]

namespace Row

variable {row : Row}

/-- The columns of a whole row can be read. -/
theorem IsWhole.column? (h : row.IsWhole) (label : String) : ∃ v, row.column? label = .ok v := by
  unfold Row.column?
  cases hi : row.labels.findIdx? (· == label) with
  | none => exact ⟨none, rfl⟩
  | some i =>
    have hlt : i < row.values.length := Nat.lt_of_lt_of_le (List.findIdx?_eq_some_iff_getElem.mp hi).1 h
    exact ⟨some row.values[i], by simp [List.getElem?_eq_getElem hlt]⟩

theorem IsWhole.get (h : row.IsWhole) (label : String) (target : Native) (optional : Bool) (a : Abort) :
    row.get label target optional ≠ .error (.aborted a) := by
  obtain ⟨v, hv⟩ := h.column? label
  unfold Row.get
  rw [hv]
  cases v with
  | none => simp
  | some v =>
    dsimp only
    split <;> simp

/-- Whole rows are decoded or fail to be. -/
theorem IsWhole.decodeFields (h : row.IsWhole) (fields : List Field) (a : Abort) :
    Record.decodeFields row fields ≠ .error (.aborted a) := by
  induction fields with
  | nil => simp [Record.decodeFields]
  | cons f fields ih =>
    rw [Record.decodeFields]
    split
    · exact ih
    · rename_i target _
      have hget := h.get f.column target f.nullable a
      split
      · rename_i halt hhalt
        rw [hhalt] at hget
        simpa using hget
      · exact Halt.map_ne_aborted ih _

theorem IsWhole.ofRow (h : row.IsWhole) (m : Model) (a : Abort) : Record.ofRow m row ≠ .error (.aborted a) :=
  Halt.map_ne_aborted (h.decodeFields m.fields a) _

end Row

theorem Record.ofRows_ne_aborted {rows : List Row} (h : ∀ row ∈ rows, row.IsWhole) (m : Model) (a : Abort) :
    Record.ofRows m rows ≠ .error (.aborted a) := by
  induction rows with
  | nil => simp [ofRows]
  | cons row rows ih =>
    have hfirst := (h row (List.mem_cons_self ..)).ofRow m a
    have hrest := ih fun r hr => h r (List.mem_cons_of_mem _ hr)
    rw [ofRows]
    split
    · rename_i halt hhalt
      rw [hhalt] at hfirst
      simpa using hfirst
    · exact Halt.map_ne_aborted hrest _

/-- The keys that whole rows of a join table pair can be read. -/
theorem Link.exists_pairs {rows : List Row} (h : ∀ row ∈ rows, row.IsWhole) (parent child : String) :
    ∃ found, pairs parent child rows = .ok found := by
  induction rows with
  | nil => exact ⟨[], rfl⟩
  | cons row rows ih =>
    have hrow := h row (List.mem_cons_self ..)
    obtain ⟨rest, hrest⟩ := ih fun r hr => h r (List.mem_cons_of_mem _ hr)
    obtain ⟨first, hfirst⟩ : ∃ first, pair? parent child row = .ok first := by
      obtain ⟨p, hp⟩ := hrow.column? parent
      obtain ⟨q, hq⟩ := hrow.column? child
      unfold pair?
      rw [hp]
      cases p with
      | none => exact ⟨none, rfl⟩
      | some p =>
        change ∃ first, (row.column? child >>= _) = _
        rw [hq]
        cases q with
        | none => exact ⟨none, rfl⟩
        | some q => exact ⟨_, rfl⟩
    refine ⟨first.toList ++ rest, ?_⟩
    rw [pairs, hfirst, hrest]
    rfl

/-! ## Rules -/

namespace Run

variable {σ α β : Type}

/-- A run ends with a result for which `Q` holds, or with a fault for which `E` holds, and with the world after it, or it is aborted
and then `A` holds. -/
def EndsOr (A : Prop) (x : Run σ α) (w : World σ) (Q : α → World σ → Prop) (E : Fault → World σ → Prop) : Prop :=
  match x.on w with
  | (.ok a, w') => Q a w'
  | (.error (.failed f), w') => E f w'
  | (.error (.aborted _), _) => A

/-- A run is not aborted; it ends with a result for which `Q` holds, or with a fault for which `E` holds, and with the world after it. -/
def Ends (x : Run σ α) (w : World σ) (Q : α → World σ → Prop) (E : Fault → World σ → Prop) : Prop :=
  EndsOr False x w Q E

/-- An operation that cannot fail ends with a result. -/
theorem ends_iff_exists {x : Run σ α} {w : World σ} {Q : α → World σ → Prop} :
    Ends x w Q (fun _ _ => False) ↔ ∃ a w', x.on w = (.ok a, w') ∧ Q a w' := by
  rw [Ends, EndsOr]
  rcases x.on w with ⟨(f | a) | a, w'⟩
  · simp
  · simp
  · refine ⟨fun h => ⟨a, w', rfl, h⟩, ?_⟩
    rintro ⟨_, _, heq, h⟩
    cases heq
    exact h

namespace EndsOr

variable {A : Prop} {x : Run σ α} {w : World σ} {Q R : α → World σ → Prop} {E : Fault → World σ → Prop}

theorem mono {E' : Fault → World σ → Prop} (h : EndsOr A x w R E') (hQ : ∀ a w', R a w' → Q a w')
    (hE : ∀ f w', E' f w' → E f w') : EndsOr A x w Q E := by
  unfold EndsOr at h ⊢
  rcases hw : x.on w with ⟨(f | a) | a, w'⟩ <;> rw [hw] at h
  · exact hE f w' h
  · exact h
  · exact hQ a w' h

/-- Any run ends in one of the three ways. -/
theorem any (x : Run σ α) (w : World σ) : EndsOr True x w (fun _ _ => True) fun _ _ => True := by
  unfold EndsOr
  split <;> trivial

theorem pure {a : α} (h : Q a w) : EndsOr A (Pure.pure a : Run σ α) w Q E := h

/-- What holds after the first operation is what the next starts from. -/
theorem bind {f : α → Run σ β} {Q : β → World σ → Prop} (hx : EndsOr A x w R E)
    (hf : ∀ a w', R a w' → EndsOr A (f a) w' Q E) : EndsOr A (x >>= f) w Q E := by
  unfold EndsOr at hx
  rw [EndsOr, on_bind]
  rcases hw : x.on w with ⟨(g | a) | a, w'⟩ <;> rw [hw] at hx
  · exact hx
  · exact hx
  · exact hf a w' hx

theorem ofExcept (r : Except Fault α) (hE : ∀ f, r = .error f → E f w) :
    EndsOr A (Run.ofExcept r) w (fun a w' => r = .ok a ∧ w' = w) E := by
  cases r with
  | error f => exact hE f rfl
  | ok a => exact ⟨rfl, rfl⟩

theorem ofHalt (r : Except Halt α) (hr : ∀ a, r = .error (.aborted a) → A) (hE : ∀ f, E f w) :
    EndsOr A (Run.ofHalt r) w (fun a w' => r = .ok a ∧ w' = w) E := by
  rcases r with (f | a) | a
  · exact hE f
  · exact hr a rfl
  · exact ⟨rfl, rfl⟩

theorem model (t : RecordType) :
    EndsOr A (Run.model t : Run σ Model) w (fun m w' => m = t.model ∧ w' = described t w) E := by
  rw [EndsOr, on_model]
  exact ⟨rfl, rfl⟩

theorem during {activity : Activity} (h : EndsOr A x w Q fun f => E (.during activity f)) :
    EndsOr A (Run.during activity x) w Q E := by
  unfold EndsOr at h
  rw [EndsOr, on_during]
  rcases hw : x.on w with ⟨(f | a) | a, w'⟩ <;> rw [hw] at h <;> exact h

/-- A fault that is caught is a result. -/
theorem attempt {Q : Except Fault α → World σ → Prop} (h : EndsOr A x w (fun a => Q (.ok a)) fun f => Q (.error f)) :
    EndsOr A (Run.attempt x) w Q E := by
  unfold EndsOr at h
  rw [EndsOr, on_attempt]
  rcases hw : x.on w with ⟨(f | a) | a, w'⟩ <;> rw [hw] at h <;> exact h

/-- What follows an operation whose fault is caught starts from either of its ends. -/
theorem bind_attempt {k : Except Fault α → Run σ β} {Q : β → World σ → Prop}
    (h : EndsOr A x w (fun a w' => EndsOr A (k (.ok a)) w' Q E) fun f w' => EndsOr A (k (.error f)) w' Q E) :
    EndsOr A (Run.attempt x >>= k) w Q E := by
  have hattempt : EndsOr A (Run.attempt x) w (fun result w' => EndsOr A (k result) w' Q E) E := .attempt h
  exact .bind hattempt fun _ _ hk => hk

end EndsOr

end Run

namespace Connection

variable {σ : Type} {c : Connection σ} {w : World σ}

/-- The rows that are fetched are whole, and fetching them enters no failure. -/
theorem ends_fetch (h : c.executor.Whole) (index : ReportIndex) (s : Statement) :
    Run.Ends (c.fetch index s) w
      (fun rows w' => (∀ row ∈ rows, row.IsWhole) ∧ w'.report.failures = w.report.failures)
      (fun _ w' => w'.report.failures = w.report.failures) := by
  rw [Run.Ends, Run.EndsOr, on_fetch]
  cases hresult : (c.sendStep index s w).1 with
  | error f => rfl
  | ok replies =>
    refine ⟨fun row hrow => ?_, rfl⟩
    obtain ⟨reply, hreply, hrow⟩ := List.mem_filterMap.mp hrow
    cases reply with
    | affected a => cases hrow
    | row found =>
      cases hrow
      exact h _ _ _ (Response.mem_of_collect hresult _ hreply)

theorem ends_findRows (h : c.executor.Whole) (index : ReportIndex) (m : Model) (search : Condition) (clauses : Clauses) :
    Run.Ends (c.findRows index m search clauses) w
      (fun rows w' => (∀ row ∈ rows, row.IsWhole) ∧ w'.report.failures = w.report.failures)
      (fun _ w' => w'.report.failures = w.report.failures) := by
  refine .bind (.ofExcept _ fun _ _ => rfl) ?_
  rintro s _ ⟨-, rfl⟩
  exact ends_fetch h index s

end Connection

end RecordSql
