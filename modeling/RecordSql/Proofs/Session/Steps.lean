import RecordSql.Proofs.Session.Sends

/-!
# The steps of operations

An operation of a session changes its world in four ways: it asks for a model, it writes notes into the log, it enters a failure, and it
sends a statement. `Run.Steps c P R` says that a relation of worlds holds across each of these steps, where the statements satisfy `P`, and
across any number of them. So it holds across every operation that is put together from such steps.
-/

namespace RecordSql

/-- The lines of the log that do not tell of a statement. -/
inductive LogLine.IsNote (d : Dialect) : LogLine → Prop
  /-- A model was described. -/
  | described (m : Model) : IsNote d ⟨.debug, "Described model " ++ m.name⟩
  /-- A warning about the description of a record type. -/
  | description (t : RecordType) {line : LogLine} (h : line ∈ t.description.build.2) : IsNote d line
  /-- A warning about the columns of a table. -/
  | columns (m : Model) (ifNotExists : Bool) {line : LogLine} (h : line ∈ (d.createTable m true ifNotExists).outcome.2) :
      IsNote d line
  /-- No parent has a key. -/
  | keyless (m : Model) (container : String) : IsNote d ⟨.debug, "No " ++ m.name ++ " key to preload " ++ container ++ " with"⟩
  /-- A failure was entered into the report. -/
  | failure (index : ReportIndex) (f : Fault) (library : ReadingLibrary) : IsNote d (Report.failureLine index (f.message library))

namespace Run

variable {σ α β : Type} {c : Connection σ} {P : Statement → Prop} {R : World σ → World σ → Prop}

/-- A computation that writes log lines writes them whether or not it has a result. -/
theorem on_ofLogged (x : Logged α) (w : World σ) :
    (ofLogged x : Run σ α).on w = (x.outcome.1, { w with log := w.log ++ x.outcome.2 }) := by
  rw [ofLogged, on_bind_ok (on_writeLog _ _), on_ofHalt]

/-- Describing a model leaves only notes in the log. -/
theorem exists_log_described (d : Dialect) (t : RecordType) (w : World σ) :
    ∃ notes, (described t w).log = w.log ++ notes ∧ ∀ line ∈ notes, line.IsNote d := by
  unfold described
  split
  · exact ⟨[], (List.append_nil _).symm, by simp⟩
  · refine ⟨_, List.append_assoc .., fun line hline => ?_⟩
    rcases List.mem_append.mp hline with hline | hline
    · exact .description t hline
    · rw [List.mem_singleton.mp hline]
      exact .described _

/-- What can be said of the worlds before and after any number of steps, in which statements that satisfy `P` are sent. -/
structure Steps (c : Connection σ) (P : Statement → Prop) (R : World σ → World σ → Prop) : Prop extends IsTrail R where
  described : ∀ t w, R w (described t w)
  noted : ∀ lines w, (∀ line ∈ lines, line.IsNote c.dialect) → R w { w with log := w.log ++ lines }
  failed : ∀ index (f : Fault) w, R w ((recordFailure index (f.message c.library)).on w).2
  sent : ∀ index s w, P s → R w (c.sendStep index s w).2

/-- The statements that are sent are the finished forms of those that were built. -/
theorem steps_sent {Q : Statement → Prop} (h : ∀ s, P s → Q (c.dialect.finish s)) : Steps c P (Sent Q) where
  toIsTrail := isTrail_sent Q
  described t w := ⟨[], by simp, by simp⟩
  noted lines w _ := ⟨[], by simp, by simp⟩
  failed index f w := ⟨[], (List.append_nil _).symm, by simp⟩
  sent index s w hs := ⟨[c.dialect.finish s], rfl, by simpa using h s hs⟩

namespace Steps

variable (hR : Steps c P R)

include hR

/-- What follows the question for a model gets the model of the record type. -/
theorem model_bind {t : RecordType} {f : Model → Run σ β} (hf : Leads R (f t.model)) : Leads R (Run.model t >>= f) := by
  intro w
  rw [on_bind, on_model]
  exact hR.trans (hR.described t w) (hf _)

theorem writeLog {lines : List LogLine} (h : ∀ line ∈ lines, line.IsNote c.dialect) : Leads R (Run.writeLog lines : Run σ Unit) :=
  fun w => hR.noted lines w h

/-- What follows a computation that writes notes needs to keep the relation only for its result. -/
theorem logged_bind {x : Logged α} {f : α → Run σ β} (hx : ∀ line ∈ x.outcome.2, line.IsNote c.dialect)
    (hf : ∀ a, x.outcome.1 = .ok a → Leads R (f a)) : Leads R (Run.ofLogged x >>= f) := by
  intro w
  have hlogged := hR.noted _ w hx
  rw [on_bind, on_ofLogged]
  rcases hr : x.outcome.1 with halt | a
  · exact hlogged
  · exact hR.trans hlogged (hf a hr _)

theorem recordFailure (index : ReportIndex) (f : Fault) : Leads R (Run.recordFailure index (f.message c.library) : Run σ Unit) :=
  fun w => hR.failed index f w

theorem fetch (index : ReportIndex) {s : Statement} (h : P s) : Leads R (c.fetch index s) := by
  intro w
  rw [Connection.on_fetch]
  exact hR.sent index s w h

theorem execute (index : ReportIndex) {s : Statement} (h : P s) : Leads R (c.execute index s) := by
  intro w
  rw [Connection.on_execute]
  exact hR.sent index s w h

/-- A scoped find sends the query that it builds, if it can be built. -/
theorem findRows (index : ReportIndex) (m : Model) (search : Condition) (clauses : Clauses)
    (h : ∀ q, c.scopedQuery m (c.dialect.find m m.columns) search clauses = .ok q → P q) :
    Leads R (c.findRows index m search clauses) :=
  .ofExcept_bind hR.toIsTrail fun q hq => hR.fetch index (h q hq)

end Steps

end Run

end RecordSql
