import RecordSql.Proofs.Session.Ends

/-!
# What operations enter into a report

Every statement that is sent is entered into the report of its operation, and a fault that does not end the operation as a failure.
`Run.Enters` says what was entered between two worlds; the entries of one after the other are those of both.
-/

namespace RecordSql

/-- The statement of an entry. -/
def Entry.statement (e : Entry) : Statement :=
  ⟨e.sql, e.args⟩

/-- Between two worlds some entries were made, each for a statement that was sent, and some failures. -/
structure Run.Enters {σ : Type} (w w' : World σ) (entries : List Entry) (failures : List Failure) : Prop where
  entered : w'.report.entries = w.report.entries ++ entries
  failed : w'.report.failures = w.report.failures ++ failures
  sent : w'.sent = w.sent ++ entries.map Entry.statement

namespace Run.Enters

variable {σ : Type} {u v w : World σ} {entries more : List Entry} {failures others : List Failure}

theorem refl (w : World σ) : Enters w w [] [] := by
  refine ⟨?_, ?_, ?_⟩ <;> simp

theorem trans (h : Enters u v entries failures) (h' : Enters v w more others) :
    Enters u w (entries ++ more) (failures ++ others) where
  entered := by rw [h'.entered, h.entered, List.append_assoc]
  failed := by rw [h'.failed, h.failed, List.append_assoc]
  sent := by rw [h'.sent, h.sent, List.map_append, List.append_assoc]

/-- Describing a model enters nothing. -/
theorem described (t : RecordType) (w : World σ) : Enters w (Run.described t w) [] [] where
  entered := by rw [Run.report_described, List.append_nil]
  failed := by rw [Run.report_described, List.append_nil]
  sent := by rw [Run.sent_described, List.map_nil, List.append_nil]

/-- A failure is entered by itself. -/
theorem fail (index : ReportIndex) (message : String) (w : World σ) :
    Enters w ((Run.recordFailure index message).on w).2 [] [⟨index, message⟩] where
  entered := (List.append_nil _).symm
  failed := rfl
  sent := (List.append_nil _).symm

end Run.Enters

namespace Connection

variable {σ : Type} (c : Connection σ) (index : ReportIndex) (s : Statement) (w : World σ)

/-- The entry of a statement that is sent, with the fault of its answer if there is one. -/
def entry : Entry :=
  ⟨index, (c.dialect.finish s).sql, (c.dialect.finish s).args, (faultOf (c.sendStep index s w).1).map (Fault.message c.library)⟩

/-- Sending a statement makes its entry. -/
theorem enters_sendStep : Run.Enters w (c.sendStep index s w).2 [c.entry index s w] [] :=
  ⟨rfl, (List.append_nil _).symm, rfl⟩

variable {w} {v : World σ} (h : v.executor = w.executor) (other : ReportIndex)

include h

/-- An executor in the same state gives the same answer, and goes on to the same state. -/
theorem sendStep_alike : (c.sendStep index s v).1 = (c.sendStep other s w).1 ∧
    (c.sendStep index s v).2.executor = (c.sendStep other s w).2.executor := by
  simp only [sendStep, h, and_self]

/-- An executor in the same state leads to the same entry, but for the position. -/
theorem entry_alike : c.entry index s v = { c.entry other s w with index } := by
  rw [entry, (c.sendStep_alike index s h other).1]
  rfl

end Connection

end RecordSql
