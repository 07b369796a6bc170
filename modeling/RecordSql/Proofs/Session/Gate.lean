import RecordSql.Proofs.Session.Operation

/-!
# One gate for every statement

Whatever a session is asked to do, a statement reaches the executor in one way only: it is finished for the dialect, its answer is
collected, a line of the log tells of it when it failed or when the session asks for such lines, and it is entered into the report.
`Gated` says that two worlds differ by some such passages, with notes between them, and `run_gated` that this is all that an operation
does to its world.
-/

namespace RecordSql

/-- A statement on its way through the gate: the position it was sent from, the statement that was built, and the fault of its answer. -/
structure Passage where
  index : ReportIndex
  built : Statement
  fault : Option Fault

namespace Passage

variable {σ : Type} (c : Connection σ) (p : Passage)

/-- The statement that the executor receives. -/
def finished : Statement :=
  c.dialect.finish p.built

/-- The lines of the log that tell of the statement: one for a fault, and one for a success where the session asks for it. -/
def lines : List LogLine :=
  let shown := Text.shortened (p.finished c).sql ++ " " ++ (p.finished c).jsonArgs
  match p.fault with
  | some f => [⟨.error, f.message c.library ++ "\nwhile running " ++ shown⟩]
  | none => if c.config.debug then [⟨.debug, shown⟩] else []

/-- The entry of the statement in the report. -/
def entry : Entry :=
  ⟨p.index, (p.finished c).sql, (p.finished c).args, p.fault.map (Fault.message c.library)⟩

/-- The executor goes from one state to another when it receives the statements, and answers each of them with its fault or without. -/
inductive Answered : σ → List Passage → σ → Prop
  | nil (executor : σ) : Answered executor [] executor
  | cons {executor after : σ} {p : Passage} {rest : List Passage}
      (first : Connection.faultOf (c.executor.answer (p.finished c) executor).1.collect = p.fault)
      (others : Answered (c.executor.answer (p.finished c) executor).2 rest after) : Answered executor (p :: rest) after

variable {c}

theorem Answered.append {executor next after : σ} {ps qs : List Passage} (h : Answered c executor ps next)
    (h' : Answered c next qs after) : Answered c executor (ps ++ qs) after := by
  induction h with
  | nil => exact h'
  | cons first _ ih => exact .cons first (ih h')

end Passage

/-- What an operation does to its world, one thing after the other. -/
inductive Event where
  | passed (p : Passage)
  | noted (line : LogLine)

namespace Event

/-- The lines that an event leaves in the log. -/
def lines {σ : Type} (c : Connection σ) : Event → List LogLine
  | passed p => p.lines c
  | noted line => [line]

/-- The statement that an event sends. -/
def passage? : Event → Option Passage
  | passed p => some p
  | noted _ => none

/-- The statements that are sent, in order. -/
def passages (events : List Event) : List Passage :=
  events.filterMap passage?

@[simp] theorem passages_append (es fs : List Event) : passages (es ++ fs) = passages es ++ passages fs :=
  List.filterMap_append

theorem passages_noted (lines : List LogLine) : passages (lines.map noted) = [] := by
  rw [passages, List.filterMap_map]
  exact List.filterMap_eq_nil_iff.mpr fun _ _ => rfl

theorem lines_noted {σ : Type} (c : Connection σ) (lines : List LogLine) : (lines.map noted).flatMap (Event.lines c) = lines := by
  induction lines with
  | nil => rfl
  | cons line lines ih => rw [List.map_cons, List.flatMap_cons, ih, Event.lines, List.singleton_append]

end Event

/-- Two worlds differ by what some events did: the executor received the finished forms of their statements, which were built as `P` says,
and the log and the report tell of each of them, and the log also of other things. -/
structure Gated {σ : Type} (c : Connection σ) (P : Statement → Prop) (events : List Event) (w w' : World σ) : Prop where
  built : ∀ p ∈ Event.passages events, P p.built
  sent : w'.sent = w.sent ++ (Event.passages events).map (Passage.finished c)
  answered : Passage.Answered c w.executor (Event.passages events) w'.executor
  logged : w'.log = w.log ++ events.flatMap (Event.lines c)
  notes : ∀ line, .noted line ∈ events → line.IsNote c.dialect
  entered : w'.report.entries = w.report.entries ++ (Event.passages events).map (Passage.entry c)

namespace Gated

variable {σ : Type} {c : Connection σ} {P : Statement → Prop} {u v w : World σ}

theorem refl (w : World σ) : Gated c P [] w w where
  built _ hp := absurd hp List.not_mem_nil
  sent := (List.append_nil _).symm
  answered := .nil _
  logged := (List.append_nil _).symm
  notes _ h := absurd h List.not_mem_nil
  entered := (List.append_nil _).symm

theorem trans {es fs : List Event} (h : Gated c P es u v) (h' : Gated c P fs v w) : Gated c P (es ++ fs) u w where
  built p hp := by
    rw [Event.passages_append] at hp
    exact (List.mem_append.mp hp).elim (h.built p) (h'.built p)
  sent := by rw [h'.sent, h.sent, Event.passages_append, List.map_append, List.append_assoc]
  answered := by
    rw [Event.passages_append]
    exact h.answered.append h'.answered
  logged := by rw [h'.logged, h.logged, List.flatMap_append, List.append_assoc]
  notes line hline := (List.mem_append.mp hline).elim (h.notes line) (h'.notes line)
  entered := by rw [h'.entered, h.entered, Event.passages_append, List.map_append, List.append_assoc]

theorem mono {Q : Statement → Prop} {events : List Event} (h : Gated c P events v w) (hPQ : ∀ s, P s → Q s) :
    Gated c Q events v w :=
  { h with built := fun p hp => hPQ _ (h.built p hp) }

/-- Worlds that differ by notes in the log, and by what the report does not tell of statements. -/
theorem noted {lines : List LogLine} (hsent : w.sent = v.sent) (hexecutor : w.executor = v.executor)
    (hentries : w.report.entries = v.report.entries) (hlog : w.log = v.log ++ lines)
    (hnotes : ∀ line ∈ lines, line.IsNote c.dialect) : Gated c P (lines.map .noted) v w where
  built p hp := by
    rw [Event.passages_noted] at hp
    cases hp
  sent := by rw [Event.passages_noted, List.map_nil, List.append_nil, hsent]
  answered := by
    rw [Event.passages_noted, hexecutor]
    exact .nil _
  logged := by rw [Event.lines_noted, hlog]
  notes line hline := by
    obtain ⟨other, hother, heq⟩ := List.mem_map.mp hline
    cases heq
    exact hnotes line hother
  entered := by rw [Event.passages_noted, List.map_nil, List.append_nil, hentries]

theorem exists_described (t : RecordType) (w : World σ) : ∃ events, Gated c P events w (Run.described t w) := by
  obtain ⟨notes, hlog, hnotes⟩ := Run.exists_log_described c.dialect t w
  exact ⟨_, noted (Run.sent_described t w) (Run.executor_described t w) (by rw [Run.report_described]) hlog hnotes⟩

/-- The lines that are written for a statement are those of its passage. -/
theorem statementLines_eq (index : ReportIndex) (s : Statement) (result : Except Fault (List Reply)) :
    c.statementLines (c.dialect.finish s) result = Passage.lines c ⟨index, s, Connection.faultOf result⟩ := by
  cases result <;> rfl

/-- A statement that is sent passes the gate. -/
theorem sendStep (index : ReportIndex) {s : Statement} (h : P s) (w : World σ) :
    Gated c P [.passed ⟨index, s, Connection.faultOf (c.sendStep index s w).1⟩] w (c.sendStep index s w).2 where
  built p hp := by
    rw [List.mem_singleton.mp hp]
    exact h
  sent := rfl
  answered := .cons rfl (.nil _)
  logged := by
    rw [List.flatMap_singleton, Event.lines, ← statementLines_eq]
    rfl
  notes _ hline := by
    cases List.mem_singleton.mp hline
  entered := rfl

end Gated

/-- Every step passes the gate or leaves notes. -/
theorem Run.steps_gated {σ : Type} (c : Connection σ) (P : Statement → Prop) :
    Run.Steps c P fun w w' => ∃ events, Gated c P events w w' where
  refl w := ⟨[], .refl w⟩
  trans := fun ⟨es, h⟩ ⟨fs, h'⟩ => ⟨es ++ fs, h.trans h'⟩
  described := Gated.exists_described
  noted _ _ h := ⟨_, .noted rfl rfl rfl rfl h⟩
  failed index f _ := ⟨_, .noted rfl rfl rfl rfl fun _ hline => List.mem_singleton.mp hline ▸ .failure index f c.library⟩
  sent index _ w h := ⟨_, .sendStep index h w⟩

/-! ## Operations that give a report -/

namespace Session

variable {σ α β : Type}

/-- Every result of an operation comes with the report of its world. -/
def GivesReport (x : Run σ (Outcome α)) : Prop :=
  ∀ w outcome w', x.on w = (.ok outcome, w') → outcome.report = w'.report

/-- The report of the world is given at the end. -/
theorem givesReport_report (a : α) : GivesReport (σ := σ) (do return ⟨a, ← report⟩) := by
  intro w outcome w' h
  cases h
  rfl

theorem GivesReport.bind {x : Run σ β} {f : β → Run σ (Outcome α)} (hf : ∀ b, GivesReport (f b)) : GivesReport (x >>= f) := by
  intro w outcome w' h
  rw [Run.on_bind] at h
  rcases hx : x.on w with ⟨halt | b, v⟩ <;> rw [hx] at h
  · cases h
  · exact hf b v outcome w' h

/-- The report that comes with the result of an operation. -/
def Operation.report? : Operation α → α → Option Report
  | .insertMany _ _, outcome => some outcome.report
  | .find _ _, outcome => some outcome.report
  | _, _ => none

/-- A report that comes with a result is the one of the world. -/
theorem Operation.report_eq {c : Connection σ} {op : Operation α} {w : World σ} {a : α} {report : Report}
    (h : ((op.run c).on w).1 = .ok a) (hreport : op.report? a = some report) : report = ((op.run c).on w).2.report := by
  cases op with
  | insertMany t rs =>
    cases hreport
    have hgives : GivesReport (Session.insertMany c t rs) := .bind fun _ => .bind fun ids => givesReport_report ids
    exact hgives w a _ (Prod.ext h rfl)
  | find t request =>
    cases hreport
    have hgives : GivesReport (Session.find c t request) :=
      .bind fun _ => .bind fun _ => .bind fun _ => .bind fun _ => .bind fun records => givesReport_report records
    exact hgives w a _ (Prod.ext h rfl)
  | _ => cases hreport

end Session

/-- Whatever a session is asked to do, the executor receives the finished forms of statements that the operation builds and no others. The
log has one line for each that failed, and one for each other exactly where the session asks for such lines, in the order of sending and
with notes between them. A report that comes with the result has one entry for each, in this order, with an error exactly if it failed. -/
theorem run_gated {σ α : Type} (c : Connection σ) (op : Session.Operation α) (w : World σ) :
    ∃ events, Gated c (op.Builds c) events { w with report := {} } ((op.run c).on w).2 ∧
      ∀ a report, ((op.run c).on w).1 = .ok a → op.report? a = some report →
        report.entries = (Event.passages events).map (Passage.entry c) := by
  obtain ⟨events, hgated⟩ := op.leads_run (Run.steps_gated c (op.Builds c)) w
  refine ⟨events, hgated, fun a report ha hreport => ?_⟩
  rw [Session.Operation.report_eq ha hreport, hgated.entered]
  exact List.nil_append _

/-- A batch of three records, of which the second cannot be inserted and the third does not fit on the disk. -/
theorem run_gated_batch :
    ∃ (c : Connection Script) (t : RecordType) (rs : List Record) (w : World Script) (events : List Event)
      (outcome : Outcome (List (Option Int))),
      ((Session.insertMany c t rs).on w).1 = .ok outcome ∧
      Gated c ((Session.Operation.insertMany t rs).Builds c) events w ((Session.insertMany c t rs).on w).2 ∧
      outcome.report.entries = (Event.passages events).map (Passage.entry c) ∧
      outcome.report.entries.map (·.error) = [none, some "disk full"] ∧
      ((Session.insertMany c t rs).on w).2.log =
        [⟨.debug, "Described model note"⟩,
         ⟨.debug, "INSERT INTO \"note\" (\"a\")\nVALUES ($1) [\"x\"]"⟩,
         ⟨.warn, "Operation 1 failed: Model note does not have a field a"⟩,
         ⟨.error, "disk full\nwhile running INSERT INTO \"note\" (\"a\")\nVALUES ($1) [\"?\"]"⟩,
         ⟨.warn, "Operation 2 failed: disk full"⟩] := by
  let c : Connection Script := ⟨Script.executor, .postgres, {}, .silent⟩
  let t : RecordType := ⟨"note", "note", [.field (Field.of "a" .text)]⟩
  let rs : List Record := [.ofValues [("a", .varchar "x")], .ofValues [], .ofValues [("a", .varchar "?")]]
  let w : World Script := { executor := ⟨[[.ok (.affected {})], [.error (.database "disk full")]]⟩ }
  obtain ⟨events, hgated, hentries⟩ := run_gated c (.insertMany t rs) w
  exact ⟨c, t, rs, w, events, _, rfl, hgated, hentries _ _ rfl rfl, by decide +kernel, by decide +kernel⟩

end RecordSql
