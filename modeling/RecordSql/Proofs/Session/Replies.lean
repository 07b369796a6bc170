import Mathlib.Algebra.Ring.Nat
import Mathlib.Data.List.Basic
import Mathlib.Data.List.Induction
import RecordSql.Proofs.Session.Sends

/-!
# What is collected from an answer

The answer to a statement is a series of replies in which faults may occur at any place. Rows and counts can be taken out of the series one
by one, or after the whole series was collected: either way the first fault is the result, also after rows, and without a fault the result
holds what all replies say (`firstFault_stream`, `total_eq`). A session takes the second way and an executor the first one
(`session_collects`).
-/

namespace RecordSql

namespace RowsAffected

/-- The sum of the counts that are reported, if any is. -/
def sum? (counts : List Nat) : Option Nat :=
  if counts.isEmpty then none else some counts.sum

/-- A further count is added to the sum of those before it. -/
theorem sum?_concat (counts : List Nat) (n : Nat) : sum? (counts ++ [n]) = some ((sum? counts).getD 0 + n) := by
  cases counts with
  | nil => simp [sum?]
  | cons m counts => simp [sum?, Nat.add_assoc]

/-- The counts of a number of reports add up, and those that report none do not matter. -/
theorem count_extend (more : List RowsAffected) : (extend {} more).count = sum? (more.filterMap (·.count)) := by
  induction more using List.reverseRecOn with
  | nil => rfl
  | append_singleton more a ih =>
    have hlast : extend {} (more ++ [a]) = (extend {} more).add a := by
      rw [extend_append]
      rfl
    rw [hlast, List.filterMap_append]
    cases ha : a.count with
    | none => simp [add, ha, ih]
    | some n => simp [add, ha, ih, sum?_concat]

/-- The last identifier among some counts is the one that the last of them with an identifier has. -/
theorem lastId_extend (more : List RowsAffected) : (extend {} more).lastId = (more.filterMap (·.lastId)).getLast? := by
  induction more using List.reverseRecOn with
  | nil => rfl
  | append_singleton more a ih =>
    have hlast : (extend {} (more ++ [a])).lastId = a.lastId.orElse fun _ => (extend {} more).lastId := by
      rw [extend_append]
      rfl
    rw [hlast, ih, List.filterMap_append]
    cases ha : a.lastId with
    | none => simp [ha]
    | some n => simp [ha]

/-- Reports may be added up batch by batch. -/
theorem foldl_extend (total : RowsAffected) (batches : List (List RowsAffected)) :
    batches.foldl extend total = total.extend batches.flatten := by
  induction batches generalizing total with
  | nil => rfl
  | cons batch batches ih => rw [List.foldl_cons, ih, List.flatten_cons, extend_append]

/-- The total of the first reports is not above the sum of all counts. -/
theorem count_extend_le {taken left : List RowsAffected} :
    (extend {} taken).count.getD 0 ≤ ((taken ++ left).filterMap (·.count)).sum := by
  rw [count_extend, List.filterMap_append, List.sum_append]
  unfold sum?
  split
  · exact Nat.zero_le _
  · exact Nat.le_add_right _ _

end RowsAffected

namespace Response

variable {α β : Type}

/-- The first fault of a series. -/
def fault? (series : List (Except Fault α)) : Option Fault :=
  series.findSome? fun
    | .ok _ => none
    | .error f => some f

/-- What a series holds besides its faults, in order. -/
def found (series : List (Except Fault α)) : List α :=
  series.filterMap Except.toOption

/-- A result for a series without faults, or the first fault. -/
def unlessFault (series : List (Except Fault α)) (result : β) : Except Fault β :=
  match fault? series with
  | none => .ok result
  | some f => .error f

/-- The items that are picked out of a series, with its faults, in order. -/
def picked (pick : α → Option β) (series : List (Except Fault α)) : List (Except Fault β) :=
  series.filterMap fun
    | .ok a => (pick a).map .ok
    | .error f => some (.error f)

theorem collect_eq (r : Response) : r.collect = firstFault r := by
  induction r with
  | nil => rfl
  | cons item r ih =>
    cases item with
    | error f => rfl
    | ok reply => rw [collect, firstFault, ih]

/-- The first fault of a series ends it, and without one everything that it holds is the result. -/
theorem firstFault_eq (series : List (Except Fault α)) : firstFault series = unlessFault series (found series) := by
  induction series with
  | nil => rfl
  | cons item series ih =>
    cases item with
    | error f => rfl
    | ok a =>
      rw [firstFault, ih]
      change (unlessFault series (found series)).map _ = unlessFault series (a :: found series)
      unfold unlessFault
      cases fault? series <;> rfl

/-- Picking items out of a series and collecting them is collecting the series and picking out of the result. -/
theorem firstFault_picked (pick : α → Option β) (series : List (Except Fault α)) :
    firstFault (picked pick series) = (firstFault series).map (·.filterMap pick) := by
  induction series with
  | nil => rfl
  | cons item series ih =>
    cases item with
    | error f => rfl
    | ok a =>
      cases hpick : pick a with
      | none =>
        have hskip : picked pick (.ok a :: series) = picked pick series := by simp [picked, hpick]
        rw [hskip, ih, firstFault]
        cases firstFault series <;> simp [Except.map, hpick]
      | some b =>
        have hkeep : picked pick (.ok a :: series) = .ok b :: picked pick series := by simp [picked, hpick]
        rw [hkeep, firstFault, ih, firstFault]
        cases firstFault series <;> simp [Except.map, hpick]

/-- Adding reports one by one until the first fault is adding up those that are collected. -/
theorem total_eq (sum : RowsAffected) (series : List (Except Fault RowsAffected)) :
    total sum series = (firstFault series).map sum.extend := by
  induction series generalizing sum with
  | nil => rfl
  | cons item series ih =>
    cases item with
    | error f => rfl
    | ok a =>
      rw [total, ih, firstFault]
      cases firstFault series <;> rfl

variable {r : Response}

/-- The rows of an answer, its faults left out. -/
def rows (r : Response) : List Row :=
  (found r).filterMap Reply.row?

/-- The reports of affected rows in an answer, its faults left out. -/
def reports (r : Response) : List RowsAffected :=
  (found r).filterMap Reply.affected?

/-- The counts that an answer reports. -/
def counts (r : Response) : List Nat :=
  r.reports.filterMap (·.count)

/-- The identifiers that an answer reports. -/
def lastIds (r : Response) : List Int :=
  r.reports.filterMap (·.lastId)

/-- The total of the reports of an answer: the sum of the counts and the last identifier, as far as there are any. -/
def reportedTotal (r : Response) : RowsAffected :=
  ⟨RowsAffected.sum? r.counts, r.lastIds.getLast?⟩

theorem extend_reports (r : Response) : RowsAffected.extend {} r.reports = r.reportedTotal := by
  have hcount := RowsAffected.count_extend r.reports
  have hlast := RowsAffected.lastId_extend r.reports
  rw [reportedTotal, counts, lastIds, ← hcount, ← hlast]

theorem map_unlessFault {γ : Type} (series : List (Except Fault α)) (result : β) (f : β → γ) :
    (unlessFault series result).map f = unlessFault series (f result) := by
  unfold unlessFault
  cases fault? series <;> rfl

/-- Fetching gives the rows of an answer, or its first fault. -/
theorem fetch_eq (r : Response) : r.fetch = unlessFault r r.rows := by
  have hstream : r.rowStream = picked Reply.row? r := List.filterMap_congr fun item _ => by cases item <;> rfl
  rw [fetch, hstream, firstFault_picked, firstFault_eq, map_unlessFault, rows]

/-- Executing gives the total of an answer, or its first fault. -/
theorem execute_eq (r : Response) : r.execute = unlessFault r r.reportedTotal := by
  have hstream : r.affectedStream = picked Reply.affected? r := List.filterMap_congr fun item _ => by cases item <;> rfl
  rw [execute, hstream, total_eq, firstFault_picked, firstFault_eq, map_unlessFault, map_unlessFault, ← extend_reports, reports]

end Response

/-- The result of fetching in a session is the result of fetching from the answer to the finished statement. -/
theorem Connection.result_fetch {σ : Type} (c : Connection σ) (index : ReportIndex) (s : Statement) (w : World σ) :
    ((c.fetch index s).on w).1 = (c.executor.answer (c.dialect.finish s) w.executor).1.fetch.mapError .failed := by
  have hcollect : (c.sendStep index s w).1 = (c.executor.answer (c.dialect.finish s) w.executor).1.collect := rfl
  rw [on_fetch, hcollect, Response.fetch_eq, Response.collect_eq, Response.firstFault_eq]
  unfold Response.unlessFault
  cases Response.fault? (c.executor.answer (c.dialect.finish s) w.executor).1 <;> rfl

/-- The result of executing in a session is the result of executing from the answer to the finished statement. -/
theorem Connection.result_execute {σ : Type} (c : Connection σ) (index : ReportIndex) (s : Statement) (w : World σ) :
    ((c.execute index s).on w).1 = (c.executor.answer (c.dialect.finish s) w.executor).1.execute.mapError .failed := by
  have hcollect : (c.sendStep index s w).1 = (c.executor.answer (c.dialect.finish s) w.executor).1.collect := rfl
  rw [on_execute, hcollect, Response.execute_eq, Response.collect_eq, Response.firstFault_eq, ← Response.extend_reports]
  unfold Response.unlessFault
  cases Response.fault? (c.executor.answer (c.dialect.finish s) w.executor).1 <;> rfl

/-- In a dialect that sends statements as they are, a session and an executor get the same out of every answer. Both fail with its first
fault, wherever it stands; without one fetching gives all rows in order, and executing gives the sum of all counts, which is unknown only
when none is reported, with the last identifier. The reports may be added up in any batches. When the sum of the counts is an unsigned number
of 64 bits, so is the total after any part of the reports. -/
theorem session_collects {σ : Type} (c : Connection σ) (index : ReportIndex) (s : Statement) (w : World σ)
    (hfinish : ∀ s, c.dialect.finish s = s) (hsum : IntegerType.uint64.Holds (c.executor.answer s w.executor).1.counts.sum) :
    let r := (c.executor.answer s w.executor).1
    ((c.fetch index s).on w).1 = r.fetch.mapError .failed ∧
    ((c.execute index s).on w).1 = r.execute.mapError .failed ∧
    r.fetch = Response.unlessFault r r.rows ∧
    r.execute = Response.unlessFault r r.reportedTotal ∧
    (∀ batches : List (List RowsAffected), batches.flatten = r.reports → batches.foldl RowsAffected.extend {} = r.reportedTotal) ∧
    ∀ taken left, r.reports = taken ++ left → IntegerType.uint64.Holds ((RowsAffected.extend {} taken).count.getD 0) := by
  intro r
  have hr : (c.executor.answer (c.dialect.finish s) w.executor).1 = r := by rw [hfinish]
  refine ⟨?_, ?_, r.fetch_eq, r.execute_eq, ?_, ?_⟩
  · rw [c.result_fetch, hr]
  · rw [c.result_execute, hr]
  · intro batches hbatches
    rw [RowsAffected.foldl_extend, hbatches, r.extend_reports]
  · intro taken left hreports
    have hpart : (RowsAffected.extend {} taken).count.getD 0 ≤ r.counts.sum := by
      rw [Response.counts, hreports]
      exact RowsAffected.count_extend_le
    have hbound : (r.counts.sum : Int) ≤ IntegerType.uint64.greatest := hsum.2
    have hleast : IntegerType.uint64.least = 0 := rfl
    constructor <;> omega

/-- From a row, a count, an identifier and another count a session fetches the row, and executing gives the sum of the counts with the
identifier. With a fault behind them both fail with it. -/
theorem session_collects_sweep :
    ∃ (c : Connection Script) (row : Row) (w broken : World Script),
      ((c.fetch .root (.ofText "CALL sweep")).on w).1 = .ok [row] ∧
      ((c.execute .root (.ofText "CALL sweep")).on w).1 = .ok ⟨some 5, some 7⟩ ∧
      ((c.fetch .root (.ofText "CALL sweep")).on broken).1 = .error (.failed (.database "disk full")) ∧
      ((c.execute .root (.ofText "CALL sweep")).on broken).1 = .error (.failed (.database "disk full")) := by
  let c : Connection Script := ⟨Script.executor, .sqlite, {}, .silent⟩
  let row : Row := ⟨["n"], [.varchar "swept"]⟩
  let replies : Response :=
    [.ok (.row row), .ok (.affected ⟨some 2, none⟩), .ok (.affected ⟨none, some 7⟩), .ok (.affected ⟨some 3, none⟩)]
  let w : World Script := { executor := ⟨[replies]⟩ }
  let broken : World Script := { executor := ⟨[replies ++ [.error (.database "disk full")]]⟩ }
  obtain ⟨hfetch, hexecute, hrows, htotal, -⟩ := session_collects c .root (.ofText "CALL sweep") w (fun _ => rfl) (by decide)
  obtain ⟨hfetch', hexecute', hrows', htotal', -⟩ := session_collects c .root (.ofText "CALL sweep") broken (fun _ => rfl) (by decide)
  exact ⟨c, row, w, broken, hfetch.trans (congrArg _ hrows), hexecute.trans (congrArg _ htotal), hfetch'.trans (congrArg _ hrows'),
    hexecute'.trans (congrArg _ htotal')⟩

end RecordSql
