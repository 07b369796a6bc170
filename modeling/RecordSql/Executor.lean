import RecordSql.Row
import RecordSql.Statement

/-!
# Executors

An executor answers a statement with a series of replies, in which faults may occur at any place, and goes on to a next state. What
is collected from a series is its first fault, or else everything wanted in it. An executor that follows a script gives one answer
of the script per statement and nothing after its end.
-/

namespace RecordSql

/-- What a database answers to one statement. -/
abbrev Response := List (Except Fault Reply)

namespace Response

/-- The replies of a response, or its first fault. -/
def collect : Response → Except Fault (List Reply)
  | [] => .ok []
  | .error f :: _ => .error f
  | .ok reply :: rest => (collect rest).map (reply :: ·)

/-- The rows of a response with its faults, in order. -/
def rowStream (r : Response) : List (Except Fault Row) :=
  r.filterMap fun
    | .ok reply => reply.row?.map .ok
    | .error f => some (.error f)

/-- The counts of a response with its faults, in order. -/
def affectedStream (r : Response) : List (Except Fault RowsAffected) :=
  r.filterMap fun
    | .ok reply => reply.affected?.map .ok
    | .error f => some (.error f)

/-- The items of a stream, or its first fault. -/
def firstFault {α : Type} : List (Except Fault α) → Except Fault (List α)
  | [] => .ok []
  | .error f :: _ => .error f
  | .ok a :: rest => (firstFault rest).map (a :: ·)

/-- The items of a stream added up until its first fault. -/
def total (sum : RowsAffected) : List (Except Fault RowsAffected) → Except Fault RowsAffected
  | [] => .ok sum
  | .error f :: _ => .error f
  | .ok a :: rest => total (sum.add a) rest

/-- The rows of a response, or its first fault. -/
def fetch (r : Response) : Except Fault (List Row) :=
  firstFault r.rowStream

/-- The counts of a response added up, or its first fault. -/
def execute (r : Response) : Except Fault RowsAffected :=
  total {} r.affectedStream

end Response

/-- Executors with states in `σ`. -/
structure Executor (σ : Type) where
  answer : Statement → σ → Response × σ

/-- The answers that are still to be given. -/
structure Script where
  responses : List Response := []

namespace Script

/-- The script with more answers at its end. -/
def respond (s : Script) (more : List Response) : Script :=
  ⟨s.responses ++ more⟩

/-- The number of answers that are left. -/
def pending (s : Script) : Nat :=
  s.responses.length

/-- The next answer and the rest of the script. -/
def next (s : Script) : Response × Script :=
  match s.responses with
  | [] => ([], s)
  | r :: rest => (r, ⟨rest⟩)

/-- The executor that follows a script, whatever it is asked. -/
def executor : Executor Script :=
  ⟨fun _ s => s.next⟩

end Script

end RecordSql
