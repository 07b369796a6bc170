/-!
# Positions in a report

A statement of an operation has a position: the number of the item in its batch, followed by the path through the relations that
are loaded with it. The root query of a find is `0`, its second relation `0-1`, the first relation of that `0-1-0`. Positions are
ordered like words: by the first number that differs, and a path comes before its continuations.
-/

namespace RecordSql

/-- The position of a statement in an operation. -/
structure ReportIndex where
  path : List Nat
  deriving DecidableEq

namespace ReportIndex

/-- The position of the statement of an operation that has only one. -/
def root : ReportIndex := ⟨[0]⟩

/-- The position of item `i` of a batch. -/
def item (i : Nat) : ReportIndex := ⟨[i]⟩

/-- The position of relation `i` below a position. -/
def child (index : ReportIndex) (i : Nat) : ReportIndex :=
  ⟨index.path ++ [i]⟩

@[simp] theorem path_child (index : ReportIndex) (i : Nat) : (index.child i).path = index.path ++ [i] := rfl

/-- The numbers with hyphens between them. -/
def text (index : ReportIndex) : String :=
  "-".intercalate (index.path.map toString)

/-- The order of two paths. -/
def comparePaths : List Nat → List Nat → Ordering
  | [], [] => .eq
  | [], _ :: _ => .lt
  | _ :: _, [] => .gt
  | a :: as, b :: bs => (compare a b).then (comparePaths as bs)

/-- The order of two positions. -/
def order (x y : ReportIndex) : Ordering :=
  comparePaths x.path y.path

/-- The positions in order; equal ones keep their places. -/
def sort (indexes : List ReportIndex) : List ReportIndex :=
  indexes.mergeSort fun x y => x.order y != .gt

end ReportIndex

/-- A batch item or a relation that did not complete. -/
structure Failure where
  index : ReportIndex
  error : String
  deriving DecidableEq

/-- A failure as the summary of a report shows it. -/
def Failure.text (f : Failure) : String :=
  f.index.text ++ " (" ++ f.error ++ ")"

end RecordSql
