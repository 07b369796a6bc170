import RecordSql.Log

/-!
# The registry of dialects

The dialects that a session can use, by name. Names are kept in alphabetical order, and a name stands for the dialect that was
registered last.
-/

namespace RecordSql

/-- The dialects by name, in the order of the names. -/
structure Registry where
  entries : List (String × Dialect) := []
  deriving DecidableEq

namespace Registry

/-- The entries with one more, in its place or in place of the one with its name. -/
def insertEntry (name : String) (d : Dialect) : List (String × Dialect) → List (String × Dialect)
  | [] => [(name, d)]
  | (other, e) :: rest =>
    if name = other then (name, d) :: rest
    else if name < other then (name, d) :: (other, e) :: rest
    else (other, e) :: insertEntry name d rest

/-- The dialect of the given name. -/
def get? (r : Registry) (name : String) : Option Dialect :=
  r.entries.lookup name

/-- The dialect of the given name, or the fault that there is none. -/
def get (r : Registry) (name : String) : Except Fault Dialect :=
  match r.get? name with
  | some d => .ok d
  | none => .error (.unknownDialect name)

/-- The registry with one more name. Registering a name again is logged. -/
def register (r : Registry) (name : String) (d : Dialect) : Registry × List LogLine :=
  (⟨insertEntry name d r.entries⟩,
    if (r.get? name).isSome then [⟨.debug, "Dialect " ++ name ++ " was registered again"⟩] else [])

/-- The names in order. -/
def names (r : Registry) : List String :=
  r.entries.map (·.1)

/-- The registry as messages show it. -/
def inspect (r : Registry) : String :=
  "\x7b" ++ ", ".intercalate (r.names.map fun name => (Scalar.varchar name).inspectContent) ++ "\x7d"

/-- The dialects that come with the library, by the schemes of their URLs. -/
def bundled : Registry :=
  ⟨[("generic", .generic), ("mysql", .mysql), ("postgres", .postgres), ("postgresql", .postgres), ("sqlite", .sqlite)]⟩

end Registry

end RecordSql
