import RecordSql.Text.Digits
import RecordSql.Text.Parts

/-!
# Tables of characters

Sets of characters, and rules that put other characters in the place of some, written by code points in hexadecimal notation with a
space between the entries. `5f` is one character and `61-7a` the run from the first to the last. `41-5a=61` moves a run to the one
that starts at `61`, `100-12e/2=101` does so for every second character of it, and `132=69.6a` puts two characters in the place of
one.
-/

namespace RecordSql.Text

/-- The code points from the first to the last, in equal steps. -/
structure Run where
  first : Nat
  last : Nat
  step : Nat

namespace Run

/-- Whether a character is in the run. -/
def contains (r : Run) (c : Char) : Bool :=
  r.first ≤ c.toNat && c.toNat ≤ r.last && (c.toNat - r.first) % r.step == 0

/-- The run that an entry denotes. -/
def read? (entry : List Char) : Option Run := do
  let (bounds, step) ←
    match cutAt '/' entry with
    | [bounds] => some (bounds, 1)
    | [bounds, step] => some (bounds, ← hexDigitsValue 0 step)
    | _ => none
  match cutAt '-' bounds with
  | [only] => some ⟨← hexDigitsValue 0 only, ← hexDigitsValue 0 only, step⟩
  | [first, last] => some ⟨← hexDigitsValue 0 first, ← hexDigitsValue 0 last, step⟩
  | _ => none

end Run

/-- A set of characters. -/
structure CharSet where
  runs : List Run

namespace CharSet

/-- The set that the lines of a table denote. -/
def ofLines (lines : List String) : CharSet :=
  ⟨lines.flatMap fun line => (cutAt ' ' line.toList).filterMap Run.read?⟩

/-- Whether a character is in the set. -/
def contains (s : CharSet) (c : Char) : Bool :=
  s.runs.any (·.contains c)

end CharSet

/-- A rule that puts other characters in the place of those of a run. A single character moves along with the run. -/
structure CharRule where
  run : Run
  target : List Nat

namespace CharRule

/-- The rule that an entry denotes. -/
def read? (entry : List Char) : Option CharRule :=
  match cutAt '=' entry with
  | [run, target] => do some ⟨← Run.read? run, ← (cutAt '.' target).mapM (hexDigitsValue 0)⟩
  | _ => none

/-- What the rule puts in the place of a character. -/
def replacement? (r : CharRule) (c : Char) : Option (List Char) :=
  if r.run.contains c then
    match r.target with
    | [start] => some [Char.ofNat (start + (c.toNat - r.run.first))]
    | target => some (target.map Char.ofNat)
  else
    none

end CharRule

/-- A table of rules. At most one of them is about a character. -/
structure CharRules where
  rules : List CharRule

namespace CharRules

/-- The rules that the lines of a table denote. -/
def ofLines (lines : List String) : CharRules :=
  ⟨lines.flatMap fun line => (cutAt ' ' line.toList).filterMap CharRule.read?⟩

/-- What the rules put in the place of a character. -/
def replacement? (t : CharRules) (c : Char) : Option (List Char) :=
  t.rules.findSome? (·.replacement? c)

/-- The character in whose place the rules put the two characters. -/
def inverse? (t : CharRules) (first second : Char) : Option Char :=
  (t.rules.find? fun r => r.target == [first.toNat, second.toNat]).map fun r => Char.ofNat r.run.first

end CharRules

end RecordSql.Text
