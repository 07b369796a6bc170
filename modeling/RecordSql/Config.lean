import RecordSql.Log
import RecordSql.Url.Basic

/-!
# Session options

A session is told its dialect, whether it logs the statements that succeed, and whether it honours soft deletion. All three can be
read from a connection URL; parameters it does not know are left to the driver.
-/

namespace RecordSql

/-- The options of a session. -/
structure Config where
  /-- The name of the dialect. -/
  dialect : String := "generic"
  /-- Whether statements that succeed are logged. -/
  debug : Bool := true
  /-- Whether deleting a record only marks it, and marked rows are not read. -/
  softDelete : Bool := true
  deriving DecidableEq

namespace Config

/-- The truth value of a parameter. -/
def flag? (value : String) : Option Bool :=
  if ["true", "1", "yes", "on"].contains value then some true
  else if ["false", "0", "no", "off"].contains value then some false
  else none

/-- The truth value of a parameter, or the fault that it has none. -/
def flag (name value : String) : Logged Bool :=
  match flag? value with
  | some b => pure b
  | none => throw (.failed (.notAFlag name value))

/-- The options after one parameter. -/
def apply (c : Config) : String × String → Logged Config
  | (name, value) =>
    if name = "debug" then return { c with debug := ← flag name value }
    else if name = "soft_delete" then return { c with softDelete := ← flag name value }
    else do
      Logged.line .debug ("Session parameter " ++ name ++ " is left to the driver")
      pure c

/-- The options that a connection URL sets. -/
def ofUrl (text : String) : Logged Config :=
  match Url.read? text with
  | none => throw (.failed (.invalidUrl text))
  | some url => url.parameters.foldlM apply { dialect := url.scheme }

end Config

end RecordSql
