import RecordSql.Log
import RecordSql.Model.Basic

/-!
# Declaring models

A model is built from declarations in order. A declaration that repeats a field name, or that mentions a field not declared before
it, is refused with a warning and changes nothing.
-/

namespace RecordSql

/-- A declaration of a model. -/
inductive Declaration where
  | field (f : Field)
  | index (name : String) (fields : List String) (unique : Bool)
  | foreignKey (field table column : String)

namespace Model

/-- The warning with which a declaration is refused, if it is. -/
def objection? (m : Model) : Declaration → Option String
  | .field f =>
    if (m.field? f.name).isSome then
      some ("Model " ++ m.name ++ " declares the field " ++ f.name ++ " twice, the latter is ignored")
    else
      none
  | .index name fields _ =>
    (fields.find? fun f => (m.field? f).isNone).map fun missing =>
      "Index " ++ name ++ " of model " ++ m.name ++ " references the unknown field " ++ missing
  | .foreignKey field _ _ =>
    if (m.field? field).isNone then
      some ("Foreign key of model " ++ m.name ++ " references the unknown field " ++ field)
    else
      none

/-- The model with a declaration added, whether or not it is in order. -/
def add (m : Model) : Declaration → Model
  | .field f => { m with fields := m.fields ++ [f] }
  | .index name fields unique => { m with indexes := m.indexes ++ [⟨name, fields, unique⟩] }
  | .foreignKey field table column => { m with foreignKeys := m.foreignKeys ++ [⟨field, table, column⟩] }

/-- One declaration: the model after it and the warnings it gives. -/
def declare (m : Model) (d : Declaration) : Model × List LogLine :=
  match m.objection? d with
  | some warning => (m, [⟨.warn, warning⟩])
  | none => (m.add d, [])

/-- Declarations in order: the model after them and the warnings they give. -/
def declareAll (m : Model) : List Declaration → Model × List LogLine
  | [] => (m, [])
  | d :: ds =>
    let (m, first) := m.declare d
    let (m, rest) := m.declareAll ds
    (m, first ++ rest)

/-- The warning about a model with more than one field for the time of deletion. -/
def closingWarnings (m : Model) : List LogLine :=
  if (m.fields.filter (·.softDelete)).length > 1 then
    [⟨.warn, "Model " ++ m.name ++ " declares more than one soft delete field, only the first is used"⟩]
  else
    []

end Model

/-- The declarations of a table, in order. -/
structure Description where
  name : String
  declarations : List Declaration

/-- The model of a description, with the warnings that building it gives. -/
def Description.build (d : Description) : Model × List LogLine :=
  let (m, warnings) := Model.declareAll { name := d.name } d.declarations
  (m, warnings ++ m.closingWarnings)

end RecordSql
