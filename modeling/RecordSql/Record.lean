import RecordSql.Model.Declaration
import RecordSql.Row

/-!
# Records

A record of a type holds a value for each of its fields, and in named slots the records that relations attached to it. A record type
is known by its identifier: two types with the same identifier are the same and share their model.
-/

namespace RecordSql

/-- A type of records. -/
structure RecordType where
  id : String
  description : Description

/-- The model of a record type. -/
def RecordType.model (t : RecordType) : Model :=
  t.description.build.1

mutual

/-- The values of fields by name and the attached records by slot. -/
inductive Record where
  | mk (values : List (String × Value)) (slots : List (String × Attachment))

/-- What a relation attaches: at most one record, or several. -/
inductive Attachment where
  | one (child : Option Record)
  | many (children : List Record)

end

namespace Record

/-- The values of the fields, in order. -/
def values : Record → List (String × Value)
  | mk values _ => values

/-- What is attached, in the order of the first attachments. -/
def slots : Record → List (String × Attachment)
  | mk _ slots => slots

/-- A record without attachments. -/
def ofValues (values : List (String × Value)) : Record :=
  mk values []

/-- The value of a field. -/
def value? (r : Record) (field : String) : Option Value :=
  r.values.lookup field

/-- The key of the value of a field, unless it is NULL. -/
def key? (r : Record) (field : String) : Option Value :=
  (r.value? field).bind Value.key?

/-- What is attached to a slot. -/
def attached? (r : Record) (slot : String) : Option Attachment :=
  r.slots.lookup slot

/-- The slots with one of them set. -/
def setSlot (slot : String) (a : Attachment) : List (String × Attachment) → List (String × Attachment)
  | [] => [(slot, a)]
  | (other, b) :: rest => if slot = other then (slot, a) :: rest else (other, b) :: setSlot slot a rest

/-- The record with a slot set. Everything else stays as it is. -/
def attach (r : Record) (slot : String) (a : Attachment) : Record :=
  mk r.values (setSlot slot a r.slots)

/-- Whether a record leaves the value of a field to the database. -/
def leavesOut (r : Record) (f : Field) : Bool :=
  f.autoIncrement && (r.value? f.name).all Value.isZero

/-- The columns of the given fields with the values of the record, which must have them all. -/
def assignments (m : Model) (r : Record) : List Field → Except Fault (List Assignment)
  | [] => .ok []
  | f :: fs =>
    match r.value? f.name with
    | none => .error (.unknownField m.name f.name)
    | some v => (assignments m r fs).map (⟨f.column, v⟩ :: ·)

/-- The columns of an insert: all but those whose values the database generates. -/
def insertAssignments (m : Model) (r : Record) : Except Fault (List Assignment) :=
  r.assignments m (m.fields.filter fun f => !r.leavesOut f)

/-- The values of the fields of a row, decoded one after the other. -/
def decodeFields (row : Row) : List Field → Except Halt (List (String × Value))
  | [] => .ok []
  | f :: fs =>
    match Native.ofValueType? f.prototype.type with
    | none => decodeFields row fs
    | some target =>
      match row.get f.column target f.nullable with
      | .error h => .error h
      | .ok v => (decodeFields row fs).map ((f.name, v) :: ·)

/-- The record of a row of its table. -/
def ofRow (m : Model) (row : Row) : Except Halt Record :=
  (decodeFields row m.fields).map ofValues

/-- The records of rows, or the first reason why a row has none. -/
def ofRows (m : Model) : List Row → Except Halt (List Record)
  | [] => .ok []
  | row :: rows =>
    match ofRow m row with
    | .error h => .error h
    | .ok r => (ofRows m rows).map (r :: ·)

end Record

end RecordSql
