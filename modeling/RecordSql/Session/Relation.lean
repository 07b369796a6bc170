import RecordSql.Session.Run

/-!
# Relations

A relation says how the records of one type are linked to those of another, and in which slot the linked records go. It is resolved
for a whole list of parents with one query, or with two when the link goes through a join table, and then for the records it loaded.
A relation that fails is entered into the report and leaves the parents as they were; the relations after it are still resolved.
-/

namespace RecordSql

/-- A table whose rows pair the keys of two others. The fields are those of its own model. -/
structure JoinTable where
  type : RecordType
  parent : String
  child : String

/-- How many records a slot takes. -/
inductive Arity where
  | one
  | many
  deriving DecidableEq, Repr

/-- A link from a type of parents to a type of children. A key that is not named is the primary key. -/
structure Link where
  /-- The name that the link has in messages. -/
  container : String
  /-- The slot of a parent that takes its children. -/
  slot : String
  child : RecordType
  parentKey : Option String := none
  childKey : Option String := none
  join : Option JoinTable := none
  arity : Arity

/-- A link with the relations that are resolved for the children. -/
inductive Relation where
  | mk (link : Link) (nested : List Relation)

namespace Relation

/-- The link of a relation. -/
def link : Relation → Link
  | mk link _ => link

/-- The relations that are resolved for the children. -/
def nested : Relation → List Relation
  | mk _ nested => nested

/-- The child holds the key of the parent, and a parent has at most one child. -/
def oneToOne (container slot : String) (child : RecordType) (key : String) (nested : List Relation) : Relation :=
  mk { container, slot, child, childKey := some key, arity := .one } nested

/-- The child holds the key of the parent. -/
def oneToMany (container slot : String) (child : RecordType) (key : String) (nested : List Relation) : Relation :=
  mk { container, slot, child, childKey := some key, arity := .many } nested

/-- The parent holds the key of the child. -/
def belongsTo (container slot : String) (child : RecordType) (key : String) (nested : List Relation) : Relation :=
  mk { container, slot, child, parentKey := some key, arity := .one } nested

/-- A join table holds the keys of both. -/
def manyToMany (container slot : String) (child : RecordType) (join : JoinTable) (nested : List Relation) : Relation :=
  mk { container, slot, child, join := some join, arity := .many } nested

end Relation

/-- What is attached to a parent with the given children. -/
def Attachment.ofChildren : Arity → List Record → Attachment
  | .one, children => .one children.head?
  | .many, children => .many children

namespace Link

variable {σ : Type}

/-- The parents with their children attached. A parent without a key has none. -/
def attachAll (link : Link) (childrenOf : Value → List Record) (parents : List (Record × Option Value)) : List Record :=
  parents.map fun (parent, key) =>
    parent.attach link.slot (.ofChildren link.arity (key.elim [] childrenOf))

/-- Whether the key of a field of a record is the given one. -/
def hasKey (field : String) (key : Value) (r : Record) : Bool :=
  (r.value? field).any fun v => v.key.same key

/-- The children with one of the given keys, with their own relations resolved. -/
def load (c : Connection σ) (index : ReportIndex) (m : Model) (field : Field) (keys : List Value)
    (resolveNested : List Record → Run σ (List Record)) : Run σ (List Record) := do
  let rows ← c.findRows index m (.member false field.column keys) {}
  let children ← Run.ofHalt (Record.ofRows m rows)
  resolveNested children

/-- The children of each key, for a link whose children hold the key or are named by it. -/
def loadDirect (link : Link) (c : Connection σ) (index : ReportIndex) (child : Model) (keys : List Value)
    (resolveNested : List Record → Run σ (List Record)) : Run σ (Value → List Record) := do
  let field ← Run.ofExcept (child.keyField link.childKey)
  let children ← load c index child field keys resolveNested
  return fun key => children.filter (hasKey field.name key)

/-- The keys that a row of a join table pairs. A row without one of the columns, or with a NULL in it, pairs nothing. -/
def pair? (parent child : String) (row : Row) : Except Abort (Option (Value × Value)) := do
  match ← row.column? parent with
  | none => return none
  | some p =>
    match ← row.column? child with
    | none => return none
    | some q => return do some (← p.key?, ← q.key?)

/-- The pairs of the rows of a join table. -/
def pairs (parent child : String) : List Row → Except Abort (List (Value × Value))
  | [] => .ok []
  | row :: rows => do
    let first ← pair? parent child row
    let rest ← pairs parent child rows
    return first.toList ++ rest

/-- The children of each key, for a link through a join table. Of several children with one key the first counts. -/
def loadJoined (join : JoinTable) (c : Connection σ) (index : ReportIndex) (child : Model) (keys : List Value)
    (resolveNested : List Record → Run σ (List Record)) : Run σ (Value → List Record) := do
  let m ← Run.model join.type
  let parentField ← Run.ofExcept (m.requireField join.parent)
  let childField ← Run.ofExcept (m.requireField join.child)
  let query := c.dialect.find m [parentField.column, childField.column]
  let s ← Run.ofExcept (c.scopedQuery m query (.member false parentField.column keys) {})
  let rows ← Run.during (.loadingJoin m.name) (c.fetch index s)
  let found ← Run.ofHalt (Halt.ofAbort (pairs parentField.column childField.column rows))
  let wanted := Value.distinct (found.map (·.2))
  if wanted.isEmpty then
    return fun _ => []
  else
    let keyField ← Run.ofExcept child.requireOnePrimary
    let children ← Run.during (.loadingThrough child.name m.name) (load c index child keyField wanted resolveNested)
    return fun key => (found.filter fun p => p.1.same key).filterMap fun p => children.find? (hasKey keyField.name p.2)

/-- The parents with the children of the link attached, unless no parent has a key. -/
def tryResolve (link : Link) (c : Connection σ) (parentType : RecordType) (index : ReportIndex)
    (resolveNested : List Record → Run σ (List Record)) (parents : List Record) : Run σ (List Record) := do
  let parentModel ← Run.model parentType
  let childModel ← Run.model link.child
  let field ← Run.ofExcept (parentModel.keyField link.parentKey)
  let keyed := parents.map fun parent => (parent, parent.key? field.name)
  let keys := Value.distinct (keyed.filterMap (·.2))
  if keys.isEmpty then
    Run.writeLog [⟨.debug, "No " ++ parentModel.name ++ " key to preload " ++ link.container ++ " with"⟩]
    return parents
  else
    let childrenOf ←
      match link.join with
      | none => link.loadDirect c index childModel keys resolveNested
      | some join => loadJoined join c index childModel keys resolveNested
    return link.attachAll childrenOf keyed

/-- The parents with the children of the link attached. After a fault they are as they were, and the report says so. -/
def resolve (link : Link) (c : Connection σ) (parentType : RecordType) (index : ReportIndex)
    (resolveNested : List Record → Run σ (List Record)) (parents : List Record) : Run σ (List Record) := do
  match ← Run.attempt (link.tryResolve c parentType index resolveNested parents) with
  | .ok resolved => return resolved
  | .error f =>
    Run.recordFailure index (f.message c.library)
    return parents

end Link

variable {σ : Type}

/-- Resolves relations for a list of records, unless there are no records. -/
def Relation.unlessNone (resolveAll : List Record → Run σ (List Record)) (parents : List Record) : Run σ (List Record) :=
  if parents.isEmpty then pure parents else resolveAll parents

mutual

/-- Resolves one relation, which stands at the given position. -/
def Relation.resolve (c : Connection σ) (parentType : RecordType) (index : ReportIndex) :
    Relation → List Record → Run σ (List Record)
  | .mk link nested, parents =>
    link.resolve c parentType index
      (Relation.unlessNone fun children => Relation.resolveFrom c link.child index 0 nested children) parents

/-- Resolves relations in order, the first of which is at place `i` below the position. -/
def Relation.resolveFrom (c : Connection σ) (parentType : RecordType) (index : ReportIndex) (i : Nat) :
    List Relation → List Record → Run σ (List Record)
  | [], parents => pure parents
  | relation :: relations, parents => do
    let parents ← Relation.resolve c parentType (index.child i) relation parents
    Relation.resolveFrom c parentType index (i + 1) relations parents

end

/-- Resolves relations for the records that an operation found at the given position. Without records nothing is asked. -/
def Relation.preload (c : Connection σ) (parentType : RecordType) (index : ReportIndex) (relations : List Relation) :
    List Record → Run σ (List Record) :=
  Relation.unlessNone (Relation.resolveFrom c parentType index 0 relations)

end RecordSql
