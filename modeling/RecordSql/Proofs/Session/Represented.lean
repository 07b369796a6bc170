import RecordSql.Proofs.Session.Paired
import RecordSql.Proofs.Value.Typed

/-!
# Links through a join table and the kinds of their cells

What a row of a join table means is which child it links to which parent when its columns are decoded as the key fields are. This does not
depend on how the database represents the cells. A many-to-many relation compares the keys of the cells instead: it attaches what those
rows mean whose cells are of the kind of the key fields, and nothing for the others (`paired_eq`). So two answers that represent the same
link the same children exactly when no row that means something has a cell of another kind (`joined_same_iff_of_kind`).
-/

namespace RecordSql

/-- Whether the value of a field is a scalar. -/
def Record.holds (field : String) (s : Scalar) (r : Record) : Bool :=
  (r.value? field).any fun v => v.same (.of s)

/-- The scalar that a cell of a row decodes to. -/
def Row.decoded? (T : Native) (label : String) (row : Row) : Option Scalar :=
  (row.cell? label).bind fun v => (v.decode T).toOption

/-- The fields through which a join table links records of two types: the key field of each, which has a native type, and the two fields of
the join table that refer to them. -/
structure Crossing (t child : RecordType) (join : JoinTable) where
  parentField : Field
  parentType : Native
  childField : Field
  childType : Native
  joinParent : Field
  joinChild : Field
  requireParent : t.model.requireOnePrimary = .ok parentField
  typeOfParent : Native.ofValueType? parentField.prototype.type = some parentType
  requireChild : child.model.requireOnePrimary = .ok childField
  typeOfChild : Native.ofValueType? childField.prototype.type = some childType
  requireJoinParent : join.type.model.requireField join.parent = .ok joinParent
  requireJoinChild : join.type.model.requireField join.child = .ok joinChild

namespace Crossing

variable {t child : RecordType} {join : JoinTable} (x : Crossing t child join)

/-- The child that a row of the join table means for a parent. Its cells are decoded as the key fields are and compared with what these
hold. -/
def meant? (children : List Record) (parent : Record) (row : Row) : Option Record :=
  match row.decoded? x.parentType x.joinParent.column, row.decoded? x.childType x.joinChild.column with
  | some s, some r => if parent.holds x.parentField.name s then children.find? (·.holds x.childField.name r) else none
  | _, _ => none

/-- Whether both cells of a row are of the kind of the key fields. -/
def isOfKind (row : Row) : Bool :=
  (row.cell? x.joinParent.column).any (·.isOfKind x.parentType) && (row.cell? x.joinChild.column).any (·.isOfKind x.childType)

/-- The query for the rows of the join table that have one of some keys of parents. -/
def pairQuery {σ : Type} (c : Connection σ) (keys : List Value) : Statement :=
  c.dialect.finish (join.query c x.joinParent x.joinChild keys)

/-- The keys that rows of the join table pair. -/
def found (rows : List Row) : List (Value × Value) :=
  Link.keyPairs x.joinParent.column x.joinChild.column rows

/-- The query for the children that rows of the join table refer to. -/
def childQuery {σ : Type} (c : Connection σ) (rows : List Row) : Statement :=
  c.dialect.finish (c.memberQuery child.model child.model.columns x.childField.column (Value.firsts ((x.found rows).map (·.2))))

/-- A database answers for some keys with whole rows of the join table and, when these refer to children, with rows of children. When the
relations of these were resolved they are the given ones. -/
structure Answers {σ : Type} (c : Connection σ) (nested : List Relation) (index : ReportIndex) (keys : List Value) (e : σ) (rows : List Row)
    (resolved : List Record) : Prop where
  whole : ∀ row ∈ rows, row.IsWhole
  pairs : ∃ replies, (c.executor.answer (x.pairQuery c keys) e).1.collect = .ok replies ∧ replies.filterMap Reply.row? = rows
  children : x.found rows ≠ [] → ∃ replies children,
    (c.executor.answer (x.childQuery c rows) (c.executor.answer (x.pairQuery c keys) e).2).1.collect = .ok replies ∧
    List.Forall₂ (fun row r => Record.ofRow child.model row = .ok r) (replies.filterMap Reply.row?) children ∧
    ∀ w : World σ, w.executor = (c.executor.answer (x.childQuery c rows) (c.executor.answer (x.pairQuery c keys) e).2).2 →
      ∃ w', (Relation.preload c child index nested children).on w = (.ok resolved, w')

/-- Two rows represent the same: so do their cells, and a cell that one of them lacks the other one lacks too. -/
structure RepresentSame (row other : Row) : Prop where
  parent : Option.Rel (Value.RepresentSame x.parentType) (row.cell? x.joinParent.column) (other.cell? x.joinParent.column)
  child : Option.Rel (Value.RepresentSame x.childType) (row.cell? x.joinChild.column) (other.cell? x.joinChild.column)

variable {x} {parent : Record} {children : List Record} {row other : Row}

/-! ## What rows mean -/

/-- A field holds both or neither of two scalars of one type that denote the same. -/
theorem holds_congr {s r : Scalar} (ht : s.type = r.type) (hs : s.denotesSame r = true) (field : String) :
    Record.holds field s = Record.holds field r := by
  have hsame : (Value.of s).same (.of r) = true := Value.same_of ht hs
  funext record
  unfold Record.holds
  congr 1
  funext v
  rw [Bool.eq_iff_iff]
  exact ⟨fun h => Value.same_trans h hsame, fun h => Value.same_trans h (Value.same_symm hsame)⟩

/-- Cells that represent the same decode to scalars that fields hold alike, or to nothing. -/
theorem decoded?_cases {T : Native} {label : String}
    (h : Option.Rel (Value.RepresentSame T) (row.cell? label) (other.cell? label)) :
    row.decoded? T label = other.decoded? T label ∨ ∃ s r, row.decoded? T label = some s ∧ other.decoded? T label = some r ∧
      ∀ field, Record.holds field s = Record.holds field r := by
  unfold Row.decoded?
  generalize row.cell? label = cell at h ⊢
  generalize other.cell? label = cell' at h ⊢
  cases h with
  | none => exact .inl rfl
  | @some v w h =>
    rw [Option.bind_some, Option.bind_some]
    rcases h with rfl | ⟨hv, hw⟩ | ⟨s, r, hs, hr, hsame⟩
    · exact .inl rfl
    · rw [Value.toOption_decode_of_isNull hv, Value.toOption_decode_of_isNull hw]
      exact .inl rfl
    · rw [hs, hr]
      exact .inr ⟨s, r, rfl, rfl, holds_congr ((Value.type_of_decode hs).trans (Value.type_of_decode hr).symm) hsame⟩

/-- Rows that represent the same mean the same. -/
theorem RepresentSame.meant?_eq (h : x.RepresentSame row other) (children : List Record) (parent : Record) :
    x.meant? children parent row = x.meant? children parent other := by
  unfold meant?
  rcases decoded?_cases h.parent with hparent | ⟨s, s', hs, hs', hparent⟩ <;>
    rcases decoded?_cases h.child with hchild | ⟨r, r', hr, hr', hchild⟩
  · rw [hparent, hchild]
  · rw [hparent, hr, hr']
    cases other.decoded? x.parentType x.joinParent.column with
    | none => rfl
    | some s => simp only [hchild]
  · rw [hs, hs', hchild]
    cases other.decoded? x.childType x.joinChild.column with
    | none => rfl
    | some r => simp only [hparent]
  · rw [hs, hs', hr, hr']
    simp only [hparent, hchild]

/-! ## What is attached -/

/-- A record has the key of a cell in a field exactly when the cell is of the kind of the field and the field holds what it decodes to. -/
theorem hasKey_eq {T : Native} {field : String} {record : Record} (h : record.HasType field T) {v : Value} (hv : v.isNull = false) :
    Link.hasKey field v.key record = (v.isOfKind T && (v.decode T).toOption.any fun s => record.holds field s) := by
  unfold Link.hasKey Record.holds
  cases hvalue : record.value? field with
  | none =>
    cases v.isOfKind T <;> cases (v.decode T).toOption <;> rfl
  | some w =>
    rw [Option.any_some, Value.same_comm, Bool.eq_iff_iff, Value.same_key_of_field_iff (h w hvalue) hv, Bool.and_eq_true]
    refine and_congr_right fun _ => ?_
    cases v.decode T with
    | error f => exact iff_of_false (fun ⟨_, hr, _⟩ => by cases hr) Bool.false_ne_true
    | ok s => exact ⟨fun ⟨r, hr, hs⟩ => by cases hr; exact hs, fun hs => ⟨s, rfl, hs⟩⟩

/-- A NULL is of no kind. -/
theorem isOfKind_of_isNull {T : Native} {v : Value} (h : v.isNull = true) : v.isOfKind T = false := by
  cases v with
  | null t => rfl
  | of s => cases h

/-- The first record with the key of a cell in a field is the first that holds what the cell decodes to, if the cell is of the kind of the
field. -/
theorem find?_hasKey_eq {T : Native} {field : String} {records : List Record} (h : ∀ r ∈ records, r.HasType field T) {v : Value}
    (hv : v.isNull = false) :
    records.find? (Link.hasKey field v.key) =
      if v.isOfKind T then (v.decode T).toOption.bind fun s => records.find? (·.holds field s) else none := by
  rw [← List.head?_filter, List.filter_congr fun r hr => hasKey_eq (h r hr) hv, List.head?_filter]
  cases v.isOfKind T with
  | false => simp
  | true => cases (v.decode T).toOption <;> simp

/-- A row whose cells are of the kind of the key fields contributes what it means, and another row contributes nothing. -/
theorem flatMap_keyPair? (hparent : parent.HasType x.parentField.name x.parentType)
    (hchildren : ∀ child ∈ children, child.HasType x.childField.name x.childType) (row : Row) :
    ((row.keyPair? x.joinParent.column x.joinChild.column).toList.filter fun pair =>
        Link.hasKey x.parentField.name pair.1 parent).flatMap (fun pair =>
          (children.filter (Link.hasKey x.childField.name pair.2)).take 1) =
      if x.isOfKind row then (x.meant? children parent row).toList else [] := by
  unfold Row.keyPair? isOfKind meant? Row.decoded?
  cases row.cell? x.joinParent.column with
  | none => rfl
  | some p =>
    cases row.cell? x.joinChild.column with
    | none => simp
    | some q =>
      rw [Option.any_some, Option.any_some, Option.bind_some, Option.bind_some]
      cases hp : p.isNull with
      | true => simp [isOfKind_of_isNull hp, hp]
      | false =>
        cases hq : q.isNull with
        | true => simp [isOfKind_of_isNull hq, hq]
        | false =>
          have hpair : (if (false || false) = true then none else some (p.key, q.key)) = some (p.key, q.key) := rfl
          dsimp only
          rw [hp, hq, hpair, Option.toList_some, List.filter_singleton, hasKey_eq hparent hp]
          cases p.isOfKind x.parentType with
          | false => rfl
          | true =>
            cases (p.decode x.parentType).toOption with
            | none => cases q.isOfKind x.childType <;> rfl
            | some s =>
              cases hs : parent.holds x.parentField.name s with
              | false => cases (q.decode x.childType).toOption <;> simp [hs]
              | true =>
                rw [Option.any_some, hs, Bool.true_and, Bool.true_and, cond_true, List.flatMap_singleton, take_one_filter,
                  find?_hasKey_eq hchildren hq]
                cases q.isOfKind x.childType <;> cases (q.decode x.childType).toOption <;> simp [hs]

/-- A record has the same keys as its own key. -/
theorem hasKey_of_key? {record : Record} {field : String} {key : Value} (h : record.key? field = some key) (k : Value) :
    Link.hasKey field k record = k.same key := by
  obtain ⟨v, hv, hkey⟩ := Option.bind_eq_some_iff.mp h
  rw [Value.key?_eq] at hkey
  unfold Link.hasKey
  split at hkey
  · cases hkey
  · cases hkey
    rw [hv, Option.any_some, Value.same_comm]

/-- A row means nothing for a parent without a key. -/
theorem meant?_of_key?_none (h : parent.key? x.parentField.name = none) (children : List Record) (row : Row) :
    x.meant? children parent row = none := by
  have hholds : ∀ s, parent.holds x.parentField.name s = false := by
    intro s
    unfold Record.key? at h
    unfold Record.holds
    cases hvalue : parent.value? x.parentField.name with
    | none => rfl
    | some v =>
      rw [hvalue, Option.bind_some, Value.key?_eq] at h
      cases v with
      | null T => rfl
      | of r => cases h
  unfold meant?
  split
  · rw [hholds, if_neg Bool.false_ne_true]
  · rfl

/-- What the pairs of rows name for a parent is what the rows of the kind of the key fields mean for it. -/
theorem flatMap_keyPairs (hparent : parent.HasType x.parentField.name x.parentType)
    (hchildren : ∀ child ∈ children, child.HasType x.childField.name x.childType) (rows : List Row) :
    ((Link.keyPairs x.joinParent.column x.joinChild.column rows).filter fun pair =>
        Link.hasKey x.parentField.name pair.1 parent).flatMap (fun pair =>
          (children.filter (Link.hasKey x.childField.name pair.2)).take 1) =
      (rows.filter x.isOfKind).filterMap (x.meant? children parent) := by
  rw [Link.keyPairs, List.filterMap_eq_flatMap_toList, List.filter_flatMap, List.flatMap_assoc, List.filterMap_filter,
    List.filterMap_eq_flatMap_toList]
  refine List.flatMap_congr fun row _ => (flatMap_keyPair? hparent hchildren row).trans ?_
  cases x.isOfKind row <;> rfl

/-- A link that takes several children attaches what the rows of the kind of the key fields mean. -/
theorem paired_eq (link : Link) (harity : link.arity = .many) (hparent : parent.IsOf t.model)
    (hchildren : ∀ r ∈ children, r.IsOf child.model) (rows : List Row) :
    link.paired x.parentField x.childField (Link.keyPairs x.joinParent.column x.joinChild.column rows) children parent =
      parent.attach link.slot (.many ((rows.filter x.isOfKind).filterMap (x.meant? children parent))) := by
  have hmeant := flatMap_keyPairs (hparent.hasType_key x.requireParent x.typeOfParent)
    (fun r hr => (hchildren r hr).hasType_key x.requireChild x.typeOfChild) rows
  unfold Link.paired
  rw [harity]
  refine congrArg (fun own => parent.attach link.slot (.many own)) ?_
  cases hkey : parent.key? x.parentField.name with
  | none => rw [Option.elim_none, funext (meant?_of_key?_none hkey children), List.filterMap_none]
  | some key =>
    rw [funext fun pair : Value × Value => hasKey_of_key? hkey pair.1] at hmeant
    exact hmeant

/-- A row of the kind of the key fields pairs keys. -/
theorem filter_isOfKind_of_no_pairs {rows : List Row} (h : x.found rows = []) : rows.filter x.isOfKind = [] := by
  rw [List.filter_eq_nil_iff]
  intro row hrow hkind
  have hnone : row.keyPair? x.joinParent.column x.joinChild.column = none := List.filterMap_eq_nil_iff.mp h row hrow
  unfold isOfKind at hkind
  unfold Row.keyPair? at hnone
  cases hp : row.cell? x.joinParent.column with
  | none => simp [hp] at hkind
  | some p =>
    cases hq : row.cell? x.joinChild.column with
    | none => simp [hq] at hkind
    | some q =>
      rw [hp, hq, Option.any_some, Option.any_some, Bool.and_eq_true] at hkind
      rw [hp, hq] at hnone
      cases p with
      | null T => cases hkind.1
      | of s =>
        cases q with
        | null T => cases hkind.2
        | of r => cases hnone

/-- Children whose relations were resolved are still of their type. -/
theorem isOf_of_preload {σ : Type} {c : Connection σ} {index : ReportIndex} {nested : List Relation} {rows : List Row}
    {decoded resolved : List Record} {w w' : World σ}
    (hrows : List.Forall₂ (fun row r => Record.ofRow child.model row = .ok r) rows decoded)
    (hpreload : (Relation.preload c child index nested decoded).on w = (.ok resolved, w')) : ∀ r ∈ resolved, r.IsOf child.model := by
  intro r hr
  obtain ⟨outcome, w₁, -, hon, -, -, -, hvalues, -⟩ := Relation.exists_outcome c child index nested decoded w
  obtain ⟨rfl, -⟩ := Prod.mk.inj (hon.symm.trans hpreload)
  obtain ⟨s, hs, hsame⟩ := exists_of_mem_forall₂ (hvalues resolved rfl).flip hr
  obtain ⟨row, -, hrow⟩ := exists_of_mem_forall₂ hrows.flip hs
  exact (Record.isOf_of_ofRow hrow).of_values hsame

/-- A many-to-many relation gives every parent what the rows of the kind of the key fields mean for it. -/
theorem Answers.on_resolve {σ : Type} {c : Connection σ} {nested : List Relation} {index : ReportIndex} {parents : List Record}
    {w : World σ} {rows : List Row} {resolved : List Record}
    (h : x.Answers c nested index (Value.firsts (parents.filterMap (·.key? x.parentField.name))) w.executor rows resolved)
    (hparents : ∀ p ∈ parents, p.IsOf t.model) (hkey : ∃ p ∈ parents, (p.key? x.parentField.name).isSome) (container slot : String) :
    ∃ w', ((Relation.manyToMany container slot child join nested).resolve c t index parents).on w =
      (.ok (parents.map fun p => p.attach slot (.many ((rows.filter x.isOfKind).filterMap (x.meant? resolved p)))), w') := by
  obtain ⟨hwhole, ⟨replies, hreplies, rfl⟩, hchildren⟩ := h
  have hsome : parents.filterMap (·.key? x.parentField.name) ≠ [] := Record.keys_ne_nil hkey
  let link := (Relation.manyToMany container slot child join nested).link
  rw [← Value.distinct_eq_firsts] at hreplies hchildren
  unfold Relation.manyToMany Relation.resolve
  by_cases hnone : x.found (replies.filterMap Reply.row?) = []
  · refine ⟨_, (link.on_resolve_of_no_pairs rfl x.requireParent x.requireJoinParent x.requireJoinChild hsome rfl hreplies
      hwhole rfl x.childField hnone).trans (congrArg (fun paired => (Except.ok paired, _)) ?_)⟩
    rw [filter_isOfKind_of_no_pairs hnone]
    refine List.map_congr_left fun p hp => ?_
    have hnothing : ∀ r ∈ ([] : List Record), r.IsOf child.model := nofun
    exact paired_eq link rfl (hparents p hp) hnothing []
  · obtain ⟨replies', children, hanswer', hrows, hpreload⟩ := hchildren hnone
    let w₀ := link.afterPairs c t join x.joinParent x.joinChild index
      (Value.distinct (parents.filterMap (·.key? x.parentField.name))) w
    have hexecutor : w₀.executor = (c.executor.answer (x.pairQuery c
      (Value.distinct (parents.filterMap (·.key? x.parentField.name)))) w.executor).2 := link.executor_afterPairs _
    let wanted := Value.distinct ((x.found (replies.filterMap Reply.row?)).map (·.2))
    have hquery : x.childQuery c (replies.filterMap Reply.row?) = c.dialect.finish (link.query c x.childField wanted) := by
      rw [childQuery, ← Value.distinct_eq_firsts]
      rfl
    rw [hquery, ← hexecutor] at hanswer' hpreload
    obtain ⟨w', hon⟩ := hpreload (c.sendStep index (link.query c x.childField wanted) w₀).2 rfl
    refine ⟨w', (link.on_resolve_of_pairs rfl x.requireParent x.requireJoinParent x.requireJoinChild hsome rfl hreplies
      hwhole rfl x.requireChild hnone hanswer' hrows hon nofun).trans (congrArg (fun paired => (Except.ok paired, w')) ?_)⟩
    exact List.map_congr_left fun p hp => paired_eq link rfl (hparents p hp) (isOf_of_preload hrows hon) _

/-- A many-to-many relation leaves parents without any key as they are. -/
theorem on_resolve_of_no_key {σ : Type} (c : Connection σ) (nested : List Relation) (index : ReportIndex) {parents : List Record}
    (hnone : ∀ p ∈ parents, p.key? x.parentField.name = none) (w : World σ) (container slot : String) :
    ∃ w', ((Relation.manyToMany container slot child join nested).resolve c t index parents).on w = (.ok parents, w') := by
  let link := (Relation.manyToMany container slot child join nested).link
  have hparent : t.model.keyField link.parentKey = .ok x.parentField := x.requireParent
  obtain ⟨w', htry⟩ := Link.on_tryResolve_of_none hparent (List.filterMap_eq_nil_iff.mpr hnone) index
    (Relation.unlessNone fun children => Relation.resolveFrom c child index 0 nested children) w
  unfold Relation.manyToMany Relation.resolve
  exact ⟨w', Link.on_resolve_of_tryResolve htry nofun⟩

/-- Attaching different children gives different records. -/
theorem attach_many_inj {r : Record} {slot : String} {children others : List Record} :
    r.attach slot (.many children) = r.attach slot (.many others) ↔ children = others := by
  refine ⟨fun h => ?_, fun h => h ▸ rfl⟩
  have hslot : ∀ a, (r.attach slot a).attached? slot = some a := fun a =>
    (Record.lookup_setSlot slot slot a r.slots).trans (if_pos rfl)
  have hmany := (hslot (.many children)).symm.trans ((congrArg (Record.attached? · slot) h).trans (hslot (.many others)))
  cases hmany
  rfl

end Crossing

/-! ## Authors by UUID -/

namespace Credits

/-- The identifier of an author. -/
def ada : Uuid :=
  ⟨0xada, by decide⟩

/-- The key of the author. -/
def adaKey : Value :=
  .of (.uuid ada)

theorem holds_one : IntegerType.int64.Holds 1 := by decide

/-- The number of a book. -/
def one : Value :=
  Graph.number 1 holds_one

/-- Authors are known by a UUID. -/
def author : RecordType :=
  ⟨"author", "author", [.field { Field.of "id" .uuid with primaryKey := true }]⟩

/-- Books are known by a number. -/
def book : RecordType :=
  ⟨"book", "book", [.field Graph.id]⟩

/-- Which authors wrote which books. -/
def join : JoinTable :=
  ⟨⟨"credit", "credit", [.field (Field.of "author" .uuid), .field (Field.of "book" (.integer .int64))]⟩, "author", "book"⟩

/-- The relation from authors to their books. -/
def books : Relation :=
  .manyToMany "books" "books" book join []

/-- Books are linked to authors by the keys of both. -/
def crossing : Crossing author book join where
  parentField := { Field.of "id" .uuid with primaryKey := true }
  parentType := .uuid
  childField := Graph.id
  childType := .integer .int64
  joinParent := Field.of "author" .uuid
  joinChild := Field.of "book" (.integer .int64)
  requireParent := rfl
  typeOfParent := rfl
  requireChild := rfl
  typeOfChild := rfl
  requireJoinParent := rfl
  requireJoinChild := rfl

/-- The first book. -/
def first : Record :=
  .ofValues [("id", one)]

/-- An author without books yet. -/
def parents : List Record :=
  [.ofValues [("id", adaKey)]]

/-- An author without books is an author. -/
theorem isOf_parents : ∀ p ∈ parents, p.IsOf author.model := by
  intro p hp f hf T hT v hv
  obtain rfl := List.mem_singleton.mp hp
  obtain rfl := List.mem_singleton.mp hf
  cases hT
  cases hv
  exact .inr rfl

/-- A row that credits a book to an author. -/
def row (author book : Value) : Row :=
  ⟨["author", "book"], [author, book]⟩

/-- A session with a database that answers the first query with a credit and the others with the first book. -/
def connection (author book : Value) : Connection Nat where
  executor := ⟨fun _ n => ([.ok (.row (if n = 0 then row author book else ⟨["id"], [one]⟩))], n + 1)⟩
  dialect := .sqlite
  config := {}
  library := .silent

/-- The database answers for all keys with the credit and the first book. -/
theorem answers (author book : Value) (index : ReportIndex) (keys : List Value) :
    crossing.Answers (connection author book) [] index keys 0 [row author book] [first] where
  whole r hr := by
    obtain rfl := List.mem_singleton.mp hr
    exact Nat.le_refl 2
  pairs := ⟨_, rfl, rfl⟩
  children _ := by
    refine ⟨_, [first], rfl, .cons rfl .nil, fun w _ => ⟨w, ?_⟩⟩
    unfold Relation.preload Relation.unlessNone Relation.resolveFrom
    rfl

end Credits

/-- Two databases answer a many-to-many relation with rows of the join table that represent the same, and with the same children where these
are asked for. Then the rows of both mean the same children for every parent. When some parent has a key, a parent gets, in the order of
the rows and as often as they occur, the children that rows of the kind of the key fields mean for it, and none for the other rows. So when
all rows of the first answer that mean a child for some parent are of that kind, the parents come out the same exactly when all such rows
of the second answer are. -/
theorem joined_same_iff_of_kind {σ τ : Type} {t child : RecordType} {join : JoinTable} (x : Crossing t child join)
    (container slot : String) (nested : List Relation) (parents : List Record) (hparents : ∀ p ∈ parents, p.IsOf t.model)
    (index : ReportIndex) (c : Connection σ) (d : Connection τ) (w : World σ) (v : World τ) {rows others : List Row}
    {children : List Record}
    (hrows : x.Answers c nested index (Value.firsts (parents.filterMap (·.key? x.parentField.name))) w.executor rows children)
    (hothers : x.Answers d nested index (Value.firsts (parents.filterMap (·.key? x.parentField.name))) v.executor others children)
    (hsame : List.Forall₂ x.RepresentSame rows others) :
    ∃ result w' other v',
      ((Relation.manyToMany container slot child join nested).resolve c t index parents).on w = (.ok result, w') ∧
      ((Relation.manyToMany container slot child join nested).resolve d t index parents).on v = (.ok other, v') ∧
      (∀ p, rows.filterMap (x.meant? children p) = others.filterMap (x.meant? children p)) ∧
      ((∃ p ∈ parents, (p.key? x.parentField.name).isSome) →
        result = parents.map (fun p => p.attach slot (.many ((rows.filter x.isOfKind).filterMap (x.meant? children p)))) ∧
        other = parents.map (fun p => p.attach slot (.many ((others.filter x.isOfKind).filterMap (x.meant? children p))))) ∧
      ((∀ row ∈ rows, ∀ p ∈ parents, (x.meant? children p row).isSome → x.isOfKind row = true) →
        (result = other ↔ ∀ row ∈ others, ∀ p ∈ parents, (x.meant? children p row).isSome → x.isOfKind row = true)) := by
  have hmeant : ∀ p, rows.filterMap (x.meant? children p) = others.filterMap (x.meant? children p) := fun p =>
    filterMap_eq_of_forall₂ hsame fun _ _ _ h => h.meant?_eq children p
  by_cases hkey : ∃ p ∈ parents, (p.key? x.parentField.name).isSome
  · obtain ⟨w', hresult⟩ := hrows.on_resolve hparents hkey container slot
    obtain ⟨v', hother⟩ := hothers.on_resolve hparents hkey container slot
    refine ⟨_, w', _, v', hresult, hother, hmeant, fun _ => ⟨rfl, rfl⟩, fun hkind => ?_⟩
    have hall : ∀ p ∈ parents, (rows.filter x.isOfKind).filterMap (x.meant? children p) = others.filterMap (x.meant? children p) :=
      fun p hp => (filterMap_filter_eq_iff.mpr fun row hrow => hkind row hrow p hp).trans (hmeant p)
    rw [List.map_inj_left]
    constructor
    · intro heq row hrow p hp
      have hparent := Crossing.attach_many_inj.mp (heq p hp)
      exact filterMap_filter_eq_iff.mp (hparent.symm.trans (hall p hp)) row hrow
    · intro hothers p hp
      have hparent := filterMap_filter_eq_iff.mpr fun row hrow => hothers row hrow p hp
      rw [hall p hp, hparent]
  · -- without a key nothing is asked, and no row means anything
    have hnone : ∀ p ∈ parents, p.key? x.parentField.name = none := fun p hp =>
      Option.not_isSome_iff_eq_none.mp fun hsome => hkey ⟨p, hp, hsome⟩
    obtain ⟨w', hresult⟩ := Crossing.on_resolve_of_no_key c nested index hnone w container slot
    obtain ⟨v', hother⟩ := Crossing.on_resolve_of_no_key d nested index hnone v container slot
    refine ⟨parents, w', parents, v', hresult, hother, hmeant, fun h => absurd h hkey, fun _ => iff_of_true rfl ?_⟩
    intro row _ p hp hsome
    rw [Crossing.meant?_of_key?_none (hnone p hp)] at hsome
    cases hsome

/-- A credit with a number of another width links the same book. -/
theorem joined_same_of_width :
    ∃ (small : Value) (result : List Record) (w' v' : World Nat),
      small.type = .integer .int8 ∧
      (Credits.books.resolve (Credits.connection Credits.adaKey Credits.one) Credits.author .root Credits.parents).on { executor := 0 } =
        (.ok result, w') ∧
      (Credits.books.resolve (Credits.connection Credits.adaKey small) Credits.author .root Credits.parents).on { executor := 0 } =
        (.ok result, v') ∧
      result.map (fun p => (p.children .many "books").map (·.key? "id")) = [[some Credits.one]] := by
  let small : Value := .of (.integer .int8 1 (by decide))
  have hsame : Credits.crossing.RepresentSame (Credits.row Credits.adaKey Credits.one) (Credits.row Credits.adaKey small) :=
    ⟨.some (.inl rfl), .some (.inr (.inr ⟨_, _, rfl, rfl, rfl⟩))⟩
  obtain ⟨result, w', other, v', hresult, hother, -, hforms, hiff⟩ := joined_same_iff_of_kind Credits.crossing "books" "books" []
    Credits.parents Credits.isOf_parents .root (Credits.connection Credits.adaKey Credits.one)
    (Credits.connection Credits.adaKey small) { executor := 0 } { executor := 0 } (Credits.answers Credits.adaKey Credits.one .root _)
    (Credits.answers Credits.adaKey small .root _) (.cons hsame .nil)
  obtain ⟨hfirst, -⟩ := hforms ⟨_, List.mem_cons_self .., rfl⟩
  have hkind : ∀ book ∈ [Credits.one, small], ∀ row ∈ [Credits.row Credits.adaKey book], ∀ p ∈ Credits.parents,
      (Credits.crossing.meant? [Credits.first] p row).isSome → Credits.crossing.isOfKind row = true := by
    decide
  obtain rfl : result = other := (hiff (hkind Credits.one (by decide))).mpr (hkind small (by decide))
  exact ⟨small, result, w', v', rfl, hresult, hother, hfirst ▸ rfl⟩

/-- A credit with the UUID as a text represents the same, and decodes to the same author, but links no book. -/
theorem not_joined_same_of_text :
    ∃ (text : Value) (result other : List Record) (w' v' : World Nat),
      text = .varchar Credits.ada.text ∧ text.decode .uuid = .ok (.uuid Credits.ada) ∧
      Credits.crossing.RepresentSame (Credits.row Credits.adaKey Credits.one) (Credits.row text Credits.one) ∧
      (Credits.books.resolve (Credits.connection Credits.adaKey Credits.one) Credits.author .root Credits.parents).on { executor := 0 } =
        (.ok result, w') ∧
      (Credits.books.resolve (Credits.connection text Credits.one) Credits.author .root Credits.parents).on { executor := 0 } =
        (.ok other, v') ∧
      result.map (fun p => (p.children .many "books").map (·.key? "id")) = [[some Credits.one]] ∧
      other.map (fun p => (p.children .many "books").map (·.key? "id")) = [[]] := by
  have hresolve : ∀ author : Value, ∃ w', (Credits.books.resolve (Credits.connection author Credits.one) Credits.author .root
      Credits.parents).on { executor := 0 } = (.ok (Credits.parents.map fun p => p.attach "books"
        (.many (([Credits.row author Credits.one].filter Credits.crossing.isOfKind).filterMap
          (Credits.crossing.meant? [Credits.first] p)))), w') := by
    intro author
    exact (Credits.answers author Credits.one .root _).on_resolve Credits.isOf_parents ⟨_, List.mem_cons_self .., rfl⟩ "books" "books"
  obtain ⟨w', hresult⟩ := hresolve Credits.adaKey
  obtain ⟨v', hother⟩ := hresolve (.varchar Credits.ada.text)
  have hread : Uuid.read? Credits.ada.text = some Credits.ada := by decide +kernel
  have htext : (Value.varchar Credits.ada.text).decode .uuid = .ok (.uuid Credits.ada) := by
    rw [Value.varchar, Value.decode, Value.toUuid, hread]
    rfl
  exact ⟨_, _, _, w', v', rfl, htext, ⟨.some (.inr (.inr ⟨_, _, rfl, htext, rfl⟩)), .some (.inl rfl)⟩, hresult, hother, rfl, rfl⟩

end RecordSql
