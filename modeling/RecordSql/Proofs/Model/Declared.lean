import Mathlib.Data.List.Induction
import Mathlib.Data.List.Nodup
import RecordSql.Model.Declaration
import RecordSql.Proofs.Related

/-!
# Models as they are declared

A declaration is in order when it is a field with a new name, or an index or a foreign key of fields declared before it. A model holds the
declarations that are in order and nothing else: each of the others is refused with one warning and leaves the model as it was
(`build_inOrder`). So the fields of a model have different names, and its indexes and foreign keys mention only fields that it has
(`Description.wellFormed_build`).
-/

namespace RecordSql

/-! ## Declarations in order -/

namespace Declaration

/-- The field that is declared, unless it is something else. -/
def field? : Declaration → Option Field
  | field f => some f
  | _ => none

/-- The index that is declared, unless it is something else. -/
def index? : Declaration → Option Index
  | index name fields unique => some ⟨name, fields, unique⟩
  | _ => none

/-- The foreign key that is declared, unless it is something else. -/
def foreignKey? : Declaration → Option ForeignKey
  | foreignKey name table column => some ⟨name, table, column⟩
  | _ => none

/-- The names of the fields that are declared, with repetitions. -/
def names (ds : List Declaration) : List String :=
  (ds.filterMap field?).map (·.name)

/-- A declaration is in order where some fields are known when it repeats none of them and mentions no others. -/
def IsInOrder (known : List String) : Declaration → Prop
  | field f => f.name ∉ known
  | index _ fields _ => ∀ name ∈ fields, name ∈ known
  | foreignKey name _ _ => name ∈ known

instance (known : List String) (d : Declaration) : Decidable (d.IsInOrder known) :=
  match d with
  | field f => inferInstanceAs (Decidable (f.name ∉ known))
  | index _ fields _ => inferInstanceAs (Decidable (∀ name ∈ fields, name ∈ known))
  | foreignKey name _ _ => inferInstanceAs (Decidable (name ∈ known))

/-- The declarations that are in order after all that stand before them. -/
def inOrder (ds : List Declaration) : List Declaration :=
  (ds.zipIdx.filter fun p => p.1.IsInOrder (names (ds.take p.2))).map (·.1)

variable {ds : List Declaration} {d : Declaration}

/-- Which declarations are in order depends on the known fields, not on their order. -/
theorem isInOrder_congr {known others : List String} (h : ∀ name, name ∈ known ↔ name ∈ others) :
    d.IsInOrder known ↔ d.IsInOrder others := by
  cases d with
  | field f => exact not_congr (h f.name)
  | index _ fields _ => exact forall₂_congr fun name _ => h name
  | foreignKey name _ _ => exact h name

/-- Whether declarations are in order does not depend on what follows them. -/
theorem inOrder_concat (ds : List Declaration) (d : Declaration) :
    inOrder (ds ++ [d]) = inOrder ds ++ if d.IsInOrder (names ds) then [d] else [] := by
  have hbefore : ds.zipIdx.filter (fun p => p.1.IsInOrder (names ((ds ++ [d]).take p.2))) =
      ds.zipIdx.filter fun p => p.1.IsInOrder (names (ds.take p.2)) := by
    refine List.filter_congr fun p hp => ?_
    have hlt : p.2 < ds.length := List.snd_lt_of_mem_zipIdx hp
    rw [List.take_append_of_le_length (Nat.le_of_lt hlt)]
  rw [inOrder, List.zipIdx_append, List.filter_append, List.map_append, hbefore, inOrder]
  congr 1
  by_cases h : d.IsInOrder (names ds) <;> simp [h]

theorem names_append (ds es : List Declaration) : names (ds ++ es) = names ds ++ names es := by
  rw [names, List.filterMap_append, List.map_append]
  rfl

/-- A name that is declared is declared by a declaration in order. -/
theorem mem_names_inOrder {name : String} : name ∈ names (inOrder ds) ↔ name ∈ names ds := by
  induction ds using List.reverseRecOn with
  | nil => rfl
  | append_singleton ds d ih =>
    rw [inOrder_concat, names_append, names_append, List.mem_append, List.mem_append, ih]
    by_cases h : d.IsInOrder (names ds)
    · rw [if_pos h]
    · rw [if_neg h]
      have hold : name ∈ names [d] → name ∈ names ds := by
        cases d with
        | field f =>
          intro hname
          obtain rfl : name = f.name := List.mem_singleton.mp hname
          exact not_not.mp fun hnew => h hnew
        | index _ _ _ => exact fun hname => absurd hname List.not_mem_nil
        | foreignKey _ _ _ => exact fun hname => absurd hname List.not_mem_nil
      exact ⟨fun hname => hname.imp id fun hnone => absurd hnone List.not_mem_nil, fun hname => .inl (hname.elim id hold)⟩

end Declaration

/-! ## Well-formed models -/

namespace Model

/-- A model whose fields have different names and whose indexes and foreign keys mention only its fields. -/
structure WellFormed (m : Model) : Prop where
  nodup : (m.fields.map (·.name)).Nodup
  indexes : ∀ index ∈ m.indexes, ∀ name ∈ index.fields, (m.field? name).isSome = true
  foreignKeys : ∀ key ∈ m.foreignKeys, (m.field? key.field).isSome = true

variable {m : Model} {d : Declaration}

theorem wellFormed_empty (name : String) : WellFormed { name } where
  nodup := List.nodup_nil
  indexes := nofun
  foreignKeys := nofun

/-- A model has a field of a name exactly when it is the name of one of its fields. -/
theorem isSome_field?_iff {name : String} : (m.field? name).isSome = true ↔ name ∈ m.fields.map (·.name) := by
  simp only [field?, List.find?_isSome, List.mem_map, beq_iff_eq]

/-- The field that is found has the name and is a field of the model. -/
theorem exists_of_isSome_field? {name : String} (h : (m.field? name).isSome = true) :
    ∃ f ∈ m.fields, f.name = name ∧ m.field? name = some f := by
  obtain ⟨f, hf⟩ := Option.isSome_iff_exists.mp h
  have hfound : m.fields.find? (·.name == name) = some f := hf
  have hname := List.find?_some hfound
  exact ⟨f, List.mem_of_find?_eq_some hfound, beq_iff_eq.mp hname, hf⟩

/-- A field is found by its name. -/
theorem WellFormed.field?_name (h : m.WellFormed) {f : Field} (hf : f ∈ m.fields) : m.field? f.name = some f :=
  find?_of_nodup h.nodup hf

/-- A name that is found is still found when more is declared. -/
theorem isSome_field?_add {name : String} (h : (m.field? name).isSome = true) (d : Declaration) :
    ((m.add d).field? name).isSome = true := by
  rw [isSome_field?_iff] at h ⊢
  cases d with
  | field f =>
    change name ∈ (m.fields ++ [f]).map (·.name)
    rw [List.map_append]
    exact List.mem_append_left _ h
  | index _ _ _ => exact h
  | foreignKey _ _ _ => exact h

/-- A model objects to the declarations that are not in order where its fields are known. -/
theorem objection?_eq_none_iff : m.objection? d = none ↔ d.IsInOrder (m.fields.map (·.name)) := by
  cases d with
  | field f =>
    rw [objection?, Declaration.IsInOrder, ← isSome_field?_iff]
    simp
  | index name fields unique =>
    rw [objection?, Option.map_eq_none_iff, List.find?_eq_none]
    refine forall₂_congr fun other _ => ?_
    rw [← isSome_field?_iff]
    cases m.field? other <;> simp
  | foreignKey name table column =>
    rw [objection?, Declaration.IsInOrder, ← isSome_field?_iff]
    cases m.field? name <;> simp

/-- A declaration keeps a model well-formed. -/
theorem WellFormed.declare (h : m.WellFormed) (d : Declaration) : (m.declare d).1.WellFormed := by
  unfold Model.declare
  cases hobjection : m.objection? d with
  | some warning => exact h
  | none =>
    rw [objection?_eq_none_iff] at hobjection
    have hindexes : ∀ index ∈ m.indexes, ∀ name ∈ index.fields, ((m.add d).field? name).isSome = true :=
      fun index hindex name hname => isSome_field?_add (h.indexes index hindex name hname) d
    have hkeys : ∀ key ∈ m.foreignKeys, ((m.add d).field? key.field).isSome = true :=
      fun key hkey => isSome_field?_add (h.foreignKeys key hkey) d
    cases d with
    | field f =>
      refine ⟨?_, hindexes, hkeys⟩
      change ((m.fields ++ [f]).map (·.name)).Nodup
      rw [List.map_append, List.nodup_append_comm]
      exact List.nodup_cons.mpr ⟨hobjection, h.nodup⟩
    | index name fields unique =>
      refine ⟨h.nodup, fun index hindex => ?_, hkeys⟩
      rcases List.mem_append.mp hindex with hindex | hindex
      · exact hindexes index hindex
      · obtain rfl := List.mem_singleton.mp hindex
        exact fun name hname => isSome_field?_iff.mpr (hobjection name hname)
    | foreignKey field table column =>
      refine ⟨h.nodup, hindexes, fun key hkey => ?_⟩
      rcases List.mem_append.mp hkey with hkey | hkey
      · exact hkeys key hkey
      · obtain rfl := List.mem_singleton.mp hkey
        exact isSome_field?_iff.mpr hobjection

/-- Declarations keep a model well-formed. -/
theorem WellFormed.declareAll (h : m.WellFormed) (ds : List Declaration) : (m.declareAll ds).1.WellFormed := by
  induction ds generalizing m with
  | nil => exact h
  | cons d ds ih => exact ih (h.declare d)

/-- The primary key field of a model is one of its fields. -/
theorem mem_of_requireOnePrimary {f : Field} (h : m.requireOnePrimary = .ok f) : f ∈ m.fields := by
  unfold requireOnePrimary onePrimary? at h
  split at h
  · rename_i g hg
    cases h
    split at hg
    · rename_i hkeys
      cases hg
      have hkey : f ∈ m.primaryKeys := hkeys ▸ List.mem_singleton_self f
      exact (List.mem_filter.mp hkey).1
    · cases hg
  · cases h

/-- A model has one primary key field exactly when its primary key fields are that one. -/
theorem onePrimary?_eq_some_iff {f : Field} : m.onePrimary? = some f ↔ m.primaryKeys = [f] := by
  unfold onePrimary?
  split
  · rename_i g hg
    rw [hg, Option.some.injEq, List.cons.injEq, and_iff_left rfl]
  · rename_i hnone
    exact iff_of_false nofun fun hone => hnone f hone

/-! ## Models as they are built -/

/-- A model that holds some declarations in order, and nothing else. -/
structure Holds (m : Model) (ds : List Declaration) : Prop where
  fields : m.fields = ds.filterMap Declaration.field?
  indexes : m.indexes = ds.filterMap Declaration.index?
  foreignKeys : m.foreignKeys = ds.filterMap Declaration.foreignKey?

variable {ds : List Declaration}

/-- What is added is held after the rest. -/
theorem Holds.add (h : m.Holds ds) (d : Declaration) : (m.add d).Holds (ds ++ [d]) := by
  have hlast : ∀ {α : Type} (part : Declaration → Option α), (ds ++ [d]).filterMap part = ds.filterMap part ++ (part d).toList := by
    intro α part
    rw [List.filterMap_append]
    cases hd : part d <;> simp [hd]
  constructor <;> rw [hlast]
  · rw [← h.fields]
    cases d with
    | field f => rfl
    | index _ _ _ => exact (List.append_nil _).symm
    | foreignKey _ _ _ => exact (List.append_nil _).symm
  · rw [← h.indexes]
    cases d with
    | field f => exact (List.append_nil _).symm
    | index _ _ _ => rfl
    | foreignKey _ _ _ => exact (List.append_nil _).symm
  · rw [← h.foreignKeys]
    cases d with
    | field f => exact (List.append_nil _).symm
    | index _ _ _ => exact (List.append_nil _).symm
    | foreignKey _ _ _ => rfl

/-- A model that holds the declarations in order has no objection to one more exactly when it is in order. -/
theorem Holds.objection?_eq_none_iff (h : m.Holds (Declaration.inOrder ds)) :
    m.objection? d = none ↔ d.IsInOrder (Declaration.names ds) := by
  rw [Model.objection?_eq_none_iff, h.fields]
  exact Declaration.isInOrder_congr fun _ => Declaration.mem_names_inOrder

/-- A declaration in order is added without a warning. -/
theorem Holds.declare_of_isInOrder (h : m.Holds (Declaration.inOrder ds)) (hd : d.IsInOrder (Declaration.names ds)) : m.declare d = (m.add d, []) := by
  rw [declare, h.objection?_eq_none_iff.mpr hd]

/-- A declaration out of order gives one warning and changes nothing. -/
theorem Holds.declare_of_not_isInOrder (h : m.Holds (Declaration.inOrder ds)) (hd : ¬ d.IsInOrder (Declaration.names ds)) :
    ∃ text, m.objection? d = some text ∧ m.declare d = (m, [⟨.warn, text⟩]) := by
  obtain ⟨text, htext⟩ := Option.ne_none_iff_exists'.mp fun hnone => hd (h.objection?_eq_none_iff.mp hnone)
  exact ⟨text, htext, by rw [declare, htext]⟩

/-- A declaration keeps that a model holds those in order. -/
theorem Holds.declare (h : m.Holds (Declaration.inOrder ds)) (d : Declaration) : (m.declare d).1.Holds (Declaration.inOrder (ds ++ [d])) := by
  rw [Declaration.inOrder_concat]
  by_cases hd : d.IsInOrder (Declaration.names ds)
  · rw [h.declare_of_isInOrder hd, if_pos hd]
    exact h.add d
  · obtain ⟨text, -, hdeclare⟩ := h.declare_of_not_isInOrder hd
    rw [hdeclare, if_neg hd, List.append_nil]
    exact h

/-- The last of some declarations meets the model that those before it made. -/
theorem declareAll_concat (m : Model) (ds : List Declaration) (d : Declaration) :
    m.declareAll (ds ++ [d]) = (((m.declareAll ds).1.declare d).1, (m.declareAll ds).2 ++ ((m.declareAll ds).1.declare d).2) := by
  induction ds generalizing m with
  | nil => simp [declareAll]
  | cons e ds ih => simp only [List.cons_append, declareAll, ih, List.append_assoc]

/-- A model holds the declarations in order of those that it is made from. -/
theorem holds_declareAll (name : String) (ds : List Declaration) :
    (declareAll { name } ds).1.Holds (Declaration.inOrder ds) := by
  induction ds using List.reverseRecOn with
  | nil => exact ⟨rfl, rfl, rfl⟩
  | append_singleton ds d ih =>
    rw [declareAll_concat]
    exact ih.declare d

theorem name_declare (m : Model) (d : Declaration) : (m.declare d).1.name = m.name := by
  unfold declare
  cases m.objection? d with
  | some warning => rfl
  | none => cases d <;> rfl

theorem name_declareAll (m : Model) (ds : List Declaration) : (m.declareAll ds).1.name = m.name := by
  induction ds generalizing m with
  | nil => rfl
  | cons d ds ih => exact (ih _).trans (m.name_declare d)

end Model

/-- A built model is well-formed. -/
theorem Description.wellFormed_build (description : Description) : description.build.1.WellFormed :=
  (Model.wellFormed_empty description.name).declareAll description.declarations

/-- A built model has the name of its description and holds the declarations that are in order, each in its place: of the fields with one
name the first, and the indexes and foreign keys whose fields were all declared before them. At every point a declaration in order is added
without a warning, and any other gives exactly one warning and leaves the model as it was; closing the model adds no more than the warning
about several fields for the time of deletion. So the names of the fields differ, every field is found by its name, every name that an index
or a foreign key mentions is that of a field, and the one primary key is the only element of the primary keys. -/
theorem build_inOrder (description : Description) :
    let start : Model := { name := description.name }
    let m := description.build.1
    m.name = description.name ∧ m.Holds (Declaration.inOrder description.declarations) ∧
    description.build.2 = (start.declareAll description.declarations).2 ++ m.closingWarnings ∧
    (∀ before d, (d.IsInOrder (Declaration.names before) →
        start.declareAll (before ++ [d]) = ((start.declareAll before).1.add d, (start.declareAll before).2)) ∧
      (¬ d.IsInOrder (Declaration.names before) → ∃ text, (start.declareAll before).1.objection? d = some text ∧
        start.declareAll (before ++ [d]) = ((start.declareAll before).1, (start.declareAll before).2 ++ [⟨.warn, text⟩]))) ∧
    (m.fields.map (·.name)).Nodup ∧ (∀ f ∈ m.fields, m.field? f.name = some f) ∧
    (∀ index ∈ m.indexes, ∀ name ∈ index.fields, ∃ f ∈ m.fields, f.name = name ∧ m.field? name = some f) ∧
    (∀ key ∈ m.foreignKeys, ∃ f ∈ m.fields, f.name = key.field ∧ m.field? key.field = some f) ∧
    ∀ f, m.onePrimary? = some f ↔ m.primaryKeys = [f] := by
  intro start m
  have hformed : m.WellFormed := description.wellFormed_build
  refine ⟨start.name_declareAll _, Model.holds_declareAll _ _, rfl, fun before d => ?_, hformed.nodup, fun f hf => hformed.field?_name hf,
    fun index hindex name hname => Model.exists_of_isSome_field? (hformed.indexes index hindex name hname),
    fun key hkey => Model.exists_of_isSome_field? (hformed.foreignKeys key hkey), fun f => Model.onePrimary?_eq_some_iff⟩
  have hholds : (start.declareAll before).1.Holds (Declaration.inOrder before) := Model.holds_declareAll _ _
  constructor
  · intro hd
    rw [Model.declareAll_concat, hholds.declare_of_isInOrder hd, List.append_nil]
  · intro hd
    obtain ⟨text, htext, hdeclare⟩ := hholds.declare_of_not_isInOrder hd
    exact ⟨text, htext, by rw [Model.declareAll_concat, hdeclare]⟩

/-- An index stands before its field, a field is repeated with another column, and a foreign key is of no field. -/
theorem build_inOrder_note :
    ∃ description : Description,
      description.declarations.map Declaration.index? = [some ⟨"early", ["a"], false⟩, none, none, some ⟨"late", ["a"], true⟩, none, none] ∧
      description.declarations.filterMap Declaration.foreignKey? = [⟨"b", "t", "id"⟩] ∧
      (description.declarations.filterMap Declaration.field?).map (fun f => (f.name, f.column)) = [("a", "a"), ("a", "x"), ("c", "c")] ∧
      description.build.1.fields.map (fun f => (f.name, f.column)) = [("a", "a"), ("c", "c")] ∧
      description.build.1.indexes = [⟨"late", ["a"], true⟩] ∧ description.build.1.foreignKeys = [] ∧
      ∃ f ∈ description.build.1.fields, description.build.1.field? "a" = some f ∧ f.column = "a" := by
  let description : Description := ⟨"note", [.index "early" ["a"] false, .field (Field.of "a" .text),
    .field { Field.of "a" .text with column := "x" }, .index "late" ["a"] true, .foreignKey "b" "t" "id", .field (Field.of "c" .text)]⟩
  obtain ⟨-, hholds, -, -, -, -, hindexes, -, -⟩ := build_inOrder description
  have hlate : description.build.1.indexes = [⟨"late", ["a"], true⟩] := hholds.indexes.trans (by decide)
  obtain ⟨f, hf, -, hfound⟩ := hindexes ⟨"late", ["a"], true⟩ (hlate ▸ List.mem_singleton_self _) "a" (List.mem_singleton_self _)
  refine ⟨description, by decide, by decide, by decide, ?_, hlate, hholds.foreignKeys.trans (by decide), f, hf, hfound, ?_⟩
  · rw [hholds.fields]
    decide
  · cases hfound
    rfl

end RecordSql
