import RecordSql.Proofs.Model.Declared
import RecordSql.Proofs.Value.Kind
import RecordSql.Record

/-!
# Records of a type

A model names each of its fields once, because a declaration that repeats a name is refused (`nodup_names`). So the values that a row
decodes to are each of the type of the field with their name, or NULL (`isOf_of_ofRow`).
-/

namespace RecordSql

/-! ## Names of fields -/

/-- The fields of a record type have different names. -/
theorem RecordType.nodup_names (t : RecordType) : (t.model.fields.map (·.name)).Nodup :=
  t.description.wellFormed_build.nodup

/-! ## Values of the types of their fields -/

namespace Record

/-- A field of a record has a value of a native type or NULL, if it has a value. -/
def HasType (r : Record) (field : String) (T : Native) : Prop :=
  ∀ v, r.value? field = some v → v.isNull = true ∨ v.type = T.valueType

/-- A record is of a model when each of its values is NULL or of the type that the field with its name is bound as. -/
def IsOf (m : Model) (r : Record) : Prop :=
  ∀ f ∈ m.fields, ∀ T, Native.ofValueType? f.prototype.type = some T → r.HasType f.name T

/-- The primary key field of a record has a value of its type. -/
theorem IsOf.hasType_key {m : Model} {r : Record} (h : r.IsOf m) {f : Field} (hf : m.requireOnePrimary = .ok f) {T : Native}
    (hT : Native.ofValueType? f.prototype.type = some T) : r.HasType f.name T :=
  h f (Model.mem_of_requireOnePrimary hf) T hT

/-- What a field decodes to is NULL or of the type of the field. -/
theorem typed_of_get {row : Row} {label : String} {T : Native} {optional : Bool} {v : Value} (h : row.get label T optional = .ok v) :
    v.isNull = true ∨ v.type = T.valueType := by
  unfold Row.get at h
  split at h
  · cases h
  · cases h
  · rename_i cell _
    split at h
    · rename_i hdecode
      cases h
      unfold Value.decodeField at hdecode
      split at hdecode
      · cases hdecode
        exact .inl rfl
      · cases hs : cell.decode T with
        | error f =>
          rw [hs] at hdecode
          cases hdecode
        | ok s =>
          rw [hs] at hdecode
          cases hdecode
          exact .inr (Value.type_of_decode hs)
    · cases h

/-- A value that a row decodes to is that of some field with its name. -/
theorem exists_field_of_decodeFields {row : Row} {fields : List Field} {values : List (String × Value)}
    (h : decodeFields row fields = .ok values) {name : String} {v : Value} (hv : values.lookup name = some v) :
    ∃ f ∈ fields, f.name = name ∧ ∃ T, Native.ofValueType? f.prototype.type = some T ∧ (v.isNull = true ∨ v.type = T.valueType) := by
  induction fields generalizing values with
  | nil =>
    cases h
    cases hv
  | cons f fs ih =>
    have hrest : ∀ {values}, decodeFields row fs = .ok values → values.lookup name = some v → ∃ g ∈ f :: fs, g.name = name ∧
        ∃ T, Native.ofValueType? g.prototype.type = some T ∧ (v.isNull = true ∨ v.type = T.valueType) := by
      intro values hvalues hv
      obtain ⟨g, hg, htyped⟩ := ih hvalues hv
      exact ⟨g, List.mem_cons_of_mem f hg, htyped⟩
    rw [decodeFields] at h
    split at h
    · exact hrest h hv
    · rename_i T hT
      split at h
      · cases h
      · rename_i u hget
        cases hdecoded : decodeFields row fs with
        | error halt =>
          rw [hdecoded] at h
          cases h
        | ok decoded =>
          rw [hdecoded] at h
          cases h
          rw [List.lookup_cons] at hv
          cases hname : name == f.name with
          | true =>
            rw [hname] at hv
            cases hv
            exact ⟨f, List.mem_cons_self .., (beq_iff_eq.mp hname).symm, T, hT, typed_of_get hget⟩
          | false =>
            rw [hname] at hv
            exact hrest hdecoded hv

/-- The record of a row is of its model. -/
theorem isOf_of_ofRow {t : RecordType} {row : Row} {r : Record} (h : ofRow t.model row = .ok r) : r.IsOf t.model := by
  intro f hf T hT v hv
  unfold ofRow at h
  cases hdecode : decodeFields row t.model.fields with
  | error halt =>
    rw [hdecode] at h
    cases h
  | ok values =>
    rw [hdecode] at h
    cases h
    obtain ⟨g, hg, hname, U, hU, htyped⟩ := exists_field_of_decodeFields hdecode hv
    obtain rfl : g = f := List.inj_on_of_nodup_map t.nodup_names hg hf hname
    obtain rfl : U = T := Option.some.inj (hU.symm.trans hT)
    exact htyped

/-- Whether a record is of a model is seen from its values. -/
theorem IsOf.of_values {m : Model} {r s : Record} (h : r.IsOf m) (hvalues : s.values = r.values) : s.IsOf m := by
  intro f hf T hT v hv
  rw [value?, hvalues] at hv
  exact h f hf T hT v hv

end Record

end RecordSql
