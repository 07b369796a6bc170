import Mathlib.Data.List.Induction
import Mathlib.Tactic.Ring
import RecordSql.Value.Basic

/-!
# Equal values

Equality of values is an equivalence (`same_refl`, `same_symm`, `same_trans`), and a list of distinct values has one of each class
and nothing else (`exists_distinct_same`, `mem_of_mem_distinct`): the ones that occur for the first time (`distinct_eq_firsts`).
-/

namespace RecordSql

theorem Number.tenTo_ne_zero (n : Nat) : (Number.tenTo n : Int) ≠ 0 := by
  exact_mod_cast (Number.tenTo_pos n).ne'

namespace Decimal

/-- Decimal numbers with the value of a third have the same value. -/
theorem sameValue_trans {x y z : Decimal} (hxy : x.sameValue y = true) (hyz : y.sameValue z = true) :
    x.sameValue z = true := by
  simp only [sameValue, beq_iff_eq] at hxy hyz ⊢
  have hy := Number.tenTo_ne_zero y.scale
  refine mul_right_cancel₀ hy ?_
  calc x.signed * Number.tenTo z.scale * Number.tenTo y.scale
      = x.signed * Number.tenTo y.scale * Number.tenTo z.scale := by ring
    _ = y.signed * Number.tenTo z.scale * Number.tenTo x.scale := by rw [hxy]; ring
    _ = z.signed * Number.tenTo x.scale * Number.tenTo y.scale := by rw [hyz]; ring

theorem sameValue_symm {x y : Decimal} (h : x.sameValue y = true) : y.sameValue x = true := by
  simp only [sameValue, beq_iff_eq] at h ⊢
  exact h.symm

end Decimal

namespace Scalar

theorem denotesSame_refl (s : Scalar) : s.denotesSame s = true := by
  cases s <;> simp [denotesSame, Decimal.sameValue]

/-- Scalars that denote the same are decimal numbers of one value, timestamps of one instant, or one and the same. -/
theorem denotesSame_cases {s r : Scalar} (h : s.denotesSame r = true) :
    (∃ x y p q p' q', s = .decimal x p q ∧ r = .decimal y p' q' ∧ x.sameValue y = true) ∨
    (∃ x y, s = .offsetTimestamp x ∧ r = .offsetTimestamp y ∧ x.instant = y.instant) ∨ s = r := by
  unfold denotesSame at h
  split at h
  · exact .inl ⟨_, _, _, _, _, _, rfl, rfl, h⟩
  · exact .inr (.inl ⟨_, _, rfl, rfl, beq_iff_eq.mp h⟩)
  · exact .inr (.inr (beq_iff_eq.mp h))

theorem denotesSame_symm {s r : Scalar} (h : s.denotesSame r = true) : r.denotesSame s = true := by
  rcases denotesSame_cases h with ⟨x, y, _, _, _, _, rfl, rfl, hxy⟩ | ⟨x, y, rfl, rfl, hxy⟩ | rfl
  · exact Decimal.sameValue_symm hxy
  · exact beq_iff_eq.mpr hxy.symm
  · exact h

theorem denotesSame_trans {s r u : Scalar} (hsr : s.denotesSame r = true) (hru : r.denotesSame u = true) :
    s.denotesSame u = true := by
  rcases denotesSame_cases hsr with ⟨x, y, _, _, _, _, rfl, rfl, hxy⟩ | ⟨x, y, rfl, rfl, hxy⟩ | rfl
  · rcases denotesSame_cases hru with ⟨y, z, _, _, _, _, hy, rfl, hyz⟩ | ⟨_, _, hy, -, -⟩ | rfl
    · cases hy
      exact Decimal.sameValue_trans hxy hyz
    · cases hy
    · exact hsr
  · rcases denotesSame_cases hru with ⟨_, _, _, _, _, _, hy, -, -⟩ | ⟨y, z, hy, rfl, hyz⟩ | rfl
    · cases hy
    · cases hy
      exact beq_iff_eq.mpr (hxy.trans hyz)
    · exact hsr
  · exact hru

end Scalar

namespace Value

theorem same_refl (v : Value) : v.same v = true := by
  cases v with
  | null t => exact beq_self_eq_true t
  | of s => simp [same, Scalar.denotesSame_refl]

/-- Equal values are a NULL of one type, or scalars of one type that denote the same. -/
theorem same_cases {v w : Value} (h : v.same w = true) :
    (∃ t, v = .null t ∧ w = .null t) ∨
    ∃ s r, v = .of s ∧ w = .of r ∧ s.type = r.type ∧ s.denotesSame r = true := by
  unfold same at h
  split at h
  · rw [beq_iff_eq.mp h]
    exact .inl ⟨_, rfl, rfl⟩
  · rw [Bool.and_eq_true, beq_iff_eq] at h
    exact .inr ⟨_, _, rfl, rfl, h.1, h.2⟩
  · cases h

theorem same_of {s r : Scalar} (ht : s.type = r.type) (hs : s.denotesSame r = true) : (of s).same (of r) = true := by
  simp [same, ht, hs]

theorem same_symm {v w : Value} (h : v.same w = true) : w.same v = true := by
  rcases same_cases h with ⟨t, rfl, rfl⟩ | ⟨s, r, rfl, rfl, ht, hs⟩
  · exact same_refl _
  · exact same_of ht.symm (Scalar.denotesSame_symm hs)

theorem same_comm (v w : Value) : v.same w = w.same v :=
  Bool.eq_iff_iff.mpr ⟨same_symm, same_symm⟩

theorem same_trans {u v w : Value} (huv : u.same v = true) (hvw : v.same w = true) : u.same w = true := by
  rcases same_cases huv with ⟨t, rfl, rfl⟩ | ⟨s, r, rfl, rfl, ht, hs⟩
  · exact hvw
  · rcases same_cases hvw with ⟨_, hr, -⟩ | ⟨r', q, hr, rfl, ht', hs'⟩
    · cases hr
    · cases hr
      exact same_of (ht.trans ht') (Scalar.denotesSame_trans hs hs')

/-- The key of a value is NULL when the value is. -/
theorem isNull_key (v : Value) : v.key.isNull = v.isNull := by
  cases v with
  | null t => rfl
  | of s =>
    cases s with
    | integer t n h =>
      unfold key
      dsimp only
      split <;> rename_i v hv
      · unfold integer? at hv
        split at hv
        · cases hv
          rfl
        · cases hv
      · rfl
    | _ => rfl

/-- Of equal values both or none is NULL. -/
theorem isNull_eq_of_same {v w : Value} (h : v.same w = true) : v.isNull = w.isNull := by
  rcases same_cases h with ⟨t, rfl, rfl⟩ | ⟨s, r, rfl, rfl, -, -⟩ <;> rfl

/-- Of values with equal keys both or none is NULL. -/
theorem isNull_eq_of_same_key {v w : Value} (h : v.key.same w.key = true) : v.isNull = w.isNull := by
  rw [← v.isNull_key, ← w.isNull_key]
  exact isNull_eq_of_same h

/-- A value that is not NULL has a key. -/
theorem key?_eq (v : Value) : v.key? = if v.isNull then none else some v.key := by
  rw [key?, isNull_key]

/-! ## Distinct values -/

/-- The values that were seen are the first ones, and each value after them is the same as one of them. -/
theorem foldl_distinct (vs seen : List Value) :
    (∀ v ∈ vs.foldl (fun seen v => if seen.any (same v) then seen else seen ++ [v]) seen, v ∈ seen ∨ v ∈ vs) ∧
    (∀ v, v ∈ seen ∨ v ∈ vs → ∃ u ∈ vs.foldl (fun seen v => if seen.any (same v) then seen else seen ++ [v]) seen,
      u.same v = true) := by
  -- a value that was seen stays, so the list of seen values is general in the induction
  induction vs generalizing seen with
  | nil => exact ⟨fun v hv => .inl hv, fun v hv => ⟨v, by simpa using hv, same_refl v⟩⟩
  | cons w ws ih =>
    rw [List.foldl_cons]
    by_cases hw : seen.any (same w) = true
    · rw [if_pos hw]
      obtain ⟨hmem, hsame⟩ := ih seen
      refine ⟨fun v hv => (hmem v hv).imp_right (List.mem_cons_of_mem _), fun v hv => ?_⟩
      rcases hv with hv | hv
      · exact hsame v (.inl hv)
      rcases List.mem_cons.mp hv with rfl | hv
      · obtain ⟨x, hx, hwx⟩ := List.any_eq_true.mp hw
        obtain ⟨u, hu, hux⟩ := hsame x (.inl hx)
        exact ⟨u, hu, same_trans hux (same_symm hwx)⟩
      · exact hsame v (.inr hv)
    · rw [if_neg hw]
      obtain ⟨hmem, hsame⟩ := ih (seen ++ [w])
      constructor
      · intro v hv
        rcases hmem v hv with hv | hv
        · rcases List.mem_append.mp hv with hv | hv
          · exact .inl hv
          · exact .inr (by simp [List.mem_singleton.mp hv])
        · exact .inr (List.mem_cons_of_mem _ hv)
      · rintro v (hv | hv)
        · exact hsame v (.inl (List.mem_append_left _ hv))
        · rcases List.mem_cons.mp hv with rfl | hv
          · exact hsame v (.inl (by simp))
          · exact hsame v (.inr hv)

/-- Distinct values are among the given ones. -/
theorem mem_of_mem_distinct {v : Value} {vs : List Value} (h : v ∈ distinct vs) : v ∈ vs := by
  simpa using (foldl_distinct vs []).1 v h

/-- Each of the given values is the same as a distinct one. -/
theorem exists_distinct_same {v : Value} {vs : List Value} (h : v ∈ vs) : ∃ u ∈ distinct vs, u.same v = true :=
  (foldl_distinct vs []).2 v (.inr h)

/-- There are distinct values when there are values. -/
theorem distinct_eq_nil_iff {vs : List Value} : distinct vs = [] ↔ vs = [] := by
  constructor
  · intro h
    cases vs with
    | nil => rfl
    | cons v vs =>
      obtain ⟨u, hu, -⟩ := exists_distinct_same (List.mem_cons_self (a := v) (l := vs))
      rw [h] at hu
      cases hu
  · rintro rfl
    rfl

/-- The values with the same value nowhere before them. -/
def firsts (vs : List Value) : List Value :=
  (vs.zipIdx.filter fun p => !(vs.take p.2).any p.1.same).map (·.1)

/-- A last value counts unless it is the same as one before it, and changes nothing for those. -/
theorem firsts_concat (vs : List Value) (v : Value) : firsts (vs ++ [v]) = firsts vs ++ if vs.any v.same then [] else [v] := by
  have hbefore : vs.zipIdx.filter (fun p => !((vs ++ [v]).take p.2).any p.1.same) =
      vs.zipIdx.filter fun p => !(vs.take p.2).any p.1.same := by
    refine List.filter_congr fun p hp => ?_
    have hlt : p.2 < vs.length := by simpa using List.snd_lt_of_mem_zipIdx hp
    rw [List.take_append_of_le_length (Nat.le_of_lt hlt)]
  rw [firsts, List.zipIdx_append, List.filter_append, hbefore, List.map_append]
  congr 1
  cases hv : vs.any v.same <;> simp [hv]

/-- Distinct values are those that occur for the first time, in order. -/
theorem distinct_eq_firsts (vs : List Value) : distinct vs = firsts vs := by
  induction vs using List.reverseRecOn with
  | nil => rfl
  | append_singleton vs v ih =>
    have hany : (distinct vs).any v.same = vs.any v.same := by
      rw [Bool.eq_iff_iff, List.any_eq_true, List.any_eq_true]
      constructor
      · rintro ⟨u, hu, hvu⟩
        exact ⟨u, mem_of_mem_distinct hu, hvu⟩
      · rintro ⟨u, hu, hvu⟩
        obtain ⟨x, hx, hxu⟩ := exists_distinct_same hu
        exact ⟨x, hx, same_trans hvu (same_symm hxu)⟩
    have hlast : distinct (vs ++ [v]) = if (distinct vs).any v.same then distinct vs else distinct vs ++ [v] := by
      rw [distinct, List.foldl_append]
      rfl
    rw [firsts_concat, hlast, hany, ih]
    split <;> simp

end Value

end RecordSql
