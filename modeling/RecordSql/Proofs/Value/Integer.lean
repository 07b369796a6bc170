import Mathlib.Algebra.Order.Field.Rat
import Mathlib.Tactic.FieldSimp
import Mathlib.Tactic.NormNum
import RecordSql.Proofs.Value.Same
import RecordSql.Value.Decode

/-!
# Decoding integers

A value decodes into an integer type exactly when it stands for an integer that the type holds, and then into that integer, so nothing is
wrapped, cut off or moved into range. So decoding into one type after the other fails or ends with the number it began with
(`integers_exact`).
-/

namespace RecordSql

namespace Decimal

/-- The number that a decimal number is. -/
def number (d : Decimal) : ℚ :=
  d.signed / 10 ^ d.scale

variable {d : Decimal} {n : Int}

theorem natAbs_signed (d : Decimal) : d.signed.natAbs = d.coefficient := by
  unfold signed
  split <;> simp

/-- A decimal number is an integer when its coefficient is as many times a power of ten. -/
theorem number_eq_iff : d.number = n ↔ d.signed = n * (Number.tenTo d.scale : Int) := by
  have hpower : (10 : ℚ) ^ d.scale ≠ 0 := pow_ne_zero _ (by norm_num)
  rw [number, div_eq_iff hpower, Number.tenTo]
  norm_cast

/-- A decimal number without a fraction gives the integer that it is, and any other gives none. -/
theorem toInt?_eq_some_iff : d.toInt? = some n ↔ d.number = n := by
  have hdvd : d.coefficient % Number.tenTo d.scale = 0 ↔ (Number.tenTo d.scale : Int) ∣ d.signed := by
    rw [Int.natCast_dvd, natAbs_signed, Nat.dvd_iff_mod_eq_zero]
  rw [number_eq_iff, toInt?]
  by_cases hwhole : d.coefficient % Number.tenTo d.scale = 0
  · rw [if_pos hwhole, Option.some.injEq]
    have hcancel := Int.tdiv_mul_cancel (hdvd.mp hwhole)
    constructor
    · rintro rfl
      exact hcancel.symm
    · intro hsigned
      rw [hsigned] at hcancel ⊢
      exact Int.mul_tdiv_cancel n (Number.tenTo_ne_zero d.scale)
  · rw [if_neg hwhole]
    refine iff_of_false nofun fun hsigned => hwhole (hdvd.mpr ?_)
    exact ⟨n, hsigned.trans (Int.mul_comm ..)⟩

end Decimal

namespace Value

/-- The number that an integer or a decimal number stands for. -/
def number? : Value → Option ℚ
  | .of (.integer _ n _) => some n
  | .of (.decimal d _ _) => some d.number
  | _ => none

/-- A value that is decoded into one integer type after the other. -/
def decodeChain : List IntegerType → Value → Except Fault Value
  | [], v => .ok v
  | t :: ts, v => do decodeChain ts (.of (← v.decode (.integer t)))

variable {v w : Value} {t : IntegerType} {n : Int}

/-- The integer of a value is the number that it stands for. -/
theorem integral?_eq_some_iff : v.integral? = some n ↔ v.number? = some (n : ℚ) := by
  cases v with
  | null type => exact iff_of_false nofun nofun
  | of s =>
    cases s with
    | integer u m h => simp [integral?, number?]
    | decimal d precision scale => rw [integral?, Decimal.toInt?_eq_some_iff, number?, Option.some.injEq]
    | _ => exact iff_of_false nofun nofun

/-- The integer of a type that a value gives is the number that it stands for. -/
theorem toInteger_eq_ok_iff {x : { n : Int // t.Holds n }} : v.toInteger t = .ok x ↔ v.number? = some (x.1 : ℚ) := by
  rw [← integral?_eq_some_iff]
  fun_cases toInteger t v with
  | case1 n hv h =>
    rw [hv, Except.ok.injEq, Option.some.injEq]
    exact Subtype.ext_iff
  | case2 n hv h =>
    refine iff_of_false nofun fun hx => h ?_
    obtain rfl : n = x.1 := Option.some.inj (hv.symm.trans hx)
    exact x.2
  | case3 hv =>
    rw [hv]
    exact iff_of_false nofun nofun

/-- A value decodes into an integer type exactly when it stands for an integer that the type holds, and then into that one. -/
theorem decode_integer_eq_ok_iff {s : Scalar} :
    v.decode (.integer t) = .ok s ↔ ∃ n, ∃ h : t.Holds n, v.number? = some (n : ℚ) ∧ s = .integer t n h := by
  change (v.toInteger t).map (fun x => Scalar.integer t x.1 x.2) = .ok s ↔ _
  constructor
  · intro hs
    cases hx : v.toInteger t with
    | error f =>
      rw [hx] at hs
      cases hs
    | ok x =>
      rw [hx] at hs
      cases hs
      exact ⟨x.1, x.2, toInteger_eq_ok_iff.mp hx, rfl⟩
  · rintro ⟨n, h, hnumber, rfl⟩
    have hx : v.toInteger t = .ok ⟨n, h⟩ := toInteger_eq_ok_iff.mpr hnumber
    rw [hx]
    rfl

/-- A value stands for one integer at most. -/
theorem number?_inj {m : Int} (hn : v.number? = some (n : ℚ)) (hm : v.number? = some (m : ℚ)) : n = m := by
  exact_mod_cast Option.some.inj (hn.symm.trans hm)

/-- A value decodes into an integer type, or it stands for no integer that the type holds. -/
theorem decode_integer_cases (t : IntegerType) (v : Value) :
    (∃ n, ∃ h : t.Holds n, v.number? = some (n : ℚ) ∧ v.decode (.integer t) = .ok (.integer t n h)) ∨
      (∃ f, v.decode (.integer t) = .error f) ∧ ∀ n : Int, v.number? = some (n : ℚ) → ¬ t.Holds n := by
  cases hv : v.decode (.integer t) with
  | ok s =>
    obtain ⟨n, h, hnumber, rfl⟩ := decode_integer_eq_ok_iff.mp hv
    exact .inl ⟨n, h, hnumber, rfl⟩
  | error f =>
    refine .inr ⟨⟨f, rfl⟩, fun n hnumber h => ?_⟩
    rw [decode_integer_eq_ok_iff.mpr ⟨n, h, hnumber, rfl⟩] at hv
    cases hv

/-- Decoding into one type after the other ends with the number that it began with, and fails when some type does not hold it. -/
theorem decodeChain_eq_ok_iff {ts : List IntegerType} : v.decodeChain (ts ++ [t]) = .ok w ↔
    ∃ n, ∃ h : t.Holds n, v.number? = some (n : ℚ) ∧ (∀ u ∈ ts, u.Holds n) ∧ w = .of (.integer t n h) := by
  induction ts generalizing v with
  | nil =>
    rw [List.nil_append, decodeChain]
    rcases decode_integer_cases t v with ⟨n, h, hnumber, hv⟩ | ⟨⟨f, hv⟩, hnone⟩ <;> rw [hv]
    · constructor
      · intro hw
        cases hw
        exact ⟨n, h, hnumber, nofun, rfl⟩
      · rintro ⟨m, hm, hsame, -, rfl⟩
        obtain rfl := number?_inj hnumber hsame
        rfl
    · refine iff_of_false nofun ?_
      rintro ⟨n, h, hnumber, -⟩
      exact hnone n hnumber h
  | cons u ts ih =>
    rw [List.cons_append, decodeChain]
    rcases decode_integer_cases u v with ⟨n, h, hnumber, hv⟩ | ⟨⟨f, hv⟩, hnone⟩ <;> rw [hv]
    · -- the number goes on as one of the type, which holds it
      have hkept : (of (.integer u n h)).number? = v.number? := hnumber.symm
      refine ih.trans (exists_congr fun m => exists_congr fun hm => ?_)
      rw [hkept, List.forall_mem_cons]
      refine and_congr_right fun hsame => ?_
      obtain rfl := number?_inj hnumber hsame
      rw [and_iff_right h]
    · refine iff_of_false nofun ?_
      rintro ⟨n, h, hnumber, hall, -⟩
      exact hnone n hnumber (hall u (List.mem_cons_self ..))

end Value

/-- A value decodes into an integer type exactly when it is an integer of any type, or a decimal number without a fraction, and its number is
one that the type holds; what it decodes to is this number. Decoding into any types one after the other gives the number that the value
stands for, when all of the types hold it, and fails otherwise. An optional field decodes a value that is not NULL like any other field, and
holds NULL after decoding exactly when the value is NULL. -/
theorem integers_exact (v : Value) (t : IntegerType) :
    (∀ s, v.decode (.integer t) = .ok s ↔ ∃ n, ∃ h : t.Holds n, v.number? = some (n : ℚ) ∧ s = .integer t n h) ∧
    (∀ ts w, v.decodeChain (ts ++ [t]) = .ok w ↔
      ∃ n, ∃ h : t.Holds n, v.number? = some (n : ℚ) ∧ (∀ u ∈ ts, u.Holds n) ∧ w = .of (.integer t n h)) ∧
    (v.isNull = false → v.decodeField (.integer t) true = (v.decode (.integer t)).map .of) ∧
    ((∃ type, v.decodeField (.integer t) true = .ok (.null type)) ↔ v.isNull = true) := by
  refine ⟨fun s => Value.decode_integer_eq_ok_iff, fun ts w => Value.decodeChain_eq_ok_iff, ?_, ?_⟩
  · intro hnull
    rw [Value.decodeField, hnull]
    rfl
  · rw [Value.decodeField]
    cases hnull : v.isNull with
    | true => exact iff_of_true ⟨_, rfl⟩ rfl
    | false =>
      refine iff_of_false ?_ Bool.false_ne_true
      rintro ⟨type, hdecode⟩
      cases hv : v.decode (.integer t) <;> rw [hv] at hdecode <;> cases hdecode

end RecordSql
