import RecordSql.Proofs.Value.Integer
import RecordSql.Proofs.Value.Kind
import RecordSql.Value.Hash

/-!
# Keys of linking columns

The key of a value is the member that stands for its class: all NULLs are one class, integers of all widths are classed by their number,
characters and texts by their text, and every other scalar is in the class of its equals (`Value.Matches`). So a table that holds keys by
equality and by hash has one entry for a class (`keys_canonical`).
-/

namespace RecordSql

namespace Value

/-- Two values stand for each other where columns are linked: both are NULL, integers of one number, characters or texts of one text, or
equal scalars of any other type. -/
inductive Matches : Value → Value → Prop
  | null {v w : Value} (hv : v.isNull = true) (hw : w.isNull = true) : Matches v w
  | integer {t u : IntegerType} {n : Int} (h : t.Holds n) (h' : u.Holds n) : Matches (of (.integer t n h)) (of (.integer u n h'))
  | text {s r : Scalar} {text : String} (hs : text? s = some text) (hr : text? r = some text) : Matches (of s) (of r)
  | plain {s r : Scalar} (hs : IsPlain s) (hr : IsPlain r) (h : (of s).same (of r) = true) : Matches (of s) (of r)

/-- An integer of 64 bits is its own key. -/
theorem key_int64 {n : Int} (h : IntegerType.int64.Holds n) : (of (.integer .int64 n h)).key = of (.integer .int64 n h) := by
  rcases key_integer .int64 n h with ⟨_, hkey⟩ | ⟨hn, -, -⟩
  · exact hkey
  · exact absurd h hn

/-- A key is its own key. -/
theorem key_key (v : Value) : v.key.key = v.key := by
  cases v with
  | null t => rfl
  | of s =>
    rcases scalar_cases s with ⟨t, n, h, rfl⟩ | ⟨text, htext⟩ | hplain
    · rcases key_integer t n h with ⟨h', hkey⟩ | ⟨-, -, hkey⟩
      · rw [hkey, key_int64]
      · rw [hkey, hkey]
    · rw [key_of_text htext]
      rfl
    · rw [hplain.key_eq, hplain.key_eq]

/-- The key of exactly the NULLs, of any type, is the NULL without a type. -/
theorem key_eq_null_iff {v : Value} : v.key = .null .untyped ↔ v.isNull = true := by
  constructor
  · intro hkey
    rw [← isNull_key, hkey]
    rfl
  · intro hnull
    cases v with
    | null t => rfl
    | of s => cases hnull

/-- Scalars with equal keys stand for each other, since a key says what its scalar is compared as. -/
theorem matches_of_same_key {s r : Scalar} (h : (of s).key.same (of r).key = true) : Matches (of s) (of r) := by
  rcases scalar_cases r with ⟨u, k, h', rfl⟩ | ⟨text, hr⟩ | hr
  · rcases scalar_cases s with ⟨t, n, h'', rfl⟩ | ⟨text, hs⟩ | hs
    · obtain rfl := (same_key_integer h'' h').mp h
      exact .integer h'' h'
    · exact absurd h (not_same_key_integer (type_ne_integer_of_text hs) h')
    · exact absurd h (not_same_key_integer hs.notInteger h')
  · rcases scalar_cases s with ⟨t, n, h', rfl⟩ | ⟨other, hs⟩ | hs
    · rw [same_comm] at h
      exact absurd h (not_same_key_integer (type_ne_integer_of_text hr) h')
    · rw [key_of_text hs, key_of_text hr, same_varchar_iff] at h
      exact .text hs (h ▸ hr)
    · rw [same_comm, same_key_of_plain hs, same_comm] at h
      exact .plain hs (hs.of_type_eq (same_of_iff.mp h).1.symm) h
  · rw [same_key_of_plain hr] at h
    exact .plain (hr.of_type_eq (same_of_iff.mp h).1) hr h

/-- Two values have the same key exactly when they stand for each other. -/
theorem same_key_iff_matches {v w : Value} : v.key.same w.key = true ↔ Matches v w := by
  constructor
  · intro h
    have hnull := isNull_eq_of_same_key h
    cases v with
    | null t => exact .null rfl hnull.symm
    | of s =>
      cases w with
      | null t => cases hnull
      | of r => exact matches_of_same_key h
  · intro h
    cases h with
    | null hv hw =>
      rw [key_eq_null_iff.mpr hv, key_eq_null_iff.mpr hw]
      exact same_refl _
    | integer h h' => exact (same_key_integer h h').mpr rfl
    | text hs hr =>
      rw [key_of_text hs, key_of_text hr]
      exact same_refl _
    | plain hs hr h => rwa [hs.key_eq, hr.key_eq]

/-- Equal values stand for each other. -/
theorem matches_of_same {v w : Value} (h : v.same w = true) : Matches v w := by
  rcases same_cases h with ⟨t, rfl, rfl⟩ | ⟨s, r, rfl, rfl, htype, hdenotes⟩
  · exact .null rfl rfl
  · rcases scalar_cases r with ⟨u, k, h', rfl⟩ | ⟨text, hr⟩ | hr
    · rcases Scalar.denotesSame_cases hdenotes with ⟨_, _, _, _, _, _, -, hr, -⟩ | ⟨_, _, -, hr, -⟩ | rfl
      · cases hr
      · cases hr
      · exact .integer h' h'
    · rw [eq_of_denotesSame hr hdenotes]
      exact .text hr hr
    · exact .plain (hr.of_type_eq htype) hr h

end Value

/-! ## What equal values write -/

section Hashing

variable {library : HashLibrary}

/-- Scalars of one type that denote the same write the same, if decimal numbers of one value and timestamps of one instant do. -/
theorem Scalar.hashInput_eq_of_denotesSame (hdecimal : ∀ x y : Decimal, x.sameValue y = true → library.decimal x = library.decimal y)
    (hinstant : ∀ x y : OffsetTimestamp, x.instant = y.instant → library.offsetTimestamp x = library.offsetTimestamp y)
    {s r : Scalar} (h : s.denotesSame r = true) : s.hashInput library = r.hashInput library := by
  rcases denotesSame_cases h with ⟨x, y, _, _, _, _, rfl, rfl, hxy⟩ | ⟨x, y, rfl, rfl, hxy⟩ | rfl
  · exact hdecimal x y hxy
  · exact hinstant x y hxy
  · rfl

/-- Equal values write the same, if decimal numbers of one value and timestamps of one instant do. -/
theorem Value.hashInput_eq_of_same (hdecimal : ∀ x y : Decimal, x.sameValue y = true → library.decimal x = library.decimal y)
    (hinstant : ∀ x y : OffsetTimestamp, x.instant = y.instant → library.offsetTimestamp x = library.offsetTimestamp y)
    {v w : Value} (h : v.same w = true) : v.hashInput library = w.hashInput library := by
  rcases same_cases h with ⟨t, rfl, rfl⟩ | ⟨s, r, rfl, rfl, htype, hdenotes⟩
  · rfl
  · rw [hashInput, hashInput, htype, Scalar.hashInput_eq_of_denotesSame hdecimal hinstant hdenotes]

end Hashing

/-! ## A library that writes normal forms -/

namespace Decimal

open Number

/-- A coefficient of the given scale without the zeros at the end of its fraction, and the scale that is left. -/
def stripped : Nat → Nat → Nat × Nat
  | 0, n => (n, 0)
  | scale + 1, n => if n % 10 = 0 then stripped scale (n / 10) else (n, scale + 1)

/-- Zeros added to a fraction are stripped again. -/
theorem stripped_add (scale n k : Nat) : stripped (scale + k) (n * tenTo k) = stripped scale n := by
  induction k with
  | zero => exact congrArg (stripped scale) (Nat.mul_one n)
  | succ k ih =>
    rw [← Nat.add_assoc, tenTo_succ, ← Nat.mul_assoc, stripped, if_pos (Nat.mul_mod_left ..), Nat.mul_div_cancel _ (by decide), ih]

variable {x y : Decimal}

/-- Decimal numbers of one value are the same after stripping: both are, with the zeros of the other's scale added. -/
theorem stripped_eq_of_sameValue (h : x.sameValue y = true) : stripped x.scale x.coefficient = stripped y.scale y.coefficient := by
  have hcoefficient : x.coefficient * tenTo y.scale = y.coefficient * tenTo x.scale := by
    have habs := congrArg Int.natAbs (beq_iff_eq.mp h)
    rwa [Int.natAbs_mul, Int.natAbs_mul, natAbs_signed, natAbs_signed, Int.natAbs_natCast, Int.natAbs_natCast] at habs
  calc stripped x.scale x.coefficient
      = stripped (x.scale + y.scale) (x.coefficient * tenTo y.scale) := (stripped_add ..).symm
    _ = stripped (y.scale + x.scale) (y.coefficient * tenTo x.scale) := by rw [hcoefficient, Nat.add_comm]
    _ = stripped y.scale y.coefficient := stripped_add ..

/-- Decimal numbers of one value are both below zero or both not. -/
theorem signed_nonneg_iff_of_sameValue (h : x.sameValue y = true) : 0 ≤ x.signed ↔ 0 ≤ y.signed := by
  have hx : (0 : Int) < tenTo x.scale := by exact_mod_cast tenTo_pos x.scale
  have hy : (0 : Int) < tenTo y.scale := by exact_mod_cast tenTo_pos y.scale
  rw [← mul_nonneg_iff_of_pos_right hy, beq_iff_eq.mp h, mul_nonneg_iff_of_pos_right hx]

end Decimal

open Number in
/-- A library that writes decimal numbers without the zeros at the end of their fraction, in four words with the scale and the sign in the
last one, and timestamps with an offset by their instant. Zero has no sign there. -/
def HashLibrary.normalizing : HashLibrary where
  decimal d :=
    let (n, scale) := Decimal.stripped d.scale d.coefficient
    let words := [n % twoTo 32, n / twoTo 32 % twoTo 32, n / twoTo 64, scale * twoTo 16 + if 0 ≤ d.signed then 0 else twoTo 31]
    words.map fun word => .integer .uint32 word
  date d := [.integer .int32 d.dayNumber]
  time t := [.integer .uint32 t.secondOfDay, .integer .uint32 t.nanosecond]
  timestamp t := [.integer .int64 t.seconds, .integer .uint32 t.time.nanosecond]
  offsetTimestamp t := [.integer .int64 t.instant.1, .integer .uint32 t.instant.2]
  uuid u := [.bytes ((List.range 16).map fun i => UInt8.ofNat (u.value / twoTo (8 * (15 - i))))]

namespace HashLibrary

theorem normalizing_decimal (x y : Decimal) (h : x.sameValue y = true) : normalizing.decimal x = normalizing.decimal y := by
  simp only [normalizing, Decimal.stripped_eq_of_sameValue h, Decimal.signed_nonneg_iff_of_sameValue h]

theorem normalizing_offsetTimestamp (x y : OffsetTimestamp) (h : x.instant = y.instant) :
    normalizing.offsetTimestamp x = normalizing.offsetTimestamp y := by
  simp only [normalizing, h]

end HashLibrary

/-- Equality of values is an equivalence, and equal values write the same to a hasher when decimal numbers of one value and timestamps of one
instant do. A key is its own key, equal values have equal keys, the key is the NULL without a type for exactly the NULLs, and two values have
equal keys exactly when both are NULL, integers of one number, characters or texts of one text, or equal scalars of another type. -/
theorem keys_canonical (library : HashLibrary)
    (hdecimal : ∀ x y : Decimal, x.sameValue y = true → library.decimal x = library.decimal y)
    (hinstant : ∀ x y : OffsetTimestamp, x.instant = y.instant → library.offsetTimestamp x = library.offsetTimestamp y) :
    Equivalence (fun v w : Value => v.same w = true) ∧
    (∀ v w : Value, v.same w = true → v.hashInput library = w.hashInput library) ∧
    (∀ v : Value, v.key.key = v.key) ∧
    (∀ v w : Value, v.same w = true → v.key.same w.key = true) ∧
    (∀ v : Value, v.key = .null .untyped ↔ v.isNull = true) ∧
    ∀ v w : Value, v.key.same w.key = true ↔ v.Matches w :=
  ⟨⟨Value.same_refl, Value.same_symm, Value.same_trans⟩,
    fun _ _ => Value.hashInput_eq_of_same hdecimal hinstant,
    Value.key_key,
    fun _ _ h => Value.same_key_iff_matches.mpr (Value.matches_of_same h),
    fun _ => Value.key_eq_null_iff,
    fun _ _ => Value.same_key_iff_matches⟩

/-- One and a half with one digit or with two after the point are equal in a column and write the same, the three of eight signed bits has
the key of the three of 64 unsigned ones, and a character has the key of its text. -/
theorem keys_canonical_scales :
    ∃ x y, x.text = "1.5" ∧ y.text = "1.50" ∧
      (Value.of (.decimal x 10 2)).hashInput .normalizing = (Value.of (.decimal y 10 2)).hashInput .normalizing ∧
      (Value.of (.decimal x 10 2)).key.same (Value.of (.decimal y 10 2)).key = true ∧
      (Value.of (.integer .int8 3 (by decide))).key.same (Value.of (.integer .uint64 3 (by decide))).key = true ∧
      (Value.of (.char 'a')).key.same (Value.varchar "a").key = true := by
  let x : Decimal := ⟨false, 15, 1, by decide, by decide⟩
  let y : Decimal := ⟨false, 150, 2, by decide, by decide⟩
  have hsame : (Value.of (.decimal x 10 2)).same (.of (.decimal y 10 2)) = true := by decide
  obtain ⟨-, hhash, -, hkey, -, hmatches⟩ :=
    keys_canonical .normalizing HashLibrary.normalizing_decimal HashLibrary.normalizing_offsetTimestamp
  exact ⟨x, y, by decide, by decide, hhash _ _ hsame, hkey _ _ hsame,
    (hmatches _ _).mpr (.integer _ _), (hmatches _ _).mpr (.text rfl rfl)⟩

end RecordSql
