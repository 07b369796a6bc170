import RecordSql.Proofs.Value.Same
import RecordSql.Value.Decode

/-!
# Keys of one kind

Linking columns are compared by the keys of their values, and fields by what they decode to. The two agree on the values of the kind that a
field is bound as, where integers may have any width and characters and texts go for each other: such a value has the key of a field exactly
when it decodes to the value of the field. A value of another kind may decode to the same, but its key is never that of the field
(`same_key_iff`).
-/

namespace RecordSql

namespace Value

/-- Whether a value is of the kind that fields of a native type are bound as: an integer of any width for integers, a character or a text
for either, and otherwise a scalar of the type itself. -/
def isOfKind (T : Native) : Value → Bool
  | .null _ => false
  | .of s =>
    match T, s with
    | .integer _, .integer .. => true
    | .char, .varchar _ => true
    | .text, .char _ => true
    | _, _ => s.type == T.valueType

/-- The text that a scalar is compared as, for characters and texts. -/
def text? : Scalar → Option String
  | .char c => some (String.singleton c)
  | .varchar text => some text
  | _ => none

/-- A scalar that is compared as a text has this text as its key. -/
theorem key_of_text {s : Scalar} {text : String} (h : text? s = some text) : (of s).key = varchar text := by
  cases s <;> cases h <;> rfl

/-- Whether a scalar is compared as it is, neither as an integer nor as a text. -/
structure IsPlain (s : Scalar) : Prop where
  notText : text? s = none
  notInteger : ∀ t, s.type ≠ .integer t

/-- A scalar is compared as an integer, as a text, or as it is. -/
theorem scalar_cases (s : Scalar) : (∃ t n h, s = .integer t n h) ∨ (∃ text, text? s = some text) ∨ IsPlain s := by
  cases s with
  | integer t n h => exact .inl ⟨t, n, h, rfl⟩
  | char c => exact .inr (.inl ⟨_, rfl⟩)
  | varchar text => exact .inr (.inl ⟨_, rfl⟩)
  | _ => exact .inr (.inr ⟨rfl, nofun⟩)

/-- A scalar that is compared as it is is its own key. -/
theorem IsPlain.key_eq {s : Scalar} (h : IsPlain s) : (of s).key = of s := by
  cases s with
  | integer t n h' => exact absurd rfl (h.notInteger t)
  | char c => cases h.notText
  | varchar text => cases h.notText
  | _ => rfl

/-- The key of an integer is taken out of its width, unless it has more than 63 bits. -/
theorem key_integer (t : IntegerType) (n : Int) (h : t.Holds n) :
    (∃ h', (of (.integer t n h)).key = of (.integer .int64 n h')) ∨
      ¬ IntegerType.int64.Holds n ∧ t = .uint64 ∧ (of (.integer t n h)).key = of (.integer t n h) := by
  have hkey : (of (.integer t n h)).key = (integer? .int64 n).getD (of (.integer t n h)) := by
    unfold key
    dsimp only
    cases integer? .int64 n <;> rfl
  rw [hkey, integer?]
  by_cases hn : IntegerType.int64.Holds n
  · rw [dif_pos hn]
    exact .inl ⟨hn, rfl⟩
  · rw [dif_neg hn]
    refine .inr ⟨hn, ?_, rfl⟩
    unfold IntegerType.Holds at h hn
    cases t <;> simp only [IntegerType.least, IntegerType.greatest] at h hn ⊢ <;> omega

/-- Integers have the same key exactly when they are equal, whatever their widths. -/
theorem same_key_integer {t u : IntegerType} {n k : Int} (h : t.Holds n) (h' : u.Holds k) :
    (of (.integer t n h)).key.same (of (.integer u k h')).key = true ↔ n = k := by
  have hsame : ∀ {t u : IntegerType} (h : t.Holds n) (h' : u.Holds k),
      (of (.integer t n h)).same (of (.integer u k h')) = true ↔ t = u ∧ n = k := by
    intro t u h h'
    simp only [same, Scalar.type, Scalar.denotesSame, Bool.and_eq_true, beq_iff_eq, ValueType.integer.injEq, Scalar.integer.injEq]
    exact ⟨fun hs => ⟨hs.1, hs.2.2⟩, fun hs => ⟨hs.1, hs⟩⟩
  have hne : IntegerType.int64 ≠ .uint64 := by decide
  rcases key_integer t n h with ⟨hn, hkey⟩ | ⟨hn, rfl, hkey⟩ <;>
    rcases key_integer u k h' with ⟨hk, hkey'⟩ | ⟨hk, rfl, hkey'⟩ <;> rw [hkey, hkey', hsame]
  · exact and_iff_right rfl
  · exact iff_of_false (fun hs => hne hs.1) fun heq => hk (heq ▸ hn)
  · exact iff_of_false (fun hs => hne hs.1.symm) fun heq => hn (heq ▸ hk)
  · exact and_iff_right rfl

/-- An integer decodes to itself as a type that holds it. -/
theorem decode_integer {t u : IntegerType} {n : Int} (h : t.Holds n) (h' : u.Holds n) :
    (of (.integer u n h')).decode (.integer t) = .ok (.integer t n h) := by
  have hn : (of (.integer u n h')).toInteger t = .ok ⟨n, h⟩ := dif_pos h
  rw [decode, hn]
  rfl

/-- A scalar decodes to itself as the type that it has. -/
theorem decode_own {T : Native} {s : Scalar} (h : s.type = T.valueType) : (of s).decode T = .ok s := by
  cases T <;> cases s <;> cases h
  case integer t n h => exact decode_integer h h
  case binary p x =>
    rw [decode, toBinary, x.convert_self]
    rfl
  all_goals rfl

theorem same_of_iff {s r : Scalar} : (of s).same (of r) = true ↔ s.type = r.type ∧ s.denotesSame r = true := by
  rw [same, Bool.and_eq_true, beq_iff_eq]

/-- Texts are the same when they are equal. -/
theorem same_varchar_iff {text other : String} : (varchar text).same (varchar other) = true ↔ text = other := by
  rw [varchar, varchar, same_of_iff]
  simp [Scalar.type, Scalar.denotesSame]

section Kinds

variable {T : Native} {s u : Scalar}

/-- A scalar that is not compared as a text is neither a character nor a text, and one that is is one of them. -/
theorem text?_eq_none_iff : text? s = none ↔ s.type ≠ .char ∧ s.type ≠ .varchar := by
  cases s <;> simp [text?, Scalar.type]

/-- A scalar that is compared as a text is not an integer. -/
theorem type_ne_integer_of_text {text : String} (h : text? s = some text) (t : IntegerType) : s.type ≠ .integer t := by
  cases s <;> cases h <;> exact nofun

/-- Whether a scalar is compared as it is goes by its type. -/
theorem IsPlain.of_type_eq (hu : IsPlain u) (h : s.type = u.type) : IsPlain s where
  notText := text?_eq_none_iff.mpr (h ▸ text?_eq_none_iff.mp hu.notText)
  notInteger := h ▸ hu.notInteger

/-- The key of a scalar of another type than integers is of another type too. -/
theorem exists_key (htype : ∀ t, s.type ≠ .integer t) : ∃ r, (of s).key = of r ∧ ∀ t, r.type ≠ .integer t := by
  rcases scalar_cases s with ⟨t, n, h, rfl⟩ | ⟨text, htext⟩ | hplain
  · exact absurd rfl (htype t)
  · exact ⟨.varchar text, key_of_text htext, nofun⟩
  · exact ⟨s, hplain.key_eq, htype⟩

/-- The key of an integer is an integer. -/
theorem exists_key_integer (t : IntegerType) (n : Int) (h : t.Holds n) :
    ∃ u h', (of (.integer t n h)).key = of (.integer u n h') := by
  rcases key_integer t n h with ⟨h', hkey⟩ | ⟨-, -, hkey⟩
  · exact ⟨_, h', hkey⟩
  · exact ⟨t, h, hkey⟩

/-- A value that is not an integer has no key of an integer. -/
theorem not_same_key_integer (htype : ∀ t, s.type ≠ .integer t) {t : IntegerType} {n : Int} (h : t.Holds n) :
    ¬ (of s).key.same (of (.integer t n h)).key = true := by
  obtain ⟨r, hkey, hr⟩ := exists_key htype
  obtain ⟨u, h', hkey'⟩ := exists_key_integer t n h
  rw [hkey, hkey', same_of_iff]
  exact fun hsame => hr u hsame.1

/-- A scalar that is compared as it is has the key of another exactly when the two are the same. -/
theorem same_key_of_plain (hu : IsPlain u) : (of s).key.same (of u).key = (of s).same (of u) := by
  have hdiffers : ∀ {r : Scalar}, ¬ IsPlain r → (of r).same (of u) = false := fun hr =>
    Bool.eq_false_iff.mpr fun hsame => hr (hu.of_type_eq (same_of_iff.mp hsame).1)
  rw [hu.key_eq]
  rcases scalar_cases s with ⟨t, n, h, rfl⟩ | ⟨text, hs⟩ | hs
  · have hinteger : ∀ t n h, (of (.integer t n h)).same (of u) = false := fun t n h =>
      hdiffers fun hplain => hplain.notInteger t rfl
    obtain ⟨r, h', hkey⟩ := exists_key_integer t n h
    rw [hkey, hinteger, hinteger]
  · have hvarchar : (varchar text).same (of u) = false := hdiffers fun hplain => nomatch hplain.notText
    have hne : ¬ IsPlain s := fun hplain => nomatch hs.symm.trans hplain.notText
    rw [key_of_text hs, hvarchar, hdiffers hne]
  · rw [hs.key_eq]

/-- A value of a kind that is not compared as an integer or a text has the key of a field exactly when it is the same. -/
theorem same_key_iff_of_plain (hu : u.type = T.valueType) (hplain : IsPlain u) :
    (of s).key.same (of u).key = true ↔ (of s).isOfKind T = true ∧ ∃ r, (of s).decode T = .ok r ∧ r.denotesSame u = true := by
  have hkind : (of s).isOfKind T = (s.type == T.valueType) := by
    cases T <;> cases u <;> cases hu <;> first | rfl | exact absurd rfl (hplain.notInteger _) | cases hplain.notText
  rw [hkind, same_key_of_plain hplain, same_of_iff, beq_iff_eq, hu]
  refine and_congr_right fun hs => ?_
  rw [decode_own hs]
  exact ⟨fun h => ⟨s, rfl, h⟩, fun ⟨r, hr, h⟩ => by cases hr; exact h⟩

/-- An integer of any width has the key of an integer field exactly when it decodes to its value. -/
theorem same_key_iff_of_integer {t : IntegerType} {n : Int} (h : t.Holds n) :
    (of s).key.same (of (.integer t n h)).key = true ↔ (of s).isOfKind (.integer t) = true ∧
      ∃ r, (of s).decode (.integer t) = .ok r ∧ r.denotesSame (.integer t n h) = true := by
  by_cases hinteger : ∃ u, s.type = .integer u
  · obtain ⟨u, hu⟩ := hinteger
    cases s <;> cases hu
    rename_i k h'
    rw [same_key_integer]
    constructor
    · rintro rfl
      exact ⟨rfl, _, decode_integer h h', Scalar.denotesSame_refl _⟩
    · rintro ⟨-, r, hr, hsame⟩
      by_cases hk : t.Holds k
      · rw [decode_integer hk h'] at hr
        cases hr
        simpa [Scalar.denotesSame] using hsame
      · have herror : (of (.integer u k h')).toInteger t = .error (.outOfRange k t) := dif_neg hk
        rw [decode, herror] at hr
        cases hr
  · have htype : ∀ u, s.type ≠ .integer u := fun u hu => hinteger ⟨u, hu⟩
    refine iff_of_false (not_same_key_integer htype h) fun hs => ?_
    have hkind : (of s).isOfKind (.integer t) = false := by
      cases s with
      | integer u k h' => exact absurd rfl (htype u)
      | _ => rfl
    exact Bool.false_ne_true (hkind.symm.trans hs.1)

/-- A character or a text decodes to the character that it consists of. -/
theorem decode_char_iff {text : String} (h : text? s = some text) (c : Char) :
    (of s).decode .char = .ok (.char c) ↔ text = String.singleton c := by
  rw [← String.toList_inj, String.toList_singleton]
  cases s with
  | char c' =>
    obtain rfl : String.singleton c' = text := Option.some.inj h
    have hdecode : (of (.char c')).decode .char = .ok (.char c') := rfl
    simp [hdecode]
  | varchar text' =>
    obtain rfl : text' = text := Option.some.inj h
    unfold decode toChar
    dsimp only
    split
    · rename_i c' hc
      simp [hc, Except.map]
    · rename_i hne
      refine iff_of_false nofun fun heq => hne c heq
  | _ => cases h

/-- A character or a text decodes to its text. -/
theorem decode_text {text : String} (h : text? s = some text) : (of s).decode .text = .ok (.varchar text) := by
  cases s <;> cases h <;> rfl

/-- Only a character or a text itself denotes the same. -/
theorem eq_of_denotesSame {text : String} (h : text? u = some text) (hsame : s.denotesSame u = true) : s = u := by
  rcases Scalar.denotesSame_cases hsame with ⟨_, _, _, _, _, _, -, rfl, -⟩ | ⟨_, _, -, rfl, -⟩ | heq
  · cases h
  · cases h
  · exact heq

/-- A character or a text decodes to the value of a field of either exactly when it is compared as the same text. -/
theorem decode_iff_of_text {text other : String} (hu : u.type = T.valueType) (htext : text? u = some text) (hs : text? s = some other) :
    (of s).decode T = .ok u ↔ other = text := by
  cases u <;> cases htext <;> cases T <;> cases hu
  · exact decode_char_iff hs _
  · rw [decode_text hs]
    simp

/-- A character or a text has the key of a field of either exactly when it decodes to its value. -/
theorem same_key_iff_of_text {text : String} (hu : u.type = T.valueType) (htext : text? u = some text) :
    (of s).key.same (of u).key = true ↔ (of s).isOfKind T = true ∧ ∃ r, (of s).decode T = .ok r ∧ r.denotesSame u = true := by
  rw [key_of_text htext]
  cases hs : text? s with
  | none =>
    have hkind : (of s).isOfKind T = false := by
      cases u <;> cases htext <;> cases T <;> cases hu <;> cases s <;> first | rfl | cases hs
    have hkey : ∃ r, (of s).key = of r ∧ r.type ≠ .varchar := by
      rcases scalar_cases s with ⟨t, n, h, rfl⟩ | ⟨other, hother⟩ | hplain
      · obtain ⟨r, h', hkey⟩ := exists_key_integer t n h
        exact ⟨_, hkey, nofun⟩
      · rw [hs] at hother
        cases hother
      · exact ⟨s, hplain.key_eq, (text?_eq_none_iff.mp hs).2⟩
    obtain ⟨r, hkey, hr⟩ := hkey
    rw [hkey, varchar, same_of_iff]
    exact iff_of_false (fun hsame => hr hsame.1) fun h => Bool.false_ne_true (hkind.symm.trans h.1)
  | some other =>
    rw [key_of_text hs, same_varchar_iff]
    have hkind : (of s).isOfKind T = true := by
      cases u <;> cases htext <;> cases T <;> cases hu <;> cases s <;> cases hs <;> rfl
    rw [hkind, and_iff_right rfl]
    rw [← decode_iff_of_text hu htext hs]
    constructor
    · exact fun h => ⟨u, h, Scalar.denotesSame_refl u⟩
    · rintro ⟨r, hr, hsame⟩
      rwa [eq_of_denotesSame htext hsame] at hr

end Kinds

/-- A scalar has the key of a field exactly when it is of the kind of the field and decodes to the value of the field. -/
theorem same_key_iff {T : Native} {u : Scalar} (hu : u.type = T.valueType) (s : Scalar) :
    (of s).key.same (of u).key = true ↔ (of s).isOfKind T = true ∧ ∃ r, (of s).decode T = .ok r ∧ r.denotesSame u = true := by
  rcases scalar_cases u with ⟨t, n, h, rfl⟩ | ⟨text, htext⟩ | hplain
  · cases T <;> cases hu
    exact same_key_iff_of_integer h
  · exact same_key_iff_of_text hu htext
  · exact same_key_iff_of_plain hu hplain

/-- What a value decodes to has the type of the fields that it is decoded for. -/
theorem type_of_decode {T : Native} {v : Value} {s : Scalar} (h : v.decode T = .ok s) : s.type = T.valueType := by
  have hmap : ∀ {α : Type} {x : Except Fault α} {f : α → Scalar}, x.map f = .ok s → ∃ a, s = f a := by
    intro α x f hx
    cases x with
    | error g => cases hx
    | ok a =>
      cases hx
      exact ⟨a, rfl⟩
  cases T <;> obtain ⟨a, rfl⟩ := hmap h <;> rfl

/-- A NULL decodes to nothing. -/
theorem toOption_decode_of_isNull {T : Native} {v : Value} (h : v.isNull = true) : (v.decode T).toOption = none := by
  cases v with
  | null t => cases T <;> rfl
  | of s => cases h

/-- A value that is not NULL has the key of a field exactly when it is of the kind of the field and decodes to the value of the field. -/
theorem same_key_of_field_iff {T : Native} {v w : Value} (hw : w.isNull = true ∨ w.type = T.valueType) (hv : v.isNull = false) :
    v.key.same w.key = true ↔ v.isOfKind T = true ∧ ∃ s, v.decode T = .ok s ∧ w.same (.of s) = true := by
  cases v with
  | null t => cases hv
  | of s =>
    cases w with
    | null t =>
      refine iff_of_false (fun hs => ?_) fun ⟨_, _, _, hs⟩ => nomatch hs
      have hnull := isNull_eq_of_same_key hs
      cases hnull
    | of u =>
      have hu : u.type = T.valueType := hw.resolve_left nofun
      rw [same_key_iff hu]
      refine and_congr_right fun _ => exists_congr fun r => and_congr_right fun hr => ?_
      rw [same_of_iff, hu, type_of_decode hr, and_iff_right rfl]
      exact ⟨Scalar.denotesSame_symm, Scalar.denotesSame_symm⟩

/-- Two values represent the same value of a native type: they are one value, both are NULL, or they decode to what denotes the same. -/
def RepresentSame (T : Native) (v w : Value) : Prop :=
  v = w ∨ v.isNull = true ∧ w.isNull = true ∨ ∃ s r, v.decode T = .ok s ∧ w.decode T = .ok r ∧ s.denotesSame r = true

end Value

end RecordSql
