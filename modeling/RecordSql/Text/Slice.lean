/-!
# Slices

A slice of a text is given by its first and its last byte. There is no slice that starts or ends inside a character.
-/

namespace RecordSql.Text

/-- A byte position that lies between two characters, or at an end of the text. -/
def IsBoundary (text : String) (position : Nat) : Prop :=
  String.Pos.Raw.IsValid text ⟨position⟩

instance (text : String) : DecidablePred (IsBoundary text) := fun position =>
  inferInstanceAs (Decidable (String.Pos.Raw.IsValid text ⟨position⟩))

/-- A boundary is where a start of the text ends. -/
theorem isBoundary_append (before after : String) : IsBoundary (before ++ after) before.utf8ByteSize :=
  String.Pos.Raw.isValid_iff_exists_append.mpr ⟨before, after, rfl, rfl⟩

/-- The text between two byte positions, if both are boundaries and they stand in this order. -/
def slice? (text : String) (first last : Nat) : Option String :=
  if h : IsBoundary text first ∧ IsBoundary text last ∧ first ≤ last then
    some (text.extract ⟨⟨first⟩, h.1⟩ ⟨⟨last⟩, h.2.1⟩)
  else
    none

/-- The part of a text between two others is the slice from the end of the one to the start of the other. -/
theorem slice?_append (before text after : String) :
    slice? (before ++ text ++ after) before.utf8ByteSize (before ++ text).utf8ByteSize = some text := by
  have hfirst : IsBoundary (before ++ text ++ after) before.utf8ByteSize := by
    rw [String.append_assoc]
    exact isBoundary_append before (text ++ after)
  have hlast : IsBoundary (before ++ text ++ after) (before ++ text).utf8ByteSize := isBoundary_append (before ++ text) after
  have hle : before.utf8ByteSize ≤ (before ++ text).utf8ByteSize := by
    rw [String.utf8ByteSize_append]
    exact Nat.le_add_right ..
  have hbytes : ((before ++ text).toByteArray ++ after.toByteArray).extract before.toByteArray.size (before ++ text).toByteArray.size =
      text.toByteArray := by
    rw [ByteArray.extract_append_size_left, String.toByteArray_append, ByteArray.size_append]
    exact ByteArray.extract_append_eq_right rfl rfl
  rw [slice?, dif_pos ⟨hfirst, hlast, hle⟩, Option.some.injEq, ← String.toByteArray_inj, String.toByteArray_extract,
    String.toByteArray_append]
  exact hbytes

/-- The part of a text behind another one is the slice from the end of that one. -/
theorem slice?_end (before text : String) : slice? (before ++ text) before.utf8ByteSize (before ++ text).utf8ByteSize = some text := by
  have h := slice?_append before text ""
  rwa [String.append_empty] at h

/-- A text grows by the bytes of a character that is written at its end. -/
theorem utf8ByteSize_append_singleton (text : String) (c : Char) :
    (text ++ String.singleton c).utf8ByteSize = text.utf8ByteSize + c.utf8Size := by
  rw [String.utf8ByteSize_append, String.utf8ByteSize_singleton]

end RecordSql.Text
