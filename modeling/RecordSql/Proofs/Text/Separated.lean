import Mathlib.Data.List.Basic
import RecordSql.Text.Separated

/-!
# Lists with empty parts

What is written for a list is the joining of its parts that hold text, and the separator once more if the last part is empty and another
one is not (`separated_eq`). So no separator is leading or doubled, and one is left over in this case alone (`appendSeparated_eq_iff`).
-/

namespace RecordSql.Text

variable {separator : String}

/-! ## At the end of a text -/

/-- A text grows by a part that holds text. -/
theorem length_lt_append_iff (text part : String) : text.utf8ByteSize < (text ++ part).utf8ByteSize ↔ part ≠ "" := by
  rw [String.utf8ByteSize_append, Nat.lt_add_right_iff_pos, Nat.pos_iff_ne_zero, ne_eq, String.utf8ByteSize_eq_zero_iff]

/-- The parts after one that has just been written stand as they do in a list that starts with it. -/
theorem foldl_appendPart (text part : String) (parts : List String) :
    (parts.foldl (appendPart separator) (text ++ part, text.utf8ByteSize)).1 = text ++ separated separator (part :: parts) := by
  induction parts generalizing text part with
  | nil => rfl
  | cons next parts ih =>
    by_cases hpart : part = ""
    · have hsame : ¬ text.utf8ByteSize < (text ++ part).utf8ByteSize := by rw [length_lt_append_iff, not_not, hpart]
      rw [List.foldl_cons, appendPart, if_neg hsame, ih, separated, hpart, String.append_empty]
      rfl
    · have hgrown : text.utf8ByteSize < (text ++ part).utf8ByteSize := (length_lt_append_iff text part).mpr hpart
      have hfull : part.isEmpty = false := by simpa using hpart
      rw [List.foldl_cons, appendPart, if_pos hgrown, ih, separated, hfull, if_neg Bool.false_ne_true]
      simp only [String.append_assoc]

/-- Writing a list at the end of a text adds to the text what the list is on its own. -/
theorem appendSeparated_eq (separator : String) (parts : List String) (text : String) :
    appendSeparated separator parts text = text ++ separated separator parts := by
  cases parts with
  | nil => exact String.append_empty.symm
  | cons part parts =>
    have hfirst : appendPart separator (text, text.utf8ByteSize) part = (text ++ part, text.utf8ByteSize) := by
      rw [appendPart, if_neg (Nat.lt_irrefl _)]
    rw [appendSeparated, List.foldl_cons, hfirst, foldl_appendPart]

/-! ## Empty parts -/

/-- The parts of a list that hold text. -/
def nonEmpty (parts : List String) : List String :=
  parts.filter (· ≠ "")

/-- A list is open when it ends in an empty part, and a part before it holds text. -/
def IsOpen (parts : List String) : Prop :=
  parts.getLast? = some "" ∧ nonEmpty parts ≠ []

instance (parts : List String) : Decidable (IsOpen parts) :=
  inferInstanceAs (Decidable (_ ∧ _))

theorem nonEmpty_cons_empty (parts : List String) : nonEmpty ("" :: parts) = nonEmpty parts := rfl

theorem nonEmpty_cons {part : String} (h : part ≠ "") (parts : List String) : nonEmpty (part :: parts) = part :: nonEmpty parts :=
  List.filter_cons_of_pos (decide_eq_true h)

/-- A list without a part that holds text ends in an empty part, if it ends in any. -/
theorem getLast?_of_nonEmpty {part : String} {parts : List String} (h : nonEmpty (part :: parts) = []) :
    (part :: parts).getLast? = some "" := by
  have hempty := List.filter_eq_nil_iff.mp h _ (List.getLast_mem (List.cons_ne_nil part parts))
  rw [List.getLast?_eq_some_getLast (List.cons_ne_nil part parts)]
  simpa using hempty

/-- With a part that holds text in front, a list is open when it was open before or holds no text. -/
theorem isOpen_cons_cons {part : String} (h : part ≠ "") (next : String) (parts : List String) :
    IsOpen (part :: next :: parts) ↔ IsOpen (next :: parts) ∨ nonEmpty (next :: parts) = [] := by
  rw [IsOpen, IsOpen, nonEmpty_cons h, List.getLast?_cons_cons]
  by_cases hrest : nonEmpty (next :: parts) = []
  · simp [hrest, getLast?_of_nonEmpty hrest]
  · simp [hrest]

/-- A list is its parts that hold text with the separator between them, and the separator once more if the list is open. -/
theorem separated_eq (separator : String) (parts : List String) :
    separated separator parts = separator.intercalate (nonEmpty parts) ++ if IsOpen parts then separator else "" := by
  induction parts with
  | nil => simp [separated, nonEmpty, IsOpen]
  | cons part parts ih =>
    cases parts with
    | nil => by_cases hpart : part = "" <;> simp [separated, hpart, nonEmpty, IsOpen]
    | cons next parts =>
      -- an empty part changes nothing; behind one with text the separator waits for a part that may not come
      by_cases hpart : part = ""
      · subst hpart
        have hopen : IsOpen ("" :: next :: parts) ↔ IsOpen (next :: parts) := Iff.rfl
        rw [separated, ih, nonEmpty_cons_empty]
        simp [hopen]
      · have hfull : part.isEmpty = false := by simpa using hpart
        rw [separated, ih, hfull, nonEmpty_cons hpart]
        by_cases hrest : nonEmpty (next :: parts) = []
        · have hclosed : ¬ IsOpen (next :: parts) := fun h => h.2 hrest
          simp [isOpen_cons_cons hpart, hrest, hclosed]
        · simp [isOpen_cons_cons hpart, hrest, String.intercalate_cons_of_ne_nil, String.append_assoc]

/-- A list has no part that holds text exactly when all its parts are empty. -/
theorem nonEmpty_eq_nil_iff (parts : List String) : nonEmpty parts = [] ↔ ∀ part ∈ parts, part = "" := by
  simp [nonEmpty]

/-- Written at the end of a text, a list adds what it is on its own: its parts that hold text, in order and with the separator between
them, and the separator once more if it is open. So it adds exactly the joined parts when the last part holds text, when no part does
or when the separator is empty, and in no other case. -/
theorem appendSeparated_eq_iff (separator : String) (parts : List String) (text : String) :
    appendSeparated separator parts text = text ++ separated separator parts ∧
      appendSeparated separator parts text =
        text ++ separator.intercalate (nonEmpty parts) ++ (if IsOpen parts then separator else "") ∧
      (appendSeparated separator parts text = text ++ separator.intercalate (nonEmpty parts) ↔
        separator = "" ∨ parts.getLast? ≠ some "" ∨ ∀ part ∈ parts, part = "") := by
  have htext := appendSeparated_eq separator parts text
  have hparts : appendSeparated separator parts text =
      text ++ separator.intercalate (nonEmpty parts) ++ (if IsOpen parts then separator else "") := by
    rw [htext, separated_eq, String.append_assoc]
  refine ⟨htext, hparts, ?_⟩
  rw [hparts, String.append_eq_left_iff, ← nonEmpty_eq_nil_iff]
  by_cases hopen : IsOpen parts
  · rw [if_pos hopen]
    exact ⟨.inl, fun h => h.resolve_right (by simp [hopen.1, hopen.2])⟩
  · rw [if_neg hopen]
    exact ⟨fun _ => .inr (not_and_or.mp hopen |>.imp_right not_not.mp), fun _ => rfl⟩

/-- Behind a last part that is empty the separator is left over. -/
theorem appendSeparated_trailing :
    appendSeparated "," ["a", ""] "" = "a," ∧
      appendSeparated "," ["a", ""] "" ≠ "" ++ ",".intercalate (nonEmpty ["a", ""]) := by
  decide

end RecordSql.Text
