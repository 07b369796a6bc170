import RecordSql.Proofs.Text.Numbered
import RecordSql.Proofs.Text.Separated

/-!
# Numbering part by part

Parts that all hold text are joined in the usual way (`separated_eq_intercalate`). A text that is put together from parts is numbered part
by part: a part without placeholders stays as it is, and numbering goes on where the part before it ended (`Numbers.append`,
`Numbers.intercalate`).
-/

namespace RecordSql.Text

/-- Parts that all hold text stand with the separator between them. -/
theorem separated_eq_intercalate (separator : String) {parts : List String} (h : ∀ part ∈ parts, part ≠ "") :
    separated separator parts = separator.intercalate parts := by
  have hparts : nonEmpty parts = parts := List.filter_eq_self.mpr fun part hpart => decide_eq_true (h part hpart)
  have hclosed : ¬ IsOpen parts := fun hopen => h "" (List.mem_of_getLast? hopen.1) rfl
  rw [separated_eq, hparts, if_neg hclosed, String.append_empty]

/-- Every part but the first stands with the separator in front of it. -/
theorem intercalate_cons (separator part : String) (parts : List String) :
    separator.intercalate (part :: parts) = part ++ String.join (parts.map (separator ++ ·)) := by
  induction parts generalizing part with
  | nil => simp
  | cons next parts ih =>
    rw [String.intercalate_cons_cons, ih, List.map_cons, String.join_cons, String.append_assoc, String.append_assoc]

/-- Parts that follow others stand with the separator in front of each. -/
theorem intercalate_append (separator : String) {parts more : List String} (h : parts = [] → more = []) :
    separator.intercalate (parts ++ more) = separator.intercalate parts ++ String.join (more.map (separator ++ ·)) := by
  cases parts with
  | nil =>
    obtain rfl := h rfl
    rfl
  | cons part parts => rw [List.cons_append, intercalate_cons, intercalate_cons, List.map_append, String.join_append, String.append_assoc]

/-- Characters without placeholders are numbered as they are. -/
theorem numberFrom_of_countFrom {s : Section} {cs : List Char} (h : countFrom s cs = 0) (n : Nat) : numberFrom s n cs = cs := by
  induction cs generalizing s with
  | nil => rfl
  | cons c cs ih =>
    rw [countFrom, Nat.add_eq_zero_iff] at h
    have hc : isPlaceholder s c = false := by simpa using h.1
    rw [numberFrom, hc, ih h.2]
    rfl

/-- A text has `k` placeholders, ends outside of quoted sections, and is numbered from `n` as another text. -/
structure Numbers (n k : Nat) (text new : String) : Prop where
  closed : Section.after none text.toList = none
  count : countFrom none text.toList = k
  numbered : numberFrom none n text.toList = new.toList

namespace Numbers

variable {n k l : Nat} {text new : String}

/-- A text without placeholders stays as it is. -/
theorem plain (h : Scans text 0) : Numbers n 0 text text :=
  ⟨h.closed, h.count, numberFrom_of_countFrom h.count n⟩

/-- A placeholder is written as its number. -/
theorem hole (n : Nat) : Numbers n 1 "?" ("$" ++ toString n) where
  closed := rfl
  count := rfl
  numbered := by
    rw [String.toList_append]
    change '$' :: ((toString n).toList ++ []) = _
    rw [List.append_nil]
    rfl

/-- Numbering goes on in the second text where it ended in the first. -/
theorem append {more other : String} (h : Numbers n k text new) (h' : Numbers (n + k) l more other) :
    Numbers n (k + l) (text ++ more) (new ++ other) where
  closed := by rw [String.toList_append, Section.after_append, h.closed, h'.closed]
  count := by rw [String.toList_append, countFrom_append, h.closed, h.count, h'.count]
  numbered := by
    rw [String.toList_append, numberFrom_append, h.closed, h.count, h.numbered, h'.numbered, String.toList_append]

theorem plain_append {words : String} (hw : Scans words 0) (h : Numbers n k text new) : Numbers n k (words ++ text) (words ++ new) := by
  have happend := (plain (n := n) hw).append h
  rwa [Nat.zero_add] at happend

/-- Parts with one placeholder each are numbered one after the other. -/
theorem intercalate {α : Type} {separator : String} (hsep : Scans separator 0) (part : α → String) (numbered : α → Nat → String)
    (h : ∀ a n, Numbers n 1 (part a) (numbered a n)) (as : List α) (n : Nat) :
    Numbers n as.length (separator.intercalate (as.map part))
      (separator.intercalate ((as.zipIdx n).map fun p => numbered p.1 p.2)) := by
  induction as generalizing n with
  | nil => exact .plain .empty
  | cons a as ih =>
    have hfirst := h a n
    cases as with
    | nil => simpa using hfirst
    | cons b as =>
      have hrest := hfirst.append (.plain_append hsep (ih (n + 1)))
      rw [Nat.add_comm] at hrest
      rw [List.map_cons, List.map_cons, String.intercalate_cons_cons, List.zipIdx_cons, List.map_cons, List.zipIdx_cons,
        List.map_cons, String.intercalate_cons_cons, String.append_assoc, String.append_assoc]
      exact hrest

/-- A text that is numbered as another one is numbered as a whole. -/
theorem numbered_eq (h : Numbers 1 k text new) : Text.numbered text = new := by
  rw [Text.numbered, h.numbered, String.ofList_toList]

end Numbers

end RecordSql.Text
