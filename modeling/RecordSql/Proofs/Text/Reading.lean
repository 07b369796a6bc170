import Mathlib.Data.List.Basic
import RecordSql.Proofs.Text.Enclosed

/-!
# Reading parts

What is written part by part is read back part by part: words, quoted names, and items with a separator between them. A reader gives what
it reads at the start of a text and the text after it. Items that a reader reads back are read back as a list, as far as the separator goes
on (`readItems_intercalate`).
-/

namespace RecordSql.Text

/-- The text after some words, if it starts with them. -/
def after? (words : String) (cs : List Char) : Option (List Char) :=
  cs.dropPrefix? words.toList

theorem after?_append (words : String) (rest : List Char) : after? words (words.toList ++ rest) = some rest :=
  List.dropPrefix?_append_of_beq rest (beq_self_eq_true _)

/-- A quoted name. -/
def readName? (quote : Char) : List Char → Option (String × List Char)
  | [] => none
  | c :: cs =>
    if c = quote then (readEnclosed quote cs).map fun (content, rest) => (String.ofList content, rest)
    else none

/-- A name is read back before any text that does not go on with the quote. -/
theorem readName?_enclosed (quote : Char) (name : String) {rest : List Char} (h : rest.head? ≠ some quote) :
    readName? quote ((enclosed quote name).toList ++ rest) = some (name, rest) := by
  obtain ⟨cs, hcs, hread⟩ := readEnclosed_enclosed quote name rest h
  rw [hcs, List.cons_append, readName?, if_pos rfl, hread]
  simp

/-- Items with a separator between them, as far as the separator goes on. -/
def readItems {α : Type} (item : List Char → Option (α × List Char)) (separator : String) (cs : List Char) :
    Option (List α × List Char) :=
  match item cs with
  | none => none
  | some (a, rest) =>
    match after? separator rest with
    | none => some ([a], rest)
    | some more =>
      if more.length < cs.length then (readItems item separator more).map fun (as, rest) => (a :: as, rest) else none
termination_by cs.length

/-- Items that are read back where a separator or the rest follows are read back as a list. -/
theorem readItems_intercalate {α : Type} {item : List Char → Option (α × List Char)} {part : α → String} {separator : String}
    {rest : List Char} (hsep : separator.toList ≠ [])
    (hitem : ∀ a tail, tail = rest ∨ (∃ more, tail = separator.toList ++ more) → item ((part a).toList ++ tail) = some (a, tail))
    (hrest : after? separator rest = none) {as : List α} (has : as ≠ []) :
    readItems item separator ((separator.intercalate (as.map part)).toList ++ rest) = some (as, rest) := by
  induction as with
  | nil => exact absurd rfl has
  | cons a as ih =>
    cases as with
    | nil =>
      rw [List.map_singleton, String.intercalate_singleton, readItems, hitem a rest (.inl rfl)]
      simp only [hrest]
    | cons b as =>
      have hmore := ih (List.cons_ne_nil _ _)
      have hlength : 0 < separator.toList.length := List.length_pos_iff.mpr hsep
      rw [List.map_cons, List.map_cons, String.intercalate_cons_cons, String.toList_append, String.toList_append, List.append_assoc,
        List.append_assoc, readItems, hitem a _ (.inr ⟨_, rfl⟩)]
      simp only [after?_append]
      rw [← List.map_cons, hmore, if_pos]
      · rfl
      · simp only [List.length_append]
        omega

end RecordSql.Text
