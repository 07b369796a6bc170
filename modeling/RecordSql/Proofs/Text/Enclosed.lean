import RecordSql.Text.Quoted
import RecordSql.Text.Section

/-!
# Reading enclosed text

`readEnclosed` reads a quoted section back, with a doubled quote as its only escape. What `enclosed` writes is read back whole,
before any text that does not go on with the quote (`readEnclosed_enclosed`).
-/

namespace RecordSql.Text

/-- The content of a section whose opening quote has been read, and the text after it. A doubled quote is one quote. -/
def readEnclosed (quote : Char) : List Char → Option (List Char × List Char)
  | [] => none
  | c :: cs =>
    if c = quote then
      match cs with
      | [] => some ([], [])
      | d :: ds =>
        if d = quote then (readEnclosed quote ds).map fun (content, rest) => (quote :: content, rest)
        else some ([], d :: ds)
    else (readEnclosed quote cs).map fun (content, rest) => (c :: content, rest)

/-- A character that is not the quote belongs to the content. -/
theorem readEnclosed_cons_of_ne {quote c : Char} (hc : c ≠ quote) (cs : List Char) :
    readEnclosed quote (c :: cs) = (readEnclosed quote cs).map fun (content, rest) => (c :: content, rest) := by
  cases cs <;> simp [readEnclosed, hc]

/-- What follows a section is shorter than the text it was read from. -/
theorem length_readEnclosed (quote : Char) (cs content rest : List Char) (h : readEnclosed quote cs = some (content, rest)) :
    rest.length < cs.length := by
  induction cs using readEnclosed.induct quote generalizing content with
  | case1 => simp [readEnclosed] at h
  | case2 => simp only [readEnclosed, if_true, Option.some.injEq, Prod.mk.injEq] at h; simp [← h.2]
  | case3 ds ih =>
    simp only [readEnclosed, if_true, Option.map_eq_some_iff, Prod.exists, Prod.mk.injEq] at h
    obtain ⟨inner, tail, hr, -, rfl⟩ := h
    have := ih inner hr
    simp only [List.length_cons]
    omega
  | case4 d ds hd =>
    simp only [readEnclosed, if_true, if_neg hd, Option.some.injEq, Prod.mk.injEq] at h
    simp [← h.2]
  | case5 c cs hc ih =>
    rw [readEnclosed_cons_of_ne hc] at h
    simp only [Option.map_eq_some_iff, Prod.exists, Prod.mk.injEq] at h
    obtain ⟨inner, tail, hr, -, rfl⟩ := h
    have := ih inner hr
    simp only [List.length_cons]
    omega

/-- The characters of a text with every quote written twice. -/
def doubled (quote : Char) (cs : List Char) : List Char :=
  cs.flatMap fun c => if c == quote then [quote, quote] else [c]

@[simp] theorem doubled_nil (quote : Char) : doubled quote [] = [] := rfl

theorem doubled_cons (quote c : Char) (cs : List Char) :
    doubled quote (c :: cs) = (if c = quote then [quote, quote] else [c]) ++ doubled quote cs := by
  simp [doubled]

/-- An enclosed text is the text with its quotes doubled, between two quotes. -/
theorem toList_enclosed (quote : Char) (text : String) :
    (enclosed quote text).toList = quote :: doubled quote text.toList ++ [quote] := by
  simp [enclosed, replaceEach, doubled, String.toList_append]

/-- A text with its quotes doubled is read back up to the quote that closes it. -/
theorem readEnclosed_doubled (quote : Char) (cs rest : List Char) (h : rest.head? ≠ some quote) :
    readEnclosed quote (doubled quote cs ++ quote :: rest) = some (cs, rest) := by
  induction cs with
  | nil =>
    cases rest with
    | nil => simp [readEnclosed]
    | cons d ds =>
      have hd : d ≠ quote := fun hd => h (by rw [hd]; rfl)
      simp [readEnclosed, hd]
  | cons c cs ih =>
    rw [doubled_cons]
    by_cases hc : c = quote
    · subst hc
      simp [readEnclosed, ih]
    · rw [if_neg hc, List.append_assoc, List.singleton_append, readEnclosed_cons_of_ne hc, ih]
      rfl

/-- An enclosed text is read back whole, and reading stops at the text after it. -/
theorem readEnclosed_enclosed (quote : Char) (text : String) (rest : List Char) (h : rest.head? ≠ some quote) :
    ∃ cs, (enclosed quote text).toList = quote :: cs ∧ readEnclosed quote (cs ++ rest) = some (text.toList, rest) := by
  refine ⟨doubled quote text.toList ++ [quote], toList_enclosed quote text, ?_⟩
  rw [List.append_assoc]
  exact readEnclosed_doubled quote text.toList rest h

end RecordSql.Text
