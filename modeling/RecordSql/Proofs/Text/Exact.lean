import RecordSql.Proofs.Text.Line
import RecordSql.Proofs.Text.Marks
import RecordSql.Proofs.Text.Reading
import RecordSql.Proofs.Text.Requoted

/-!
# Exact readers

A reader is exact for a writer when it reads a value at the start of a text exactly when the text starts with what is written for the value
and the rest is one that may follow (`Reads`). So it reads back what is written, and what it reads was written. Names, numbers, lines,
items with a separator and clauses that may be absent have exact readers, and readers of parts give readers of the whole.
-/

namespace RecordSql.Text

/-- A reader reads a value before a rest exactly where the value is written and the rest may follow it. -/
def Reads {α : Type} (read : List Char → Option (α × List Char)) (write : α → String) (before : α → List Char → Prop) : Prop :=
  ∀ cs a rest, read cs = some (a, rest) ↔ cs = (write a).toList ++ rest ∧ before a rest

/-- A text starts with some words exactly when it is these words and the text after them. -/
theorem after?_eq_some_iff {words : String} {cs rest : List Char} : after? words cs = some rest ↔ cs = words.toList ++ rest := by
  rw [after?, List.dropPrefix?_eq_some_iff]
  constructor
  · rintro ⟨start, rfl, hstart⟩
    rw [eq_of_beq hstart]
  · rintro rfl
    exact ⟨_, rfl, beq_self_eq_true _⟩

/-! ## Names -/

/-- No quote follows a section that is read. -/
theorem head?_of_readEnclosed {quote : Char} {cs content rest : List Char} (h : readEnclosed quote cs = some (content, rest)) :
    rest.head? ≠ some quote := by
  induction cs using readEnclosed.induct quote generalizing content with
  | case1 => cases h
  | case2 =>
    simp only [readEnclosed, if_true, Option.some.injEq, Prod.mk.injEq] at h
    simp [← h.2]
  | case3 ds ih =>
    simp only [readEnclosed, if_true, Option.map_eq_some_iff, Prod.exists, Prod.mk.injEq] at h
    obtain ⟨inner, tail, hr, -, rfl⟩ := h
    exact ih hr
  | case4 d ds hd =>
    simp only [readEnclosed, if_true, if_neg hd, Option.some.injEq, Prod.mk.injEq] at h
    rw [← h.2]
    exact fun hhead => hd (Option.some.inj hhead)
  | case5 c cs hc ih =>
    rw [readEnclosed_cons_of_ne hc] at h
    simp only [Option.map_eq_some_iff, Prod.exists, Prod.mk.injEq] at h
    obtain ⟨inner, tail, hr, -, rfl⟩ := h
    exact ih hr

/-- A quoted name is read before anything but the quote. -/
theorem reads_name (quote : Char) : Reads (readName? quote) (enclosed quote) fun _ rest => rest.head? ≠ some quote := by
  intro cs name rest
  constructor
  · intro h
    cases cs with
    | nil => cases h
    | cons c cs =>
      rw [readName?] at h
      split at h
      · rename_i hc
        simp only [Option.map_eq_some_iff, Prod.exists, Prod.mk.injEq] at h
        obtain ⟨content, tail, hread, rfl, rfl⟩ := h
        have hwhole := enclosed_of_readEnclosed hread
        refine ⟨?_, head?_of_readEnclosed hread⟩
        rw [toList_enclosed, String.toList_ofList, List.cons_append, List.cons_append, List.append_assoc, List.singleton_append,
          hwhole, hc]
      · cases h
  · rintro ⟨rfl, hrest⟩
    exact readName?_enclosed quote name hrest

/-! ## Items -/

variable {α β : Type}

/-- Items with a separator between them. -/
def listed (separator : String) (part : α → String) (as : List α) : String :=
  separator.intercalate (as.map part)

/-- Items are read before a text that may follow an item and that does not go on with the separator. -/
theorem reads_items {item : List Char → Option (α × List Char)} {part : α → String} {separator : String} {before : List Char → Prop}
    (hsep : separator.toList ≠ []) (hitem : Reads item part fun _ => before) (hbefore : ∀ more, before (separator.toList ++ more)) :
    Reads (readItems item separator) (listed separator part)
      fun as rest => as ≠ [] ∧ before rest ∧ after? separator rest = none := by
  intro cs as rest
  constructor
  · intro h
    induction cs using readItems.induct item separator generalizing as with
    | case1 cs hnone =>
      rw [readItems] at h
      simp only [hnone] at h
      cases h
    | case2 cs a tail hread hend =>
      rw [readItems] at h
      simp only [hread, hend, Option.some.injEq, Prod.mk.injEq] at h
      obtain ⟨rfl, rfl⟩ := h
      obtain ⟨rfl, htail⟩ := (hitem cs a tail).mp hread
      refine ⟨?_, List.cons_ne_nil a [], htail, hend⟩
      rw [listed, List.map_singleton, String.intercalate_singleton]
    | case3 cs a tail hread more hmore hlength ih =>
      rw [readItems] at h
      simp only [hread, hmore, if_pos hlength, Option.map_eq_some_iff, Prod.exists, Prod.mk.injEq] at h
      obtain ⟨others, end', hothers, rfl, rfl⟩ := h
      obtain ⟨htext, hne, hrest, hend⟩ := ih others hothers
      obtain ⟨b, bs, rfl⟩ := List.exists_cons_of_ne_nil hne
      refine ⟨?_, List.cons_ne_nil a (b :: bs), hrest, hend⟩
      calc cs = (part a).toList ++ tail := ((hitem cs a tail).mp hread).1
        _ = (part a).toList ++ (separator.toList ++ more) := by rw [after?_eq_some_iff.mp hmore]
        _ = (listed separator part (a :: b :: bs)).toList ++ end' := by
          rw [htext, listed, listed, List.map_cons, List.map_cons, List.map_cons, String.intercalate_cons_cons, String.toList_append,
            String.toList_append, List.append_assoc, List.append_assoc]
    | case4 cs a tail hread more hmore hlength =>
      rw [readItems] at h
      simp only [hread, hmore, if_neg hlength] at h
      cases h
  · rintro ⟨rfl, hne, hrest, hend⟩
    refine readItems_intercalate hsep (fun a tail htail => (hitem _ a tail).mpr ⟨rfl, ?_⟩) hend hne
    rcases htail with rfl | ⟨more, rfl⟩
    · exact hrest
    · exact hbefore more

/-! ## Numbers -/

/-- A number in the notation in which numbers are written, without zeros in front of it. -/
def readNumber? (cs : List Char) : Option (Nat × List Char) :=
  let n := Nat.ofDigitChars 10 (cs.takeWhile Char.isDigit) 0
  if (toString n).toList = cs.takeWhile Char.isDigit then some (n, cs.dropWhile Char.isDigit) else none

/-- A number is read before anything but a digit. -/
theorem reads_number : Reads readNumber? toString fun _ rest => startsWithDigit rest = false := by
  intro cs n rest
  dsimp only [readNumber?]
  constructor
  · intro h
    split at h
    · rename_i hdigits
      cases h
      rw [hdigits]
      refine ⟨List.takeWhile_append_dropWhile.symm, ?_⟩
      have hhead := List.head?_dropWhile_not Char.isDigit cs
      dsimp only [startsWithDigit]
      cases hnext : (cs.dropWhile Char.isDigit).head? with
      | none => rfl
      | some c =>
        rw [hnext] at hhead
        simpa using hhead
    · cases h
  · rintro ⟨rfl, hrest⟩
    have hrun : rest.takeWhile Char.isDigit = [] ∧ rest.dropWhile Char.isDigit = rest := by
      cases rest with
      | nil => exact ⟨rfl, rfl⟩
      | cons c cs =>
        have hc : c.isDigit = false := hrest
        rw [List.takeWhile_cons, List.dropWhile_cons, hc]
        exact ⟨rfl, rfl⟩
    have hdigits : ((toString n).toList ++ rest).takeWhile Char.isDigit = (toString n).toList := by
      rw [List.takeWhile_append_of_pos (isDigit_toString n), hrun.1, List.append_nil]
    have hlist : (toString n).toList = Nat.toDigits 10 n := String.toList_ofList
    have hvalue : Nat.ofDigitChars 10 (toString n).toList 0 = n := by
      rw [hlist, Nat.ofDigitChars_toDigits (by decide) (by decide)]
    rw [hdigits, hvalue, List.dropWhile_append_of_pos (isDigit_toString n), hrun.2]
    exact if_pos rfl

/-! ## Lines -/

/-- The first line of a text, which must end outside of quoted sections. -/
def readLine? (cs : List Char) : Option (String × List Char) :=
  if Section.after none (splitLine none cs).1 = none then some (String.ofList (splitLine none cs).1, (splitLine none cs).2) else none

/-- A text of one line is read before a line break or nothing. -/
theorem reads_line : Reads readLine? id fun line rest => OneLine line ∧ (rest = [] ∨ rest.head? = some '\n') := by
  intro cs line rest
  rw [readLine?]
  constructor
  · intro h
    split at h
    · rename_i hclosed
      cases h
      have hline : OneLine (String.ofList (splitLine none cs).1) := by
        constructor <;> rw [String.toList_ofList]
        · exact hclosed
        · exact isUnbroken_splitLine none cs
      rw [id, String.toList_ofList]
      exact ⟨(append_splitLine none cs).symm, hline, head?_splitLine none cs⟩
    · cases h
  · rintro ⟨rfl, hline, hrest⟩
    have hend : splitLine none rest = ([], rest) := by
      rcases hrest with rfl | hrest
      · rfl
      · obtain ⟨more, rfl⟩ := List.head?_eq_some_iff.mp hrest
        rfl
    have hsplit : splitLine none (line.toList ++ rest) = (line.toList, rest) := by
      rw [splitLine_append hline.unbroken, hline.closed, hend, List.append_nil]
    rw [id, hsplit, if_pos hline.closed, String.ofList_toList]

/-! ## Clauses -/

/-- A clause that starts with some words. Without a value it is not written. -/
def clause (words : String) (write : α → String) (value : Option α) : String :=
  value.elim "" fun a => words ++ write a

/-- A clause of a part of a value is one of the value. -/
theorem clause_map (words : String) (write : β → String) (f : α → β) (value : Option α) :
    clause words write (value.map f) = clause words (write ∘ f) value := by
  cases value <;> rfl

/-- The value of a clause that starts with some words, or none if the words are not there. -/
def readClause? (words : String) (read : List Char → Option (α × List Char)) (cs : List Char) : Option (Option α × List Char) :=
  match after? words cs with
  | none => some (none, cs)
  | some rest => (read rest).map fun (a, rest) => (some a, rest)

/-- A clause is read before what may follow its value, and is absent before what does not start with its words. -/
theorem reads_clause {read : List Char → Option (α × List Char)} {write : α → String} {before : α → List Char → Prop} (words : String)
    (h : Reads read write before) :
    Reads (readClause? words read) (clause words write) fun value rest => value.elim (after? words rest = none) (before · rest) := by
  intro cs value rest
  rw [readClause?]
  cases hafter : after? words cs with
  | none =>
    have habsent : ∀ more, cs ≠ words.toList ++ more := by
      rintro more rfl
      rw [after?_append] at hafter
      cases hafter
    cases value with
    | none =>
      constructor
      · intro hread
        cases hread
        exact ⟨rfl, hafter⟩
      · rintro ⟨rfl, -⟩
        rfl
    | some a =>
      constructor
      · intro hread
        cases hread
      · rintro ⟨htext, -⟩
        rw [clause, Option.elim_some, String.toList_append, List.append_assoc] at htext
        exact absurd htext (habsent _)
  | some more =>
    rw [after?_eq_some_iff] at hafter
    subst hafter
    cases value with
    | none =>
      constructor
      · intro hread
        simp at hread
      · rintro ⟨htext, hrest⟩
        have hnone : after? words (words.toList ++ more) = none := htext ▸ hrest
        rw [after?_append] at hnone
        cases hnone
    | some a =>
      constructor
      · intro hread
        simp only [Option.map_eq_some_iff, Prod.exists, Prod.mk.injEq, Option.some.injEq] at hread
        obtain ⟨b, tail, hb, rfl, rfl⟩ := hread
        obtain ⟨rfl, hbefore⟩ := (h more b tail).mp hb
        refine ⟨?_, hbefore⟩
        rw [clause, Option.elim_some, String.toList_append, List.append_assoc]
      · rintro ⟨htext, hbefore⟩
        rw [clause, Option.elim_some, String.toList_append, List.append_assoc, List.append_cancel_left_eq] at htext
        have hread := (h more a rest).mpr ⟨htext, hbefore⟩
        dsimp only
        rw [hread]
        rfl

/-! ## What follows -/

/-- A text that is empty or starts with one of some words. -/
def Opens (words : List String) (cs : List Char) : Prop :=
  cs = [] ∨ ∃ word ∈ words, ∃ more, cs = word.toList ++ more

/-- Whether words differ from others before either ends, so that no text starts with both. -/
def clashes (words others : String) : Bool :=
  !words.toList.isPrefixOf others.toList && !others.toList.isPrefixOf words.toList

namespace Opens

variable {words : List String} {cs : List Char}

theorem empty (words : List String) : Opens words [] :=
  .inl rfl

/-- A clause before a text opens it with its words, unless it is absent. -/
theorem clause (word : String) (write : α → String) (value : Option α) (h : Opens words cs) :
    Opens (word :: words) ((Text.clause word write value).toList ++ cs) := by
  cases value with
  | none =>
    rcases h with rfl | ⟨other, hother, hmore⟩
    · exact .inl rfl
    · exact .inr ⟨other, List.mem_cons_of_mem word hother, hmore⟩
  | some a =>
    refine .inr ⟨word, List.mem_cons_self .., (write a).toList ++ cs, ?_⟩
    rw [Text.clause, Option.elim_some, String.toList_append, List.append_assoc]

/-- A text does not start with words that clash with all that it may open with. -/
theorem after?_eq_none (h : Opens words cs) {others : String} (hne : others.toList ≠ [])
    (hclash : ∀ word ∈ words, clashes others word = true) : after? others cs = none := by
  rw [Option.eq_none_iff_forall_ne_some]
  intro rest hrest
  rw [after?_eq_some_iff] at hrest
  rcases h with rfl | ⟨word, hword, more, rfl⟩
  · exact hne (List.append_eq_nil_iff.mp hrest.symm).1
  · have hdiffers := hclash word hword
    rw [clashes, Bool.and_eq_true, Bool.not_eq_true', Bool.not_eq_true', Bool.eq_false_iff, Bool.eq_false_iff, ne_eq, ne_eq,
      List.isPrefixOf_iff_prefix, List.isPrefixOf_iff_prefix] at hdiffers
    have hothers : others.toList <+: word.toList ++ more := ⟨rest, hrest.symm⟩
    rcases List.prefix_or_prefix_of_prefix hothers (List.prefix_append word.toList more) with hshort | hshort
    · exact hdiffers.1 hshort
    · exact hdiffers.2 hshort

/-- A text that opens with words that all start with one character is empty or starts with it. -/
theorem head? (h : Opens words cs) {c : Char} (hc : ∀ word ∈ words, word.toList.head? = some c) : cs = [] ∨ cs.head? = some c := by
  rcases h with rfl | ⟨word, hword, more, rfl⟩
  · exact .inl rfl
  · refine .inr ?_
    rw [List.head?_append, hc word hword]
    rfl

end Opens

end RecordSql.Text
