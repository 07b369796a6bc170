import Mathlib.Data.List.TakeWhile
import Mathlib.Data.Nat.Find
import Mathlib.Order.Bounds.Basic
import RecordSql.Text.Shortened

/-!
# Shortening keeps whole characters

A text is cut for the log at the last boundary of characters that is within the limit (`floorBoundary_isGreatest`). The whole characters
within the limit end there (`floorBoundary_eq`), so the slice up to it exists, and it is the longest start of the text that takes no more
bytes than allowed (`isPrefix_wholeChars`). The log shows this slice without the white space at its end, and three dots exactly when the
text is longer (`shortened_longest`).
-/

namespace RecordSql.Text

/-! ## Boundaries -/

/-- The bytes of a run of characters are those of the text made of them. -/
theorem byteCount_eq (cs : List Char) : byteCount cs = (String.ofList cs).utf8ByteSize := by
  induction cs with
  | nil => rfl
  | cons c cs ih => rw [byteCount, ih, String.ofList_cons, String.utf8ByteSize_append, String.utf8ByteSize_singleton]

/-- The boundaries of a text are the lengths of its starts. -/
theorem isBoundary_iff (text : String) (position : Nat) :
    IsBoundary text position ↔ ∃ start, start <+: text.toList ∧ byteCount start = position := by
  constructor
  · intro h
    obtain ⟨before, after, rfl, hposition⟩ := String.Pos.Raw.isValid_iff_exists_append.mp h
    refine ⟨before.toList, ⟨after.toList, String.toList_append.symm⟩, ?_⟩
    rw [byteCount_eq, String.ofList_toList]
    exact congrArg String.Pos.Raw.byteIdx hposition.symm
  · rintro ⟨start, ⟨rest, htext⟩, rfl⟩
    rw [byteCount_eq, ← String.ofList_toList (s := text), ← htext, String.ofList_append]
    exact isBoundary_append (String.ofList start) (String.ofList rest)

/-! ## Whole characters -/

theorem wholeChars_isPrefix (limit : Nat) (cs : List Char) : wholeChars limit cs <+: cs :=
  ⟨_, wholeChars_append_drop limit cs⟩

/-- A start of the text that is within the limit is a start of what is kept. -/
theorem isPrefix_wholeChars {start cs : List Char} {limit : Nat} (hstart : start <+: cs) (hlimit : byteCount start ≤ limit) :
    start <+: wholeChars limit cs := by
  induction cs generalizing start limit with
  | nil => exact hstart
  | cons c cs ih =>
    cases start with
    | nil => exact List.nil_prefix
    | cons d start =>
      rw [List.cons_prefix_cons] at hstart
      obtain ⟨rfl, hstart⟩ := hstart
      rw [byteCount] at hlimit
      rw [wholeChars, if_pos (by omega), List.cons_prefix_cons]
      exact ⟨rfl, ih hstart (by omega)⟩

/-- A start of a text takes no more bytes than the text. -/
theorem byteCount_le_of_isPrefix {start cs : List Char} (h : start <+: cs) : byteCount start ≤ byteCount cs := by
  obtain ⟨rest, rfl⟩ := h
  rw [byteCount_append]
  exact Nat.le_add_right ..

/-- The whole characters within a limit end at the greatest boundary that is past neither the limit nor the end. -/
theorem byteCount_wholeChars_isGreatest (text : String) (index : Nat) :
    IsGreatest {position | IsBoundary text position ∧ position ≤ index ∧ position ≤ text.utf8ByteSize}
      (byteCount (wholeChars index text.toList)) := by
  have hwhole := wholeChars_isPrefix index text.toList
  constructor
  · refine ⟨(isBoundary_iff ..).mpr ⟨_, hwhole, rfl⟩, byteCount_wholeChars_le index _, ?_⟩
    have hle := byteCount_le_of_isPrefix hwhole
    rwa [byteCount_eq text.toList, String.ofList_toList] at hle
  · rintro position ⟨hboundary, hindex, -⟩
    obtain ⟨start, hstart, rfl⟩ := (isBoundary_iff ..).mp hboundary
    exact byteCount_le_of_isPrefix (isPrefix_wholeChars hstart hindex)

/-! ## The position of the cut -/

/-- The search downwards ends at the greatest boundary. -/
theorem boundaryDown_eq (text : String) (index : Nat) : boundaryDown text index = Nat.findGreatest (IsBoundary text) index := by
  induction index with
  | zero => rfl
  | succ index ih => rw [boundaryDown, Nat.findGreatest_succ, ih]

/-- A text is cut at the greatest boundary that is past neither the limit nor the end. -/
theorem floorBoundary_isGreatest (text : String) (index : Nat) :
    IsGreatest {position | IsBoundary text position ∧ position ≤ index ∧ position ≤ text.utf8ByteSize}
      (floorBoundary text index) := by
  have hstart : IsBoundary text 0 := by simpa using isBoundary_append "" text
  have hend : IsBoundary text text.utf8ByteSize := by simpa using isBoundary_append text ""
  rw [floorBoundary]
  by_cases hshort : text.utf8ByteSize ≤ index
  · rw [if_pos hshort]
    exact ⟨⟨hend, hshort, Nat.le_refl _⟩, fun position h => h.2.2⟩
  · rw [if_neg hshort, boundaryDown_eq]
    have hle : Nat.findGreatest (IsBoundary text) index ≤ index := Nat.findGreatest_le index
    refine ⟨⟨Nat.findGreatest_spec (Nat.zero_le index) hstart, hle, hle.trans (Nat.le_of_not_le hshort)⟩, ?_⟩
    rintro position ⟨hboundary, hindex, -⟩
    exact Nat.le_findGreatest hindex hboundary

/-- A text is cut where the whole characters within the limit end. -/
theorem floorBoundary_eq (text : String) (index : Nat) : floorBoundary text index = byteCount (wholeChars index text.toList) :=
  (floorBoundary_isGreatest text index).unique (byteCount_wholeChars_isGreatest text index)

/-- The slice up to where a text is cut is what is kept of it. -/
theorem slice?_floorBoundary (text : String) (index : Nat) :
    slice? text 0 (floorBoundary text index) = some (String.ofList (wholeChars index text.toList)) := by
  have hslice := slice?_append "" (String.ofList (wholeChars index text.toList))
    (String.ofList (text.toList.drop (wholeChars index text.toList).length))
  rw [String.empty_append, ← String.ofList_append, wholeChars_append_drop, String.ofList_toList] at hslice
  rw [floorBoundary_eq, byteCount_eq]
  exact hslice

/-! ## White space at the end -/

/-- Trimming takes off white space, and what is left does not end in any. -/
theorem exists_trimEnd (cs : List Char) : ∃ blanks, trimEnd cs ++ blanks = cs ∧ (∀ c ∈ blanks, isBlank c = true) ∧
    ∀ c, (trimEnd cs).getLast? = some c → isBlank c = false := by
  refine ⟨(cs.reverse.takeWhile isBlank).reverse, ?_, ?_, ?_⟩
  · rw [trimEnd, ← List.reverse_append, List.takeWhile_append_dropWhile, List.reverse_reverse]
  · intro c hc
    exact List.mem_takeWhile_imp (List.mem_reverse.mp hc)
  · intro c hc
    rw [trimEnd, List.getLast?_reverse] at hc
    have hhead := List.head?_dropWhile_not isBlank cs.reverse
    rw [hc] at hhead
    simpa using hhead

/-! ## Shortened texts -/

/-- What the log shows of a statement is its whole characters within the limit, without white space at the end, and three dots if there is
more. -/
theorem shortened_eq (text : String) :
    shortened text = String.ofList (trimEnd (wholeChars logLimit text.toList)) ++ if text.utf8ByteSize > logLimit then "..." else "" := by
  rw [shortened, byteCount_eq, String.ofList_toList]
  by_cases hlong : text.utf8ByteSize > logLimit
  · rw [if_pos hlong, if_pos hlong]
  · rw [if_neg hlong, if_neg hlong, String.append_empty]

/-- A statement is never cut inside a character. -/
theorem shortened?_eq (text : String) : shortened? text = some (shortened text) := by
  rw [shortened?, slice?_floorBoundary, Option.bind_eq_bind, Option.bind_some, String.toList_ofList, shortened_eq]

/-- A text is cut at the last boundary of characters within the limit and the text, so that there is a slice up to it. For the log this
slice is the longest start of the text of at most 497 bytes; it is shown without the white space at its end, and three dots follow exactly
when the text has more bytes than these. -/
theorem shortened_longest (text : String) :
    (∀ index, IsGreatest {position | IsBoundary text position ∧ position ≤ index ∧ position ≤ text.utf8ByteSize}
      (floorBoundary text index)) ∧
      ∃ kept trimmed blanks : String, slice? text 0 (floorBoundary text 497) = some kept ∧
        kept.toList <+: text.toList ∧ kept.utf8ByteSize ≤ 497 ∧
        (∀ start : String, start.toList <+: text.toList → start.utf8ByteSize ≤ 497 → start.toList <+: kept.toList) ∧
        trimmed ++ blanks = kept ∧ (∀ c ∈ blanks.toList, isBlank c = true) ∧
        (∀ c, trimmed.toList.getLast? = some c → isBlank c = false) ∧
        shortened? text = some (shortened text) ∧
        shortened text = trimmed ++ (if 497 < text.utf8ByteSize then "..." else "") := by
  refine ⟨floorBoundary_isGreatest text, ?_⟩
  obtain ⟨blanks, hkept, hblank, htrimmed⟩ := exists_trimEnd (wholeChars logLimit text.toList)
  refine ⟨String.ofList (wholeChars logLimit text.toList), String.ofList (trimEnd (wholeChars logLimit text.toList)),
    String.ofList blanks, slice?_floorBoundary text logLimit, ?_, ?_, ?_, ?_, ?_, ?_, shortened?_eq text, shortened_eq text⟩
  · rw [String.toList_ofList]
    exact wholeChars_isPrefix logLimit text.toList
  · rw [← byteCount_eq]
    exact byteCount_wholeChars_le logLimit text.toList
  · intro start hstart hlimit
    rw [← String.ofList_toList (s := start), ← byteCount_eq] at hlimit
    rw [String.toList_ofList]
    exact isPrefix_wholeChars hstart hlimit
  · rw [← String.ofList_append, hkept]
  · rwa [String.toList_ofList]
  · rwa [String.toList_ofList]

end RecordSql.Text
