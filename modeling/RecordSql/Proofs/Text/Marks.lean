import Mathlib.Data.List.Infix
import RecordSql.Proofs.Text.Enclosed

/-!
# Marks in texts

A mark is a list of characters that is searched for in a text. It does not reach over a character that it does not hold
(`infix_append_cons`), so in a text that is put together from words and quoted names a mark that starts with none of the words stands only
within a name (`infix_append_enclosed`, `infix_intercalate_enclosed`), whether its quotes are doubled or not.
-/

namespace RecordSql.Text

variable {mark : List Char} {c quote : Char}

/-- A mark does not reach over a character that it does not hold. -/
theorem prefix_append_cons (hc : c ∉ mark) (cs ds : List Char) : mark <+: cs ++ c :: ds ↔ mark <+: cs := by
  constructor
  · rintro ⟨rest, hrest⟩
    rcases List.append_eq_append_iff.mp hrest with ⟨more, rfl, -⟩ | ⟨more, rfl, hmore⟩
    · exact List.prefix_append mark more
    · cases more with
      | nil => rw [List.append_nil]
      | cons d more =>
        rw [List.cons_append, List.cons.injEq] at hmore
        exact absurd (by simp [hmore.1]) hc
  · intro h
    exact h.trans (List.prefix_append cs _)

/-- A mark stands on one side of a character that it does not hold. -/
theorem infix_append_cons (hc : c ∉ mark) (cs ds : List Char) : mark <:+: cs ++ c :: ds ↔ mark <:+: cs ∨ mark <:+: ds := by
  induction cs with
  | nil =>
    have hfirst := prefix_append_cons hc [] ds
    rw [List.nil_append] at hfirst
    rw [List.nil_append, List.infix_cons_iff, hfirst, List.prefix_nil, List.infix_nil]
  | cons d cs ih =>
    have hfirst := prefix_append_cons hc (d :: cs) ds
    rw [List.cons_append] at hfirst
    rw [List.cons_append, List.infix_cons_iff, List.infix_cons_iff, ih, hfirst, or_assoc]

/-- A mark stands behind a character that it does not hold. -/
theorem infix_cons (hne : mark ≠ []) (hc : c ∉ mark) (cs : List Char) : mark <:+: c :: cs ↔ mark <:+: cs := by
  have hsplit := infix_append_cons hc [] cs
  rw [List.nil_append, List.infix_nil] at hsplit
  simp [hsplit, hne]

/-- A mark does not start in words without its first character. -/
theorem infix_words_append {words : List Char} (hc : c ∉ words) (cs : List Char) :
    c :: mark <:+: words ++ cs ↔ c :: mark <:+: cs := by
  induction words with
  | nil => rfl
  | cons d words ih =>
    rw [List.mem_cons, not_or] at hc
    rw [List.cons_append, List.infix_cons_iff, ih hc.2, List.cons_prefix_cons]
    simp [hc.1]

/-- Doubling a quote keeps where a mark without this quote stands. -/
theorem infix_append_doubled (hne : mark ≠ []) (hq : quote ∉ mark) (cs name : List Char) :
    mark <:+: cs ++ doubled quote name ↔ mark <:+: cs ++ name := by
  -- what has been passed is collected, because a mark may go on where the next character is no quote
  induction name generalizing cs with
  | nil => rfl
  | cons c name ih =>
    rw [doubled_cons]
    by_cases hc : c = quote
    · subst hc
      have hrest := ih []
      rw [List.nil_append, List.nil_append] at hrest
      rw [if_pos rfl]
      change mark <:+: cs ++ c :: (c :: doubled c name) ↔ _
      rw [infix_append_cons hq, infix_append_cons hq, infix_cons hne hq, hrest]
    · have hnext := ih (cs ++ [c])
      rw [List.append_assoc, List.append_assoc] at hnext
      rw [if_neg hc]
      exact hnext

/-- A mark without the quote stands before a quoted text, in it or behind it. -/
theorem infix_append_enclosed (hne : mark ≠ []) (hq : quote ∉ mark) (name : String) (cs : List Char) :
    mark <:+: (enclosed quote name).toList ++ cs ↔ mark <:+: name.toList ∨ mark <:+: cs := by
  have hcontent := infix_append_doubled hne hq [] name.toList
  rw [List.nil_append, List.nil_append] at hcontent
  rw [toList_enclosed, List.append_assoc, List.cons_append, infix_cons hne hq, List.singleton_append, infix_append_cons hq, hcontent]

/-- A mark without the quote stands in one of some quoted texts with words between them that lack its first character. -/
theorem infix_intercalate_enclosed (hc : quote ∉ c :: mark) {separator : String} (hsep : c ∉ separator.toList) (names : List String) :
    c :: mark <:+: (separator.intercalate (names.map (enclosed quote))).toList ↔ ∃ name ∈ names, c :: mark <:+: name.toList := by
  have hne : c :: mark ≠ [] := List.cons_ne_nil c mark
  induction names with
  | nil => simp
  | cons name names ih =>
    cases names with
    | nil =>
      have hlast := infix_append_enclosed hne hc name []
      rw [List.append_nil] at hlast
      simp [hlast]
    | cons next names =>
      rw [List.map_cons, List.map_cons, String.intercalate_cons_cons, ← List.map_cons, String.toList_append, String.toList_append,
        List.append_assoc, infix_append_enclosed hne hc, infix_words_append hsep, List.exists_mem_cons_iff]
      exact or_congr_right ih

/-- A character of parts with a separator between them is one of a part or of the separator. -/
theorem not_mem_intercalate {separator : String} (hsep : c ∉ separator.toList) {parts : List String}
    (h : ∀ part ∈ parts, c ∉ part.toList) : c ∉ (separator.intercalate parts).toList := by
  induction parts with
  | nil => exact List.not_mem_nil
  | cons part parts ih =>
    have hfirst := h part (List.mem_cons_self ..)
    have hrest := ih fun p hp => h p (List.mem_cons_of_mem _ hp)
    cases parts with
    | nil => rwa [String.intercalate_singleton]
    | cons next parts =>
      rw [String.intercalate_cons_cons, String.toList_append, String.toList_append, List.mem_append, List.mem_append]
      rintro ((hmem | hmem) | hmem)
      · exact hfirst hmem
      · exact hsep hmem
      · exact hrest hmem

/-- A mark does not stand in a text that lacks a character of it. -/
theorem not_infix_of_not_mem {cs : List Char} (hc : c ∈ mark) (h : c ∉ cs) : ¬ mark <:+: cs :=
  fun hmark => h (hmark.subset hc)

end RecordSql.Text
