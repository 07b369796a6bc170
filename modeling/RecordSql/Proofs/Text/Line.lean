import RecordSql.Proofs.Text.Scan

/-!
# Lines outside of quoted sections

A text that is one line to a scanner has no line break outside of its quoted sections, and ends outside of them (`OneLine`). Such texts are
put together from words without line breaks and from quoted texts, which may hold line breaks of their own (`oneLine_enclosed`). The first
line of a text is what stands before the first line break that is in no section, so a text of this kind that a line break follows is read
as the first line (`splitLine_append`).
-/

namespace RecordSql.Text

/-- Whether a scanner in section `s` meets no line break outside of all sections. -/
def isUnbroken (s : Section) : List Char → Bool
  | [] => true
  | c :: cs => !(s.isNone && c == '\n') && isUnbroken (s.step c) cs

/-- The line that a scanner in section `s` passes over, and what comes from the line break on. -/
def splitLine (s : Section) : List Char → List Char × List Char
  | [] => ([], [])
  | c :: cs =>
    if s.isNone && c == '\n' then ([], c :: cs)
    else
      let (line, rest) := splitLine (s.step c) cs
      (c :: line, rest)

variable {s : Section} {cs ds : List Char}

/-- Two runs of characters are one line together when each is. -/
theorem isUnbroken_append (s : Section) (cs ds : List Char) :
    isUnbroken s (cs ++ ds) = (isUnbroken s cs && isUnbroken (s.after cs) ds) := by
  induction cs generalizing s with
  | nil => rfl
  | cons c cs ih =>
    have hafter : s.after (c :: cs) = (s.step c).after cs := rfl
    rw [List.cons_append, isUnbroken, isUnbroken, ih, hafter, Bool.and_assoc]

/-! ## The first line -/

/-- The first line goes on behind characters without a line break. -/
theorem splitLine_append (h : isUnbroken s cs = true) (ds : List Char) :
    splitLine s (cs ++ ds) = (cs ++ (splitLine (s.after cs) ds).1, (splitLine (s.after cs) ds).2) := by
  induction cs generalizing s with
  | nil => rfl
  | cons c cs ih =>
    rw [isUnbroken, Bool.and_eq_true, Bool.not_eq_true'] at h
    rw [List.cons_append, splitLine, h.1, if_neg Bool.false_ne_true, ih h.2]
    rfl

/-- The first line has no line break outside of sections. -/
theorem isUnbroken_splitLine (s : Section) (cs : List Char) : isUnbroken s (splitLine s cs).1 = true := by
  induction cs generalizing s with
  | nil => rfl
  | cons c cs ih =>
    rw [splitLine]
    split
    · rfl
    · rename_i hc
      rw [isUnbroken, ih (s.step c), Bool.and_true, Bool.not_eq_true']
      exact Bool.eq_false_iff.mpr hc

/-- The first line and what follows are the whole. -/
theorem append_splitLine (s : Section) (cs : List Char) : (splitLine s cs).1 ++ (splitLine s cs).2 = cs := by
  induction cs generalizing s with
  | nil => rfl
  | cons c cs ih =>
    rw [splitLine]
    split
    · rfl
    · exact congrArg (c :: ·) (ih (s.step c))

/-- A line break or nothing follows the first line. -/
theorem head?_splitLine (s : Section) (cs : List Char) : (splitLine s cs).2 = [] ∨ (splitLine s cs).2.head? = some '\n' := by
  induction cs generalizing s with
  | nil => exact .inl rfl
  | cons c cs ih =>
    rw [splitLine]
    split
    · rename_i hc
      rw [Bool.and_eq_true, beq_iff_eq] at hc
      exact .inr (congrArg some hc.2)
    · exact ih (s.step c)

/-! ## Texts of one line -/

/-- A text that the scanner passes over from outside to outside without a line break in between. -/
structure OneLine (text : String) : Prop where
  closed : Section.after none text.toList = none
  unbroken : isUnbroken none text.toList = true

instance (text : String) : Decidable (OneLine text) :=
  decidable_of_iff ((Section.after none text.toList).isNone = true ∧ isUnbroken none text.toList = true)
    ⟨fun ⟨hclosed, hunbroken⟩ => ⟨Option.isNone_iff_eq_none.mp hclosed, hunbroken⟩,
      fun h => ⟨Option.isNone_iff_eq_none.mpr h.closed, h.unbroken⟩⟩

namespace OneLine

variable {text more separator : String}

theorem append (h : OneLine text) (h' : OneLine more) : OneLine (text ++ more) where
  closed := by rw [String.toList_append, Section.after_append, h.closed, h'.closed]
  unbroken := by rw [String.toList_append, isUnbroken_append, h.unbroken, h.closed, h'.unbroken, Bool.and_self]

theorem separated (hsep : OneLine separator) {parts : List String} (h : ∀ part ∈ parts, OneLine part) :
    OneLine (Text.separated separator parts) := by
  induction parts with
  | nil => exact (by decide : OneLine "")
  | cons part parts ih =>
    have hfirst := h part (List.mem_cons_self ..)
    have hrest := ih fun p hp => h p (List.mem_cons_of_mem _ hp)
    cases parts with
    | nil => exact hfirst
    | cons next parts =>
      have hbetween : OneLine (if part.isEmpty then "" else separator) := by
        split
        · decide
        · exact hsep
      exact (hfirst.append hbetween).append hrest

end OneLine

/-- A quoted text is one line, whatever it is. -/
theorem oneLine_enclosed {q : Char} (h : isQuote q = true) (text : String) : OneLine (enclosed q text) := by
  have hbreak : (q == '\n') = false := by
    rw [beq_eq_false_iff_ne]
    rintro rfl
    revert h
    decide
  have hopen : Section.step none q = some q := by simp [Section.step, h]
  have hclose : Section.step (some q) q = none := by simp [Section.step]
  -- the section that a quote closes is opened again by the quote that doubles it
  have hinside : ∀ cs : List Char, isUnbroken (some q) (doubled q cs) = true := by
    intro cs
    induction cs with
    | nil => rfl
    | cons c cs ih =>
      rw [doubled_cons]
      by_cases hc : c = q
      · rw [if_pos hc]
        change isUnbroken (some q) (q :: q :: doubled q cs) = true
        rw [isUnbroken, isUnbroken, hclose, hopen, ih, hbreak]
        rfl
      · have hstep : Section.step (some q) c = some q := by simp [Section.step, hc]
        rw [if_neg hc]
        change isUnbroken (some q) (c :: doubled q cs) = true
        rw [isUnbroken, hstep, ih]
        rfl
  refine ⟨(scans_enclosed h text).closed, ?_⟩
  rw [toList_enclosed, List.cons_append, isUnbroken, hopen, isUnbroken_append, hinside, (scan_doubled h text.toList).1, hbreak]
  rfl

example : OneLine "\"a\n\" = ?" ∧ ¬ OneLine "a\n= ?" ∧ ¬ OneLine "\"a = ?" := by decide

end RecordSql.Text
