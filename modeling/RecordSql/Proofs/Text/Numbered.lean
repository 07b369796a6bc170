import RecordSql.Proofs.Text.Scan

/-!
# Numbered texts

`dollars` reads the numbered placeholders of a text: a dollar sign outside every quoted section with the digits behind it. Numbering
a text that keeps clear of numbering gives it `$1`, `$2` and so on, in order, one for each placeholder, and leaves no question mark
(`Scans.dollars_numbered`).
-/

namespace RecordSql.Text

/-- The numbered placeholders that follow a scanner in section `s`. -/
def dollarsFrom (s : Section) : List Char → List String
  | [] => []
  | c :: cs =>
    if s.isNone && c == '$' then String.ofList ('$' :: cs.takeWhile Char.isDigit) :: dollarsFrom (s.step c) cs
    else dollarsFrom (s.step c) cs

theorem dollarsFrom_dollar (cs : List Char) :
    dollarsFrom none ('$' :: cs) = String.ofList ('$' :: cs.takeWhile Char.isDigit) :: dollarsFrom none cs := rfl

/-- The numbered placeholders of a text, in order. -/
def dollars (text : String) : List String :=
  dollarsFrom none text.toList

/-- A placeholder is a question mark outside every section, and the scanner stays outside. -/
theorem isPlaceholder_iff {s : Section} {c : Char} : isPlaceholder s c = true ↔ s = none ∧ c = '?' := by
  simp [isPlaceholder]

/-- Plain characters at the start of a text are passed over. -/
theorem scan_plain_append {cs : List Char} (h : ∀ c ∈ cs, isPlain c = true) (ds : List Char) :
    Section.after none (cs ++ ds) = Section.after none ds ∧ countFrom none (cs ++ ds) = countFrom none ds ∧
      dollarsFrom none (cs ++ ds) = dollarsFrom none ds := by
  induction cs with
  | nil => exact ⟨rfl, rfl, rfl⟩
  | cons c cs ih =>
    have hc := h c (List.mem_cons_self ..)
    obtain ⟨hafter, hcount, hdollars⟩ := ih fun x hx => h x (List.mem_cons_of_mem _ hx)
    have hstep := step_of_isPlain hc
    refine ⟨?_, ?_, ?_⟩
    · rw [List.cons_append, Section.after, List.foldl_cons, hstep]
      exact hafter
    · simp [countFrom, hstep, hcount, isPlaceholder_of_isPlain hc]
    · simp only [isPlain, Bool.and_eq_true, bne_iff_ne, ne_eq] at hc
      simp [dollarsFrom, hstep, hdollars, hc.2]

/-- The number of a placeholder is plain. -/
theorem isPlain_toString (n : Nat) : ∀ c ∈ (toString n).toList, isPlain c = true := fun c hc =>
  isPlain_of_isDigit (isDigit_toString n c hc)

/-- Numbering changes nothing about where quoted sections are, and leaves no question mark outside of them. -/
theorem scan_numberFrom (s : Section) (n : Nat) (cs : List Char) :
    s.after (numberFrom s n cs) = s.after cs ∧ countFrom s (numberFrom s n cs) = 0 := by
  induction cs generalizing s n with
  | nil => exact ⟨rfl, rfl⟩
  | cons c cs ih =>
    by_cases hc : isPlaceholder s c = true
    · obtain ⟨rfl, rfl⟩ := isPlaceholder_iff.mp hc
      obtain ⟨hafter, hcount⟩ := ih none (n + 1)
      obtain ⟨hskip, hnone, -⟩ := scan_plain_append (isPlain_toString n) (numberFrom none (n + 1) cs)
      have hnumber : numberFrom none n ('?' :: cs) = '$' :: ((toString n).toList ++ numberFrom none (n + 1) cs) := rfl
      rw [hnumber]
      refine ⟨hskip.trans hafter, ?_⟩
      have hdollar : countFrom none ('$' :: ((toString n).toList ++ numberFrom none (n + 1) cs)) =
          countFrom none ((toString n).toList ++ numberFrom none (n + 1) cs) := Nat.zero_add _
      rw [hdollar, hnone, hcount]
    · obtain ⟨hafter, hcount⟩ := ih (s.step c) n
      rw [Bool.not_eq_true] at hc
      rw [numberFrom, if_neg (by simp [hc])]
      refine ⟨hafter, ?_⟩
      simp [countFrom, hc, hcount]

/-- Numbering keeps whether a text starts with a digit. -/
theorem startsWithDigit_numberFrom (s : Section) (n : Nat) (cs : List Char) :
    startsWithDigit (numberFrom s n cs) = startsWithDigit cs := by
  cases cs with
  | nil => rfl
  | cons c cs =>
    by_cases hc : isPlaceholder s c = true
    · obtain ⟨rfl, rfl⟩ := isPlaceholder_iff.mp hc
      rfl
    · rw [numberFrom, if_neg hc]
      rfl

/-- The digits of a number are read up to a text that does not start with a digit. -/
theorem takeWhile_toString (n : Nat) {cs : List Char} (h : startsWithDigit cs = false) :
    ((toString n).toList ++ cs).takeWhile Char.isDigit = (toString n).toList := by
  rw [List.takeWhile_append_of_pos (isDigit_toString n)]
  cases cs with
  | nil => simp
  | cons c cs =>
    have hc : c.isDigit = false := by simpa [startsWithDigit] using h
    simp [hc]

/-- Numbering writes one numbered placeholder for each placeholder, and none where there was none. -/
theorem dollarsFrom_numberFrom (s : Section) (n : Nat) (cs : List Char) (h : isTidy s cs = true) :
    dollarsFrom s (numberFrom s n cs) = (List.range' n (countFrom s cs)).map fun i => "$" ++ toString i := by
  induction cs generalizing s n with
  | nil => rfl
  | cons c cs ih =>
    rw [isTidy, Bool.and_eq_true] at h
    obtain ⟨hhead, hrest⟩ := h
    by_cases hc : isPlaceholder s c = true
    · obtain ⟨rfl, rfl⟩ := isPlaceholder_iff.mp hc
      -- the number ends where the text behind the placeholder goes on
      have hdigit : startsWithDigit cs = false := by simpa [startsWithDigit] using hhead
      obtain ⟨-, -, hskip⟩ := scan_plain_append (isPlain_toString n) (numberFrom none (n + 1) cs)
      have hnumber : numberFrom none n ('?' :: cs) = '$' :: ((toString n).toList ++ numberFrom none (n + 1) cs) := rfl
      have hcount : countFrom none ('?' :: cs) = countFrom none cs + 1 := Nat.add_comm ..
      have hname : String.ofList ('$' :: (toString n).toList) = "$" ++ toString n := by
        rw [← String.toList_inj]
        simp
      rw [hnumber, dollarsFrom_dollar, takeWhile_toString n (by rw [startsWithDigit_numberFrom]; exact hdigit), hname,
        hcount, List.range'_succ, List.map_cons]
      exact congrArg _ (hskip.trans (ih none (n + 1) hrest))
    · have hdollar : ¬ (s.isNone && c == '$') = true := by
        rintro hd
        obtain ⟨hs, rfl⟩ : s = none ∧ c = '$' := by simpa using hd
        subst hs
        cases hhead
      have hcount : countFrom s (c :: cs) = countFrom (s.step c) cs := by
        rw [countFrom, if_neg hc, Nat.zero_add]
      rw [numberFrom, if_neg hc, dollarsFrom, if_neg hdollar, hcount]
      exact ih (s.step c) n hrest

/-- The placeholders of a text that can be scanned are numbered in order from one, and none is left. -/
theorem Scans.dollars_numbered {text : String} {n : Nat} (h : Scans text n) :
    dollars (numbered text) = (List.range' 1 n).map (fun i => "$" ++ toString i) ∧ placeholderCount (numbered text) = 0 := by
  have hcount : countFrom none text.toList = n := h.count
  refine ⟨?_, ?_⟩
  · rw [dollars, numbered, String.toList_ofList, dollarsFrom_numberFrom none 1 _ h.tidy, hcount]
  · rw [placeholderCount, numbered, String.toList_ofList]
    exact (scan_numberFrom none 1 text.toList).2

end RecordSql.Text
