import RecordSql.Proofs.Text.Enclosed
import RecordSql.Text.Separated

/-!
# Texts that can be scanned apart

`Scans text n` says of a text what the scanner must know to pass over it alone: it ends outside every quoted section, it has `n`
placeholders, and it keeps clear of what numbering writes. Texts of this kind can be put together in any order, with quoted names
between them (`Scans.append`, `Scans.separated`, `scans_enclosed`), and numbering gives each of their placeholders its own place
(`Scans.dollars_numbered`).
-/

namespace RecordSql.Text

/-! ## Texts that keep clear of numbering -/

/-- Whether a scanner in section `s` meets neither a dollar sign nor a placeholder with a digit behind it. -/
def isTidy (s : Section) : List Char → Bool
  | [] => true
  | c :: cs => (s.isSome || c != '$' && (c != '?' || !cs.head?.any Char.isDigit)) && isTidy (s.step c) cs

/-- Whether a text starts with a digit. -/
def startsWithDigit (cs : List Char) : Bool :=
  cs.head?.any Char.isDigit

/-- Two runs that keep clear of numbering do so together when the second does not start with a digit. -/
theorem isTidy_append {s : Section} {cs ds : List Char} (hd : startsWithDigit ds = false) :
    isTidy s (cs ++ ds) = (isTidy s cs && isTidy (s.after cs) ds) := by
  induction cs generalizing s with
  | nil => rfl
  | cons c cs ih =>
    have hhead : (cs ++ ds).head?.any Char.isDigit = cs.head?.any Char.isDigit := by
      cases cs with
      | nil => exact hd
      | cons _ _ => rfl
    have hafter : s.after (c :: cs) = (s.step c).after cs := rfl
    rw [List.cons_append, isTidy, isTidy, hhead, ih, hafter, Bool.and_assoc]

/-- A text that the scanner passes over from outside to outside, meeting `n` placeholders, and that keeps clear of numbering. -/
structure Scans (text : String) (n : Nat) : Prop where
  closed : Section.after none text.toList = none
  count : placeholderCount text = n
  tidy : isTidy none text.toList = true
  start : startsWithDigit text.toList = false

/-- Whether characters are those of a text that can be scanned, with `n` placeholders. -/
def isScannable (cs : List Char) (n : Nat) : Bool :=
  (Section.after none cs).isNone && countFrom none cs == n && isTidy none cs && !startsWithDigit cs

theorem isScannable_iff (text : String) (n : Nat) : isScannable text.toList n = true ↔ Scans text n := by
  simp only [isScannable, Bool.and_eq_true, Option.isNone_iff_eq_none, beq_iff_eq, Bool.not_eq_true']
  exact ⟨fun ⟨⟨⟨h₁, h₂⟩, h₃⟩, h₄⟩ => ⟨h₁, h₂, h₃, h₄⟩, fun h => ⟨⟨⟨h.closed, h.count⟩, h.tidy⟩, h.start⟩⟩

instance (text : String) (n : Nat) : Decidable (Scans text n) :=
  decidable_of_iff _ (isScannable_iff text n)

namespace Scans

/-- The empty text has no placeholder. -/
theorem empty : Scans "" 0 := by decide

/-- The placeholders of two texts add up. -/
theorem append {s t : String} {n m : Nat} (hs : Scans s n) (ht : Scans t m) : Scans (s ++ t) (n + m) where
  closed := by rw [String.toList_append, Section.after_append, hs.closed, ht.closed]
  count := by
    have hn : countFrom none s.toList = n := hs.count
    have hm : countFrom none t.toList = m := ht.count
    rw [placeholderCount, String.toList_append, countFrom_append, hs.closed, hn, hm]
  tidy := by rw [String.toList_append, isTidy_append ht.start, hs.tidy, hs.closed, ht.tidy]; rfl
  start := by
    rw [String.toList_append]
    have h := hs.start
    cases hcs : s.toList with
    | nil => exact ht.start
    | cons c cs =>
      rw [hcs] at h
      exact h

/-- A text before one without placeholders. -/
theorem append_plain {s t : String} {n : Nat} (hs : Scans s n) (ht : Scans t 0) : Scans (s ++ t) n :=
  hs.append ht

/-- A text after one without placeholders. -/
theorem plain_append {s t : String} {n : Nat} (hs : Scans s 0) (ht : Scans t n) : Scans (s ++ t) n := by
  have h := hs.append ht
  rwa [Nat.zero_add] at h

/-- Parts with a separator between them have the placeholders of the parts. -/
theorem separated {separator : String} (hsep : Scans separator 0) {α : Type} (part : α → String) (n : Nat) (as : List α)
    (h : ∀ a ∈ as, Scans (part a) n) : Scans (Text.separated separator (as.map part)) (as.length * n) := by
  induction as with
  | nil => simpa [Text.separated] using empty
  | cons a as ih =>
    have hfirst := h a (List.mem_cons_self ..)
    have hrest := ih fun b hb => h b (List.mem_cons_of_mem _ hb)
    rw [List.length_cons, Nat.succ_mul, Nat.add_comm]
    cases as with
    | nil => simpa [Text.separated] using hfirst
    | cons b as =>
      have hbetween : Scans (if (part a).isEmpty then "" else separator) 0 := by
        split
        · exact empty
        · exact hsep
      exact (hfirst.append_plain hbetween).append hrest

end Scans

/-! ## Plain texts and quoted names -/

/-- A character that the scanner passes over without notice. -/
def isPlain (c : Char) : Bool :=
  !isQuote c && c != '?' && c != '$'

/-- A character of a kind to which no quote, no question mark and no dollar sign belongs is plain. -/
theorem isPlain_of {p : Char → Bool} (hp : [apostrophe, quotationMark, graveAccent, '?', '$'].any p = false) {c : Char}
    (h : p c = true) : isPlain c = true := by
  have hne : ∀ x ∈ [apostrophe, quotationMark, graveAccent, '?', '$'], (c == x) = false := by
    intro x hx
    rw [beq_eq_false_iff_ne]
    rintro rfl
    exact List.any_eq_false.mp hp c hx h
  simp only [List.mem_cons, List.not_mem_nil, or_false, forall_eq_or_imp, forall_eq] at hne
  simp [isPlain, isQuote, bne, hne]

/-- A digit is no quote, no placeholder and no dollar sign. -/
theorem isPlain_of_isDigit {c : Char} (h : c.isDigit = true) : isPlain c = true :=
  isPlain_of (by decide) h

/-- The digits of a number are digits. -/
theorem isDigit_toString (n : Nat) : ∀ c ∈ (toString n).toList, c.isDigit = true := by
  intro c hc
  have hdigits : (toString n).toList = Nat.toDigits 10 n := String.toList_ofList
  rw [hdigits] at hc
  exact Nat.isDigit_of_mem_toDigits (by decide) (by decide) hc

theorem step_of_isPlain {c : Char} (h : isPlain c = true) : Section.step none c = none := by
  have hq : isQuote c = false := by
    simp only [isPlain, Bool.and_eq_true, Bool.not_eq_true'] at h
    exact h.1.1
  simp [Section.step, hq]

theorem isPlaceholder_of_isPlain {c : Char} (h : isPlain c = true) : isPlaceholder none c = false := by
  simp only [isPlain, Bool.and_eq_true, bne_iff_ne, ne_eq] at h
  simp [isPlaceholder, h.1.2]

/-- A plain text that does not start with a digit has no placeholder. -/
theorem scans_of_isPlain {text : String} (h : ∀ c ∈ text.toList, isPlain c = true)
    (hs : startsWithDigit text.toList = false) : Scans text 0 := by
  have hrun : ∀ cs : List Char, (∀ c ∈ cs, isPlain c = true) →
      Section.after none cs = none ∧ countFrom none cs = 0 ∧ isTidy none cs = true := by
    intro cs hcs
    induction cs with
    | nil => exact ⟨rfl, rfl, rfl⟩
    | cons c cs ih =>
      have hc := hcs c (List.mem_cons_self ..)
      obtain ⟨hafter, hcount, htidy⟩ := ih fun x hx => hcs x (List.mem_cons_of_mem _ hx)
      have hstep := step_of_isPlain hc
      refine ⟨?_, ?_, ?_⟩
      · rw [Section.after, List.foldl_cons, hstep]
        exact hafter
      · simp [countFrom, hstep, hcount, isPlaceholder_of_isPlain hc]
      · simp only [isPlain, Bool.and_eq_true] at hc
        simp [isTidy, hstep, htidy, hc.1.2, hc.2]
  obtain ⟨hafter, hcount, htidy⟩ := hrun _ h
  exact ⟨hafter, hcount, htidy, hs⟩

/-- A clause with a number. -/
theorem scans_append_toString (words : String) (n : Nat) (h : words.toList.all isPlain = true) (hne : words.toList ≠ [])
    (hs : startsWithDigit words.toList = false) : Scans (words ++ toString n) 0 := by
  refine scans_of_isPlain ?_ ?_
  · intro c hc
    rw [String.toList_append] at hc
    rcases List.mem_append.mp hc with hc | hc
    · exact List.all_eq_true.mp h c hc
    · exact isPlain_of_isDigit (isDigit_toString n c hc)
  · rw [String.toList_append]
    cases hw : words.toList with
    | nil => exact absurd hw hne
    | cons c cs =>
      rw [hw] at hs
      exact hs

/-- A quote is no placeholder, no dollar sign and no digit. -/
theorem quote_ne {q : Char} (h : isQuote q = true) : q ≠ '?' ∧ q ≠ '$' ∧ q.isDigit = false := by
  simp only [isQuote, Bool.or_eq_true, beq_iff_eq] at h
  rcases h with (rfl | rfl) | rfl <;> decide

/-- Inside a section a text with its quotes doubled neither ends the section nor holds a placeholder. -/
theorem scan_doubled {q : Char} (h : isQuote q = true) (cs : List Char) :
    Section.after (some q) (doubled q cs) = some q ∧ countFrom (some q) (doubled q cs) = 0 ∧
      isTidy (some q) (doubled q cs) = true := by
  obtain ⟨hhole, hdollar, -⟩ := quote_ne h
  induction cs with
  | nil => exact ⟨rfl, rfl, rfl⟩
  | cons c cs ih =>
    obtain ⟨hafter, hcount, htidy⟩ := ih
    rw [doubled_cons]
    by_cases hc : c = q
    · rw [if_pos hc]
      simp only [List.cons_append, List.nil_append, Section.after, List.foldl_cons, countFrom, isTidy, Section.step,
        beq_self_eq_true, if_true, h]
      refine ⟨hafter, ?_, ?_⟩
      · simp [isPlaceholder, hhole, hcount]
      · simp [hhole, hdollar, htidy]
    · rw [if_neg hc]
      have hne : (c == q) = false := beq_eq_false_iff_ne.mpr hc
      simp only [List.cons_append, List.nil_append, Section.after, List.foldl_cons, countFrom, isTidy, Section.step, hne,
        Bool.false_eq_true, if_false]
      refine ⟨hafter, ?_, ?_⟩
      · simp [isPlaceholder, hcount]
      · simp [htidy]

/-- Quoted text has no placeholder, whatever it is. -/
theorem scans_enclosed {q : Char} (h : isQuote q = true) (text : String) : Scans (enclosed q text) 0 := by
  obtain ⟨hafter, hcount, htidy⟩ := scan_doubled h text.toList
  obtain ⟨hhole, hdollar, hdigit⟩ := quote_ne h
  have hopen : Section.step none q = some q := by simp [Section.step, h]
  have hclose : Section.step (some q) q = none := by simp [Section.step]
  refine ⟨?_, ?_, ?_, ?_⟩
  · rw [toList_enclosed, List.cons_append, Section.after, List.foldl_cons, hopen]
    change Section.after (some q) (doubled q text.toList ++ [q]) = none
    rw [Section.after_append, hafter]
    exact hclose
  · rw [placeholderCount, toList_enclosed, List.cons_append, countFrom, hopen, countFrom_append, hcount]
    simp [countFrom, isPlaceholder, hhole, hafter]
  · have hq : isTidy (some q) [q] = true := rfl
    rw [toList_enclosed, List.cons_append, isTidy, hopen, isTidy_append (by simp [startsWithDigit, hdigit]), htidy, hafter, hq]
    simp [hhole, hdollar]
  · rw [toList_enclosed]
    simp [startsWithDigit, hdigit]

end RecordSql.Text
