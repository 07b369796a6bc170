import RecordSql.Proofs.Text.Scan

/-!
# Rewriting quoted sections

`requoted f` reads a text from left to right and puts `f` of its content in the place of every quoted section; with the constant
empty text for `f` it erases the sections (`erased`), and with the identity it leaves the text as it is (`requoted_id`). A text that
is put together from plain words and quoted texts is rewritten piece by piece (`Requotes`), because after a quoted text that no quote
follows the reader stands outside of all sections again. What stands in the sections is read in the same way (`quotations`), and for a
text that is put together from such pieces it is found piece by piece (`Quotes`).
-/

namespace RecordSql.Text

/-- The characters with the content of every quoted section rewritten. A section without end is left as it is. -/
def requotedChars (f : String → String) : List Char → List Char
  | [] => []
  | c :: cs =>
    if isQuote c then
      match _h : readEnclosed c cs with
      | some (content, rest) => (enclosed c (f (String.ofList content))).toList ++ requotedChars f rest
      | none => c :: cs
    else c :: requotedChars f cs
termination_by cs => cs.length
decreasing_by
  · have := length_readEnclosed c cs content rest _h
    simp only [List.length_cons]
    omega
  · simp

/-- The text with the content of every quoted section rewritten. A doubled quote belongs to its section. -/
def requoted (f : String → String) (text : String) : String :=
  String.ofList (requotedChars f text.toList)

/-- The text with nothing left between the quotes of its quoted sections. -/
def erased (text : String) : String :=
  requoted (fun _ => "") text

/-! ## Sections that keep their content -/

/-- A section that is read is the enclosed content. -/
theorem enclosed_of_readEnclosed {quote : Char} {cs content rest : List Char}
    (h : readEnclosed quote cs = some (content, rest)) : doubled quote content ++ quote :: rest = cs := by
  induction cs using readEnclosed.induct quote generalizing content with
  | case1 => cases h
  | case2 =>
    simp only [readEnclosed, if_true, Option.some.injEq, Prod.mk.injEq] at h
    rw [← h.1, ← h.2]
    rfl
  | case3 ds ih =>
    simp only [readEnclosed, if_true, Option.map_eq_some_iff, Prod.exists, Prod.mk.injEq] at h
    obtain ⟨inner, tail, hr, rfl, rfl⟩ := h
    rw [doubled_cons, if_pos rfl, List.append_assoc, ih hr]
    rfl
  | case4 d ds hd =>
    simp only [readEnclosed, if_true, if_neg hd, Option.some.injEq, Prod.mk.injEq] at h
    rw [← h.1, ← h.2]
    rfl
  | case5 c cs hc ih =>
    rw [readEnclosed_cons_of_ne hc] at h
    simp only [Option.map_eq_some_iff, Prod.exists, Prod.mk.injEq] at h
    obtain ⟨inner, tail, hr, rfl, rfl⟩ := h
    rw [doubled_cons, if_neg hc, List.append_assoc, ih hr]
    rfl

/-- Nothing changes when the content of every section stays. -/
theorem requotedChars_id (cs : List Char) : requotedChars id cs = cs := by
  induction cs using requotedChars.induct with
  | case1 => rw [requotedChars]
  | case2 c cs hq content rest h ih =>
    rw [requotedChars, if_pos hq]
    split
    · rename_i content' rest' h'
      rw [h, Option.some.injEq, Prod.mk.injEq] at h'
      rw [← h'.1, ← h'.2, ih, toList_enclosed, id, String.toList_ofList, List.cons_append, List.cons_append,
        List.append_assoc, List.singleton_append, enclosed_of_readEnclosed h]
    · rfl
  | case3 c cs hq h =>
    rw [requotedChars, if_pos hq]
    split
    · rename_i h'
      rw [h] at h'
      cases h'
    · rfl
  | case4 c cs hq ih => rw [requotedChars, if_neg hq, ih]

theorem requoted_id (text : String) : requoted id text = text := by
  rw [requoted, requotedChars_id, String.ofList_toList]

/-! ## Pieces of text -/

variable {f : String → String}

/-- Whether characters start with a quote, which would go on with a section that ends before them. -/
def startsWithQuote (cs : List Char) : Bool :=
  cs.head?.any isQuote

theorem head?_ne_of_startsWithQuote {q : Char} (hq : isQuote q = true) {cs : List Char} (h : startsWithQuote cs = false) :
    cs.head? ≠ some q := by
  intro hhead
  rw [startsWithQuote, hhead, Option.any_some, hq] at h
  cases h

/-- Whether a text has no quote. -/
def isUnquoted (text : String) : Bool :=
  text.toList.all (!isQuote ·)

@[simp] theorem isUnquoted_append (s t : String) : isUnquoted (s ++ t) = (isUnquoted s && isUnquoted t) := by
  rw [isUnquoted, String.toList_append, List.all_append]
  rfl

theorem isUnquoted_separated {separator : String} (hsep : isUnquoted separator = true) {parts : List String}
    (h : ∀ part ∈ parts, isUnquoted part = true) : isUnquoted (Text.separated separator parts) = true := by
  induction parts with
  | nil => rfl
  | cons part parts ih =>
    have hfirst := h part (List.mem_cons_self ..)
    have hrest := ih fun p hp => h p (List.mem_cons_of_mem _ hp)
    cases parts with
    | nil => exact hfirst
    | cons next parts =>
      have hbetween : isUnquoted (if part.isEmpty then "" else separator) = true := by
        split
        · rfl
        · exact hsep
      rw [Text.separated, isUnquoted_append, isUnquoted_append, hfirst, hbetween, hrest]
      rfl

theorem isUnquoted_toString (n : Nat) : isUnquoted (toString n) = true := by
  rw [isUnquoted, List.all_eq_true]
  intro c hc
  have hplain := isPlain_of_isDigit (isDigit_toString n c hc)
  rw [isPlain, Bool.and_eq_true, Bool.and_eq_true] at hplain
  exact hplain.1.1

theorem startsWithQuote_of_isUnquoted {text : String} (h : isUnquoted text = true) : startsWithQuote text.toList = false := by
  rw [isUnquoted] at h
  cases hcs : text.toList with
  | nil => rfl
  | cons c cs =>
    rw [hcs, List.all_cons, Bool.and_eq_true, Bool.not_eq_true'] at h
    exact h.1

/-- A text whose first part is plain and not empty starts plain. -/
theorem startsWithQuote_words {words : String} (h : isUnquoted words = true) (hne : words ≠ "") (text : String) :
    startsWithQuote (words ++ text).toList = false := by
  have hstart := startsWithQuote_of_isUnquoted h
  rw [String.toList_append]
  cases hcs : words.toList with
  | nil => exact absurd (String.toList_eq_nil_iff.mp hcs) hne
  | cons c cs =>
    rw [hcs] at hstart
    exact hstart

/-- Characters start with a quote only when one of their parts does. -/
theorem startsWithQuote_append {cs ds : List Char} (hc : startsWithQuote cs = false) (hd : startsWithQuote ds = false) :
    startsWithQuote (cs ++ ds) = false := by
  cases cs with
  | nil => exact hd
  | cons c cs => exact hc

/-- A text without quotes stays, whatever follows. -/
theorem requotedChars_append {text : String} (h : isUnquoted text = true) (rest : List Char) :
    requotedChars f (text.toList ++ rest) = text.toList ++ requotedChars f rest := by
  rw [isUnquoted] at h
  generalize text.toList = cs at h ⊢
  induction cs with
  | nil => rfl
  | cons c cs ih =>
    rw [List.all_cons, Bool.and_eq_true, Bool.not_eq_true'] at h
    rw [List.cons_append, requotedChars, h.1, if_neg Bool.false_ne_true, ih h.2, List.cons_append]

/-- A text whose sections are rewritten to those of `new`, before anything but a quote. -/
structure Requotes (f : String → String) (text new : String) : Prop where
  before : ∀ rest, startsWithQuote rest = false → requotedChars f (text.toList ++ rest) = new.toList ++ requotedChars f rest

namespace Requotes

theorem requoted {text new : String} (h : Requotes f text new) : Text.requoted f text = new := by
  have hend := h.before [] rfl
  rw [List.append_nil, requotedChars, List.append_nil] at hend
  rw [Text.requoted, hend, String.ofList_toList]

/-- A text without quotes stays. -/
theorem plain {text : String} (h : isUnquoted text = true) : Requotes f text text where
  before rest _ := requotedChars_append h rest

/-- A quoted text is rewritten whole. -/
theorem enclosed {q : Char} (hq : isQuote q = true) (text : String) :
    Requotes f (Text.enclosed q text) (Text.enclosed q (f text)) where
  before rest hrest := by
    obtain ⟨cs, htext, hread⟩ := readEnclosed_enclosed q text rest (head?_ne_of_startsWithQuote hq hrest)
    rw [htext, List.cons_append, requotedChars, if_pos hq]
    split
    · rename_i content rest' h
      rw [hread, Option.some.injEq, Prod.mk.injEq] at h
      rw [← h.1, ← h.2, String.ofList_toList]
    · rename_i h
      rw [hread] at h
      cases h

example : erased "SELECT \"a\"\"b'?\", 'c' FROM x" = "SELECT \"\", '' FROM x" := by cbv

/-- A piece before one that does not start with a quote. -/
theorem append {s s' t t' : String} (hs : Requotes f s s') (ht : Requotes f t t') (hstart : startsWithQuote t.toList = false) :
    Requotes f (s ++ t) (s' ++ t') where
  before rest hrest := by
    have hnext := startsWithQuote_append hstart hrest
    rw [String.toList_append, String.toList_append, List.append_assoc, List.append_assoc, hs.before _ hnext, ht.before _ hrest]

/-- A plain text before any piece. -/
theorem plain_append {s t t' : String} (hs : isUnquoted s = true) (ht : Requotes f t t') :
    Requotes f (s ++ t) (s ++ t') where
  before rest hrest := by
    rw [String.toList_append, String.toList_append, List.append_assoc, List.append_assoc, requotedChars_append hs,
      ht.before _ hrest]

/-- A plain text that is not empty between two pieces. -/
theorem between {s s' t t' words : String} (hs : Requotes f s s') (hwords : isUnquoted words = true)
    (hne : words ≠ "") (ht : Requotes f t t') : Requotes f (s ++ words ++ t) (s' ++ words ++ t') := by
  rw [String.append_assoc, String.append_assoc]
  exact hs.append (plain_append hwords ht) (startsWithQuote_words hwords hne _)

/-- A plain text after any piece. -/
theorem append_plain {s s' words : String} (hs : Requotes f s s') (hwords : isUnquoted words = true) :
    Requotes f (s ++ words) (s' ++ words) :=
  hs.append (plain hwords) (startsWithQuote_of_isUnquoted hwords)

/-- Parts that are not empty, with a plain text between them. -/
theorem separated {α : Type} {separator : String} (hsep : isUnquoted separator = true)
    (hne : separator ≠ "") {part new : α → String} (hpart : ∀ a, part a ≠ "") (hnew : ∀ a, new a ≠ "")
    (h : ∀ a, Requotes f (part a) (new a)) (as : List α) :
    Requotes f (Text.separated separator (as.map part)) (Text.separated separator (as.map new)) := by
  induction as with
  | nil => exact plain rfl
  | cons a as ih =>
    cases as with
    | nil => exact h a
    | cons b as =>
      have hword : ∀ s : String, s ≠ "" → (if s.isEmpty then "" else separator) = separator := by
        intro s hs
        rw [if_neg (by simpa using hs)]
      simp only [List.map_cons, Text.separated, hword _ (hpart a), hword _ (hnew a)]
      exact (h a).between hsep hne ih

end Requotes

/-- A text of this kind that can follow any other, because it does not start with a quote. -/
structure Follows (f : String → String) (text new : String) : Prop extends Requotes f text new where
  start : startsWithQuote text.toList = false

namespace Follows

theorem plain {text : String} (h : isUnquoted text = true) : Follows f text text :=
  ⟨.plain h, startsWithQuote_of_isUnquoted h⟩

theorem empty : Follows f "" "" :=
  plain rfl

theorem append {s s' t t' : String} (hs : Follows f s s') (ht : Follows f t t') : Follows f (s ++ t) (s' ++ t') where
  toRequotes := hs.toRequotes.append ht.toRequotes ht.start
  start := by
    rw [String.toList_append]
    exact startsWithQuote_append hs.start ht.start

/-- Words before any piece. -/
theorem words {words t t' : String} (hwords : isUnquoted words = true) (hne : words ≠ "") (ht : Requotes f t t') :
    Follows f (words ++ t) (words ++ t') :=
  ⟨.plain_append hwords ht, startsWithQuote_words hwords hne t⟩

/-- Words between two pieces. -/
theorem between {s s' t t' words : String} (hs : Follows f s s') (hwords : isUnquoted words = true) (hne : words ≠ "")
    (ht : Requotes f t t') : Follows f (s ++ words ++ t) (s' ++ words ++ t') := by
  rw [String.append_assoc, String.append_assoc]
  exact hs.append (Follows.words hwords hne ht)

end Follows

/-! ## The contents of sections -/

/-- The contents of the quoted sections of some characters, in order. A section without end has none. -/
def quotedParts : List Char → List String
  | [] => []
  | c :: cs =>
    if isQuote c then
      match _h : readEnclosed c cs with
      | some (content, rest) => String.ofList content :: quotedParts rest
      | none => []
    else quotedParts cs
termination_by cs => cs.length
decreasing_by
  · have := length_readEnclosed c cs content rest _h
    simp only [List.length_cons]
    omega
  · simp

/-- The contents of the quoted sections of a text, in order. -/
def quotations (text : String) : List String :=
  quotedParts text.toList

/-- A text whose quoted sections have the given contents, before anything but a quote. -/
structure Quotes (text : String) (contents : List String) : Prop where
  before : ∀ rest, startsWithQuote rest = false → quotedParts (text.toList ++ rest) = contents ++ quotedParts rest

namespace Quotes

variable {s t words : String} {contents more : List String}

theorem quotations_eq (h : Quotes s contents) : quotations s = contents := by
  have hend := h.before [] rfl
  rwa [List.append_nil, quotedParts, List.append_nil] at hend

/-- A text without quotes before any other text. -/
theorem words_append (hwords : isUnquoted words = true) (h : Quotes t contents) : Quotes (words ++ t) contents where
  before rest hrest := by
    have hskip : ∀ (cs ds : List Char), cs.all (!isQuote ·) = true → quotedParts (cs ++ ds) = quotedParts ds := by
      intro cs ds hcs
      induction cs with
      | nil => rfl
      | cons c cs ih =>
        rw [List.all_cons, Bool.and_eq_true, Bool.not_eq_true'] at hcs
        rw [List.cons_append, quotedParts, hcs.1, if_neg Bool.false_ne_true, ih hcs.2]
    rw [String.toList_append, List.append_assoc, hskip _ _ hwords, h.before rest hrest]

theorem empty : Quotes "" [] :=
  ⟨fun _ _ => rfl⟩

theorem plain (hwords : isUnquoted words = true) : Quotes words [] := by
  have h := words_append hwords empty
  rwa [String.append_empty] at h

/-- A quoted text is one section. -/
theorem enclosed {q : Char} (hq : isQuote q = true) (text : String) : Quotes (Text.enclosed q text) [text] where
  before rest hrest := by
    obtain ⟨cs, htext, hread⟩ := readEnclosed_enclosed q text rest (head?_ne_of_startsWithQuote hq hrest)
    rw [htext, List.cons_append, quotedParts, if_pos hq]
    split
    · rename_i content rest' h
      rw [hread, Option.some.injEq, Prod.mk.injEq] at h
      rw [← h.1, ← h.2, String.ofList_toList]
      rfl
    · rename_i h
      rw [hread] at h
      cases h

/-- A text before one that does not start with a quote. -/
theorem append (hs : Quotes s contents) (ht : Quotes t more) (hstart : startsWithQuote t.toList = false) :
    Quotes (s ++ t) (contents ++ more) where
  before rest hrest := by
    have hnext := startsWithQuote_append hstart hrest
    rw [String.toList_append, List.append_assoc, hs.before _ hnext, ht.before _ hrest, List.append_assoc]

/-- Words between two texts. -/
theorem between (hs : Quotes s contents) (hwords : isUnquoted words = true) (hne : words ≠ "") (ht : Quotes t more) :
    Quotes (s ++ words ++ t) (contents ++ more) := by
  rw [String.append_assoc]
  exact hs.append (words_append hwords ht) (startsWithQuote_words hwords hne t)

/-- Words after a text. -/
theorem append_plain (hs : Quotes s contents) (hwords : isUnquoted words = true) : Quotes (s ++ words) contents := by
  have h := hs.append (plain hwords) (startsWithQuote_of_isUnquoted hwords)
  rwa [List.append_nil] at h

/-- Texts with words between them. -/
theorem intercalate {α : Type} {separator : String} (hsep : isUnquoted separator = true) (hne : separator ≠ "") {part : α → String}
    {contents : α → List String} (h : ∀ a, Quotes (part a) (contents a)) (as : List α) :
    Quotes (separator.intercalate (as.map part)) (as.flatMap contents) := by
  induction as with
  | nil => exact empty
  | cons a as ih =>
    cases as with
    | nil => simpa using h a
    | cons b as =>
      rw [List.map_cons, List.map_cons, String.intercalate_cons_cons, List.flatMap_cons]
      exact (h a).between hsep hne ih

end Quotes

end RecordSql.Text
