import Mathlib.Data.List.Induction
import Mathlib.Data.List.Infix
import RecordSql.Dialect.Literal
import RecordSql.Proofs.Text.Enclosed
import RecordSql.Proofs.Value.Kind

/-!
# String literals as MySQL reads them

MySQL reads a backslash in a string literal as the start of an escape sequence, and a literal is written with its apostrophes doubled and its
backslashes as they are. So a literal denotes its text exactly when every backslash of the text stands before a mark of patterns, where MySQL
keeps it (`mysqlLiteral_read_iff`). Any other backslash costs a character, which nothing in the rest of the literal can make good
(`weight_of_readEscaped`); a last one takes the apostrophe that should close the literal.
-/

namespace RecordSql

namespace Text

/-- The marks of patterns, which keep the backslash in front of them. -/
def patternMarks : List Char := ['%', '_']

/-- The characters that stand for another one behind a backslash. -/
def escapeCodes : List (Char × Char) :=
  [('0', '\x00'), ('b', '\x08'), ('n', '\n'), ('r', '\r'), ('t', '\t'), ('Z', '\x1a')]

/-- What a backslash and the character behind it denote. A character without a meaning of its own denotes itself. -/
def escapeSequence (c : Char) : List Char :=
  if c ∈ patternMarks then ['\\', c] else [(escapeCodes.lookup c).getD c]

/-- A piece of content in front of what is read after it. -/
def inFront (first : List Char) (read : Option (List Char × List Char)) : Option (List Char × List Char) :=
  read.map fun (content, rest) => (first ++ content, rest)

/-- The content of a string literal whose opening apostrophe has been read, and the text after it. -/
def readEscaped : List Char → Option (List Char × List Char)
  | [] => none
  | c :: cs =>
    if c = apostrophe then
      match cs with
      | [] => some ([], [])
      | d :: ds =>
        if d = apostrophe then inFront [apostrophe] (readEscaped ds)
        else some ([], d :: ds)
    else if c = '\\' then
      match cs with
      | [] => none
      | d :: ds => inFront (escapeSequence d) (readEscaped ds)
    else inFront [c] (readEscaped cs)

/-- Every backslash stands before a mark of patterns. -/
def KeepsBackslashes (cs : List Char) : Prop :=
  ∀ after, '\\' :: after <:+ cs → after.head? ∈ patternMarks.map some

theorem forall_tails_iff {cs : List Char} :
    (∀ tail ∈ cs.tails, tail.head? = some '\\' → tail.tail.head? ∈ patternMarks.map some) ↔ KeepsBackslashes cs := by
  constructor
  · exact fun h after hafter => h _ ((List.mem_tails _ _).mpr hafter) rfl
  · intro h tail htail hhead
    obtain ⟨after, rfl⟩ := List.head?_eq_some_iff.mp hhead
    exact h after ((List.mem_tails _ _).mp htail)

instance (cs : List Char) : Decidable (KeepsBackslashes cs) :=
  decidable_of_iff _ forall_tails_iff

/-! ## One step of the reader -/

theorem backslash_ne_apostrophe : '\\' ≠ apostrophe := by
  decide

theorem ne_of_mem_patternMarks {c : Char} (h : c ∈ patternMarks) : c ≠ apostrophe ∧ c ≠ '\\' := by
  rw [patternMarks, List.mem_pair] at h
  rcases h with rfl | rfl <;> decide

/-- A backslash before a character that is not a mark of patterns denotes one character, which is a backslash only for another one. -/
theorem exists_escapeSequence {c : Char} (h : c ∉ patternMarks) : ∃ d, escapeSequence c = [d] ∧ (d = '\\' → c = '\\') := by
  refine ⟨_, if_neg h, fun hd => ?_⟩
  cases hcode : escapeCodes.lookup c with
  | none => rwa [hcode] at hd
  | some d =>
    rw [hcode, Option.getD_some] at hd
    obtain ⟨before, after, hcodes, -⟩ := List.lookup_eq_some_iff.mp hcode
    have hmem : (c, d) ∈ escapeCodes := hcodes ▸ List.mem_append_right _ (List.mem_cons_self ..)
    have hplain : ∀ p ∈ escapeCodes, p.2 ≠ '\\' := by simp [escapeCodes]
    exact absurd hd (hplain _ hmem)

/-- What is read after a piece of content is the rest of the content. -/
theorem exists_of_inFront {first content rest : List Char} {read : Option (List Char × List Char)}
    (h : inFront first read = some (content, rest)) : ∃ inner, read = some (inner, rest) ∧ content = first ++ inner := by
  rcases read with _ | ⟨inner, rest'⟩
  · cases h
  · cases h
    exact ⟨inner, rfl, rfl⟩

/-- A content is read when it goes on as expected after its first piece. -/
theorem inFront_eq_some_iff {first cs rest : List Char} {read : Option (List Char × List Char)} :
    inFront first read = some (first ++ cs, rest) ↔ read = some (cs, rest) := by
  rcases read with _ | ⟨content, rest'⟩
  · exact iff_of_false nofun nofun
  · simp [inFront]

theorem readEscaped_close {rest : List Char} (h : rest.head? ≠ some apostrophe) : readEscaped (apostrophe :: rest) = some ([], rest) := by
  cases rest with
  | nil => rfl
  | cons d ds =>
    have hd : d ≠ apostrophe := fun hd => h (congrArg some hd)
    rw [readEscaped, if_pos rfl]
    exact if_neg hd

theorem readEscaped_quotes (cs : List Char) :
    readEscaped (apostrophe :: apostrophe :: cs) = inFront [apostrophe] (readEscaped cs) := rfl

theorem readEscaped_escape (c : Char) (cs : List Char) :
    readEscaped ('\\' :: c :: cs) = inFront (escapeSequence c) (readEscaped cs) := rfl

theorem readEscaped_plain {c : Char} (hquote : c ≠ apostrophe) (hslash : c ≠ '\\') (cs : List Char) :
    readEscaped (c :: cs) = inFront [c] (readEscaped cs) := by
  rw [readEscaped.eq_def]
  simp [hquote, hslash]

/-! ## How much a reader can read -/

/-- Twice the number of characters that a text can denote at most, when each is written as one or as a pair of apostrophes. -/
def weight : List Char → Nat
  | [] => 0
  | c :: cs => (if c = apostrophe then 1 else 2) + weight cs

theorem weight_append (cs ds : List Char) : weight (cs ++ ds) = weight cs + weight ds := by
  induction cs with
  | nil => exact (Nat.zero_add _).symm
  | cons c cs ih => rw [List.cons_append, weight, weight, ih, Nat.add_assoc]

theorem weight_doubled (cs : List Char) : weight (doubled apostrophe cs) = 2 * cs.length := by
  induction cs with
  | nil => rfl
  | cons c cs ih =>
    rw [doubled_cons, weight_append, ih, List.length_cons]
    by_cases h : c = apostrophe
    · simp only [if_pos h, weight, if_true]
      omega
    · simp only [if_neg h, weight]
      omega

theorem weight_escapeSequence (c : Char) : 2 * (escapeSequence c).length ≤ 2 + if c = apostrophe then 1 else 2 := by
  by_cases h : c ∈ patternMarks
  · rw [escapeSequence, if_pos h, if_neg (ne_of_mem_patternMarks h).1, List.length_cons, List.length_singleton]
  · rw [escapeSequence, if_neg h, List.length_singleton]
    omega

/-- The content of a literal has no more characters than its weight allows for, and the apostrophe that closes it is left over. -/
theorem weight_of_readEscaped {cs content rest : List Char} (h : readEscaped cs = some (content, rest)) :
    2 * content.length + weight rest < weight cs := by
  induction cs using readEscaped.induct generalizing content with
  | case1 => cases h
  | case2 =>
    cases h
    decide
  | case3 ds ih =>
    rw [readEscaped_quotes] at h
    obtain ⟨inner, hinner, rfl⟩ := exists_of_inFront h
    have hrest := ih hinner
    simp only [weight, if_true, List.length_append, List.length_singleton]
    omega
  | case4 d ds hd =>
    have hhead : (d :: ds).head? ≠ some apostrophe := fun hhead => hd (Option.some.inj hhead)
    rw [readEscaped_close hhead] at h
    cases h
    simp only [weight, if_true, List.length_nil]
    omega
  | case5 => cases h
  | case6 d ds _ ih =>
    rw [readEscaped_escape] at h
    obtain ⟨inner, hinner, rfl⟩ := exists_of_inFront h
    have hrest := ih hinner
    have hsequence := weight_escapeSequence d
    simp only [weight, if_neg backslash_ne_apostrophe, List.length_append]
    omega
  | case7 c cs hquote hslash ih =>
    rw [readEscaped_plain hquote hslash] at h
    obtain ⟨inner, hinner, rfl⟩ := exists_of_inFront h
    have hrest := ih hinner
    simp only [weight, if_neg hquote, List.length_append, List.length_singleton]
    omega

/-! ## Literals -/

/-- The backslashes of a text that starts with another character are those after it. -/
theorem keepsBackslashes_cons {c : Char} (hc : c ≠ '\\') (cs : List Char) : KeepsBackslashes (c :: cs) ↔ KeepsBackslashes cs := by
  refine forall_congr' fun after => ?_
  rw [List.suffix_cons_iff, List.cons.injEq, or_iff_right fun h => hc h.1.symm]

/-- A first backslash must stand before a mark of patterns. -/
theorem keepsBackslashes_backslash (cs : List Char) :
    KeepsBackslashes ('\\' :: cs) ↔ cs.head? ∈ patternMarks.map some ∧ KeepsBackslashes cs := by
  constructor
  · exact fun h => ⟨h cs List.suffix_rfl, fun after hafter => h after (hafter.trans (List.suffix_cons ..))⟩
  · rintro ⟨hfirst, hrest⟩ after hafter
    rcases List.suffix_cons_iff.mp hafter with heq | hafter
    · rw [(List.cons.inj heq).2]
      exact hfirst
    · exact hrest after hafter

/-- A character that is not a backslash is read back in any case. -/
theorem readEscaped_doubled_cons {c : Char} (hc : c ≠ '\\') (cs more rest : List Char) :
    readEscaped (doubled apostrophe (c :: cs) ++ more) = some (c :: cs, rest) ↔
      readEscaped (doubled apostrophe cs ++ more) = some (cs, rest) := by
  rw [doubled_cons]
  by_cases hquote : c = apostrophe
  · subst hquote
    exact inFront_eq_some_iff
  · rw [if_neg hquote, List.append_assoc, List.singleton_append, readEscaped_plain hquote hc]
    exact inFront_eq_some_iff

/-- A backslash before any other character than a mark of patterns or a backslash is lost. -/
theorem readEscaped_backslash_ne {d : Char} (hmark : d ∉ patternMarks) (hd : d ≠ '\\') (cs content rest : List Char) :
    readEscaped ('\\' :: d :: cs) ≠ some ('\\' :: content, rest) := by
  obtain ⟨e, he, hslash⟩ := exists_escapeSequence hmark
  rw [readEscaped_escape, he]
  intro h
  obtain ⟨inner, -, hcontent⟩ := exists_of_inFront h
  exact hd (hslash (List.cons.inj hcontent).1.symm)

/-- Of two backslashes one is lost, and what follows them has no character to stand for it. -/
theorem readEscaped_backslashes_ne (cs rest : List Char) :
    readEscaped ('\\' :: '\\' :: (doubled apostrophe cs ++ apostrophe :: rest)) ≠ some ('\\' :: '\\' :: cs, rest) := by
  intro h
  have hread : readEscaped (doubled apostrophe cs ++ apostrophe :: rest) = some ('\\' :: cs, rest) :=
    inFront_eq_some_iff.mp h
  have hweight := weight_of_readEscaped hread
  rw [weight_append, weight_doubled, weight, if_pos rfl, List.length_cons] at hweight
  omega

theorem doubled_backslash (cs : List Char) : doubled apostrophe ('\\' :: cs) = '\\' :: doubled apostrophe cs := rfl

/-- Doubling the quotes of a text does not change how it starts. -/
theorem exists_doubled_cons (quote c : Char) (cs : List Char) : ∃ tail, doubled quote (c :: cs) = c :: tail := by
  rw [doubled_cons]
  split
  · rename_i hquote
    exact ⟨_, congrArg (· :: _) hquote.symm⟩
  · exact ⟨_, rfl⟩

/-- A text with its apostrophes doubled is read back up to the apostrophe that closes it exactly when MySQL keeps its backslashes. -/
theorem readEscaped_doubled_iff {rest : List Char} (h : rest.head? ≠ some apostrophe) (cs : List Char) :
    readEscaped (doubled apostrophe cs ++ apostrophe :: rest) = some (cs, rest) ↔ KeepsBackslashes cs := by
  induction cs using List.twoStepInduction with
  | nil => exact iff_of_true (readEscaped_close h) (by simp [KeepsBackslashes])
  | singleton c =>
    by_cases hc : c = '\\'
    · -- the backslash takes the apostrophe that should close the literal
      subst hc
      have hlost : readEscaped ('\\' :: apostrophe :: rest) ≠ some ('\\' :: [], rest) :=
        readEscaped_backslash_ne (by decide) (by decide) _ _ _
      refine iff_of_false hlost ?_
      rw [keepsBackslashes_backslash]
      simp
    · rw [readEscaped_doubled_cons hc, keepsBackslashes_cons hc]
      exact iff_of_true (readEscaped_close h) (by simp [KeepsBackslashes])
  | cons_cons c d cs ih ihd =>
    by_cases hc : c = '\\'
    · subst hc
      have hhead : (d :: cs).head? ∈ patternMarks.map some ↔ d ∈ patternMarks := by simp
      rw [keepsBackslashes_backslash, hhead, doubled_backslash]
      by_cases hmark : d ∈ patternMarks
      · obtain ⟨hquote, hslash⟩ := ne_of_mem_patternMarks hmark
        have hsequence : escapeSequence d = ['\\', d] := if_pos hmark
        rw [doubled_cons, if_neg hquote, and_iff_right hmark, keepsBackslashes_cons hslash, ← ih, List.cons_append,
          List.append_assoc, List.singleton_append, readEscaped_escape, hsequence]
        exact inFront_eq_some_iff
      · refine iff_of_false ?_ fun hkeeps => hmark hkeeps.1
        by_cases hslash : d = '\\'
        · subst hslash
          exact readEscaped_backslashes_ne cs rest
        · obtain ⟨tail, htail⟩ := exists_doubled_cons apostrophe d cs
          rw [htail]
          exact readEscaped_backslash_ne hmark hslash _ _ _
    · rw [readEscaped_doubled_cons hc, keepsBackslashes_cons hc]
      exact ihd d

end Text

/-- The literal that MySQL gets for a text or a character starts with an apostrophe. Before any text that does not start with another one,
MySQL reads the rest of it as this text or character, and stops right behind it, exactly when every backslash stands before a mark of
patterns. -/
theorem mysqlLiteral_read_iff {s : Scalar} {text : String} (h : Value.text? s = some text) :
    ∃ cs, Dialect.mysql.literal (.of s) = .ok (String.ofList (Text.apostrophe :: cs)) ∧
      ∀ rest, rest.head? ≠ some Text.apostrophe →
        (Text.readEscaped (cs ++ rest) = some (text.toList, rest) ↔ Text.KeepsBackslashes text.toList) := by
  have hliteral : Dialect.mysql.literal (.of s) = .ok (Text.enclosed Text.apostrophe text) := by
    cases s <;> cases h <;> rfl
  refine ⟨Text.doubled Text.apostrophe text.toList ++ [Text.apostrophe], ?_, ?_⟩
  · rw [hliteral, ← List.cons_append, ← Text.toList_enclosed, String.ofList_toList]
  · intro rest hrest
    rw [List.append_assoc, List.singleton_append]
    exact Text.readEscaped_doubled_iff hrest text.toList

/-- A text with an apostrophe and a mark of patterns behind a backslash is read back before the words that follow a default value. -/
theorem mysqlLiteral_read_marked :
    ∃ cs, Dialect.mysql.literal (.varchar "it's 50\\%") = .ok (String.ofList (Text.apostrophe :: cs)) ∧
      Text.readEscaped (cs ++ " UNIQUE".toList) = some ("it's 50\\%".toList, " UNIQUE".toList) := by
  have hkeeps : Text.KeepsBackslashes "it's 50\\%".toList := by decide
  obtain ⟨cs, hliteral, hread⟩ := mysqlLiteral_read_iff (s := .varchar "it's 50\\%") rfl
  exact ⟨cs, hliteral, (hread " UNIQUE".toList (by decide)).mpr hkeeps⟩

/-- The literal of a text that ends in a backslash is not closed where the default value of a last column ends. -/
theorem mysqlLiteral_unclosed :
    Dialect.mysql.literal (.varchar "C:\\") = .ok "'C:\\'" ∧ Text.readEscaped "C:\\')".toList = none :=
  ⟨congrArg Except.ok (by decide), by decide⟩

end RecordSql
