import Mathlib.Logic.Function.Basic
import RecordSql.Dialect.Literal
import RecordSql.Dialect.Name
import RecordSql.Proofs.Text.Reading

/-!
# Quoted texts that read back

A quoted name, and a string literal, is read back as one quoted section before any text that does not go on with its quote
(`quoted_read_back`). Behind it stands the replacement of a character: a text that is cut at every occurrence of the character is put
together again with the replacement in each of these places (`replaceEach_intercalate`), and writing it by slices gives the same text
(`appendReplaced?_eq`).
-/

namespace RecordSql

namespace Text

variable {search : Char} {replacement : String}

/-! ## Replacing a character -/

/-- A character is replaced or stays. -/
theorem replaceEach_singleton (c : Char) :
    replaceEach search replacement (String.singleton c) = if c = search then replacement else String.singleton c := by
  by_cases hc : c = search
  · simp [replaceEach, hc]
  · simp [replaceEach, hc]

/-- A text without the character stays as it is. -/
theorem replaceEach_of_not_mem {text : String} (h : search ∉ text.toList) : replaceEach search replacement text = text := by
  obtain ⟨cs, rfl⟩ : ∃ cs, String.ofList cs = text := ⟨text.toList, String.ofList_toList⟩
  rw [String.toList_ofList] at h
  induction cs with
  | nil => rfl
  | cons c cs ih =>
    rw [List.mem_cons, not_or] at h
    rw [String.ofList_cons, replaceEach_append, replaceEach_singleton, if_neg (Ne.symm h.1), ih h.2]

/-- In a text that is cut at every occurrence of the character, the replacement stands between the parts. -/
theorem replaceEach_intercalate {parts : List String} (h : ∀ part ∈ parts, search ∉ part.toList) :
    replaceEach search replacement ((String.singleton search).intercalate parts) = replacement.intercalate parts := by
  induction parts with
  | nil => rfl
  | cons part parts ih =>
    rw [List.forall_mem_cons] at h
    have hpart : replaceEach search replacement part = part := replaceEach_of_not_mem h.1
    cases parts with
    | nil => rw [String.intercalate_singleton, String.intercalate_singleton, hpart]
    | cons next parts =>
      rw [String.intercalate_cons_cons, String.intercalate_cons_cons, replaceEach_append, replaceEach_append, hpart,
        replaceEach_singleton, if_pos rfl, ih h.2]

/-- Every text is cut by a character into parts without it. -/
theorem exists_parts (search : Char) (text : String) :
    ∃ parts, parts ≠ [] ∧ (String.singleton search).intercalate parts = text ∧ ∀ part ∈ parts, search ∉ part.toList := by
  obtain ⟨cs, rfl⟩ : ∃ cs, String.ofList cs = text := ⟨text.toList, String.ofList_toList⟩
  induction cs with
  | nil => exact ⟨[""], List.cons_ne_nil _ _, by simp, by simp⟩
  | cons c cs ih =>
    obtain ⟨parts, hne, htext, hparts⟩ := ih
    obtain ⟨part, parts, rfl⟩ := List.exists_cons_of_ne_nil hne
    rw [String.ofList_cons, ← htext]
    by_cases hc : c = search
    · refine ⟨"" :: part :: parts, List.cons_ne_nil _ _, ?_, ?_⟩
      · rw [String.intercalate_cons_cons, String.empty_append, hc]
      · simpa using hparts
    · rw [List.forall_mem_cons] at hparts
      refine ⟨(String.singleton c ++ part) :: parts, List.cons_ne_nil _ _, String.intercalate_cons_append, ?_⟩
      rw [List.forall_mem_cons, String.toList_append, String.toList_singleton, List.singleton_append, List.mem_cons, not_or]
      exact ⟨⟨Ne.symm hc, hparts.1⟩, hparts.2⟩

/-! ## Replacing by slices -/

/-- What is left to write of a text of which `done` is written: the stretch up to where the reader stands, and the characters from there
on with the replacement in their place. -/
theorem appendReplacedFrom?_eq (done stretch out : String) (cs : List Char) :
    appendReplacedFrom? search replacement (done ++ stretch ++ String.ofList cs) out done.utf8ByteSize
        (positioned (done ++ stretch).utf8ByteSize cs) =
      some (out ++ stretch ++ replaceEach search replacement (String.ofList cs)) := by
  induction cs generalizing done stretch out with
  | nil =>
    have hnothing : replaceEach search replacement "" = "" := replaceEach_of_not_mem (by simp)
    rw [positioned, appendReplacedFrom?, String.ofList_nil, String.append_empty, slice?_end, hnothing, String.append_empty]
    rfl
  | cons c cs ih =>
    rw [String.ofList_cons, positioned, appendReplacedFrom?, ← utf8ByteSize_append_singleton, replaceEach_append, replaceEach_singleton]
    by_cases hc : c = search
    · -- the stretch before an occurrence is copied, and the next one starts behind the occurrence
      have hrest := ih (done ++ stretch ++ String.singleton c) "" (out ++ stretch ++ replacement)
      rw [String.append_empty, String.append_empty] at hrest
      rw [if_pos (beq_iff_eq.mpr hc), if_pos hc, slice?_append, Option.bind_eq_bind, Option.bind_some]
      simp only [String.append_assoc] at hrest ⊢
      exact hrest
    · have hrest := ih done (stretch ++ String.singleton c) out
      rw [if_neg (by simpa using hc), if_neg hc]
      simp only [String.append_assoc] at hrest ⊢
      exact hrest

/-- Writing by slices never cuts a character, and what it writes is the text with the character replaced. -/
theorem appendReplaced?_eq (search : Char) (replacement text out : String) :
    appendReplaced? search replacement text out = some (out ++ replaceEach search replacement text) := by
  have h := @appendReplacedFrom?_eq search replacement "" "" out text.toList
  rw [String.append_empty, String.empty_append, String.append_empty, String.ofList_toList] at h
  exact h

/-- An enclosed text is what stands when a quote, the text with its quotes doubled and a quote are written one after the other. -/
theorem appendReplaced?_enclosed (quote : Char) (text : String) :
    (appendReplaced? quote (String.ofList [quote, quote]) text (String.singleton quote)).map (· ++ String.singleton quote) =
      some (enclosed quote text) := by
  rw [appendReplaced?_eq]
  rfl

/-- Texts that are enclosed alike are equal. -/
theorem enclosed_injective (quote : Char) : Function.Injective (enclosed quote) := by
  intro s t h
  have hend : ([] : List Char).head? ≠ some quote := Option.some_ne_none quote ∘ Eq.symm
  have hs := readName?_enclosed quote s hend
  rw [h, readName?_enclosed quote t hend, Option.some.injEq, Prod.mk.injEq] at hs
  exact hs.1.symm

end Text

/-- Names stand between double quotes, or grave accents in MySQL, and texts between apostrophes. Before any text that does not go on with
the quote, a quoted name or a string literal is read back as one quoted section, up to the text after it; so different names, and
different texts, are quoted differently. The quotes inside are replaced while the text is written: for any character and any replacement,
no slice cuts a character, and what is written are the parts between the occurrences of the character with the replacement between
them. -/
theorem quoted_read_back (d : Dialect) :
    (d.nameQuote = if d = .mysql then Text.graveAccent else Text.quotationMark) ∧
      (∀ (name : String) (rest : List Char), rest.head? ≠ some d.nameQuote →
        Text.readName? d.nameQuote ((d.quoteName name).toList ++ rest) = some (name, rest)) ∧
      (∀ (text : String) (rest : List Char), rest.head? ≠ some Text.apostrophe →
        ∃ literal, d.literal (.of (.varchar text)) = .ok literal ∧
          Text.readName? Text.apostrophe (literal.toList ++ rest) = some (text, rest)) ∧
      Function.Injective d.quoteName ∧ Function.Injective (fun text => d.literal (.of (.varchar text))) ∧
      (∀ name, (Text.appendReplaced? d.nameQuote (String.ofList [d.nameQuote, d.nameQuote]) name (String.singleton d.nameQuote)).map
        (· ++ String.singleton d.nameQuote) = some (d.quoteName name)) ∧
      ∀ (search : Char) (replacement text out : String), ∃ parts : List String,
        (String.singleton search).intercalate parts = text ∧ parts ≠ [] ∧ (∀ part ∈ parts, search ∉ part.toList) ∧
          Text.appendReplaced? search replacement text out = some (out ++ replacement.intercalate parts) := by
  refine ⟨by cases d <;> rfl, fun name rest h => Text.readName?_enclosed _ name h,
    fun text rest h => ⟨_, rfl, Text.readName?_enclosed _ text h⟩, Text.enclosed_injective _, ?_,
    Text.appendReplaced?_enclosed d.nameQuote, ?_⟩
  · intro s t h
    exact Text.enclosed_injective _ (Except.ok.inj h)
  · intro search replacement text out
    obtain ⟨parts, hne, htext, hparts⟩ := Text.exists_parts search text
    refine ⟨parts, htext, hne, hparts, ?_⟩
    rw [Text.appendReplaced?_eq, ← htext, Text.replaceEach_intercalate hparts]

/-- A name with accents at its end is read back before the words of a clause, and a text with apostrophes on both sides before the words
that follow a default value. -/
theorem quoted_read_back_ends :
    Text.readName? Text.graveAccent ((Dialect.mysql.quoteName "größe\x60\x60").toList ++ " ASC".toList) =
        some ("größe\x60\x60", " ASC".toList) ∧
      ∃ literal, Dialect.mysql.literal (.of (.varchar "'it''s'")) = .ok literal ∧
        Text.readName? Text.apostrophe (literal.toList ++ " UNIQUE".toList) = some ("'it''s'", " UNIQUE".toList) := by
  obtain ⟨-, hname, htext, -⟩ := quoted_read_back .mysql
  exact ⟨hname _ " ASC".toList (by decide), htext _ " UNIQUE".toList (by decide)⟩

end RecordSql
