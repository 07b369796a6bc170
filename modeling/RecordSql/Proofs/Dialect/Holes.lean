import Mathlib.Data.List.Basic
import RecordSql.Dialect.Change
import RecordSql.Proofs.Text.Joined

/-!
# The places of placeholders

`holes` are the positions of the question marks of a text before which every quoted section is closed, and `filled f` is the text with `f k`
in the place of the `k`-th of them and every other character as it is. Both are said position by position. The scanners that go through
a text agree with them: they report the positions of the holes (`placeholders_eq`), count them (`length_holes`) and number them
(`numbered_eq_filled`), and numbering by slices writes the same (`numbered?_eq`). So a statement is sent to Postgres with its holes filled by
their numbers (`finish_fills_holes`).
-/

namespace RecordSql.Text

/-! ## Holes -/

/-- The positions of the question marks at which a scanner that starts in section `s` stands outside of every section. -/
def holesFrom (s : Section) (cs : List Char) : List Nat :=
  (List.range cs.length).filter fun i => cs[i]? == some '?' && (s.after (cs.take i)).isNone

/-- The positions of the question marks outside of quoted sections. -/
def holes (text : String) : List Nat :=
  holesFrom none text.toList

/-- The first character is a hole or not, and the holes behind it are those of the rest. -/
theorem holesFrom_cons (s : Section) (c : Char) (cs : List Char) :
    holesFrom s (c :: cs) = (if isPlaceholder s c then [0] else []) ++ (holesFrom (s.step c) cs).map (· + 1) := by
  have hlater : ((List.range cs.length).map (· + 1)).filter
      (fun i => (c :: cs)[i]? == some '?' && (s.after ((c :: cs).take i)).isNone) =
      (holesFrom (s.step c) cs).map (· + 1) := by
    rw [List.filter_map, holesFrom]
    rfl
  have hfirst : ((c :: cs)[0]? == some '?' && (s.after ((c :: cs).take 0)).isNone) = isPlaceholder s c := by
    rw [isPlaceholder, Bool.and_comm]
    rfl
  rw [holesFrom, List.length_cons, List.range_succ_eq_map, List.filter_cons, hlater, hfirst]
  split <;> rfl

/-- There are as many holes as placeholders are counted. -/
theorem length_holesFrom (s : Section) (cs : List Char) : (holesFrom s cs).length = countFrom s cs := by
  induction cs generalizing s with
  | nil => rfl
  | cons c cs ih =>
    rw [holesFrom_cons, countFrom, List.length_append, List.length_map, ih]
    split <;> rfl

theorem length_holes (text : String) : (holes text).length = placeholderCount text :=
  length_holesFrom none text.toList

/-- The positions that are reported, in bytes, are those of the holes. -/
theorem placeholdersFrom_eq (s : Section) (position : Nat) (cs : List Char) :
    placeholdersFrom s position cs = (holesFrom s cs).map fun i => position + byteCount (cs.take i) := by
  induction cs generalizing s position with
  | nil => rfl
  | cons c cs ih =>
    have hlater : (holesFrom (s.step c) cs).map ((fun i => position + byteCount ((c :: cs).take i)) ∘ (· + 1)) =
        placeholdersFrom (s.step c) (position + c.utf8Size) cs := by
      rw [ih]
      refine List.map_congr_left fun i _ => ?_
      simp [byteCount, Nat.add_assoc]
    rw [holesFrom_cons, List.map_append, List.map_map, hlater, placeholdersFrom]
    by_cases hc : isPlaceholder s c = true
    · simp [hc, byteCount]
    · simp [hc]

theorem placeholders_eq (text : String) :
    placeholders text = (holes text).map fun i => byteCount (text.toList.take i) := by
  rw [placeholders, placeholdersFrom_eq, holes]
  simp only [Nat.zero_add]

/-! ## Filling holes -/

/-- The characters with `f k` in the place of the `k`-th hole, for a scanner that starts in section `s`. -/
def filledFrom (s : Section) (f : Nat → List Char) (cs : List Char) : List Char :=
  (cs.mapIdx fun i c => ((holesFrom s cs).idxOf? i).elim [c] f).flatten

/-- The text with `f k` in the place of the `k`-th hole, where the first one has the number zero. -/
def filled (f : Nat → String) (text : String) : String :=
  String.ofList (filledFrom none (fun k => (f k).toList) text.toList)

/-- Positions that are all moved by one are found in the same order. -/
theorem idxOf?_map_succ (is : List Nat) (i : Nat) : (is.map (· + 1)).idxOf? (i + 1) = is.idxOf? i := by
  induction is with
  | nil => rfl
  | cons j is ih => simp [List.idxOf?_cons, ih]

/-- A hole at the start is filled, and the next hole behind it takes the next place. -/
theorem filledFrom_of_isPlaceholder {s : Section} {c : Char} (h : isPlaceholder s c = true) (f : Nat → List Char)
    (cs : List Char) : filledFrom s f (c :: cs) = f 0 ++ filledFrom (s.step c) (fun k => f (k + 1)) cs := by
  have hholes : holesFrom s (c :: cs) = 0 :: (holesFrom (s.step c) cs).map (· + 1) := by
    rw [holesFrom_cons, if_pos h]
    rfl
  have hzero : (holesFrom s (c :: cs)).idxOf? 0 = some 0 := by
    rw [hholes]
    rfl
  have hlater : ∀ i d, ((holesFrom s (c :: cs)).idxOf? (i + 1)).elim [d] f =
      ((holesFrom (s.step c) cs).idxOf? i).elim [d] fun k => f (k + 1) := by
    intro i d
    have hplace : (holesFrom s (c :: cs)).idxOf? (i + 1) = ((holesFrom (s.step c) cs).idxOf? i).map (· + 1) := by
      rw [hholes, List.idxOf?_cons, idxOf?_map_succ]
      rfl
    rw [hplace]
    cases (holesFrom (s.step c) cs).idxOf? i <;> rfl
  rw [filledFrom, List.mapIdx_cons, List.flatten_cons, hzero, filledFrom]
  simp only [hlater]
  rfl

/-- Any other character at the start stays. -/
theorem filledFrom_of_not_isPlaceholder {s : Section} {c : Char} (h : isPlaceholder s c = false) (f : Nat → List Char)
    (cs : List Char) : filledFrom s f (c :: cs) = c :: filledFrom (s.step c) f cs := by
  have hholes : holesFrom s (c :: cs) = (holesFrom (s.step c) cs).map (· + 1) := by
    rw [holesFrom_cons, h]
    rfl
  have hzero : ((holesFrom (s.step c) cs).map (· + 1)).idxOf? 0 = none := by
    simp
  rw [filledFrom, List.mapIdx_cons, List.flatten_cons, filledFrom, hholes, hzero]
  simp only [idxOf?_map_succ]
  rfl

/-- Numbering fills the holes with the numbers from `n` on. -/
theorem numberFrom_eq_filledFrom (s : Section) (n : Nat) (cs : List Char) :
    numberFrom s n cs = filledFrom s (fun k => '$' :: (toString (n + k)).toList) cs := by
  induction cs generalizing s n with
  | nil => rfl
  | cons c cs ih =>
    by_cases hc : isPlaceholder s c = true
    · have hnext : (fun k => '$' :: (toString (n + (k + 1))).toList) = fun k => '$' :: (toString (n + 1 + k)).toList := by
        funext k
        rw [Nat.add_assoc, Nat.add_comm 1 k]
      rw [numberFrom, if_pos hc, filledFrom_of_isPlaceholder hc, hnext, ih]
      rfl
    · rw [Bool.not_eq_true] at hc
      rw [numberFrom, if_neg (by simp [hc]), filledFrom_of_not_isPlaceholder hc, ih]

/-- The placeholder with a number. -/
def dollar (n : Nat) : String :=
  "$" ++ toString n

theorem toList_dollar (n : Nat) : (dollar n).toList = '$' :: (toString n).toList := by
  rw [dollar, String.toList_append]
  rfl

theorem ofList_numberFrom (n : Nat) (text : String) :
    String.ofList (numberFrom none n text.toList) = filled (fun k => dollar (n + k)) text := by
  rw [filled, numberFrom_eq_filledFrom]
  simp only [toList_dollar]

/-- Numbering fills the holes with the numbers from one on. -/
theorem numbered_eq_filled (text : String) : numbered text = filled (fun k => dollar (k + 1)) text := by
  simp only [Nat.add_comm _ 1]
  exact ofList_numberFrom 1 text

/-! ## Numbering by slices -/

/-- What is left to write of a text of which `done` is written: the stretch up to where the scanner stands, and the characters from there
on with their placeholders numbered. -/
theorem appendNumberedFrom?_eq (s : Section) (done stretch out : String) (n : Nat) (cs : List Char) :
    appendNumberedFrom? (done ++ stretch ++ String.ofList cs) out done.utf8ByteSize n
        (placeholdersFrom s (done ++ stretch).utf8ByteSize cs) =
      some (out ++ stretch ++ String.ofList (numberFrom s n cs)) := by
  induction cs generalizing s done stretch out n with
  | nil =>
    rw [placeholdersFrom, appendNumberedFrom?, numberFrom, String.ofList_nil, String.append_empty, slice?_end, String.append_empty]
    rfl
  | cons c cs ih =>
    rw [String.ofList_cons, placeholdersFrom, numberFrom, ← utf8ByteSize_append_singleton]
    by_cases hc : isPlaceholder s c = true
    · -- the stretch before a placeholder is copied, and the next one starts behind the placeholder
      have hmark : c = '?' := (isPlaceholder_iff.mp hc).2
      have hnext : (done ++ stretch).utf8ByteSize + 1 = (done ++ stretch ++ String.singleton c).utf8ByteSize := by
        rw [utf8ByteSize_append_singleton, hmark]
        rfl
      have hnumber : String.ofList ('$' :: (toString n).toList ++ numberFrom (s.step c) (n + 1) cs) =
          "$" ++ toString n ++ String.ofList (numberFrom (s.step c) (n + 1) cs) := by
        rw [String.ofList_append, ← toList_dollar, String.ofList_toList, dollar]
      have hrest := ih (s.step c) (done ++ stretch ++ String.singleton c) "" (out ++ stretch ++ "$" ++ toString n) (n + 1)
      rw [String.append_empty, String.append_empty] at hrest
      rw [if_pos hc, if_pos hc, appendNumberedFrom?, slice?_append, hnumber, hnext, Option.bind_eq_bind, Option.bind_some]
      simp only [String.append_assoc] at hrest ⊢
      exact hrest
    · have hrest := ih (s.step c) done (stretch ++ String.singleton c) out n
      rw [if_neg hc, if_neg hc, String.ofList_cons]
      simp only [String.append_assoc] at hrest ⊢
      exact hrest

/-- Numbering by slices never cuts a character, and gives the numbered text. -/
theorem numbered?_eq (text : String) : numbered? text = some (numbered text) := by
  have h := appendNumberedFrom?_eq none "" "" "" 1 text.toList
  rw [String.append_empty, String.empty_append, String.empty_append, String.ofList_toList] at h
  exact h

/-! ## Numbering twice, and part by part -/

/-- A numbered text has no hole. -/
theorem holes_numbered (text : String) : holes (numbered text) = [] := by
  rw [← List.length_eq_zero_iff, length_holes, placeholderCount, numbered, String.toList_ofList]
  exact (scan_numberFrom none 1 text.toList).2

/-- A numbered text is numbered as it is. -/
theorem numbered_numbered (text : String) : numbered (numbered text) = numbered text := by
  have hcount : countFrom none (numbered text).toList = 0 := by
    rw [numbered, String.toList_ofList]
    exact (scan_numberFrom none 1 text.toList).2
  rw [numbered, numberFrom_of_countFrom hcount, String.ofList_toList]

/-- Behind a text that ends outside of quoted sections numbering goes on with the next number. -/
theorem numbered_append {text : String} (h : Section.after none text.toList = none) (more : String) :
    numbered (text ++ more) = numbered text ++ filled (fun k => dollar (placeholderCount text + 1 + k)) more := by
  rw [← ofList_numberFrom, numbered, String.toList_append, numberFrom_append, h, String.ofList_append, numbered, placeholderCount,
    Nat.add_comm 1]

/-- What stands in quotes stays, whatever follows. -/
theorem numbered_enclosed {text : String} (h : Section.after none text.toList = none) {quote : Char} (hq : isQuote quote = true)
    (content more : String) : numbered (text ++ enclosed quote content ++ more) =
      numbered text ++ enclosed quote content ++ filled (fun k => dollar (placeholderCount text + 1 + k)) more := by
  have hquoted := scans_enclosed hq content
  have hcount : placeholderCount (text ++ enclosed quote content) = placeholderCount text := by
    have henclosed : countFrom none (enclosed quote content).toList = 0 := hquoted.count
    rw [placeholderCount, String.toList_append, countFrom_append, h, henclosed]
    rfl
  have hclosed : Section.after none (text ++ enclosed quote content).toList = none := by
    rw [String.toList_append, Section.after_append, h, hquoted.closed]
  have hkept : filled (fun k => dollar (placeholderCount text + 1 + k)) (enclosed quote content) = enclosed quote content := by
    rw [← ofList_numberFrom, numberFrom_of_countFrom hquoted.count, String.ofList_toList]
  rw [numbered_append hclosed, numbered_append h, hkept, hcount]

end RecordSql.Text

namespace RecordSql.Dialect

/-- A statement is sent to Postgres with its arguments and with the `k`-th question mark outside of quoted sections replaced by `$k`; every
other character stays. These are the positions that the scanner reports. No question mark is left outside of quoted sections, so what is
sent is not changed by a second pass. What is sent is written by slices of the statement, none of which cuts a character. Behind a statement
that ends outside of quoted sections another one is numbered from the next number on, and a quoted section between the two stays as it is. -/
theorem finish_fills_holes (s : Statement) :
    (postgres.finish s).args = s.args ∧
    (postgres.finish s).sql = Text.filled (fun k => Text.dollar (k + 1)) s.sql ∧
    Text.placeholders s.sql = (Text.holes s.sql).map (fun i => Text.byteCount (s.sql.toList.take i)) ∧
    Text.holes (postgres.finish s).sql = [] ∧
    postgres.finish (postgres.finish s) = postgres.finish s ∧
    postgres.finish? s = some (postgres.finish s) ∧
    (Text.Section.after none s.sql.toList = none →
      (∀ t : Statement, postgres.finish (s ++ t) =
        postgres.finish s ++ ⟨Text.filled (fun k => Text.dollar (s.placeholderCount + 1 + k)) t.sql, t.args⟩) ∧
      ∀ quote content (t : Statement), Text.isQuote quote = true →
        postgres.finish (s ++ .ofText (Text.enclosed quote content) ++ t) =
          postgres.finish s ++ .ofText (Text.enclosed quote content) ++
            ⟨Text.filled (fun k => Text.dollar (s.placeholderCount + 1 + k)) t.sql, t.args⟩) := by
  refine ⟨rfl, Text.numbered_eq_filled s.sql, Text.placeholders_eq s.sql, Text.holes_numbered s.sql, ?_, ?_,
    fun hclosed => ⟨?_, ?_⟩⟩
  · exact congrArg (fun sql => Statement.mk sql s.args) (Text.numbered_numbered s.sql)
  · exact congrArg (Option.map fun sql => Statement.mk sql s.args) (Text.numbered?_eq s.sql)
  · intro t
    exact congrArg (fun sql => Statement.mk sql (s.args ++ t.args)) (Text.numbered_append hclosed t.sql)
  · intro quote content t hquote
    exact congrArg (fun sql => Statement.mk sql (s.args ++ [] ++ t.args)) (Text.numbered_enclosed hclosed hquote content t.sql)

/-- Two placeholders side by side behind a question mark in a name, one kind of quote inside another, and a literal that is not closed. -/
theorem finish_fills_holes_quoted :
    ∃ s t : Statement, s = ⟨"SELECT \"a\"\"?'é\"=??", [.varchar "x", .varchar "y"]⟩ ∧ t = ⟨"? AND 'b?", [.varchar "z"]⟩ ∧
      Text.Section.after none s.sql.toList = none ∧ Text.Section.after none (s ++ t).sql.toList ≠ none ∧
      postgres.finish (s ++ .ofText (Text.enclosed Text.graveAccent "?'") ++ t) =
        ⟨"SELECT \"a\"\"?'é\"=$1$2`?'`$3 AND 'b?", [.varchar "x", .varchar "y", .varchar "z"]⟩ := by
  let s : Statement := ⟨"SELECT \"a\"\"?'é\"=??", [.varchar "x", .varchar "y"]⟩
  let t : Statement := ⟨"? AND 'b?", [.varchar "z"]⟩
  have hclosed : Text.Section.after none s.sql.toList = none := by decide
  obtain ⟨-, -, -, -, -, -, hparts⟩ := finish_fills_holes s
  obtain ⟨-, hquoted⟩ := hparts hclosed
  refine ⟨s, t, rfl, rfl, hclosed, by decide, ?_⟩
  rw [hquoted Text.graveAccent "?'" t (by decide)]
  decide +kernel

end RecordSql.Dialect
