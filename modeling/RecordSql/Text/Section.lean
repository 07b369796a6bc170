import RecordSql.Text.Slice

/-!
# Quoted sections and placeholders

A statement is read left to right by a scanner that knows only whether it stands inside a quoted section. A section opens with
an apostrophe, a double quote or a grave accent and closes with the next occurrence of the same character, so a doubled quote
closes a section and opens it again at once. A question mark outside every section is a placeholder for one argument. Placeholders are
numbered character by character (`numbered`) or by copying slices of the statement (`numbered?`).
-/

namespace RecordSql.Text

/-- The apostrophe, which encloses string literals. -/
def apostrophe : Char := '\x27'

/-- The double quote, which encloses names in most dialects. -/
def quotationMark : Char := '\x22'

/-- The grave accent, which encloses names in MySQL. -/
def graveAccent : Char := '\x60'

/-- The characters that open a quoted section. -/
def isQuote (c : Char) : Bool :=
  c == apostrophe || c == quotationMark || c == graveAccent

/-- What the scanner knows: the character that closes the section it stands in, if it stands in one. -/
abbrev Section := Option Char

/-- The section the scanner stands in after one more character. -/
def Section.step : Section → Char → Section
  | some q, c => if c == q then none else some q
  | none, c => if isQuote c then some c else none

/-- The section the scanner stands in after a run of characters. -/
def Section.after (s : Section) (cs : List Char) : Section :=
  cs.foldl Section.step s

/-- A character is a placeholder when it is a question mark outside every section. -/
def isPlaceholder (s : Section) (c : Char) : Bool :=
  s.isNone && c == '?'

/-- The byte positions of the placeholders, for a scanner in section `s` at byte `position`. -/
def placeholdersFrom (s : Section) (position : Nat) : List Char → List Nat
  | [] => []
  | c :: cs =>
    let rest := placeholdersFrom (s.step c) (position + c.utf8Size) cs
    if isPlaceholder s c then position :: rest else rest

/-- The byte positions of the placeholders of a statement, in order. -/
def placeholders (text : String) : List Nat :=
  placeholdersFrom none 0 text.toList

/-- The number of placeholders that follow a scanner in section `s`. -/
def countFrom (s : Section) : List Char → Nat
  | [] => 0
  | c :: cs => (if isPlaceholder s c then 1 else 0) + countFrom (s.step c) cs

/-- The number of placeholders of a statement. -/
def placeholderCount (text : String) : Nat :=
  countFrom none text.toList

/-- The text after a scanner in section `s` with its placeholders numbered from `n`, each written as a dollar sign and its number. -/
def numberFrom (s : Section) (n : Nat) : List Char → List Char
  | [] => []
  | c :: cs =>
    if isPlaceholder s c then
      '$' :: (toString n).toList ++ numberFrom (s.step c) (n + 1) cs
    else
      c :: numberFrom (s.step c) n cs

/-- A scanner passes over two runs of characters one after the other. -/
theorem Section.after_append (s : Section) (cs ds : List Char) : s.after (cs ++ ds) = (s.after cs).after ds :=
  List.foldl_append

/-- The placeholders of two runs of characters add up. -/
theorem countFrom_append (s : Section) (cs ds : List Char) :
    countFrom s (cs ++ ds) = countFrom s cs + countFrom (s.after cs) ds := by
  induction cs generalizing s with
  | nil => exact (Nat.zero_add _).symm
  | cons c cs ih =>
    simp only [List.cons_append, countFrom, ih, Nat.add_assoc]
    rfl

/-- Numbering goes on in a second run of characters where it ended in the first. -/
theorem numberFrom_append (s : Section) (n : Nat) (cs ds : List Char) :
    numberFrom s n (cs ++ ds) = numberFrom s n cs ++ numberFrom (s.after cs) (n + countFrom s cs) ds := by
  induction cs generalizing s n with
  | nil => rfl
  | cons c cs ih =>
    have hs : s.after (c :: cs) = (s.step c).after cs := rfl
    simp only [List.cons_append, numberFrom, countFrom, hs]
    split
    · rw [ih, Nat.add_assoc, List.cons_append, List.append_assoc]
    · rw [ih, Nat.zero_add, List.cons_append]

/-- A statement with its placeholders numbered from one. -/
def numbered (text : String) : String :=
  String.ofList (numberFrom none 1 text.toList)

/-- Goes over the byte positions of placeholders, the first of which has the number `n`, with what is written so far, which holds all that
stands before the byte `copied`. The stretch up to a placeholder is copied, and its number follows. -/
def appendNumberedFrom? (text : String) : String → Nat → Nat → List Nat → Option String
  | out, copied, _, [] => do
    let stretch ← slice? text copied text.utf8ByteSize
    some (out ++ stretch)
  | out, copied, n, position :: rest => do
    let stretch ← slice? text copied position
    appendNumberedFrom? text (out ++ stretch ++ "$" ++ toString n) (position + 1) (n + 1) rest

/-- A statement with its placeholders numbered from one, written by slices. Nothing comes of it where a stretch would start or end inside
a character. -/
def numbered? (text : String) : Option String :=
  appendNumberedFrom? text "" 0 1 (placeholders text)

end RecordSql.Text
