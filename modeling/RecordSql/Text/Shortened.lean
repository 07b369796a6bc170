import RecordSql.Text.Blank
import RecordSql.Text.Slice

/-!
# Shortened text

Statements are shortened for the log: at most 497 bytes of whole characters are kept, white space at the end of what is kept is
dropped, and three dots say that something is missing. The text to keep is a slice, whose end is searched from the limit downwards
(`shortened?`).
-/

namespace RecordSql.Text

/-- The number of bytes of a run of characters. -/
def byteCount : List Char → Nat
  | [] => 0
  | c :: cs => c.utf8Size + byteCount cs

theorem byteCount_append (cs ds : List Char) : byteCount (cs ++ ds) = byteCount cs + byteCount ds := by
  induction cs with
  | nil => exact (Nat.zero_add _).symm
  | cons c cs ih => simp only [List.cons_append, byteCount, ih, Nat.add_assoc]

/-- The longest run of whole characters at the start that takes at most `limit` bytes. -/
def wholeChars (limit : Nat) : List Char → List Char
  | [] => []
  | c :: cs => if c.utf8Size ≤ limit then c :: wholeChars (limit - c.utf8Size) cs else []

/-- What is kept is the start of the text. -/
theorem wholeChars_append_drop (limit : Nat) (cs : List Char) :
    wholeChars limit cs ++ cs.drop (wholeChars limit cs).length = cs := by
  induction cs generalizing limit with
  | nil => rfl
  | cons c cs ih =>
    simp only [wholeChars]
    split
    · simp only [List.length_cons, List.drop_succ_cons, List.cons_append, ih]
    · rfl

/-- What is kept takes no more bytes than allowed. -/
theorem byteCount_wholeChars_le (limit : Nat) (cs : List Char) : byteCount (wholeChars limit cs) ≤ limit := by
  induction cs generalizing limit with
  | nil => exact Nat.zero_le _
  | cons c cs ih =>
    simp only [wholeChars]
    split
    · have := ih (limit - c.utf8Size)
      simp only [byteCount]
      omega
    · exact Nat.zero_le _

/-- The first boundary from `index` downwards. -/
def boundaryDown (text : String) : Nat → Nat
  | 0 => 0
  | index + 1 => if IsBoundary text (index + 1) then index + 1 else boundaryDown text index

/-- The boundary at which a text is cut to have no more than `index` bytes. -/
def floorBoundary (text : String) (index : Nat) : Nat :=
  if text.utf8ByteSize ≤ index then text.utf8ByteSize else boundaryDown text index

/-- The number of bytes of a statement that the log keeps. -/
def logLimit : Nat := 497

/-- A statement as the log shows it. -/
def shortened (text : String) : String :=
  let kept := String.ofList (trimEnd (wholeChars logLimit text.toList))
  if byteCount text.toList > logLimit then kept ++ "..." else kept

/-- A statement cut at a byte position for the log. Nothing comes of it where the cut is inside a character. -/
def shortened? (text : String) : Option String := do
  let kept ← slice? text 0 (floorBoundary text logLimit)
  some (String.ofList (trimEnd kept.toList) ++ if text.utf8ByteSize > logLimit then "..." else "")

end RecordSql.Text
