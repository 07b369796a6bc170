import RecordSql.Text.Slice

/-!
# Quoted text

Names and string literals are written between two quote characters, with every quote character inside doubled. A text with a character
replaced is written at the end of another one by copying the stretches between the occurrences (`appendReplaced?`).
-/

namespace RecordSql.Text

/-- The text with every occurrence of `search` replaced; the replacement itself is not searched again. -/
def replaceEach (search : Char) (replacement text : String) : String :=
  String.ofList (text.toList.flatMap fun c => if c == search then replacement.toList else [c])

/-- Text is replaced on both sides of a seam alike. -/
theorem replaceEach_append (search : Char) (replacement s t : String) :
    replaceEach search replacement (s ++ t) = replaceEach search replacement s ++ replaceEach search replacement t := by
  simp only [replaceEach, String.toList_append, List.flatMap_append, String.ofList_append]

/-- The characters of a run with their byte positions, when the first one stands at `position`. -/
def positioned (position : Nat) : List Char → List (Nat × Char)
  | [] => []
  | c :: cs => (position, c) :: positioned (position + c.utf8Size) cs

/-- Goes over the characters of `text` with what is written so far, which holds all that stands before the byte `copied`. At an
occurrence the stretch up to it is copied, and the replacement follows. -/
def appendReplacedFrom? (search : Char) (replacement text : String) : String → Nat → List (Nat × Char) → Option String
  | out, copied, [] => do
    let stretch ← slice? text copied text.utf8ByteSize
    some (out ++ stretch)
  | out, copied, (position, c) :: rest =>
    if c == search then do
      let stretch ← slice? text copied position
      appendReplacedFrom? search replacement text (out ++ stretch ++ replacement) (position + c.utf8Size) rest
    else
      appendReplacedFrom? search replacement text out copied rest

/-- Writes `text` at the end of `out`, with every occurrence of `search` replaced. Nothing comes of it where a stretch would start or
end inside a character. -/
def appendReplaced? (search : Char) (replacement text out : String) : Option String :=
  appendReplacedFrom? search replacement text out 0 (positioned 0 text.toList)

/-- The text between two quote characters, with the quote characters inside it doubled. -/
def enclosed (quote : Char) (text : String) : String :=
  String.singleton quote ++ replaceEach quote (String.ofList [quote, quote]) text ++ String.singleton quote

end RecordSql.Text
