/-!
# Parts of a text

A text is cut at every occurrence of a character.
-/

namespace RecordSql.Text

/-- The parts of a text between occurrences of a character. -/
def cutAt (mark : Char) : List Char → List (List Char)
  | [] => [[]]
  | c :: cs =>
    match cutAt mark cs with
    | part :: parts => if c = mark then [] :: part :: parts else (c :: part) :: parts
    | [] => [[c]]

end RecordSql.Text
