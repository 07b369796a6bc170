/-!
# Separated lists

The parts of a list are written one after the other. A separator stands before a part exactly when the part before it is not
empty; for parts that all hold text this is the usual joining with a separator. Where they are written at the end of a text
(`appendSeparated`), the length of the text tells whether the part before has left something.
-/

namespace RecordSql.Text

/-- The parts in order, with the separator after every non-empty part but the last part. -/
def separated (separator : String) : List String → String
  | [] => ""
  | [part] => part
  | part :: next :: rest =>
    part ++ (if part.isEmpty then "" else separator) ++ separated separator (next :: rest)

/-- Writes one more part at the end of a text, which comes with its length before the part before. The separator goes in front of the
part if the text has grown since. -/
def appendPart (separator : String) : String × Nat → String → String × Nat
  | (text, length), part =>
    let text := if length < text.utf8ByteSize then text ++ separator else text
    (text ++ part, text.utf8ByteSize)

/-- Writes the parts at the end of a text. -/
def appendSeparated (separator : String) (parts : List String) (text : String) : String :=
  (parts.foldl (appendPart separator) (text, text.utf8ByteSize)).1

end RecordSql.Text
