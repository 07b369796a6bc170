import RecordSql.Number.Shortest
import RecordSql.Value.Basic

/-!
# Values as the statement log shows them

The arguments of a statement are logged as a JSON array. Numbers and truth values stand as they are, everything else as a string;
NULL, and a binary number that JSON cannot write, is `null`.
-/

namespace RecordSql

/-- A character inside a JSON string. -/
def Text.jsonChar (c : Char) : String :=
  if c = '\x22' ∨ c = '\\' then "\\" ++ String.singleton c
  else if c = '\n' then "\\n"
  else if c = '\r' then "\\r"
  else if c = '\t' then "\\t"
  else if c = '\x08' then "\\b"
  else if c = '\x0c' then "\\f"
  else if c.toNat < 32 then "\\u" ++ String.ofList (Text.fixedHex 4 c.toNat)
  else String.singleton c

/-- A JSON string. -/
def Text.jsonString (text : String) : String :=
  "\"" ++ String.join (text.toList.map Text.jsonChar) ++ "\""

/-- Binary numbers in JSON: positional from a hundred-thousandth up to, and without, ten to the sixteenth. -/
def Number.jsonLayout : Number.Layout :=
  { low := -5, high := 16, plus := true, tiesUp := false }

/-- A binary number in JSON. Single precision is written as the double of the same value. -/
def Number.Binary.json {p : Number.Precision} (x : Number.Binary p) : String :=
  match (x.convert .double).read with
  | .finite negative m e => Number.jsonLayout.text .double negative m e
  | _ => "null"

/-- A scalar in JSON. -/
def Scalar.json : Scalar → String
  | boolean b => if b then "true" else "false"
  | integer _ n _ => toString n
  | binary _ x => x.json
  | decimal d _ _ => Text.jsonString d.text
  | char c => Text.jsonString (String.singleton c)
  | varchar text => Text.jsonString text
  | blob bytes => Text.jsonString (Text.hexOfBytes Text.hexDigit bytes)
  | date d => Text.jsonString d.text
  | time t => Text.jsonString t.text
  | timestamp t => Text.jsonString t.text
  | offsetTimestamp t => Text.jsonString t.text
  | uuid u => Text.jsonString u.text

/-- A value in JSON. -/
def Value.json : Value → String
  | null _ => "null"
  | of s => s.json

/-- A list of values as a JSON array. -/
def Value.jsonArray (vs : List Value) : String :=
  "[" ++ ",".intercalate (vs.map Value.json) ++ "]"

end RecordSql
