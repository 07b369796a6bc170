import RecordSql.Number.Power
import RecordSql.Text.Digits

/-!
# Universally unique identifiers

Numbers of 128 bits, written as 32 hexadecimal digits in five groups with hyphens between them.
-/

namespace RecordSql

/-- An identifier of 128 bits. -/
structure Uuid where
  value : Nat
  lt : value < Number.twoTo 128
  deriving DecidableEq

namespace Uuid

/-- The identifier whose bits are all zero. -/
def isNil (u : Uuid) : Bool :=
  u.value == 0

/-- The identifier with hyphens between its groups of 8, 4, 4, 4 and 12 digits. -/
def text (u : Uuid) : String :=
  let digits := Text.fixedHex 32 u.value
  String.ofList (digits.take 8 ++ '-' :: (digits.drop 8).take 4 ++ '-' :: (digits.drop 12).take 4 ++
    '-' :: (digits.drop 16).take 4 ++ '-' :: digits.drop 20)

/-- The identifier of 32 hexadecimal digits. -/
def ofDigits? (digits : List Char) : Option Uuid := do
  if digits.length ≠ 32 then none
  let value ← Text.hexDigitsValue 0 digits
  if h : value < Number.twoTo 128 then some ⟨value, h⟩ else none

/-- The identifier with hyphens between its groups. -/
def ofGroups? (cs : List Char) : Option Uuid := do
  let hyphens := [8, 13, 18, 23].all fun i => cs[i]? == some '-'
  if cs.length ≠ 36 ∨ !hyphens then none
  ofDigits? (cs.take 8 ++ (cs.drop 9).take 4 ++ (cs.drop 14).take 4 ++ (cs.drop 19).take 4 ++ cs.drop 24)

/-- The text between a pair of braces. -/
def braced? (cs : List Char) : Option (List Char) :=
  if cs.head? = some '\x7b' ∧ cs.getLast? = some '\x7d' then some (cs.drop 1).dropLast else none

/-- The text after the name of the namespace of identifiers, in either case. -/
def named? (cs : List Char) : Option (List Char) :=
  if (cs.take 9).map Char.toLower = "urn:uuid:".toList then some (cs.drop 9) else none

/-- The identifier that a text denotes: digits alone, digits in groups, or groups in braces or after `urn:uuid:`. -/
def read? (text : String) : Option Uuid :=
  let cs := text.toList
  ofDigits? cs <|> ofGroups? cs <|> (braced? cs >>= ofGroups?) <|> (named? cs >>= ofGroups?)

end Uuid

end RecordSql
