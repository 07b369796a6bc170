/-!
# Decoding bytes as text

Bytes are read as UTF-8. Where they are not, the longest run that could have started a character is read as one replacement
character.
-/

namespace RecordSql.Text

/-- What a first byte announces: the bits it holds, and for every byte to follow the range it must be in. -/
def announced? (b : Nat) : Option (Nat × List (Nat × Nat)) :=
  let any := (0x80, 0xbf)
  if b < 0x80 then some (b, [])
  else if 0xc2 ≤ b ∧ b ≤ 0xdf then some (b % 32, [any])
  else if b = 0xe0 then some (b % 16, [(0xa0, 0xbf), any])
  else if b = 0xed then some (b % 16, [(0x80, 0x9f), any])
  else if 0xe1 ≤ b ∧ b ≤ 0xef then some (b % 16, [any, any])
  else if b = 0xf0 then some (b % 8, [(0x90, 0xbf), any, any])
  else if 0xf1 ≤ b ∧ b ≤ 0xf3 then some (b % 8, [any, any, any])
  else if b = 0xf4 then some (b % 8, [(0x80, 0x8f), any, any])
  else none

/-- The bits with those of the bytes that follow in range, how many these are, and whether all were there. -/
def continued (bits : Nat) : List (Nat × Nat) → List UInt8 → Nat × Nat × Bool
  | [], _ => (bits, 0, true)
  | _ :: _, [] => (bits, 0, false)
  | (first, last) :: ranges, b :: bytes =>
    if first ≤ b.toNat ∧ b.toNat ≤ last then
      let (bits, count, complete) := continued (bits * 64 + b.toNat % 64) ranges bytes
      (bits, count + 1, complete)
    else
      (bits, 0, false)

/-- The character that stands for bytes that are no character. -/
def replacement : Char := '\ufffd'

/-- The text that bytes are read as. -/
def decodeUtf8 : List UInt8 → List Char
  | [] => []
  | b :: bytes =>
    match announced? b.toNat with
    | none => replacement :: decodeUtf8 bytes
    | some (bits, ranges) =>
      let (code, count, complete) := continued bits ranges bytes
      (if complete then Char.ofNat code else replacement) :: decodeUtf8 (bytes.drop count)
termination_by bytes => bytes.length
decreasing_by
  all_goals
    simp only [List.length_cons, List.length_drop]
    omega

end RecordSql.Text
