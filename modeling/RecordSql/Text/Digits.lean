/-!
# Digits

Numbers of a fixed width, in decimal and in hexadecimal notation, and the readers for them.
-/

namespace RecordSql.Text

/-- The digit of a number below 16, in lower case. -/
def hexDigit (n : Nat) : Char :=
  if n < 10 then Char.ofNat (48 + n) else Char.ofNat (87 + n)

/-- The digit of a number below 16, in upper case. -/
def hexDigitUpper (n : Nat) : Char :=
  if n < 10 then Char.ofNat (48 + n) else Char.ofNat (55 + n)

/-- The value of a hexadecimal digit of either case. -/
def hexValue? (c : Char) : Option Nat :=
  if '0' ≤ c ∧ c ≤ '9' then some (c.toNat - 48)
  else if 'a' ≤ c ∧ c ≤ 'f' then some (c.toNat - 87)
  else if 'A' ≤ c ∧ c ≤ 'F' then some (c.toNat - 55)
  else none

/-- The value of a decimal digit. -/
def digitValue? (c : Char) : Option Nat :=
  if '0' ≤ c ∧ c ≤ '9' then some (c.toNat - 48) else none

/-- The last `width` decimal digits of a number, zeros in front included. -/
def fixedDigits : Nat → Nat → List Char
  | 0, _ => []
  | width + 1, n => fixedDigits width (n / 10) ++ [Char.ofNat (48 + n % 10)]

/-- The last `width` hexadecimal digits of a number, zeros in front included. -/
def fixedHex : Nat → Nat → List Char
  | 0, _ => []
  | width + 1, n => fixedHex width (n / 16) ++ [hexDigit (n % 16)]

/-- The number written by a run of decimal digits, starting from the value `n` of the digits before. -/
def digitsValue (n : Nat) : List Char → Option Nat
  | [] => some n
  | c :: cs => do digitsValue (n * 10 + (← digitValue? c)) cs

/-- The number written by a run of hexadecimal digits, starting from the value `n` of the digits before. -/
def hexDigitsValue (n : Nat) : List Char → Option Nat
  | [] => some n
  | c :: cs => do hexDigitsValue (n * 16 + (← hexValue? c)) cs

/-- The number written by exactly `width` decimal digits at the start of the text, with the text after them. -/
def readDigits (width : Nat) (cs : List Char) : Option (Nat × List Char) :=
  if (cs.take width).length = width then
    (digitsValue 0 (cs.take width)).map fun n => (n, cs.drop width)
  else
    none

/-- The bytes in hexadecimal notation, two digits each. -/
def hexOfBytes (digit : Nat → Char) (bytes : List UInt8) : String :=
  String.ofList (bytes.flatMap fun b => [digit (b.toNat / 16), digit (b.toNat % 16)])

/-- The bytes written in hexadecimal notation, two digits each. -/
def bytesOfHex? : List Char → Option (List UInt8)
  | [] => some []
  | [_] => none
  | high :: low :: cs => do
    let h ← hexValue? high
    let l ← hexValue? low
    let rest ← bytesOfHex? cs
    some (UInt8.ofNat (h * 16 + l) :: rest)

end RecordSql.Text
