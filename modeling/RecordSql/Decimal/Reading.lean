import RecordSql.Decimal.Basic

/-!
# Reading decimal numbers

A decimal number is written with an optional sign, digits and at most one point; underscores may stand after the first digit.
The first digit that no longer fits, past scale 28 or past 96 bits, rounds half up, and the digits after it are only checked; too
many digits before the point are refused. A text that is not a number in this way may still be one with an exponent.
-/

namespace RecordSql.Decimal

/-- What has been read of a number. -/
structure Progress where
  coefficient : Nat
  scale : Nat
  /-- Whether the point has been read. -/
  pointed : Bool
  /-- Whether a digit has been read. -/
  started : Bool
  /-- Whether the character before was an underscore. -/
  marked : Bool

/-- Whether no further place after the point fits. -/
def Progress.isFull (p : Progress) : Bool :=
  p.pointed && maxScale ≤ p.scale

/-- From this coefficient on, a number is read in three words instead of one. -/
def wideFrom : Nat := 1844674407370954906

/-- Whether the last digit was read in three words. -/
def Progress.isWide (p : Progress) : Bool :=
  wideFrom ≤ p.coefficient / 10

/-- The coefficient and the scale when `digit` is the first that does not fit and `rest` is the text after it, in which only digits
and underscores may stand. A coefficient that rounds up to the bound gives up its last digit. -/
def roundOff (coefficient scale digit : Nat) (rest : List Char) : Option (Nat × Nat) :=
  if !rest.all (fun c => c == '_' || (Text.digitValue? c).isSome) then none
  else if digit < 5 then some (coefficient, scale)
  else if coefficient + 1 < bound then some (coefficient + 1, scale)
  else if scale = 0 then none
  else some ((coefficient + 5) / 10, scale - 1)

/-- The coefficient and the scale after the rest of the text. In the place of the first digit that does not fit, an underscore counts
as a zero for a number of one word; in a wider number it lets one more digit in, if the coefficient has room for it. -/
def readRest (p : Progress) : List Char → Option (Nat × Nat)
  | [] => if p.started then some (p.coefficient, p.scale) else none
  | c :: cs =>
    if c = '.' then
      if p.pointed then none else readRest { p with pointed := true } cs
    else if c = '_' then
      if !p.started then none
      else if p.isFull && !p.isWide then roundOff p.coefficient p.scale 0 cs
      else readRest { p with marked := true } cs
    else
      match Text.digitValue? c with
      | none => none
      | some digit =>
        let next := p.coefficient * 10 + digit
        if next < bound ∧ (!p.isFull ∨ p.marked) then
          readRest ⟨next, if p.pointed then p.scale + 1 else p.scale, p.pointed, true, false⟩ cs
        else if p.pointed then
          roundOff p.coefficient p.scale digit cs
        else
          none

/-- The number written without an exponent. A scale that passes 28 starts again from zero. -/
def readPlain? (cs : List Char) : Option Decimal := do
  let (negative, digits) :=
    match cs with
    | '-' :: rest => (true, rest)
    | '+' :: rest => (false, rest)
    | rest => (false, rest)
  let (coefficient, scale) ← readRest ⟨0, 0, false, false, false⟩ digits
  ofParts? negative coefficient (scale % (maxScale + 1))

/-- The natural number written with an optional plus sign and digits. -/
def readNatural? (cs : List Char) : Option Nat :=
  let digits :=
    match cs with
    | '+' :: rest => rest
    | rest => rest
  if digits.isEmpty then none else Text.digitsValue 0 digits

/-- The number times ten to an exponent of at most 28. A smaller scale absorbs the exponent; a larger one multiplies. -/
def shift? (d : Decimal) (exponent : Nat) : Option Decimal :=
  if exponent ≤ d.scale then
    ofParts? d.negative d.coefficient (d.scale - exponent)
  else if exponent ≤ maxScale then
    ofParts? d.negative (d.coefficient * Number.tenTo (exponent - d.scale)) 0
  else
    none

/-- The number divided by ten to an exponent of at most 28. Places past scale 28 are rounded off half up; the sign stays. -/
def shiftDown? (d : Decimal) (exponent : Nat) : Option Decimal :=
  let scale := d.scale + exponent
  if maxScale < exponent then none
  else if scale ≤ maxScale then ofSigned? d.negative d.coefficient scale
  else ofSigned? d.negative (tenth (d.coefficient / Number.tenTo (scale - maxScale - 1))) maxScale

/-- The number written with an exponent: the text before the first `e` or `E`, and after it a natural number with an optional
minus sign. -/
def readScientific? (cs : List Char) : Option Decimal := do
  let isMark := fun c => c == 'e' || c == 'E'
  let base ← readPlain? (cs.takeWhile (!isMark ·))
  match cs.dropWhile (!isMark ·) with
  | [] => none
  | _ :: '-' :: digits => shiftDown? base (← readNatural? digits)
  | _ :: digits => shift? base (← readNatural? digits)

/-- The decimal number that a text denotes. -/
def read? (text : String) : Option Decimal :=
  readPlain? text.toList <|> readScientific? text.toList

end RecordSql.Decimal
