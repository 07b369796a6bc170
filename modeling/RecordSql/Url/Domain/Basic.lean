import RecordSql.Text.Composition
import RecordSql.Text.Direction
import RecordSql.Text.Joining
import RecordSql.Url.Domain.Forms
import RecordSql.Url.Domain.Letters
import RecordSql.Url.Domain.Permitted
import RecordSql.Url.Domain.Punycode
import RecordSql.Url.Domain.Symbols

/-!
# Domain names

A domain name is a list of labels with points between them. Its characters are first brought into one form: letters become small,
special forms become plain, and marks join the characters before them. A label that starts with `xn--` is the ASCII form of another,
which must be in that form already. The rules for labels are those of internationalized names: no mark at the start, joiners only
where letters join, and one direction of writing.
-/

namespace RecordSql.Url.Domain

open Text

/-- What a domain name holds in the place of a character, if it may have that character. -/
def formOf? (c : Char) : Option (List Char) :=
  if permittedChars.contains c then some [c]
  else if droppedChars.contains c then some []
  else letters.replacement? c <|> symbols.replacement? c <|> forms.replacement? c

/-- The form in which a domain name is read. -/
def form? (cs : List Char) : Option (List Char) := do
  some (composed (← cs.mapM formOf?).flatten)

/-- What the ASCII form of a label starts with. -/
def asciiMark : List Char := ['x', 'n', '-', '-']

/-- The largest number of characters after the mark of an ASCII form. -/
def maxAsciiForm : Nat := 2000

/-- The largest number of characters in a label outside ASCII. -/
def maxLabel : Nat := 1000

/-- The label that a text denotes: the text itself, or what its ASCII form stands for. -/
def label? (text : List Char) : Option (List Char) :=
  if asciiMark.isPrefixOf text then
    let code := text.drop asciiMark.length
    if code.getLast?.any (· != '-') && code.length ≤ maxAsciiForm then do
      let label ← Punycode.decode? code
      if label.all permittedChars.contains && composed label == label then some label else none
    else
      none
  else
    some text

/-- The sign that keeps letters from joining. -/
def nonJoiner : Char := '\u200c'

/-- The sign that makes letters join. -/
def joiner : Char := '\u200d'

/-- Whether the next letter has a property, past the marks before it. -/
def nextIs (property : Char → Bool) (cs : List Char) : Bool :=
  (cs.dropWhile isTransparent).head?.any property

/-- Whether every joiner in the rest of a label has its place, where `before` is what precedes, the nearest character first. Both
joiners may follow a sign that takes the vowel away; one that keeps letters apart may also stand between letters that would join. -/
def joinersFit (before : List Char) : List Char → Bool
  | [] => true
  | c :: cs =>
    let fits :=
      before.head?.any isVowelKiller || (c == nonJoiner && nextIs joinsAfter before && nextIs joinsBefore cs)
    ((c != nonJoiner && c != joiner) || fits) && joinersFit (c :: before) cs

/-- Whether a label is in order by itself. -/
def isLabel (label : List Char) : Bool :=
  !label.head?.any isMark && joinersFit [] label && (label.all (·.toNat < 128) || label.length ≤ maxLabel)

/-- Whether a label has one direction of writing: it starts with a letter, ends with a letter or a number of the direction of that
letter, and holds no letter of the other direction. Numbers in a label from right to left are of one kind. -/
def hasOneDirection (label : List Char) : Bool :=
  match label.map Direction.ofChar with
  | [] => true
  | first :: rest =>
    let inner := rest.reverse.dropWhile (· == .mark)
    let ending := inner.head?
    match first with
    | .leftToRight =>
      ending.all (fun d => d == .leftToRight || d == .europeanNumber) &&
        !inner.contains .rightToLeft && !inner.contains .arabicNumber
    | .rightToLeft =>
      ending.all (fun d => d == .rightToLeft || d == .europeanNumber || d == .arabicNumber) &&
        !inner.contains .leftToRight && !(inner.contains .europeanNumber && inner.contains .arabicNumber)
    | _ => false

/-- Whether a label has characters that are written from right to left. -/
def isFromRight (label : List Char) : Bool :=
  label.any fun c => let d := Direction.ofChar c; d == .rightToLeft || d == .arabicNumber

/-- The labels of the domain name that a text denotes. If one of them has characters from right to left, all have one direction. -/
def labels? (cs : List Char) : Option (List (List Char)) := do
  let labels ← (cutAt '.' (← form? cs)).mapM label?
  if labels.all isLabel && (!labels.any isFromRight || labels.all hasOneDirection) then some labels else none

end RecordSql.Url.Domain
