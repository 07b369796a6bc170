import RecordSql.Number.Power
import RecordSql.Text.Digits
import RecordSql.Text.Utf8
import RecordSql.Url.Domain.Basic

/-!
# Hosts

Which texts are hosts of a URL. A host in brackets is an address of version 6. Elsewhere the characters that separate the parts of
a URL are refused; in the schemes of the web a host is a domain name, in which escapes are decoded first, and one whose last label
is a number must be an address of version 4.
-/

namespace RecordSql.Url

/-- The bytes of a text in which a percent sign and two hexadecimal digits stand for one byte. -/
def percentDecode : List Char → List UInt8
  | '%' :: high :: low :: cs =>
    match Text.hexValue? high, Text.hexValue? low with
    | some h, some l => UInt8.ofNat (h * 16 + l) :: percentDecode cs
    | _, _ => 37 :: percentDecode (high :: low :: cs)
  | c :: cs => (String.singleton c).toUTF8.toList ++ percentDecode cs
  | [] => []

/-- Whether a text is a decimal number below 256 without zeros in front. -/
def isOctet (cs : List Char) : Bool :=
  match Text.digitsValue 0 cs with
  | some n => !cs.isEmpty && cs.length ≤ 3 && n < 256 && (cs.length == 1 || cs.head? != some '0')
  | none => false

/-- Whether a text is one group of an address of version 6. -/
def isGroup (cs : List Char) : Bool :=
  1 ≤ cs.length && cs.length ≤ 4 && cs.all fun c => (Text.hexValue? c).isSome

/-- The number of groups that a part of an address of version 6 stands for. Only at the end of the address may an address of version
4 stand for two groups. -/
def groupCount? (atEnd : Bool) (cs : List Char) : Option Nat :=
  if cs.isEmpty then some 0
  else
    let parts := Text.cutAt ':' cs
    let last := parts.getLast?.getD []
    if atEnd && last.contains '.' then
      let octets := Text.cutAt '.' last
      if parts.dropLast.all isGroup && octets.length == 4 && octets.all isOctet then some (parts.length + 1) else none
    else if parts.all isGroup then some parts.length
    else none

/-- The text before the first pair of colons and the text after it. -/
def cutColons : List Char → List Char × Option (List Char)
  | ':' :: ':' :: cs => ([], some cs)
  | c :: cs => ((cutColons cs).map (c :: ·) id)
  | [] => ([], none)

/-- Whether a text is an address of version 6: eight groups, or fewer with one pair of colons for the missing ones. -/
def isAddress6 (cs : List Char) : Bool :=
  match cutColons cs with
  | (groups, none) => groupCount? true groups == some 8
  | (before, some after) =>
    match groupCount? false before, groupCount? true after with
    | some n, some k => n + k ≤ 7
    | _, _ => false

/-- Whether a host outside the schemes of the web may contain the character. -/
def isOpaqueHostChar (c : Char) : Bool :=
  !"\x00\t\n\r #/:<>?@[\\]^|".toList.contains c

/-- Whether a host in the schemes of the web may contain the character. -/
def isDomainChar (c : Char) : Bool :=
  32 < c.toNat && c.toNat != 127 && !"#%/:<>?@[\\]^|".toList.contains c

/-- The number that a label of an address of version 4 stands for, in decimal, octal or hexadecimal notation. -/
def labelValue? (cs : List Char) : Option Nat :=
  match cs with
  | [] => none
  | '0' :: 'x' :: digits => Text.hexDigitsValue 0 digits
  | '0' :: digits =>
    if digits.all fun c => '0' ≤ c && c ≤ '7' then
      some (digits.foldl (fun n c => n * 8 + (c.toNat - 48)) 0)
    else
      none
  | digits => Text.digitsValue 0 digits

/-- The labels of a domain name without the empty one after a point at its end. -/
def properLabels (labels : List (List Char)) : List (List Char) :=
  if 2 ≤ labels.length && labels.getLast?.getD [] == [] then labels.dropLast else labels

/-- Whether the last label of a domain name is a number. -/
def endsInNumber (labels : List (List Char)) : Bool :=
  let last := (properLabels labels).getLast?.getD []
  !last.isEmpty && (last.all Char.isDigit || (last.take 2 == ['0', 'x'] && (labelValue? last).isSome))

/-- Whether a domain name is an address of version 4: up to four numbers, the last of which fills the bytes that are left. -/
def isAddress4 (labels : List (List Char)) : Bool :=
  let values := (properLabels labels).map labelValue?
  values.length ≤ 4 &&
    match values.reverse with
    | some last :: rest => last < Number.twoTo (8 * (5 - values.length)) && rest.all fun v => v.any (· < 256)
    | _ => false

/-- Whether a text is a host outside the schemes of the web. -/
def isOpaqueHost (cs : List Char) : Bool :=
  match cs with
  | '[' :: inner => inner.getLast? == some ']' && isAddress6 inner.dropLast
  | _ => cs.all isOpaqueHostChar

/-- Whether a text is a host in the schemes of the web. -/
def isDomain (cs : List Char) : Bool :=
  match cs with
  | '[' :: inner => inner.getLast? == some ']' && isAddress6 inner.dropLast
  | _ =>
    match Domain.labels? (Text.decodeUtf8 (percentDecode cs)) with
    | some labels =>
      labels != [[]] && labels.all (·.all isDomainChar) && (!endsInNumber labels || isAddress4 labels)
    | none => false

end RecordSql.Url
