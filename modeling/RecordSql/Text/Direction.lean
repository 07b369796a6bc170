import RecordSql.Text.Mark

/-!
# Directions of writing

Letters are written from left to right or from right to left, and numbers keep a direction of their own. The tables are about the
characters that a domain name may hold and follow version 17 of Unicode.
-/

namespace RecordSql.Text

/-- How a character takes part in the direction of the text around it. -/
inductive Direction where
  | leftToRight
  | rightToLeft
  | europeanNumber
  | arabicNumber
  /-- Signs that take the direction of what is around them. -/
  | neutral
  /-- Marks, which take the direction of the character before them. -/
  | mark
  deriving DecidableEq

namespace Direction

/-- The letters that are written from right to left. -/
def rightToLeftChars : CharSet := .ofLines
  ["5be-5f4 608 60b 60d 61b-64a 66d-6d5 6e5-6e6 6ee-6ef 6fa-7f5 7fa-8c9 fbb2-fbc2 fe73 10800-1091b 10920-10b35 10b40-10d23",
   "10d40-10d4f 10d6f-10d8f 10e80-10ec7 10f00-10ff6 1e800-1ed3d"]

/-- The European digits. -/
def europeanDigits : CharSet := .ofLines
  ["30-39 6f0-6f9 102e1-102fb"]

/-- The Arabic digits, and the signs inside Arabic numbers. -/
def arabicDigits : CharSet := .ofLines
  ["660-669 66b-66c 10d30-10d39 10e60-10e7e"]

/-- The signs without a direction. -/
def neutralChars : CharSet := .ofLines
  ["21-2f 3a-60 7b-d7 f7 2b9-2ba 2c2-2cf 2d2-2ed 2ef-2ff 375 3f6 58a-58f 606-607 609-60a 60c 60e-60f 66a 6de 6e9 7f6-7f9",
   "9f2-9f3 9fb af1 bf3-bfa c78-c7e e3f f3a-f3d 1390-1399 1400 169b-169c 17db 17f0-180a 1940-1945 19de-19ff 200c-214d",
   "218a-2335 237b-2394 2396-26ab 26ad-27ff 2900-2bff 2ce5-2cea 2cf9-2cff 2e00-3004 3008-3020 3030 3037 303d-303f 30a0 30fb",
   "31c0-31e5 4dc0-4dff a490-a4c6 a60d-a60f a673-a67f a700-a721 a788 a828-a82b a838-a839 a874-a877 ab6a-ab6b fbc3-fe46 10101",
   "10140-1018c 10190-101a0 1091f 10b39-10b3f 10d6e 10ed0-10ed8 11052-11065 11660-1166c 11fd5-11ff1 16fe2 1cc00-1cef0",
   "1d1e9-1d245 1d300-1d356 1e2ff 1eef0-1f12f 1f16d-1f16f 1f1ad 1f260-1fbfa"]

/-- The marks that count as letters from left to right. -/
def leftToRightMarks : CharSet := .ofLines
  ["cbf cc6 11a07-11a08 11c3f"]

/-- The direction of a character. -/
def ofChar (c : Char) : Direction :=
  if nonspacingMarks.contains c && !leftToRightMarks.contains c then .mark
  else if rightToLeftChars.contains c then .rightToLeft
  else if europeanDigits.contains c then .europeanNumber
  else if arabicDigits.contains c then .arabicNumber
  else if neutralChars.contains c then .neutral
  else .leftToRight

end Direction

end RecordSql.Text
