import RecordSql.Dialect.Name
import RecordSql.Proofs.Text.Enclosed
import RecordSql.Condition.Basic

/-!
# The words of a condition

The text of a condition is read as a list of tokens: quoted names, keywords, comparison signs, commas, parentheses and placeholders.
Words and signs are read as far as they go, and blanks only divide them. A placeholder is read as the argument bound to it: the first
placeholder takes the first argument, and no argument may be left over.
-/

namespace RecordSql

/-- The words that a condition is written with. -/
inductive Keyword where
  | and
  | or
  | not
  | like
  | between
  | within
  | is
  | null
  deriving DecidableEq

/-- The keyword that a word spells. -/
def Keyword.ofWord? (word : List Char) : Option Keyword :=
  if word = "AND".toList then some .and
  else if word = "OR".toList then some .or
  else if word = "NOT".toList then some .not
  else if word = "LIKE".toList then some .like
  else if word = "BETWEEN".toList then some .between
  else if word = "IN".toList then some .within
  else if word = "IS".toList then some .is
  else if word = "NULL".toList then some .null
  else none

/-- The comparison that a sign stands for. -/
def Comparison.ofSign? (sign : List Char) : Option Comparison :=
  if sign = "=".toList then some .equal
  else if sign = "<>".toList then some .notEqual
  else if sign = ">".toList then some .greater
  else if sign = ">=".toList then some .greaterEqual
  else if sign = "<".toList then some .less
  else if sign = "<=".toList then some .lessEqual
  else none

/-- What the text of a condition is made of. -/
inductive Token where
  | name (name : String)
  | keyword (k : Keyword)
  | comparison (c : Comparison)
  | argument (v : Value)
  | comma
  | opening
  | closing
  deriving DecidableEq

namespace Token

/-- The characters of comparison signs. -/
def isSign (c : Char) : Bool :=
  c == '<' || c == '=' || c == '>'

/-- The token of a character that stands for itself. -/
def ofMark? : Char → Option Token
  | ',' => some comma
  | '(' => some opening
  | ')' => some closing
  | _ => none

/-- What is read at the start of a text, and the text and the arguments after it. A blank is read as nothing. -/
def first? (quote : Char) (args : List Value) : List Char → Option (List Token × List Char × List Value)
  | [] => none
  | c :: cs =>
    if c = ' ' then some ([], cs, args)
    else if c = quote then
      (Text.readEnclosed quote cs).map fun (content, rest) => ([name (String.ofList content)], rest, args)
    else if c = '?' then
      args.head?.map fun v => ([argument v], cs, args.tail)
    else if isSign c then
      (Comparison.ofSign? (c :: cs.takeWhile isSign)).map fun k => ([comparison k], cs.dropWhile isSign, args)
    else if c.isUpper then
      (Keyword.ofWord? (c :: cs.takeWhile Char.isUpper)).map fun k => ([keyword k], cs.dropWhile Char.isUpper, args)
    else (ofMark? c).map fun t => ([t], cs, args)

/-- Something is always read. -/
theorem length_first? {quote : Char} {args : List Value} {cs : List Char} {ts : List Token} {rest : List Char}
    {more : List Value} (h : first? quote args cs = some (ts, rest, more)) : rest.length < cs.length := by
  cases cs with
  | nil => cases h
  | cons c cs =>
    have hdrop : ∀ p : Char → Bool, (cs.dropWhile p).length < (c :: cs).length := fun p =>
      Nat.lt_succ_of_le (List.dropWhile_sublist p).length_le
    simp only [first?] at h
    split at h
    · cases h
      exact Nat.lt_succ_self _
    split at h
    · obtain ⟨⟨name, tail⟩, hr, heq⟩ := Option.map_eq_some_iff.mp h
      cases heq
      exact Nat.lt_succ_of_lt (Text.length_readEnclosed _ _ _ _ hr)
    split at h
    · obtain ⟨v, -, heq⟩ := Option.map_eq_some_iff.mp h
      cases heq
      exact Nat.lt_succ_self _
    split at h
    · obtain ⟨k, -, heq⟩ := Option.map_eq_some_iff.mp h
      cases heq
      exact hdrop _
    split at h
    · obtain ⟨k, -, heq⟩ := Option.map_eq_some_iff.mp h
      cases heq
      exact hdrop _
    · obtain ⟨t, -, heq⟩ := Option.map_eq_some_iff.mp h
      cases heq
      exact Nat.lt_succ_self _

/-- The tokens of a text with the given arguments. -/
def ofText? (quote : Char) (args : List Value) (cs : List Char) : Option (List Token) :=
  match cs with
  | [] => if args.isEmpty then some [] else none
  | c :: cs =>
    match _h : first? quote args (c :: cs) with
    | some (ts, rest, more) => (ofText? quote more rest).map (ts ++ ·)
    | none => none
termination_by cs.length
decreasing_by exact length_first? _h

/-- Reading goes on behind what is read first. -/
theorem ofText?_of_first? {quote : Char} {args more : List Value} {cs rest : List Char} {ts : List Token}
    (h : first? quote args cs = some (ts, rest, more)) :
    ofText? quote args cs = (ofText? quote more rest).map (ts ++ ·) := by
  cases cs with
  | nil => cases h
  | cons c cs =>
    rw [ofText?]
    split
    · rename_i heq
      rw [h] at heq
      cases heq
      rfl
    · rename_i heq
      rw [h] at heq
      cases heq

end Token

end RecordSql
