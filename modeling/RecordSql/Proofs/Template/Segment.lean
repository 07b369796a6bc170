import Mathlib.Data.List.TakeWhile
import RecordSql.Template

/-!
# The segments of a template

A template is cut from left to right into quoted sections, placeholders, tokens and other characters (`segments`). A token goes as far
as the characters that it takes; what follows it is read as if the template started there. No character is lost (`flatMap_chars_segments`).
-/

namespace RecordSql.Template

/-! ## Tokens -/

/-- Whether a character is a hexadecimal digit of either case. -/
def isHexDigit (c : Char) : Bool :=
  (Text.hexValue? c).isSome

/-- What follows a dollar sign and is replaced together with it. -/
inductive Token where
  /-- A second dollar sign. -/
  | dollar
  /-- The position of a field. -/
  | position (digits : List Char)
  /-- The name of a field. -/
  | field (name : List Char)
  /-- The name of a fragment. -/
  | named (word : List Char)

namespace Token

/-- The characters of a token, without the dollar sign before it. -/
def chars : Token → List Char
  | dollar => ['$']
  | position digits => '0' :: 'x' :: digits
  | field name => 'F' :: 'N' :: '-' :: name
  | named word => word

/-- The token that follows a dollar sign, and the text after it. Digits and names are taken as far as they go. -/
def read : List Char → Token × List Char
  | '$' :: cs => (dollar, cs)
  | '0' :: 'x' :: cs => (position (cs.takeWhile isHexDigit), cs.dropWhile isHexDigit)
  | 'F' :: 'N' :: '-' :: cs => (field (cs.takeWhile isWordChar), cs.dropWhile isWordChar)
  | cs => (named (cs.takeWhile isWordChar), cs.dropWhile isWordChar)

/-- A token and the text after it are what was read. -/
theorem chars_append_read (cs : List Char) : (read cs).1.chars ++ (read cs).2 = cs := by
  unfold read
  split <;> simp [chars]

/-- A token takes the length that is measured for it. -/
theorem length_chars_read (cs : List Char) : (read cs).1.chars.length = tokenLength cs := by
  have hhex : (fun c => (Text.hexValue? c).isSome) = isHexDigit := rfl
  unfold read tokenLength
  rw [hhex]
  split <;> simp only [chars, List.length_cons, List.length_nil] <;> omega

theorem take_tokenLength (cs : List Char) : cs.take (tokenLength cs) = (read cs).1.chars := by
  calc cs.take (tokenLength cs) = ((read cs).1.chars ++ (read cs).2).take (tokenLength cs) := by rw [chars_append_read]
    _ = (read cs).1.chars := List.take_left' (length_chars_read cs)

theorem drop_tokenLength (cs : List Char) : cs.drop (tokenLength cs) = (read cs).2 := by
  calc cs.drop (tokenLength cs) = ((read cs).1.chars ++ (read cs).2).drop (tokenLength cs) := by rw [chars_append_read]
    _ = (read cs).2 := List.drop_left' (length_chars_read cs)

theorem length_read_le (cs : List Char) : (read cs).2.length ≤ cs.length := by
  rw [← drop_tokenLength, List.length_drop]
  omega

end Token

/-! ## Segments -/

/-- A part of a template that is replaced as one. -/
inductive Segment where
  /-- A quoted section with its quotes. -/
  | quoted (text : List Char)
  /-- A placeholder. -/
  | hole
  /-- A token behind a dollar sign. -/
  | token (t : Token)
  /-- Any other character. -/
  | plain (c : Char)

/-- The characters of a segment. -/
def Segment.chars : Segment → List Char
  | quoted text => text
  | hole => ['?']
  | token t => '$' :: t.chars
  | plain c => [c]

/-- The quoted section that a quote opens, and the text after it. A section that is not closed goes to the end. -/
def readQuoted (quote : Char) (cs : List Char) : List Char × List Char :=
  match cs.dropWhile (· != quote) with
  | [] => (quote :: cs, [])
  | _ :: rest => (quote :: cs.takeWhile (· != quote) ++ [quote], rest)

/-- The section that a quote opens is closed by the next such quote, or it goes to the end of the text. -/
theorem readQuoted_cases (quote : Char) (cs : List Char) :
    (quote ∉ cs ∧ readQuoted quote cs = (quote :: cs, [])) ∨
    ∃ content rest, quote ∉ content ∧ cs = content ++ quote :: rest ∧ readQuoted quote cs = (quote :: content ++ [quote], rest) := by
  have hcontent : quote ∉ cs.takeWhile (· != quote) := by
    intro hmem
    simpa using List.mem_takeWhile_imp hmem
  have hcut := List.takeWhile_append_dropWhile (p := (· != quote)) (l := cs)
  unfold readQuoted
  cases hrest : cs.dropWhile (· != quote) with
  | nil =>
    rw [hrest, List.append_nil] at hcut
    rw [hcut] at hcontent
    exact .inl ⟨hcontent, rfl⟩
  | cons c rest =>
    have hc : c = quote := by
      have hhead := List.head?_dropWhile_not (· != quote) cs
      rw [hrest] at hhead
      simpa using hhead
    subst hc
    rw [hrest] at hcut
    exact .inr ⟨_, rest, hcontent, hcut.symm, rfl⟩

/-- A section and the text after it are what was read. -/
theorem append_readQuoted (quote : Char) (cs : List Char) : (readQuoted quote cs).1 ++ (readQuoted quote cs).2 = quote :: cs := by
  rcases readQuoted_cases quote cs with ⟨-, hread⟩ | ⟨content, rest, -, rfl, hread⟩ <;> rw [hread] <;> simp

theorem length_readQuoted_le (quote : Char) (cs : List Char) : (readQuoted quote cs).2.length ≤ cs.length := by
  rcases readQuoted_cases quote cs with ⟨-, hread⟩ | ⟨content, rest, -, rfl, hread⟩ <;> rw [hread]
  · exact Nat.zero_le _
  · simp only [List.length_append, List.length_cons]
    omega

/-- A template cut into its segments, from left to right. -/
def segments : List Char → List Segment
  | [] => []
  | c :: cs =>
    if Text.isQuote c then .quoted (readQuoted c cs).1 :: segments (readQuoted c cs).2
    else if c = '?' then .hole :: segments cs
    else if c = '$' then .token (Token.read cs).1 :: segments (Token.read cs).2
    else .plain c :: segments cs
termination_by cs => cs.length
decreasing_by
  · exact Nat.lt_succ_of_le (length_readQuoted_le c cs)
  · exact Nat.lt_succ_self _
  · exact Nat.lt_succ_of_le (Token.length_read_le cs)
  · exact Nat.lt_succ_self _

/-- A quote starts a quoted section. -/
theorem segments_quote {c : Char} (h : Text.isQuote c = true) (cs : List Char) :
    segments (c :: cs) = .quoted (readQuoted c cs).1 :: segments (readQuoted c cs).2 := by
  rw [segments, if_pos h]

/-- A question mark outside of quoted sections is a placeholder. -/
theorem segments_hole (cs : List Char) : segments ('?' :: cs) = .hole :: segments cs := by
  rw [segments, if_neg (by decide), if_pos rfl]

/-- A dollar sign outside of quoted sections starts a token. -/
theorem segments_dollar (cs : List Char) : segments ('$' :: cs) = .token (Token.read cs).1 :: segments (Token.read cs).2 := by
  rw [segments, if_neg (by decide), if_neg (by decide), if_pos rfl]

/-- The segments of a template hold its characters in order. -/
theorem flatMap_chars_segments (cs : List Char) : (segments cs).flatMap Segment.chars = cs := by
  fun_induction segments cs with
  | case1 => rfl
  | case2 c cs _ ih => rw [List.flatMap_cons, ih, Segment.chars, append_readQuoted]
  | case3 cs _ ih => rw [List.flatMap_cons, ih, Segment.chars, List.singleton_append]
  | case4 cs _ _ ih => rw [List.flatMap_cons, ih, Segment.chars, List.cons_append, Token.chars_append_read]
  | case5 c cs _ _ _ ih => rw [List.flatMap_cons, ih, Segment.chars, List.singleton_append]

/-- A field token behind an escaped dollar sign, with a quoted section right after it. -/
example : segments "$$$FN-x'$y'?".toList =
    [.token .dollar, .token (.field ['x']), .quoted ['\x27', '$', 'y', '\x27'], .hole] := by cbv

end RecordSql.Template
