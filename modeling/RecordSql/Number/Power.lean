/-!
# Powers

Powers of two, which binary numbers are made of, and powers of ten, which decimal ones are made of.
-/

namespace RecordSql.Number

/-- Two to a natural number. -/
def twoTo (n : Nat) : Nat :=
  Nat.pow 2 n

/-- Ten to a natural number. -/
def tenTo (n : Nat) : Nat :=
  Nat.pow 10 n

theorem twoTo_pos (n : Nat) : 0 < twoTo n :=
  Nat.pow_pos (by decide)

theorem tenTo_pos (n : Nat) : 0 < tenTo n :=
  Nat.pow_pos (by decide)

theorem tenTo_succ (n : Nat) : tenTo (n + 1) = tenTo n * 10 := rfl

end RecordSql.Number
