import RecordSql.Proofs.Condition.Formula
import RecordSql.Proofs.Condition.Token
import RecordSql.Statement

/-!
# The grammar of conditions

A condition is read by the usual grammar, by descent: a disjunction is conjunctions with `OR` between them, a conjunction is units
with `AND` between them, and a unit is a predicate, a condition in parentheses, or `NOT` and a unit. A range test takes the `AND`
between its bounds for itself. `Formula.read?` reads a whole statement with its arguments.
-/

namespace RecordSql

namespace Token

/-- The values of a membership test after its first, up to the parenthesis that closes it. -/
def readMembers : List Token → Option (List Value × List Token)
  | closing :: ts => some ([], ts)
  | comma :: argument v :: ts => (readMembers ts).map fun (values, rest) => (v :: values, rest)
  | _ => none

/-- A test that `NOT` can stand before. -/
def readTest (column : String) (negated : Bool) : List Token → Option (Predicate × List Token)
  | keyword .like :: argument v :: ts => some (.compare column (if negated then .notLike else .like) v, ts)
  | keyword .between :: argument low :: keyword .and :: argument high :: ts => some (.between column negated low high, ts)
  | keyword .within :: opening :: argument v :: ts =>
    (readMembers ts).map fun (values, rest) => (.member column negated (v :: values), rest)
  | _ => none

/-- What is said of a column. -/
def readPredicate (column : String) : List Token → Option (Predicate × List Token)
  | comparison c :: argument v :: ts => some (.compare column c v, ts)
  | keyword .is :: keyword .null :: ts => some (.null column false, ts)
  | keyword .is :: keyword .not :: keyword .null :: ts => some (.null column true, ts)
  | keyword .not :: ts => readTest column true ts
  | ts => readTest column false ts

mutual

/-- A predicate, a condition in parentheses, or the negation of a unit. Reading goes on only where tokens were used up. -/
def readUnit (ts : List Token) : Option (Formula × List Token) :=
  match ts with
  | name column :: ts => (readPredicate column ts).map fun (p, rest) => (.predicate p, rest)
  | keyword .not :: ts => (readUnit ts).map fun (f, rest) => (.not f, rest)
  | opening :: ts =>
    match readDisjunction ts with
    | some (f, closing :: rest) => some (f, rest)
    | _ => none
  | _ => none
termination_by (ts.length, 0)

/-- A unit, or a unit and a conjunction with `AND` between them. -/
def readConjunction (ts : List Token) : Option (Formula × List Token) :=
  match readUnit ts with
  | some (f, keyword .and :: rest) =>
    if rest.length < ts.length then (readConjunction rest).map fun (g, rest) => (.and f g, rest) else none
  | read => read
termination_by (ts.length, 1)

/-- A conjunction, or a conjunction and a disjunction with `OR` between them. -/
def readDisjunction (ts : List Token) : Option (Formula × List Token) :=
  match readConjunction ts with
  | some (f, keyword .or :: rest) =>
    if rest.length < ts.length then (readDisjunction rest).map fun (g, rest) => (.or f g, rest) else none
  | read => read
termination_by (ts.length, 2)

end

/-! ## Tokens of units and of their conjunctions -/

/-- The tokens are a unit, which is read as the formula up to how conjunctions are grouped, whatever follows. -/
def IsUnit (ts : List Token) (f : Formula) : Prop :=
  ∀ rest, ∃ g : Formula, g.Regrouped f ∧ readUnit (ts ++ rest) = some (g, rest)

/-- The tokens are units with `AND` between them, for a formula that conjoins them in some grouping. -/
inductive IsChain : List Token → Formula → Prop
  | unit {ts : List Token} {f : Formula} : IsUnit ts f → IsChain ts f
  | and {ts us : List Token} {f g : Formula} :
      IsChain ts f → IsChain us g → IsChain (ts ++ keyword .and :: us) (.and f g)

/-- A chain before a conjunction is read with it as one conjunction. -/
theorem IsChain.readConjunction_and {ts : List Token} {f : Formula} (h : IsChain ts f) :
    ∀ {us rest : List Token} {g : Formula}, readConjunction us = some (g, rest) →
      ∃ k : Formula, k.Regrouped (.and f g) ∧ readConjunction (ts ++ keyword .and :: us) = some (k, rest) := by
  induction h with
  | @unit ts f hu =>
    intro us rest g hg
    obtain ⟨f', hf, hread⟩ := hu (keyword .and :: us)
    refine ⟨.and f' g, .and hf (.refl g), ?_⟩
    have hlt : us.length < (ts ++ keyword .and :: us).length := by
      simp only [List.length_append, List.length_cons]
      omega
    rw [readConjunction, hread]
    simp only [if_pos hlt, hg, Option.map_some]
  | @and ts us' f f' _ _ ih₁ ih₂ =>
    intro us rest g hg
    obtain ⟨k₂, hk₂, hread₂⟩ := ih₂ hg
    obtain ⟨k₁, hk₁, hread₁⟩ := ih₁ hread₂
    refine ⟨k₁, (hk₁.trans (.and (.refl f) hk₂)).trans (.symm (.assoc f f' g)), ?_⟩
    rw [List.append_assoc, List.cons_append]
    exact hread₁

/-- A chain is read as one conjunction up to where no `AND` follows. -/
theorem IsChain.readConjunction {ts : List Token} {f : Formula} (h : IsChain ts f) (rest : List Token)
    (hr : rest.head? ≠ some (keyword .and)) :
    ∃ k : Formula, k.Regrouped f ∧ Token.readConjunction (ts ++ rest) = some (k, rest) := by
  induction h generalizing rest with
  | unit hu =>
    obtain ⟨f', hf, hread⟩ := hu rest
    refine ⟨f', hf, ?_⟩
    rw [Token.readConjunction, hread]
    split
    · rename_i heq
      cases heq
      exact absurd rfl hr
    · rfl
  | @and ts us f g h₁ h₂ _ ih₂ =>
    obtain ⟨k₂, hk₂, hread₂⟩ := ih₂ rest hr
    obtain ⟨k, hk, hread⟩ := h₁.readConjunction_and hread₂
    refine ⟨k, hk.trans (.and (.refl f) hk₂), ?_⟩
    rw [List.append_assoc, List.cons_append]
    exact hread

/-- A chain is read as one disjunction up to where neither `AND` nor `OR` follows. -/
theorem IsChain.readDisjunction {ts : List Token} {f : Formula} (h : IsChain ts f) (rest : List Token)
    (hand : rest.head? ≠ some (keyword .and)) (hor : rest.head? ≠ some (keyword .or)) :
    ∃ k : Formula, k.Regrouped f ∧ Token.readDisjunction (ts ++ rest) = some (k, rest) := by
  obtain ⟨k, hk, hread⟩ := h.readConjunction rest hand
  refine ⟨k, hk, ?_⟩
  rw [Token.readDisjunction, hread]
  split
  · rename_i heq
    cases heq
    exact absurd rfl hor
  · rfl

/-- Two chains with `OR` between them are a unit when they stand in parentheses. -/
theorem IsChain.or {ts us : List Token} {f g : Formula} (h : IsChain ts f) (h' : IsChain us g) :
    IsUnit (opening :: (ts ++ keyword .or :: us ++ [closing])) (.or f g) := by
  intro rest
  obtain ⟨g', hg, hright⟩ := h'.readDisjunction (closing :: rest) (by simp) (by simp)
  obtain ⟨f', hf, hleft⟩ := h.readConjunction (keyword .or :: (us ++ closing :: rest)) (by simp)
  have hboth : Token.readDisjunction (ts ++ keyword .or :: (us ++ closing :: rest)) = some (.or f' g', closing :: rest) := by
    have hlt : (us ++ closing :: rest).length < (ts ++ keyword .or :: (us ++ closing :: rest)).length := by
      simp only [List.length_append, List.length_cons]
      omega
    rw [Token.readDisjunction, hleft]
    simp only [if_pos hlt, hright, Option.map_some]
  refine ⟨.or f' g', .or hf hg, ?_⟩
  simp only [List.cons_append, List.append_assoc, List.nil_append, readUnit, hboth]

/-- The negation of a chain in parentheses is a unit. -/
theorem IsChain.not {ts : List Token} {f : Formula} (h : IsChain ts f) :
    IsUnit (keyword .not :: opening :: (ts ++ [closing])) (.not f) := by
  intro rest
  obtain ⟨f', hf, hinner⟩ := h.readDisjunction (closing :: rest) (by simp) (by simp)
  refine ⟨.not f', .not hf, ?_⟩
  simp only [List.cons_append, List.append_assoc, List.nil_append, readUnit, hinner, Option.map_some]

/-- The tokens of the values of a membership test after its first. -/
def ofMembers (values : List Value) : List Token :=
  values.flatMap fun v => [comma, argument v]

/-- The values of a membership test are read up to the parenthesis after them. -/
theorem readMembers_ofMembers (values : List Value) (rest : List Token) :
    readMembers (ofMembers values ++ closing :: rest) = some (values, rest) := by
  induction values with
  | nil => rfl
  | cons v values ih =>
    have hcons : ofMembers (v :: values) = comma :: argument v :: ofMembers values := rfl
    rw [hcons, List.cons_append, List.cons_append, readMembers, ih]
    rfl

/-- The word before a negated test. -/
def ofNegated (negated : Bool) : List Token :=
  if negated then [keyword .not] else []

end Token

/-- The tokens that state a predicate. A membership test has at least one value. -/
inductive Predicate.Stated : Predicate → List Token → Prop
  | compare (column : String) (c : Comparison) (v : Value) :
      Stated (.compare column c v) [.name column, .comparison c, .argument v]
  | like (column : String) (negated : Bool) (v : Value) :
      Stated (.compare column (if negated then .notLike else .like) v)
        (.name column :: (Token.ofNegated negated ++ [.keyword .like, .argument v]))
  | between (column : String) (negated : Bool) (low high : Value) :
      Stated (.between column negated low high)
        (.name column :: (Token.ofNegated negated ++
          [.keyword .between, .argument low, .keyword .and, .argument high]))
  | member (column : String) (negated : Bool) (v : Value) (values : List Value) :
      Stated (.member column negated (v :: values))
        (.name column :: (Token.ofNegated negated ++ .keyword .within :: .opening :: .argument v ::
          (Token.ofMembers values ++ [.closing])))
  | null (column : String) (negated : Bool) :
      Stated (.null column negated) (.name column :: .keyword .is :: (Token.ofNegated negated ++ [.keyword .null]))

/-- The tokens that state a predicate are a unit. -/
theorem Predicate.Stated.isUnit {p : Predicate} {ts : List Token} (h : p.Stated ts) : Token.IsUnit ts (.predicate p) := by
  intro rest
  refine ⟨.predicate p, .refl _, ?_⟩
  cases h with
  | compare column c v => simp only [List.cons_append, List.nil_append, Token.readUnit, Token.readPredicate, Option.map_some]
  | like column negated v => cases negated <;> simp [Token.ofNegated, Token.readUnit, Token.readPredicate, Token.readTest]
  | between column negated low high =>
    cases negated <;> simp [Token.ofNegated, Token.readUnit, Token.readPredicate, Token.readTest]
  | member column negated v values =>
    cases negated <;>
      simp [Token.ofNegated, Token.readUnit, Token.readPredicate, Token.readTest, Token.readMembers_ofMembers]
  | null column negated => cases negated <;> simp [Token.ofNegated, Token.readUnit, Token.readPredicate]

/-- The formula that the text of a statement states about its arguments, if all of it is one condition. -/
def Formula.read? (d : Dialect) (s : Statement) : Option Formula :=
  match (Token.ofText? d.nameQuote s.args s.sql.toList).bind Token.readDisjunction with
  | some (f, []) => some f
  | _ => none

end RecordSql
