import RecordSql.Condition.Basic

/-!
# What a condition in postfix order denotes

A leaf denotes a predicate on one column. The nodes of a condition are read from the first to the last on a stack of results, where
the lower of two results is the left one; nothing may be left but one result. With formulas as results this is the formula that the
condition denotes (`Condition.formula?`), with truth values as results it is the truth value that the condition has for a row
(`Condition.truth?`). Truth has three values, and what a row makes of a predicate is left open.
-/

namespace RecordSql

/-- What a leaf says of the column of a row. -/
inductive Predicate where
  | compare (column : String) (comparison : Comparison) (value : Value)
  | between (column : String) (negated : Bool) (low high : Value)
  | member (column : String) (negated : Bool) (values : List Value)
  | null (column : String) (negated : Bool)
  deriving DecidableEq

/-- The predicate of a leaf that carries the operand of its kind. -/
def Node.predicate? : Node → Option Predicate
  | ⟨.compare c, some (.value column v)⟩ => some (.compare column c v)
  | ⟨.between n, some (.range column low high)⟩ => some (.between column n low high)
  | ⟨.member n, some (.list column values)⟩ => some (.member column n values)
  | ⟨.null n, some (.column column)⟩ => some (.null column n)
  | ⟨.null n, some (.value column _)⟩ => some (.null column n)
  | _ => none

/-- A boolean expression over predicates. -/
inductive Formula where
  | predicate (p : Predicate)
  | and (left right : Formula)
  | or (left right : Formula)
  | not (inner : Formula)
  deriving DecidableEq

/-- The truth values of a condition. A comparison with NULL is unknown. -/
inductive Truth where
  | holds
  | fails
  | unknown
  deriving DecidableEq, Repr

namespace Truth

/-- A conjunction fails as soon as one side does. -/
def and : Truth → Truth → Truth
  | fails, _ | _, fails => fails
  | holds, holds => holds
  | _, _ => unknown

/-- A disjunction holds as soon as one side does. -/
def or : Truth → Truth → Truth
  | holds, _ | _, holds => holds
  | fails, fails => fails
  | _, _ => unknown

/-- The negation of the unknown is unknown. -/
def not : Truth → Truth
  | holds => fails
  | fails => holds
  | unknown => unknown

/-- How conjunctions are grouped does not matter. -/
theorem and_assoc (a b c : Truth) : (a.and b).and c = a.and (b.and c) := by
  cases a <;> cases b <;> cases c <;> rfl

end Truth

namespace Formula

/-- The truth value of a formula for a row that makes `row p` of a predicate `p`. -/
def truth (row : Predicate → Truth) : Formula → Truth
  | predicate p => row p
  | and f g => (f.truth row).and (g.truth row)
  | or f g => (f.truth row).or (g.truth row)
  | not f => (f.truth row).not

/-- The predicates of a formula, from left to right. -/
def predicates : Formula → List Predicate
  | predicate p => [p]
  | and f g | or f g => f.predicates ++ g.predicates
  | not f => f.predicates

/-- Two formulas are equal but for how their chains of conjunctions are grouped. -/
inductive Regrouped : Formula → Formula → Prop
  | refl (f : Formula) : Regrouped f f
  | symm {f g : Formula} : Regrouped f g → Regrouped g f
  | trans {f g h : Formula} : Regrouped f g → Regrouped g h → Regrouped f h
  | assoc (f g h : Formula) : Regrouped (.and (.and f g) h) (.and f (.and g h))
  | and {f f' g g' : Formula} : Regrouped f f' → Regrouped g g' → Regrouped (.and f g) (.and f' g')
  | or {f f' g g' : Formula} : Regrouped f f' → Regrouped g g' → Regrouped (.or f g) (.or f' g')
  | not {f f' : Formula} : Regrouped f f' → Regrouped (.not f) (.not f')

/-- Regrouping keeps the truth value for every row. -/
theorem Regrouped.truth_eq {f g : Formula} (h : Regrouped f g) (row : Predicate → Truth) : f.truth row = g.truth row := by
  induction h with
  | refl => rfl
  | symm _ ih => exact ih.symm
  | trans _ _ ih₁ ih₂ => exact ih₁.trans ih₂
  | assoc f g h => exact Truth.and_assoc _ _ _
  | and _ _ ih₁ ih₂ => simp only [truth, ih₁, ih₂]
  | or _ _ ih₁ ih₂ => simp only [truth, ih₁, ih₂]
  | not _ ih => simp only [truth, ih]

/-- Regrouping keeps the predicates and their order. -/
theorem Regrouped.predicates_eq {f g : Formula} (h : Regrouped f g) : f.predicates = g.predicates := by
  induction h with
  | refl => rfl
  | symm _ ih => exact ih.symm
  | trans _ _ ih₁ ih₂ => exact ih₁.trans ih₂
  | assoc f g h => exact List.append_assoc _ _ _
  | and _ _ ih₁ ih₂ => simp only [predicates, ih₁, ih₂]
  | or _ _ ih₁ ih₂ => simp only [predicates, ih₁, ih₂]
  | not _ ih => simp only [predicates, ih]

end Formula

/-- What the nodes of a condition do with results. -/
structure Meaning (β : Type) where
  predicate : Predicate → β
  and : β → β → β
  or : β → β → β
  not : β → β

namespace Meaning

variable {β : Type}

/-- Formulas as results. -/
def formula : Meaning Formula := ⟨.predicate, .and, .or, .not⟩

/-- Truth values as results, for a row that makes `row p` of a predicate `p`. -/
def truth (row : Predicate → Truth) : Meaning Truth := ⟨row, .and, .or, .not⟩

/-- The stack of results after one node. The top of the stack comes first, and of two results the lower is the left one. -/
def step (k : Meaning β) (node : Node) (stack : List β) : Option (List β) :=
  match node.kind, stack with
  | .ignore, stack => some stack
  | .and, right :: left :: rest => some (k.and left right :: rest)
  | .or, right :: left :: rest => some (k.or left right :: rest)
  | .not, inner :: rest => some (k.not inner :: rest)
  | .and, _ | .or, _ | .not, _ => none
  | _, stack => node.predicate?.map (k.predicate · :: stack)

/-- The stack of results after the nodes. -/
def run (k : Meaning β) (stack : List β) : List Node → Option (List β)
  | [] => some stack
  | node :: nodes => (k.step node stack).bind fun stack => k.run stack nodes

/-- The only result that the nodes leave. -/
def result? (k : Meaning β) (nodes : List Node) : Option β :=
  match k.run [] nodes with
  | some [b] => some b
  | _ => none

end Meaning

/-- The formula that a condition denotes. -/
def Condition.formula? (c : Condition) : Option Formula :=
  Meaning.formula.result? c.nodes

/-- The truth value that a condition has for a row, evaluated in postfix order. -/
def Condition.truth? (c : Condition) (row : Predicate → Truth) : Option Truth :=
  (Meaning.truth row).result? c.nodes

/-- The predicates of the leaves of a condition, in order. -/
def Condition.predicates (c : Condition) : List Predicate :=
  c.nodes.filterMap Node.predicate?

namespace Meaning

/-- A node does with truth values what it does with formulas. -/
theorem step_truth (row : Predicate → Truth) (node : Node) (fs : List Formula) :
    (truth row).step node (fs.map (·.truth row)) = (formula.step node fs).map (·.map (·.truth row)) := by
  obtain ⟨kind, operand⟩ := node
  cases kind with
  | ignore => rfl
  | and => rcases fs with _ | ⟨_, _ | ⟨_, _⟩⟩ <;> rfl
  | or => rcases fs with _ | ⟨_, _ | ⟨_, _⟩⟩ <;> rfl
  | not => cases fs <;> rfl
  | _ =>
    simp only [step, Option.map_map]
    rfl

/-- The nodes do with truth values what they do with formulas. -/
theorem run_truth (row : Predicate → Truth) (nodes : List Node) (fs : List Formula) :
    (truth row).run (fs.map (·.truth row)) nodes = (formula.run fs nodes).map (·.map (·.truth row)) := by
  induction nodes generalizing fs with
  | nil => rfl
  | cons node nodes ih =>
    simp only [run, step_truth]
    cases formula.step node fs with
    | none => rfl
    | some next => exact ih next

end Meaning

/-- The truth value in postfix order is that of the formula the condition denotes. -/
theorem Condition.truth?_eq (c : Condition) (row : Predicate → Truth) :
    c.truth? row = c.formula?.map (·.truth row) := by
  have h := Meaning.run_truth row c.nodes []
  rw [List.map_nil] at h
  simp only [truth?, formula?, Meaning.result?, h]
  rcases Meaning.formula.run [] c.nodes with _ | _ | ⟨f, _ | _⟩ <;> rfl

end RecordSql
