import RecordSql.Value.Basic

/-!
# Conditions

A condition is a list of nodes in postfix order: a leaf stands for a predicate on one column, and a combinator is applied to the
results before it. A node of the kind `ignore` does nothing; it keeps the place of a part that was not given. Conditions are built
from leaves and from each other so that a part without leaves never reaches a combinator.
-/

namespace RecordSql

/-- A column with the value that is compared with it or assigned to it. -/
structure Assignment where
  column : String
  value : Value
  deriving DecidableEq

/-- The comparisons of a column with one value. -/
inductive Comparison where
  | equal
  | notEqual
  | greater
  | greaterEqual
  | less
  | lessEqual
  | like
  | notLike
  deriving DecidableEq, Repr

/-- The kinds of nodes of a condition. -/
inductive NodeKind where
  | compare (comparison : Comparison)
  | between (negated : Bool)
  | member (negated : Bool)
  | null (negated : Bool)
  | and
  | or
  | not
  | ignore
  deriving DecidableEq, Repr

namespace NodeKind

/-- Whether the kind combines results. -/
def isCombinator : NodeKind → Bool
  | and | or | not => true
  | _ => false

/-- Whether the kind stands for a predicate. -/
def isLeaf (k : NodeKind) : Bool :=
  !k.isCombinator && k != ignore

/-- The name of the kind in messages. -/
def name : NodeKind → String
  | compare .equal => "Equal"
  | compare .notEqual => "NotEqual"
  | compare .greater => "Greater"
  | compare .greaterEqual => "GreaterEqual"
  | compare .less => "Less"
  | compare .lessEqual => "LessEqual"
  | compare .like => "Like"
  | compare .notLike => "NotLike"
  | between negated => if negated then "NotBetween" else "Between"
  | member negated => if negated then "NotIn" else "In"
  | null negated => if negated then "NotNull" else "Null"
  | and => "And"
  | or => "Or"
  | not => "Not"
  | ignore => "Ignore"

/-- The keyword of the kind in a statement. -/
def keyword : NodeKind → String
  | compare .equal => "="
  | compare .notEqual => "<>"
  | compare .greater => ">"
  | compare .greaterEqual => ">="
  | compare .less => "<"
  | compare .lessEqual => "<="
  | compare .like => "LIKE"
  | compare .notLike => "NOT LIKE"
  | between negated => if negated then "NOT BETWEEN" else "BETWEEN"
  | member negated => if negated then "NOT IN" else "IN"
  | null negated => if negated then "IS NOT NULL" else "IS NULL"
  | and => "AND"
  | or => "OR"
  | not => "NOT"
  | ignore => ""

/-- The kinds of nodes. -/
def all : List NodeKind :=
  [compare .equal, compare .notEqual, compare .greater, compare .greaterEqual, compare .less, compare .lessEqual,
   compare .like, compare .notLike, between false, between true, member false, member true, null false, null true, and, or,
   not, ignore]

/-- The kind of the given name. -/
def ofName? (name : String) : Option NodeKind :=
  all.find? (·.name == name)

end NodeKind

/-- What a leaf applies to. -/
inductive Operand where
  | value (column : String) (value : Value)
  | range (column : String) (low high : Value)
  | list (column : String) (values : List Value)
  | column (column : String)
  deriving DecidableEq

/-- The column of an operand. -/
def Operand.columnName : Operand → String
  | value c _ | range c _ _ | list c _ | column c => c

/-- A node of a condition. -/
structure Node where
  kind : NodeKind
  operand : Option Operand
  deriving DecidableEq

/-- A condition in postfix order. -/
structure Condition where
  nodes : List Node
  deriving DecidableEq

namespace Condition

/-- The condition without nodes, which every row fulfils. -/
def empty : Condition := ⟨[]⟩

/-- Whether the condition has a leaf. -/
def hasLeaf (c : Condition) : Bool :=
  c.nodes.any (·.kind.isLeaf)

/-- A condition of one leaf. -/
def leaf (kind : NodeKind) (operand : Operand) : Condition :=
  ⟨[⟨kind, some operand⟩]⟩

/-- One node of any kind with a column and a value. -/
def compare (kind : NodeKind) (column : String) (value : Value) : Condition :=
  leaf kind (.value column value)

/-- The column equals the value. -/
def eq (column : String) (value : Value) : Condition :=
  compare (.compare .equal) column value

/-- The column lies between two values, or does not. -/
def between (negated : Bool) (column : String) (low high : Value) : Condition :=
  leaf (.between negated) (.range column low high)

/-- The column is one of the values, or is none of them. -/
def member (negated : Bool) (column : String) (values : List Value) : Condition :=
  leaf (.member negated) (.list column values)

/-- The column is NULL, or is not. -/
def null (negated : Bool) (column : String) : Condition :=
  leaf (.null negated) (.column column)

/-- The nodes of two conditions and a combinator for their results, or a node that does nothing when one of them has no leaf. -/
def combine (kind : NodeKind) (left right : Condition) : Condition :=
  let kind := if left.hasLeaf && right.hasLeaf then kind else .ignore
  ⟨left.nodes ++ right.nodes ++ [⟨kind, none⟩]⟩

/-- A combination has a leaf exactly when one of its parts has. -/
theorem hasLeaf_combine (kind : NodeKind) (h : kind.isLeaf = false) (left right : Condition) :
    (combine kind left right).hasLeaf = (left.hasLeaf || right.hasLeaf) := by
  have hk : (if left.hasLeaf && right.hasLeaf then kind else .ignore).isLeaf = false := by
    split
    · exact h
    · rfl
  simp only [combine, hasLeaf, List.any_append, List.any_cons, List.any_nil, Bool.or_false] at hk ⊢
  rw [hk, Bool.or_false]

/-- Both conditions hold. -/
def and (left right : Condition) : Condition :=
  combine .and left right

/-- One of the conditions holds. -/
def or (left right : Condition) : Condition :=
  combine .or left right

/-- The condition does not hold. -/
def not (c : Condition) : Condition :=
  if c.hasLeaf then ⟨c.nodes ++ [⟨.not, none⟩]⟩ else c

/-- The condition with one more part. A part that is absent leaves a node that does nothing. -/
def extend (kind : NodeKind) (c : Condition) : Option Condition → Condition
  | some part => combine kind c part
  | none => ⟨c.nodes ++ [⟨.ignore, none⟩]⟩

/-- All the parts that are present hold. -/
def all (parts : List (Option Condition)) : Condition :=
  parts.foldl (extend .and) empty

/-- One of the parts that are present holds. -/
def any (parts : List (Option Condition)) : Condition :=
  parts.foldl (extend .or) empty

end Condition

end RecordSql
