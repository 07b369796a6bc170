import RecordSql.Condition.Basic
import RecordSql.Dialect.Name
import RecordSql.Fault
import RecordSql.Statement

/-!
# Compiling conditions

A condition is compiled on a stack of fragments, from the first node to the last. A leaf puts its fragment on the stack, `and` and
`or` take two fragments and put one back, the lower of the two on the left, and `not` takes one. A disjunction and a negation carry
their own parentheses, so a conjunction needs none. Nothing may be left but one fragment; a condition without leaves compiles to
the empty fragment.
-/

namespace RecordSql

namespace Condition

/-- A node carries an operand that its kind does not take. -/
def mismatched {α : Type} (position : Nat) (node : Node) : Except Fault α :=
  .error (.mismatchedOperand position node.kind)

/-- A fragment that starts with a quoted column. -/
def columnFragment (d : Dialect) (column rest : String) (args : List Value) : Statement :=
  ⟨d.quoteName column ++ rest, args⟩

/-- The fragment of a leaf. -/
def compileLeaf (d : Dialect) (position : Nat) (node : Node) : Except Fault Statement :=
  match node.kind, node.operand with
  | .compare c, some (.value column v) =>
    .ok (columnFragment d column (" " ++ (NodeKind.compare c).keyword ++ " ?") [v])
  | .between n, some (.range column low high) =>
    .ok (columnFragment d column (" " ++ (NodeKind.between n).keyword ++ " ? AND ?") [low, high])
  | .member n, some (.list column values) =>
    if values.isEmpty then
      .error (.emptyList column)
    else
      .ok (columnFragment d column
        (" " ++ (NodeKind.member n).keyword ++ " (" ++ Text.separated "," (values.map fun _ => "?") ++ ")") values)
  | .null n, some (.column column) => .ok (columnFragment d column (" " ++ (NodeKind.null n).keyword) [])
  | .null n, some (.value column _) => .ok (columnFragment d column (" " ++ (NodeKind.null n).keyword) [])
  | _, _ => mismatched position node

/-- Two fragments with a combinator between them. -/
def join (kind : NodeKind) (left right : Statement) : Statement :=
  let both := left ++ .ofText (" " ++ kind.keyword ++ " ") ++ right
  if kind = .or then .ofText "(" ++ both ++ .ofText ")" else both

/-- The negation of a fragment. -/
def negate (inner : Statement) : Statement :=
  .ofText (NodeKind.not.keyword ++ "(") ++ inner ++ .ofText ")"

/-- The stack after one node. The top of the stack comes first. -/
def compileNode (d : Dialect) (position : Nat) (node : Node) (stack : List Statement) : Except Fault (List Statement) :=
  match node.kind with
  | .ignore => .ok stack
  | .and | .or =>
    if node.operand.isSome then mismatched position node
    else
      match stack with
      | right :: left :: rest => .ok (join node.kind left right :: rest)
      | _ => .error (.invalidTree position .binaryWithoutOperands)
  | .not =>
    if node.operand.isSome then mismatched position node
    else
      match stack with
      | inner :: rest => .ok (negate inner :: rest)
      | [] => .error (.invalidTree position .notWithoutOperand)
  | _ => (compileLeaf d position node).map (· :: stack)

/-- The stack after the nodes, the first of which is at the given position. -/
def compileNodes (d : Dialect) (position : Nat) (stack : List Statement) : List Node → Except Fault (List Statement)
  | [] => .ok stack
  | node :: nodes =>
    match compileNode d position node stack with
    | .ok stack => compileNodes d (position + 1) stack nodes
    | .error f => .error f

/-- Nodes that follow others go on from the stack and the position where these end. -/
theorem compileNodes_append (d : Dialect) (position : Nat) (stack : List Statement) (ns ms : List Node) :
    compileNodes d position stack (ns ++ ms) =
      (compileNodes d position stack ns).bind fun stack => compileNodes d (position + ns.length) stack ms := by
  induction ns generalizing position stack with
  | nil => rfl
  | cons node ns ih =>
    simp only [List.cons_append, compileNodes, List.length_cons]
    cases compileNode d position node stack with
    | error f => rfl
    | ok next =>
      rw [Nat.add_comm ns.length 1, ← Nat.add_assoc]
      exact ih (position + 1) next

/-- The fragment of a condition. -/
def compile (d : Dialect) (c : Condition) : Except Fault Statement :=
  match compileNodes d 0 [] c.nodes with
  | .error f => .error f
  | .ok [] => .ok .empty
  | .ok [fragment] => .ok fragment
  | .ok (_ :: _ :: _) => .error (.invalidTree c.nodes.length .fragmentsLeft)

end Condition

end RecordSql
