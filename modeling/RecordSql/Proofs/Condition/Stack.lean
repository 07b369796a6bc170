import RecordSql.Dialect.Query

/-!
# The stack of fragments

What a leaf is compiled to (`compileLeaf_eq_ok_iff`), what a node can do to the stack (`compileNode_cases`), and what follows from
both: a stack with a fragment on it keeps one, a leaf puts one on, and what the fragments of leaves have and combinators keep all
fragments have (`Kept`). No fragment is empty, so a condition that compiles has an empty fragment exactly when it has no leaf
(`isEmpty_of_compile`).
-/

namespace RecordSql.Condition

/-- What a node does to the stack when it does not fail. -/
theorem compileNode_cases {d : Dialect} {position : Nat} {node : Node} {stack next : List Statement}
    (h : compileNode d position node stack = .ok next) :
    (node.kind = .ignore ∧ next = stack) ∨
    (∃ right left rest, (node.kind = .and ∨ node.kind = .or) ∧ stack = right :: left :: rest ∧
      next = join node.kind left right :: rest) ∨
    (∃ inner rest, node.kind = .not ∧ stack = inner :: rest ∧ next = negate inner :: rest) ∨
    (∃ fragment, node.kind.isLeaf = true ∧ compileLeaf d position node = .ok fragment ∧ next = fragment :: stack) := by
  unfold compileNode at h
  split at h
  · rename_i hk
    cases h
    exact .inl ⟨hk, rfl⟩
  · rename_i hk
    split at h
    · cases h
    split at h
    · cases h
      exact .inr (.inl ⟨_, _, _, .inl hk, rfl, rfl⟩)
    · cases h
  · rename_i hk
    split at h
    · cases h
    split at h
    · cases h
      exact .inr (.inl ⟨_, _, _, .inr hk, rfl, rfl⟩)
    · cases h
  · rename_i hk
    split at h
    · cases h
    split at h
    · cases h
      exact .inr (.inr (.inl ⟨_, _, hk, rfl, rfl⟩))
    · cases h
  · rename_i hignore hand hor hnot
    cases hl : compileLeaf d position node with
    | error f =>
      rw [hl] at h
      cases h
    | ok fragment =>
      rw [hl] at h
      cases h
      refine .inr (.inr (.inr ⟨fragment, ?_, rfl, rfl⟩))
      cases hk : node.kind <;> simp_all [NodeKind.isLeaf, NodeKind.isCombinator]

/-- The stack after a node is empty when it was empty before and the node is no leaf. -/
theorem isEmpty_compileNode {d : Dialect} {position : Nat} {node : Node} {stack next : List Statement}
    (h : compileNode d position node stack = .ok next) : next.isEmpty = (stack.isEmpty && !node.kind.isLeaf) := by
  rcases compileNode_cases h with ⟨hk, rfl⟩ | ⟨_, _, _, _, rfl, rfl⟩ | ⟨_, _, _, rfl, rfl⟩ | ⟨_, hk, _, rfl⟩
  · simp [hk, NodeKind.isLeaf, NodeKind.isCombinator]
  · rfl
  · rfl
  · simp [hk]

/-- The stack after some nodes is empty when it was empty before and none of them is a leaf. -/
theorem isEmpty_compileNodes {d : Dialect} {nodes : List Node} {position : Nat} {stack final : List Statement}
    (h : compileNodes d position stack nodes = .ok final) :
    final.isEmpty = (stack.isEmpty && !nodes.any (·.kind.isLeaf)) := by
  induction nodes generalizing position stack with
  | nil =>
    cases h
    simp
  | cons node nodes ih =>
    simp only [compileNodes] at h
    split at h
    · rename_i next hnext
      rw [ih h, isEmpty_compileNode hnext, List.any_cons]
      cases stack.isEmpty <;> cases node.kind.isLeaf <;> rfl
    · cases h

/-- A statement whose text is not empty is not empty. -/
theorem isEmpty_eq_false_of_sql {s : Statement} (h : s.sql ≠ "") : s.isEmpty = false := by
  simp [Statement.isEmpty, h]

/-- What the leaves of a condition are compiled to. -/
inductive LeafFragment (d : Dialect) : Node → Statement → Prop
  | compare (c : Comparison) (column : String) (v : Value) : LeafFragment d ⟨.compare c, some (.value column v)⟩
      (columnFragment d column (" " ++ (NodeKind.compare c).keyword ++ " ?") [v])
  | between (n : Bool) (column : String) (low high : Value) : LeafFragment d ⟨.between n, some (.range column low high)⟩
      (columnFragment d column (" " ++ (NodeKind.between n).keyword ++ " ? AND ?") [low, high])
  | member (n : Bool) (column : String) (v : Value) (values : List Value) : LeafFragment d ⟨.member n, some (.list column (v :: values))⟩
      (columnFragment d column
        (" " ++ (NodeKind.member n).keyword ++ " (" ++ Text.separated "," ((v :: values).map fun _ => "?") ++ ")") (v :: values))
  | nullColumn (n : Bool) (column : String) : LeafFragment d ⟨.null n, some (.column column)⟩
      (columnFragment d column (" " ++ (NodeKind.null n).keyword) [])
  | nullValue (n : Bool) (column : String) (v : Value) : LeafFragment d ⟨.null n, some (.value column v)⟩
      (columnFragment d column (" " ++ (NodeKind.null n).keyword) [])

/-- A leaf is compiled to its fragment, at any position. -/
theorem compileLeaf_eq_ok_iff {d : Dialect} {position : Nat} {node : Node} {fragment : Statement} :
    compileLeaf d position node = .ok fragment ↔ LeafFragment d node fragment := by
  constructor
  · intro h
    obtain ⟨kind, operand⟩ := node
    simp only [compileLeaf] at h
    split at h
    · rename_i c column v
      cases h
      exact .compare c column v
    · rename_i n column low high
      cases h
      exact .between n column low high
    · rename_i n column values
      cases values with
      | nil => cases h
      | cons v values =>
        cases h
        exact .member n column v values
    · rename_i n column
      cases h
      exact .nullColumn n column
    · rename_i n column v
      cases h
      exact .nullValue n column v
    · cases h
  · intro h
    cases h <;> rfl

/-- The fragment of a leaf is not empty. -/
theorem sql_compileLeaf_ne {d : Dialect} {position : Nat} {node : Node} {fragment : Statement}
    (h : compileLeaf d position node = .ok fragment) : fragment.sql ≠ "" := by
  have hcolumn : ∀ column rest args, (columnFragment d column rest args).sql ≠ "" := by
    intro column rest args
    simp [columnFragment, Dialect.quoteName, Text.enclosed, String.append_eq_empty_iff]
  cases compileLeaf_eq_ok_iff.mp h <;> exact hcolumn _ _ _

/-- What the fragments of leaves have and combinators keep. -/
structure Kept (d : Dialect) (P : Statement → Prop) : Prop where
  leaf : ∀ {position node fragment}, compileLeaf d position node = .ok fragment → P fragment
  join : ∀ {kind left right}, kind = .and ∨ kind = .or → P left → P right → P (join kind left right)
  negate : ∀ {inner}, P inner → P (negate inner)

namespace Kept

variable {d : Dialect} {P : Statement → Prop} (hP : Kept d P)

include hP

/-- A node keeps what all fragments on the stack have. -/
theorem compileNode {position : Nat} {node : Node} {stack next : List Statement}
    (h : compileNode d position node stack = .ok next) (hs : ∀ s ∈ stack, P s) : ∀ s ∈ next, P s := by
  rcases compileNode_cases h with ⟨-, rfl⟩ | ⟨right, left, rest, hk, rfl, rfl⟩ | ⟨inner, rest, -, rfl, rfl⟩ |
    ⟨fragment, -, hf, rfl⟩
  · exact hs
  · intro s hmem
    rcases List.mem_cons.mp hmem with rfl | hmem
    · exact hP.join hk (hs left (by simp)) (hs right (by simp))
    · exact hs s (by simp [hmem])
  · intro s hmem
    rcases List.mem_cons.mp hmem with rfl | hmem
    · exact hP.negate (hs inner (by simp))
    · exact hs s (by simp [hmem])
  · intro s hmem
    rcases List.mem_cons.mp hmem with rfl | hmem
    · exact hP.leaf hf
    · exact hs s hmem

/-- Nodes keep what all fragments on the stack have. -/
theorem compileNodes {nodes : List Node} {position : Nat} {stack final : List Statement}
    (h : compileNodes d position stack nodes = .ok final) (hs : ∀ s ∈ stack, P s) : ∀ s ∈ final, P s := by
  induction nodes generalizing position stack with
  | nil =>
    cases h
    exact hs
  | cons node nodes ih =>
    simp only [Condition.compileNodes] at h
    split at h
    · rename_i next hnext
      exact ih h (hP.compileNode hnext hs)
    · cases h

end Kept

/-- The nodes of a condition that compiles leave its fragment, or nothing when it has no leaf. -/
theorem compile_eq_ok_iff {d : Dialect} {c : Condition} {s : Statement} :
    c.compile d = .ok s ↔
      compileNodes d 0 [] c.nodes = .ok (if c.hasLeaf then [s] else []) ∧ (c.hasLeaf = false → s = .empty) := by
  unfold compile
  constructor
  · intro h
    split at h
    · cases h
    · rename_i hn
      have hl : c.hasLeaf = false := Bool.not_inj (isEmpty_compileNodes hn).symm
      cases h
      simp [hn, hl]
    · rename_i fragment hn
      have hl : c.hasLeaf = true := Bool.not_inj (isEmpty_compileNodes hn).symm
      cases h
      simp [hn, hl]
    · cases h
  · rintro ⟨h, hs⟩
    cases hl : c.hasLeaf with
    | true => simp [h, hl]
    | false => simp [h, hl, hs hl]

/-- The fragment of a condition with a leaf has what all fragments have. -/
theorem Kept.compile {d : Dialect} {P : Statement → Prop} (hP : Kept d P) {c : Condition} {s : Statement}
    (h : c.compile d = .ok s) (hl : c.hasLeaf = true) : P s := by
  obtain ⟨hn, -⟩ := compile_eq_ok_iff.mp h
  rw [if_pos hl] at hn
  exact hP.compileNodes hn (by simp) s (by simp)

/-- No fragment is empty. -/
theorem kept_sql_ne (d : Dialect) : Kept d fun s => s.sql ≠ "" where
  leaf h := sql_compileLeaf_ne h
  join hk hleft _ := by rcases hk with rfl | rfl <;> simp [join, Statement.ofText, String.append_eq_empty_iff, hleft]
  negate _ := by simp [negate, Statement.ofText, String.append_eq_empty_iff]

/-- A condition that compiles has an empty fragment exactly when it has no leaf. -/
theorem isEmpty_of_compile {d : Dialect} {c : Condition} {s : Statement} (h : c.compile d = .ok s) :
    s.isEmpty = !c.hasLeaf := by
  cases hl : c.hasLeaf with
  | true => exact isEmpty_eq_false_of_sql ((kept_sql_ne d).compile h hl)
  | false =>
    obtain ⟨-, hs⟩ := compile_eq_ok_iff.mp h
    rw [hs hl]
    rfl

end RecordSql.Condition

namespace RecordSql.Dialect

variable {d : Dialect} {search : Condition}

/-- A search that compiles is written behind `WHERE` when it has a leaf, and the clauses after it. -/
theorem condition_of_compile {s : Statement} (h : search.compile d = .ok s) (c : Clauses) :
    d.condition search c = .ok ((if search.hasLeaf then .ofText "\nWHERE " ++ s else .empty) ++ .ofText (d.clauses c)) := by
  unfold condition
  rw [h]
  dsimp only
  rw [Condition.isEmpty_of_compile h]
  cases search.hasLeaf <;> rfl

/-- A search that does not compile is not written. -/
theorem condition_of_error {f : Fault} (h : search.compile d = .error f) (c : Clauses) : d.condition search c = .error f := by
  rw [condition, h]

end RecordSql.Dialect
