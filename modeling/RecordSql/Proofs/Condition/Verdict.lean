import RecordSql.Proofs.Condition.Stack

/-!
# Which conditions compile

A node is sound at a height of the stack when it carries what its kind takes, lists some value if it is a membership test, and finds
as many fragments as it combines. A condition compiles exactly when every node is sound at the height where it stands and at most one
fragment is left; otherwise the fault is that of the first node that is not sound, or tells that fragments are left
(`compile_verdict`). Heights are counted from the kinds of the nodes alone, so the dialect plays no part in either.
-/

namespace RecordSql

/-- A node carries the operand that its kind takes, a combinator none. A node that does nothing may carry anything. -/
inductive Node.Carries : Node → Prop
  | compare (c : Comparison) (column : String) (v : Value) : Carries ⟨.compare c, some (.value column v)⟩
  | between (n : Bool) (column : String) (low high : Value) : Carries ⟨.between n, some (.range column low high)⟩
  | member (n : Bool) (column : String) (values : List Value) : Carries ⟨.member n, some (.list column values)⟩
  | nullColumn (n : Bool) (column : String) : Carries ⟨.null n, some (.column column)⟩
  | nullValue (n : Bool) (column : String) (v : Value) : Carries ⟨.null n, some (.value column v)⟩
  | and : Carries ⟨.and, none⟩
  | or : Carries ⟨.or, none⟩
  | not : Carries ⟨.not, none⟩
  | ignore (operand : Option Operand) : Carries ⟨.ignore, operand⟩

namespace NodeKind

/-- The number of fragments that a node of the kind combines. -/
def arity : NodeKind → Nat
  | and | or => 2
  | not => 1
  | _ => 0

/-- How much higher a node of the kind makes the stack. -/
def growth : NodeKind → Int
  | and | or => -1
  | not | ignore => 0
  | _ => 1

end NodeKind

/-- A node does its work on a stack of the given height. -/
structure Node.Sound (height : Int) (node : Node) : Prop where
  carries : node.Carries
  listed : ∀ n column, node ≠ ⟨.member n, some (.list column [])⟩
  operands : (node.kind.arity : Int) ≤ height

/-- The fault of a node at a position that is not sound at the height of the stack. A wrong operand counts before missing fragments. -/
inductive Node.Offends (position : Nat) (height : Int) : Node → Fault → Prop
  | operand {node : Node} (h : ¬ node.Carries) : Offends position height node (.mismatchedOperand position node.kind)
  | list (n : Bool) (column : String) : Offends position height ⟨.member n, some (.list column [])⟩ (.emptyList column)
  | binary {kind : NodeKind} (hk : kind = .and ∨ kind = .or) (h : height < 2) :
      Offends position height ⟨kind, none⟩ (.invalidTree position .binaryWithoutOperands)
  | not (h : height < 1) : Offends position height ⟨.not, none⟩ (.invalidTree position .notWithoutOperand)

namespace Condition

/-- The height of the stack that some nodes leave. -/
def height : List Node → Int
  | [] => 0
  | node :: nodes => node.kind.growth + height nodes

theorem height_append (ns ms : List Node) : height (ns ++ ms) = height ns + height ms := by
  induction ns with
  | nil => simp [height]
  | cons node ns ih => simp only [List.cons_append, height, ih, Int.add_assoc]

/-- Every node before a position is sound where it stands. -/
def SoundBefore (c : Condition) (position : Nat) : Prop :=
  ∀ q < position, ∀ node, c.nodes[q]? = some node → node.Sound (height (c.nodes.take q))

/-- Every node is sound where it stands, and at most one fragment is left. -/
def IsWellFormed (c : Condition) : Prop :=
  c.SoundBefore c.nodes.length ∧ height c.nodes ≤ 1

/-- The fault of the first node that is not sound, or else of too many fragments. -/
inductive Blames (c : Condition) : Fault → Prop
  | node {position : Nat} {node : Node} {f : Fault} (hbefore : c.SoundBefore position) (hnode : c.nodes[position]? = some node)
      (h : node.Offends position (height (c.nodes.take position)) f) : Blames c f
  | fragments (hall : c.SoundBefore c.nodes.length) (h : 1 < height c.nodes) :
      Blames c (.invalidTree c.nodes.length .fragmentsLeft)

/-! ## One node -/

variable {d : Dialect} {position : Nat} {node : Node} {stack : List Statement}

/-- On a stack a node is sound or has a fault. -/
theorem sound_or_offends (position : Nat) (node : Node) {height : Int} (h : 0 ≤ height) :
    node.Sound height ∨ ∃ f, node.Offends position height f := by
  by_cases hc : node.Carries
  · cases hc with
    | member n column values =>
      cases values with
      | nil => exact .inr ⟨_, .list n column⟩
      | cons v values => exact .inl ⟨.member .., by simp, h⟩
    | and =>
      by_cases hh : height < 2
      · exact .inr ⟨_, .binary (.inl rfl) hh⟩
      · exact .inl ⟨.and, by simp, Int.not_lt.mp hh⟩
    | or =>
      by_cases hh : height < 2
      · exact .inr ⟨_, .binary (.inr rfl) hh⟩
      · exact .inl ⟨.or, by simp, Int.not_lt.mp hh⟩
    | not =>
      by_cases hh : height < 1
      · exact .inr ⟨_, .not hh⟩
      · exact .inl ⟨.not, by simp, Int.not_lt.mp hh⟩
    | compare c column v => exact .inl ⟨.compare .., by simp, h⟩
    | between n column low high => exact .inl ⟨.between .., by simp, h⟩
    | nullColumn n column => exact .inl ⟨.nullColumn .., by simp, h⟩
    | nullValue n column v => exact .inl ⟨.nullValue .., by simp, h⟩
    | ignore operand => exact .inl ⟨.ignore _, by simp, h⟩
  · exact .inr ⟨_, .operand hc⟩

/-- A sound node is compiled, and changes the height of the stack as its kind tells. -/
theorem compileNode_of_sound (d : Dialect) (position : Nat) (h : node.Sound stack.length) :
    ∃ next, compileNode d position node stack = .ok next ∧ (next.length : Int) = stack.length + node.kind.growth := by
  obtain ⟨hcarries, hlisted, hoperands⟩ := h
  have hpush : ∀ s : Statement, ((s :: stack).length : Int) = stack.length + 1 := fun s => by simp
  cases hcarries with
  | compare c column v => exact ⟨_, rfl, hpush _⟩
  | between n column low high => exact ⟨_, rfl, hpush _⟩
  | member n column values =>
    cases values with
    | nil => exact absurd rfl (hlisted n column)
    | cons v values => exact ⟨_, rfl, hpush _⟩
  | nullColumn n column => exact ⟨_, rfl, hpush _⟩
  | nullValue n column v => exact ⟨_, rfl, hpush _⟩
  | and | or =>
    rcases stack with _ | ⟨right, _ | ⟨left, rest⟩⟩
    · simp [NodeKind.arity] at hoperands
    · simp [NodeKind.arity] at hoperands
    · refine ⟨_, rfl, ?_⟩
      simp only [NodeKind.growth, List.length_cons]
      omega
  | not =>
    rcases stack with _ | ⟨inner, rest⟩
    · simp [NodeKind.arity] at hoperands
    · exact ⟨_, rfl, by simp [NodeKind.growth]⟩
  | ignore operand => exact ⟨_, rfl, by simp [NodeKind.growth]⟩

/-- A node with a fault fails with it. -/
theorem compileNode_of_offends (d : Dialect) {f : Fault} (h : node.Offends position stack.length f) :
    compileNode d position node stack = .error f := by
  cases h with
  | list n column => rfl
  | binary hk hheight =>
    rcases stack with _ | ⟨right, _ | ⟨left, rest⟩⟩
    · rcases hk with rfl | rfl <;> rfl
    · rcases hk with rfl | rfl <;> rfl
    · simp only [List.length_cons] at hheight
      omega
  | not hheight =>
    rcases stack with _ | ⟨inner, rest⟩
    · rfl
    · simp only [List.length_cons] at hheight
      omega
  | operand hcarries =>
    obtain ⟨kind, operand⟩ := node
    cases kind with
    | compare c =>
      rcases operand with _ | ⟨_ | _ | _ | _⟩
      · rfl
      · exact absurd (.compare ..) hcarries
      all_goals rfl
    | between n =>
      rcases operand with _ | ⟨_ | _ | _ | _⟩
      · rfl
      · rfl
      · exact absurd (.between ..) hcarries
      all_goals rfl
    | member n =>
      rcases operand with _ | ⟨_ | _ | _ | _⟩
      · rfl
      · rfl
      · rfl
      · exact absurd (.member ..) hcarries
      · rfl
    | null n =>
      rcases operand with _ | ⟨_ | _ | _ | _⟩
      · rfl
      · exact absurd (.nullValue ..) hcarries
      · rfl
      · rfl
      · exact absurd (.nullColumn ..) hcarries
    | and =>
      cases operand with
      | none => exact absurd .and hcarries
      | some operand => rfl
    | or =>
      cases operand with
      | none => exact absurd .or hcarries
      | some operand => rfl
    | not =>
      cases operand with
      | none => exact absurd .not hcarries
      | some operand => rfl
    | ignore => exact absurd (.ignore operand) hcarries

/-! ## All nodes -/

variable {c : Condition}

/-- Sound nodes are compiled, to a stack of their height. -/
theorem compileNodes_of_soundBefore (d : Dialect) (h : c.SoundBefore position) (hp : position ≤ c.nodes.length) :
    ∃ stack, compileNodes d 0 [] (c.nodes.take position) = .ok stack ∧
      (stack.length : Int) = height (c.nodes.take position) := by
  induction position with
  | zero => exact ⟨[], rfl, rfl⟩
  | succ position ih =>
    have hlt : position < c.nodes.length := hp
    obtain ⟨stack, hstack, hheight⟩ := ih (fun q hq => h q (Nat.lt_succ_of_lt hq)) (Nat.le_of_lt hlt)
    have hsound := h position (Nat.lt_succ_self _) _ (List.getElem?_eq_getElem hlt)
    rw [← hheight] at hsound
    obtain ⟨next, hnext, hlength⟩ := compileNode_of_sound d (0 + (c.nodes.take position).length) hsound
    refine ⟨next, ?_, ?_⟩
    · rw [List.take_succ_eq_append_getElem hlt, compileNodes_append, hstack]
      simp only [Except.bind, compileNodes, hnext]
    · rw [List.take_succ_eq_append_getElem hlt, height_append, ← hheight, hlength]
      simp [height]

/-- The first node that is not sound decides the fault. -/
theorem compileNodes_of_offends (d : Dialect) {f : Fault} (hbefore : c.SoundBefore position)
    (hnode : c.nodes[position]? = some node) (h : node.Offends position (height (c.nodes.take position)) f) :
    compileNodes d 0 [] c.nodes = .error f := by
  obtain ⟨hlt, hget⟩ := List.getElem?_eq_some_iff.mp hnode
  obtain ⟨stack, hstack, hheight⟩ := compileNodes_of_soundBefore d hbefore (Nat.le_of_lt hlt)
  have hsplit : c.nodes = c.nodes.take position ++ node :: c.nodes.drop (position + 1) := by
    rw [← hget, List.getElem_cons_drop, List.take_append_drop]
  have hlength : 0 + (c.nodes.take position).length = position := by
    rw [List.length_take]
    omega
  rw [← hheight] at h
  rw [hsplit, compileNodes_append, hstack, hlength]
  simp only [Except.bind, compileNodes, compileNode_of_offends d h]

/-- Up to a position all nodes are sound, or there is a first one that is not. -/
theorem soundBefore_or (c : Condition) (position : Nat) (hp : position ≤ c.nodes.length) :
    c.SoundBefore position ∨ ∃ p node f, c.SoundBefore p ∧ c.nodes[p]? = some node ∧
      node.Offends p (height (c.nodes.take p)) f := by
  induction position with
  | zero => exact .inl fun q hq => absurd hq (Nat.not_lt_zero q)
  | succ position ih =>
    have hlt : position < c.nodes.length := hp
    rcases ih (Nat.le_of_lt hlt) with hbefore | hfault
    · -- the height is that of a stack, which any dialect shows, so it is not negative
      obtain ⟨stack, -, hheight⟩ := compileNodes_of_soundBefore .generic hbefore (Nat.le_of_lt hlt)
      have hnonneg : 0 ≤ height (c.nodes.take position) := by omega
      rcases sound_or_offends position c.nodes[position] hnonneg with hs | ⟨f, hf⟩
      · refine .inl fun q hq node hnode => ?_
        rcases Nat.lt_succ_iff_lt_or_eq.mp hq with hq | rfl
        · exact hbefore q hq node hnode
        · rw [List.getElem?_eq_getElem hlt] at hnode
          cases hnode
          exact hs
      · exact .inr ⟨position, _, f, hbefore, List.getElem?_eq_getElem hlt, hf⟩
    · exact .inr hfault

/-- A well-formed condition compiles. -/
theorem compile_of_isWellFormed (d : Dialect) (h : c.IsWellFormed) : ∃ s, c.compile d = .ok s := by
  obtain ⟨hsound, hone⟩ := h
  obtain ⟨stack, hstack, hheight⟩ := compileNodes_of_soundBefore d hsound (Nat.le_refl _)
  rw [List.take_length] at hstack hheight
  rw [compile, hstack]
  rcases stack with _ | ⟨fragment, _ | ⟨next, rest⟩⟩
  · exact ⟨_, rfl⟩
  · exact ⟨_, rfl⟩
  · simp only [List.length_cons] at hheight
    omega

/-- A condition with a fault fails with it. -/
theorem compile_of_blames (d : Dialect) {f : Fault} (h : c.Blames f) : c.compile d = .error f := by
  cases h with
  | node hbefore hnode h => rw [compile, compileNodes_of_offends d hbefore hnode h]
  | fragments hall h =>
    obtain ⟨stack, hstack, hheight⟩ := compileNodes_of_soundBefore d hall (Nat.le_refl _)
    rw [List.take_length] at hstack hheight
    rw [compile, hstack]
    rcases stack with _ | ⟨fragment, _ | ⟨next, rest⟩⟩
    · simp only [List.length_nil] at hheight
      omega
    · simp only [List.length_cons, List.length_nil] at hheight
      omega
    · rfl

/-- Every condition is well-formed or has a fault. -/
theorem isWellFormed_or_blames (c : Condition) : c.IsWellFormed ∨ ∃ f, c.Blames f := by
  rcases c.soundBefore_or c.nodes.length (Nat.le_refl _) with hall | ⟨p, node, f, hbefore, hnode, hf⟩
  · by_cases hone : height c.nodes ≤ 1
    · exact .inl ⟨hall, hone⟩
    · exact .inr ⟨_, .fragments hall (Int.not_le.mp hone)⟩
  · exact .inr ⟨f, .node hbefore hnode hf⟩

/-- A condition compiles exactly when it is well-formed. -/
theorem exists_compile_iff (d : Dialect) (c : Condition) : (∃ s, c.compile d = .ok s) ↔ c.IsWellFormed := by
  refine ⟨fun ⟨s, hs⟩ => ?_, compile_of_isWellFormed d⟩
  rcases c.isWellFormed_or_blames with h | ⟨f, hf⟩
  · exact h
  · rw [compile_of_blames d hf] at hs
    cases hs

/-- A condition fails exactly with its fault. -/
theorem compile_eq_error_iff (d : Dialect) (c : Condition) (f : Fault) : c.compile d = .error f ↔ c.Blames f := by
  refine ⟨fun h => ?_, compile_of_blames d⟩
  rcases c.isWellFormed_or_blames with hw | ⟨g, hg⟩
  · obtain ⟨s, hs⟩ := compile_of_isWellFormed d hw
    rw [hs] at h
    cases h
  · rw [compile_of_blames d hg] at h
    cases h
    exact hg

end Condition

/-- A condition compiles exactly when every node carries its operand, no membership test is empty, every combinator finds its
fragments on the stack that the nodes before it leave, and at most one fragment is left. Otherwise the fault is that of the first node
where this fails. All dialects agree in both. -/
theorem compile_verdict (d : Dialect) (c : Condition) :
    ((∃ s, c.compile d = .ok s) ↔
      (∀ p node, c.nodes[p]? = some node → node.Carries ∧ (∀ n column, node ≠ ⟨.member n, some (.list column [])⟩) ∧
        node.kind.arity ≤ Condition.height (c.nodes.take p)) ∧
      Condition.height c.nodes ≤ 1) ∧
    (∀ f, c.compile d = .error f ↔ c.Blames f) ∧
    ∀ e : Dialect, ((∃ s, c.compile e = .ok s) ↔ ∃ s, c.compile d = .ok s) ∧
      ∀ f, c.compile e = .error f ↔ c.compile d = .error f := by
  refine ⟨?_, Condition.compile_eq_error_iff d c, fun e => ⟨?_, fun f => ?_⟩⟩
  · rw [Condition.exists_compile_iff]
    refine and_congr_left fun _ => ⟨fun h p node hnode => ?_, fun h p _ node hnode => ?_⟩
    · obtain ⟨hcarries, hlisted, hoperands⟩ := h p (List.getElem?_eq_some_iff.mp hnode).1 node hnode
      exact ⟨hcarries, hlisted, hoperands⟩
    · obtain ⟨hcarries, hlisted, hoperands⟩ := h p node hnode
      exact ⟨hcarries, hlisted, hoperands⟩
  · rw [Condition.exists_compile_iff, Condition.exists_compile_iff]
  · rw [Condition.compile_eq_error_iff, Condition.compile_eq_error_iff]

/-- A combinator with an operand on an empty stack is blamed for its operand, and before a later membership test without values. -/
example (d : Dialect) :
    (⟨[⟨.ignore, some (.column "a")⟩, ⟨.and, some (.column "b")⟩, ⟨.member false, some (.list "c" [])⟩]⟩ : Condition).compile d =
      .error (.mismatchedOperand 1 .and) := rfl

end RecordSql
