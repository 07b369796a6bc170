import Mathlib.Data.List.Forall2
import RecordSql.Proofs.Condition.Spelling
import RecordSql.Proofs.Condition.Stack

/-!
# The meaning of compiled conditions

A condition that compiles denotes a formula, and the text of its fragment, read with its arguments by the grammar of conditions, is
that formula again (`compile_read`): a conjunction is written without parentheses, so only the grouping of conjunctions can differ.
Every row has therefore the same truth value by the text as by the nodes in postfix order.

The induction is over the nodes: each fragment on the stack stands for the formula at the same place (`Stands`), which says both how
the fragment is read as tokens and how its tokens are read as a formula.
-/

namespace RecordSql

/-- A fragment whose tokens are a chain of units for the formula. -/
def Stands (d : Dialect) (s : Statement) (f : Formula) : Prop :=
  s.sql.toList ≠ [] ∧ ∃ ts, Token.IsChain ts f ∧ Token.Spells d s.sql.toList s.args ts

namespace Stands

variable {d : Dialect} {left right inner : Statement} {f g : Formula}

/-- A word between blanks before a fragment. -/
theorem spells_amid {text : List Char} {args : List Value} {ts : List Token} (h : Token.Spells d text args ts) (c : Char)
    (cs : List Char) (k : Keyword) (hk : Keyword.ofWord? (c :: cs) = some k) (hc : (c :: cs).all Char.isUpper = true) :
    Token.Spells d (' ' :: (c :: cs ++ ' ' :: text)) args (.keyword k :: ts) :=
  (h.blank.word c cs k hk hc rfl).blank

/-- Fragments with a conjunction between them stand for the conjunction. -/
theorem and (hl : Stands d left f) (hr : Stands d right g) : Stands d (Condition.join .and left right) (.and f g) := by
  obtain ⟨hne, ts, htoks, hts⟩ := hl
  obtain ⟨-, us, huoks, hus⟩ := hr
  have hsql : (Condition.join .and left right).sql.toList = left.sql.toList ++ ' ' :: 'A' :: 'N' :: 'D' :: ' ' ::
      right.sql.toList := by
    simp [Condition.join, NodeKind.keyword, Statement.ofText]
  have hargs : (Condition.join .and left right).args = left.args ++ right.args := by
    simp [Condition.join, Statement.ofText]
  refine ⟨by simp [hsql], ts ++ .keyword .and :: us, .and htoks huoks, ?_⟩
  rw [hsql, hargs]
  exact hts.append (spells_amid hus 'A' ['N', 'D'] .and rfl (by decide)) (by simp) rfl

/-- Fragments with a disjunction between them, in parentheses, stand for the disjunction. -/
theorem or (hl : Stands d left f) (hr : Stands d right g) : Stands d (Condition.join .or left right) (.or f g) := by
  obtain ⟨-, ts, htoks, hts⟩ := hl
  obtain ⟨-, us, huoks, hus⟩ := hr
  have hsql : (Condition.join .or left right).sql.toList = '(' :: (left.sql.toList ++ ' ' :: 'O' :: 'R' :: ' ' ::
      (right.sql.toList ++ [')'])) := by
    simp [Condition.join, NodeKind.keyword, Statement.ofText]
  have hargs : (Condition.join .or left right).args = left.args ++ right.args := by
    simp [Condition.join, Statement.ofText]
  refine ⟨by simp [hsql], _, .unit (htoks.or huoks), ?_⟩
  have hclose : Token.Spells d (right.sql.toList ++ [')']) right.args (us ++ [.closing]) := by
    simpa using hus.append ((Token.Spells.nil d).mark ')' .closing rfl) (by simp) rfl
  have hboth := hts.append (spells_amid hclose 'O' ['R'] .or rfl (by decide)) (by simp) rfl
  rw [hsql, hargs, List.append_assoc ts]
  exact hboth.mark '(' .opening rfl

/-- A negated fragment in parentheses stands for the negation. -/
theorem not (h : Stands d inner f) : Stands d (Condition.negate inner) (.not f) := by
  obtain ⟨-, ts, htoks, hts⟩ := h
  have hsql : (Condition.negate inner).sql.toList = 'N' :: 'O' :: 'T' :: '(' :: (inner.sql.toList ++ [')']) := by
    simp [Condition.negate, NodeKind.keyword, Statement.ofText]
  have hargs : (Condition.negate inner).args = inner.args := by
    simp [Condition.negate, Statement.ofText]
  refine ⟨by simp [hsql], _, .unit htoks.not, ?_⟩
  have hclose : Token.Spells d (inner.sql.toList ++ [')']) inner.args (ts ++ [.closing]) := by
    simpa using hts.append ((Token.Spells.nil d).mark ')' .closing rfl) (by simp) rfl
  rw [hsql, hargs]
  exact (hclose.mark '(' .opening rfl).word 'N' ['O', 'T'] .not rfl (by decide) rfl

/-- The text of a fragment is read as its formula, up to how conjunctions are grouped. -/
theorem read? {s : Statement} (h : Stands d s f) : ∃ g : Formula, Formula.read? d s = some g ∧ g.Regrouped f := by
  obtain ⟨-, ts, htoks, hts⟩ := h
  have htext : Token.ofText? d.nameQuote s.args s.sql.toList = some ts := by
    have h := hts [] [] rfl
    rw [List.append_nil, List.append_nil, Token.ofText?] at h
    simpa using h
  obtain ⟨g, hg, hread⟩ := htoks.readDisjunction [] (by simp) (by simp)
  rw [List.append_nil] at hread
  refine ⟨g, ?_, hg⟩
  simp only [Formula.read?, htext, Option.bind_some, hread]

end Stands

namespace Condition

/-- A node that compiles does to formulas what it does to the fragments that stand for them. -/
theorem stands_compileNode {d : Dialect} {position : Nat} {node : Node} {stack next : List Statement} {fs : List Formula}
    (h : compileNode d position node stack = .ok next) (hs : List.Forall₂ (Stands d) stack fs) :
    ∃ gs, Meaning.formula.step node fs = some gs ∧ List.Forall₂ (Stands d) next gs := by
  rcases compileNode_cases h with ⟨hk, rfl⟩ | ⟨right, left, rest, hk, rfl, rfl⟩ | ⟨inner, rest, hk, rfl, rfl⟩ |
    ⟨fragment, hk, hleaf, rfl⟩
  · exact ⟨fs, by simp [Meaning.step, hk], hs⟩
  · obtain _ | ⟨hright, _ | ⟨hleft, hrest⟩⟩ := hs
    rcases hk with hk | hk
    · exact ⟨_, by simp only [Meaning.step, hk]; rfl, .cons (by rw [hk]; exact hleft.and hright) hrest⟩
    · exact ⟨_, by simp only [Meaning.step, hk]; rfl, .cons (by rw [hk]; exact hleft.or hright) hrest⟩
  · obtain _ | ⟨hinner, hrest⟩ := hs
    exact ⟨_, by simp only [Meaning.step, hk]; rfl, .cons hinner.not hrest⟩
  · obtain ⟨p, ts, hp, hstated, hspells⟩ := spells_compileLeaf d position node fragment hleaf
    have hstep : Meaning.formula.step node fs = some (.predicate p :: fs) := by
      unfold Meaning.step
      split <;> simp_all [NodeKind.isLeaf, NodeKind.isCombinator, Meaning.formula]
    have hne : fragment.sql.toList ≠ [] := by
      intro hnil
      exact sql_compileLeaf_ne hleaf (by simpa using hnil)
    exact ⟨_, hstep, .cons ⟨hne, ts, .unit hstated.isUnit, hspells⟩ hs⟩

/-- Nodes that compile do to formulas what they do to the fragments that stand for them. -/
theorem stands_compileNodes {d : Dialect} {nodes : List Node} {position : Nat} {stack final : List Statement}
    {fs : List Formula} (h : compileNodes d position stack nodes = .ok final) (hs : List.Forall₂ (Stands d) stack fs) :
    ∃ gs, Meaning.formula.run fs nodes = some gs ∧ List.Forall₂ (Stands d) final gs := by
  induction nodes generalizing position stack fs with
  | nil =>
    cases h
    exact ⟨fs, rfl, hs⟩
  | cons node nodes ih =>
    simp only [compileNodes] at h
    split at h
    · rename_i next hnext
      obtain ⟨gs, hgs, hstands⟩ := stands_compileNode hnext hs
      obtain ⟨final, hfinal, hend⟩ := ih h hstands
      refine ⟨final, ?_, hend⟩
      rw [Meaning.run, hgs]
      exact hfinal
    · cases h

/-- The fragment of a condition with a leaf stands for the formula that the condition denotes. -/
theorem stands_compile {d : Dialect} {c : Condition} {s : Statement} (h : c.compile d = .ok s) (hl : c.hasLeaf = true) :
    ∃ f, c.formula? = some f ∧ Stands d s f := by
  obtain ⟨hn, -⟩ := compile_eq_ok_iff.mp h
  rw [if_pos hl] at hn
  obtain ⟨gs, hgs, hstands⟩ := stands_compileNodes hn .nil
  obtain _ | ⟨hs, _ | _⟩ := hstands
  exact ⟨_, by simp only [formula?, Meaning.result?, hgs], hs⟩

end Condition

namespace Meaning

/-- The predicates of the formulas on a stack, from its bottom to its top. -/
def stackPredicates (fs : List Formula) : List Predicate :=
  fs.reverse.flatMap Formula.predicates

theorem stackPredicates_cons (f : Formula) (fs : List Formula) :
    stackPredicates (f :: fs) = stackPredicates fs ++ f.predicates := by
  simp [stackPredicates]

/-- A node adds its predicate to those on the stack, if it has one, and moves none. -/
theorem stackPredicates_step {node : Node} {fs gs : List Formula} (h : formula.step node fs = some gs) :
    stackPredicates gs = stackPredicates fs ++ node.predicate?.toList := by
  obtain ⟨kind, operand⟩ := node
  unfold step at h
  split at h
  · rename_i hk
    simp only at hk
    subst hk
    cases h
    simp [Node.predicate?]
  · rename_i hk
    simp only at hk
    subst hk
    cases h
    simp [Node.predicate?, stackPredicates_cons, formula, Formula.predicates]
  · rename_i hk
    simp only at hk
    subst hk
    cases h
    simp [Node.predicate?, stackPredicates_cons, formula, Formula.predicates]
  · rename_i hk
    simp only at hk
    subst hk
    cases h
    simp [Node.predicate?, stackPredicates_cons, formula, Formula.predicates]
  · cases h
  · cases h
  · cases h
  · obtain ⟨p, hp, rfl⟩ := Option.map_eq_some_iff.mp h
    rw [hp, stackPredicates_cons]
    rfl

/-- Nodes add their predicates in order. -/
theorem stackPredicates_run {nodes : List Node} {fs gs : List Formula} (h : formula.run fs nodes = some gs) :
    stackPredicates gs = stackPredicates fs ++ nodes.filterMap Node.predicate? := by
  induction nodes generalizing fs with
  | nil =>
    cases h
    simp
  | cons node nodes ih =>
    obtain ⟨next, hnext, hrun⟩ := Option.bind_eq_some_iff.mp h
    rw [ih hrun, stackPredicates_step hnext, List.append_assoc, List.filterMap_cons]
    cases node.predicate? <;> rfl

end Meaning

/-- The formula of a condition holds the predicates of its leaves, in order. -/
theorem Condition.predicates_formula? {c : Condition} {f : Formula} (h : c.formula? = some f) :
    f.predicates = c.predicates := by
  simp only [formula?, Meaning.result?] at h
  split at h
  · rename_i g hg
    cases h
    simpa [Meaning.stackPredicates, Condition.predicates] using Meaning.stackPredicates_run hg
  · cases h

/-- A condition with a leaf that compiles denotes a formula. The text of its fragment, with its placeholders bound to the arguments
in order, is read as the same formula up to how conjunctions are grouped: it holds the predicates of the leaves in order, and
every row gives it the truth value that the nodes have in postfix order. -/
theorem compile_read (d : Dialect) (c : Condition) (s : Statement) (h : c.compile d = .ok s) (hl : c.hasLeaf = true) :
    ∃ f g : Formula, c.formula? = some f ∧ Formula.read? d s = some g ∧ g.Regrouped f ∧ g.predicates = c.predicates ∧
      ∀ row : Predicate → Truth, c.truth? row = some (g.truth row) := by
  obtain ⟨f, hf, hstands⟩ := Condition.stands_compile h hl
  obtain ⟨g, hg, hregrouped⟩ := hstands.read?
  refine ⟨f, g, hf, hg, hregrouped, ?_, fun row => ?_⟩
  · rw [hregrouped.predicates_eq, Condition.predicates_formula? hf]
  · rw [Condition.truth?_eq, hf, hregrouped.truth_eq row]
    rfl

/-- A range test under a negation, between conjunctions and in a disjunction, with quotes in the names. -/
theorem compile_read_nested :
    ∃ c : Condition, ∃ s : Statement,
      c = ((Condition.eq "a\"b" (.varchar "x")).and (Condition.between false "c" (.varchar "k") (.varchar "m")).not).or
        ((Condition.null false "d?").and (Condition.member true "e" [.varchar "p", .varchar "q"])) ∧
      c.compile .generic = .ok s ∧ c.hasLeaf = true ∧
      s.sql = "(\"a\"\"b\" = ? AND NOT(\"c\" BETWEEN ? AND ?) OR \"d?\" IS NULL AND \"e\" NOT IN (?,?))" ∧
      ∃ f g : Formula, c.formula? = some f ∧ Formula.read? .generic s = some g ∧ g.Regrouped f ∧
        g.predicates = c.predicates ∧ ∀ row : Predicate → Truth, c.truth? row = some (g.truth row) :=
  ⟨_, _, rfl, rfl, rfl, by decide, compile_read .generic _ _ rfl rfl⟩

end RecordSql
