import RecordSql.Proofs.Condition.Meaning

/-!
# A condition with a null test

A null test that is added to a condition is conjoined with all of it: whatever the nodes are, the result compiles when the condition does,
to its fragment, `AND` and the test, or to the test alone when the condition has no leaf (`compile_and_null`), and does not compile when
the condition does not (`compile_and_null_error`). A disjunction carries its parentheses, so the test applies to the whole of the condition
(`read_restricted`).
-/

namespace RecordSql.Condition

/-- The test that a column is NULL. -/
def nullTest (d : Dialect) (column : String) : Statement :=
  .ofText (d.quoteName column ++ " IS NULL")

/-- The fragment of a condition restricted to rows in which a column is NULL. -/
def restricted (d : Dialect) (column : String) (c : Condition) (fragment : Statement) : Statement :=
  if c.hasLeaf then fragment ++ .ofText " AND " ++ nullTest d column else nullTest d column

/-- The nodes of a condition with a null test go on from the stack that the condition leaves. -/
theorem compileNodes_and_null (d : Dialect) (c : Condition) (column : String) :
    compileNodes d 0 [] (c.and (.null false column)).nodes =
      (compileNodes d 0 [] c.nodes).bind fun stack =>
        compileNodes d (c.nodes.length + 1) (nullTest d column :: stack)
          [⟨if c.hasLeaf then .and else .ignore, none⟩] := by
  have hnodes : (c.and (.null false column)).nodes = c.nodes ++ ⟨.null false, some (.column column)⟩ ::
      [⟨if c.hasLeaf then .and else .ignore, none⟩] := by
    simp [Condition.and, combine, Condition.null, leaf, hasLeaf, NodeKind.isLeaf, NodeKind.isCombinator]
  rw [hnodes, compileNodes_append, Nat.zero_add]
  rfl

/-- A condition with a null test has a leaf. -/
theorem hasLeaf_and_null (c : Condition) (column : String) : (c.and (.null false column)).hasLeaf = true := by
  rw [Condition.and, hasLeaf_combine .and rfl, Bool.or_eq_true]
  exact .inr rfl

/-- A condition that compiles does so with a null test, and is restricted by it as a whole. -/
theorem compile_and_null {d : Dialect} {c : Condition} {s : Statement} (column : String) (h : c.compile d = .ok s) :
    (c.and (.null false column)).compile d = .ok (restricted d column c s) := by
  obtain ⟨hn, -⟩ := compile_eq_ok_iff.mp h
  rw [compile_eq_ok_iff, compileNodes_and_null, hn, hasLeaf_and_null]
  refine ⟨?_, by simp⟩
  cases hl : c.hasLeaf with
  | true => simp [Except.bind, compileNodes, compileNode, restricted, hl, join, NodeKind.keyword, Statement.append_assoc]
  | false => simp [Except.bind, compileNodes, compileNode, restricted, hl]

/-- A condition that does not compile does not compile with a null test either: the test is never taken for an operand that a
combinator of the condition lacks, and it does not use up a fragment that the condition leaves. -/
theorem compile_and_null_error {d : Dialect} {c : Condition} {f : Fault} (column : String) (h : c.compile d = .error f) :
    ∃ g, (c.and (.null false column)).compile d = .error g := by
  unfold compile at h ⊢
  rw [compileNodes_and_null]
  rcases hn : compileNodes d 0 [] c.nodes with e | stack
  · exact ⟨e, rfl⟩
  · rw [hn] at h
    rcases stack with _ | ⟨top, _ | ⟨next, rest⟩⟩
    · cases h
    · cases h
    · have hl : c.hasLeaf = true := by simpa [hasLeaf] using isEmpty_compileNodes hn
      rw [if_pos hl]
      exact ⟨_, rfl⟩

/-- The text of a null test stands for the test. -/
theorem stands_nullTest (d : Dialect) (column : String) :
    Stands d (nullTest d column) (.predicate (.null column false)) := by
  have hspells := Token.spells_columnFragment d column _ _ _ (Token.spells_null d false) (by simp)
  refine ⟨?_, _, .unit (Predicate.Stated.null column false).isUnit, hspells⟩
  simp [nullTest, Statement.ofText]

/-- The text of a restricted condition is read as the whole condition and the test: whatever the condition is, its truth value for a
row is taken together with that of the test. A condition without a leaf says nothing. -/
theorem read_restricted {d : Dialect} {c : Condition} {s : Statement} (column : String) (h : c.compile d = .ok s) :
    ∃ g, Formula.read? d (restricted d column c s) = some g ∧
      ∀ row, g.truth row = ((c.truth? row).getD .holds).and (row (.null column false)) := by
  cases hl : c.hasLeaf with
  | true =>
    obtain ⟨f, hf, hstands⟩ := stands_compile h hl
    obtain ⟨g, hg, hregrouped⟩ := (hstands.and (stands_nullTest d column)).read?
    refine ⟨g, ?_, fun row => ?_⟩
    · rw [restricted, if_pos hl]
      exact hg
    · rw [hregrouped.truth_eq, truth?_eq, hf]
      rfl
  | false =>
    obtain ⟨g, hg, hregrouped⟩ := (stands_nullTest d column).read?
    obtain ⟨hn, -⟩ := compile_eq_ok_iff.mp h
    obtain ⟨gs, hgs, hstands⟩ := stands_compileNodes hn .nil
    rw [hl] at hstands
    cases hstands
    -- nodes without a leaf leave an empty stack, so the condition denotes nothing
    have hnone : c.formula? = none := by simp only [formula?, Meaning.result?, hgs]
    refine ⟨g, by simpa [restricted, hl] using hg, fun row => ?_⟩
    rw [hregrouped.truth_eq, truth?_eq, hnone]
    cases hrow : row (.null column false) <;> simp [Formula.truth, Truth.and, hrow]

end RecordSql.Condition
