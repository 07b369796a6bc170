import Mathlib.Data.List.Forall2
import RecordSql.Proofs.Condition.Stack

/-!
# Conditions built from leaves

Whatever two conditions compile to, their combinations compile to these fragments with a combinator between them, and to one of them
where the other has no leaf (`compile_combine`, `compile_not`, `compile_foldl`). So a condition that is built from leaves, from
conditions without leaves and from each other compiles, unless a membership test in it has no values, which is then what it fails
with (`Fluent.settled`, `compile_fluent`).
-/

namespace RecordSql

namespace Condition

variable {d : Dialect}

/-! ## Nodes do not look below their operands -/

/-- The fragment of a leaf does not depend on its position. -/
theorem compileLeaf_position {p : Nat} {node : Node} {s : Statement} (h : compileLeaf d p node = .ok s) (q : Nat) :
    compileLeaf d q node = .ok s :=
  compileLeaf_eq_ok_iff.mpr (compileLeaf_eq_ok_iff.mp h)

/-- A node that finds its operands does the same on a higher stack and at any position. -/
theorem compileNode_frame {p : Nat} {node : Node} {stack next : List Statement}
    (h : compileNode d p node stack = .ok next) (q : Nat) (under : List Statement) :
    compileNode d q node (stack ++ under) = .ok (next ++ under) := by
  have hleaf : ∀ {s : Except Fault Statement}, s.map (· :: stack) = .ok next →
      ∃ fragment, s = .ok fragment ∧ next = fragment :: stack := by
    intro s hs
    cases s with
    | error f => cases hs
    | ok fragment => exact ⟨fragment, rfl, (Except.ok.inj hs).symm⟩
  have hpush : (compileLeaf d p node).map (· :: stack) = .ok next →
      (compileLeaf d q node).map (· :: (stack ++ under)) = .ok (next ++ under) := by
    intro hs
    obtain ⟨fragment, hf, rfl⟩ := hleaf hs
    rw [compileLeaf_position hf q]
    rfl
  obtain ⟨kind, operand⟩ := node
  cases kind with
  | ignore =>
    cases h
    rfl
  | and | or =>
    cases operand with
    | some operand => cases h
    | none =>
      rcases stack with _ | ⟨right, _ | ⟨left, rest⟩⟩
      · cases h
      · cases h
      · cases h
        rfl
  | not =>
    cases operand with
    | some operand => cases h
    | none =>
      rcases stack with _ | ⟨inner, rest⟩
      · cases h
      · cases h
        rfl
  | compare c => exact hpush h
  | between n => exact hpush h
  | member n => exact hpush h
  | null n => exact hpush h

/-- Nodes that find their operands do the same on a higher stack and at any position. -/
theorem compileNodes_frame {nodes : List Node} {p : Nat} {stack final : List Statement}
    (h : compileNodes d p stack nodes = .ok final) (q : Nat) (under : List Statement) :
    compileNodes d q (stack ++ under) nodes = .ok (final ++ under) := by
  induction nodes generalizing p q stack with
  | nil =>
    cases h
    rfl
  | cons node nodes ih =>
    simp only [compileNodes] at h ⊢
    split at h
    · rename_i next hnext
      rw [compileNode_frame hnext q under]
      exact ih h (q + 1)
    · cases h

/-- A condition that compiles puts its fragment on any stack, or nothing when it has no leaf. -/
theorem compileNodes_of_compile {c : Condition} {s : Statement} (h : c.compile d = .ok s) (position : Nat)
    (stack : List Statement) :
    compileNodes d position stack c.nodes = .ok (if c.hasLeaf then s :: stack else stack) := by
  obtain ⟨hnodes, -⟩ := compile_eq_ok_iff.mp h
  have hframe := compileNodes_frame hnodes position stack
  rw [List.nil_append] at hframe
  rw [hframe]
  cases c.hasLeaf <;> rfl

/-- The fragment of a condition without leaves is empty. -/
theorem eq_empty_of_compile {c : Condition} {s : Statement} (h : c.compile d = .ok s) (hs : s.isEmpty = true) : s = .empty := by
  rw [isEmpty_of_compile h, Bool.not_eq_true'] at hs
  exact (compile_eq_ok_iff.mp h).2 hs

/-! ## Combinations of conditions that compile -/

theorem join_and (s t : Statement) : join .and s t = ⟨s.sql ++ " AND " ++ t.sql, s.args ++ t.args⟩ := by
  change Statement.mk _ _ = Statement.mk _ _
  simp [Statement.ofText, NodeKind.keyword]

theorem join_or (s t : Statement) :
    join .or s t = ⟨"(" ++ s.sql ++ " OR " ++ t.sql ++ ")", s.args ++ t.args⟩ := by
  change Statement.mk _ _ = Statement.mk _ _
  simp [Statement.ofText, NodeKind.keyword, String.append_assoc]

theorem negate_eq (s : Statement) : negate s = ⟨"NOT(" ++ s.sql ++ ")", s.args⟩ := by
  change Statement.mk _ _ = Statement.mk _ _
  simp [Statement.ofText, NodeKind.keyword]

/-- The fragments of two conditions with a combinator between them, or one of them where the other condition has no leaf. -/
def joined (kind : NodeKind) (a b : Condition) (s t : Statement) : Statement :=
  if a.hasLeaf && b.hasLeaf then join kind s t else if a.hasLeaf then s else t

/-- A combination compiles to the fragments of its parts with the combinator between them. -/
theorem compile_combine {kind : NodeKind} (hk : kind = .and ∨ kind = .or) {a b : Condition} {s t : Statement}
    (ha : a.compile d = .ok s) (hb : b.compile d = .ok t) :
    (combine kind a b).compile d = .ok (joined kind a b s t) := by
  have hkind : kind.isLeaf = false := by rcases hk with rfl | rfl <;> rfl
  have hnodes : ∀ last : Node, compileNodes d 0 [] (a.nodes ++ b.nodes ++ [last]) =
      compileNodes d (a.nodes ++ b.nodes).length
        (if b.hasLeaf then t :: (if a.hasLeaf then [s] else []) else if a.hasLeaf then [s] else []) [last] := by
    intro last
    rw [compileNodes_append, compileNodes_append, compileNodes_of_compile ha]
    simp only [Except.bind, compileNodes_of_compile hb, Nat.zero_add]
  rw [compile_eq_ok_iff, hasLeaf_combine kind hkind]
  simp only [combine, joined, hnodes]
  cases hla : a.hasLeaf <;> cases hlb : b.hasLeaf
  · exact ⟨rfl, fun _ => (compile_eq_ok_iff.mp hb).2 hlb⟩
  · exact ⟨rfl, by simp⟩
  · exact ⟨rfl, by simp⟩
  · refine ⟨?_, by simp⟩
    rcases hk with rfl | rfl <;> rfl

/-- A condition that compiles does so with a node that does nothing behind it. -/
theorem compile_ignore {c : Condition} {s : Statement} (h : c.compile d = .ok s) :
    (⟨c.nodes ++ [⟨.ignore, none⟩]⟩ : Condition).compile d = .ok s := by
  have hleaf : (⟨c.nodes ++ [⟨.ignore, none⟩]⟩ : Condition).hasLeaf = c.hasLeaf := by
    simp [hasLeaf, NodeKind.isLeaf]
  obtain ⟨hnodes, hempty⟩ := compile_eq_ok_iff.mp h
  rw [compile_eq_ok_iff, hleaf]
  refine ⟨?_, hempty⟩
  rw [compileNodes_append, hnodes]
  rfl

/-- A negation compiles to the fragment in parentheses behind `NOT`, and to nothing where the condition has no leaf. -/
theorem compile_not {c : Condition} {s : Statement} (h : c.compile d = .ok s) :
    c.not.compile d = .ok (if c.hasLeaf then negate s else .empty) := by
  obtain ⟨hnodes, hempty⟩ := compile_eq_ok_iff.mp h
  cases hl : c.hasLeaf with
  | false => rw [Condition.not, hl, if_neg Bool.false_ne_true, h, hempty hl, if_neg Bool.false_ne_true]
  | true =>
    have hleaf : (⟨c.nodes ++ [⟨.not, none⟩]⟩ : Condition).hasLeaf = true := by
      rw [hasLeaf, List.any_append, Bool.or_eq_true]
      exact .inl hl
    rw [Condition.not, if_pos hl, compile_eq_ok_iff, hleaf]
    refine ⟨?_, by simp⟩
    rw [compileNodes_append, hnodes, hl]
    rfl

/-- Fragments with a combinator between them, put together from the left. -/
def chained (kind : NodeKind) : List Statement → Statement
  | [] => .empty
  | s :: rest => rest.foldl (join kind) s

/-- A condition extended part by part compiles to the fragments of the parts that are present and have a leaf. -/
theorem compile_foldl {kind : NodeKind} (hk : kind = .and ∨ kind = .or) {parts : List (Option Condition)}
    {fragments : List Statement} (hparts : List.Forall₂ (fun c s => c.compile d = .ok s) (parts.filterMap id) fragments)
    {c : Condition} {s : Statement} (hc : c.compile d = .ok s) :
    (parts.foldl (extend kind) c).compile d = .ok (chained kind ((s :: fragments).filter (!·.isEmpty))) := by
  induction parts generalizing c s fragments with
  | nil =>
    cases hparts
    cases hs : s.isEmpty with
    | true =>
      have hnil := eq_empty_of_compile hc hs
      subst hnil
      exact hc
    | false => simp [hs, chained, hc]
  | cons part parts ih =>
    cases part with
    | none => exact ih hparts (compile_ignore hc)
    | some part =>
      obtain _ | ⟨hpart, hrest⟩ := hparts
      rename_i t fragments
      rw [List.foldl_cons, extend, ih hrest (compile_combine hk hc hpart)]
      have hs := isEmpty_of_compile hc
      have ht := isEmpty_of_compile hpart
      have hjoin : (join kind s t).isEmpty = false := by
        refine isEmpty_eq_false_of_sql ?_
        rcases hk with rfl | rfl
        · simp [join_and, String.append_eq_empty_iff]
        · simp [join_or, String.append_eq_empty_iff]
      cases hla : c.hasLeaf <;> cases hlb : part.hasLeaf <;> rw [hla] at hs <;> rw [hlb] at ht
      · simp [joined, hla, hlb, hs, ht]
      · simp [joined, hla, hlb, hs, ht]
      · simp [joined, hla, hlb, hs, ht]
      · simp [joined, hla, hlb, hs, ht, hjoin, chained]

/-- The arguments of a chain are those of its fragments, in order. -/
theorem args_foldl_join (kind : NodeKind) (fragments : List Statement) (s : Statement) :
    (fragments.foldl (join kind) s).args = s.args ++ fragments.flatMap (·.args) := by
  have hjoin : ∀ s t, (join kind s t).args = s.args ++ t.args := by
    intro s t
    unfold join
    split <;> simp [Statement.ofText]
  induction fragments generalizing s with
  | nil => simp
  | cons t fragments ih => rw [List.foldl_cons, ih, hjoin, List.flatMap_cons, List.append_assoc]

/-- The arguments of the fragments that are not empty are those of all fragments, in order. -/
theorem args_chained_filter (kind : NodeKind) (fragments : List Statement) :
    (chained kind (fragments.filter (!·.isEmpty))).args = fragments.flatMap (·.args) := by
  have hchained : ∀ fs : List Statement, (chained kind fs).args = fs.flatMap (·.args) := by
    intro fs
    cases fs with
    | nil => rfl
    | cons s fs => rw [chained, args_foldl_join, List.flatMap_cons]
  rw [hchained]
  induction fragments with
  | nil => rfl
  | cons s fragments ih =>
    cases hs : s.isEmpty with
    | false => simp [hs, ih]
    | true =>
      have hargs : s.args = [] := by simpa [Statement.isEmpty] using (Bool.and_eq_true_iff.mp hs).2
      simp [hs, ih, hargs]

/-! ## Conditions that are built from leaves -/

/-- A condition that is put together from leaves and from nodes that do nothing. -/
inductive Fluent : Condition → Prop
  | empty : Fluent .empty
  | ignored (operands : List (Option Operand)) : Fluent ⟨operands.map fun operand => ⟨.ignore, operand⟩⟩
  | compare (c : Comparison) (column : String) (v : Value) : Fluent (.compare (.compare c) column v)
  | between (n : Bool) (column : String) (low high : Value) : Fluent (.between n column low high)
  | member (n : Bool) (column : String) (values : List Value) : Fluent (.member n column values)
  | null (n : Bool) (column : String) : Fluent (.null n column)
  | and {a b : Condition} (ha : Fluent a) (hb : Fluent b) : Fluent (a.and b)
  | or {a b : Condition} (ha : Fluent a) (hb : Fluent b) : Fluent (a.or b)
  | not {a : Condition} (ha : Fluent a) : Fluent a.not
  | all {parts : List (Option Condition)} (h : ∀ c, some c ∈ parts → Fluent c) : Fluent (.all parts)
  | any {parts : List (Option Condition)} (h : ∀ c, some c ∈ parts → Fluent c) : Fluent (.any parts)

/-- The column of a node that is a membership test without values. -/
def emptyMember? : Node → Option String
  | ⟨.member _, some (.list column [])⟩ => some column
  | _ => none

/-- The columns of the membership tests without values, in order. -/
def emptyMembers (c : Condition) : List String :=
  c.nodes.filterMap emptyMember?

/-- A condition compiles, or holds a membership test without values and fails with the first of them, on any stack. -/
def Settled (d : Dialect) (c : Condition) : Prop :=
  (c.emptyMembers = [] ∧ ∃ s, c.compile d = .ok s) ∨
    ∃ column, c.emptyMembers.head? = some column ∧
      ∀ position stack, compileNodes d position stack c.nodes = .error (.emptyList column)

namespace Settled

/-- Nodes that fail do so whatever comes behind them. -/
theorem append_error {column : String} {ns ms : List Node}
    (h : ∀ position stack, compileNodes d position stack ns = .error (.emptyList column)) (position : Nat)
    (stack : List Statement) : compileNodes d position stack (ns ++ ms) = .error (.emptyList column) := by
  rw [compileNodes_append, h]
  rfl

/-- Two settled conditions are settled with a node without operand behind them, if the whole compiles when both of them do. -/
theorem append {a b : Condition} (ha : Settled d a) (hb : Settled d b) {last : Node} (hlast : emptyMember? last = none)
    (hboth : ∀ s t, a.compile d = .ok s → b.compile d = .ok t →
      ∃ u, (⟨a.nodes ++ b.nodes ++ [last]⟩ : Condition).compile d = .ok u) :
    Settled d ⟨a.nodes ++ b.nodes ++ [last]⟩ := by
  have hmembers : (⟨a.nodes ++ b.nodes ++ [last]⟩ : Condition).emptyMembers = a.emptyMembers ++ b.emptyMembers := by
    simp [emptyMembers, hlast]
  rcases ha with ⟨hnone, s, hs⟩ | ⟨column, hcolumn, herror⟩
  · rcases hb with ⟨hnone', t, ht⟩ | ⟨column, hcolumn, herror⟩
    · exact .inl ⟨by rw [hmembers, hnone, hnone']; rfl, hboth s t hs ht⟩
    · refine .inr ⟨column, by rw [hmembers, hnone, List.nil_append, hcolumn], append_error fun position stack => ?_⟩
      rw [compileNodes_append, compileNodes_of_compile hs]
      exact herror _ _
  · refine .inr ⟨column, ?_, append_error (append_error herror)⟩
    rw [hmembers, List.head?_append, hcolumn]
    rfl

theorem combine {kind : NodeKind} (hk : kind = .and ∨ kind = .or) {a b : Condition} (ha : Settled d a) (hb : Settled d b) :
    Settled d (.combine kind a b) := by
  refine append ha hb ?_ fun s t hs ht => ⟨_, compile_combine hk hs ht⟩
  rcases hk with rfl | rfl <;> split <;> rfl

/-- A settled condition is settled with one more node behind it, if the whole compiles when the condition does. -/
theorem snoc {c : Condition} (h : Settled d c) {last : Node} (hlast : emptyMember? last = none)
    (hnext : ∀ s, c.compile d = .ok s → ∃ u, (⟨c.nodes ++ [last]⟩ : Condition).compile d = .ok u) :
    Settled d ⟨c.nodes ++ [last]⟩ := by
  have hnone : Settled d .empty := .inl ⟨rfl, .empty, rfl⟩
  have happend := append h hnone hlast fun s _ hs _ => by simpa [Condition.empty] using hnext s hs
  simpa [Condition.empty] using happend

theorem not {c : Condition} (h : Settled d c) : Settled d c.not := by
  cases hl : c.hasLeaf with
  | false => rwa [Condition.not, hl, if_neg Bool.false_ne_true]
  | true =>
    have hnot : c.not = ⟨c.nodes ++ [⟨.not, none⟩]⟩ := by rw [Condition.not, if_pos hl]
    rw [hnot]
    exact h.snoc rfl fun s hs => ⟨_, by rw [← hnot]; exact compile_not hs⟩

theorem foldl {kind : NodeKind} (hk : kind = .and ∨ kind = .or) {parts : List (Option Condition)}
    (hparts : ∀ c, some c ∈ parts → Settled d c) {c : Condition} (hc : Settled d c) :
    Settled d (parts.foldl (extend kind) c) := by
  induction parts generalizing c with
  | nil => exact hc
  | cons part parts ih =>
    refine ih (fun p hp => hparts p (List.mem_cons_of_mem _ hp)) ?_
    cases part with
    | none => exact hc.snoc rfl fun s hs => ⟨s, compile_ignore hs⟩
    | some part => exact hc.combine hk (hparts part (List.mem_cons_self ..))

end Settled

/-- Nodes that do nothing leave the stack as it is. -/
theorem compileNodes_ignored (operands : List (Option Operand)) (position : Nat) (stack : List Statement) :
    compileNodes d position stack (operands.map fun operand => ⟨.ignore, operand⟩) = .ok stack := by
  induction operands generalizing position with
  | nil => rfl
  | cons operand operands ih => exact ih (position + 1)

/-- A condition that is built from leaves compiles, but for membership tests without values. -/
theorem Fluent.settled {c : Condition} (h : Fluent c) (d : Dialect) : Settled d c := by
  induction h with
  | empty => exact .inl ⟨rfl, .empty, rfl⟩
  | ignored operands =>
    refine .inl ⟨?_, .empty, ?_⟩
    · simp only [emptyMembers, List.filterMap_map]
      exact List.filterMap_eq_nil_iff.mpr fun operand _ => rfl
    · rw [compile, compileNodes_ignored]
  | compare c column v => exact .inl ⟨rfl, _, rfl⟩
  | between n column low high => exact .inl ⟨rfl, _, rfl⟩
  | null n column => exact .inl ⟨rfl, _, rfl⟩
  | member n column values =>
    cases values with
    | nil => exact .inr ⟨column, rfl, fun _ _ => rfl⟩
    | cons v values => exact .inl ⟨rfl, _, rfl⟩
  | and _ _ iha ihb => exact iha.combine (.inl rfl) ihb
  | or _ _ iha ihb => exact iha.combine (.inr rfl) ihb
  | not _ ih => exact ih.not
  | all _ ih => exact .foldl (.inl rfl) ih (.inl ⟨rfl, .empty, rfl⟩)
  | any _ ih => exact .foldl (.inr rfl) ih (.inl ⟨rfl, .empty, rfl⟩)

end Condition

/-- A condition that is built from leaves, from nodes that do nothing and from each other compiles, to the empty fragment exactly when
it has no leaf, unless a membership test in it has no values: then it fails with the first such test. Conditions that compile compile
together, with `AND` or with `OR` in parentheses between their fragments and their arguments in order; a part without leaves adds
nothing. A negation stands in front of parentheses, and a list of parts is put together from the left. -/
theorem compile_fluent (d : Dialect) :
    (∀ c : Condition, c.Fluent → c.emptyMembers = [] → ∃ s, c.compile d = .ok s ∧ s.isEmpty = !c.hasLeaf) ∧
    (∀ c : Condition, c.Fluent → ∀ column, c.emptyMembers.head? = some column → c.compile d = .error (.emptyList column)) ∧
    (∀ (a b : Condition) (s t : Statement), a.compile d = .ok s → b.compile d = .ok t →
      (a.and b).compile d = .ok (if a.hasLeaf && b.hasLeaf then ⟨s.sql ++ " AND " ++ t.sql, s.args ++ t.args⟩
        else if a.hasLeaf then s else t) ∧
      (a.or b).compile d = .ok (if a.hasLeaf && b.hasLeaf then ⟨"(" ++ s.sql ++ " OR " ++ t.sql ++ ")", s.args ++ t.args⟩
        else if a.hasLeaf then s else t)) ∧
    (∀ (a : Condition) (s : Statement), a.compile d = .ok s →
      a.not.compile d = .ok (if a.hasLeaf then ⟨"NOT(" ++ s.sql ++ ")", s.args⟩ else .empty)) ∧
    ∀ (parts : List (Option Condition)) (fragments : List Statement),
      List.Forall₂ (fun c s => c.compile d = .ok s) (parts.filterMap id) fragments →
      ∃ s t : Statement, (Condition.all parts).compile d = .ok s ∧ (Condition.any parts).compile d = .ok t ∧
        s = Condition.chained .and (fragments.filter (!·.isEmpty)) ∧ s.args = fragments.flatMap (·.args) ∧
        t = Condition.chained .or (fragments.filter (!·.isEmpty)) ∧ t.args = fragments.flatMap (·.args) := by
  refine ⟨fun c h hnone => ?_, fun c h column hcolumn => ?_, fun a b s t ha hb => ⟨?_, ?_⟩, fun a s ha => ?_,
    fun parts fragments h => ?_⟩
  · rcases h.settled d with ⟨-, s, hs⟩ | ⟨column, hcolumn, -⟩
    · exact ⟨s, hs, Condition.isEmpty_of_compile hs⟩
    · rw [hnone] at hcolumn
      cases hcolumn
  · rcases h.settled d with ⟨hnone, -⟩ | ⟨first, hfirst, herror⟩
    · rw [hnone] at hcolumn
      cases hcolumn
    · rw [hfirst] at hcolumn
      cases hcolumn
      rw [Condition.compile, herror]
  · rw [← Condition.join_and]
    exact Condition.compile_combine (.inl rfl) ha hb
  · rw [← Condition.join_or]
    exact Condition.compile_combine (.inr rfl) ha hb
  · rw [← Condition.negate_eq]
    exact Condition.compile_not ha
  · have hempty : Condition.empty.compile d = .ok .empty := rfl
    exact ⟨_, _, Condition.compile_foldl (.inl rfl) h hempty, Condition.compile_foldl (.inr rfl) h hempty, rfl,
      Condition.args_chained_filter .and fragments, rfl, Condition.args_chained_filter .or fragments⟩

/-- A list with an absent part and parts without leaves, and the same list with a membership test without values. -/
theorem compile_fluent_parts :
    ∃ a b : Condition,
      a = .all [some (.eq "a" (.varchar "x")), none, some (.any []), some (.or ⟨[⟨.ignore, none⟩]⟩ (.null false "b"))] ∧
      b = a.and (.not (.member true "c" [])) ∧
      a.emptyMembers = [] ∧ b.emptyMembers = ["c"] ∧
      (∃ s, a.compile .mysql = .ok s ∧ s.isEmpty = !a.hasLeaf) ∧
      b.compile .mysql = .error (.emptyList "c") ∧
      (a.or a.not).compile .mysql = .ok ⟨"(`a` = ? AND `b` IS NULL OR NOT(`a` = ? AND `b` IS NULL))", [.varchar "x", .varchar "x"]⟩ := by
  have ha : Condition.Fluent
      (.all [some (.eq "a" (.varchar "x")), none, some (.any []), some (.or ⟨[⟨.ignore, none⟩]⟩ (.null false "b"))]) := by
    refine .all fun c hc => ?_
    simp only [List.mem_cons, Option.some.injEq, reduceCtorEq, List.not_mem_nil, or_false, false_or] at hc
    rcases hc with rfl | rfl | rfl
    · exact .compare .equal "a" (.varchar "x")
    · exact .any fun c hc => absurd hc List.not_mem_nil
    · exact .or (.ignored [none]) (.null false "b")
  have hb := Condition.Fluent.and ha (.not (.member true "c" []))
  have hs : (Condition.all [some (.eq "a" (.varchar "x")), none, some (.any []),
      some (.or ⟨[⟨.ignore, none⟩]⟩ (.null false "b"))]).compile .mysql = .ok ⟨"`a` = ? AND `b` IS NULL", [.varchar "x"]⟩ := rfl
  obtain ⟨hcompiles, hfails, hboth, hnot, -⟩ := compile_fluent .mysql
  exact ⟨_, _, rfl, rfl, rfl, rfl, hcompiles _ ha rfl, hfails _ hb "c" rfl, (hboth _ _ _ _ hs (hnot _ _ hs)).2⟩

end RecordSql
