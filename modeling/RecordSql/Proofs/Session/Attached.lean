import RecordSql.Proofs.Session.Ends
import RecordSql.Proofs.Session.Preload

/-!
# Attaching to all parents or to none

Whatever an executor answers, a relation either attaches children to every parent of a list, or it leaves all of them as they were:
because it failed, which the report says once and at its own position, or because no parent has a key, and then nothing is asked
(`Link.Ending`). Failures of the relations below it are entered below its position and do not reach it, the relations after it are
resolved all the same, and a find returns the records of its rows (`relations_attached`).
-/

namespace RecordSql

/-! ## Positions of failures -/

/-- A position lies above those that continue it. -/
def ReportIndex.IsAbove (x y : ReportIndex) : Prop :=
  ∃ i rest, y.path = x.path ++ i :: rest

theorem ReportIndex.isAbove_child (x : ReportIndex) (i : Nat) : x.IsAbove (x.child i) :=
  ⟨i, [], rfl⟩

theorem ReportIndex.IsAbove.of_child {x y : ReportIndex} {i : Nat} (h : (x.child i).IsAbove y) : x.IsAbove y := by
  obtain ⟨j, rest, hy⟩ := h
  refine ⟨i, j :: rest, ?_⟩
  rw [hy, path_child, List.append_assoc]
  rfl

/-- The failures of a report after some were added, all of them below a position. -/
def AddedBelow (index : ReportIndex) (old new : List Failure) : Prop :=
  ∃ added, new = old ++ added ∧ ∀ failure ∈ added, index.IsAbove failure.index

namespace AddedBelow

variable {index : ReportIndex} {old new newest : List Failure}

theorem refl (index : ReportIndex) (old : List Failure) : AddedBelow index old old :=
  ⟨[], by simp, by simp⟩

theorem trans (h : AddedBelow index old new) (h' : AddedBelow index new newest) : AddedBelow index old newest := by
  obtain ⟨first, rfl, hfirst⟩ := h
  obtain ⟨second, rfl, hsecond⟩ := h'
  refine ⟨first ++ second, List.append_assoc .., fun failure hf => ?_⟩
  rcases List.mem_append.mp hf with hf | hf
  · exact hfirst failure hf
  · exact hsecond failure hf

theorem of_child {i : Nat} (h : AddedBelow (index.child i) old new) : AddedBelow index old new := by
  obtain ⟨added, hnew, habove⟩ := h
  exact ⟨added, hnew, fun failure hf => (habove failure hf).of_child⟩

end AddedBelow

/-! ## Links -/

namespace Link

variable {σ : Type}

/-- How a link is resolved for some parents: the records that come out, and the world before and after. -/
inductive Ending (library : ReadingLibrary) (t : RecordType) (link : Link) (index : ReportIndex) (parents : List Record) (w : World σ) :
    List Record → World σ → Prop
  /-- Some parent has a key, and children are attached once to each parent, in order. Only relations below have failed. -/
  | attached {field : Field} {resolved : List Record} {w' : World σ} (hfield : t.model.keyField link.parentKey = .ok field)
      (hkey : ∃ p ∈ parents, (p.key? field.name).isSome)
      (hattached : List.Forall₂ (fun p r => ∃ children, r = p.attach link.slot (.ofChildren link.arity children)) parents resolved)
      (hfailures : AddedBelow index w.report.failures w'.report.failures) : Ending library t link index parents w resolved w'
  /-- The link has failed, which is the one failure that is entered, and no parent has changed. -/
  | failed {fault : Fault} {w' : World σ}
      (hkey : ∀ field, t.model.keyField link.parentKey = .ok field → ∃ p ∈ parents, (p.key? field.name).isSome)
      (hfailures : w'.report.failures = w.report.failures ++ [⟨index, fault.message library⟩]) :
      Ending library t link index parents w parents w'
  /-- No parent has a key. Nothing is asked, nothing has failed, and no parent has changed. -/
  | unkeyed {field : Field} {w' : World σ} (hfield : t.model.keyField link.parentKey = .ok field)
      (hnone : ∀ p ∈ parents, p.key? field.name = none) (hsent : w'.sent = w.sent) (hreport : w'.report = w.report) :
      Ending library t link index parents w parents w'

/-- A record that differs from another one at most in a slot. -/
def SameBeside (slot : String) (p r : Record) : Prop :=
  r.values = p.values ∧ ∀ other, other ≠ slot → r.attached? other = p.attached? other

theorem sameBeside_attach (p : Record) (slot : String) (a : Attachment) : SameBeside slot p (p.attach slot a) := by
  refine ⟨Record.values_attach .., fun other hne => ?_⟩
  cases p
  exact (Record.lookup_setSlot ..).trans (if_neg hne.symm)

namespace Ending

variable {library : ReadingLibrary} {t : RecordType} {link : Link} {index : ReportIndex} {parents resolved : List Record} {w w' : World σ}

/-- The values and the other slots of the parents stay. -/
theorem sameBeside (h : Ending library t link index parents w resolved w') : List.Forall₂ (SameBeside link.slot) parents resolved := by
  have hrefl : List.Forall₂ (SameBeside link.slot) parents parents := List.forall₂_same.mpr fun p _ => ⟨rfl, fun _ _ => rfl⟩
  cases h with
  | attached _ _ hattached _ =>
    refine hattached.imp fun p r h => ?_
    obtain ⟨children, rfl⟩ := h
    exact sameBeside_attach ..
  | failed _ _ => exact hrefl
  | unkeyed _ _ _ _ => exact hrefl

/-- Every failure of a link is at its position or below. -/
theorem addedBelow {above : ReportIndex} {i : Nat} (h : Ending library t link (above.child i) parents w resolved w') :
    AddedBelow above w.report.failures w'.report.failures := by
  cases h with
  | attached _ _ _ hfailures => exact hfailures.of_child
  | failed _ hfailures =>
    refine ⟨_, hfailures, fun failure hf => ?_⟩
    rw [List.mem_singleton.mp hf]
    exact above.isAbove_child i
  | unkeyed _ _ _ hreport =>
    rw [hreport]
    exact .refl above _

end Ending

/-- An operation on children that does not fail; what fails in it is entered below a position. -/
def Local (index : ReportIndex) (resolveNested : List Record → Run σ (List Record)) : Prop :=
  ∀ children w, Run.Ends (resolveNested children) w (fun _ w' => AddedBelow index w.report.failures w'.report.failures)
    fun _ _ => False

section Resolve

variable {c : Connection σ} {index : ReportIndex} {resolveNested : List Record → Run σ (List Record)}
  (h : c.executor.Whole) (hnested : Local index resolveNested)

include h hnested

/-- Loading children fails before their own relations are resolved, or not at all. -/
theorem ends_load (m : Model) (field : Field) (keys : List Value) (w : World σ) :
    Run.Ends (load c index m field keys resolveNested) w
      (fun _ w' => AddedBelow index w.report.failures w'.report.failures)
      (fun _ w' => w'.report.failures = w.report.failures) := by
  refine .bind (c.ends_findRows h index m _ _) ?_
  rintro rows w₁ ⟨hwhole, hw₁⟩
  refine .bind (.ofHalt _ (Record.ofRows_ne_aborted hwhole m) fun _ => hw₁) ?_
  rintro children _ ⟨-, rfl⟩
  rw [← hw₁]
  exact (hnested children _).mono (fun _ _ hadded => hadded) fun _ _ hfalse => hfalse.elim

theorem ends_loadDirect (link : Link) (child : Model) (keys : List Value) (w : World σ) :
    Run.Ends (link.loadDirect c index child keys resolveNested) w
      (fun _ w' => AddedBelow index w.report.failures w'.report.failures)
      (fun _ w' => w'.report.failures = w.report.failures) := by
  refine .bind (.ofExcept _ fun _ _ => rfl) ?_
  rintro field _ ⟨-, rfl⟩
  refine .bind (ends_load h hnested child field keys _) fun children w' hadded => ?_
  exact .pure hadded

theorem ends_loadJoined (join : JoinTable) (child : Model) (keys : List Value) (w : World σ) :
    Run.Ends (loadJoined join c index child keys resolveNested) w
      (fun _ w' => AddedBelow index w.report.failures w'.report.failures)
      (fun _ w' => w'.report.failures = w.report.failures) := by
  have hdescribed : (Run.described join.type w).report.failures = w.report.failures := by rw [Run.report_described]
  rw [← hdescribed]
  refine .bind (.model join.type) ?_
  rintro _ _ ⟨rfl, rfl⟩
  refine .bind (.ofExcept _ fun _ _ => rfl) ?_
  rintro parentField _ ⟨-, rfl⟩
  refine .bind (.ofExcept _ fun _ _ => rfl) ?_
  rintro childField _ ⟨-, rfl⟩
  refine .bind (.ofExcept _ fun _ _ => rfl) ?_
  rintro s _ ⟨-, rfl⟩
  refine .bind (.during (c.ends_fetch h index s)) ?_
  rintro rows w₁ ⟨hwhole, hw₁⟩
  rw [← hw₁]
  obtain ⟨found, hfound⟩ := exists_pairs hwhole parentField.column childField.column
  have hpairs : Halt.ofAbort (pairs parentField.column childField.column rows) = .ok found := by
    rw [hfound]
    rfl
  rw [hpairs]
  refine .bind (.ofHalt _ (fun _ => nofun) fun _ => rfl) ?_
  rintro _ _ ⟨-, rfl⟩
  dsimp only
  split
  · exact .pure (.refl index _)
  · refine .bind (.ofExcept _ fun _ _ => rfl) ?_
    rintro keyField _ ⟨-, rfl⟩
    refine .bind (.during (ends_load h hnested child keyField _ _)) fun children w' hadded => ?_
    exact .pure hadded

/-- A link attaches to all parents, or finds no key, or fails with no failure entered. -/
theorem ends_tryResolve (link : Link) (t : RecordType) (parents : List Record) (w : World σ) :
    Run.Ends (link.tryResolve c t index resolveNested parents) w (Ending c.library t link index parents w)
      (fun _ w' => (∀ field, t.model.keyField link.parentKey = .ok field → ∃ p ∈ parents, (p.key? field.name).isSome) ∧
        w'.report.failures = w.report.failures) := by
  have hdescribed : (Run.described link.child (Run.described t w)).report = w.report := by
    rw [Run.report_described, Run.report_described]
  refine .bind (.model t) ?_
  rintro _ _ ⟨rfl, rfl⟩
  refine .bind (.model link.child) ?_
  rintro _ _ ⟨rfl, rfl⟩
  refine .bind (.ofExcept _ fun f hf => ⟨fun field hfield => ?_, by rw [hdescribed]⟩) ?_
  · rw [hf] at hfield
    cases hfield
  rintro field _ ⟨hfield, rfl⟩
  dsimp only
  rw [keys_paired]
  by_cases hnone : parents.filterMap (·.key? field.name) = []
  · rw [hnone, if_pos (by rfl)]
    refine .unkeyed hfield (List.filterMap_eq_nil_iff.mp hnone) ?_ hdescribed
    exact (Run.sent_described ..).trans (Run.sent_described ..)
  · rw [if_neg (by rwa [List.isEmpty_iff, Value.distinct_eq_nil_iff])]
    have hkey : ∃ p ∈ parents, (p.key? field.name).isSome := by
      obtain ⟨key, hmem⟩ := List.exists_mem_of_ne_nil _ hnone
      obtain ⟨p, hp, hkey⟩ := List.mem_filterMap.mp hmem
      exact ⟨p, hp, by rw [hkey]; rfl⟩
    have hattached : ∀ (childrenOf : Value → List Record) (w' : World σ), AddedBelow index w.report.failures w'.report.failures →
        Ending c.library t link index parents w
          (link.attachAll childrenOf (parents.map fun parent => (parent, parent.key? field.name))) w' := by
      intro childrenOf w' hadded
      refine .attached hfield hkey ?_ hadded
      rw [attachAll, List.map_map, List.forall₂_map_right_iff, List.forall₂_same]
      exact fun p _ => ⟨_, rfl⟩
    have hfault : ∀ field', t.model.keyField link.parentKey = .ok field' → ∃ p ∈ parents, (p.key? field'.name).isSome := by
      intro field' hfield'
      rw [hfield] at hfield'
      cases hfield'
      exact hkey
    rw [← hdescribed] at hattached ⊢
    cases link.join with
    | none =>
      refine .bind ((ends_loadDirect h hnested link link.child.model _ _).mono (fun _ _ hadded => hadded)
        fun _ _ hsame => ⟨hfault, hsame⟩) fun childrenOf w' hadded => ?_
      exact .pure (hattached childrenOf w' hadded)
    | some join =>
      refine .bind ((ends_loadJoined h hnested join link.child.model _ _).mono (fun _ _ hadded => hadded)
        fun _ _ hsame => ⟨hfault, hsame⟩) fun childrenOf w' hadded => ?_
      exact .pure (hattached childrenOf w' hadded)

/-- Resolving a link does not fail. -/
theorem ends_resolve (link : Link) (t : RecordType) (parents : List Record) (w : World σ) :
    Run.Ends (link.resolve c t index resolveNested parents) w (Ending c.library t link index parents w) fun _ _ => False := by
  refine .bind_attempt ((ends_tryResolve h hnested link t parents w).mono (fun _ _ hending => .pure hending) ?_)
  rintro fault w' ⟨hkey, hsame⟩
  have hentered : (w'.report.fail index (fault.message c.library)).failures =
      w.report.failures ++ [⟨index, fault.message c.library⟩] := by
    rw [← hsame]
    rfl
  exact Ending.failed hkey hentered

end Resolve

/-- Resolving a link keeps the values of the parents, unless it is aborted. -/
theorem ends_resolve_values (link : Link) (c : Connection σ) (t : RecordType) (index : ReportIndex)
    (resolveNested : List Record → Run σ (List Record)) (parents : List Record) (w : World σ) :
    Run.EndsOr True (link.resolve c t index resolveNested parents) w
      (fun resolved _ => List.Forall₂ (fun p r => r.values = p.values) parents resolved) fun _ _ => False := by
  have hsame : List.Forall₂ (fun p r : Record => r.values = p.values) parents parents := List.forall₂_same.mpr fun _ _ => rfl
  have htry : Run.EndsOr True (link.tryResolve c t index resolveNested parents) w
      (fun resolved _ => List.Forall₂ (fun p r => r.values = p.values) parents resolved) fun _ _ => True := by
    refine .bind (.any _ _) fun _ _ _ => .bind (.any _ _) fun _ _ _ => .bind (.any _ _) fun field _ _ => ?_
    dsimp only
    split
    · exact .bind (.any _ _) fun _ _ _ => .pure hsame
    · have hattach : ∀ (childrenOf : Value → List Record), List.Forall₂ (fun p r => r.values = p.values) parents
          (link.attachAll childrenOf (parents.map fun parent => (parent, parent.key? field.name))) := by
        intro childrenOf
        rw [attachAll, List.map_map, List.forall₂_map_right_iff, List.forall₂_same]
        exact fun p _ => Record.values_attach ..
      cases link.join with
      | none => exact .bind (.any _ _) fun childrenOf _ _ => .pure (hattach childrenOf)
      | some join => exact .bind (.any _ _) fun childrenOf _ _ => .pure (hattach childrenOf)
  exact .bind_attempt (htry.mono (fun _ _ hvalues => .pure hvalues) fun _ _ _ => hsame)

end Link

/-! ## Trees of relations -/

namespace Relation

variable {σ : Type} {c : Connection σ}

/-- Nothing fails where there are no records. -/
theorem local_unlessNone {index : ReportIndex} {resolveAll : List Record → Run σ (List Record)} (h : Link.Local index resolveAll) :
    Link.Local index (unlessNone resolveAll) := by
  intro children w
  unfold unlessNone
  split
  · exact .pure (.refl index _)
  · exact h children w

mutual

/-- A relation does not fail, whatever its link and the relations below it do. -/
theorem ends_resolve (h : c.executor.Whole) (t : RecordType) (index : ReportIndex) :
    ∀ (r : Relation) (parents : List Record) (w : World σ),
      Run.Ends (resolve c t index r parents) w (r.link.Ending c.library t index parents w) fun _ _ => False
  | .mk link nested, parents, w => by
    unfold resolve
    refine Link.ends_resolve h (local_unlessNone fun children w => ?_) link t parents w
    exact (ends_resolveFrom h link.child index 0 nested children w).mono (fun _ _ hboth => hboth.2) fun _ _ hfalse => hfalse

/-- Relations that are resolved in order do not fail; they keep the values of the parents, and what fails in them is entered below. -/
theorem ends_resolveFrom (h : c.executor.Whole) (t : RecordType) (index : ReportIndex) (i : Nat) :
    ∀ (rs : List Relation) (parents : List Record) (w : World σ),
      Run.Ends (resolveFrom c t index i rs parents) w
        (fun resolved w' => List.Forall₂ (fun p r => r.values = p.values) parents resolved ∧
          AddedBelow index w.report.failures w'.report.failures) fun _ _ => False
  | [], parents, w => by
    unfold resolveFrom
    exact .pure ⟨List.forall₂_same.mpr fun _ _ => rfl, .refl index _⟩
  | r :: rs, parents, w => by
    unfold resolveFrom
    refine .bind (ends_resolve h t (index.child i) r parents w) fun resolved w₁ hending => ?_
    refine (ends_resolveFrom h t index (i + 1) rs resolved w₁).mono ?_ fun _ _ hfalse => hfalse
    rintro last w₂ ⟨hvalues, hadded⟩
    have hfirst : List.Forall₂ (fun p q => q.values = p.values) parents resolved := hending.sameBeside.imp fun _ _ hsame => hsame.1
    exact ⟨forall₂_trans hfirst hvalues fun _ _ _ hab hbc => hbc.trans hab, hending.addedBelow.trans hadded⟩

end

/-- Relations that are resolved in order keep the values of the parents, unless they are aborted. -/
theorem ends_resolveFrom_values (c : Connection σ) (t : RecordType) (index : ReportIndex) (i : Nat) (rs : List Relation)
    (parents : List Record) (w : World σ) :
    Run.EndsOr True (resolveFrom c t index i rs parents) w
      (fun resolved _ => List.Forall₂ (fun p r => r.values = p.values) parents resolved) fun _ _ => False := by
  induction rs generalizing i parents w with
  | nil =>
    unfold resolveFrom
    exact .pure (List.forall₂_same.mpr fun _ _ => rfl)
  | cons r rs ih =>
    obtain ⟨link, nested⟩ := r
    unfold resolveFrom resolve
    refine .bind (Link.ends_resolve_values link c t (index.child i) _ parents w) fun resolved w₁ hfirst => ?_
    refine (ih (i + 1) resolved w₁).mono ?_ fun _ _ hfalse => hfalse
    exact fun last _ hrest => forall₂_trans hfirst hrest fun _ _ _ hab hbc => hbc.trans hab

/-- Resolving relations for records keeps their values, unless it is aborted. -/
theorem ends_preload_values (c : Connection σ) (t : RecordType) (index : ReportIndex) (rs : List Relation)
    (parents : List Record) (w : World σ) :
    Run.EndsOr True (preload c t index rs parents) w
      (fun resolved _ => List.Forall₂ (fun p r => r.values = p.values) parents resolved) fun _ _ => False := by
  unfold preload unlessNone
  split
  · exact .pure (List.forall₂_same.mpr fun _ _ => rfl)
  · exact ends_resolveFrom_values c t index 0 rs parents w

/-- Where rows are whole, resolving relations for records gives records with the same values. -/
theorem exists_preload (h : c.executor.Whole) (t : RecordType) (index : ReportIndex) (rs : List Relation) (parents : List Record)
    (w : World σ) : ∃ resolved w', (preload c t index rs parents).on w = (.ok resolved, w') ∧
      List.Forall₂ (fun p r => r.values = p.values) parents resolved := by
  unfold preload unlessNone
  split
  · exact ⟨parents, w, rfl, List.forall₂_same.mpr fun _ _ => rfl⟩
  · obtain ⟨resolved, w', hresolve, hvalues, -⟩ := Run.ends_iff_exists.mp (ends_resolveFrom h t index 0 rs parents w)
    exact ⟨resolved, w', hresolve, hvalues⟩

/-- Relations that stand after others go on from what these made of the parents. -/
theorem resolveFrom_append (t : RecordType) (index : ReportIndex) (i : Nat) (rs ss : List Relation) (parents : List Record) :
    resolveFrom c t index i (rs ++ ss) parents =
      resolveFrom c t index i rs parents >>= resolveFrom c t index (i + rs.length) ss := by
  induction rs generalizing i parents with
  | nil => rw [List.nil_append, resolveFrom, pure_bind, List.length_nil, Nat.add_zero]
  | cons r rs ih =>
    rw [List.cons_append, resolveFrom, resolveFrom, bind_assoc, List.length_cons, Nat.add_comm rs.length 1, ← Nat.add_assoc]
    congr 1
    funext resolved
    exact ih (i + 1) resolved

end Relation

/-! ## Finding records -/

/-- The records of rows are those of each row, in order. -/
theorem Record.forall₂_ofRows {m : Model} {rows : List Row} {records : List Record} (h : ofRows m rows = .ok records) :
    List.Forall₂ (fun row r => ofRow m row = .ok r) rows records := by
  induction rows generalizing records with
  | nil =>
    cases h
    exact .nil
  | cons row rows ih =>
    rw [ofRows] at h
    split at h
    · cases h
    · rename_i r hrow
      cases hrest : ofRows m rows with
      | error halt =>
        rw [hrest] at h
        cases h
      | ok rest =>
        rw [hrest] at h
        cases h
        exact .cons hrow (ih hrest)

/-- Rows that are records are read as these records. -/
theorem Record.ofRows_of_forall₂ {m : Model} {rows : List Row} {records : List Record}
    (h : List.Forall₂ (fun row r => ofRow m row = .ok r) rows records) : ofRows m rows = .ok records := by
  induction h with
  | nil => rfl
  | cons hrow _ ih => rw [ofRows, hrow, ih]; rfl

namespace Session

variable {σ : Type} {c : Connection σ}

/-- A find whose rows are records gives these records, whatever becomes of their relations. -/
theorem on_find_of_rows (h : c.executor.Whole) (t : RecordType) (request : Find) {w w₁ : World σ} {rows : List Row}
    {records : List Record} (hrows : (c.findRows .root t.model request.search request.clauses).on (begun t w) = (.ok rows, w₁))
    (hrecords : Record.ofRows t.model rows = .ok records) :
    ∃ outcome w', (find c t request).on w = (.ok outcome, w') ∧
      List.Forall₂ (fun r found => found.values = r.values) records outcome.value := by
  obtain ⟨resolved, w₂, hpreload, hvalues⟩ := Relation.exists_preload h t .root request.relations records w₁
  refine ⟨⟨resolved, w₂.report⟩, w₂, ?_, hvalues⟩
  rw [find, on_start_model, Run.on_bind_ok hrows, hrecords, Run.on_bind_ok (Run.on_ofHalt _ _), Run.on_bind_ok hpreload]
  rfl

/-- A find that gives records has fetched their rows and decoded each of them. -/
theorem rows_of_find {t : RecordType} {request : Find} {w w' : World σ} {outcome : Outcome (List Record)}
    (hfind : (find c t request).on w = (.ok outcome, w')) :
    ∃ rows w₁ records, (c.findRows .root t.model request.search request.clauses).on (begun t w) = (.ok rows, w₁) ∧
      Record.ofRows t.model rows = .ok records := by
  rw [find, on_start_model, Run.on_bind] at hfind
  rcases hrows : (c.findRows .root t.model request.search request.clauses).on (begun t w) with ⟨halt | rows, w₁⟩
  · rw [hrows] at hfind
    cases hfind
  · rw [hrows] at hfind
    dsimp only at hfind
    rw [Run.on_bind, Run.on_ofHalt] at hfind
    cases hrecords : Record.ofRows t.model rows with
    | error halt =>
      rw [hrecords] at hfind
      cases hfind
    | ok records => exact ⟨rows, w₁, records, rfl, hrecords⟩

end Session

/-- Where every row has a value for each of its labels, whatever else is answered, resolving a relation comes to one of the three
endings, and keeps the values and the other slots of the parents. A relation that stands among others gets what those before it made of
the parents, and those after it go on from there, so that none of them is kept from being resolved. A find gives the records of its rows
in order, up to what is attached, whenever there are such rows and records, and only then. -/
theorem relations_attached {σ : Type} (c : Connection σ) (h : c.executor.Whole) :
    (∀ t index (r : Relation) parents w, ∃ resolved w', (r.resolve c t index parents).on w = (.ok resolved, w') ∧
      r.link.Ending c.library t index parents w resolved w' ∧ List.Forall₂ (Link.SameBeside r.link.slot) parents resolved) ∧
    (∀ t index i before (r : Relation) after parents w, ∃ reached w₁ resolved w₂,
      (Relation.resolveFrom c t index i before parents).on w = (.ok reached, w₁) ∧
      (r.resolve c t (index.child (i + before.length)) reached).on w₁ = (.ok resolved, w₂) ∧
      (Relation.resolveFrom c t index i (before ++ r :: after) parents).on w =
        (Relation.resolveFrom c t index (i + before.length + 1) after resolved).on w₂) ∧
    (∀ t (request : Find) w rows w₁ records,
      (c.findRows .root t.model request.search request.clauses).on (Session.begun t w) = (.ok rows, w₁) →
      Record.ofRows t.model rows = .ok records → ∃ outcome w', (Session.find c t request).on w = (.ok outcome, w')) ∧
    (∀ t (request : Find) w outcome w', (Session.find c t request).on w = (.ok outcome, w') → ∃ rows w₁,
      (c.findRows .root t.model request.search request.clauses).on (Session.begun t w) = (.ok rows, w₁) ∧
      List.Forall₂ (fun row found => ∃ r, Record.ofRow t.model row = .ok r ∧ found.values = r.values) rows outcome.value) := by
  refine ⟨fun t index r parents w => ?_, fun t index i before r after parents w => ?_,
    fun t request w rows w₁ records hrows hrecords => ?_, fun t request w outcome w' hfind => ?_⟩
  · obtain ⟨resolved, w', hresolve, hending⟩ := Run.ends_iff_exists.mp (Relation.ends_resolve h t index r parents w)
    exact ⟨resolved, w', hresolve, hending, hending.sameBeside⟩
  · obtain ⟨reached, w₁, hbefore, -⟩ := Run.ends_iff_exists.mp (Relation.ends_resolveFrom h t index i before parents w)
    obtain ⟨resolved, w₂, hresolve, -⟩ :=
      Run.ends_iff_exists.mp (Relation.ends_resolve h t (index.child (i + before.length)) r reached w₁)
    refine ⟨reached, w₁, resolved, w₂, hbefore, hresolve, ?_⟩
    rw [Relation.resolveFrom_append, Run.on_bind_ok hbefore, Relation.resolveFrom, Run.on_bind_ok hresolve]
  · obtain ⟨outcome, w', hfind, -⟩ := Session.on_find_of_rows h t request hrows hrecords
    exact ⟨outcome, w', hfind⟩
  · obtain ⟨rows, w₁, records, hrows, hrecords⟩ := Session.rows_of_find hfind
    obtain ⟨found, w₂, hfound, hvalues⟩ := Session.on_find_of_rows h t request hrows hrecords
    rw [hfind] at hfound
    cases hfound
    exact ⟨rows, w₁, hrows, forall₂_trans (Record.forall₂_ofRows hrecords) hvalues fun _ r _ hrow hsame => ⟨r, hrow, hsame⟩⟩

namespace Graph

theorem holds_one : IntegerType.int64.Holds 1 := by decide

/-- A session with a database that fails at its second statement and answers all others with the first node. -/
def failing : Connection Nat where
  executor := ⟨fun _ n =>
    (if n = 1 then [.error (.database "disk full")] else [.ok (.row ⟨["id"], [number 1 holds_one]⟩)], n + 1)⟩
  dialect := .sqlite
  config := {}
  library := .silent

/-- The nodes with the same number, in a slot of the given name. -/
def twin (slot : String) : Relation :=
  .oneToMany slot slot node "id" []

/-- The first node. -/
def one : Record :=
  .ofValues [("id", number 1 holds_one)]

theorem whole_failing : failing.executor.Whole := by
  intro s n row hrow
  have hanswer : (failing.executor.answer s n).1 =
      if n = 1 then [.error (.database "disk full")] else [.ok (.row ⟨["id"], [number 1 holds_one]⟩)] := rfl
  rw [hanswer] at hrow
  split at hrow
  · simp at hrow
  · rw [List.mem_singleton] at hrow
    cases hrow
    exact Nat.le_refl 1

end Graph

/-- Of two relations the first fails and the second is attached, also within a find. -/
theorem relations_attached_failing :
    Graph.failing.executor.Whole ∧
    (∃ resolved w', ((Graph.twin "left").resolve Graph.failing Graph.node ⟨[0, 0]⟩ [Graph.one]).on { executor := 1 } =
        (.ok resolved, w') ∧ w'.report.failures = [⟨⟨[0, 0]⟩, "disk full"⟩] ∧
      (Graph.twin "left").link.Ending .silent Graph.node ⟨[0, 0]⟩ [Graph.one] { executor := 1 } resolved w') ∧
    (∃ reached w₁ resolved w₂,
      (Relation.resolveFrom Graph.failing Graph.node .root 0 [Graph.twin "left"] [Graph.one]).on { executor := 1 } =
        (.ok reached, w₁) ∧
      ((Graph.twin "right").resolve Graph.failing Graph.node ⟨[0, 1]⟩ reached).on w₁ = (.ok resolved, w₂) ∧
      resolved = [Graph.one.attach "right" (.many [Graph.one])]) ∧
    ∃ outcome w', (Session.find Graph.failing Graph.node { relations := [Graph.twin "left", Graph.twin "right"] }).on
        { executor := 0 } = (.ok outcome, w') ∧
      outcome.report.failures = [⟨⟨[0, 0]⟩, "disk full"⟩] ∧
      outcome.value = [Graph.one.attach "right" (.many [Graph.one])] := by
  obtain ⟨hending, hsiblings, hfind, -⟩ := relations_attached Graph.failing Graph.whole_failing
  refine ⟨Graph.whole_failing, ?_, ?_, ?_⟩
  · obtain ⟨resolved, w', hresolve, hend, -⟩ := hending Graph.node ⟨[0, 0]⟩ (Graph.twin "left") [Graph.one] { executor := 1 }
    refine ⟨resolved, w', hresolve, ?_, hend⟩
    cases hresolve
    rfl
  · obtain ⟨reached, w₁, resolved, w₂, hbefore, hresolve, -⟩ :=
      hsiblings Graph.node .root 0 [Graph.twin "left"] (Graph.twin "right") [] [Graph.one] { executor := 1 }
    refine ⟨reached, w₁, resolved, w₂, hbefore, hresolve, ?_⟩
    cases hbefore
    cases hresolve
    rfl
  · obtain ⟨outcome, w', hfound⟩ := hfind Graph.node { relations := [Graph.twin "left", Graph.twin "right"] } { executor := 0 }
      _ _ [Graph.one] rfl rfl
    refine ⟨outcome, w', hfound, ?_⟩
    cases hfound
    exact ⟨rfl, rfl⟩

end RecordSql
