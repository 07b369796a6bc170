import RecordSql.Proofs.Report.Preorder
import RecordSql.Proofs.Session.Enters

/-!
# What a find reports

Whatever an executor answers, resolving relations enters into the report what `Relation.ReportsFrom` says, one entry for each statement
that was sent (`Run.Enters`). So the report of a find that gives records starts with the entry of its own query, and the rest stands in
the order of its relations, each of them with few entries and at most one failure, below which there is nothing (`find_reports`).
-/

namespace RecordSql

/-! ## Queries of a link -/

namespace Link

variable {σ : Type}

/-- Up to `n` statements were sent, each with an entry that satisfies `P`. -/
def Within (P : Entry → Prop) (n : Nat) (w w' : World σ) : Prop :=
  ∃ own, Run.Enters w w' own [] ∧ own.length ≤ n ∧ ∀ e ∈ own, P e

/-- Up to `n` statements were sent from a position. -/
def Asked (index : ReportIndex) (n : Nat) (w w' : World σ) : Prop :=
  Within (fun e => e.index = index) n w w'

/-- Up to `n` statements were sent from a position, and none of them failed. -/
def Answered (index : ReportIndex) (n : Nat) (w w' : World σ) : Prop :=
  Within (fun e => e.index = index ∧ e.error = none) n w w'

/-- Up to `n` statements were sent from a position, none of them failed, and what was entered after them satisfies `B`. -/
def Loaded (B : List Entry → List Failure → Prop) (index : ReportIndex) (n : Nat) (w w' : World σ) : Prop :=
  ∃ v below failures, Answered index n w v ∧ Run.Enters v w' below failures ∧ B below failures

variable {B : List Entry → List Failure → Prop} {P : Entry → Prop} {index : ReportIndex} {m n : Nat} {u v w : World σ}

theorem Within.refl (P : Entry → Prop) (w : World σ) : Within P 0 w w :=
  ⟨[], .refl w, Nat.le_refl 0, by simp⟩

theorem Within.described (h : Within P n u w) (t : RecordType) : Within P n u (Run.described t w) := by
  obtain ⟨own, henters, hown⟩ := h
  refine ⟨own, ?_, hown⟩
  simpa using henters.trans (.described t w)

theorem Within.mono (h : Within P m u w) (hmn : m ≤ n) : Within P n u w := by
  obtain ⟨own, henters, hlength, hown⟩ := h
  exact ⟨own, henters, hlength.trans hmn, hown⟩

theorem Within.trans (h : Within P m u v) (h' : Within P n v w) : Within P (m + n) u w := by
  obtain ⟨own, henters, hlength, hown⟩ := h
  obtain ⟨more, henters', hlength', hmore⟩ := h'
  refine ⟨own ++ more, henters.trans henters', ?_, fun e he => (List.mem_append.mp he).elim (hown e) (hmore e)⟩
  rw [List.length_append]
  omega

theorem Answered.asked (h : Answered index m u w) (hmn : m ≤ n) : Asked index n u w := by
  obtain ⟨own, henters, hlength, hown⟩ := h
  exact ⟨own, henters, hlength.trans hmn, fun e he => (hown e he).1⟩

theorem Answered.then_asked (h : Answered index m u v) (h' : Asked index n v w) : Asked index (m + n) u w :=
  (h.asked (Nat.le_refl m)).trans h'

/-- The entry of one statement that did not fail. -/
def Entered (index : ReportIndex) (w w' : World σ) : Prop :=
  ∃ e, Run.Enters w w' [e] [] ∧ e.index = index ∧ e.error = none

theorem Entered.answered (h : Entered index u v) : Answered index 1 u v := by
  obtain ⟨e, henters, he⟩ := h
  refine ⟨[e], henters, Nat.le_refl 1, fun a ha => ?_⟩
  rw [List.mem_singleton.mp ha]
  exact he

variable {c : Connection σ}

/-- Fetching rows sends one statement, and gives the rows when it did not fail. -/
theorem ends_fetch_entered (index : ReportIndex) (s : Statement) (w : World σ) :
    Run.EndsOr True (c.fetch index s) w (fun _ => Entered index w) (fun _ => Asked index 1 w) := by
  have hentered := c.enters_sendStep index s w
  rw [Run.EndsOr, Connection.on_fetch]
  cases hresult : (c.sendStep index s w).1 with
  | error f =>
    refine ⟨_, hentered, Nat.le_refl 1, fun e he => ?_⟩
    rw [List.mem_singleton.mp he]
    rfl
  | ok replies =>
    refine ⟨_, hentered, rfl, ?_⟩
    rw [Connection.entry, hresult]
    rfl

theorem ends_findRows_entered (index : ReportIndex) (model : Model) (search : Condition) (clauses : Clauses) (w : World σ) :
    Run.EndsOr True (c.findRows index model search clauses) w (fun _ => Entered index w) (fun _ => Asked index 1 w) := by
  refine .bind (.ofExcept _ fun _ _ => Answered.asked (.refl _ w) (Nat.zero_le 1)) ?_
  rintro s _ ⟨-, rfl⟩
  exact ends_fetch_entered index s _

/-- What is entered for the relations of children satisfies `B`, and resolving them does not fail. -/
def Enters (B : List Entry → List Failure → Prop) (resolveNested : List Record → Run σ (List Record)) : Prop :=
  ∀ children w, Run.EndsOr True (resolveNested children) w
    (fun _ w' => ∃ entries failures, Run.Enters w w' entries failures ∧ B entries failures) fun _ _ => False

section Resolve

variable {resolveNested : List Record → Run σ (List Record)} (hnested : Enters B resolveNested)

include hnested

/-- Loading children fails before their own relations are resolved, or not at all. -/
theorem ends_load_loaded (h : Answered index m u w) (model : Model) (field : Field) (keys : List Value) :
    Run.EndsOr True (load c index model field keys resolveNested) w (fun _ w' => Loaded B index (m + 1) u w')
      (fun _ w' => Asked index (m + 1) u w') := by
  refine .bind ((ends_findRows_entered index model _ _ w).mono (fun _ _ hentered => h.trans hentered.answered)
    fun _ _ hasked => h.then_asked hasked) fun rows v hanswered => ?_
  refine .bind (.ofHalt _ (fun _ _ => trivial) fun _ => Answered.asked hanswered (Nat.le_refl _)) ?_
  rintro children _ ⟨-, rfl⟩
  refine (hnested children _).mono ?_ fun _ _ hfalse => hfalse.elim
  rintro _ w' ⟨entries, failures, henters, hB⟩
  exact ⟨_, entries, failures, hanswered, henters, hB⟩

theorem ends_loadDirect_loaded (h : Answered index 0 u w) (link : Link) (child : Model) (keys : List Value) :
    Run.EndsOr True (link.loadDirect c index child keys resolveNested) w (fun _ w' => Loaded B index 1 u w')
      (fun _ w' => Asked index 1 u w') := by
  refine .bind (.ofExcept _ fun _ _ => h.asked (Nat.zero_le 1)) ?_
  rintro field _ ⟨-, rfl⟩
  refine .bind (ends_load_loaded hnested h child field keys) fun _ _ hloaded => ?_
  exact .pure hloaded

theorem ends_loadJoined_loaded (hnil : B [] []) (h : Answered index 0 u w) (join : JoinTable) (child : Model) (keys : List Value) :
    Run.EndsOr True (loadJoined join c index child keys resolveNested) w (fun _ w' => Loaded B index 2 u w')
      (fun _ w' => Asked index 2 u w') := by
  refine .bind (.model join.type) ?_
  rintro _ _ ⟨rfl, rfl⟩
  have hdescribed : Answered index 0 u (Run.described join.type w) := h.described join.type
  refine .bind (.ofExcept _ fun _ _ => hdescribed.asked (by decide)) ?_
  rintro parentField _ ⟨-, rfl⟩
  refine .bind (.ofExcept _ fun _ _ => hdescribed.asked (by decide)) ?_
  rintro childField _ ⟨-, rfl⟩
  refine .bind (.ofExcept _ fun _ _ => hdescribed.asked (by decide)) ?_
  rintro s _ ⟨-, rfl⟩
  refine .bind (.during ((ends_fetch_entered index s _).mono (fun _ _ hentered => hdescribed.trans hentered.answered)
    fun _ _ hasked => (hdescribed.then_asked hasked).mono (by decide))) fun rows v hanswered => ?_
  refine .bind (.ofHalt _ (fun _ _ => trivial) fun _ => Answered.asked hanswered (by decide)) ?_
  rintro found _ ⟨-, rfl⟩
  dsimp only
  split
  · exact .pure ⟨_, [], [], hanswered.mono (by decide), .refl _, hnil⟩
  · refine .bind (.ofExcept _ fun _ _ => Answered.asked hanswered (by decide)) ?_
    rintro keyField _ ⟨-, rfl⟩
    refine .bind (.during (ends_load_loaded hnested hanswered child keyField _)) fun _ _ hloaded => ?_
    exact .pure hloaded

/-- A link has sent no more than its queries, without a fault when it does not fail. -/
theorem ends_tryResolve_loaded (hnil : B [] []) (link : Link) (t : RecordType) (parents : List Record) (w : World σ) :
    Run.EndsOr True (link.tryResolve c t index resolveNested parents) w (fun _ w' => Loaded B index link.queries w w')
      (fun _ w' => Asked index link.queries w w') := by
  refine .bind (.model t) ?_
  rintro _ _ ⟨rfl, rfl⟩
  refine .bind (.model link.child) ?_
  rintro _ _ ⟨rfl, rfl⟩
  have hdescribed : Answered index 0 w (Run.described link.child (Run.described t w)) :=
    ((Within.refl _ w).described t).described link.child
  refine .bind (.ofExcept _ fun _ _ => hdescribed.asked (Nat.zero_le _)) ?_
  rintro field _ ⟨-, rfl⟩
  dsimp only
  split
  · -- no parent has a key: a line of the log tells so
    have hlogged : ∀ lines, Answered index 0 w { Run.described link.child (Run.described t w) with
        log := (Run.described link.child (Run.described t w)).log ++ lines } := by
      intro lines
      obtain ⟨own, henters, hown⟩ := hdescribed
      exact ⟨own, ⟨henters.entered, henters.failed, henters.sent⟩, hown⟩
    exact ⟨_, [], [], (hlogged _).mono (Nat.zero_le _), .refl _, hnil⟩
  · unfold queries
    cases link.join with
    | none =>
      refine .bind (ends_loadDirect_loaded hnested hdescribed link link.child.model _) fun _ _ hloaded => ?_
      exact .pure hloaded
    | some join =>
      refine .bind (ends_loadJoined_loaded hnested hnil hdescribed join link.child.model _) fun _ _ hloaded => ?_
      exact .pure hloaded

/-- A link does not fail: it has loaded what it attaches, or its failure was entered, behind which nothing was asked. -/
theorem ends_resolve_loaded (hnil : B [] []) (link : Link) (t : RecordType) (parents : List Record) (w : World σ) :
    Run.EndsOr True (link.resolve c t index resolveNested parents) w
      (fun _ w' => Loaded B index link.queries w w' ∨
        ∃ own error, Run.Enters w w' own [⟨index, error⟩] ∧ link.Own index own) fun _ _ => False := by
  refine .bind_attempt ((ends_tryResolve_loaded hnested hnil link t parents w).mono (fun _ _ hloaded => .pure (.inl hloaded)) ?_)
  rintro f w' ⟨own, henters, hlength, hindex⟩
  have hfailed := henters.trans (.fail index (f.message c.library) w')
  rw [List.append_nil, List.nil_append] at hfailed
  exact .inr ⟨own, f.message c.library, hfailed, hlength, hindex⟩

end Resolve

end Link

/-! ## Trees of relations -/

namespace Relation

variable {σ : Type} {c : Connection σ}

mutual

/-- Resolving a relation enters what is reported of it. -/
theorem reports_resolve (t : RecordType) (index : ReportIndex) : ∀ (r : Relation) (parents : List Record) (w : World σ),
    Run.EndsOr True (resolve c t index r parents) w
      (fun _ w' => ∃ entries failures, Run.Enters w w' entries failures ∧ Reports index r entries failures) fun _ _ => False
  | .mk link nested, parents, w => by
    have hnested : Link.Enters (ReportsFrom index 0 nested)
        (unlessNone fun children => resolveFrom c link.child index 0 nested children) := by
      intro children w
      unfold unlessNone
      split
      · exact .pure ⟨[], [], .refl w, .none⟩
      · exact reports_resolveFrom link.child index 0 nested children w
    unfold resolve
    refine (Link.ends_resolve_loaded hnested .none link t parents w).mono ?_ fun _ _ hfalse => hfalse
    rintro _ w' (⟨v, below, failures, ⟨own, hown, hlength, hanswered⟩, hbelow, hreports⟩ | ⟨own, error, henters, hown⟩)
    · refine ⟨own ++ below, failures, hown.trans hbelow, .resolved ⟨hlength, fun e he => (hanswered e he).1⟩ ?_ hreports⟩
      exact fun e he => (hanswered e he).2
    · exact ⟨own, _, henters, .failed hown error⟩

/-- Resolving relations in order enters what is reported of them. -/
theorem reports_resolveFrom (t : RecordType) (index : ReportIndex) (i : Nat) :
    ∀ (rs : List Relation) (parents : List Record) (w : World σ), Run.EndsOr True (resolveFrom c t index i rs parents) w
      (fun _ w' => ∃ entries failures, Run.Enters w w' entries failures ∧ ReportsFrom index i rs entries failures)
      fun _ _ => False
  | [], parents, w => by
    unfold resolveFrom
    exact .pure ⟨[], [], .refl w, .none⟩
  | r :: rs, parents, w => by
    unfold resolveFrom
    refine .bind (reports_resolve t (index.child i) r parents w) ?_
    rintro resolved w₁ ⟨entries, failures, henters, hreports⟩
    refine (reports_resolveFrom t index (i + 1) rs resolved w₁).mono ?_ fun _ _ hfalse => hfalse
    rintro _ w₂ ⟨more, others, hmore, hrest⟩
    exact ⟨_, _, henters.trans hmore, .cons hreports hrest⟩

end

end Relation

/-! ## Finding records -/

namespace Session

variable {σ : Type} {c : Connection σ}

/-- A find that gives records has entered its own query, and then what is reported of its relations. -/
theorem ends_find_reports (t : RecordType) (request : Find) (w : World σ) :
    Run.EndsOr True (find c t request) w
      (fun outcome w' => ∃ e entries failures, Run.Enters (begun t w) w' (e :: entries) failures ∧ outcome.report = w'.report ∧
        e.index = .root ∧ e.error = none ∧ Relation.ReportsFrom .root 0 request.relations entries failures)
      fun _ _ => True := by
  rw [Run.EndsOr, find, on_start_model]
  change Run.EndsOr True _ (begun t w) _ _
  refine .bind ((Link.ends_findRows_entered .root t.model _ _ _).mono (fun _ _ hentered => hentered) fun _ _ _ => trivial) ?_
  rintro rows w₁ ⟨e, henters, hindex, hnone⟩
  refine .bind (.ofHalt _ (fun _ _ => trivial) fun _ => trivial) ?_
  rintro records w₁ ⟨-, rfl⟩
  have hpreload : Run.EndsOr True (Relation.preload c t .root request.relations records) w₁
      (fun _ w' => ∃ entries failures, Run.Enters w₁ w' entries failures ∧
        Relation.ReportsFrom .root 0 request.relations entries failures) fun _ _ => True := by
    unfold Relation.preload Relation.unlessNone
    split
    · exact .pure ⟨[], [], .refl _, .none⟩
    · exact (Relation.reports_resolveFrom t .root 0 _ records _).mono (fun _ _ hreports => hreports) fun _ _ _ => trivial
  refine .bind hpreload ?_
  rintro resolved w₂ ⟨entries, failures, hmore, hreports⟩
  exact ⟨e, entries, failures, henters.trans hmore, rfl, hindex, hnone, hreports⟩

end Session

/-- A find that gives records has entered one entry for each statement that it sent, in order. The first is its own query. The positions
of the others are in order and are those of relations, at most one for a relation without a join table and at most two for one with a join
table. The positions of failures are in strict order and are those of relations. A fault in an entry belongs to a failure at its position,
and below the position of a failure there is neither an entry nor a failure. -/
theorem find_reports {σ : Type} (c : Connection σ) (t : RecordType) (request : Find) (w w' : World σ)
    (outcome : Outcome (List Record)) (h : (Session.find c t request).on w = (.ok outcome, w')) :
    w'.sent = w.sent ++ outcome.report.entries.map Entry.statement ∧
    (∃ first rest, outcome.report.entries = first :: rest ∧ first.index = .root ∧
      ∀ e ∈ rest, ∃ path r, e.index.path = 0 :: path ∧ Relation.at? request.relations path = some r) ∧
    outcome.report.entries.Pairwise (fun a b => a.index.order b.index ≠ .gt) ∧
    (∀ path r, Relation.at? request.relations path = some r →
      (outcome.report.entriesAt ⟨0 :: path⟩).length ≤ if r.link.join.isSome then 2 else 1) ∧
    outcome.report.failures.Pairwise (fun f g => f.index.order g.index = .lt) ∧
    (∀ f ∈ outcome.report.failures, ∃ path r, f.index.path = 0 :: path ∧ Relation.at? request.relations path = some r) ∧
    (∀ e ∈ outcome.report.entries, e.error ≠ none → ∃ f ∈ outcome.report.failures, f.index = e.index) ∧
    ∀ f ∈ outcome.report.failures, (∀ e ∈ outcome.report.entries, ¬ f.index.IsAbove e.index) ∧
      ∀ g ∈ outcome.report.failures, ¬ f.index.IsAbove g.index := by
  have hfind := Session.ends_find_reports (c := c) t request w
  rw [Run.EndsOr, h] at hfind
  obtain ⟨e, entries, failures, henters, hreport, hindex, hnone, hreports⟩ := hfind
  obtain ⟨hrest, hlocated⟩ := Relation.ReportsFrom.tidy_located _ hreports
  obtain ⟨hentries, hfailures⟩ := hlocated.isFrom
  have htidy : Tidy (e :: entries) failures := by
    have hhead : ∀ a ∈ [e], a.index = .root ∧ a.error = none := by
      intro a ha
      rw [List.mem_singleton.mp ha]
      exact ⟨hindex, hnone⟩
    exact .above hhead hrest (fun a ha => (hentries a ha).isAbove) fun f hf => (hfailures f hf).isAbove
  have hbegun : (Session.begun t w).report = {} := Run.report_described ..
  have hall : outcome.report.entries = e :: entries := by rw [hreport, henters.entered, hbegun, List.nil_append]
  have hfailed : outcome.report.failures = failures := by rw [hreport, henters.failed, hbegun, List.nil_append]
  rw [funext (Relation.atFrom?_zero request.relations)] at hlocated
  simp only [Report.entriesAt, hall, hfailed]
  refine ⟨?_, ⟨e, entries, rfl, hindex, hlocated.entry⟩, htidy.ordered, fun path r hr => ?_, htidy.failing, hlocated.failure,
    htidy.faults, htidy.nothingBelow⟩
  · rw [henters.sent, Session.sent_begun]
  · -- the entry of the find itself is not at the position of a relation
    have hne : (e.index == ⟨0 :: path⟩) = false := by
      cases path with
      | nil => cases hr
      | cons k path =>
        rw [hindex]
        rfl
    rw [List.filter_cons, hne]
    exact hlocated.counted path r hr

namespace Graph

/-- Relations two deep. The first of them goes through a table that is not there. -/
def branches : List Relation :=
  [.manyToMany "next" "next" node ⟨edge, "source", "target"⟩ [twin "below"],
   .oneToMany "left" "left" node "id" [twin "first", twin "second"], twin "right"]

end Graph

/-- Relations two deep, of which the first one fails. -/
theorem find_reports_branches :
    ∃ outcome w', (Session.find Graph.failing Graph.node { relations := Graph.branches }).on { executor := 0 } = (.ok outcome, w') ∧
      outcome.report.entries.map (fun e => (e.index.path, e.error)) =
        [([0], none), ([0, 0], some "disk full"), ([0, 1], none), ([0, 1, 0], none), ([0, 1, 1], none), ([0, 2], none)] ∧
      outcome.report.failures = [⟨⟨[0, 0]⟩, "While loading the join table edge: disk full"⟩] ∧
      w'.sent = outcome.report.entries.map Entry.statement ∧
      (outcome.report.entriesAt ⟨[0, 1, 1]⟩).length ≤ 1 ∧
      ∀ f ∈ outcome.report.failures, ∀ e ∈ outcome.report.entries, ¬ f.index.IsAbove e.index := by
  have hrun : (((Session.find Graph.failing Graph.node { relations := Graph.branches }).on { executor := 0 }).1.toOption.map
      fun outcome => (outcome.report.entries.map fun e => (e.index.path, e.error), outcome.report.failures)) =
      some ([([0], none), ([0, 0], some "disk full"), ([0, 1], none), ([0, 1, 0], none), ([0, 1, 1], none), ([0, 2], none)],
        [⟨⟨[0, 0]⟩, "While loading the join table edge: disk full"⟩]) := by
    decide +kernel
  rcases hfound : (Session.find Graph.failing Graph.node { relations := Graph.branches }).on { executor := 0 } with ⟨halt | outcome, w'⟩
  · rw [hfound] at hrun
    cases hrun
  · rw [hfound] at hrun
    obtain ⟨hentries, hfailures⟩ := Prod.mk.inj (Option.some.inj hrun)
    obtain ⟨hsent, -, -, hcounted, -, -, -, hbelow⟩ := find_reports _ _ _ _ _ _ hfound
    exact ⟨outcome, w', rfl, hentries, hfailures, hsent, hcounted [1, 1] _ rfl, fun f hf => (hbelow f hf).1⟩

end RecordSql
