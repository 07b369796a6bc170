import RecordSql.Proofs.Session.Gate
import RecordSql.Proofs.Session.Refusal

/-!
# Operations that are refused

What cannot be built is refused before anything is sent (`refused_before_sent`): the executor has received nothing, and the log tells of
no statement. A statement is built either before all sending (`Run.RefusesFirst`) or for an item of a batch, whose faults are caught.
-/

namespace RecordSql

/-! ## Building comes first -/

namespace Run

variable {σ α β : Type}

/-- The executor has received nothing between two worlds, and the log tells of no statement. -/
def Untouched (d : Dialect) (w w' : World σ) : Prop :=
  w'.sent = w.sent ∧ w'.executor = w.executor ∧ ∃ notes, w'.log = w.log ++ notes ∧ ∀ line ∈ notes, line.IsNote d

namespace Untouched

variable {d : Dialect} {u v w : World σ}

theorem refl (w : World σ) : Untouched d w w :=
  ⟨rfl, rfl, [], (List.append_nil _).symm, by simp⟩

theorem trans (h : Untouched d u v) (h' : Untouched d v w) : Untouched d u w := by
  obtain ⟨hsent, hexecutor, notes, hlog, hnotes⟩ := h
  obtain ⟨hsent', hexecutor', more, hlog', hmore⟩ := h'
  refine ⟨hsent'.trans hsent, hexecutor'.trans hexecutor, notes ++ more, by rw [hlog', hlog, List.append_assoc], ?_⟩
  exact fun line hline => (List.mem_append.mp hline).elim (hnotes line) (hmore line)

theorem described (d : Dialect) (t : RecordType) (w : World σ) : Untouched d w (Run.described t w) :=
  ⟨Run.sent_described t w, Run.executor_described t w, Run.exists_log_described d t w⟩

end Untouched

/-- An operation that is refused has not touched the executor. -/
def RefusesFirst (d : Dialect) (x : Run σ α) : Prop :=
  ∀ w f w', x.on w = (.error (.failed f), w') → f.IsRefusal → Untouched d w w'

namespace RefusesFirst

variable {d : Dialect} {x : Run σ α}

theorem of_neverRefuses (h : NeverRefuses x) : RefusesFirst d x :=
  fun w f w' hx hf => absurd hf (h w f w' hx)

/-- What follows an operation must not refuse any more. -/
theorem bind {g : α → Run σ β} (hx : RefusesFirst d x) (hg : ∀ a, NeverRefuses (g a)) : RefusesFirst d (x >>= g) := by
  intro w f w' h hf
  rw [on_bind] at h
  rcases hw : x.on w with ⟨halt | a, v⟩ <;> rw [hw] at h
  · cases h
    exact hx _ _ _ hw hf
  · exact absurd hf (hg a v f w' h)

theorem ofExcept_bind {r : Except Fault α} {g : α → Run σ β} (hg : ∀ a, RefusesFirst d (g a)) :
    RefusesFirst d (Run.ofExcept r >>= g) := by
  intro w f w' h hf
  rw [on_bind] at h
  cases r with
  | error e =>
    cases h
    exact .refl w
  | ok a => exact hg a w f w' h hf

theorem model_bind {t : RecordType} {g : Model → Run σ β} (hg : RefusesFirst d (g t.model)) :
    RefusesFirst d (Run.model t >>= g) := by
  intro w f w' h hf
  rw [on_bind, on_model] at h
  exact (Untouched.described d t w).trans (hg _ f w' h hf)

theorem ofLogged {x : Logged α} (h : ∀ line ∈ x.outcome.2, line.IsNote d) : RefusesFirst d (Run.ofLogged x : Run σ α) := by
  intro w f w' hx hf
  rw [on_ofLogged] at hx
  obtain ⟨-, rfl⟩ := Prod.mk.inj hx
  exact ⟨rfl, rfl, _, rfl, h⟩

end RefusesFirst

/-- An operation fails with the given fault, and has not touched the executor. -/
def IsRefused (d : Dialect) (f : Fault) (x : Run σ α) : Prop :=
  ∀ w, ∃ w', x.on w = (.error (.failed f), w') ∧ Untouched d w w'

namespace IsRefused

variable {d : Dialect} {f : Fault} {x : Run σ α}

theorem bind {g : α → Run σ β} (h : IsRefused d f x) : IsRefused d f (x >>= g) := by
  intro w
  obtain ⟨w', hx, huntouched⟩ := h w
  exact ⟨w', by rw [on_bind, hx], huntouched⟩

theorem ofExcept {r : Except Fault α} (h : r = .error f) : IsRefused d f (Run.ofExcept r : Run σ α) := by
  intro w
  subst h
  exact ⟨w, rfl, .refl w⟩

theorem model_bind {t : RecordType} {g : Model → Run σ β} (h : IsRefused d f (g t.model)) :
    IsRefused d f (Run.model t >>= g) := by
  intro w
  obtain ⟨w', hg, huntouched⟩ := h (described t w)
  exact ⟨w', by rw [on_bind_ok (on_model t w), hg], (Untouched.described d t w).trans huntouched⟩

theorem start_bind {g : Unit → Run σ β} (h : IsRefused d f (g ())) : IsRefused d f (Session.start >>= g) :=
  fun w => h { w with report := {} }

end IsRefused

end Run

/-- What fails with a fault ends with it. -/
theorem Connection.eq_error_of_faultOf {α : Type} {r : Except Fault α} {f : Fault} (h : faultOf r = some f) : r = .error f := by
  cases r with
  | ok a => cases h
  | error e =>
    cases h
    rfl

namespace Session

variable {σ α : Type} {c : Connection σ}

theorem refusesFirst_insertAt (hc : c.executor.NeverRefuses) (index : ReportIndex) (t : RecordType) (r : Record) :
    Run.RefusesFirst c.dialect (insertAt c index t r) := by
  refine .model_bind (.ofExcept_bind fun s => .of_neverRefuses ?_)
  split
  · refine .bind (c.neverRefuses_fetch hc index s) fun rows => ?_
    cases firstValue? rows with
    | none => exact .fail id
    | some v => exact .bind (.ofExcept (v.unrefused_toInteger _)) fun _ => .pure _
  · exact .bind (c.neverRefuses_execute hc index s) fun _ => .pure _

theorem neverRefuses_insertFrom (c : Connection σ) (t : RecordType) (i : Nat) (rs : List Record) :
    Run.NeverRefuses (insertFrom c t i rs) := by
  induction rs generalizing i with
  | nil => exact .pure _
  | cons r rs ih =>
    refine .bind (.attempt _) fun result => ?_
    cases result with
    | ok id => exact .bind (.pure _) fun _ => .bind (ih (i + 1)) fun _ => .pure _
    | error f => exact .bind (.recordFailure _ _) fun _ => .bind (.pure _) fun _ => .bind (ih (i + 1)) fun _ => .pure _

theorem neverRefuses_executeFrom (hc : c.executor.NeverRefuses) (i : Nat) (ss : List Statement) :
    Run.NeverRefuses (executeFrom c i ss) := by
  induction ss generalizing i with
  | nil => exact .pure _
  | cons s ss ih => exact .bind (.bind (c.neverRefuses_execute hc (.item i) s) fun _ => .pure _) fun _ => ih (i + 1)

/-- A refusal after the start of an operation leaves the executor as it was before the start. -/
theorem refusesFirst_start {x : Unit → Run σ α} (hx : Run.RefusesFirst c.dialect (x ())) :
    Run.RefusesFirst c.dialect (start >>= x) :=
  fun w f w' h hf => hx { w with report := {} } f w' h hf

namespace Operation

/-- An operation that is refused has not touched the executor, if the executor does not refuse by itself. -/
theorem refusesFirst (hc : c.executor.NeverRefuses) (op : Operation α) : Run.RefusesFirst c.dialect (op.run c) := by
  have hexecute := fun index s => c.neverRefuses_execute hc index s
  have hfetch := fun index s => c.neverRefuses_fetch hc index s
  cases op with
  | createTable t ifNotExists =>
    refine refusesFirst_start (.model_bind (.bind (.ofLogged fun _ hline => .columns _ _ hline) fun ss => ?_))
    exact neverRefuses_executeFrom hc 0 ss
  | dropTable t ifExists =>
    exact refusesFirst_start (.model_bind (.of_neverRefuses (.bind (hexecute _ _) fun _ => .pure _)))
  | hasTable t =>
    refine refusesFirst_start (.model_bind (.of_neverRefuses (.bind (hfetch _ _) fun rows => ?_)))
    cases firstValue? rows with
    | none => exact .pure _
    | some v => exact .bind (.ofExcept (v.unrefused_toInteger _)) fun _ => .pure _
  | insert t r => exact refusesFirst_start (refusesFirst_insertAt hc .root t r)
  | insertMany t rs =>
    refine refusesFirst_start (.of_neverRefuses (.bind (neverRefuses_insertFrom c t 0 rs) fun ids => ?_))
    exact .bind .report fun _ => .pure _
  | replace t r =>
    refine refusesFirst_start (.model_bind (.ofExcept_bind fun replaced => .of_neverRefuses ?_))
    cases replaced with
    | statement s => exact hexecute _ s
    | updateElseInsert update insert =>
      refine .bind (hexecute _ update) fun updated => ?_
      split
      · exact hexecute _ insert
      · exact .pure _
      · exact .fail fun h => h rfl
  | update t r => exact refusesFirst_start (.model_bind (.ofExcept_bind fun s => .of_neverRefuses (hexecute _ s)))
  | delete now t r => exact refusesFirst_start (.model_bind (.ofExcept_bind fun s => .of_neverRefuses (hexecute _ s)))
  | find t request =>
    refine refusesFirst_start (.model_bind (.bind (.ofExcept_bind fun q => .of_neverRefuses (hfetch _ q)) fun rows => ?_))
    refine .bind (.ofHalt fun f hf => Record.not_isRefusal_of_ofRows hf) fun records => ?_
    exact .bind (Relation.neverRefuses_preload c t .root request.relations records) fun _ => .bind .report fun _ => .pure _
  | count t search =>
    refine refusesFirst_start (.model_bind (.ofExcept_bind fun q => .of_neverRefuses (.bind (hfetch _ q) fun rows => ?_)))
    cases firstValue? rows with
    | none => exact .pure _
    | some v => exact .bind (.ofExcept (v.unrefused_toInteger _)) fun _ => .pure _
  | execute s => exact refusesFirst_start (.of_neverRefuses (hexecute _ s))
  | fetch s => exact refusesFirst_start (.of_neverRefuses (hfetch _ s))
  | addForeignKey t related field =>
    refine refusesFirst_start (.model_bind (.model_bind (.ofExcept_bind fun s => .of_neverRefuses ?_)))
    exact .bind (hexecute _ s) fun _ => .pure _
  | dropForeignKey t field =>
    refine refusesFirst_start (.model_bind (.ofExcept_bind fun s => .of_neverRefuses ?_))
    exact .bind (hexecute _ s) fun _ => .pure _

/-- The fault for which an operation cannot be built. -/
def refusal? (c : Connection σ) : Operation α → Option Fault
  | .insert t r => Connection.faultOf (insertStatement c.dialect t.model r)
  | .replace t r => Connection.faultOf (replacement c.dialect t.model r)
  | .update t r => Connection.faultOf (updateStatement c.dialect t.model r)
  | .delete now t r => Connection.faultOf (deleteStatement c.dialect c.config now t.model r)
  | .find t request =>
    Connection.faultOf (c.scopedQuery t.model (c.dialect.find t.model t.model.columns) request.search request.clauses)
  | .count t search => Connection.faultOf (c.scopedQuery t.model (c.dialect.count t.model) search {})
  | .addForeignKey t related field => Connection.faultOf (c.dialect.addForeignKey t.model related.model field)
  | .dropForeignKey t field => Connection.faultOf (c.dialect.dropForeignKey t.model field)
  | _ => none

/-- An operation that cannot be built fails for that. -/
theorem isRefused {op : Operation α} {f : Fault} (h : op.refusal? c = some f) : Run.IsRefused c.dialect f (op.run c) := by
  cases op with
  | insert t r => exact .start_bind (.model_bind (.bind (.ofExcept (Connection.eq_error_of_faultOf h))))
  | replace t r => exact .start_bind (.model_bind (.bind (.ofExcept (Connection.eq_error_of_faultOf h))))
  | update t r => exact .start_bind (.model_bind (.bind (.ofExcept (Connection.eq_error_of_faultOf h))))
  | delete now t r => exact .start_bind (.model_bind (.bind (.ofExcept (Connection.eq_error_of_faultOf h))))
  | find t request => exact .start_bind (.model_bind (.bind (.bind (.ofExcept (Connection.eq_error_of_faultOf h)))))
  | count t search => exact .start_bind (.model_bind (.bind (.ofExcept (Connection.eq_error_of_faultOf h))))
  | addForeignKey t related field => exact .start_bind (.model_bind (.model_bind (.bind (.ofExcept (Connection.eq_error_of_faultOf h)))))
  | dropForeignKey t field => exact .start_bind (.model_bind (.bind (.ofExcept (Connection.eq_error_of_faultOf h))))
  | _ => cases h

end Operation

/-! ## Creating tables -/

/-- Statements were sent in order: all of them and none failed, or the first few, of which the last one failed. -/
def SentInOrder (ss : List Statement) (passages : List Passage) (result : Except Halt Unit) : Prop :=
  (result = .ok () ∧ passages.map (·.built) = ss ∧ ∀ p ∈ passages, p.fault = none) ∨
  ∃ done last f, passages = done ++ [last] ∧ (∀ p ∈ done, p.fault = none) ∧ last.fault = some f ∧
    result = .error (.failed f) ∧ passages.map (·.built) <+: ss

theorem SentInOrder.cons {ss : List Statement} {passages : List Passage} {result : Except Halt Unit} {first : Passage}
    (h : SentInOrder ss passages result) (hfirst : first.fault = none) :
    SentInOrder (first.built :: ss) (first :: passages) result := by
  rcases h with ⟨hok, hall, hnone⟩ | ⟨done, last, f, rfl, hnone, hlast, hfailed, hprefix⟩
  · refine .inl ⟨hok, by rw [List.map_cons, hall], fun p hp => ?_⟩
    rcases List.mem_cons.mp hp with rfl | hp
    · exact hfirst
    · exact hnone p hp
  · refine .inr ⟨first :: done, last, f, rfl, fun p hp => ?_, hlast, hfailed, ?_⟩
    · rcases List.mem_cons.mp hp with rfl | hp
      · exact hfirst
      · exact hnone p hp
    · rw [List.map_cons]
      exact List.cons_prefix_cons.mpr ⟨rfl, hprefix⟩

/-- Executing statements in order stops at the first that fails. -/
theorem exists_executeFrom (c : Connection σ) (i : Nat) (ss : List Statement) (w : World σ) :
    ∃ events result w', (executeFrom c i ss).on w = (result, w') ∧ Gated c (· ∈ ss) events w w' ∧
      SentInOrder ss (Event.passages events) result := by
  induction ss generalizing i w with
  | nil => exact ⟨[], _, w, rfl, .refl w, .inl ⟨rfl, rfl, by simp [Event.passages]⟩⟩
  | cons s ss ih =>
    have hgated := Gated.sendStep (c := c) (P := (· ∈ s :: ss)) (.item i) (List.mem_cons_self ..) w
    have hexecute := c.on_execute (.item i) s w
    cases hanswer : (c.sendStep (.item i) s w).1 with
    | error f =>
      rw [hanswer] at hgated hexecute
      refine ⟨_, .error (.failed f), _, ?_, hgated, .inr ⟨[], _, f, rfl, by simp, rfl, rfl, ?_⟩⟩
      · rw [executeFrom, Run.on_bind, Run.on_discard, hexecute]
        rfl
      · exact List.cons_prefix_cons.mpr ⟨rfl, List.nil_prefix⟩
    | ok replies =>
      rw [hanswer] at hgated hexecute
      obtain ⟨events, result, w', hrest, hmore, horder⟩ := ih (i + 1) (c.sendStep (.item i) s w).2
      refine ⟨_, result, w', ?_, hgated.trans (hmore.mono fun _ hs => List.mem_cons_of_mem _ hs), ?_⟩
      · rw [executeFrom, Run.on_bind, Run.on_discard, hexecute]
        exact hrest
      · exact horder.cons rfl

/-- A table whose statements cannot be built is not created, and nothing is sent for it. -/
theorem on_createTable_error {t : RecordType} {ifNotExists : Bool} {halt : Halt}
    (h : (c.dialect.createTable t.model true ifNotExists).outcome.1 = .error halt) (w : World σ) :
    ∃ w', (createTable c t ifNotExists).on w = (.error halt, w') ∧ Run.Untouched c.dialect w w' := by
  refine ⟨_, by rw [createTable, on_start_model, Run.on_bind, Run.on_ofLogged, h], ?_⟩
  have hdescribed : Run.Untouched c.dialect w (begun t w) := .described c.dialect t { w with report := {} }
  exact hdescribed.trans ⟨rfl, rfl, _, rfl, fun _ hline => .columns _ _ hline⟩

/-- The statements of a table are sent in order until one fails. -/
theorem on_createTable_ok {t : RecordType} {ifNotExists : Bool} {ss : List Statement}
    (h : (c.dialect.createTable t.model true ifNotExists).outcome.1 = .ok ss) (w : World σ) :
    ∃ events result w', (createTable c t ifNotExists).on w = (result, w') ∧
      Gated c (· ∈ ss) events { w with report := {} } w' ∧ SentInOrder ss (Event.passages events) result := by
  let v : World σ := { begun t w with log := (begun t w).log ++ (c.dialect.createTable t.model true ifNotExists).outcome.2 }
  have hquiet := Run.steps_gated c fun _ => False
  obtain ⟨quiet, hbefore⟩ := hquiet.trans (hquiet.described t { w with report := {} })
    (hquiet.noted (c.dialect.createTable t.model true ifNotExists).outcome.2 _ fun _ hline => .columns _ _ hline)
  obtain ⟨events, result, w', hrun, hgated, horder⟩ := exists_executeFrom c 0 ss v
  refine ⟨quiet ++ events, result, w', ?_, (hbefore.mono fun _ hfalse => hfalse.elim).trans hgated, ?_⟩
  · rw [createTable, on_start_model, Run.on_bind, Run.on_ofLogged, h]
    exact hrun
  · rw [Event.passages_append, List.eq_nil_iff_forall_not_mem.mpr hbefore.built, List.nil_append]
    exact horder

end Session

/-- An operation that is refused has not touched the executor, and the log tells of no statement, if the executor does not refuse by
itself. An operation whose statement cannot be built is refused for that: so nothing is sent for a replacement of which a part cannot be
built. The statements that create a table are all built before the first is sent, and sent in order until one fails. -/
theorem refused_before_sent {σ : Type} (c : Connection σ) (w : World σ) :
    (c.executor.NeverRefuses → ∀ {α : Type} (op : Session.Operation α) f w',
      (op.run c).on w = (.error (.failed f), w') → f.IsRefusal → Run.Untouched c.dialect w w') ∧
    (∀ {α : Type} (op : Session.Operation α) f, op.refusal? c = some f →
      ∃ w', (op.run c).on w = (.error (.failed f), w') ∧ Run.Untouched c.dialect w w') ∧
    (∀ t ifNotExists halt, (c.dialect.createTable t.model true ifNotExists).outcome.1 = .error halt →
      ∃ w', (Session.createTable c t ifNotExists).on w = (.error halt, w') ∧ Run.Untouched c.dialect w w') ∧
    (∀ t ifNotExists ss, (c.dialect.createTable t.model true ifNotExists).outcome.1 = .ok ss →
      ∃ events result w', (Session.createTable c t ifNotExists).on w = (result, w') ∧
        Gated c (· ∈ ss) events { w with report := {} } w' ∧ Session.SentInOrder ss (Event.passages events) result) :=
  ⟨fun hc _ op f w' h hf => op.refusesFirst hc w f w' h hf, fun _ _ h => Session.Operation.isRefused h w,
    fun _ _ _ h => Session.on_createTable_error h w, fun _ _ _ h => Session.on_createTable_ok h w⟩

/-- A search for members of nothing, a record without a key to replace, and a table of three statements, the second of which fails. -/
theorem refused_before_sent_note :
    ∃ (c : Connection Nat) (t : RecordType) (r : Record) (w : World Nat) (ss : List Statement),
      c.executor.NeverRefuses ∧ c.dialect = .generic ∧ t.model.indexes.length = 2 ∧
      (∃ w', (Session.count c t (.member false "a" [])).on w = (.error (.failed (.emptyList "a")), w') ∧
        Run.Untouched c.dialect w w') ∧
      (∃ w', (Session.replace c t r).on w = (.error (.failed (.unsupported (.dialect .generic) .replaceWithoutKey)), w') ∧
        Run.Untouched c.dialect w w') ∧
      (c.dialect.createTable t.model true false).outcome.1 = .ok ss ∧ ss.length = 3 ∧
      ∃ events w', (Session.createTable c t false).on w = (.error (.failed (.database "disk full")), w') ∧
        Session.SentInOrder ss (Event.passages events) (.error (.failed (.database "disk full"))) ∧
        w'.sent = w.sent ++ (Event.passages events).map (Passage.finished c) ∧ w'.sent.length = 2 := by
  let c : Connection Nat :=
    ⟨⟨fun _ n => (if n = 1 then [.error (.database "disk full")] else [], n + 1)⟩, .generic, {}, .silent⟩
  let t : RecordType := ⟨"note", "note", [.field (Field.of "a" .text), .index "i" ["a"] false, .index "j" ["a"] true]⟩
  let r : Record := .ofValues [("a", .varchar "x")]
  let w : World Nat := { executor := 0 }
  have hc : c.executor.NeverRefuses := by
    intro s n f hf
    have hanswer : (c.executor.answer s n).1 = if n = 1 then [.error (.database "disk full")] else [] := rfl
    rw [hanswer] at hf
    split at hf
    · cases List.mem_singleton.mp hf
      exact id
    · cases hf
  obtain ⟨hrefused, hunbuilt, -, hcreated⟩ := refused_before_sent c w
  have hcount : (Session.count c t (.member false "a" [])).on w =
      (.error (.failed (.emptyList "a")), ((Session.count c t (.member false "a" [])).on w).2) := rfl
  obtain ⟨ss, hss⟩ : ∃ ss, (c.dialect.createTable t.model true false).outcome.1 = .ok ss := ⟨_, rfl⟩
  have hlength : (c.dialect.createTable t.model true false).outcome.1.toOption.map List.length = some 3 := by decide +kernel
  rw [hss] at hlength
  obtain ⟨events, result, w', hrun, hgated, horder⟩ := hcreated t false ss hss
  have hcreate : ((Session.createTable c t false).on w).1 = .error (.failed (.database "disk full")) := rfl
  have hsent : ((Session.createTable c t false).on w).2.sent.length = 2 := by decide +kernel
  rw [hrun] at hcreate hsent
  subst hcreate
  have hreplace : (Session.Operation.replace t r).refusal? c = some (.unsupported (.dialect .generic) .replaceWithoutKey) := rfl
  have hreplaced := hunbuilt (.replace t r) _ hreplace
  have hcounted := hrefused hc (.count t (.member false "a" [])) _ _ hcount trivial
  exact ⟨c, t, r, w, ss, hc, rfl, rfl, ⟨_, hcount, hcounted⟩, hreplaced, hss, Option.some.inj hlength, events, w', hrun, horder,
    hgated.sent, hsent⟩

end RecordSql
