import RecordSql.Proofs.Session.Attached
import RecordSql.Report.Basic

/-!
# Reports in the order of a tree

A report of relations lists what was sent for a relation before what was sent for the relations below it, and these before what was sent
for the relations after it. `Relation.Reports` says so along the tree: a relation that fails is the only failure at or below its position
and has nothing below it, and one that does not fail has no fault among its entries. From it follow the order of the positions, where
faults and failures can stand (`Tidy`), and that every position is that of a relation with as few entries as it has queries (`Located`).
-/

namespace RecordSql

namespace ReportIndex

/-! ## The order of positions -/

theorem comparePaths_append_left (p as bs : List Nat) : comparePaths (p ++ as) (p ++ bs) = comparePaths as bs := by
  induction p with
  | nil => rfl
  | cons i p ih => simp [comparePaths, ih]

theorem order_self (x : ReportIndex) : x.order x = .eq := by
  have h := comparePaths_append_left x.path [] []
  rwa [List.append_nil] at h

/-- A position comes before those that continue it. -/
theorem IsAbove.order_eq {x y : ReportIndex} (h : x.IsAbove y) : x.order y = .lt := by
  obtain ⟨i, rest, hy⟩ := h
  have hprefix := comparePaths_append_left x.path [] (i :: rest)
  rw [List.append_nil] at hprefix
  rw [order, hy, hprefix]
  rfl

theorem IsAbove.length_lt {x y : ReportIndex} (h : x.IsAbove y) : x.path.length < y.path.length := by
  obtain ⟨i, rest, hy⟩ := h
  rw [hy, List.length_append, List.length_cons]
  omega

theorem not_isAbove_self (x : ReportIndex) : ¬ x.IsAbove x := fun h => Nat.lt_irrefl _ h.length_lt

theorem IsAbove.not_isAbove {x y : ReportIndex} (h : x.IsAbove y) : ¬ y.IsAbove x := fun h' =>
  Nat.lt_asymm h.length_lt h'.length_lt

/-- A position parts from another one, at a smaller number. -/
def Precedes (x y : ReportIndex) : Prop :=
  ∃ p i j as bs, i < j ∧ x.path = p ++ i :: as ∧ y.path = p ++ j :: bs

theorem Precedes.order_eq {x y : ReportIndex} (h : x.Precedes y) : x.order y = .lt := by
  obtain ⟨p, i, j, as, bs, hij, hx, hy⟩ := h
  rw [order, hx, hy, comparePaths_append_left, comparePaths, Nat.compare_eq_lt.mpr hij]
  rfl

/-- Positions at which two paths part do not continue one another. -/
theorem append_cons_ne {p as bs rest : List Nat} {i j : Nat} (hij : i ≠ j) : p ++ i :: as ≠ p ++ j :: bs ++ rest := by
  intro h
  rw [List.append_assoc, List.append_cancel_left_eq, List.cons_append, List.cons.injEq] at h
  exact hij h.1

theorem Precedes.not_isAbove {x y : ReportIndex} (h : x.Precedes y) : ¬ x.IsAbove y ∧ ¬ y.IsAbove x := by
  obtain ⟨p, i, j, as, bs, hij, hx, hy⟩ := h
  refine ⟨?_, ?_⟩
  · rintro ⟨k, rest, hrest⟩
    rw [hx, hy] at hrest
    exact append_cons_ne hij.ne' hrest
  · rintro ⟨k, rest, hrest⟩
    rw [hx, hy] at hrest
    exact append_cons_ne hij.ne hrest

end ReportIndex

/-! ## Entries and failures in order -/

/-- Entries in order with the failures to which their faults belong: each position failed at most once, with nothing below it. -/
structure Tidy (entries : List Entry) (failures : List Failure) : Prop where
  ordered : entries.Pairwise fun a b => a.index.order b.index ≠ .gt
  failing : failures.Pairwise fun f g => f.index.order g.index = .lt
  faults : ∀ e ∈ entries, e.error ≠ none → ∃ f ∈ failures, f.index = e.index
  nothingBelow : ∀ f ∈ failures, (∀ e ∈ entries, ¬ f.index.IsAbove e.index) ∧ ∀ g ∈ failures, ¬ f.index.IsAbove g.index

namespace Tidy

variable {entries more : List Entry} {failures others : List Failure} {index : ReportIndex}

theorem nil : Tidy [] [] := by
  refine ⟨.nil, .nil, ?_, ?_⟩ <;> simp

/-- What stands at one position only, with the failure of the position. -/
theorem failed (h : ∀ e ∈ entries, e.index = index) (error : String) : Tidy entries [⟨index, error⟩] where
  ordered := by
    refine List.pairwise_of_forall_mem_list fun a ha b hb => ?_
    rw [h a ha, h b hb, ReportIndex.order_self]
    nofun
  failing := List.pairwise_singleton ..
  faults e he _ := ⟨⟨index, error⟩, List.mem_singleton_self _, (h e he).symm⟩
  nothingBelow := by
    intro f hf
    rw [List.mem_singleton] at hf
    subst hf
    refine ⟨fun e he => ?_, fun g hg => ?_⟩
    · rw [h e he]
      exact ReportIndex.not_isAbove_self index
    · rw [List.mem_singleton] at hg
      subst hg
      exact ReportIndex.not_isAbove_self index

/-- What stands at a position and has no fault, before what stands below it. -/
theorem above (h : ∀ e ∈ entries, e.index = index ∧ e.error = none) (hbelow : Tidy more failures)
    (hentries : ∀ e ∈ more, index.IsAbove e.index) (hfailures : ∀ f ∈ failures, index.IsAbove f.index) :
    Tidy (entries ++ more) failures where
  ordered := by
    refine List.pairwise_append.mpr ⟨?_, hbelow.ordered, fun a ha b hb => ?_⟩
    · refine List.pairwise_of_forall_mem_list fun a ha b hb => ?_
      rw [(h a ha).1, (h b hb).1, ReportIndex.order_self]
      nofun
    · rw [(h a ha).1, (hentries b hb).order_eq]
      nofun
  failing := hbelow.failing
  faults := by
    intro e he hfault
    rcases List.mem_append.mp he with he | he
    · exact absurd (h e he).2 hfault
    · exact hbelow.faults e he hfault
  nothingBelow := by
    intro f hf
    refine ⟨fun e he => ?_, (hbelow.nothingBelow f hf).2⟩
    rcases List.mem_append.mp he with he | he
    · rw [(h e he).1]
      exact (hfailures f hf).not_isAbove
    · exact (hbelow.nothingBelow f hf).1 e he

/-- What stands at one place and below, before what stands at later places and below. -/
theorem append (h : Tidy entries failures) (h' : Tidy more others) {P Q : ReportIndex → Prop}
    (hPQ : ∀ x y, P x → Q y → x.Precedes y) (hentries : ∀ e ∈ entries, P e.index) (hfailures : ∀ f ∈ failures, P f.index)
    (hmore : ∀ e ∈ more, Q e.index) (hothers : ∀ f ∈ others, Q f.index) : Tidy (entries ++ more) (failures ++ others) where
  ordered := by
    refine List.pairwise_append.mpr ⟨h.ordered, h'.ordered, fun a ha b hb => ?_⟩
    rw [(hPQ _ _ (hentries a ha) (hmore b hb)).order_eq]
    nofun
  failing := List.pairwise_append.mpr
    ⟨h.failing, h'.failing, fun f hf g hg => (hPQ _ _ (hfailures f hf) (hothers g hg)).order_eq⟩
  faults := by
    intro e he hfault
    rcases List.mem_append.mp he with he | he
    · obtain ⟨f, hf, hindex⟩ := h.faults e he hfault
      exact ⟨f, List.mem_append_left _ hf, hindex⟩
    · obtain ⟨f, hf, hindex⟩ := h'.faults e he hfault
      exact ⟨f, List.mem_append_right _ hf, hindex⟩
  nothingBelow := by
    intro f hf
    simp only [List.mem_append]
    rcases List.mem_append.mp hf with hf | hf
    · refine ⟨fun e he => ?_, fun g hg => ?_⟩
      · exact he.elim ((h.nothingBelow f hf).1 e) fun he => (hPQ _ _ (hfailures f hf) (hmore e he)).not_isAbove.1
      · exact hg.elim ((h.nothingBelow f hf).2 g) fun hg => (hPQ _ _ (hfailures f hf) (hothers g hg)).not_isAbove.1
    · refine ⟨fun e he => ?_, fun g hg => ?_⟩
      · exact he.elim (fun he => (hPQ _ _ (hentries e he) (hothers f hf)).not_isAbove.2) ((h'.nothingBelow f hf).1 e)
      · exact hg.elim (fun hg => (hPQ _ _ (hfailures g hg) (hothers f hf)).not_isAbove.2) ((h'.nothingBelow f hf).2 g)

end Tidy

/-! ## Positions in a tree of relations -/

/-- The relation at the end of a path below a relation, which is itself at the end of the empty path. -/
def Relation.below? : List Nat → Relation → Option Relation
  | [], r => some r
  | i :: path, r => r.nested[i]?.bind (below? path)

/-- The relation at the end of a path through some relations and those below them. -/
def Relation.at? (relations : List Relation) : List Nat → Option Relation
  | [] => none
  | i :: path => relations[i]?.bind (below? path)

/-- The number of queries that a link sends at most: one for its children, and one for its join table if it has one. -/
def Link.queries (link : Link) : Nat :=
  if link.join.isSome then 2 else 1

/-- What a link has entered for itself: entries at its position, at most one for each of its queries. -/
structure Link.Own (link : Link) (index : ReportIndex) (entries : List Entry) : Prop where
  length_le : entries.length ≤ link.queries
  index_eq : ∀ e ∈ entries, e.index = index

mutual

/-- What a report holds of a relation at a position and of those below it. -/
inductive Relation.Reports : ReportIndex → Relation → List Entry → List Failure → Prop
  /-- The relation has failed, which is its only failure, and nothing was asked below it. -/
  | failed {index : ReportIndex} {link : Link} {nested : List Relation} {own : List Entry} (hown : link.Own index own)
      (error : String) : Reports index (.mk link nested) own [⟨index, error⟩]
  /-- The relation was resolved without a fault, and then those below it were. -/
  | resolved {index : ReportIndex} {link : Link} {nested : List Relation} {own below : List Entry} {failures : List Failure}
      (hown : link.Own index own) (hnone : ∀ e ∈ own, e.error = none) (hbelow : ReportsFrom index 0 nested below failures) :
      Reports index (.mk link nested) (own ++ below) failures

/-- What a report holds of relations in order, the first of which is at place `i` below a position. -/
inductive Relation.ReportsFrom : ReportIndex → Nat → List Relation → List Entry → List Failure → Prop
  /-- There were no records to resolve relations for, or there are no relations. -/
  | none {index : ReportIndex} {i : Nat} {relations : List Relation} : ReportsFrom index i relations [] []
  | cons {index : ReportIndex} {i : Nat} {r : Relation} {relations : List Relation} {entries more : List Entry}
      {failures others : List Failure} (hfirst : Reports (index.child i) r entries failures)
      (hrest : ReportsFrom index (i + 1) relations more others) :
      ReportsFrom index i (r :: relations) (entries ++ more) (failures ++ others)

end

/-- The positions of entries and failures are those of relations, which `find` finds behind a position, and no relation has more
entries than queries. -/
structure Located (index : ReportIndex) (find : List Nat → Option Relation) (entries : List Entry) (failures : List Failure) : Prop where
  entry : ∀ e ∈ entries, ∃ path r, e.index.path = index.path ++ path ∧ find path = some r
  failure : ∀ f ∈ failures, ∃ path r, f.index.path = index.path ++ path ∧ find path = some r
  counted : ∀ path r, find path = some r → (entries.filter (·.index == ⟨index.path ++ path⟩)).length ≤ r.link.queries

namespace Relation

/-- The relation at the end of a path through some relations, the first of which is at place `i`, and those below them. -/
def atFrom? (i : Nat) (relations : List Relation) : List Nat → Option Relation
  | [] => none
  | k :: path => if k < i then none else relations[k - i]?.bind (below? path)

theorem atFrom?_zero (relations : List Relation) (path : List Nat) : atFrom? 0 relations path = at? relations path := by
  cases path with
  | nil => rfl
  | cons k path => simp [atFrom?, at?]

theorem atFrom?_cons_self (i : Nat) (r : Relation) (relations : List Relation) (path : List Nat) :
    atFrom? i (r :: relations) (i :: path) = r.below? path := by
  simp [atFrom?]

theorem atFrom?_cons_of_lt {i k : Nat} (h : i < k) (r : Relation) (relations : List Relation) (path : List Nat) :
    atFrom? i (r :: relations) (k :: path) = atFrom? (i + 1) relations (k :: path) := by
  have hk : k - i = k - (i + 1) + 1 := by omega
  rw [atFrom?, atFrom?, if_neg (by omega), if_neg (by omega), hk, List.getElem?_cons_succ]

/-- A path through relations starts at the place of one of them. -/
theorem exists_place {i : Nat} {relations : List Relation} {path : List Nat} {r : Relation}
    (h : atFrom? i relations path = some r) : ∃ k rest, path = k :: rest ∧ i ≤ k := by
  cases path with
  | nil => cases h
  | cons k rest =>
    refine ⟨k, rest, rfl, ?_⟩
    by_contra hlt
    rw [atFrom?, if_pos (by omega)] at h
    cases h

end Relation

namespace Located

variable {index : ReportIndex} {link : Link} {nested : List Relation} {own below : List Entry} {failures : List Failure}

/-- A path behind a position leads to the position only if it is empty. -/
theorem filter_eq_nil {k : Nat} {path : List Nat} (h : ∀ e ∈ own, e.index = index) :
    own.filter (·.index == ⟨index.path ++ k :: path⟩) = [] := by
  refine List.filter_eq_nil_iff.mpr fun e he heq => ?_
  rw [h e he, beq_iff_eq] at heq
  have hlength := congrArg (·.path.length) heq
  simp at hlength

theorem failed (hown : link.Own index own) (error : String) :
    Located index (fun path => Relation.below? path (.mk link nested)) own [⟨index, error⟩] where
  entry e he := ⟨[], _, by rw [hown.index_eq e he, List.append_nil], rfl⟩
  failure f hf := by
    rw [List.mem_singleton] at hf
    subst hf
    exact ⟨[], _, (List.append_nil _).symm, rfl⟩
  counted path r hr := by
    cases path with
    | nil =>
      cases hr
      exact (List.length_filter_le ..).trans hown.length_le
    | cons k path =>
      rw [filter_eq_nil hown.index_eq]
      exact Nat.zero_le _

theorem resolved (hown : link.Own index own) (h : Located index (Relation.atFrom? 0 nested) below failures) :
    Located index (fun path => Relation.below? path (.mk link nested)) (own ++ below) failures := by
  have hbelow : ∀ {path r}, Relation.atFrom? 0 nested path = some r → Relation.below? path (.mk link nested) = some r := by
    intro path r hr
    obtain ⟨k, rest, rfl, -⟩ := Relation.exists_place hr
    rwa [Relation.atFrom?_zero] at hr
  refine ⟨fun e he => ?_, fun f hf => ?_, fun path r hr => ?_⟩
  · rcases List.mem_append.mp he with he | he
    · exact ⟨[], _, by rw [hown.index_eq e he, List.append_nil], rfl⟩
    · obtain ⟨path, r, hpath, hr⟩ := h.entry e he
      exact ⟨path, r, hpath, hbelow hr⟩
  · obtain ⟨path, r, hpath, hr⟩ := h.failure f hf
    exact ⟨path, r, hpath, hbelow hr⟩
  · rw [List.filter_append, List.length_append]
    cases path with
    | nil =>
      have hnone : below.filter (·.index == ⟨index.path ++ []⟩) = [] := by
        refine List.filter_eq_nil_iff.mpr fun e he heq => ?_
        obtain ⟨path, r, hpath, hr⟩ := h.entry e he
        obtain ⟨k, rest, rfl, -⟩ := Relation.exists_place hr
        rw [beq_iff_eq.mp heq] at hpath
        simp at hpath
      cases hr
      rw [hnone]
      exact (List.length_filter_le ..).trans hown.length_le
    | cons k path =>
      rw [filter_eq_nil hown.index_eq, List.length_nil, Nat.zero_add]
      refine h.counted (k :: path) r ?_
      rwa [Relation.atFrom?_zero]

theorem none (i : Nat) (relations : List Relation) : Located index (Relation.atFrom? i relations) [] [] := by
  refine ⟨?_, ?_, ?_⟩ <;> simp

theorem cons {i : Nat} {r : Relation} {relations : List Relation} {entries more : List Entry} {others : List Failure}
    (h : Located (index.child i) (fun path => r.below? path) entries failures)
    (h' : Located index (Relation.atFrom? (i + 1) relations) more others) :
    Located index (Relation.atFrom? i (r :: relations)) (entries ++ more) (failures ++ others) := by
  have hfirst : ∀ {path s}, r.below? path = some s → Relation.atFrom? i (r :: relations) (i :: path) = some s := by
    intro path s hs
    rwa [Relation.atFrom?_cons_self]
  have hrest : ∀ {path s}, Relation.atFrom? (i + 1) relations path = some s →
      Relation.atFrom? i (r :: relations) path = some s := by
    intro path s hs
    obtain ⟨k, rest, rfl, hk⟩ := Relation.exists_place hs
    rwa [Relation.atFrom?_cons_of_lt hk]
  have hchild : ∀ path, (index.child i).path ++ path = index.path ++ i :: path := by simp
  refine ⟨fun e he => ?_, fun f hf => ?_, fun path s hs => ?_⟩
  · rcases List.mem_append.mp he with he | he
    · obtain ⟨path, s, hpath, hs⟩ := h.entry e he
      exact ⟨i :: path, s, by rw [hpath, hchild], hfirst hs⟩
    · obtain ⟨path, s, hpath, hs⟩ := h'.entry e he
      exact ⟨path, s, hpath, hrest hs⟩
  · rcases List.mem_append.mp hf with hf | hf
    · obtain ⟨path, s, hpath, hs⟩ := h.failure f hf
      exact ⟨i :: path, s, by rw [hpath, hchild], hfirst hs⟩
    · obtain ⟨path, s, hpath, hs⟩ := h'.failure f hf
      exact ⟨path, s, hpath, hrest hs⟩
  · -- the path leads through the first relation or through a later one, and the other entries are elsewhere
    obtain ⟨k, path, rfl, hk⟩ := Relation.exists_place hs
    rw [List.filter_append, List.length_append]
    rcases Nat.eq_or_lt_of_le hk with rfl | hk
    · have hnone : more.filter (·.index == ⟨index.path ++ i :: path⟩) = [] := by
        refine List.filter_eq_nil_iff.mpr fun e he heq => ?_
        obtain ⟨path', s', hpath, hs'⟩ := h'.entry e he
        obtain ⟨k, rest, rfl, hk⟩ := Relation.exists_place hs'
        rw [beq_iff_eq.mp heq, List.append_cancel_left_eq, List.cons.injEq] at hpath
        omega
      rw [hnone, List.length_nil, Nat.add_zero, ← hchild]
      rw [Relation.atFrom?_cons_self] at hs
      exact h.counted path s hs
    · have hnone : entries.filter (·.index == ⟨index.path ++ k :: path⟩) = [] := by
        refine List.filter_eq_nil_iff.mpr fun e he heq => ?_
        obtain ⟨path', s', hpath, -⟩ := h.entry e he
        rw [beq_iff_eq.mp heq, hchild, List.append_cancel_left_eq, List.cons.injEq] at hpath
        omega
      rw [hnone, List.length_nil, Nat.zero_add]
      rw [Relation.atFrom?_cons_of_lt hk] at hs
      exact h'.counted (k :: path) s hs

end Located

/-- A position lies below another one, at a place from `i` on or below such a place. -/
def ReportIndex.IsFrom (index : ReportIndex) (i : Nat) (x : ReportIndex) : Prop :=
  ∃ k rest, i ≤ k ∧ x.path = index.path ++ k :: rest

theorem ReportIndex.IsFrom.isAbove {index x : ReportIndex} {i : Nat} (h : index.IsFrom i x) : index.IsAbove x := by
  obtain ⟨k, rest, -, hx⟩ := h
  exact ⟨k, rest, hx⟩

/-- Entries and failures of relations in order are from the place of the first one on. -/
theorem Located.isFrom {index : ReportIndex} {i : Nat} {relations : List Relation} {entries : List Entry} {failures : List Failure}
    (h : Located index (Relation.atFrom? i relations) entries failures) :
    (∀ e ∈ entries, index.IsFrom i e.index) ∧ ∀ f ∈ failures, index.IsFrom i f.index := by
  refine ⟨fun e he => ?_, fun f hf => ?_⟩
  · obtain ⟨path, r, hpath, hr⟩ := h.entry e he
    obtain ⟨k, rest, rfl, hk⟩ := Relation.exists_place hr
    exact ⟨k, rest, hk, hpath⟩
  · obtain ⟨path, r, hpath, hr⟩ := h.failure f hf
    obtain ⟨k, rest, rfl, hk⟩ := Relation.exists_place hr
    exact ⟨k, rest, hk, hpath⟩

namespace Relation

mutual

/-- What is reported of a relation is in order, and located in its tree. -/
theorem Reports.tidy_located {index : ReportIndex} : ∀ (r : Relation) {entries : List Entry} {failures : List Failure},
    Reports index r entries failures → Tidy entries failures ∧ Located index (fun path => r.below? path) entries failures
  | .mk link nested, _, _, h => by
    cases h with
    | failed hown error => exact ⟨.failed hown.index_eq error, .failed hown error⟩
    | resolved hown hnone hbelow =>
      obtain ⟨htidy, hlocated⟩ := ReportsFrom.tidy_located nested hbelow
      obtain ⟨hentries, hfailures⟩ := hlocated.isFrom
      refine ⟨.above (fun e he => ⟨hown.index_eq e he, hnone e he⟩) htidy ?_ ?_, .resolved hown hlocated⟩
      · exact fun e he => (hentries e he).isAbove
      · exact fun f hf => (hfailures f hf).isAbove

/-- What is reported of relations in order is in order, and located in their trees. -/
theorem ReportsFrom.tidy_located {index : ReportIndex} : ∀ (rs : List Relation) {i : Nat} {entries : List Entry}
    {failures : List Failure}, ReportsFrom index i rs entries failures →
      Tidy entries failures ∧ Located index (atFrom? i rs) entries failures
  | rs, i, _, _, .none => ⟨.nil, .none i rs⟩
  | r :: rs, i, _, _, .cons hfirst hrest => by
    obtain ⟨htidy, hlocated⟩ := Reports.tidy_located r hfirst
    obtain ⟨htidy', hlocated'⟩ := ReportsFrom.tidy_located rs hrest
    obtain ⟨hmore, hothers⟩ := hlocated'.isFrom
    refine ⟨htidy.append htidy' (P := fun x => ∃ path, x.path = index.path ++ i :: path) (Q := index.IsFrom (i + 1)) ?_ ?_ ?_
      hmore hothers, hlocated.cons hlocated'⟩
    · rintro x y ⟨path, hx⟩ ⟨k, rest, hk, hy⟩
      exact ⟨index.path, i, k, path, rest, hk, hx, hy⟩
    · intro e he
      obtain ⟨path, -, hpath, -⟩ := hlocated.entry e he
      exact ⟨path, by rw [hpath, ReportIndex.path_child, List.append_assoc]; rfl⟩
    · intro f hf
      obtain ⟨path, -, hpath, -⟩ := hlocated.failure f hf
      exact ⟨path, by rw [hpath, ReportIndex.path_child, List.append_assoc]; rfl⟩

end

end Relation

end RecordSql
