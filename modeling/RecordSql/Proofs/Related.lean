import Mathlib.Data.List.Forall2

/-!
# Lists by their elements

Lists that are related element by element, elements that are found by a key, and elements that are left out.
-/

namespace RecordSql

/-- An element of a list has its partner in a list that is related element by element. -/
theorem exists_of_mem_forall₂ {α β : Type} {R : α → β → Prop} {as : List α} {bs : List β} (h : List.Forall₂ R as bs) {a : α}
    (ha : a ∈ as) : ∃ b ∈ bs, R a b := by
  induction h with
  | nil => cases ha
  | cons hfirst _ ih =>
    rcases List.mem_cons.mp ha with rfl | ha
    · exact ⟨_, List.mem_cons_self .., hfirst⟩
    · obtain ⟨b, hb, hab⟩ := ih ha
      exact ⟨b, List.mem_cons_of_mem _ hb, hab⟩

/-- A list whose elements all have partners is related element by element to a list of partners. -/
theorem exists_forall₂ {α β : Type} {R : α → β → Prop} {as : List α} (h : ∀ a ∈ as, ∃ b, R a b) : ∃ bs, List.Forall₂ R as bs := by
  induction as with
  | nil => exact ⟨[], .nil⟩
  | cons a as ih =>
    rw [List.forall_mem_cons] at h
    obtain ⟨b, hb⟩ := h.1
    obtain ⟨bs, hbs⟩ := ih h.2
    exact ⟨b :: bs, .cons hb hbs⟩

/-- Lists that are related element by element in every one of some ways are so in all of them at once. -/
theorem forall₂_forall {α β : Type} {R : Nat → α → β → Prop} {as : List α} {bs : List β}
    (h : ∀ n, List.Forall₂ (R n) as bs) : List.Forall₂ (fun a b => ∀ n, R n a b) as bs := by
  induction as generalizing bs with
  | nil =>
    cases h 0
    exact .nil
  | cons a as ih =>
    cases bs with
    | nil => cases h 0
    | cons b bs =>
      refine .cons (fun n => ?_) (ih fun n => ?_)
      · exact (List.forall₂_cons.mp (h n)).1
      · exact (List.forall₂_cons.mp (h n)).2

/-- The first elements of lists that are related element by element. -/
theorem rel_head? {α β : Type} {R : α → β → Prop} {as : List α} {bs : List β} (h : List.Forall₂ R as bs) :
    Option.Rel R as.head? bs.head? := by
  cases h with
  | nil => exact .none
  | cons hfirst _ => exact .some hfirst

/-- Two functions with related results give related lists. -/
theorem forall₂_filterMap {α β γ : Type} {R : β → γ → Prop} {f : α → Option β} {g : α → Option γ} {as : List α}
    (h : ∀ a ∈ as, Option.Rel R (f a) (g a)) : List.Forall₂ R (as.filterMap f) (as.filterMap g) := by
  have hsame : List.Forall₂ (fun a b => a ∈ as ∧ a = b) as as := List.forall₂_same.mpr fun a ha => ⟨ha, rfl⟩
  refine List.rel_filterMap (fun a b hab => ?_) hsame
  obtain ⟨ha, rfl⟩ := hab
  exact h a ha

/-- Two functions that agree on related elements give the same of lists that are related element by element. -/
theorem filterMap_eq_of_forall₂ {α β γ : Type} {R : α → β → Prop} {f : α → Option γ} {g : β → Option γ} {as : List α} {bs : List β}
    (h : List.Forall₂ R as bs) (hfg : ∀ a ∈ as, ∀ b, R a b → f a = g b) : as.filterMap f = bs.filterMap g := by
  induction h with
  | nil => rfl
  | cons hfirst _ ih =>
    rw [List.forall_mem_cons] at hfg
    rw [List.filterMap_cons, List.filterMap_cons, hfg.1 _ hfirst, ih hfg.2]

/-- Two functions that agree on related elements give the same list. -/
theorem map_eq_of_forall₂ {α β γ : Type} {R : α → β → Prop} {f : α → γ} {g : β → γ} {as : List α} {bs : List β}
    (h : List.Forall₂ R as bs) (hfg : ∀ a b, R a b → f a = g b) : as.map f = bs.map g := by
  rw [← List.forall₂_eq_eq_eq, List.forall₂_map_left_iff, List.forall₂_map_right_iff]
  exact h.imp hfg

/-- An element of a list is the first with its key when no two elements have the same. -/
theorem find?_of_nodup {α : Type} {key : α → String} {as : List α} (h : (as.map key).Nodup) {a : α} (ha : a ∈ as) :
    as.find? (key · == key a) = some a := by
  induction as with
  | nil => cases ha
  | cons b as ih =>
    rw [List.map_cons, List.nodup_cons] at h
    rcases List.mem_cons.mp ha with rfl | ha
    · simp
    · have hne : (key b == key a) = false := beq_eq_false_iff_ne.mpr fun heq => h.1 (heq ▸ List.mem_map_of_mem ha)
      rw [List.find?_cons, hne]
      exact ih h.2 ha

/-- The first element that fulfils a condition. -/
theorem take_one_filter {α : Type} (p : α → Bool) (as : List α) : (as.filter p).take 1 = (as.find? p).toList := by
  rw [← List.head?_filter]
  cases as.filter p <;> rfl

/-- Leaving out what does not fulfil a condition changes nothing exactly when everything that has an image fulfils it. -/
theorem filterMap_filter_eq_iff {α β : Type} {f : α → Option β} {p : α → Bool} {as : List α} :
    (as.filter p).filterMap f = as.filterMap f ↔ ∀ a ∈ as, (f a).isSome → p a = true := by
  induction as with
  | nil => simp
  | cons a as ih =>
    rw [List.forall_mem_cons, ← ih]
    cases hp : p a with
    | true =>
      rw [List.filter_cons, if_pos hp, List.filterMap_cons, List.filterMap_cons]
      cases f a <;> simp
    | false =>
      rw [List.filter_cons, hp, if_neg Bool.false_ne_true, List.filterMap_cons]
      cases hf : f a with
      | none => simp
      | some b =>
        -- what is left is shorter than what there was
        have hle : ((as.filter p).filterMap f).length ≤ (as.filterMap f).length := (List.filter_sublist.filterMap f).length_le
        refine iff_of_false (fun heq => ?_) (by simp)
        rw [heq, List.length_cons] at hle
        omega

end RecordSql
