import Mathlib.Data.List.Forall2
import RecordSql.Session.Relation

/-!
# Alike records

Two records are alike down to a depth when they have the same values and each of their slots holds as many children, which are alike
down to the level above that depth. A slot that was never set is like one that holds no children. Attaching children that are alike
to records that are alike keeps them so (`Alike.attach`), and attaching none to an empty slot changes nothing (`alike_attach_none`).
-/

namespace RecordSql

/-- The records that an attachment of the given arity holds. -/
def Attachment.held : Arity → Attachment → List Record
  | .one, .one child => child.toList
  | .many, .many children => children
  | _, _ => []

/-- What is attached to a parent with the given children holds all of them, or the first. -/
theorem Attachment.held_ofChildren (a b : Arity) (children : List Record) :
    (Attachment.ofChildren b children).held a =
      if a = b then (match b with | .one => children.take 1 | .many => children) else [] := by
  cases a <;> cases b <;> simp [Attachment.held, Attachment.ofChildren, List.head?_eq_getElem?]
  cases children <;> rfl

/-- Relations of elements that go on from one another do so for lists, element by element. -/
theorem forall₂_trans {α β γ : Type} {R : α → β → Prop} {S : β → γ → Prop} {T : α → γ → Prop}
    {as : List α} {bs : List β} {cs : List γ} (hab : List.Forall₂ R as bs) (hbc : List.Forall₂ S bs cs)
    (h : ∀ a b c, R a b → S b c → T a c) : List.Forall₂ T as cs := by
  induction hab generalizing cs with
  | nil =>
    cases hbc
    exact .nil
  | cons hfirst _ ih =>
    obtain _ | ⟨hnext, hrest⟩ := hbc
    exact .cons (h _ _ _ hfirst hnext) (ih hrest)

namespace Record

/-- The children of a record in a slot of the given arity. -/
def children (r : Record) (a : Arity) (slot : String) : List Record :=
  ((r.attached? slot).map (Attachment.held a)).getD []

/-- Two records are alike down to a depth: they have the same values, and children that are alike down to one level less. -/
def Alike : Nat → Record → Record → Prop
  | 0, r, s => r.values = s.values
  | n + 1, r, s => r.values = s.values ∧ ∀ a slot, List.Forall₂ (Alike n) (r.children a slot) (s.children a slot)

namespace Alike

theorem values {n : Nat} {r s : Record} (h : Alike n r s) : r.values = s.values := by
  cases n with
  | zero => exact h
  | succ n => exact h.1

theorem refl (n : Nat) (r : Record) : Alike n r r := by
  induction n generalizing r with
  | zero => rfl
  | succ n ih => exact ⟨rfl, fun a slot => List.forall₂_same.mpr fun child _ => ih child⟩

theorem symm {n : Nat} {r s : Record} (h : Alike n r s) : Alike n s r := by
  induction n generalizing r s with
  | zero => exact Eq.symm h
  | succ n ih => exact ⟨h.1.symm, fun a slot => (h.2 a slot).flip.imp fun _ _ => ih⟩

theorem trans {n : Nat} {r s t : Record} (hrs : Alike n r s) (hst : Alike n s t) : Alike n r t := by
  induction n generalizing r s t with
  | zero => exact Eq.trans hrs hst
  | succ n ih =>
    have hchildren : ∀ a slot, List.Forall₂ (Alike n) (r.children a slot) (t.children a slot) := fun a slot =>
      forall₂_trans (hrs.2 a slot) (hst.2 a slot) fun _ _ _ => ih
    exact ⟨hrs.1.trans hst.1, hchildren⟩

end Alike

/-! ## Attaching -/

/-- A slot that was set holds what it was set to, and the others what they held before. -/
theorem lookup_setSlot (slot other : String) (a : Attachment) (slots : List (String × Attachment)) :
    (setSlot slot a slots).lookup other = if slot = other then some a else slots.lookup other := by
  induction slots with
  | nil =>
    by_cases h : slot = other
    · simp [setSlot, h]
    · simp [setSlot, List.lookup_cons, h, beq_eq_false_iff_ne.mpr (Ne.symm h)]
  | cons entry slots ih =>
    obtain ⟨name, b⟩ := entry
    by_cases hname : slot = name
    · subst hname
      rw [setSlot, if_pos rfl]
      by_cases h : slot = other
      · simp [h]
      · simp [List.lookup_cons, h, beq_eq_false_iff_ne.mpr (Ne.symm h)]
    · rw [setSlot, if_neg hname, List.lookup_cons, ih, List.lookup_cons]
      by_cases h : slot = other
      · subst h
        simp [beq_eq_false_iff_ne.mpr hname]
      · simp [h]

@[simp] theorem values_attach (r : Record) (slot : String) (a : Attachment) : (r.attach slot a).values = r.values := by
  cases r
  rfl

/-- The children after attaching: those that were attached, or the ones before in other slots. -/
theorem children_attach (r : Record) (slot other : String) (b a : Arity) (children : List Record) :
    (r.attach slot (.ofChildren b children)).children a other =
      if slot = other then (Attachment.ofChildren b children).held a else r.children a other := by
  have hslots : (r.attach slot (.ofChildren b children)).slots = setSlot slot (.ofChildren b children) r.slots := by
    cases r
    rfl
  rw [Record.children, attached?, hslots, lookup_setSlot]
  split
  · rfl
  · rfl

/-- Children that are alike are alike when an attachment holds them. -/
theorem forall₂_held {n : Nat} {cs ds : List Record} (h : List.Forall₂ (Alike n) cs ds) (a b : Arity) :
    List.Forall₂ (Alike n) ((Attachment.ofChildren b cs).held a) ((Attachment.ofChildren b ds).held a) := by
  rw [Attachment.held_ofChildren, Attachment.held_ofChildren]
  split
  · cases b with
    | one => exact List.forall₂_take 1 h
    | many => exact h
  · exact .nil

/-- Alike records with alike children attached are alike. -/
theorem Alike.attach {n : Nat} {r s : Record} (h : Alike n r s) (slot : String) (b : Arity) {cs ds : List Record}
    (hc : ∀ m, List.Forall₂ (Alike m) cs ds) :
    Alike n (r.attach slot (.ofChildren b cs)) (s.attach slot (.ofChildren b ds)) := by
  cases n with
  | zero =>
    rw [Alike, values_attach, values_attach]
    exact h
  | succ n =>
    refine ⟨by rw [values_attach, values_attach]; exact h.1, fun a other => ?_⟩
    rw [children_attach, children_attach]
    split
    · exact forall₂_held (hc n) a b
    · exact h.2 a other

/-- Whether no child is in a slot, whatever its arity is. -/
def IsVacant (r : Record) (slot : String) : Prop :=
  ∀ a, r.children a slot = []

/-- Attaching no child to a vacant slot leaves the record as it was. -/
theorem alike_attach_none {r : Record} {slot : String} (h : r.IsVacant slot) (b : Arity) (n : Nat) :
    Alike n (r.attach slot (.ofChildren b [])) r := by
  cases n with
  | zero => exact values_attach ..
  | succ n =>
    refine ⟨values_attach .., fun a other => ?_⟩
    rw [children_attach, Attachment.held_ofChildren]
    split
    · rename_i hslot
      subst hslot
      rw [h a]
      cases b <;> simp
    · exact List.forall₂_same.mpr fun child _ => Alike.refl n child

/-- A slot that is vacant in one of two alike records is vacant in the other. -/
theorem IsVacant.of_alike {r s : Record} {slot : String} (h : s.IsVacant slot) (hrs : Alike 1 r s) : r.IsVacant slot := by
  intro a
  have hchildren := hrs.2 a slot
  rw [h a] at hchildren
  exact List.forall₂_nil_right_iff.mp hchildren

/-- A record from a row has no children. -/
theorem isVacant_ofValues (values : List (String × Value)) (slot : String) : (ofValues values).IsVacant slot :=
  fun _ => rfl

end Record

end RecordSql
