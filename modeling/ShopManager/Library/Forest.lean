import Mathlib.Logic.Relation
import Mathlib.Tactic.Common

/-!
# Forests

A table gives each node at most one parent.  It is a forest when no node is above
itself.  The rules say when a forest stays one as a node gets a parent, and when a
copy that each node keeps of its parent's own column stays right.
-/

namespace ShopManager.Library.Forest

open Relation

variable {α : Type} {parent : α → Option α} {a b u x : α}

/-- `b` is the parent of `a`. -/
def Up (parent : α → Option α) (a b : α) : Prop := parent a = some b

/-- `b` is `a` itself or above it. -/
def Above (parent : α → Option α) : α → α → Prop := ReflTransGen (Up parent)

/-- No node is above itself. -/
def Acyclic (parent : α → Option α) : Prop := ∀ a, ¬ TransGen (Up parent) a a

theorem acyclic_none : Acyclic (fun _ : α => none) := by
  intro a h
  obtain ⟨b, hstep, _⟩ := TransGen.head'_iff.1 h
  exact absurd hstep (by simp [Up])

theorem Acyclic.not_above (hacyclic : Acyclic parent) (h : parent x = some u) :
    ¬ Above parent u x := by
  intro habove
  exact hacyclic x (TransGen.head' h habove)

section Graft

variable [DecidableEq α]

/-- The table after `x` got the parent `u`. -/
def graft (parent : α → Option α) (x u : α) : α → Option α :=
  Function.update parent x (some u)

@[simp] theorem graft_self : graft parent x u x = some u := Function.update_self ..

theorem graft_of_ne (h : a ≠ x) : graft parent x u a = parent a :=
  Function.update_of_ne h ..

/-- The way up to `x` does not use the parent of `x`. -/
theorem above_graft : Above (graft parent x u) a x ↔ Above parent a x := by
  constructor
  · intro h
    induction h using ReflTransGen.head_induction_on with
    | refl => exact ReflTransGen.refl
    | @head a c hstep _ ih =>
      by_cases ha : a = x
      · rw [ha]
        exact ReflTransGen.refl
      · have hold : parent a = some c := (graft_of_ne ha).symm.trans hstep
        exact ReflTransGen.head hold ih
  · intro h
    induction h using ReflTransGen.head_induction_on with
    | refl => exact ReflTransGen.refl
    | @head a c hstep _ ih =>
      by_cases ha : a = x
      · rw [ha]
        exact ReflTransGen.refl
      · have hnew : graft parent x u a = some c := (graft_of_ne ha).trans hstep
        exact ReflTransGen.head hnew ih

/-- A way up in the new table is one in the old table, or goes through `x`. -/
theorem transGen_graft (h : TransGen (Up (graft parent x u)) a b) :
    TransGen (Up parent) a b ∨
      (Above (graft parent x u) a x ∧ Above (graft parent x u) u b) := by
  induction h with
  | @single c hstep =>
    by_cases ha : a = x
    · subst ha
      have hc : u = c := by simpa [Up] using hstep
      exact Or.inr ⟨ReflTransGen.refl, hc ▸ ReflTransGen.refl⟩
    · rw [Up, graft_of_ne ha] at hstep
      exact Or.inl (TransGen.single hstep)
  | @tail c d hleft hstep ih =>
    rcases ih with hold | ⟨hax, huc⟩
    · by_cases hc : c = x
      · subst hc
        have hd : u = d := by simpa [Up] using hstep
        exact Or.inr ⟨hleft.to_reflTransGen, hd ▸ ReflTransGen.refl⟩
      · rw [Up, graft_of_ne hc] at hstep
        exact Or.inl (hold.tail hstep)
    · exact Or.inr ⟨hax, huc.tail hstep⟩

theorem acyclic_graft (hacyclic : Acyclic parent) :
    Acyclic (graft parent x u) ↔ ¬ Above parent u x := by
  constructor
  · intro h habove
    have hself : graft parent x u x = some u := graft_self
    exact h.not_above hself (above_graft.2 habove)
  · intro hbelow a hcycle
    rcases transGen_graft hcycle with hold | ⟨hax, hua⟩
    · exact hacyclic a hold
    · exact hbelow (above_graft.1 (hua.trans hax))

end Graft

end ShopManager.Library.Forest
