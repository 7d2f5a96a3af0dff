import ShopManager.Library.Table

/-!
# Counters beside a table

A store keeps counters for the groups of a table's rows, each of which should be
the total of a weight over the rows of its group.  A write changes one row and
refreshes some counters of its group; the rules say when the others still agree.
-/

namespace ShopManager.Library.Table

variable {α γ κ M : Type} [Row α] [DecidableEq γ] [AddCommGroup M]

section

variable (group : α → γ) (weight : κ → α → M)

/-- The total of a weight over the rows of a group. -/
def groupTotal (t : Table α) (g : γ) (k : κ) : M :=
  t.sum fun a => if group a = g then weight k a else 0

end

variable {group : α → γ} {weight : κ → α → M} {t : Table α}

theorem groupTotal_save {a b : α} (ha : a ∈ t) (hpk : Row.pk a = Row.pk b)
    (hgroup : group b = group a) (g : γ) (k : κ) :
    (t.save b).groupTotal group weight g k =
      t.groupTotal group weight g k +
        if group a = g then weight k b - weight k a else 0 := by
  unfold groupTotal
  rw [sum_save ha hpk, hgroup]
  by_cases h : group a = g
  · simp only [if_pos h]
    abel
  · simp only [if_neg h, sub_zero, add_zero]

theorem groupTotal_insert (a : α) (g : γ) (k : κ) :
    (t.insert a).groupTotal group weight g k =
      t.groupTotal group weight g k +
        if group (t.stored a) = g then weight k (t.stored a) else 0 := sum_insert t a _

end ShopManager.Library.Table
