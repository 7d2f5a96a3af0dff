import Mathlib.Data.Rat.Floor

/-!
# Rounded shares

An amount is split into shares and every share is rounded to the nearest unit.  What the
rounded shares add up to differs from the amount by half a unit for each of them at most.
-/

namespace ShopManager.Library.Shares

/-- The nearest integer, away from zero where two are equally near. -/
def halfAway (x : ℚ) : ℤ := if 0 ≤ x then ⌊x + 1 / 2⌋ else -⌊-x + 1 / 2⌋

theorem abs_floor_half_sub_le (x : ℚ) : |(⌊x + 1 / 2⌋ : ℚ) - x| ≤ 1 / 2 := by
  have hle := Int.floor_le (x + 1 / 2)
  have hlt := Int.lt_floor_add_one (x + 1 / 2)
  rw [abs_le]
  constructor <;> linarith

theorem abs_halfAway_sub_le (x : ℚ) : |(halfAway x : ℚ) - x| ≤ 1 / 2 := by
  unfold halfAway
  split
  · exact abs_floor_half_sub_le x
  · have hneg := abs_floor_half_sub_le (-x)
    have heq : ((-⌊-x + 1 / 2⌋ : ℤ) : ℚ) - x = -((⌊-x + 1 / 2⌋ : ℚ) - -x) := by
      push_cast
      ring
    rw [heq, abs_neg]
    exact hneg

/-- The total of `n` roundings of shares of `x`. -/
def Within (total : ℤ) (n : ℕ) (x : ℚ) : Prop := |(total : ℚ) - x| ≤ n / 2

theorem within_zero : Within 0 0 0 := by simp [Within]

theorem within_halfAway (x : ℚ) : Within (halfAway x) 1 x := by
  have h := abs_halfAway_sub_le x
  unfold Within
  push_cast
  exact h

theorem within_intCast (total : ℤ) (n : ℕ) : Within total n total := by
  unfold Within
  rw [sub_self, abs_zero]
  positivity

theorem Within.add {t t' : ℤ} {n n' : ℕ} {x x' : ℚ} (h : Within t n x) (h' : Within t' n' x') :
    Within (t + t') (n + n') (x + x') := by
  unfold Within at *
  calc |((t + t' : ℤ) : ℚ) - (x + x')| = |((t : ℚ) - x) + ((t' : ℚ) - x')| := by
        push_cast
        ring_nf
    _ ≤ |(t : ℚ) - x| + |(t' : ℚ) - x'| := abs_add_le _ _
    _ ≤ n / 2 + n' / 2 := add_le_add h h'
    _ = ((n + n' : ℕ) : ℚ) / 2 := by
        push_cast
        ring

theorem within_sum (xs : List ℚ) : Within ((xs.map halfAway).sum) xs.length xs.sum := by
  induction xs with
  | nil => exact within_zero
  | cons x xs ih =>
    rw [List.map_cons, List.sum_cons, List.sum_cons, List.length_cons, Nat.add_comm]
    exact (within_halfAway x).add ih

theorem intCast_sum {α : Type} (w : α → ℤ) (as : List α) :
    (((as.map w).sum : ℤ) : ℚ) = (as.map fun a => (w a : ℚ)).sum := by
  induction as with
  | nil => rfl
  | cons a as ih =>
    rw [List.map_cons, List.sum_cons, Int.cast_add, ih, List.map_cons, List.sum_cons]

theorem sum_ite_zero {α M : Type} [AddCommMonoid M] (p : α → Bool) (w : α → M) (as : List α) :
    (as.map fun a => if p a then w a else 0).sum = ((as.filter p).map w).sum := by
  induction as with
  | nil => rfl
  | cons a as ih =>
    rw [List.map_cons, List.sum_cons, ih, List.filter_cons]
    cases p a with
    | true => rw [if_pos rfl, if_pos rfl, List.map_cons, List.sum_cons]
    | false => rw [if_neg Bool.false_ne_true, if_neg Bool.false_ne_true, zero_add]

theorem sum_proportional {α : Type} (w : α → ℚ) (total q : ℚ) (as : List α)
    (htotal : (as.map w).sum = total) (hne : total ≠ 0) :
    (as.map fun a => w a / total * q).sum = q := by
  have hsum : (as.map fun a => w a / total * q).sum = (as.map w).sum / total * q := by
    clear htotal
    induction as with
    | nil => simp
    | cons a as ih =>
      rw [List.map_cons, List.sum_cons, ih, List.map_cons, List.sum_cons]
      ring
  rw [hsum, htotal, div_self hne, one_mul]

end ShopManager.Library.Shares
