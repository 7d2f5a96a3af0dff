import Mathlib.Algebra.BigOperators.Group.List.Basic
import Mathlib.Tactic.Linarith
import Mathlib.Tactic.Ring

/-!
# Rounding to the nearest integer

`halfEven a b` is the integer nearest to `a / b`, the even one of two that are equally
near.  What the roundings of several shares of one amount leave over is the sum of their
residues.
-/

namespace ShopManager.Library.Rounding

def halfEven (a b : Int) : Int :=
  if 2 * (a % b) < b ∨ (2 * (a % b) = b ∧ a / b % 2 = 0) then a / b else a / b + 1

theorem halfEven_down {a b : Int} (h : 2 * (a % b) < b ∨ (2 * (a % b) = b ∧ a / b % 2 = 0)) :
    halfEven a b = a / b := if_pos h

theorem halfEven_up {a b : Int} (h : ¬ (2 * (a % b) < b ∨ (2 * (a % b) = b ∧ a / b % 2 = 0))) :
    halfEven a b = a / b + 1 := if_neg h

/-- What the rounded quotient leaves of the dividend. -/
def residue (a b : Int) : Int :=
  if 2 * (a % b) < b ∨ (2 * (a % b) = b ∧ a / b % 2 = 0) then a % b else a % b - b

theorem mul_halfEven (a b : Int) : b * halfEven a b = a - residue a b := by
  have hdiv := Int.mul_ediv_add_emod a b
  unfold halfEven residue
  split
  · omega
  · rw [mul_add]
    omega

end ShopManager.Library.Rounding
