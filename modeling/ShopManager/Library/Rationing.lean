import Mathlib.Algebra.Order.BigOperators.Group.List
import Mathlib.Tactic.Linarith

/-!
# Sharing out supplies

Requests come in a row.  Each asks for some of the supply of its key and gets what it needs, or
what those before have left.
-/

namespace ShopManager.Library.Rationing

variable {α κ : Type} [DecidableEq κ] {key : α → κ} {need : α → ℤ} {left : κ → ℤ}
  {a b : α} {l : List α} {n : ℤ} {k : κ}

/-- What a request gets of what is left. -/
def portion (need left : ℤ) : ℤ := max 0 (min need left)

theorem portion_nonneg (need left : ℤ) : 0 ≤ portion need left := le_max_left _ _

theorem portion_le (left : ℤ) {need : ℤ} (h : 0 ≤ need) : portion need left ≤ need :=
  max_le h (min_le_left _ _)

theorem portion_le_left (need left : ℤ) : portion need left ≤ max left 0 :=
  max_le (le_max_right _ _) ((min_le_right _ _).trans (le_max_left _ _))

theorem portion_eq {need left : ℤ} (hneed : 0 ≤ need) (h : portion need left < left) :
    portion need left = need := by
  unfold portion at *
  rcases le_total need left with hle | hle
  · rw [min_eq_left hle, max_eq_right hneed]
  · rw [min_eq_right hle] at h
    exact absurd h (not_lt.mpr (le_max_right 0 left))

theorem portion_pos_iff {need left : ℤ} : 0 < portion need left ↔ 0 < need ∧ 0 < left := by
  unfold portion
  rw [lt_max_iff, lt_min_iff]
  exact or_iff_right (lt_irrefl 0)

/-- What the first request leaves. -/
def leftover (key : α → κ) (need : α → ℤ) (a : α) (left : κ → ℤ) : κ → ℤ :=
  Function.update left (key a) (left (key a) - portion (need a) (left (key a)))

/-- The requests with what they get. -/
def served (key : α → κ) (need : α → ℤ) : List α → (κ → ℤ) → List (α × ℤ)
  | [], _ => []
  | a :: l, left =>
      (a, portion (need a) (left (key a))) :: served key need l (leftover key need a left)

theorem map_fst_served : ∀ (l : List α) (left : κ → ℤ), (served key need l left).map Prod.fst = l
  | [], _ => rfl
  | a :: l, left => by
      unfold served
      rw [List.map_cons, map_fst_served l]

theorem served_cons (a : α) (l : List α) (left : κ → ℤ) :
    served key need (a :: l) left =
      (a, portion (need a) (left (key a))) :: served key need l (leftover key need a left) := rfl

theorem leftover_le (a : α) (left : κ → ℤ) (k : κ) : leftover key need a left k ≤ left k := by
  unfold leftover
  by_cases hk : k = key a
  · rw [hk, Function.update_self]
    have hnonneg := portion_nonneg (need a) (left (key a))
    linarith
  · rw [Function.update_of_ne hk]

theorem leftover_self (a : α) (left : κ → ℤ) :
    leftover key need a left (key a) = left (key a) - portion (need a) (left (key a)) :=
  Function.update_self _ _ _

theorem leftover_of_ne (left : κ → ℤ) (h : k ≠ key a) : leftover key need a left k = left k :=
  Function.update_of_ne h _ _

theorem served_between (hneed : ∀ a, 0 ≤ need a) :
    ∀ {l : List α} {left : κ → ℤ}, (a, n) ∈ served key need l left → 0 ≤ n ∧ n ≤ need a := by
  intro l
  induction l with
  | nil => exact fun h => nomatch h
  | cons b l ih =>
    intro left h
    rw [served_cons] at h
    rcases List.mem_cons.mp h with heq | h
    · obtain ⟨rfl, rfl⟩ := Prod.mk.inj heq
      exact ⟨portion_nonneg _ _, portion_le _ (hneed a)⟩
    · exact ih h

theorem left_pos : ∀ {l : List α} {left : κ → ℤ}, (a, n) ∈ served key need l left → 0 < n →
    0 < left (key a) := by
  intro l
  induction l with
  | nil => exact fun h => nomatch h
  | cons b l ih =>
    intro left h hpos
    rw [served_cons] at h
    rcases List.mem_cons.mp h with heq | h
    · obtain ⟨rfl, rfl⟩ := Prod.mk.inj heq
      exact (portion_pos_iff.mp hpos).2
    · exact (ih h hpos).trans_le (leftover_le b left (key a))

theorem served_in_turn (hneed : ∀ a, 0 ≤ need a) : ∀ (l : List α) (left : κ → ℤ),
    (served key need l left).Pairwise fun x y => key x.1 = key y.1 → 0 < y.2 → x.2 = need x.1 := by
  intro l
  induction l with
  | nil => exact fun _ => List.Pairwise.nil
  | cons a l ih =>
    intro left
    rw [served_cons, List.pairwise_cons]
    refine ⟨?_, ih _⟩
    rintro ⟨b, n⟩ hb hkey hpos
    have hleft := left_pos hb hpos
    rw [← hkey, leftover_self, sub_pos] at hleft
    exact portion_eq (hneed a) hleft

/-- What is given of the supply of a key. -/
def given (key : α → κ) (k : κ) (shares : List (α × ℤ)) : ℤ :=
  ((shares.filter fun share => key share.1 = k).map Prod.snd).sum

theorem given_cons (k : κ) (a : α) (n : ℤ) (shares : List (α × ℤ)) :
    given key k ((a, n) :: shares) = (if key a = k then n else 0) + given key k shares := by
  unfold given
  rw [List.filter_cons]
  by_cases hk : key a = k
  · rw [if_pos hk, if_pos (decide_eq_true hk), List.map_cons, List.sum_cons]
  · rw [if_neg hk, if_neg (by simpa using hk), zero_add]

theorem given_le (k : κ) : ∀ (l : List α) (left : κ → ℤ),
    given key k (served key need l left) ≤ max (left k) 0 := by
  intro l
  induction l with
  | nil => exact fun left => le_max_right _ _
  | cons a l ih =>
    intro left
    rw [served_cons, given_cons]
    have hrest := ih (leftover key need a left)
    by_cases hk : key a = k
    · subst hk
      rw [if_pos rfl]
      rw [leftover_self] at hrest
      rcases le_total (left (key a)) 0 with hnone | hsome
      · have hzero : portion (need a) (left (key a)) = 0 :=
          le_antisymm ((portion_le_left _ _).trans (max_le hnone le_rfl)) (portion_nonneg _ _)
        rw [hzero, sub_zero] at hrest
        rw [hzero, zero_add]
        exact hrest
      · have hle := portion_le_left (need a) (left (key a))
        rw [max_eq_left hsome] at hle ⊢
        rw [max_eq_left (by linarith)] at hrest
        linarith
    · rw [if_neg hk, zero_add, ← leftover_of_ne left (fun h => hk h.symm)]
      exact hrest

theorem served_all (hneed : ∀ a, 0 ≤ need a) : ∀ {l : List α} {left : κ → ℤ},
    given key k (served key need l left) < left k → (a, n) ∈ served key need l left → key a = k →
      n = need a := by
  intro l
  induction l with
  | nil => exact fun _ h => nomatch h
  | cons b l ih =>
    intro left hover h hk
    rw [served_cons] at hover h
    rw [given_cons] at hover
    rcases List.mem_cons.mp h with heq | h
    · obtain ⟨rfl, rfl⟩ := Prod.mk.inj heq
      rw [if_pos hk] at hover
      have hrest : 0 ≤ given key k (served key need l (leftover key need a left)) := by
        refine List.sum_nonneg fun m hm => ?_
        obtain ⟨⟨c, m⟩, hshare, rfl⟩ := List.mem_map.mp hm
        exact (served_between hneed (List.mem_of_mem_filter hshare)).1
      refine portion_eq (hneed a) ?_
      rw [hk] at hover ⊢
      linarith
    · refine ih ?_ h hk
      by_cases hb : key b = k
      · subst hb
        rw [if_pos rfl] at hover
        rw [leftover_self]
        linarith
      · rw [if_neg hb, zero_add] at hover
        rw [leftover_of_ne left fun h => hb h.symm]
        exact hover

end ShopManager.Library.Rationing
