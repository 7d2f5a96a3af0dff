import Mathlib.Algebra.Order.BigOperators.Group.List
import Mathlib.Data.List.Infix
import Mathlib.Data.List.Sort
import Mathlib.Tactic.Linarith

/-!
# Serving a queue from what there is

The requests of a queue have sizes and share a supply.  Two rules say who is served: the
longest beginning of the queue that the supply covers, or everyone who fits into what
those before leave.  Both leave no choice.
-/

namespace ShopManager.Library.Greedy

variable {α : Type} {w : α → ℤ} {f g : ℤ} {a : α} {l p q t : List α}

def total (w : α → ℤ) (l : List α) : ℤ := (l.map w).sum

@[simp] theorem total_nil : total w [] = 0 := rfl

@[simp] theorem total_cons : total w (a :: l) = w a + total w l := by
  unfold total
  rw [List.map_cons, List.sum_cons]

@[simp] theorem total_append : total w (l ++ t) = total w l + total w t := by
  unfold total
  rw [List.map_append, List.sum_append]

theorem total_nonneg (hw : ∀ b, 0 ≤ w b) (l : List α) : 0 ≤ total w l := by
  induction l with
  | nil => exact le_refl 0
  | cons b l ih =>
    rw [total_cons]
    exact add_nonneg (hw b) ih

theorem total_le_of_isPrefix (hw : ∀ b, 0 ≤ w b) (h : p <+: l) : total w p ≤ total w l := by
  obtain ⟨rest, rfl⟩ := h
  rw [total_append]
  exact le_add_of_nonneg_right (total_nonneg hw rest)

/-! ## The longest beginning that is covered -/

structure LongestPrefix (w : α → ℤ) (f : ℤ) (p l : List α) : Prop where
  isPrefix : p <+: l
  covered : total w p ≤ f
  longest : ∀ q, q <+: l → total w q ≤ f → q <+: p

namespace LongestPrefix

theorem nil (hf : 0 ≤ f) : LongestPrefix w f [] [] where
  isPrefix := List.prefix_rfl
  covered := hf
  longest _ hq _ := hq

theorem cons (h : LongestPrefix w (f - w a) p l) : LongestPrefix w f (a :: p) (a :: l) where
  isPrefix := (List.prefix_cons_inj a).mpr h.isPrefix
  covered := by
    have hcovered := h.covered
    rw [total_cons]
    linarith
  longest q hq hcovered := by
    cases q with
    | nil => exact List.nil_prefix
    | cons b q =>
      obtain ⟨rfl, hprefix⟩ := List.cons_prefix_cons.mp hq
      rw [total_cons] at hcovered
      exact (List.prefix_cons_inj b).mpr (h.longest q hprefix (by linarith))

theorem stop (hw : ∀ b, 0 ≤ w b) (hf : 0 ≤ f) (h : f < w a) :
    LongestPrefix w f [] (a :: l) where
  isPrefix := List.nil_prefix
  covered := hf
  longest q hq hcovered := by
    cases q with
    | nil => exact List.prefix_rfl
    | cons b q =>
      obtain ⟨rfl, _⟩ := List.cons_prefix_cons.mp hq
      have hrest := total_nonneg hw q
      rw [total_cons] at hcovered
      linarith

theorem of_le (hp : LongestPrefix w f p l) (hg : g ≤ f) (hcovered : total w p ≤ g) :
    LongestPrefix w g p l where
  isPrefix := hp.isPrefix
  covered := hcovered
  longest q hq hle := hp.longest q hq (hle.trans hg)

theorem nil_iff (hw : ∀ b, 0 ≤ w b) :
    LongestPrefix w 0 [] l ↔ ∀ b ∈ l.head?, w b ≠ 0 := by
  cases l with
  | nil => exact ⟨fun _ b hb => (nomatch hb), fun _ => nil (le_refl 0)⟩
  | cons b l =>
    constructor
    · intro h c hc hzero
      obtain rfl : b = c := Option.some.inj hc
      have hone := h.longest [b] ((List.prefix_cons_inj b).mpr List.nil_prefix)
        (by rw [total_cons, hzero, total_nil, add_zero])
      exact absurd (List.prefix_nil.mp hone) (List.cons_ne_nil b [])
    · intro h
      have hpos : 0 < w b := lt_of_le_of_ne (hw b) (Ne.symm (h b rfl))
      exact stop hw (le_refl 0) hpos

end LongestPrefix

theorem filter_mem [DecidableEq α] (h : t.Sublist l) (hnodup : l.Nodup) :
    (l.filter fun c => c ∈ t) = t := by
  induction h with
  | slnil => rfl
  | cons b hsub ih =>
    obtain ⟨hb, hrest⟩ := List.nodup_cons.mp hnodup
    rw [List.filter_cons_of_neg (by simpa using fun hmem => hb (hsub.subset hmem)), ih hrest]
  | @cons_cons t l b hsub ih =>
    obtain ⟨hb, hrest⟩ := List.nodup_cons.mp hnodup
    have hfilter : (l.filter fun c => c ∈ b :: t) = l.filter fun c => c ∈ t := by
      apply List.filter_congr
      intro c hc
      have hne : c ≠ b := fun heq => hb (heq ▸ hc)
      simp [hne]
    rw [List.filter_cons_of_pos (by simp), hfilter, ih hrest]

/-- A request is served if and only if it fits into what those served before it leave. -/
structure InTurn [DecidableEq α] (w : α → ℤ) (f : ℤ) (t l : List α) : Prop where
  sublist : t.Sublist l
  fits : ∀ before b after, l = before ++ b :: after →
    (b ∈ t ↔ w b ≤ f - total w (before.filter fun c => c ∈ t))

namespace InTurn

variable [DecidableEq α]

theorem nil : InTurn w f [] [] where
  sublist := List.Sublist.refl []
  fits before b after h := by simp at h

theorem take (h : InTurn w (f - w a) t l) (hnot : a ∉ l) (ha : w a ≤ f) :
    InTurn w f (a :: t) (a :: l) where
  sublist := h.sublist.cons_cons a
  fits before b after heq := by
    cases before with
    | nil =>
      obtain ⟨rfl, rfl⟩ := List.cons.inj heq
      simpa using ha
    | cons c before =>
      obtain ⟨rfl, rfl⟩ := List.cons.inj heq
      have hb : b ≠ a := fun hb => hnot (by simp [hb])
      have hfilter : (before.filter fun c => c ∈ a :: t) = before.filter fun c => c ∈ t := by
        apply List.filter_congr
        intro c hc
        have hne : c ≠ a := fun hca => hnot (by simp [← hca, hc])
        simp [hne]
      have hstep := h.fits before b after rfl
      rw [List.filter_cons_of_pos (by simp), total_cons, hfilter, List.mem_cons,
        or_iff_right hb, hstep]
      constructor <;> intro hle <;> linarith

theorem pass (h : InTurn w f t l) (hnot : a ∉ l) (ha : f < w a) : InTurn w f t (a :: l) where
  sublist := h.sublist.cons a
  fits before b after heq := by
    have hat : a ∉ t := fun hat => hnot (h.sublist.subset hat)
    cases before with
    | nil =>
      obtain ⟨rfl, rfl⟩ := List.cons.inj heq
      simp [hat, ha]
    | cons c before =>
      obtain ⟨rfl, rfl⟩ := List.cons.inj heq
      rw [List.filter_cons_of_neg (by simpa using hat)]
      exact h.fits before b after rfl

theorem unique (ht : InTurn w f t l) (hq : InTurn w f q l) (hnodup : l.Nodup) : t = q := by
  have hmem : ∀ before after, l = before ++ after →
      (before.filter fun c => c ∈ t) = before.filter fun c => c ∈ q := by
    intro before
    induction before using List.reverseRecOn with
    | nil => exact fun _ _ => rfl
    | append_singleton before b ih =>
      intro after heq
      rw [List.append_assoc, List.singleton_append] at heq
      have hbefore := ih (b :: after) heq
      have hiff : b ∈ t ↔ b ∈ q := by
        rw [ht.fits before b after heq, hq.fits before b after heq, hbefore]
      rw [List.filter_append, List.filter_append, hbefore]
      simp [List.filter_cons, hiff]
  have hall := hmem l [] (List.append_nil l).symm
  rw [← filter_mem ht.sublist hnodup, ← filter_mem hq.sublist hnodup, hall]

theorem nil_iff (hw : ∀ b, 0 ≤ w b) : InTurn w 0 [] l ↔ ∀ b ∈ l, w b ≠ 0 := by
  have hnone : ∀ before : List α, (before.filter fun c => c ∈ ([] : List α)) = [] := by
    intro before
    simp
  constructor
  · intro h b hb hzero
    obtain ⟨before, after, heq⟩ := List.append_of_mem hb
    have hfits := h.fits before b after heq
    rw [hnone, total_nil, sub_zero, hzero] at hfits
    exact List.not_mem_nil (hfits.mpr (le_refl 0))
  · intro h
    refine ⟨List.nil_sublist l, fun before b after heq => ?_⟩
    have hb : w b ≠ 0 := h b (by simp [heq])
    rw [hnone, total_nil, sub_zero]
    exact ⟨fun hmem => absurd hmem List.not_mem_nil, fun hle => absurd (hle.antisymm (hw b)) hb⟩

theorem total_le (hf : 0 ≤ f) (h : InTurn w f t l) (hnodup : l.Nodup) : total w t ≤ f := by
  have hstep : ∀ before after, l = before ++ after →
      total w (before.filter fun c => c ∈ t) ≤ f := by
    intro before
    induction before using List.reverseRecOn with
    | nil => exact fun _ _ => hf
    | append_singleton before b ih =>
      intro after heq
      rw [List.append_assoc, List.singleton_append] at heq
      have hbefore := ih (b :: after) heq
      rw [List.filter_append, total_append]
      by_cases hb : b ∈ t
      · have hfits := (h.fits before b after heq).mp hb
        rw [List.filter_cons_of_pos (by simpa using hb), List.filter_nil, total_cons, total_nil]
        linarith
      · rw [List.filter_cons_of_neg (by simpa using hb), List.filter_nil, total_nil, add_zero]
        exact hbefore
  have hall := hstep l [] (List.append_nil l).symm
  rwa [filter_mem h.sublist hnodup] at hall

end InTurn

section Sorted

variable {r : α → α → Prop} [DecidableRel r]

theorem filter_orderedInsert (htrans : ∀ a b c, r a b → r b c → r a c) (p : α → Bool) (a : α)
    (hsorted : l.Pairwise r) :
    (l.orderedInsert r a).filter p =
      if p a then (l.filter p).orderedInsert r a else l.filter p := by
  induction l with
  | nil =>
    rw [List.orderedInsert_nil, List.filter_cons, List.filter_nil]
    rfl
  | cons b l ih =>
    obtain ⟨hb, hrest⟩ := List.pairwise_cons.mp hsorted
    rw [List.orderedInsert_cons]
    by_cases hab : r a b
    · rw [if_pos hab, List.filter_cons]
      -- whoever is behind `b` is behind `a`
      have hall : ∀ c ∈ (b :: l).filter p, r a c := by
        intro c hc
        rcases List.mem_cons.mp (List.mem_filter.mp hc).1 with rfl | hc
        · exact hab
        · exact htrans a b c hab (hb c hc)
      revert hall
      cases (b :: l).filter p with
      | nil => exact fun _ => rfl
      | cons c rest =>
        intro hall
        rw [List.orderedInsert_cons, if_pos (hall c List.mem_cons_self)]
    · rw [if_neg hab, List.filter_cons, ih hrest, List.filter_cons]
      by_cases hpb : p b
      · rw [if_pos hpb, if_pos hpb, List.orderedInsert_cons, if_neg hab]
        split <;> rfl
      · rw [if_neg hpb, if_neg hpb]

theorem filter_insertionSort (htrans : ∀ a b c, r a b → r b c → r a c)
    (htotal : ∀ a b, r a b ∨ r b a) (p : α → Bool) (l : List α) :
    (l.insertionSort r).filter p = (l.filter p).insertionSort r := by
  have : Std.Total r := ⟨htotal⟩
  have : IsTrans α r := ⟨htrans⟩
  induction l with
  | nil => rfl
  | cons a l ih =>
    rw [List.insertionSort_cons,
      filter_orderedInsert htrans p a (List.pairwise_insertionSort r l), ih, List.filter_cons]
    split
    · rw [List.insertionSort_cons]
    · rfl

end Sorted

end ShopManager.Library.Greedy
