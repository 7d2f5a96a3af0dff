import ShopManager.Purchase.Model

/-!
# The numbering of purchase orders

The orders of a supplier are numbered in turn: those that are not open any more
have the numbers up to their count, and an open order has the next one.
-/

namespace ShopManager.Purchase

open Library
open Warehouse (PurchaseKey PurchaseStatus)

structure OrderHead where
  uniKey : PurchaseKey
  supplierId : Nat
  status : PurchaseStatus
  deriving DecidableEq, Repr

def PurchaseOrder.head (po : PurchaseOrder) : OrderHead :=
  ⟨po.uniKey, po.supplierId, po.status⟩

def OrderHead.opening (key : PurchaseKey) : OrderHead := ⟨key, key.supplierId, .opened⟩

def OrderHead.booking (key : PurchaseKey) (h : OrderHead) : OrderHead :=
  if h.uniKey = key then { h with status := .booked } else h

def closedCount (heads : List OrderHead) (supplier : Nat) : Nat :=
  (heads.filter fun h => h.supplierId = supplier ∧ h.status ≠ .opened).length

structure Numbered (heads : List OrderHead) : Prop where
  unique : (heads.map OrderHead.uniKey).Nodup
  supplier : ∀ h ∈ heads, h.supplierId = h.uniKey.supplierId
  closed : ∀ h ∈ heads, h.status ≠ .opened →
    1 ≤ h.uniKey.number ∧ h.uniKey.number ≤ closedCount heads h.uniKey.supplierId
  used : ∀ key : PurchaseKey, 1 ≤ key.number → key.number ≤ closedCount heads key.supplierId →
    ∃ h ∈ heads, h.uniKey = key
  opened : ∀ h ∈ heads, h.status = .opened →
    h.uniKey.number = closedCount heads h.uniKey.supplierId + 1

theorem numbered_nil : Numbered [] where
  unique := List.nodup_nil
  supplier := by simp
  closed := by simp
  used key hpos hle := by
    have hzero : closedCount [] key.supplierId = 0 := rfl
    omega
  opened := by simp

def Within (heads : List OrderHead) (key : PurchaseKey) : Prop :=
  1 ≤ key.number ∧ key.number ≤ closedCount heads key.supplierId + 1

theorem closedCount_append_opening (heads : List OrderHead) (key : PurchaseKey)
    (supplier : Nat) :
    closedCount (heads ++ [OrderHead.opening key]) supplier = closedCount heads supplier := by
  simp [closedCount, OrderHead.opening]

namespace Numbered

variable {heads : List OrderHead}

theorem append_opening (hn : Numbered heads) {key : PurchaseKey} (hkey : Within heads key)
    (hnew : ∀ h ∈ heads, h.uniKey ≠ key) : Numbered (heads ++ [OrderHead.opening key]) where
  unique := by
    rw [List.map_append, List.nodup_append]
    refine ⟨hn.unique, List.nodup_singleton _, ?_⟩
    intro k hk k' hk'
    obtain ⟨h, hmem, rfl⟩ := List.mem_map.1 hk
    obtain rfl := List.mem_singleton.1 hk'
    exact hnew h hmem
  supplier h hmem := by
    rcases List.mem_append.1 hmem with hmem | hmem
    · exact hn.supplier h hmem
    · rw [List.mem_singleton.1 hmem]
      rfl
  closed h hmem hclosed := by
    rw [closedCount_append_opening]
    rcases List.mem_append.1 hmem with hmem | hmem
    · exact hn.closed h hmem hclosed
    · rw [List.mem_singleton.1 hmem] at hclosed
      exact absurd rfl hclosed
  used k hpos hle := by
    rw [closedCount_append_opening] at hle
    obtain ⟨h, hmem, heq⟩ := hn.used k hpos hle
    exact ⟨h, List.mem_append_left _ hmem, heq⟩
  opened h hmem hopen := by
    rw [closedCount_append_opening]
    rcases List.mem_append.1 hmem with hmem | hmem
    · exact hn.opened h hmem hopen
    · rw [List.mem_singleton.1 hmem]
      show key.number = closedCount heads key.supplierId + 1
      -- a smaller number is in use
      by_contra hne
      obtain ⟨h', hmem', heq⟩ := hn.used key hkey.1 (by have := hkey.2; omega)
      exact hnew h' hmem' heq

end Numbered

/-! ## Booking an open order -/

section Booking

variable {heads : List OrderHead} {key : PurchaseKey}

@[simp] theorem booking_uniKey (h : OrderHead) : (h.booking key).uniKey = h.uniKey := by
  unfold OrderHead.booking
  split <;> rfl

@[simp] theorem booking_supplierId (h : OrderHead) :
    (h.booking key).supplierId = h.supplierId := by
  unfold OrderHead.booking
  split <;> rfl

theorem booking_self {h : OrderHead} (heq : h.uniKey = key) :
    (h.booking key).status = .booked := by
  unfold OrderHead.booking
  rw [if_pos heq]

theorem booking_of_ne {h : OrderHead} (hne : h.uniKey ≠ key) : h.booking key = h := by
  unfold OrderHead.booking
  rw [if_neg hne]

theorem map_booking_of_not_mem (hnone : ∀ h ∈ heads, h.uniKey ≠ key) :
    heads.map (OrderHead.booking key) = heads := by
  conv_rhs => rw [← List.map_id heads]
  apply List.map_congr_left
  intro h hmem
  exact booking_of_ne (hnone h hmem)

theorem closedCount_booking (hn : Numbered heads) {o : OrderHead} (ho : o ∈ heads)
    (hkey : o.uniKey = key) (hopen : o.status = .opened) (supplier : Nat) :
    closedCount (heads.map (OrderHead.booking key)) supplier =
      closedCount heads supplier + if key.supplierId = supplier then 1 else 0 := by
  obtain ⟨before, after, rfl⟩ := List.append_of_mem ho
  have hunique := hn.unique
  rw [List.map_append, List.map_cons, List.nodup_append, List.nodup_cons] at hunique
  obtain ⟨_, ⟨hafter, _⟩, hdisjoint⟩ := hunique
  have hbefore : ∀ h ∈ before, h.uniKey ≠ key := fun h hmem =>
    hkey ▸ hdisjoint _ (List.mem_map_of_mem hmem) _ (List.mem_cons_self ..)
  have hafter' : ∀ h ∈ after, h.uniKey ≠ key := fun h hmem heq =>
    hafter (by rw [hkey, ← heq]; exact List.mem_map_of_mem hmem)
  have hsupplier : o.supplierId = key.supplierId := by
    rw [← hkey]
    exact hn.supplier o ho
  have hbooked : o.booking key = { o with status := .booked } := if_pos hkey
  rw [List.map_append, List.map_cons, map_booking_of_not_mem hbefore,
    map_booking_of_not_mem hafter', hbooked]
  unfold closedCount
  rw [List.filter_append, List.filter_append, List.filter_cons, List.filter_cons,
    List.length_append, List.length_append]
  by_cases hs : key.supplierId = supplier
  · simp [hopen, hsupplier, hs]
    omega
  · simp [hopen, hsupplier, hs]

theorem Numbered.booking (hn : Numbered heads) {o : OrderHead} (ho : o ∈ heads)
    (hkey : o.uniKey = key) (hopen : o.status = .opened) :
    Numbered (heads.map (OrderHead.booking key)) := by
  have hcount := closedCount_booking hn ho hkey hopen
  have hnumber : key.number = closedCount heads key.supplierId + 1 := by
    rw [← hkey]
    exact hn.opened o ho hopen
  refine ⟨?_, ?_, ?_, ?_, ?_⟩
  · rw [List.map_map]
    simpa [Function.comp_def] using hn.unique
  · intro h' hmem
    obtain ⟨h, hh, rfl⟩ := List.mem_map.1 hmem
    rw [booking_supplierId, booking_uniKey]
    exact hn.supplier h hh
  · intro h' hmem hclosed
    obtain ⟨h, hh, rfl⟩ := List.mem_map.1 hmem
    rw [booking_uniKey, hcount]
    by_cases heq : h.uniKey = key
    · rw [heq, if_pos rfl]
      omega
    · rw [booking_of_ne heq] at hclosed
      have hold := hn.closed h hh hclosed
      split <;> omega
  · intro k hpos hle
    have hused : ∃ h ∈ heads, h.uniKey = k := by
      by_cases heq : k = key
      · exact ⟨o, ho, hkey.trans heq.symm⟩
      · apply hn.used k hpos
        rw [hcount] at hle
        by_cases hs : key.supplierId = k.supplierId
        · rw [if_pos hs] at hle
          have hne : k.number ≠ key.number := by
            intro hnum
            cases k
            cases key
            exact heq (by simp_all)
          rw [hs] at hnumber
          omega
        · rw [if_neg hs] at hle
          exact hle
    obtain ⟨h, hmem, heq⟩ := hused
    exact ⟨h.booking key, List.mem_map_of_mem hmem, by rw [booking_uniKey, heq]⟩
  · intro h' hmem hopen'
    obtain ⟨h, hh, rfl⟩ := List.mem_map.1 hmem
    have hne : h.uniKey ≠ key := by
      intro heq
      rw [booking_self heq] at hopen'
      cases hopen'
    rw [booking_of_ne hne] at hopen' ⊢
    have hnum := hn.opened h hh hopen'
    have hs : key.supplierId ≠ h.uniKey.supplierId := by
      intro hs
      apply hne
      rw [← hs, ← hnumber] at hnum
      cases hk : h.uniKey
      cases key
      simp_all
    rw [hcount, if_neg hs, Nat.add_zero]
    exact hnum

end Booking

end ShopManager.Purchase
