import Mathlib.Algebra.Order.Group.Int
import Mathlib.Data.List.TakeWhile
import ShopManager.Library.Execution
import ShopManager.Pay.Order.Status

/-!
# Units of an order that was paid

An order that was paid and the orders in its place share the first part of their
number.  Their items may not be for more units than were paid.  A change cancels
the item it replaces and a refund counts the item of its order out; another
delivery does neither.
-/

namespace ShopManager.Pay.Order

open Library Library.Tx
open Trade (TradeStatus)
open Refund (RefundStatus GoodStatus)
open Warehouse (AssignStatus)

/-! ## Numbers of orders -/

theorem dash_not_mem_oidBase (oid : String) : '-' ∉ (SaleOrder.oidBase oid).toList := by
  unfold SaleOrder.oidBase
  rw [String.toList_ofList]
  intro h
  have hne := List.mem_takeWhile_imp h
  simp at hne

theorem oidBase_plain {oid : String} (h : '-' ∉ oid.toList) : SaleOrder.oidBase oid = oid := by
  have hall : ∀ c ∈ oid.toList, (c ≠ '-') := by
    rintro c hc rfl
    exact h hc
  unfold SaleOrder.oidBase
  rw [List.takeWhile_eq_self_iff.2 (by simpa using hall), String.ofList_toList]

theorem toList_numbered (old : SaleOrder) (cnt : Nat) : (old.numbered cnt).toList =
    (SaleOrder.oidBase old.oid).toList ++ '-' :: (toString cnt).toList := by
  unfold SaleOrder.numbered
  rw [String.toList_append, String.toList_append, List.append_assoc]
  rfl

theorem oidBase_numbered (old : SaleOrder) (cnt : Nat) :
    SaleOrder.oidBase (old.numbered cnt) = SaleOrder.oidBase old.oid := by
  have hall : ∀ c ∈ (SaleOrder.oidBase old.oid).toList, decide (c ≠ '-') = true := by
    intro c hc
    have hdash := dash_not_mem_oidBase old.oid
    refine decide_eq_true ?_
    rintro rfl
    exact hdash hc
  conv_lhs => unfold SaleOrder.oidBase
  rw [toList_numbered, List.takeWhile_append_of_pos hall, List.takeWhile_cons_of_neg (by simp),
    List.append_nil, String.ofList_toList]

theorem dash_mem_numbered (old : SaleOrder) (cnt : Nat) : '-' ∈ (old.numbered cnt).toList := by
  rw [toList_numbered]
  exact List.mem_append.2 (Or.inr (List.mem_cons_self ..))

/-! ## Units -/

def isRefunded (order : SaleOrder) : Bool := order.refundStatus = .refundSuccess

def itemUnits (items : Table PackageSkuItem) (order : Nat) : Int :=
  items.sum fun item =>
    if item.saleOrderId = order ∧ item.assignStatus ≠ .canceled then item.num else 0

def hasItem (items : Table PackageSkuItem) (order : Nat) : Bool :=
  (items.first fun item => item.saleOrderId = order).isSome

def live (items : Table PackageSkuItem) (order : SaleOrder) : Int :=
  if isRefunded order then 0 else itemUnits items order.id

def promised (items : Table PackageSkuItem) (order : SaleOrder) : Int :=
  if isRefunded order then 0
  else if hasItem items order.id then itemUnits items order.id
  else order.num

def familyUnits (units : SaleOrder → Int) (orders : Table SaleOrder) (base : String) : Int :=
  orders.sum fun order => if SaleOrder.oidBase order.oid = base then units order else 0

def liveUnits (s : OrderDb) (base : String) : Int :=
  familyUnits (live s.packageSkuItems) s.orders base

def promisedUnits (s : OrderDb) (base : String) : Int :=
  familyUnits (promised s.packageSkuItems) s.orders base

def AtMostPaid (s : OrderDb) : Prop :=
  ∀ root ∈ s.orders, '-' ∉ root.oid.toList → liveUnits s root.oid ≤ root.num

theorem itemUnits_insert (items : Table PackageSkuItem) (item : PackageSkuItem) (order : Nat) :
    itemUnits (items.insert item) order = itemUnits items order +
      if item.saleOrderId = order ∧ item.assignStatus ≠ .canceled then item.num else 0 :=
  Table.sum_insert items item _

variable {items : Table PackageSkuItem}

theorem itemUnits_eq_zero {order : Nat}
    (h : hasItem items order = false) : itemUnits items order = 0 := by
  have hnone : items.first (fun item => item.saleOrderId = order) = none := by
    simpa [hasItem] using h
  refine Table.sum_eq_zero fun item hitem => ?_
  have hother := Table.first_eq_none.1 hnone item hitem
  exact if_neg fun hboth => absurd hboth.1 (of_decide_eq_false hother)

theorem itemUnits_nonneg (h : ∀ item ∈ items, 0 ≤ item.num)
    (order : Nat) : 0 ≤ itemUnits items order := by
  refine List.sum_nonneg fun n hn => ?_
  obtain ⟨item, hitem, rfl⟩ := List.mem_map.1 hn
  split
  · exact h item hitem
  · exact le_rfl

theorem hasItem_insert (items : Table PackageSkuItem) (item : PackageSkuItem) (order : Nat) :
    hasItem (items.insert item) order = (hasItem items order || item.saleOrderId = order) := by
  unfold hasItem
  rw [Table.first_insert]
  have hstored : (items.stored item).saleOrderId = item.saleOrderId := rfl
  rw [hstored]
  by_cases h : item.saleOrderId = order
  · simp [h]
  · simp [h]

variable {item : PackageSkuItem}

theorem hasItem_of_mem (h : item ∈ items) : hasItem items item.saleOrderId = true := by
  by_contra hnot
  have hnone : items.first (fun row => row.saleOrderId = item.saleOrderId) = none := by
    simpa [hasItem] using hnot
  have hother := Table.first_eq_none.1 hnone item h
  simp at hother

theorem itemUnits_save
    (item' : PackageSkuItem) (h : item ∈ items) (hid : item'.id = item.id) (order : Nat) :
    itemUnits (items.save item') order = itemUnits items order -
      (if item.saleOrderId = order ∧ item.assignStatus ≠ .canceled then item.num else 0) +
      if item'.saleOrderId = order ∧ item'.assignStatus ≠ .canceled then item'.num else 0 :=
  Table.sum_save h hid.symm _

theorem hasItem_save (item' : PackageSkuItem) (h : item ∈ items) (hid : item'.id = item.id)
    (horder : item'.saleOrderId = item.saleOrderId) (order : Nat) : hasItem (items.save item') order = hasItem items order := by
  unfold hasItem
  rw [Table.first_save h hid.symm (by rw [horder]), Option.isSome_map]

variable {units : SaleOrder → Int} {orders : Table SaleOrder}

theorem familyUnits_congr {units' : SaleOrder → Int}
    (h : ∀ order ∈ orders, units order = units' order) (base : String) :
    familyUnits units orders base = familyUnits units' orders base := by
  refine Table.sum_congr fun order horder => ?_
  rw [h order horder]

theorem familyUnits_mono {units' : SaleOrder → Int}
    (h : ∀ order ∈ orders, units order ≤ units' order) (base : String) :
    familyUnits units orders base ≤ familyUnits units' orders base := by
  refine Table.sum_le_sum fun order horder => ?_
  split
  · exact h order horder
  · exact le_rfl

theorem familyUnits_insert (units : SaleOrder → Int) (orders : Table SaleOrder)
    (order : SaleOrder) (base : String) : familyUnits units (orders.insert order) base =
      familyUnits units orders base +
        if SaleOrder.oidBase order.oid = base then units (orders.stored order) else 0 :=
  Table.sum_insert orders order _

variable {order order' : SaleOrder}

theorem familyUnits_save (h : order ∈ orders) (hid : order'.id = order.id)
    (hoid : order'.oid = order.oid) (base : String) :
    familyUnits units (orders.save order') base = familyUnits units orders base -
      (if SaleOrder.oidBase order.oid = base then units order else 0) +
      if SaleOrder.oidBase order.oid = base then units order' else 0 := by
  unfold familyUnits
  rw [Table.sum_save h hid.symm, hoid]

theorem familyUnits_less {units' : SaleOrder → Int} (h : order ∈ orders) {n : Int} (base : String)
    (hunits : ∀ row ∈ orders, units' row = units row - if row.id = order.id then n else 0) :
    familyUnits units' orders base = familyUnits units orders base -
      if SaleOrder.oidBase order.oid = base then n else 0 := by
  have hsum : familyUnits units orders base = familyUnits units' orders base +
      orders.sum fun row => if Row.pk row = Row.pk order then
        (if SaleOrder.oidBase order.oid = base then n else 0) else 0 := by
    unfold familyUnits
    rw [← Table.sum_add]
    refine Table.sum_congr fun row hrow => ?_
    by_cases hid : row.id = order.id
    · have heq : row = order := Table.pk_inj hrow h hid
      subst heq
      rw [hunits row hrow, if_pos rfl, if_pos rfl]
      split <;> omega
    · have hpk : ¬ Row.pk row = Row.pk order := hid
      rw [hunits row hrow, if_neg hid, if_neg hpk]
      split <;> omega
  rw [hsum, Table.sum_single h]
  omega

theorem live_le_promised (h : 0 ≤ order.num) : live items order ≤ promised items order := by
  unfold live promised
  by_cases hrefunded : isRefunded order = true
  · rw [if_pos hrefunded, if_pos hrefunded]
  · rw [if_neg hrefunded, if_neg hrefunded]
    by_cases hitem : hasItem items order.id = true
    · rw [if_pos hitem]
    · rw [if_neg hitem, itemUnits_eq_zero (by simpa using hitem)]
      exact h

theorem promised_nonneg (hitems : ∀ item ∈ items, 0 ≤ item.num)
    (h : 0 ≤ order.num) : 0 ≤ promised items order := by
  unfold promised
  split
  · exact le_rfl
  · split
    · exact itemUnits_nonneg hitems _
    · exact h

theorem promised_insert (hlive : item.assignStatus ≠ .canceled)
    (h : item.saleOrderId = order.id → hasItem items order.id = false ∧ item.num = order.num) :
    promised (items.insert item) order = promised items order := by
  unfold promised
  rw [hasItem_insert, itemUnits_insert]
  by_cases hid : item.saleOrderId = order.id
  · obtain ⟨hnone, hnum⟩ := h hid
    rw [hnone, itemUnits_eq_zero hnone]
    simp [hid, hlive, hnum]
  · simp [hid]

theorem promised_cancel
    (hitem : item ∈ items) (hlive : item.assignStatus ≠ .canceled) (order : SaleOrder) :
    promised (items.save item.toCancel) order = promised items order -
      if order.id = item.saleOrderId then (if isRefunded order then 0 else item.num) else 0 := by
  have hcancel : ¬ (item.toCancel.saleOrderId = order.id ∧
      item.toCancel.assignStatus ≠ .canceled) := fun h => h.2 rfl
  have hunits : itemUnits (items.save item.toCancel) order.id = itemUnits items order.id -
      if item.saleOrderId = order.id then item.num else 0 := by
    rw [itemUnits_save item.toCancel hitem rfl, if_neg hcancel]
    simp [hlive]
  unfold promised
  rw [hasItem_save item.toCancel hitem rfl rfl, hunits]
  by_cases hid : item.saleOrderId = order.id
  · have hhas : hasItem items order.id = true := hid ▸ hasItem_of_mem hitem
    simp only [hhas, if_pos hid, if_pos hid.symm, if_true]
    split <;> omega
  · simp only [if_neg hid, if_neg (Ne.symm hid), sub_zero]

/-! ## Sound states -/

/-- Orders and items are for no negative number of units, an order that waits to be
sent is promised all of its units, and a refunded order has its refund. -/
structure Sound (s : OrderDb) : Prop where
  orderNum : ∀ order ∈ s.orders, 0 ≤ order.num
  itemNum : ∀ item ∈ s.packageSkuItems, 0 ≤ item.num
  itemOrder : ∀ item ∈ s.packageSkuItems, ∃ order ∈ s.orders, order.id = item.saleOrderId
  waiting : ∀ order ∈ s.orders, order.status = .waitSellerSendGoods →
    isRefunded order = false → promised s.packageSkuItems order = order.num
  refunded : ∀ order ∈ s.orders, isRefunded order = true → ∃ refund ∈ s.refunds,
    refund.orderId = order.id ∧ refund.tradeId = order.saleTradeId ∧ refund.status = .refundSuccess
  linked : ∀ refund ∈ s.refunds, ∃ order ∈ s.orders,
    order.id = refund.orderId ∧ order.saleTradeId = refund.tradeId
  unique : ∀ refund ∈ s.refunds, ∀ refund' ∈ s.refunds,
    refund.orderId = refund'.orderId → refund.tradeId = refund'.tradeId → refund = refund'
  fits : ∀ root ∈ s.orders, '-' ∉ root.oid.toList → promisedUnits s root.oid ≤ root.num

variable {s : OrderDb}

theorem Sound.atMostPaid (h : Sound s) : AtMostPaid s := by
  intro root hroot hplain
  refine le_trans ?_ (h.fits root hroot hplain)
  exact familyUnits_mono (fun order horder => live_le_promised (h.orderNum order horder)) _

structure SameGoods (s s' : OrderDb) : Prop where
  orders : s'.orders = s.orders
  items : s'.packageSkuItems = s.packageSkuItems
  refunds : s'.refunds = s.refunds

theorem SameGoods.refl (s : OrderDb) : SameGoods s s := ⟨rfl, rfl, rfl⟩

theorem SameGoods.trans (s s' s'' : OrderDb) (h : SameGoods s s') (h' : SameGoods s' s'') :
    SameGoods s s'' :=
  ⟨h'.orders.trans h.orders, h'.items.trans h.items, h'.refunds.trans h.refunds⟩

variable {s' : OrderDb}

theorem SameGoods.promisedUnits (h : SameGoods s s') (base : String) :
    promisedUnits s' base = promisedUnits s base := by
  unfold Order.promisedUnits
  rw [h.orders, h.items]

theorem SameGoods.sound (h : SameGoods s s') (hs : Sound s) : Sound s' where
  orderNum := by
    rw [h.orders]
    exact hs.orderNum
  itemNum := by
    rw [h.items]
    exact hs.itemNum
  itemOrder := by
    rw [h.items, h.orders]
    exact hs.itemOrder
  waiting := by
    rw [h.items, h.orders]
    exact hs.waiting
  refunded := by
    rw [h.orders, h.refunds]
    exact hs.refunded
  linked := by
    rw [h.orders, h.refunds]
    exact hs.linked
  unique := by
    rw [h.refunds]
    exact hs.unique
  fits := by
    rw [h.orders]
    intro root hroot hplain
    rw [h.promisedUnits]
    exact hs.fits root hroot hplain

structure SameUnits (order order' : SaleOrder) : Prop where
  id : order'.id = order.id
  oid : order'.oid = order.oid
  num : order'.num = order.num
  trade : order'.saleTradeId = order.saleTradeId

theorem promised_same
    (h : SameUnits order order') (hrefunded : isRefunded order' = isRefunded order) :
    promised items order' = promised items order := by
  unfold promised
  rw [h.id, h.num, hrefunded]

theorem promisedUnits_save (hmem : order ∈ s.orders) (h : SameUnits order order') (base : String) :
    promisedUnits { s with orders := s.orders.save order' } base = promisedUnits s base -
      (if SaleOrder.oidBase order.oid = base then promised s.packageSkuItems order else 0) +
      if SaleOrder.oidBase order.oid = base then promised s.packageSkuItems order' else 0 :=
  familyUnits_save hmem h.id h.oid base

theorem Sound.saveOrder (hs : Sound s) (hmem : order ∈ s.orders) (h : SameUnits order order')
    (hwaiting : order'.status = .waitSellerSendGoods → order.status = .waitSellerSendGoods)
    (hkeeps : isRefunded order = true → isRefunded order' = true)
    (hrefunded : isRefunded order' = true → ∃ refund ∈ s.refunds, refund.orderId = order.id ∧
      refund.tradeId = order.saleTradeId ∧ refund.status = .refundSuccess) :
    Sound { s with orders := s.orders.save order' } := by
  have hrows : ∀ row ∈ s.orders.save order', row = order' ∨ row ∈ s.orders := by
    intro row hrow
    exact (Table.mem_save hrow).imp_right And.left
  have hold : ∀ row ∈ s.orders, ∃ row' ∈ s.orders.save order', row'.id = row.id ∧
      row'.saleTradeId = row.saleTradeId := by
    intro row hrow
    by_cases hid : row.id = order.id
    · have hrowEq : row = order := Table.pk_inj hrow hmem hid
      refine ⟨order', ?_, h.id.trans hid.symm, by rw [hrowEq]; exact h.trade⟩
      have hpk : Row.pk order = Row.pk order' := h.id.symm
      refine Table.mem_update.2 (Or.inl ⟨order, hmem, decide_eq_true hpk, ?_⟩)
      rw [hpk]
      exact (Row.withPk_pk order').symm
    · refine ⟨row, Table.mem_update.2 (Or.inr ⟨hrow, ?_⟩), rfl, rfl⟩
      have hpk : Row.pk row ≠ Row.pk order' := fun heq => hid (heq.trans h.id)
      exact decide_eq_false hpk
  have hless : promised s.packageSkuItems order' ≤ promised s.packageSkuItems order := by
    by_cases hafter : isRefunded order' = true
    · have hzero : promised s.packageSkuItems order' = 0 := if_pos hafter
      rw [hzero]
      exact promised_nonneg hs.itemNum (hs.orderNum order hmem)
    · have hbefore : isRefunded order' = isRefunded order := by
        rw [Bool.eq_iff_iff]
        exact ⟨fun hr => absurd hr hafter, hkeeps⟩
      exact le_of_eq (promised_same h hbefore)
  constructor
  · intro row hrow
    rcases hrows row hrow with rfl | hrow
    · rw [h.num]
      exact hs.orderNum order hmem
    · exact hs.orderNum row hrow
  · exact hs.itemNum
  · intro item hitem
    obtain ⟨row, hrow, hid⟩ := hs.itemOrder item hitem
    obtain ⟨row', hrow', hid', -⟩ := hold row hrow
    exact ⟨row', hrow', hid'.trans hid⟩
  · intro row hrow hstatus hnot
    rcases hrows row hrow with rfl | hrow
    · have hbefore : isRefunded order = false := by
        by_contra hr
        rw [hkeeps (by simpa using hr)] at hnot
        cases hnot
      have hpromised := hs.waiting order hmem (hwaiting hstatus) hbefore
      rw [h.num, ← hpromised]
      exact promised_same h (hnot.trans hbefore.symm)
    · exact hs.waiting row hrow hstatus hnot
  · intro row hrow hr
    rcases hrows row hrow with rfl | hrow
    · obtain ⟨refund, hmemRefund, horder, htrade, hstatus⟩ := hrefunded hr
      exact ⟨refund, hmemRefund, horder.trans h.id.symm, htrade.trans h.trade.symm, hstatus⟩
    · exact hs.refunded row hrow hr
  · intro refund hmemRefund
    obtain ⟨row, hrow, hid, htrade⟩ := hs.linked refund hmemRefund
    obtain ⟨row', hrow', hid', htrade'⟩ := hold row hrow
    exact ⟨row', hrow', hid'.trans hid, htrade'.trans htrade⟩
  · exact hs.unique
  · intro root hroot hplain
    have hold : ∃ root' ∈ s.orders, root'.oid = root.oid ∧ root'.num = root.num := by
      rcases hrows root hroot with rfl | hroot
      · exact ⟨order, hmem, h.oid.symm, h.num.symm⟩
      · exact ⟨root, hroot, rfl, rfl⟩
    obtain ⟨root', hroot', hoid, hnum⟩ := hold
    have hfits := hs.fits root' hroot' (by rw [hoid]; exact hplain)
    rw [hoid, hnum] at hfits
    rw [promisedUnits_save hmem h]
    split <;> omega

theorem Sound.insertItem (hs : Sound s) (h : order ∈ s.orders)
    (hnone : hasItem s.packageSkuItems order.id = false)
    (hid : item.saleOrderId = order.id) (hnum : item.num = order.num)
    (hlive : item.assignStatus ≠ .canceled) :
    Sound { s with packageSkuItems := s.packageSkuItems.insert item } := by
  have hpromised : ∀ row ∈ s.orders,
      promised (s.packageSkuItems.insert item) row = promised s.packageSkuItems row := by
    intro row hrow
    refine promised_insert hlive fun hrowId => ?_
    have heq : row = order := Table.pk_inj hrow h (hrowId.symm.trans hid)
    rw [heq]
    exact ⟨hnone, hnum⟩
  have hrows : ∀ row ∈ s.packageSkuItems.insert item, row ∈ s.packageSkuItems ∨
      (row.saleOrderId = order.id ∧ row.num = order.num) := by
    intro row hrow
    rcases Table.mem_insert.1 hrow with hold | rfl
    · exact Or.inl hold
    · exact Or.inr ⟨hid, hnum⟩
  refine ⟨hs.orderNum, ?_, ?_, ?_, hs.refunded, hs.linked, hs.unique, ?_⟩
  · intro row hrow
    rcases hrows row hrow with hold | ⟨-, hrowNum⟩
    · exact hs.itemNum row hold
    · rw [hrowNum]
      exact hs.orderNum order h
  · intro row hrow
    rcases hrows row hrow with hold | ⟨hrowId, -⟩
    · exact hs.itemOrder row hold
    · exact ⟨order, h, hrowId.symm⟩
  · intro row hrow hstatus hnot
    change promised (s.packageSkuItems.insert item) row = _
    rw [hpromised row hrow]
    exact hs.waiting row hrow hstatus hnot
  · intro root hroot hplain
    refine le_trans (le_of_eq ?_) (hs.fits root hroot hplain)
    exact familyUnits_congr hpromised _

theorem Sound.saveItem (hs : Sound s) (h : item ∈ s.packageSkuItems) {item' : PackageSkuItem}
    (hnum : item'.num = item.num) (horder : item'.saleOrderId = item.saleOrderId)
    (hwaiting : ∀ row ∈ s.orders, row.status = .waitSellerSendGoods →
      promised (s.packageSkuItems.save item') row = promised s.packageSkuItems row)
    (hle : ∀ row ∈ s.orders,
      promised (s.packageSkuItems.save item') row ≤ promised s.packageSkuItems row) :
    Sound { s with packageSkuItems := s.packageSkuItems.save item' } := by
  have hrows : ∀ row ∈ s.packageSkuItems.save item',
      ∃ old ∈ s.packageSkuItems, row.num = old.num ∧ row.saleOrderId = old.saleOrderId := by
    intro row hrow
    rcases Table.mem_save hrow with rfl | ⟨hold, -⟩
    · exact ⟨item, h, hnum, horder⟩
    · exact ⟨row, hold, rfl, rfl⟩
  refine ⟨hs.orderNum, ?_, ?_, ?_, hs.refunded, hs.linked, hs.unique, ?_⟩
  · intro row hrow
    obtain ⟨old, hold, hnum, -⟩ := hrows row hrow
    rw [hnum]
    exact hs.itemNum old hold
  · intro row hrow
    obtain ⟨old, hold, -, hid⟩ := hrows row hrow
    rw [hid]
    exact hs.itemOrder old hold
  · intro row hrow hstatus hnot
    exact (hwaiting row hrow hstatus).trans (hs.waiting row hrow hstatus hnot)
  · intro root hroot hplain
    exact le_trans (familyUnits_mono hle _) (hs.fits root hroot hplain)

theorem Sound.cancelItem (hs : Sound s)
    (h : item ∈ s.packageSkuItems) (hlive : item.assignStatus ≠ .canceled)
    (hdone : ∀ row ∈ s.orders, row.id = item.saleOrderId → row.status ≠ .waitSellerSendGoods) :
    Sound { s with packageSkuItems := s.packageSkuItems.save item.toCancel } := by
  refine hs.saveItem h rfl rfl (fun row hrow hstatus => ?_) fun row _ => ?_
  · rw [promised_cancel h hlive, if_neg fun hid => hdone row hrow hid hstatus, sub_zero]
  · rw [promised_cancel h hlive]
    have hnum := hs.itemNum item h
    split
    · split <;> omega
    · omega

def Room (s : OrderDb) (oid : String) (units : Int) : Prop :=
  ∀ root ∈ s.orders, root.oid = SaleOrder.oidBase oid →
    promisedUnits s (SaleOrder.oidBase oid) + units ≤ root.num

theorem Sound.insertOrder (hs : Sound s)
    (hdash : '-' ∈ order.oid.toList) (hnum : 0 ≤ order.num) (hnot : isRefunded order = false)
    (hroom : Room s order.oid order.num) :
    Sound { s with orders := s.orders.insert order } := by
  have hnone : hasItem s.packageSkuItems (s.orders.stored order).id = false := by
    by_contra hhas
    have hsome : hasItem s.packageSkuItems (s.orders.stored order).id = true := by simpa using hhas
    obtain ⟨item, hfirst⟩ := Option.isSome_iff_exists.1 hsome
    have hspec := Table.first_spec hfirst
    have hid : item.saleOrderId = (s.orders.stored order).id := of_decide_eq_true hspec
    obtain ⟨row, hrow, hrowId⟩ := hs.itemOrder item (Table.mem_of_first hfirst)
    have hlt := Table.pk_lt_nextId hrow
    have hnext : row.id = s.orders.nextId := hrowId.trans hid
    exact absurd hnext (Nat.ne_of_lt hlt)
  have hpromised : promised s.packageSkuItems (s.orders.stored order) = order.num := by
    unfold promised
    have hstored : isRefunded (s.orders.stored order) = false := hnot
    rw [hstored, hnone]
    rfl
  refine ⟨?_, hs.itemNum, ?_, ?_, ?_, ?_, hs.unique, ?_⟩
  · intro row hrow
    rcases Table.mem_insert.1 hrow with hold | rfl
    · exact hs.orderNum row hold
    · exact hnum
  · intro item hitem
    obtain ⟨row, hrow, hid⟩ := hs.itemOrder item hitem
    exact ⟨row, Table.mem_insert.2 (Or.inl hrow), hid⟩
  · intro row hrow hstatus hrowNot
    rcases Table.mem_insert.1 hrow with hold | rfl
    · exact hs.waiting row hold hstatus hrowNot
    · exact hpromised
  · intro row hrow hrefunded
    rcases Table.mem_insert.1 hrow with hold | rfl
    · exact hs.refunded row hold hrefunded
    · have hstored : isRefunded (s.orders.stored order) = false := hnot
      rw [hstored] at hrefunded
      cases hrefunded
  · intro refund hrefund
    obtain ⟨row, hrow, hid, htrade⟩ := hs.linked refund hrefund
    exact ⟨row, Table.mem_insert.2 (Or.inl hrow), hid, htrade⟩
  · intro root hroot hplain
    have hold : root ∈ s.orders := by
      rcases Table.mem_insert.1 hroot with hold | rfl
      · exact hold
      · exact absurd hdash hplain
    change familyUnits (promised s.packageSkuItems) (s.orders.insert order) root.oid ≤ _
    rw [familyUnits_insert]
    by_cases hbase : SaleOrder.oidBase order.oid = root.oid
    · rw [if_pos hbase, hpromised]
      have hfits := hroom root hold hbase.symm
      rw [hbase] at hfits
      exact hfits
    · rw [if_neg hbase, add_zero]
      exact hs.fits root hold hplain

theorem Sound.saveRefund (hs : Sound s) {refund refund' : SaleRefund}
    (h : refund ∈ s.refunds) (hid : refund'.id = refund.id)
    (horder : refund'.orderId = refund.orderId) (htrade : refund'.tradeId = refund.tradeId)
    (hstatus : refund'.status = .refundSuccess) :
    Sound { s with refunds := s.refunds.save refund' } := by
  have hrows : ∀ row ∈ s.refunds.save refund', ∃ old ∈ s.refunds,
      row.orderId = old.orderId ∧ row.tradeId = old.tradeId ∧ (row = refund' ∧ old = refund ∨
        row = old) := by
    intro row hrow
    rcases Table.mem_save hrow with rfl | ⟨hold, -⟩
    · exact ⟨refund, h, horder, htrade, Or.inl ⟨rfl, rfl⟩⟩
    · exact ⟨row, hold, rfl, rfl, Or.inr rfl⟩
  have hnew : refund' ∈ s.refunds.save refund' := by
    have hpk : Row.pk refund = Row.pk refund' := hid.symm
    refine Table.mem_update.2 (Or.inl ⟨refund, h, decide_eq_true hpk, ?_⟩)
    rw [hpk]
    exact (Row.withPk_pk refund').symm
  refine ⟨hs.orderNum, hs.itemNum, hs.itemOrder, hs.waiting, ?_, ?_, ?_, hs.fits⟩
  · intro order hmem hrefunded
    obtain ⟨old, hold, holdOrder, holdTrade, holdStatus⟩ := hs.refunded order hmem hrefunded
    by_cases hpk : old.id = refund.id
    · have heq : old = refund := Table.pk_inj hold h hpk
      subst heq
      exact ⟨refund', hnew, horder.trans holdOrder, htrade.trans holdTrade, hstatus⟩
    · have hne : Row.pk old ≠ Row.pk refund' := fun heq => hpk (heq.trans hid)
      exact ⟨old, Table.mem_update.2 (Or.inr ⟨hold, decide_eq_false hne⟩), holdOrder, holdTrade,
        holdStatus⟩
  · intro row hrow
    obtain ⟨old, hold, hrowOrder, hrowTrade, -⟩ := hrows row hrow
    rw [hrowOrder, hrowTrade]
    exact hs.linked old hold
  · intro row hrow row' hrow' hsameOrder hsameTrade
    obtain ⟨old, hold, ho, ht, hcase⟩ := hrows row hrow
    obtain ⟨old', hold', ho', ht', hcase'⟩ := hrows row' hrow'
    have heq : old = old' := hs.unique old hold old' hold'
      (by rw [← ho, ← ho', hsameOrder]) (by rw [← ht, ← ht', hsameTrade])
    rcases hcase with ⟨rfl, rfl⟩ | rfl <;> rcases hcase' with ⟨rfl, rfl⟩ | rfl
    · rfl
    · exact (Table.pk_inj hnew hrow' (hid.trans (congrArg SaleRefund.id heq)))
    · exact (Table.pk_inj hrow hnew ((congrArg SaleRefund.id heq).trans hid.symm))
    · exact heq

theorem setStatus_goods (status : TradeStatus) (id : Nat) :
    Keeps SameGoods (SaleTrade.setStatus status id) :=
  Keeps.modify fun _ => ⟨rfl, rfl, rfl⟩

theorem setStatusIf_goods (p : Prop) [Decidable p] (status : TradeStatus) (id : Nat) :
    Keeps SameGoods (SaleTrade.setStatusIf p status id) := by
  unfold SaleTrade.setStatusIf
  exact Keeps.ite _ (setStatus_goods status id) (Keeps.pure SameGoods.refl _)

theorem tasksUpdate_goods (id : Nat) : Keeps SameGoods (SaleTrade.tasksUpdateSaleTradeStatus id) := by
  refine Keeps.bind SameGoods.trans (Keeps.gets SameGoods.refl _) fun orders => ?_
  split
  · exact setStatus_goods _ _
  · exact Keeps.pure SameGoods.refl _

theorem updateOnCommit_goods (id : Nat) : Keeps SameGoods (SaleTrade.updateOnCommit id) := by
  refine Keeps.bind SameGoods.trans (Keeps.gets SameGoods.refl _) fun inBlock => ?_
  exact Keeps.ite _ (Keeps.modify fun _ => ⟨rfl, rfl, rfl⟩) (tasksUpdate_goods id)

theorem updateSaletradeStatus_goods (order : SaleOrder) :
    Keeps SameGoods order.updateSaletradeStatus := by
  unfold SaleOrder.updateSaletradeStatus
  exact Keeps.ite _ (Keeps.pure SameGoods.refl _) (updateOnCommit_goods _)

theorem commit_goods : Keeps SameGoods SaleTrade.commit := by
  refine Keeps.bind SameGoods.trans (Keeps.gets SameGoods.refl _) fun due => ?_
  refine Keeps.bind SameGoods.trans (Keeps.modify fun _ => ⟨rfl, rfl, rfl⟩) fun _ => ?_
  exact Keeps.forEach SameGoods.refl SameGoods.trans tasksUpdate_goods _

theorem syncTrade_goods (refund : SaleRefund) (trade : Nat) :
    Keeps SameGoods (refund.syncTrade trade) := by
  refine Keeps.bind SameGoods.trans (Keeps.gets SameGoods.refl _) fun orders => ?_
  split
  · exact setStatusIf_goods _ _ _
  · exact setStatusIf_goods _ _ _
  · exact Keeps.pure SameGoods.refl _

theorem closeTrade_goods (trade : Nat) : Keeps SameGoods (SaleRefund.closeTrade trade) := by
  refine Keeps.bind SameGoods.trans (Keeps.gets SameGoods.refl _) fun orders => ?_
  exact setStatusIf_goods _ _ _

/-! ## Programs -/

theorem save_goods (order : SaleOrder) (s : OrderDb) :
    SameGoods { s with orders := s.orders.save order } (order.save.run s).2 := by
  rw [save_run_order]
  exact updateSaletradeStatus_goods order _

theorem setPsiPaid_cases (around : Surroundings) (order : SaleOrder) (s : OrderDb) :
    ((order.setPsiPaid around).run s).2 = s ∨
      hasItem s.packageSkuItems order.id = false ∧ ∃ item : PackageSkuItem,
        item.saleOrderId = order.id ∧ item.num = order.num ∧ item.assignStatus ≠ .canceled ∧
        ((order.setPsiPaid around).run s).2 =
          { s with packageSkuItems := s.packageSkuItems.insert item } := by
  unfold SaleOrder.setPsiPaid SaleTrade.get
  rw [getOr_bind_run]
  cases s.trades.get? order.saleTradeId with
  | none => exact Or.inl rfl
  | some trade =>
    dsimp only
    split
    · exact Or.inl rfl
    · have hsend : ∀ canSend : Bool, (gets (fun s => order.packageSku s) >>= fun item =>
          if canSend = true ∧ item.isNone = true then PackageSkuItem.create around order
          else pure ()).run s =
          (if canSend = true ∧ (order.packageSku s).isNone = true then
            PackageSkuItem.create around order else pure ()).run s := fun _ => rfl
      cases hcan : (order.teambuyCanSend around trade).run s with
      | mk result s' =>
        have hs' : s' = s := by
          unfold SaleOrder.teambuyCanSend at hcan
          split at hcan
          · cases hteam : around.teambuyCanSend (SaleOrder.oidBase order.oid) <;>
              rw [hteam] at hcan <;> cases hcan <;> rfl
          · cases hcan
            rfl
        subst hs'
        cases result with
        | error e =>
          rw [bind_error hcan]
          exact Or.inl rfl
        | ok canSend =>
          rw [bind_ok hcan, hsend]
          split
          · rename_i hboth
            have hnone : hasItem s'.packageSkuItems order.id = false := by
              have h := hboth.2
              unfold SaleOrder.packageSku at h
              unfold hasItem
              rw [← Option.not_isSome] at h
              simpa using h
            unfold PackageSkuItem.create
            rw [raiseIf_bind_run]
            split
            · exact Or.inl rfl
            · refine Or.inr ⟨hnone, _, rfl, rfl, ?_, rfl⟩
              dsimp only
              split <;> exact AssignStatus.noConfusion
          · exact Or.inl rfl

theorem Sound.setPsiPaid (hs : Sound s) (around : Surroundings)
    (h : order ∈ s.orders) : Sound ((order.setPsiPaid around).run s).2 := by
  rcases setPsiPaid_cases around order s with hsame | ⟨hnone, item, hid, hnum, hlive, hrun⟩
  · rw [hsame]
    exact hs
  · rw [hrun]
    exact hs.insertItem h hnone hid hnum hlive

theorem Sound.placeOrder (hs : Sound s) (around : Surroundings)
    (hdash : '-' ∈ order.oid.toList) (hnum : 0 ≤ order.num) (hnot : isRefunded order = false)
    (hroom : (∀ row ∈ s.orders, row.oid ≠ order.oid) → Room s order.oid order.num) :
    Sound ((SaleTrade.placeOrder around order).run s).2 := by
  rw [placeOrder_run]
  by_cases htaken : (s.orders.first fun row => row.oid = order.oid).isSome = true
  · rw [if_pos htaken]
    exact hs
  · rw [if_neg htaken]
    have hfree : ∀ row ∈ s.orders, row.oid ≠ order.oid := by
      have hnone : s.orders.first (fun row => row.oid = order.oid) = none := by
        simpa using htaken
      exact fun row hrow => of_decide_eq_false (Table.first_eq_none.1 hnone row hrow)
    have hinsert := hs.insertOrder hdash hnum hnot (hroom hfree)
    have hgoods := updateSaletradeStatus_goods (s.orders.stored order)
      { s with orders := s.orders.insert order }
    have hmem : s.orders.stored order ∈ ((s.orders.stored order).updateSaletradeStatus.run
        { s with orders := s.orders.insert order }).2.orders := by
      rw [hgoods.orders]
      exact Table.mem_insert.2 (Or.inr rfl)
    exact (hgoods.sound hinsert).setPsiPaid around hmem

theorem Sound.setPsiCancel (hs : Sound s) (around : Surroundings)
    (hdone : ∀ row ∈ s.orders, row.id = order.id → row.status ≠ .waitSellerSendGoods) :
    Sound ((order.setPsiCancel around).run s).2 := by
  unfold SaleOrder.setPsiCancel
  rw [gets_bind_run]
  cases hitem : order.packageSku s with
  | none => exact hs
  | some item =>
    have hspec := Table.first_spec hitem
    have hid : item.saleOrderId = order.id := of_decide_eq_true hspec
    dsimp only
    unfold PackageSkuItem.setStatusCancel
    rw [raiseIf_bind_run]
    split
    · exact hs
    · rename_i hlive
      rw [raiseIf_bind_run]
      split
      · exact hs
      · rw [ofExcept_bind_run]
        cases around.arrangementCancelled with
        | error e => exact hs
        | ok u =>
          exact hs.cancelItem (Table.mem_of_first hitem) hlive fun row hrow hrowId =>
            hdone row hrow (hrowId.trans hid)

theorem setPsiCancel_cases (around : Surroundings) (order : SaleOrder) (s : OrderDb) :
    (∃ e, (order.setPsiCancel around).run s = (.error e, s)) ∨
      (order.packageSku s = none ∧ (order.setPsiCancel around).run s = (.ok (), s)) ∨
      ∃ item, order.packageSku s = some item ∧ item.assignStatus ≠ .canceled ∧
        item.assignStatus ≠ .finished ∧ around.arrangementCancelled = .ok () ∧
        (order.setPsiCancel around).run s =
          (.ok (), { s with packageSkuItems := s.packageSkuItems.save item.toCancel }) := by
  unfold SaleOrder.setPsiCancel
  rw [gets_bind_run]
  cases hitem : order.packageSku s with
  | none => exact Or.inr (Or.inl ⟨rfl, rfl⟩)
  | some item =>
    dsimp only
    unfold PackageSkuItem.setStatusCancel
    rw [raiseIf_bind_run]
    split
    · exact Or.inl ⟨_, rfl⟩
    · rename_i hlive
      rw [raiseIf_bind_run]
      split
      · exact Or.inl ⟨_, rfl⟩
      · rename_i hsent
        rw [ofExcept_bind_run]
        cases around.arrangementCancelled with
        | error e => exact Or.inl ⟨e, rfl⟩
        | ok u => exact Or.inr (Or.inr ⟨item, rfl, hlive, hsent, rfl, rfl⟩)

theorem promisedUnits_cancel (h : order ∈ s.orders) (hnot : isRefunded order = false)
    (hitem : order.packageSku s = some item) (hlive : item.assignStatus ≠ .canceled)
    (base : String) :
    promisedUnits { s with packageSkuItems := s.packageSkuItems.save item.toCancel } base =
      promisedUnits s base - if SaleOrder.oidBase order.oid = base then item.num else 0 := by
  have hspec := Table.first_spec hitem
  have hid : item.saleOrderId = order.id := of_decide_eq_true hspec
  refine familyUnits_less h base fun row hrow => ?_
  change promised (s.packageSkuItems.save item.toCancel) row = _
  rw [promised_cancel (Table.mem_of_first hitem) hlive, hid]
  by_cases hrowId : row.id = order.id
  · have heq : row = order := Table.pk_inj hrow h hrowId
    rw [if_pos hrowId, if_pos hrowId, heq, hnot]
    rfl
  · rw [if_neg hrowId, if_neg hrowId]

theorem length_saleOrders (s : OrderDb) (trade : Nat) : (s.saleOrders trade).length =
    (s.orders.rows.map SaleOrder.saleTradeId).countP (· = trade) := by
  rw [List.countP_map, List.countP_eq_length_filter]
  rfl

theorem redeliveryCount_eq (s : OrderDb) (old : SaleOrder) : SaleTrade.redeliveryCount s old =
    if '-' ∈ old.oid.toList then
      (s.orders.rows.map fun row => (row.saleTradeId, row.oid)).countP fun key =>
        key.1 = old.saleTradeId && old.oid.toList.isPrefixOf key.2.toList
    else 1 := by
  unfold SaleTrade.redeliveryCount
  rw [List.countP_map, List.countP_eq_length_filter]
  unfold OrderDb.saleOrders Table.filter
  rw [List.filter_filter]
  refine if_congr Iff.rfl (congrArg List.length (List.filter_congr fun row _ => ?_)) rfl
  simp [Bool.and_comm]

structure SameKeys (s s' : OrderDb) : Prop where
  trades : s'.orders.rows.map SaleOrder.saleTradeId = s.orders.rows.map SaleOrder.saleTradeId
  keys : (s'.orders.rows.map fun row => (row.saleTradeId, row.oid)) =
    s.orders.rows.map fun row => (row.saleTradeId, row.oid)
  oids : ∀ row' ∈ s'.orders, ∃ row ∈ s.orders, row.oid = row'.oid ∧ row.num = row'.num
  oidsBack : ∀ row ∈ s.orders, ∃ row' ∈ s'.orders, row'.oid = row.oid

theorem sameKeys_save (hmem : order ∈ s.orders)
    (h : SameUnits order order') : SameKeys s { s with orders := s.orders.save order' } := by
  have hrow : ∀ row ∈ s.orders, decide (Row.pk row = Row.pk order') = true → row = order := by
    intro row hrow hpk
    exact Table.pk_inj hrow hmem ((of_decide_eq_true hpk).trans h.id)
  refine ⟨?_, ?_, ?_, ?_⟩
  · refine Table.map_rows_update fun row hmemRow hpk => ?_
    rw [hrow row hmemRow hpk]
    exact h.trade
  · refine Table.map_rows_update fun row hmemRow hpk => ?_
    rw [hrow row hmemRow hpk]
    exact Prod.ext h.trade h.oid
  · intro row' hrow'
    rcases Table.mem_save hrow' with rfl | ⟨hold, -⟩
    · exact ⟨order, hmem, h.oid.symm, h.num.symm⟩
    · exact ⟨row', hold, rfl, rfl⟩
  · intro row hmemRow
    by_cases hpk : Row.pk row = Row.pk order'
    · have heq : row = order := hrow row hmemRow (decide_eq_true hpk)
      refine ⟨_, Table.mem_update.2 (Or.inl ⟨row, hmemRow, decide_eq_true hpk, rfl⟩), ?_⟩
      rw [heq]
      exact h.oid
    · exact ⟨row, Table.mem_update.2 (Or.inr ⟨hmemRow, decide_eq_false hpk⟩), rfl⟩

theorem SameGoods.sameKeys (h : SameGoods s s') : SameKeys s s' := by
  refine ⟨by rw [h.orders], by rw [h.orders], ?_, ?_⟩
  · rw [h.orders]
    exact fun row hrow => ⟨row, hrow, rfl, rfl⟩
  · rw [h.orders]
    exact fun row hrow => ⟨row, hrow, rfl⟩

theorem SameKeys.trans {s'' : OrderDb} (h : SameKeys s s') (h' : SameKeys s' s'') :
    SameKeys s s'' := by
  refine ⟨h'.trades.trans h.trades, h'.keys.trans h.keys, ?_, ?_⟩
  · intro row'' hrow''
    obtain ⟨row', hrow', hoid', hnum'⟩ := h'.oids row'' hrow''
    obtain ⟨row, hrow, hoid, hnum⟩ := h.oids row' hrow'
    exact ⟨row, hrow, hoid.trans hoid', hnum.trans hnum'⟩
  · intro row hrow
    obtain ⟨row', hrow', hoid'⟩ := h.oidsBack row hrow
    obtain ⟨row'', hrow'', hoid''⟩ := h'.oidsBack row' hrow'
    exact ⟨row'', hrow'', hoid''.trans hoid'⟩

theorem SameKeys.length_saleOrders (h : SameKeys s s') (trade : Nat) :
    (s'.saleOrders trade).length = (s.saleOrders trade).length := by
  rw [Order.length_saleOrders, Order.length_saleOrders, h.trades]

theorem SameKeys.redeliveryCount (h : SameKeys s s') (old : SaleOrder) :
    SaleTrade.redeliveryCount s' old = SaleTrade.redeliveryCount s old := by
  rw [redeliveryCount_eq, redeliveryCount_eq, h.keys]

def FreeOid (s : OrderDb) (oid : String) : Prop := ∀ row ∈ s.orders, row.oid ≠ oid

theorem SameKeys.freeOid (h : SameKeys s s') {oid : String}
    (hfree : FreeOid s' oid) : FreeOid s oid := by
  rintro row hrow rfl
  obtain ⟨row', hrow', hoid⟩ := h.oidsBack row hrow
  exact hfree row' hrow' hoid

theorem Room.moved {oid : String} {units units' : Int} (h : Room s oid units)
    (hkeys : SameKeys s s') (hle : promisedUnits s' (SaleOrder.oidBase oid) + units' ≤
      promisedUnits s (SaleOrder.oidBase oid) + units) : Room s' oid units' := by
  intro root' hroot' hoid'
  obtain ⟨root, hroot, hoid, hnum⟩ := hkeys.oids root' hroot'
  have hroom := h root hroot (hoid.trans hoid')
  rw [← hnum]
  omega

variable {old : SaleOrder}

theorem Room.numbered {units : Int} (h : Room s old.oid units)
    (cnt : Nat) : Room s (old.numbered cnt) units := by
  intro root hroot hoid
  rw [oidBase_numbered] at hoid ⊢
  exact h root hroot hoid

theorem sound_closedBySys (hs : Sound s) (h : old ∈ s.orders) :
    Sound ((SaleTrade.closedBySys old).save.run s).2 := by
  have hput : Sound { s with orders := s.orders.save (SaleTrade.closedBySys old) } :=
    hs.saveOrder h ⟨rfl, rfl, rfl, rfl⟩ (fun hstatus => by cases hstatus) id (hs.refunded old h)
  exact (save_goods _ s).sound hput

theorem closedBySys_keys (h : old ∈ s.orders) :
    SameKeys s ((SaleTrade.closedBySys old).save.run s).2 := by
  have hput : SameKeys s { s with orders := s.orders.save (SaleTrade.closedBySys old) } :=
    sameKeys_save h ⟨rfl, rfl, rfl, rfl⟩
  exact hput.trans (save_goods _ s).sameKeys

theorem closedBySys_promised (h : old ∈ s.orders) (base : String) :
    promisedUnits ((SaleTrade.closedBySys old).save.run s).2 base = promisedUnits s base := by
  have hsame : SameUnits old (SaleTrade.closedBySys old) := ⟨rfl, rfl, rfl, rfl⟩
  rw [(save_goods _ s).promisedUnits, promisedUnits_save h hsame,
    promised_same hsame rfl, sub_add_cancel]

theorem mem_closedBySys (h : old ∈ s.orders) (row : SaleOrder) :
    row ∈ ((SaleTrade.closedBySys old).save.run s).2.orders ↔
      row = SaleTrade.closedBySys old ∨ row ∈ s.orders ∧ row.id ≠ old.id := by
  have hreplaced : Replaced old (SaleTrade.closedBySys old) s
      ((SaleTrade.closedBySys old).save.run s).2 := replaced_run_save h rfl rfl
  exact hreplaced.mem row

def replacedUnits (s : OrderDb) (old : SaleOrder) : Int :=
  ((old.packageSku s).map PackageSkuItem.num).getD 0

/-- A change that goes through asks for no more units than the family has room for
without the item it replaces. -/
def ChangeFits (around : Surroundings) (skuId : Nat) (num : Int) (old : SaleOrder)
    (s : OrderDb) : Prop :=
  old.canChangeSku = true → around.productSku skuId = true →
    (∀ item, old.packageSku s = some item → item.assignStatus ≠ .canceled ∧
      item.assignStatus ≠ .finished ∧ around.arrangementCancelled = .ok ()) →
    FreeOid s (old.numbered (s.saleOrders old.saleTradeId).length) →
    0 ≤ num ∧ Room s old.oid (num - replacedUnits s old)

theorem Sound.placeInPlaceOf (hs : Sound s) (around : Surroundings)
    (old : SaleOrder) (cnt skuId : Nat) (num : Int)
    (hroom : FreeOid s (old.numbered cnt) → 0 ≤ num ∧ Room s old.oid num) :
    Sound ((SaleTrade.placeOrder around
      (old.inPlaceOf (old.numbered cnt) skuId num)).run s).2 := by
  by_cases hfree : FreeOid s (old.numbered cnt)
  · obtain ⟨hnum, hfits⟩ := hroom hfree
    exact hs.placeOrder around (dash_mem_numbered old cnt) hnum rfl fun _ => hfits.numbered cnt
  · have htaken : (s.orders.first fun row => row.oid = old.numbered cnt).isSome = true := by
      by_contra hnone
      have hfirst : s.orders.first (fun row => row.oid = old.numbered cnt) = none := by
        simpa using hnone
      exact hfree fun row hrow => of_decide_eq_false (Table.first_eq_none.1 hfirst row hrow)
    have hrun : (old.inPlaceOf (old.numbered cnt) skuId num).insert.run s =
        (.error .integrityError, s) := by
      rw [insert_run]
      exact if_pos htaken
    unfold SaleTrade.placeOrder
    rw [bind_error hrun]
    exact hs

theorem Sound.changeSkuItem (hs : Sound s) {around : Surroundings} {skuId : Nat}
    {num : Int} (h : old ∈ s.orders) (hfits : ChangeFits around skuId num old s) :
    Sound ((SaleTrade.changeSkuItem around skuId num old).run s).2 := by
  unfold SaleTrade.changeSkuItem
  rw [raiseIf_bind_run]
  split
  · exact hs
  rename_i hcan
  rw [raiseIf_bind_run]
  split
  · exact hs
  rename_i hsku
  have hcan : old.canChangeSku = true := by simpa using hcan
  have hsku : around.productSku skuId = true := by simpa using hsku
  have hnot : isRefunded old = false := by
    unfold SaleOrder.canChangeSku at hcan
    unfold isRefunded
    cases hr : old.refundStatus <;> simp_all
  have hclosed := sound_closedBySys hs h
  have hkeys := closedBySys_keys h
  have hunits := closedBySys_promised h
  have hmem := mem_closedBySys h
  have hgoods := save_goods (SaleTrade.closedBySys old) s
  have hsave : (SaleTrade.closedBySys old).save.run s =
      (.ok (), ((SaleTrade.closedBySys old).save.run s).2) := Prod.ext (save_ok _ _) rfl
  rw [bind_ok hsave]
  generalize ((SaleTrade.closedBySys old).save.run s).2 = s₁ at hclosed hkeys hunits hmem hgoods
  have hitems : s₁.packageSkuItems = s.packageSkuItems := hgoods.items
  have hpackage : (SaleTrade.closedBySys old).packageSku s₁ = old.packageSku s := by
    unfold SaleOrder.packageSku
    rw [hitems]
    rfl
  have hold : SaleTrade.closedBySys old ∈ s₁.orders := (hmem _).2 (Or.inl rfl)
  have hdone : ∀ row ∈ s₁.orders, row.id = (SaleTrade.closedBySys old).id →
      row.status ≠ .waitSellerSendGoods := by
    intro row hrow hid
    rcases (hmem row).1 hrow with rfl | ⟨-, hne⟩
    · exact TradeStatus.noConfusion
    · exact absurd hid hne
  have hcancelled := hclosed.setPsiCancel around hdone
  rcases setPsiCancel_cases around (SaleTrade.closedBySys old) s₁ with
    ⟨e, hrun⟩ | ⟨hnone, hrun⟩ | ⟨item, hitem, hlive, hsent, harrangement, hrun⟩
  · rw [bind_error hrun]
    exact hclosed
  · rw [bind_ok hrun, gets_bind_run, hkeys.length_saleOrders]
    rw [hpackage] at hnone
    refine hclosed.placeInPlaceOf around old _ skuId num fun hfree => ?_
    obtain ⟨hnum, hroom⟩ := hfits hcan hsku
      (fun item hitem => by rw [hnone] at hitem; cases hitem) (hkeys.freeOid hfree)
    have hreplaced : replacedUnits s old = 0 := by
      unfold replacedUnits
      rw [hnone]
      rfl
    refine ⟨hnum, hroom.moved hkeys ?_⟩
    rw [hunits, hreplaced]
    omega
  · rw [hrun] at hcancelled
    have hless := promisedUnits_cancel hold hnot hitem hlive (SaleOrder.oidBase old.oid)
    have hbase : SaleOrder.oidBase (SaleTrade.closedBySys old).oid =
        SaleOrder.oidBase old.oid := rfl
    rw [if_pos hbase, hunits] at hless
    have hkeys' : SameKeys s
        { s₁ with packageSkuItems := s₁.packageSkuItems.save item.toCancel } :=
      ⟨hkeys.trades, hkeys.keys, hkeys.oids, hkeys.oidsBack⟩
    rw [bind_ok hrun, gets_bind_run, hkeys'.length_saleOrders]
    rw [hpackage] at hitem
    refine Sound.placeInPlaceOf hcancelled around old _ skuId num fun hfree => ?_
    obtain ⟨hnum, hroom⟩ := hfits hcan hsku
      (fun item' hitem' => by
        rw [hitem] at hitem'
        cases hitem'
        exact ⟨hlive, hsent, harrangement⟩) (hkeys'.freeOid hfree)
    have hreplaced : replacedUnits s old = item.num := by
      unfold replacedUnits
      rw [hitem]
      rfl
    refine ⟨hnum, hroom.moved hkeys' ?_⟩
    rw [hless, hreplaced]
    omega

/-- Another delivery leaves the old item as it is, so the family needs room for all of
its units again. -/
def RedeliveryFits (around : Surroundings) (old : SaleOrder) (s : OrderDb) : Prop :=
  around.productSku old.skuId = true →
    FreeOid s (old.numbered (SaleTrade.redeliveryCount s old)) → Room s old.oid old.num

theorem Sound.redeliverSkuItem (hs : Sound s) {around : Surroundings}
    (h : old ∈ s.orders) (hfits : RedeliveryFits around old s) :
    Sound ((SaleTrade.redeliverSkuItem around old).run s).2 := by
  unfold SaleTrade.redeliverSkuItem
  rw [raiseIf_bind_run]
  split
  · exact hs
  rename_i hsku
  have hsku : around.productSku old.skuId = true := by simpa using hsku
  have hclosed := sound_closedBySys hs h
  have hkeys := closedBySys_keys h
  have hunits := closedBySys_promised h
  have hsave : (SaleTrade.closedBySys old).save.run s =
      (.ok (), ((SaleTrade.closedBySys old).save.run s).2) := Prod.ext (save_ok _ _) rfl
  rw [bind_ok hsave]
  generalize ((SaleTrade.closedBySys old).save.run s).2 = s₁ at hclosed hkeys hunits
  -- the closed order never waits, so its item is never cancelled
  have hskip : (SaleTrade.cancelWaiting around (SaleTrade.closedBySys old)).run s₁ =
      (.ok (), s₁) := rfl
  rw [bind_ok hskip, gets_bind_run, hkeys.redeliveryCount]
  refine hclosed.placeInPlaceOf around old _ old.skuId old.num fun hfree => ?_
  refine ⟨hs.orderNum old h, (hfits hsku (hkeys.freeOid hfree)).moved hkeys ?_⟩
  rw [hunits]

theorem Sound.forEach_setPsiPaid (around : Surroundings) (l : List SaleOrder) :
    ∀ s : OrderDb, Sound s → (∀ order ∈ l, order ∈ s.orders) →
      Sound ((forEach l (SaleOrder.setPsiPaid around)).run s).2 := by
  induction l with
  | nil => exact fun s hs _ => hs
  | cons order l ih =>
    intro s hs hl
    have hpaid := hs.setPsiPaid around (hl order (List.mem_cons_self ..))
    have hquiet := setPsiPaid_quiet around order s
    rw [forEach_cons]
    generalize hrun : (order.setPsiPaid around).run s = r at hpaid hquiet
    obtain ⟨result, s'⟩ := r
    cases result with
    | error e =>
      rw [bind_error hrun]
      exact hpaid
    | ok u =>
      rw [bind_ok hrun]
      refine ih s' hpaid fun row hrow => ?_
      rw [hquiet.orders]
      exact hl row (List.mem_cons_of_mem _ hrow)

theorem Sound.setOrderPaid (hs : Sound s) (around : Surroundings) (trade : Nat) :
    Sound ((SaleTrade.setOrderPaid around trade).run s).2 := by
  unfold SaleTrade.setOrderPaid SaleTrade.get
  rw [getOr_bind_run]
  cases s.trades.get? trade with
  | none => exact hs
  | some row =>
    dsimp only
    rw [gets_bind_run]
    split
    · refine Sound.forEach_setPsiPaid around _ s hs fun order horder => ?_
      exact (List.mem_filter.1 horder).1
    · exact hs

theorem Sound.setStatusSent (hs : Sound s)
    (h : item ∈ s.packageSkuItems) : Sound (item.setStatusSent.run s).2 := by
  unfold PackageSkuItem.setStatusSent
  split
  · rename_i hassigned
    have hlive : item.assignStatus ≠ .canceled := by
      rw [hassigned]
      exact AssignStatus.noConfusion
    have hsent : item.toSent.assignStatus ≠ .canceled := AssignStatus.noConfusion
    have hpromised : ∀ row : SaleOrder, promised (s.packageSkuItems.save item.toSent) row =
        promised s.packageSkuItems row := by
      intro row
      have hunits : itemUnits (s.packageSkuItems.save item.toSent) row.id =
          itemUnits s.packageSkuItems row.id := by
        rw [itemUnits_save item.toSent h rfl]
        simp [hlive, PackageSkuItem.toSent]
      unfold promised
      rw [hasItem_save item.toSent h rfl rfl, hunits]
    exact hs.saveItem h rfl rfl (fun row _ _ => hpromised row) fun row _ => (hpromised row).le
  · exact hs

/-! ## Refunds -/

theorem sync_cases (refund : SaleRefund) (h : order ∈ s.orders) (hid : order.id = refund.orderId) :
    (refund.syncSaleRefundStatus.run s = (.error .doesNotExist, s)) ∨
      ∃ s', SameGoods s s' ∧
        refund.syncSaleRefundStatus.run s = (refund.sync order).save.run s' := by
  have hget : s.orders.get? refund.orderId = some order := Table.get?_eq_some.2 ⟨h, hid⟩
  unfold SaleRefund.syncSaleRefundStatus SaleOrder.get SaleTrade.get
  rw [getOr_bind_run]
  simp only [hget]
  rw [getOr_bind_run]
  cases s.trades.get? refund.tradeId with
  | none => exact Or.inl rfl
  | some trade =>
    have hrun : (refund.syncTrade trade.id).run s =
        (.ok (), ((refund.syncTrade trade.id).run s).2) := Prod.ext (syncTrade_ok _ _ _) rfl
    dsimp only
    rw [bind_ok hrun]
    exact Or.inr ⟨_, syncTrade_goods refund trade.id s, rfl⟩

theorem Sound.insertRefund (hs : Sound s) {refund : SaleRefund}
    (h : order ∈ s.orders) (hid : order.id = refund.orderId)
    (htrade : order.saleTradeId = refund.tradeId)
    (hfree : ∀ row ∈ s.refunds, ¬ (row.tradeId = refund.tradeId ∧ row.orderId = refund.orderId)) :
    Sound { s with refunds := s.refunds.insert refund } := by
  refine ⟨hs.orderNum, hs.itemNum, hs.itemOrder, hs.waiting, ?_, ?_, ?_, hs.fits⟩
  · intro row hrow hrefunded
    obtain ⟨old, hold, hrest⟩ := hs.refunded row hrow hrefunded
    exact ⟨old, Table.mem_insert.2 (Or.inl hold), hrest⟩
  · intro row hrow
    rcases Table.mem_insert.1 hrow with hold | rfl
    · exact hs.linked row hold
    · exact ⟨order, h, hid, htrade⟩
  · intro row hrow row' hrow' horder hsameTrade
    rcases Table.mem_insert.1 hrow with hold | rfl <;>
      rcases Table.mem_insert.1 hrow' with hold' | rfl
    · exact hs.unique row hold row' hold' horder hsameTrade
    · exact absurd ⟨hsameTrade, horder⟩ (hfree row hold)
    · exact absurd ⟨hsameTrade.symm, horder.symm⟩ (hfree row' hold')
    · rfl

theorem Sound.createSalerefund (hs : Sound s)
    (h : order ∈ s.orders) (refundNum : Int) (refundFee : Nat) (goodStatus : GoodStatus) :
    Sound ((SaleRefund.createSalerefund refundNum refundFee goodStatus order).run s).2 := by
  unfold SaleRefund.createSalerefund SaleRefund.insert
  rw [gets_bind_run, raiseIf_bind_run]
  split
  · exact hs
  rename_i htaken
  have hnone := Table.first_eq_none.1 (Option.not_isSome_iff_eq_none.1 htaken)
  have hfree : ∀ row ∈ s.refunds,
      ¬ (row.tradeId = order.saleTradeId ∧ row.orderId = order.id) :=
    fun row hrow => of_decide_eq_false (hnone row hrow)
  have hnot : isRefunded order = false := by
    by_contra hr
    obtain ⟨row, hrow, horder, htrade, -⟩ := hs.refunded order h (by simpa using hr)
    exact hfree row hrow ⟨htrade, horder⟩
  have hinsert : Sound { s with
      refunds := s.refunds.insert (SaleRefund.ofOrder order refundNum refundFee goodStatus) } :=
    hs.insertRefund h rfl rfl hfree
  rw [gets_bind_run, modify_bind_run]
  generalize hstored : s.refunds.stored
    (SaleRefund.ofOrder order refundNum refundFee goodStatus) = stored
  have hid : order.id = stored.orderId := by
    rw [← hstored]
    rfl
  have hstatus : stored.status = .refundWaitSellerAgree := by
    rw [← hstored]
    rfl
  have hcases := sync_cases stored (s := { s with
    refunds := s.refunds.insert (SaleRefund.ofOrder order refundNum refundFee goodStatus) }) h hid
  rcases hcases with hrun | ⟨s', hgoods, hrun⟩
  · rw [hrun]
    exact hinsert
  · have hafter : isRefunded (stored.sync order) = false := by
      unfold isRefunded SaleRefund.sync
      rw [hstatus]
      rfl
    have hmem : order ∈ s'.orders := by
      rw [hgoods.orders]
      exact h
    have hsync : stored.syncStatus order = order.status := by
      unfold SaleRefund.syncStatus
      rw [hstatus]
      split <;> rfl
    rw [hrun]
    refine (save_goods (stored.sync order) s').sound ?_
    refine (hgoods.sound hinsert).saveOrder hmem ⟨rfl, rfl, rfl, rfl⟩ ?_ ?_ ?_
    · intro hwaits
      exact hsync.symm.trans hwaits
    · intro hr
      rw [hnot] at hr
      cases hr
    · intro hr
      rw [hafter] at hr
      cases hr

theorem mem_placeOrder (around : Surroundings) (order : SaleOrder)
    {row : SaleOrder} (h : row ∈ s.orders) :
    row ∈ ((SaleTrade.placeOrder around order).run s).2.orders := by
  rw [placeOrder_run]
  by_cases htaken : (s.orders.first fun row => row.oid = order.oid).isSome = true
  · rw [if_pos htaken]
    exact h
  · rw [if_neg htaken, (setPsiPaid_quiet around _ _).orders]
    exact ((placed_insert order s).mem row).2 (Or.inl h)

theorem closedByRefund_not_waiting (status : TradeStatus) :
    SaleOrder.closedByRefund status ≠ .waitSellerSendGoods := by
  cases status <;> exact TradeStatus.noConfusion

theorem Sound.closeOrder (hs : Sound s) (around : Surroundings)
    (refund : SaleRefund) (h : order ∈ s.orders) :
    Sound ((refund.closeOrder around order).run s).2 := by
  have hnew := closedByRefund_not_waiting order.status
  have hrows : putStatus (SaleOrder.closedByRefund order.status) order s = { s with
      orders := s.orders.save { order with
        status := SaleOrder.closedByRefund order.status } } := by
    have hupdate : (s.orders.update (fun row => decide (row.id = order.id)) fun row =>
        { row with status := SaleOrder.closedByRefund order.status }) =
        s.orders.save { order with status := SaleOrder.closedByRefund order.status } :=
      Table.update_eq_save h fun row => { row with
        status := SaleOrder.closedByRefund order.status }
    unfold putStatus
    rw [hupdate]
  have hput : Sound (putStatus (SaleOrder.closedByRefund order.status) order s) := by
    rw [hrows]
    exact hs.saveOrder h ⟨rfl, rfl, rfl, rfl⟩ (fun hstatus => absurd hstatus hnew) id
      (hs.refunded order h)
  have hgoods : SameGoods (putStatus (SaleOrder.closedByRefund order.status) order s)
      ((order.saveStatus (SaleOrder.closedByRefund order.status)).run s).2 := by
    rw [saveStatus_run]
    exact updateSaletradeStatus_goods _ _
  have hreplaced := replaced_saveStatus h (SaleOrder.closedByRefund order.status)
  have hsave : (order.saveStatus (SaleOrder.closedByRefund order.status)).run s =
      (.ok (), ((order.saveStatus (SaleOrder.closedByRefund order.status)).run s).2) :=
    Prod.ext (saveStatus_ok _ _ _) rfl
  unfold SaleRefund.closeOrder
  rw [bind_ok hsave]
  have hsound := hgoods.sound hput
  generalize ((order.saveStatus (SaleOrder.closedByRefund order.status)).run s).2 = s₁
    at hsound hreplaced
  have hclose : (SaleRefund.closeTrade order.saleTradeId).run s₁ =
      (.ok (), ((SaleRefund.closeTrade order.saleTradeId).run s₁).2) :=
    Prod.ext (setStatusIf_ok _ _ _ _) rfl
  have hclosed := closeTrade_goods order.saleTradeId s₁
  rw [bind_ok hclose, ofExcept_bind_run]
  cases around.afterwards with
  | error e => exact hclosed.sound hsound
  | ok u =>
    dsimp only
    unfold SaleRefund.cancelItem
    split
    · refine (hclosed.sound hsound).setPsiCancel around fun row hrow hid => ?_
      rw [hclosed.orders] at hrow
      rcases (hreplaced.mem row).1 hrow with rfl | ⟨-, hne⟩
      · exact hnew
      · exact absurd hid hne
    · exact hclosed.sound hsound

/-- A refund that sends the rest of an order again asks back no more than the family has
room for: any number of units that is not negative. -/
def ConfirmFits (refund : SaleRefund) (s : OrderDb) : Prop :=
  refund.status ≠ .refundSuccess → ∀ order ∈ s.orders, order.id = refund.orderId →
    Reissues refund order → FreeOid s (order.numbered (s.saleOrders order.saleTradeId).length) →
      Room s order.oid (-refund.refundNum)

theorem Sound.reissueRest (hs : Sound s) (around : Surroundings)
    (refund : SaleRefund) (h : order ∈ s.orders) (hroom : Reissues refund order →
      FreeOid s (order.numbered (s.saleOrders order.saleTradeId).length) →
        Room s order.oid (order.num - refund.refundNum)) :
    Sound ((refund.reissueRest around order >>= fun _ =>
      refund.closeOrder around order).run s).2 := by
  have hafter : Sound ((refund.reissueRest around order).run s).2 ∧
      order ∈ ((refund.reissueRest around order).run s).2.orders := by
    unfold SaleRefund.reissueRest
    split
    · rename_i hreissues
      unfold SaleTrade.reissueOrderByIncompleteRefund
      rw [gets_bind_run]
      refine ⟨hs.placeInPlaceOf around order _ order.skuId _ fun hfree => ?_,
        mem_placeOrder around _ h⟩
      exact ⟨Int.le_of_lt hreissues.2, hroom hreissues hfree⟩
    · exact ⟨hs, h⟩
  generalize hrun : (refund.reissueRest around order).run s = r at hafter
  obtain ⟨result, s'⟩ := r
  cases result with
  | error e =>
    rw [bind_error hrun]
    exact hafter.1
  | ok u =>
    rw [bind_ok hrun]
    exact hafter.1.closeOrder around refund hafter.2

theorem Sound.refundConfirm (hs : Sound s) (around : Surroundings)
    {refund : SaleRefund} (h : refund ∈ s.refunds) (hfits : ConfirmFits refund s) :
    Sound ((refund.refundConfirm around).run s).2 := by
  have hget : s.refunds.get? refund.id = some refund := Table.get?_eq_some.2 ⟨h, rfl⟩
  unfold SaleRefund.refundConfirm
  rw [getOr_bind_run]
  simp only [hget]
  split
  · exact hs
  rename_i hstatus
  obtain ⟨order, horder, hid, htrade⟩ := hs.linked refund h
  have hnot : isRefunded order = false := by
    by_contra hr
    obtain ⟨row, hrow, hrowOrder, hrowTrade, hrowStatus⟩ :=
      hs.refunded order horder (by simpa using hr)
    have heq := hs.unique row hrow refund h (hrowOrder.trans hid) (hrowTrade.trans htrade)
    rw [heq] at hrowStatus
    exact hstatus hrowStatus
  have hsaved : Sound { s with refunds := s.refunds.save refund.succeeded } :=
    hs.saveRefund h rfl rfl rfl rfl
  have hmemSaved : refund.succeeded ∈ s.refunds.save refund.succeeded := by
    have hpk : Row.pk refund = Row.pk refund.succeeded := rfl
    exact Table.mem_update.2 (Or.inl ⟨refund, h, decide_eq_true hpk, rfl⟩)
  unfold SaleRefund.save
  rcases sync_cases refund.succeeded
    (s := { s with refunds := s.refunds.save refund.succeeded }) horder hid with
    hrun | ⟨s', hgoods, hrun⟩
  · have hsave : (Tx.modify (fun s : OrderDb =>
          { s with refunds := s.refunds.save refund.succeeded }) >>= fun _ =>
        refund.succeeded.syncSaleRefundStatus).run s =
        (.error .doesNotExist, { s with refunds := s.refunds.save refund.succeeded }) := hrun
    rw [bind_error hsave]
    exact hsaved
  · have hsave : (Tx.modify (fun s : OrderDb =>
          { s with refunds := s.refunds.save refund.succeeded }) >>= fun _ =>
        refund.succeeded.syncSaleRefundStatus).run s =
        (.ok (), ((Order.refunded refund order).save.run s').2) := by
      have hok : (Order.refunded refund order).save.run s' =
          (.ok (), ((Order.refunded refund order).save.run s').2) := Prod.ext (save_ok _ _) rfl
      exact hrun.trans hok
    have hmem : order ∈ s'.orders := by
      rw [hgoods.orders]
      exact horder
    have hsame : SameUnits order (Order.refunded refund order) := ⟨rfl, rfl, rfl, rfl⟩
    have hwaiting : (Order.refunded refund order).status = .waitSellerSendGoods →
        refund.refundNum ≠ order.num ∧ order.status = .waitSellerSendGoods := by
      intro hwaits
      by_cases hfull : refund.refundNum = order.num
      · rw [refunded_full hfull] at hwaits
        cases hwaits
      · exact ⟨hfull, (refunded_part hfull).symm.trans hwaits⟩
    have hput : Sound { s' with orders := s'.orders.save (Order.refunded refund order) } := by
      refine (hgoods.sound hsaved).saveOrder hmem hsame (fun hw => (hwaiting hw).2)
        (fun _ => rfl) fun _ => ?_
      refine ⟨refund.succeeded, ?_, hid.symm, htrade.symm, rfl⟩
      rw [hgoods.refunds]
      exact hmemSaved
    have hafter := save_goods (Order.refunded refund order) s'
    have hreplaced : Replaced order (Order.refunded refund order) s'
        ((Order.refunded refund order).save.run s').2 := replaced_run_save hmem rfl rfl
    have hkeys : SameKeys s ((Order.refunded refund order).save.run s').2 := by
      have hfirst : SameKeys s s' := ⟨by rw [hgoods.orders], by rw [hgoods.orders],
        by rw [hgoods.orders]; exact fun row hrow => ⟨row, hrow, rfl, rfl⟩,
        by rw [hgoods.orders]; exact fun row hrow => ⟨row, hrow, rfl⟩⟩
      exact (hfirst.trans (sameKeys_save hmem hsame)).trans hafter.sameKeys
    have hunits : promisedUnits ((Order.refunded refund order).save.run s').2
        (SaleOrder.oidBase order.oid) = promisedUnits s (SaleOrder.oidBase order.oid) -
          promised s.packageSkuItems order := by
      have hzero : promised s'.packageSkuItems (Order.refunded refund order) = 0 := if_pos rfl
      have hitems : s'.packageSkuItems = s.packageSkuItems := hgoods.items
      rw [hafter.promisedUnits, promisedUnits_save hmem hsame, if_pos rfl, if_pos rfl, hzero,
        hgoods.promisedUnits, hitems, add_zero]
      rfl
    have hgetOrder : ((Order.refunded refund order).save.run s').2.orders.get? refund.orderId =
        some (Order.refunded refund order) :=
      Table.get?_eq_some.2 ⟨(hreplaced.mem _).2 (Or.inl rfl), hid⟩
    have hsound := hafter.sound hput
    have hrefundedMem := (hreplaced.mem (Order.refunded refund order)).2 (Or.inl rfl)
    rw [bind_ok hsave]
    generalize ((Order.refunded refund order).save.run s').2 = s₁
      at hsound hkeys hunits hgetOrder hrefundedMem
    unfold SaleOrder.get
    rw [getOr_bind_run]
    simp only [hgetOrder]
    refine hsound.reissueRest around refund hrefundedMem ?_
    rintro ⟨hwaits, hrest⟩ hfree
    obtain ⟨-, hstatusBefore⟩ := hwaiting hwaits
    have hfreeBefore := hkeys.freeOid hfree
    rw [hkeys.length_saleOrders] at hfreeBefore
    have hroom := hfits hstatus order horder hid ⟨hstatusBefore, hrest⟩ hfreeBefore
    have hpromised := hs.waiting order horder hstatusBefore hnot
    refine hroom.moved hkeys ?_
    change promisedUnits s₁ (SaleOrder.oidBase order.oid) + (order.num - refund.refundNum) ≤ _
    rw [hunits, hpromised]
    omega

/-! ## Runs -/

/-- What happens to the orders of paid trades: items are made, orders are changed,
delivered again, asked back and refunded, on their own or in an atomic block, and
items are sent. -/
inductive Step where
  | setOrderPaid (around : Surroundings) (trade : Nat)
  | changeSkuItem (around : Surroundings) (order skuId : Nat) (num : Int)
  | redeliverSkuItem (around : Surroundings) (order : Nat)
  | createSalerefund (order : Nat) (refundNum : Int) (refundFee : Nat) (goodStatus : GoodStatus)
  | refundConfirm (around : Surroundings) (refund : Nat)
  | refundInBlock (around : Surroundings) (refund : Nat)
  | setStatusSent (item : Nat)

namespace Step

def program : Step → OrderTx Unit
  | setOrderPaid around trade => SaleTrade.setOrderPaid around trade
  | changeSkuItem around order skuId num => do
      let old ← SaleOrder.get order
      SaleTrade.changeSkuItem around skuId num old
  | redeliverSkuItem around order => do
      let old ← SaleOrder.get order
      SaleTrade.redeliverSkuItem around old
  | createSalerefund order refundNum refundFee goodStatus => do
      let saleorder ← SaleOrder.get order
      SaleRefund.createSalerefund refundNum refundFee goodStatus saleorder
  | refundConfirm around refund => do
      let srefund ← SaleRefund.get refund
      srefund.refundConfirm around
  | refundInBlock around refund => SaleTrade.inAtomicBlock do
      let srefund ← SaleRefund.get refund
      srefund.refundConfirm around
  | setStatusSent item => do
      let skuItem ← PackageSkuItem.get item
      skuItem.setStatusSent

def exec (step : Step) (s : OrderDb) : OrderDb := (step.program.run s).2

def Fits (s : OrderDb) : Step → Prop
  | changeSkuItem around order skuId num =>
      ∀ old ∈ s.orders, old.id = order → ChangeFits around skuId num old s
  | redeliverSkuItem around order =>
      ∀ old ∈ s.orders, old.id = order → RedeliveryFits around old s
  | refundConfirm _ refund | refundInBlock _ refund =>
      ∀ srefund ∈ s.refunds, srefund.id = refund → ConfirmFits srefund s
  | _ => True

end Step

theorem Sound.getOrder {id : Nat} {f : SaleOrder → OrderTx Unit}
    (hs : Sound s) (h : ∀ order ∈ s.orders, order.id = id → Sound ((f order).run s).2) :
    Sound ((SaleOrder.get id >>= f).run s).2 := by
  unfold SaleOrder.get
  rw [getOr_bind_run]
  cases hget : s.orders.get? id with
  | none => exact hs
  | some order =>
    obtain ⟨hmem, hid⟩ := Table.get?_eq_some.1 hget
    exact h order hmem hid

theorem Sound.getRefund {id : Nat} {f : SaleRefund → OrderTx Unit}
    (hs : Sound s) (h : ∀ refund ∈ s.refunds, refund.id = id → Sound ((f refund).run s).2) :
    Sound ((SaleRefund.get id >>= f).run s).2 := by
  unfold SaleRefund.get
  rw [getOr_bind_run]
  cases hget : s.refunds.get? id with
  | none => exact hs
  | some refund =>
    obtain ⟨hmem, hid⟩ := Table.get?_eq_some.1 hget
    exact h refund hmem hid

theorem Sound.inAtomicBlock (hs : Sound s) {m : OrderTx Unit}
    (h : Sound (m.run { s with inBlock := true }).2) :
    Sound ((SaleTrade.inAtomicBlock m).run s).2 := by
  unfold SaleTrade.inAtomicBlock
  rcases atomic_cases (do
      modify fun s : OrderDb => { s with inBlock := true }
      m
      SaleTrade.commit) s with ⟨u, s', hrun, hatomic⟩ | hsame
  · rw [hatomic]
    generalize hm : m.run { s with inBlock := true } = r at h
    obtain ⟨result, s₁⟩ := r
    rw [modify_bind_run] at hrun
    cases result with
    | error e =>
      rw [bind_error hm] at hrun
      cases hrun
    | ok v =>
      rw [bind_ok hm] at hrun
      have hcommit := commit_goods s₁
      rw [hrun] at hcommit
      exact hcommit.sound h
  · rw [hsame]
    exact hs

theorem sound_inBlock (hs : Sound s) : Sound { s with inBlock := true } :=
  SameGoods.sound (s := s) ⟨rfl, rfl, rfl⟩ hs

theorem Sound.step (hs : Sound s) (step : Step) (hfits : step.Fits s) :
    Sound (step.exec s) := by
  unfold Step.exec
  cases step with
  | setOrderPaid around trade => exact hs.setOrderPaid around trade
  | changeSkuItem around order skuId num =>
    exact hs.getOrder fun old hmem hid => hs.changeSkuItem hmem (hfits old hmem hid)
  | redeliverSkuItem around order =>
    exact hs.getOrder fun old hmem hid => hs.redeliverSkuItem hmem (hfits old hmem hid)
  | createSalerefund order refundNum refundFee goodStatus =>
    exact hs.getOrder fun saleorder hmem _ =>
      hs.createSalerefund hmem refundNum refundFee goodStatus
  | refundConfirm around refund =>
    exact hs.getRefund fun srefund hmem hid => hs.refundConfirm around hmem (hfits srefund hmem hid)
  | refundInBlock around refund =>
    refine hs.inAtomicBlock ((sound_inBlock hs).getRefund fun srefund hmem hid => ?_)
    exact (sound_inBlock hs).refundConfirm around hmem (hfits srefund hmem hid)
  | setStatusSent item =>
    unfold Step.program PackageSkuItem.get
    dsimp only
    rw [getOr_bind_run]
    cases hget : s.packageSkuItems.get? item with
    | none => exact hs
    | some row => exact hs.setStatusSent (Table.get?_eq_some.1 hget).1

/-- Orders as they are when their trades have been paid: no item has been made and
nothing has been asked back. -/
structure JustPaid (s : OrderDb) : Prop where
  items : s.packageSkuItems.rows = []
  refunds : s.refunds.rows = []
  plain : ∀ order ∈ s.orders, '-' ∉ order.oid.toList
  oids : ∀ order ∈ s.orders, ∀ order' ∈ s.orders, order.oid = order'.oid → order = order'
  num : ∀ order ∈ s.orders, 0 ≤ order.num
  refundStatus : ∀ order ∈ s.orders, isRefunded order = false

theorem JustPaid.sound (h : JustPaid s) : Sound s := by
  have hitems : ∀ item, item ∉ s.packageSkuItems := by
    intro item hitem
    rw [Table.mem_def, h.items] at hitem
    cases hitem
  have hrefunds : ∀ refund, refund ∉ s.refunds := by
    intro refund hrefund
    rw [Table.mem_def, h.refunds] at hrefund
    cases hrefund
  have hpromised : ∀ order ∈ s.orders, promised s.packageSkuItems order = order.num := by
    intro order horder
    have hnone : hasItem s.packageSkuItems order.id = false := by
      unfold hasItem Table.first
      rw [h.items]
      rfl
    unfold promised
    rw [h.refundStatus order horder, hnone]
    rfl
  refine ⟨h.num, fun item hitem => absurd hitem (hitems item),
    fun item hitem => absurd hitem (hitems item), fun order horder _ _ => hpromised order horder,
    ?_, fun refund hrefund => absurd hrefund (hrefunds refund),
    fun refund hrefund => absurd hrefund (hrefunds refund), ?_⟩
  · intro order horder hr
    rw [h.refundStatus order horder] at hr
    cases hr
  · intro root hroot _
    -- the family of an order that was paid is the order alone
    have hsum : promisedUnits s root.oid =
        s.orders.sum fun order => if Row.pk order = Row.pk root then root.num else 0 := by
      refine Table.sum_congr fun order horder => ?_
      rw [oidBase_plain (h.plain order horder)]
      by_cases hid : Row.pk order = Row.pk root
      · have heq : order = root := Table.pk_inj horder hroot hid
        rw [heq, if_pos rfl, if_pos rfl]
        exact hpromised root hroot
      · have hne : order.oid ≠ root.oid := by
          intro hoid
          exact hid (congrArg Row.pk (h.oids order horder root hroot hoid))
        rw [if_neg hne, if_neg hid]
    rw [hsum, Table.sum_single hroot]

def paidShop : OrderDb where
  trades := Table.empty.insert ⟨0, .saleOrder, .waitSellerSendGoods⟩
  orders := Table.empty.insert
    { signedOrder with
      oid := String.ofList ['x', 'o', '1']
      num := 2
      consignTime := none
      signTime := none
      status := .waitSellerSendGoods }
  refunds := Table.empty
  packageSkuItems := Table.empty
  inBlock := false
  onCommit := []
  statusWrites := []

theorem paidShop_justPaid : JustPaid paidShop := by
  refine ⟨rfl, rfl, ?_, ?_, ?_, ?_⟩
  · change ∀ order ∈ paidShop.orders.rows, '-' ∉ order.oid.toList
    decide
  · change ∀ order ∈ paidShop.orders.rows, ∀ order' ∈ paidShop.orders.rows,
      order.oid = order'.oid → order = order'
    decide
  · change ∀ order ∈ paidShop.orders.rows, 0 ≤ order.num
    decide
  · change ∀ order ∈ paidShop.orders.rows, isRefunded order = false
    decide

/-- The order is changed and the new one refunded by one unit; the other is sent by a
third. -/
def changedAndRefunded : List Step :=
  [.setOrderPaid plainSurroundings 1, .changeSkuItem plainSurroundings 1 3 2,
    .createSalerefund 2 1 0 .buyerNotReceived, .refundInBlock plainSurroundings 1]

def packedShop (n : Nat) : OrderDb :=
  Execution.run Step.exec (changedAndRefunded.take n) paidShop

def redelivered : List Step :=
  [.setOrderPaid plainSurroundings 1, .redeliverSkuItem plainSurroundings 1]

end ShopManager.Pay.Order
