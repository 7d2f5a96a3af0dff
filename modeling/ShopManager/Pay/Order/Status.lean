import ShopManager.Pay.Order.Model

/-!
# The status of a paid trade

The hook derives the status of a trade from its orders; the daily task and the
refunds write it by tests of their own.  A trade whose orders are partly finished
and partly closed by refunds is what they do not agree on: the hook closes it, the
task finishes it.
-/

namespace ShopManager.Pay.Order

open Library Library.Tx
open Trade (TradeStatus)
open Refund (RefundStatus GoodStatus)

/-! ## Derived statuses -/

def isOpen (status : TradeStatus) : Bool :=
  status = .waitSellerSendGoods || status = .waitBuyerConfirmGoods ||
    status = .tradeBuyerSigned

def isClosed (status : TradeStatus) : Bool :=
  status = .tradeClosed || status = .tradeClosedBySys

def stage : TradeStatus → Nat
  | .noCreatePay => 0
  | .waitBuyerPay => 1
  | .waitSellerSendGoods => 2
  | .waitBuyerConfirmGoods => 3
  | .tradeBuyerSigned => 4
  | .tradeFinished => 5
  | .tradeClosed => 6
  | .tradeClosedBySys => 7

def IsPaid (orders : List TradeStatus) : Prop :=
  ∀ status ∈ orders, status ≠ .noCreatePay ∧ status ≠ .waitBuyerPay

def NoneOpen (orders : List TradeStatus) : Prop := ∀ status ∈ orders, isOpen status = false

structure Mixed (orders : List TradeStatus) : Prop where
  closed : TradeStatus.tradeClosed ∈ orders
  finished : TradeStatus.tradeFinished ∈ orders
  noneOpen : NoneOpen orders

structure StatusWrite.Agrees (w : StatusWrite) : Prop where
  derived : SaleTrade.derivedStatus w.orders = some w.status
  finished : w.status = .tradeFinished →
    (∀ status ∈ w.orders, isClosed status = false → status = .tradeFinished) ∧
      TradeStatus.tradeFinished ∈ w.orders
  closed : w.status = .tradeClosed → ∀ status ∈ w.orders, isClosed status = true

/-- The status of a trade is not earlier than that of its least advanced order
which is not closed. -/
def NotBehind (status : TradeStatus) (orders : List TradeStatus) : Prop :=
  (∃ st ∈ orders, isClosed st = false) →
    ∃ st ∈ orders, isClosed st = false ∧ stage st ≤ stage status

variable {orders : List TradeStatus}

theorem noneOpen_iff :
    NoneOpen orders ↔ TradeStatus.waitSellerSendGoods ∉ orders ∧
      TradeStatus.waitBuyerConfirmGoods ∉ orders ∧ TradeStatus.tradeBuyerSigned ∉ orders := by
  constructor
  · intro h
    exact ⟨fun hm => absurd (h _ hm) (by decide), fun hm => absurd (h _ hm) (by decide),
      fun hm => absurd (h _ hm) (by decide)⟩
  · rintro ⟨h2, h3, h4⟩ status hm
    cases status with
    | waitSellerSendGoods => exact absurd hm h2
    | waitBuyerConfirmGoods => exact absurd hm h3
    | tradeBuyerSigned => exact absurd hm h4
    | _ => rfl

variable {status : TradeStatus}

theorem ended_of_not_open (hpaid : IsPaid orders) (hnone : NoneOpen orders) (h : status ∈ orders) :
    status = .tradeFinished ∨ status = .tradeClosed ∨ status = .tradeClosedBySys := by
  have hne := hpaid _ h
  have hopen := hnone _ h
  cases status <;> simp_all [isOpen]

namespace SaleTrade

theorem derivedStatus_open (h : ¬ NoneOpen orders) :
    ∃ status ∈ orders, isOpen status = true ∧ derivedStatus orders = some status := by
  rw [noneOpen_iff] at h
  unfold derivedStatus
  by_cases h2 : TradeStatus.waitSellerSendGoods ∈ orders
  · exact ⟨_, h2, rfl, by rw [if_pos h2]⟩
  by_cases h3 : TradeStatus.waitBuyerConfirmGoods ∈ orders
  · exact ⟨_, h3, rfl, by rw [if_neg h2, if_pos h3]⟩
  have h4 : TradeStatus.tradeBuyerSigned ∈ orders := by
    by_contra h4
    exact h ⟨h2, h3, h4⟩
  exact ⟨_, h4, rfl, by rw [if_neg h2, if_neg h3, if_pos h4]⟩

theorem derivedStatus_noneOpen (hpaid : IsPaid orders)
    (hnone : NoneOpen orders) : derivedStatus orders =
      if TradeStatus.tradeClosed ∈ orders then some .tradeClosed
      else if TradeStatus.tradeFinished ∈ orders then some .tradeFinished
      else if TradeStatus.tradeClosedBySys ∈ orders then some .tradeClosedBySys
      else none := by
  obtain ⟨h2, h3, h4⟩ := noneOpen_iff.1 hnone
  unfold derivedStatus
  rw [if_neg h2, if_neg h3, if_neg h4]
  by_cases h6 : TradeStatus.tradeClosed ∈ orders
  · rw [if_pos h6, if_pos h6]
  rw [if_neg h6, if_neg h6]
  have hend : ∀ status ∈ orders, status = .tradeFinished ∨ status = .tradeClosedBySys := by
    intro status hm
    rcases ended_of_not_open hpaid hnone hm with h | h | h
    · exact Or.inl h
    · exact absurd (h ▸ hm) h6
    · exact Or.inr h
  by_cases h5 : TradeStatus.tradeFinished ∈ orders
  · rw [if_pos h5, if_pos h5, if_pos (by simpa using hend)]
  rw [if_neg h5, if_neg h5]
  have hsys : ∀ status ∈ orders, status = .tradeClosedBySys := by
    intro status hm
    rcases hend status hm with h | h
    · exact absurd (h ▸ hm) h5
    · exact h
  rw [if_pos (by simpa using hsys : (orders.all fun status =>
    decide (status = .tradeClosedBySys)) = true)]

end SaleTrade

open SaleTrade

theorem not_behind_of_derived (hpaid : IsPaid orders) (h : derivedStatus orders = some status) :
    NotBehind status orders := by
  rintro ⟨st, hst, hopen⟩
  by_cases hnone : NoneOpen orders
  · refine ⟨st, hst, hopen, ?_⟩
    rw [derivedStatus_noneOpen hpaid hnone] at h
    rcases ended_of_not_open hpaid hnone hst with rfl | rfl | rfl
    · by_cases h6 : TradeStatus.tradeClosed ∈ orders
      · rw [if_pos h6] at h
        cases h
        decide
      · rw [if_neg h6, if_pos hst] at h
        cases h
        decide
    · exact absurd hopen (by decide)
    · exact absurd hopen (by decide)
  · obtain ⟨least, hmem, hleast, hder⟩ := derivedStatus_open hnone
    rw [h] at hder
    cases hder
    refine ⟨status, hmem, ?_, le_rfl⟩
    cases status <;> first | rfl | exact absurd hleast (by decide)

theorem derived_isSome (hpaid : IsPaid orders)
    (hne : orders ≠ []) : ∃ status, derivedStatus orders = some status := by
  by_cases hnone : NoneOpen orders
  · rw [derivedStatus_noneOpen hpaid hnone]
    by_cases h6 : TradeStatus.tradeClosed ∈ orders
    · exact ⟨_, if_pos h6⟩
    by_cases h5 : TradeStatus.tradeFinished ∈ orders
    · exact ⟨_, by rw [if_neg h6, if_pos h5]⟩
    obtain ⟨status, hmem⟩ := List.exists_mem_of_ne_nil orders hne
    have h7 : TradeStatus.tradeClosedBySys ∈ orders := by
      rcases ended_of_not_open hpaid hnone hmem with h | h | h
      · exact absurd (h ▸ hmem) h5
      · exact absurd (h ▸ hmem) h6
      · exact h ▸ hmem
    exact ⟨_, by rw [if_neg h6, if_neg h5, if_pos h7]⟩
  · obtain ⟨status, -, -, h⟩ := derivedStatus_open hnone
    exact ⟨status, h⟩

theorem derived_agrees_iff (hpaid : IsPaid orders)
    (h : derivedStatus orders = some status) (trade : Nat) :
    StatusWrite.Agrees ⟨trade, status, orders⟩ ↔ ¬ Mixed orders := by
  constructor
  · intro hagrees hmixed
    have hclosed : status = .tradeClosed := by
      rw [derivedStatus_noneOpen hpaid hmixed.noneOpen, if_pos hmixed.closed] at h
      exact (Option.some.inj h).symm
    exact absurd (hagrees.closed hclosed _ hmixed.finished) (by decide)
  · intro hmixed
    refine ⟨h, ?_, ?_⟩
    · rintro rfl
      by_cases hnone : NoneOpen orders
      · rw [derivedStatus_noneOpen hpaid hnone] at h
        split at h
        · cases h
        · rename_i h6
          split at h
          · rename_i h5
            refine ⟨fun st hst hopen => ?_, h5⟩
            rcases ended_of_not_open hpaid hnone hst with hend | hend | hend
            · exact hend
            · exact absurd (hend ▸ hst) h6
            · exact absurd (hend ▸ hopen) (by decide)
          · split at h <;> cases h
      · obtain ⟨st, -, hopen, hder⟩ := derivedStatus_open hnone
        rw [h] at hder
        cases hder
        exact absurd hopen (by decide)
    · rintro rfl st hst
      by_cases hnone : NoneOpen orders
      · rw [derivedStatus_noneOpen hpaid hnone] at h
        by_cases h6 : TradeStatus.tradeClosed ∈ orders
        · rcases ended_of_not_open hpaid hnone hst with hend | hend | hend
          · exact absurd ⟨h6, hend ▸ hst, hnone⟩ hmixed
          · rw [hend]
            rfl
          · rw [hend]
            rfl
        · rw [if_neg h6] at h
          split at h
          · cases h
          · split at h <;> cases h
      · obtain ⟨st', -, hopen, hder⟩ := derivedStatus_open hnone
        rw [h] at hder
        cases hder
        exact absurd hopen (by decide)

theorem finished_agrees_iff (hpaid : IsPaid orders)
    (hnone : NoneOpen orders) (h5 : TradeStatus.tradeFinished ∈ orders) (trade : Nat) :
    StatusWrite.Agrees ⟨trade, .tradeFinished, orders⟩ ↔ ¬ Mixed orders := by
  constructor
  · intro hagrees hmixed
    have hder : derivedStatus orders = some .tradeFinished := hagrees.derived
    rw [derivedStatus_noneOpen hpaid hnone, if_pos hmixed.closed] at hder
    cases hder
  · intro hmixed
    have h6 : TradeStatus.tradeClosed ∉ orders := fun h6 => hmixed ⟨h6, h5, hnone⟩
    refine (derived_agrees_iff hpaid ?_ trade).2 hmixed
    rw [derivedStatus_noneOpen hpaid hnone, if_neg h6, if_pos h5]

theorem closed_agrees_iff (hpaid : IsPaid orders)
    (hclosed : ∀ status ∈ orders, isClosed status = true) (trade : Nat) :
    StatusWrite.Agrees ⟨trade, .tradeClosed, orders⟩ ↔ TradeStatus.tradeClosed ∈ orders := by
  have hnone : NoneOpen orders := by
    intro status hm
    have h := hclosed status hm
    cases status <;> first | rfl | exact absurd h (by decide)
  constructor
  · intro hagrees
    have hder : derivedStatus orders = some .tradeClosed := hagrees.derived
    rw [derivedStatus_noneOpen hpaid hnone] at hder
    by_contra h6
    rw [if_neg h6] at hder
    split at hder
    · cases hder
    · split at hder <;> cases hder
  · intro h6
    refine ⟨?_, ?_, fun _ => hclosed⟩
    · change derivedStatus orders = some .tradeClosed
      rw [derivedStatus_noneOpen hpaid hnone, if_pos h6]
    · intro h
      cases h

def AllAgree (t : Nat) (s : OrderDb) : Prop :=
  ∀ w ∈ s.statusWrites, w.trade = t → w.Agrees

structure SameOrders (s s' : OrderDb) : Prop where
  orders : s'.orders = s.orders
  inBlock : s'.inBlock = s.inBlock

theorem SameOrders.refl (s : OrderDb) : SameOrders s s := ⟨rfl, rfl⟩

variable {s s' : OrderDb}

theorem SameOrders.trans {s'' : OrderDb} (h : SameOrders s s') (h' : SameOrders s' s'') :
    SameOrders s s'' := ⟨h'.orders.trans h.orders, h'.inBlock.trans h.inBlock⟩

theorem SameOrders.statuses (h : SameOrders s s') (t : Nat) :
    s'.statuses t = s.statuses t := by
  unfold OrderDb.statuses OrderDb.saleOrders
  rw [h.orders]

variable {t : Nat}

theorem mem_statuses :
    status ∈ s.statuses t ↔ ∃ order ∈ s.orders, order.saleTradeId = t ∧ order.status = status := by
  simp [OrderDb.statuses, OrderDb.saleOrders, Table.filter, Table.mem_def, and_assoc]

theorem allAgree_append {w : StatusWrite} (h : s'.statusWrites = s.statusWrites ++ [w]) :
    AllAgree t s' ↔ AllAgree t s ∧ (w.trade = t → w.Agrees) := by
  unfold AllAgree
  rw [h]
  constructor
  · intro hall
    exact ⟨fun v hv => hall v (by simp [hv]), hall w (by simp)⟩
  · rintro ⟨hall, hw⟩ v hv
    rcases List.mem_append.1 hv with hv | hv
    · exact hall v hv
    · rw [List.mem_singleton.1 hv]
      exact hw

theorem allAgree_setStatus (t : Nat) (status : TradeStatus) (id : Nat) (s : OrderDb) :
    AllAgree t ((setStatus status id).run s).2 ↔
      AllAgree t s ∧ (id = t → StatusWrite.Agrees ⟨id, status, s.statuses id⟩) := by
  have hlog : ((setStatus status id).run s).2.statusWrites =
      s.statusWrites ++ [⟨id, status, s.statuses id⟩] := rfl
  exact allAgree_append hlog

theorem setStatus_same (status : TradeStatus) (id : Nat) (s : OrderDb) :
    SameOrders s ((setStatus status id).run s).2 := ⟨rfl, rfl⟩

theorem tasksUpdate_run (id : Nat) (s : OrderDb) :
    (tasksUpdateSaleTradeStatus id).run s = match derivedStatus (s.statuses id) with
      | some status => (setStatus status id).run s
      | none => (.ok (), s) := by
  unfold tasksUpdateSaleTradeStatus
  rw [gets_bind_run]
  cases derivedStatus (s.statuses id) <;> rfl

theorem tasksUpdate_same (id : Nat) (s : OrderDb) :
    SameOrders s ((tasksUpdateSaleTradeStatus id).run s).2 := by
  rw [tasksUpdate_run]
  cases derivedStatus (s.statuses id) with
  | none => exact SameOrders.refl s
  | some status => exact setStatus_same status id s

theorem allAgree_tasksUpdate (hpaid : IsPaid (s.statuses t)) (id : Nat) :
    AllAgree t ((tasksUpdateSaleTradeStatus id).run s).2 ↔
      AllAgree t s ∧ (id = t → ¬ Mixed (s.statuses t)) := by
  rw [tasksUpdate_run]
  cases hder : derivedStatus (s.statuses id) with
  | none =>
    refine ⟨fun h => ⟨h, ?_⟩, And.left⟩
    rintro rfl hmixed
    rw [derivedStatus_noneOpen hpaid hmixed.noneOpen, if_pos hmixed.closed] at hder
    cases hder
  | some status =>
    change AllAgree t ((setStatus status id).run s).2 ↔ _
    rw [allAgree_setStatus]
    refine and_congr_right fun _ => ?_
    constructor
    · rintro h rfl
      exact (derived_agrees_iff hpaid hder id).1 (h rfl)
    · rintro h rfl
      exact (derived_agrees_iff hpaid hder id).2 (h rfl)

theorem updateOnCommit_run (id : Nat) (s : OrderDb) :
    (updateOnCommit id).run s =
      if s.inBlock then (.ok (), { s with onCommit := s.onCommit ++ [id] })
      else (tasksUpdateSaleTradeStatus id).run s := by
  unfold updateOnCommit
  rw [gets_bind_run]
  split <;> rfl

theorem updateOnCommit_same (id : Nat) (s : OrderDb) :
    SameOrders s ((updateOnCommit id).run s).2 := by
  rw [updateOnCommit_run]
  split
  · exact ⟨rfl, rfl⟩
  · exact tasksUpdate_same id s

theorem updateOnCommit_ok (id : Nat) (s : OrderDb) :
    ((updateOnCommit id).run s).1 = .ok () := by
  rw [updateOnCommit_run]
  split
  · rfl
  · rw [tasksUpdate_run]
    cases derivedStatus (s.statuses id) <;> rfl

theorem allAgree_updateOnCommit (hpaid : IsPaid (s.statuses t))
    (id : Nat) : AllAgree t ((updateOnCommit id).run s).2 ↔
      AllAgree t s ∧ (s.inBlock = false → id = t → ¬ Mixed (s.statuses t)) := by
  rw [updateOnCommit_run]
  cases hblock : s.inBlock with
  | true => simp [AllAgree]
  | false => simpa using allAgree_tasksUpdate hpaid id

def others (s : OrderDb) (order : SaleOrder) : List TradeStatus :=
  ((s.saleOrders order.saleTradeId).filter fun row => row.id ≠ order.id).map SaleOrder.status

variable {order : SaleOrder}

theorem mem_others :
    status ∈ others s order ↔ ∃ row ∈ s.orders,
      row.saleTradeId = order.saleTradeId ∧ row.id ≠ order.id ∧ row.status = status := by
  simp [others, OrderDb.saleOrders, Table.filter, Table.mem_def, and_assoc, and_left_comm]

structure Replaced (order order' : SaleOrder) (s s' : OrderDb) : Prop where
  before : order ∈ s.orders
  mem : ∀ row, row ∈ s'.orders ↔ row = order' ∨ row ∈ s.orders ∧ row.id ≠ order.id
  trade : order'.saleTradeId = order.saleTradeId
  inBlock : s'.inBlock = s.inBlock

theorem Replaced.self (h : order ∈ s.orders) :
    Replaced order order s s := by
  refine ⟨h, fun row => ?_, rfl, rfl⟩
  constructor
  · intro hrow
    by_cases hid : row.id = order.id
    · exact Or.inl (Table.pk_inj hrow h hid)
    · exact Or.inr ⟨hrow, hid⟩
  · rintro (rfl | ⟨hrow, -⟩)
    · exact h
    · exact hrow

variable {order' : SaleOrder}

theorem Replaced.then_same {s'' : OrderDb}
    (h : Replaced order order' s s') (h' : SameOrders s' s'') : Replaced order order' s s'' := by
  refine ⟨h.before, fun row => ?_, h.trade, h'.inBlock.trans h.inBlock⟩
  rw [h'.orders]
  exact h.mem row

theorem Replaced.statuses_trade (h : Replaced order order' s s') :
    status ∈ s'.statuses order.saleTradeId ↔ status = order'.status ∨ status ∈ others s order := by
  rw [mem_statuses, mem_others]
  constructor
  · rintro ⟨row, hrow, htrade, rfl⟩
    rcases (h.mem row).1 hrow with rfl | ⟨hold, hid⟩
    · exact Or.inl rfl
    · exact Or.inr ⟨row, hold, htrade, hid, rfl⟩
  · rintro (rfl | ⟨row, hrow, htrade, hid, rfl⟩)
    · exact ⟨order', (h.mem _).2 (Or.inl rfl), h.trade, rfl⟩
    · exact ⟨row, (h.mem _).2 (Or.inr ⟨hrow, hid⟩), htrade, rfl⟩

theorem Replaced.statuses_other
    (h : Replaced order order' s s') (ht : order.saleTradeId ≠ t) : status ∈ s'.statuses t ↔ status ∈ s.statuses t := by
  rw [mem_statuses, mem_statuses]
  constructor
  · rintro ⟨row, hrow, rfl, rfl⟩
    rcases (h.mem row).1 hrow with rfl | ⟨hold, -⟩
    · exact absurd h.trade.symm ht
    · exact ⟨row, hold, rfl, rfl⟩
  · rintro ⟨row, hrow, rfl, rfl⟩
    refine ⟨row, (h.mem _).2 (Or.inr ⟨hrow, ?_⟩), rfl, rfl⟩
    intro hid
    exact ht (congrArg SaleOrder.saleTradeId (Table.pk_inj hrow h.before hid)).symm

theorem Replaced.isPaid (h : Replaced order order' s s') (hpaid : IsPaid (s.statuses t))
    (hstatus : order.saleTradeId = t →
      order'.status ≠ .noCreatePay ∧ order'.status ≠ .waitBuyerPay) :
    IsPaid (s'.statuses t) := by
  intro status hmem
  by_cases ht : order.saleTradeId = t
  · subst ht
    rcases h.statuses_trade.1 hmem with rfl | hother
    · exact hstatus rfl
    · exact hpaid _ ((Replaced.self h.before).statuses_trade.2 (Or.inr hother))
  · exact hpaid _ ((h.statuses_other ht).1 hmem)

theorem Replaced.mixed_iff
    (h : Replaced order order' s s') : Mixed (s'.statuses order.saleTradeId) ↔
      (order'.status = .tradeClosed ∨ TradeStatus.tradeClosed ∈ others s order) ∧
      (order'.status = .tradeFinished ∨ TradeStatus.tradeFinished ∈ others s order) ∧
      isOpen order'.status = false ∧ NoneOpen (others s order) := by
  constructor
  · rintro ⟨h6, h5, hnone⟩
    refine ⟨?_, ?_, hnone _ (h.statuses_trade.2 (Or.inl rfl)),
      fun status hmem => hnone _ (h.statuses_trade.2 (Or.inr hmem))⟩
    · exact (h.statuses_trade.1 h6).imp Eq.symm id
    · exact (h.statuses_trade.1 h5).imp Eq.symm id
  · rintro ⟨h6, h5, hopen, hnone⟩
    refine ⟨h.statuses_trade.2 (h6.imp Eq.symm id), h.statuses_trade.2 (h5.imp Eq.symm id), ?_⟩
    intro status hmem
    rcases h.statuses_trade.1 hmem with rfl | hother
    · exact hopen
    · exact hnone _ hother

theorem replaced_save (h : order ∈ s.orders)
    (hid : order'.id = order.id) (htrade : order'.saleTradeId = order.saleTradeId) :
    Replaced order order' s { s with orders := s.orders.save order' } := by
  refine ⟨h, fun row => ?_, htrade, rfl⟩
  constructor
  · intro hrow
    rcases Table.mem_save hrow with rfl | ⟨hold, hpk⟩
    · exact Or.inl rfl
    · exact Or.inr ⟨hold, fun heq => hpk (heq.trans hid.symm)⟩
  · rintro (rfl | ⟨hold, hne⟩)
    · have hpk : Row.pk order = Row.pk row := hid.symm
      refine Table.mem_update.2 (Or.inl ⟨order, h, decide_eq_true hpk, ?_⟩)
      rw [hpk]
      exact (Row.withPk_pk row).symm
    · have hpk : Row.pk row ≠ Row.pk order' := fun heq => hne (heq.trans hid)
      exact Table.mem_update.2 (Or.inr ⟨hold, decide_eq_false hpk⟩)

def putStatus (status : TradeStatus) (order : SaleOrder) (s : OrderDb) : OrderDb :=
  { s with
    orders := s.orders.update (fun row => row.id = order.id) fun row =>
      { row with status := status } }

theorem saveStatus_run (status : TradeStatus) (order : SaleOrder) (s : OrderDb) :
    (order.saveStatus status).run s =
      (SaleOrder.updateSaletradeStatus { order with status := status }).run
        (putStatus status order s) := rfl

theorem replaced_putStatus (h : order ∈ s.orders) (status : TradeStatus) :
    Replaced order { order with status := status } s (putStatus status order s) := by
  have hrows : (s.orders.update (fun row => decide (row.id = order.id)) fun row =>
      { row with status := status }) = s.orders.save { order with status := status } :=
    Table.update_eq_save h fun row => { row with status := status }
  unfold putStatus
  rw [hrows]
  exact replaced_save h rfl rfl

theorem updateSaletradeStatus_paid
    (h : order.status ≠ .noCreatePay ∧ order.status ≠ .waitBuyerPay) :
    order.updateSaletradeStatus = updateOnCommit order.saleTradeId := by
  unfold SaleOrder.updateSaletradeStatus
  rw [if_neg (by tauto)]

theorem updateSaletradeStatus_same (order : SaleOrder) (s : OrderDb) :
    SameOrders s (order.updateSaletradeStatus.run s).2 := by
  unfold SaleOrder.updateSaletradeStatus
  split
  · exact SameOrders.refl s
  · exact updateOnCommit_same _ s

theorem updateSaletradeStatus_ok (order : SaleOrder) (s : OrderDb) :
    (order.updateSaletradeStatus.run s).1 = .ok () := by
  unfold SaleOrder.updateSaletradeStatus
  split
  · rfl
  · exact updateOnCommit_ok _ s

theorem allAgree_updateSaletradeStatus (hpaid : IsPaid (s.statuses t))
    (hstatus : order.saleTradeId = t → order.status ≠ .noCreatePay ∧ order.status ≠ .waitBuyerPay) :
    AllAgree t (order.updateSaletradeStatus.run s).2 ↔ AllAgree t s ∧
      (s.inBlock = false → order.saleTradeId = t → ¬ Mixed (s.statuses t)) := by
  by_cases ht : order.saleTradeId = t
  · rw [updateSaletradeStatus_paid (hstatus ht)]
    exact allAgree_updateOnCommit hpaid _
  · unfold SaleOrder.updateSaletradeStatus
    split
    · exact ⟨fun h => ⟨h, fun _ heq => absurd heq ht⟩, And.left⟩
    · exact allAgree_updateOnCommit hpaid _

theorem setStatusIf_same (p : Prop) [Decidable p] (status : TradeStatus) (id : Nat)
    (s : OrderDb) : SameOrders s ((setStatusIf p status id).run s).2 := by
  unfold setStatusIf
  split
  · exact setStatus_same status id s
  · exact SameOrders.refl s

theorem setStatusIf_ok (p : Prop) [Decidable p] (status : TradeStatus) (id : Nat)
    (s : OrderDb) : ((setStatusIf p status id).run s).1 = .ok () := by
  unfold setStatusIf
  split <;> rfl

theorem allAgree_setStatusIf (t : Nat) (p : Prop) [Decidable p] (status : TradeStatus)
    (id : Nat) (s : OrderDb) : AllAgree t ((setStatusIf p status id).run s).2 ↔
      AllAgree t s ∧ (p → id = t → StatusWrite.Agrees ⟨id, status, s.statuses id⟩) := by
  unfold setStatusIf
  split
  · rename_i hp
    rw [allAgree_setStatus]
    exact and_congr_right fun _ => ⟨fun h _ => h, fun h => h hp⟩
  · rename_i hp
    exact ⟨fun h => ⟨h, fun hp' => absurd hp' hp⟩, And.left⟩

/-! ## The daily task -/

theorem normalOrders_nil {trade : Nat} (hpaid : IsPaid (s.statuses trade)) :
    (s.normalOrders trade).length = 0 ↔
      ∀ status ∈ s.statuses trade, isClosed status = true := by
  rw [List.length_eq_zero_iff, OrderDb.normalOrders, List.filter_eq_nil_iff]
  constructor
  · intro h status hmem
    obtain ⟨order, horder, rfl⟩ := List.mem_map.1 hmem
    have hnot := h order horder
    have hne := hpaid _ hmem
    cases hs : order.status <;> simp_all [Trade.normalOrderStatus, isClosed]
  · intro h order horder
    have hclosed := h _ (List.mem_map_of_mem horder)
    cases hs : order.status <;> simp_all [Trade.normalOrderStatus, isClosed]

theorem finishOrders_eq (s : OrderDb) (trade : Nat) : s.finishOrders trade =
    (s.normalOrders trade).filter fun order => order.status = .tradeFinished := by
  rw [OrderDb.finishOrders, OrderDb.normalOrders, List.filter_filter]
  apply List.filter_congr
  intro order _
  cases order.status <;> decide

theorem normal_eq_finish {trade : Nat} (hpaid : IsPaid (s.statuses trade)) :
    (s.normalOrders trade).length = (s.finishOrders trade).length ↔
      NoneOpen (s.statuses trade) := by
  rw [finishOrders_eq, eq_comm, List.length_filter_eq_length_iff]
  constructor
  · intro h status hmem
    obtain ⟨order, horder, rfl⟩ := List.mem_map.1 hmem
    have hnormal : order.status ∈ Trade.normalOrderStatus →
        order.status = .tradeFinished := by
      intro hin
      simpa using h order (List.mem_filter.2 ⟨horder, by simpa using hin⟩)
    cases hs : order.status <;> simp_all [Trade.normalOrderStatus, isOpen]
  · intro h order horder
    obtain ⟨hmem, hin⟩ := List.mem_filter.1 horder
    have hopen := h _ (List.mem_map_of_mem hmem)
    have hne := hpaid _ (List.mem_map_of_mem hmem)
    cases hs : order.status <;> simp_all [Trade.normalOrderStatus, isOpen]

theorem SameOrders.finishOrders (h : SameOrders s s') (trade : Nat) :
    s'.finishOrders trade = s.finishOrders trade := by
  unfold OrderDb.finishOrders OrderDb.saleOrders
  rw [h.orders]

theorem pushStatus_run (trade : Nat) (s : OrderDb) : (pushStatus trade).run s =
    (setStatusIf ((s.normalOrders trade).length = (s.finishOrders trade).length)
      .tradeFinished trade).run
      ((setStatusIf ((s.normalOrders trade).length = 0) .tradeClosed trade).run s).2 := by
  unfold pushStatus
  have hok := setStatusIf_ok ((s.normalOrders trade).length = 0) .tradeClosed trade s
  have hsame := setStatusIf_same ((s.normalOrders trade).length = 0) .tradeClosed trade s
  rw [gets_bind_run]
  generalize hrun : (setStatusIf ((s.normalOrders trade).length = 0) .tradeClosed trade).run s =
    r at hok hsame
  obtain ⟨r, s'⟩ := r
  subst hok
  rw [bind_ok hrun, gets_bind_run, hsame.finishOrders]

theorem pushStatus_ok (trade : Nat) (s : OrderDb) :
    ((pushStatus trade).run s).1 = .ok () := by
  rw [pushStatus_run]
  exact setStatusIf_ok _ _ _ _

theorem pushStatus_same (trade : Nat) (s : OrderDb) :
    SameOrders s ((pushStatus trade).run s).2 := by
  rw [pushStatus_run]
  exact (setStatusIf_same _ _ _ s).trans (setStatusIf_same _ _ _ _)

theorem allAgree_pushStatus (hpaid : IsPaid (s.statuses t)) (trade : Nat)
    (hsome : trade = t → ∃ status ∈ s.statuses t, isClosed status = false) :
    AllAgree t ((pushStatus trade).run s).2 ↔
      AllAgree t s ∧ (trade = t → ¬ Mixed (s.statuses t)) := by
  rw [pushStatus_run, allAgree_setStatusIf, allAgree_setStatusIf,
    (setStatusIf_same _ _ _ s).statuses, and_assoc]
  refine and_congr_right fun _ => ?_
  constructor
  · rintro ⟨-, hfinish⟩ rfl hmixed
    have hagrees := hfinish ((normal_eq_finish hpaid).2 hmixed.noneOpen) rfl
    exact (finished_agrees_iff hpaid hmixed.noneOpen hmixed.finished trade).1 hagrees hmixed
  · intro hmixed
    constructor
    · rintro hnil rfl
      obtain ⟨status, hmem, hopen⟩ := hsome rfl
      have hclosed := (normalOrders_nil hpaid).1 hnil status hmem
      rw [hopen] at hclosed
      cases hclosed
    · rintro heq rfl
      have hnone := (normal_eq_finish hpaid).1 heq
      obtain ⟨status, hmem, hopen⟩ := hsome rfl
      have h5 : TradeStatus.tradeFinished ∈ s.statuses trade := by
        rcases ended_of_not_open hpaid hnone hmem with h | h | h
        · exact h ▸ hmem
        · exact absurd (h ▸ hopen) (by decide)
        · exact absurd (h ▸ hopen) (by decide)
      exact (finished_agrees_iff hpaid hnone h5 trade).2 (hmixed rfl)

def finishing (around : Surroundings) (now : Nat) (sorders : List SaleOrder) : List SaleOrder :=
  (sorders.takeWhile fun order => (order.isFinishable around now).isOk).filter fun order =>
    (order.isFinishable around now).toOption.getD false

structure LastOnes (around : Surroundings) (now t : Nat) (sorders : List SaleOrder)
    (s : OrderDb) : Prop where
  closed : TradeStatus.tradeClosed ∈ s.statuses t
  someOpen : ∃ order ∈ s.orders, order.saleTradeId = t ∧ isOpen order.status = true
  all : ∀ order ∈ s.orders, order.saleTradeId = t → isOpen order.status = true →
    order ∈ finishing around now sorders

variable {around : Surroundings} {now : Nat}

theorem finishing_error {e : Exn}
    (h : order.isFinishable around now = .error e) (l : List SaleOrder) :
    finishing around now (order :: l) = [] := by
  simp [finishing, h, Except.isOk, Except.toBool]

theorem finishing_ok {finishable : Bool}
    (h : order.isFinishable around now = .ok finishable) (l : List SaleOrder) :
    finishing around now (order :: l) =
      if finishable then order :: finishing around now l else finishing around now l := by
  cases finishable <;> simp [finishing, h, Except.isOk, Except.toBool, Except.toOption]

theorem pushOrder_error {e : Exn} (h : order.isFinishable around now = .error e) (s : OrderDb) :
    (pushOrder around now order).run s = (.error e, s) := by
  unfold pushOrder
  rw [h]
  rfl

theorem saveStatus_ok (status : TradeStatus) (order : SaleOrder) (s : OrderDb) :
    ((order.saveStatus status).run s).1 = .ok () := by
  rw [saveStatus_run]
  exact updateSaletradeStatus_ok _ _

theorem saveStatus_same (status : TradeStatus) (order : SaleOrder) (s : OrderDb) :
    SameOrders (putStatus status order s) ((order.saveStatus status).run s).2 := by
  rw [saveStatus_run]
  exact updateSaletradeStatus_same _ _

theorem replaced_saveStatus (h : order ∈ s.orders)
    (status : TradeStatus) : Replaced order { order with status := status } s
      ((order.saveStatus status).run s).2 :=
  (replaced_putStatus h status).then_same (saveStatus_same status order s)

theorem allAgree_saveStatus (h : order ∈ s.orders) (hpaid : IsPaid (s.statuses t))
    (hstatus : order.saleTradeId = t → status ≠ .noCreatePay ∧ status ≠ .waitBuyerPay) :
    AllAgree t ((order.saveStatus status).run s).2 ↔ AllAgree t s ∧
      (s.inBlock = false → order.saleTradeId = t →
        ¬ Mixed (((order.saveStatus status).run s).2.statuses t)) := by
  have hpaid' : IsPaid ((putStatus status order s).statuses t) :=
    (replaced_putStatus h status).isPaid hpaid hstatus
  rw [(saveStatus_same status order s).statuses, saveStatus_run,
    allAgree_updateSaletradeStatus hpaid' hstatus]
  exact Iff.rfl

def finished (order : SaleOrder) (s : OrderDb) : OrderDb :=
  ((order.saveStatus .tradeFinished).run s).2

theorem pushOrder_run {finishable : Bool}
    (h : order.isFinishable around now = .ok finishable) (s : OrderDb) :
    (pushOrder around now order).run s = (pushStatus order.saleTradeId).run
      (if finishable then finished order s else s) := by
  unfold pushOrder
  rw [h, ofExcept_bind_run]
  cases finishable with
  | false => rfl
  | true =>
    have hok := saveStatus_ok .tradeFinished order s
    change (order.saveStatus .tradeFinished >>= fun _ => pushStatus order.saleTradeId).run s = _
    have hrun : (order.saveStatus .tradeFinished).run s = (.ok (), finished order s) :=
      Prod.ext hok rfl
    rw [bind_ok hrun, if_pos rfl]

theorem allAgree_pushOrder_left (hpaid : IsPaid (s.statuses t)) (horder : order ∈ s.orders)
    (hopen : isOpen order.status = true) (h : order.isFinishable around now = .ok false) :
    AllAgree t ((pushOrder around now order).run s).2 ↔ AllAgree t s := by
  rw [pushOrder_run h]
  change AllAgree t ((pushStatus order.saleTradeId).run s).2 ↔ _
  have hmem : order.saleTradeId = t → order.status ∈ s.statuses t :=
    fun ht => mem_statuses.2 ⟨order, horder, ht, rfl⟩
  have hclosed : isClosed order.status = false := by
    cases hs : order.status <;> simp_all [isOpen, isClosed]
  rw [allAgree_pushStatus hpaid _ fun ht => ⟨_, hmem ht, hclosed⟩]
  refine ⟨And.left, fun hall => ⟨hall, ?_⟩⟩
  intro ht hmixed
  have hnot := hmixed.noneOpen _ (hmem ht)
  rw [hopen] at hnot
  cases hnot

theorem allAgree_pushOrder_finished (hpaid : IsPaid (s.statuses t)) (horder : order ∈ s.orders)
    (h : order.isFinishable around now = .ok true) :
    AllAgree t ((pushOrder around now order).run s).2 ↔
      AllAgree t s ∧ (order.saleTradeId = t → ¬ Mixed ((finished order s).statuses t)) := by
  have hne : TradeStatus.tradeFinished ≠ .noCreatePay ∧
      TradeStatus.tradeFinished ≠ .waitBuyerPay := by decide
  have hreplaced := replaced_saveStatus horder .tradeFinished
  have hpaid' : IsPaid ((finished order s).statuses t) := hreplaced.isPaid hpaid fun _ => hne
  rw [pushOrder_run h]
  change AllAgree t ((pushStatus order.saleTradeId).run (finished order s)).2 ↔ _
  rw [allAgree_pushStatus hpaid' order.saleTradeId]
  · rw [finished, allAgree_saveStatus horder hpaid fun _ => hne, and_assoc]
    refine and_congr_right fun _ => ⟨And.right, fun hmixed => ⟨fun _ => hmixed, hmixed⟩⟩
  · rintro rfl
    exact ⟨.tradeFinished, hreplaced.statuses_trade.2 (Or.inl rfl), rfl⟩

theorem Replaced.mem_statuses_iff (h : Replaced order order' s s') (hold : order.status ≠ status)
    (hnew : order'.status ≠ status) (t : Nat) :
    status ∈ s'.statuses t ↔ status ∈ s.statuses t := by
  by_cases ht : order.saleTradeId = t
  · subst ht
    rw [h.statuses_trade, (Replaced.self h.before).statuses_trade]
    constructor
    · rintro (heq | hother)
      · exact absurd heq.symm hnew
      · exact Or.inr hother
    · rintro (heq | hother)
      · exact absurd heq.symm hold
      · exact Or.inr hother
  · exact h.statuses_other ht

theorem Replaced.open_iff
    (h : Replaced order order' s s') (hdone : isOpen order'.status = false) {row : SaleOrder}
    (hopen : isOpen row.status = true) :
    row ∈ s'.orders ↔ row ∈ s.orders ∧ row ≠ order := by
  rw [h.mem]
  constructor
  · rintro (rfl | ⟨hrow, hid⟩)
    · rw [hopen] at hdone
      cases hdone
    · exact ⟨hrow, fun heq => hid (heq ▸ rfl)⟩
  · rintro ⟨hrow, hne⟩
    exact Or.inr ⟨hrow, fun hid => hne (Table.pk_inj hrow h.before hid)⟩

theorem lastOnes_cons {l : List SaleOrder} (hopen : isOpen order.status = true)
    (h : order.isFinishable around now = .ok true)
    (hreplaced : Replaced order { order with status := .tradeFinished } s s') :
    LastOnes around now t (order :: l) s ↔
      (order.saleTradeId = t ∧ Mixed (s'.statuses t)) ∨ LastOnes around now t l s' := by
  have hfinishing : finishing around now (order :: l) = order :: finishing around now l :=
    finishing_ok h l
  have hne : order.status ≠ .tradeClosed := by
    intro heq
    rw [heq] at hopen
    cases hopen
  have hnew : TradeStatus.tradeFinished ≠ .tradeClosed := by decide
  have hclosed := hreplaced.mem_statuses_iff hne hnew t
  have hrows : ∀ {row : SaleOrder}, isOpen row.status = true →
      (row ∈ s'.orders ↔ row ∈ s.orders ∧ row ≠ order) :=
    fun hrow => hreplaced.open_iff rfl hrow
  constructor
  · rintro ⟨h6, ⟨first, hfirst, hfirstTrade, hfirstOpen⟩, hall⟩
    by_cases hleft : ∃ row ∈ s'.orders, row.saleTradeId = t ∧ isOpen row.status = true
    · refine Or.inr ⟨hclosed.2 h6, hleft, ?_⟩
      intro row hrow htrade hrowOpen
      obtain ⟨hold, hother⟩ := (hrows hrowOpen).1 hrow
      have hmem := hall row hold htrade hrowOpen
      rw [hfinishing] at hmem
      exact (List.mem_cons.1 hmem).resolve_left hother
    · have hlast : first = order := by
        by_contra hother
        exact hleft ⟨first, (hrows hfirstOpen).2 ⟨hfirst, hother⟩, hfirstTrade, hfirstOpen⟩
      subst hlast
      refine Or.inl ⟨hfirstTrade, hclosed.2 h6, ?_, ?_⟩
      · rw [← hfirstTrade]
        exact hreplaced.statuses_trade.2 (Or.inl rfl)
      · intro status hmem
        obtain ⟨row, hrow, htrade, rfl⟩ := mem_statuses.1 hmem
        by_contra hrowOpen
        exact hleft ⟨row, hrow, htrade, by simpa using hrowOpen⟩
  · rintro (⟨htrade, hmixed⟩ | ⟨h6, ⟨row, hrow, htrade, hrowOpen⟩, hall⟩)
    · refine ⟨hclosed.1 hmixed.closed, ⟨order, hreplaced.before, htrade, hopen⟩, ?_⟩
      intro row hrow hrowTrade hrowOpen
      rw [hfinishing]
      by_cases hother : row = order
      · exact List.mem_cons.2 (Or.inl hother)
      · have hmem : row.status ∈ s'.statuses t :=
          mem_statuses.2 ⟨row, (hrows hrowOpen).2 ⟨hrow, hother⟩, hrowTrade, rfl⟩
        have hnot := hmixed.noneOpen _ hmem
        rw [hrowOpen] at hnot
        cases hnot
    · refine ⟨hclosed.1 h6, ⟨row, ((hrows hrowOpen).1 hrow).1, htrade, hrowOpen⟩, ?_⟩
      intro row' hrow' htrade' hopen'
      rw [hfinishing]
      by_cases hother : row' = order
      · exact List.mem_cons.2 (Or.inl hother)
      · exact List.mem_cons.2
          (Or.inr (hall row' ((hrows hopen').2 ⟨hrow', hother⟩) htrade' hopen'))

theorem lastOnes_same {l : List SaleOrder} (h : SameOrders s s') :
    LastOnes around now t l s' ↔ LastOnes around now t l s := by
  have hstatuses := h.statuses t
  constructor
  · rintro ⟨h6, hopen, hall⟩
    rw [h.orders] at hopen hall
    exact ⟨hstatuses ▸ h6, hopen, hall⟩
  · rintro ⟨h6, hopen, hall⟩
    rw [← h.orders] at hopen hall
    exact ⟨hstatuses.symm ▸ h6, hopen, hall⟩

theorem not_lastOnes_of_nil {l : List SaleOrder} (h : finishing around now l = []) :
    ¬ LastOnes around now t l s := by
  rintro ⟨-, ⟨order, horder, htrade, hopen⟩, hall⟩
  have hmem := hall order horder htrade hopen
  rw [h] at hmem
  cases hmem

theorem allAgree_forEach_pushOrder (around : Surroundings) (now t : Nat) (l : List SaleOrder) :
    ∀ s : OrderDb, IsPaid (s.statuses t) →
      (∀ order ∈ l, order ∈ s.orders ∧ isOpen order.status = true) → l.Nodup →
      (AllAgree t ((forEach l (pushOrder around now)).run s).2 ↔
        AllAgree t s ∧ ¬ LastOnes around now t l s) := by
  induction l with
  | nil =>
    intro s _ _ _
    exact ⟨fun h => ⟨h, not_lastOnes_of_nil rfl⟩, And.left⟩
  | cons order l ih =>
    intro s hpaid hl hnodup
    obtain ⟨horder, hopen⟩ := hl order (List.mem_cons_self ..)
    obtain ⟨hnot, hnodup⟩ := List.nodup_cons.1 hnodup
    rw [forEach_cons]
    cases hfin : order.isFinishable around now with
    | error e =>
      rw [bind_error (pushOrder_error hfin s)]
      exact ⟨fun h => ⟨h, not_lastOnes_of_nil (finishing_error hfin l)⟩, And.left⟩
    | ok finishable =>
      have hok : (pushOrder around now order).run s =
          (.ok (), ((pushOrder around now order).run s).2) := by
        refine Prod.ext ?_ rfl
        rw [pushOrder_run hfin]
        exact pushStatus_ok _ _
      rw [bind_ok hok]
      cases finishable with
      | false =>
        have hsame : SameOrders s ((pushOrder around now order).run s).2 := by
          rw [pushOrder_run hfin]
          exact pushStatus_same _ _
        have hlast : finishing around now (order :: l) = finishing around now l :=
          finishing_ok hfin l
        have hrest := ih _ (by rw [hsame.statuses]; exact hpaid)
          (fun row hrow => by
            rw [hsame.orders]
            exact hl row (List.mem_cons_of_mem _ hrow)) hnodup
        rw [hrest, allAgree_pushOrder_left hpaid horder hopen hfin, lastOnes_same hsame]
        refine and_congr_right fun _ => not_congr ?_
        constructor
        · rintro ⟨h6, hsome, hall⟩
          exact ⟨h6, hsome, hlast.symm ▸ hall⟩
        · rintro ⟨h6, hsome, hall⟩
          exact ⟨h6, hsome, hlast ▸ hall⟩
      | true =>
        have hreplaced : Replaced order { order with status := .tradeFinished } s
            ((pushOrder around now order).run s).2 := by
          rw [pushOrder_run hfin]
          exact (replaced_saveStatus horder .tradeFinished).then_same (pushStatus_same _ _)
        have hsame : SameOrders (finished order s)
            ((pushOrder around now order).run s).2 := by
          rw [pushOrder_run hfin]
          exact pushStatus_same _ _
        have hne : TradeStatus.tradeFinished ≠ .noCreatePay ∧
            TradeStatus.tradeFinished ≠ .waitBuyerPay := by decide
        have hrest := ih _ (hreplaced.isPaid hpaid fun _ => hne)
          (fun row hrow => by
            obtain ⟨hmem, hrowOpen⟩ := hl row (List.mem_cons_of_mem _ hrow)
            refine ⟨(hreplaced.open_iff rfl hrowOpen).2 ⟨hmem, ?_⟩, hrowOpen⟩
            rintro rfl
            exact hnot hrow) hnodup
        rw [hrest, allAgree_pushOrder_finished hpaid horder hfin,
          lastOnes_cons hopen hfin hreplaced, hsame.statuses, not_or, and_assoc, not_and]

/-! ## Refunds -/

theorem save_run_order (order : SaleOrder) (s : OrderDb) :
    order.save.run s =
      order.updateSaletradeStatus.run { s with orders := s.orders.save order } := rfl

theorem save_ok (order : SaleOrder) (s : OrderDb) : (order.save.run s).1 = .ok () := by
  rw [save_run_order]
  exact updateSaletradeStatus_ok _ _

theorem replaced_run_save (h : order ∈ s.orders)
    (hid : order'.id = order.id) (htrade : order'.saleTradeId = order.saleTradeId) :
    Replaced order order' s (order'.save.run s).2 := by
  have hput := replaced_save h hid htrade
  rw [save_run_order]
  exact hput.then_same (updateSaletradeStatus_same order' _)

theorem allAgree_save (order' : SaleOrder) (h : order ∈ s.orders) (hid : order'.id = order.id)
    (htrade : order'.saleTradeId = order.saleTradeId) (hpaid : IsPaid (s.statuses t))
    (hstatus : order.saleTradeId = t →
      order'.status ≠ .noCreatePay ∧ order'.status ≠ .waitBuyerPay) :
    AllAgree t (order'.save.run s).2 ↔ AllAgree t s ∧ (s.inBlock = false →
      order.saleTradeId = t → ¬ Mixed ((order'.save.run s).2.statuses t)) := by
  have hpaid' := (replaced_save h hid htrade).isPaid hpaid hstatus
  have hsame := updateSaletradeStatus_same order' { s with orders := s.orders.save order' }
  rw [save_run_order, hsame.statuses,
    allAgree_updateSaletradeStatus hpaid' fun ht => hstatus (htrade.symm.trans ht), htrade]
  exact Iff.rfl

theorem allAgree_syncTrade (hpaid : IsPaid (s.statuses t))
    (refund : SaleRefund) (trade : Nat) (hsome : trade = t → s.statuses t ≠ []) :
    AllAgree t ((refund.syncTrade trade).run s).2 ↔ AllAgree t s := by
  unfold SaleRefund.syncTrade
  rw [gets_bind_run]
  have hfirst : ∀ status : TradeStatus, (∀ st ∈ s.statuses trade, st = status) →
      trade = t → status ∈ s.statuses trade := by
    rintro status hall rfl
    obtain ⟨st, hst⟩ := List.exists_mem_of_ne_nil _ (hsome rfl)
    exact hall st hst ▸ hst
  cases hstatus : refund.status with
  | refundSuccess =>
    change AllAgree t ((setStatusIf _ _ _).run s).2 ↔ _
    rw [allAgree_setStatusIf]
    refine ⟨And.left, fun h => ⟨h, ?_⟩⟩
    rintro hall rfl
    refine (closed_agrees_iff hpaid ?_ trade).2 (hfirst _ hall rfl)
    intro st hst
    rw [hall st hst]
    rfl
  | refundClosed =>
    change AllAgree t ((setStatusIf _ _ _).run s).2 ↔ _
    rw [allAgree_setStatusIf]
    refine ⟨And.left, fun h => ⟨h, ?_⟩⟩
    rintro hall rfl
    have hnone : NoneOpen (s.statuses trade) := by
      intro st hst
      rw [hall st hst]
      rfl
    refine (finished_agrees_iff hpaid hnone (hfirst _ hall rfl) trade).2 ?_
    intro hmixed
    have h6 := hall _ hmixed.closed
    cases h6
  | _ => exact Iff.rfl

theorem syncTrade_same (refund : SaleRefund) (trade : Nat) (s : OrderDb) :
    SameOrders s ((refund.syncTrade trade).run s).2 := by
  unfold SaleRefund.syncTrade
  rw [gets_bind_run]
  cases refund.status with
  | refundSuccess => exact setStatusIf_same _ _ _ _
  | refundClosed => exact setStatusIf_same _ _ _ _
  | _ => exact SameOrders.refl s

theorem syncTrade_ok (refund : SaleRefund) (trade : Nat) (s : OrderDb) :
    ((refund.syncTrade trade).run s).1 = .ok () := by
  unfold SaleRefund.syncTrade
  rw [gets_bind_run]
  cases refund.status with
  | refundSuccess => exact setStatusIf_ok _ _ _ _
  | refundClosed => exact setStatusIf_ok _ _ _ _
  | _ => rfl

def Closes (refund : SaleRefund) (order : SaleOrder) : Prop :=
  refund.refundNum = order.num ∧ refund.status = .refundSuccess

def Finishes (refund : SaleRefund) (order : SaleOrder) : Prop :=
  refund.refundNum = order.num ∧ refund.status = .refundClosed

variable {refund : SaleRefund}

theorem syncStatus_closes (h : Closes refund order) :
    refund.syncStatus order = .tradeClosed := by
  unfold SaleRefund.syncStatus
  rw [if_pos h.1, h.2]

theorem syncStatus_finishes
    (h : Finishes refund order) : refund.syncStatus order = .tradeFinished := by
  unfold SaleRefund.syncStatus
  rw [if_pos h.1, h.2]

theorem syncStatus_else (hc : ¬ Closes refund order)
    (hf : ¬ Finishes refund order) : refund.syncStatus order = order.status := by
  unfold SaleRefund.syncStatus
  split
  · rename_i hnum
    cases hstatus : refund.status with
    | refundSuccess => exact absurd ⟨hnum, hstatus⟩ hc
    | refundClosed => exact absurd ⟨hnum, hstatus⟩ hf
    | _ => rfl
  · rfl

theorem syncStatus_paid (h : order.status ≠ .noCreatePay ∧ order.status ≠ .waitBuyerPay) :
    refund.syncStatus order ≠ .noCreatePay ∧ refund.syncStatus order ≠ .waitBuyerPay := by
  by_cases hc : Closes refund order
  · rw [syncStatus_closes hc]
    decide
  by_cases hf : Finishes refund order
  · rw [syncStatus_finishes hf]
    decide
  rw [syncStatus_else hc hf]
  exact h

structure Linked (refund : SaleRefund) (order : SaleOrder) (s : OrderDb) : Prop where
  mem : order ∈ s.orders
  orderId : order.id = refund.orderId
  tradeId : order.saleTradeId = refund.tradeId
  trade : ∃ trade ∈ s.trades, trade.id = refund.tradeId

theorem refund_save_run
    (h : Linked refund order s) : refund.save.run s = (refund.sync order).save.run
      ((refund.syncTrade refund.tradeId).run { s with refunds := s.refunds.save refund }).2 := by
  obtain ⟨trade, htrade, htradeId⟩ := h.trade
  have hgetOrder : s.orders.get? refund.orderId = some order :=
    Table.get?_eq_some.2 ⟨h.mem, h.orderId⟩
  have hgetTrade : s.trades.get? refund.tradeId = some trade :=
    Table.get?_eq_some.2 ⟨htrade, htradeId⟩
  unfold SaleRefund.save SaleRefund.syncSaleRefundStatus SaleOrder.get SaleTrade.get
  rw [modify_bind_run, getOr_bind_run]
  simp only [hgetOrder]
  rw [getOr_bind_run]
  simp only [hgetTrade, htradeId]
  have hrun : (refund.syncTrade refund.tradeId).run { s with refunds := s.refunds.save refund } =
      (.ok (), ((refund.syncTrade refund.tradeId).run
        { s with refunds := s.refunds.save refund }).2) :=
    Prod.ext (syncTrade_ok _ _ _) rfl
  rw [bind_ok hrun]

theorem refund_saved
    (h : Linked refund order s) : Replaced order (refund.sync order) s (refund.save.run s).2 := by
  have hsame : SameOrders s ((refund.syncTrade refund.tradeId).run
      { s with refunds := s.refunds.save refund }).2 := by
    have hsync := syncTrade_same refund refund.tradeId { s with refunds := s.refunds.save refund }
    exact ⟨hsync.orders, hsync.inBlock⟩
  have horder : order ∈ ((refund.syncTrade refund.tradeId).run
      { s with refunds := s.refunds.save refund }).2.orders := by
    rw [hsame.orders]
    exact h.mem
  have hsaved : Replaced order (refund.sync order) _ _ := replaced_run_save horder rfl rfl
  rw [refund_save_run h]
  refine ⟨h.mem, fun row => ?_, rfl, hsaved.inBlock.trans hsame.inBlock⟩
  rw [hsaved.mem, hsame.orders]

theorem refund_save_ok (h : Linked refund order s) : (refund.save.run s).1 = .ok () := by
  rw [refund_save_run h]
  exact save_ok _ _

theorem allAgree_refund_save (h : Linked refund order s) (hpaid : IsPaid (s.statuses t)) :
    AllAgree t (refund.save.run s).2 ↔ AllAgree t s ∧ (s.inBlock = false →
      order.saleTradeId = t → ¬ Mixed ((refund.save.run s).2.statuses t)) := by
  have hsync := syncTrade_same refund refund.tradeId { s with refunds := s.refunds.save refund }
  have horder : order ∈ ((refund.syncTrade refund.tradeId).run
      { s with refunds := s.refunds.save refund }).2.orders := by
    rw [hsync.orders]
    exact h.mem
  have hpaid' : IsPaid (((refund.syncTrade refund.tradeId).run
      { s with refunds := s.refunds.save refund }).2.statuses t) := by
    rw [hsync.statuses]
    exact hpaid
  have hstatus : order.saleTradeId = t → (refund.sync order).status ≠ .noCreatePay ∧
      (refund.sync order).status ≠ .waitBuyerPay := by
    rintro rfl
    exact syncStatus_paid (hpaid _ (mem_statuses.2 ⟨order, h.mem, rfl, rfl⟩))
  have hsome : refund.tradeId = t → s.statuses t ≠ [] := by
    rintro rfl
    exact List.ne_nil_of_mem (mem_statuses.2 ⟨order, h.mem, h.tradeId, rfl⟩)
  have htrade := allAgree_syncTrade (t := t) (s := { s with refunds := s.refunds.save refund })
    hpaid refund refund.tradeId hsome
  rw [refund_save_run h, allAgree_save (refund.sync order) horder rfl rfl hpaid' hstatus,
    htrade, hsync.inBlock]
  exact Iff.rfl

structure Quiet (s s' : OrderDb) : Prop where
  orders : s'.orders = s.orders
  inBlock : s'.inBlock = s.inBlock
  statusWrites : s'.statusWrites = s.statusWrites

theorem Quiet.refl (s : OrderDb) : Quiet s s := ⟨rfl, rfl, rfl⟩

theorem Quiet.trans (s s' s'' : OrderDb) (h : Quiet s s') (h' : Quiet s' s'') : Quiet s s'' :=
  ⟨h'.orders.trans h.orders, h'.inBlock.trans h.inBlock, h'.statusWrites.trans h.statusWrites⟩

theorem Quiet.allAgree (h : Quiet s s') (t : Nat) :
    AllAgree t s' ↔ AllAgree t s := by
  unfold AllAgree
  rw [h.statusWrites]

theorem setPsiCancel_quiet (around : Surroundings) (order : SaleOrder) :
    Keeps Quiet (order.setPsiCancel around) := by
  refine Keeps.bind Quiet.trans (Keeps.gets Quiet.refl _) fun item => ?_
  cases item with
  | none => exact Keeps.pure Quiet.refl _
  | some item =>
    refine Keeps.bind Quiet.trans (Keeps.raiseIf Quiet.refl _ _) fun _ => ?_
    refine Keeps.bind Quiet.trans (Keeps.raiseIf Quiet.refl _ _) fun _ => ?_
    refine Keeps.bind Quiet.trans (Keeps.ofExcept Quiet.refl _) fun _ => ?_
    exact Keeps.modify fun s => ⟨rfl, rfl, rfl⟩

theorem create_quiet (around : Surroundings) (order : SaleOrder) :
    Keeps Quiet (PackageSkuItem.create around order) := by
  refine Keeps.bind Quiet.trans (Keeps.raiseIf Quiet.refl _ _) fun _ => ?_
  exact Keeps.modify fun s => ⟨rfl, rfl, rfl⟩

theorem teambuyCanSend_quiet (around : Surroundings) (trade : SaleTrade) (order : SaleOrder) :
    Keeps Quiet (order.teambuyCanSend around trade) := by
  unfold SaleOrder.teambuyCanSend
  exact Keeps.ite _ (Keeps.ofExcept Quiet.refl _) (Keeps.pure Quiet.refl _)

theorem setPsiPaid_quiet (around : Surroundings) (order : SaleOrder) :
    Keeps Quiet (order.setPsiPaid around) := by
  refine Keeps.bind Quiet.trans (Keeps.getOr Quiet.refl _ _) fun trade => ?_
  refine Keeps.ite _ (Keeps.pure Quiet.refl _) ?_
  refine Keeps.bind Quiet.trans (teambuyCanSend_quiet around trade order) fun canSend => ?_
  refine Keeps.bind Quiet.trans (Keeps.gets Quiet.refl _) fun item => ?_
  exact Keeps.ite _ (create_quiet around order) (Keeps.pure Quiet.refl _)

theorem cancelItem_quiet (around : Surroundings) (refund : SaleRefund) (order : SaleOrder) :
    Keeps Quiet (refund.cancelItem around order) := by
  unfold SaleRefund.cancelItem
  exact Keeps.ite _ (setPsiCancel_quiet around order) (Keeps.pure Quiet.refl _)

theorem not_mixed_of_open {row : SaleOrder} (h : row ∈ s.orders)
    (htrade : row.saleTradeId = t) (hopen : isOpen row.status = true) :
    ¬ Mixed (s.statuses t) := by
  intro hmixed
  have hnot := hmixed.noneOpen _ (mem_statuses.2 ⟨row, h, htrade, rfl⟩)
  rw [hopen] at hnot
  cases hnot

theorem closeTrade_run (trade : Nat) (s : OrderDb) : (SaleRefund.closeTrade trade).run s =
    (setStatusIf ((s.normalOrders trade).length = 0) .tradeClosed trade).run s := rfl

theorem allAgree_closeOrder (around : Surroundings)
    (refund : SaleRefund) (h : order ∈ s.orders) (hpaid : IsPaid (s.statuses t))
    (hs' : ((order.saveStatus (SaleOrder.closedByRefund order.status)).run s).2 = s') :
    AllAgree t ((refund.closeOrder around order).run s).2 ↔ AllAgree t s ∧
      (order.saleTradeId = t → (s.inBlock = false → ¬ Mixed (s'.statuses t)) ∧
        ((∀ status ∈ s'.statuses t, isClosed status = true) →
          TradeStatus.tradeClosed ∈ s'.statuses t)) := by
  have hstatus : order.saleTradeId = t →
      SaleOrder.closedByRefund order.status ≠ .noCreatePay ∧
        SaleOrder.closedByRefund order.status ≠ .waitBuyerPay := by
    rintro rfl
    have hold := hpaid _ (mem_statuses.2 ⟨order, h, rfl, rfl⟩)
    cases hs : order.status <;> simp_all [SaleOrder.closedByRefund]
  have hreplaced := replaced_saveStatus h (SaleOrder.closedByRefund order.status)
  have hagree := allAgree_saveStatus (t := t) h hpaid hstatus
  have hpaid' : IsPaid (s'.statuses t) := by
    rw [← hs']
    exact hreplaced.isPaid hpaid hstatus
  have hrun : (order.saveStatus (SaleOrder.closedByRefund order.status)).run s = (.ok (), s') :=
    Prod.ext (saveStatus_ok _ _ _) hs'
  rw [hs'] at hagree
  unfold SaleRefund.closeOrder
  rw [bind_ok hrun]
  have hclose : (SaleRefund.closeTrade order.saleTradeId).run s' =
      (.ok (), ((SaleRefund.closeTrade order.saleTradeId).run s').2) :=
    Prod.ext (setStatusIf_ok _ _ _ _) rfl
  rw [bind_ok hclose]
  have hrest : Keeps Quiet (ofExcept around.afterwards >>= fun _ =>
      refund.cancelItem around order) :=
    Keeps.bind Quiet.trans (Keeps.ofExcept Quiet.refl _) fun _ => cancelItem_quiet around refund order
  rw [(hrest _).allAgree, closeTrade_run, allAgree_setStatusIf, hagree, and_assoc]
  refine and_congr_right fun _ => ?_
  constructor
  · rintro ⟨hmixed, hclosed⟩ rfl
    refine ⟨fun hblock => hmixed hblock rfl, fun hall => ?_⟩
    exact (closed_agrees_iff hpaid' hall _).1
      (hclosed ((normalOrders_nil hpaid').2 hall) rfl)
  · intro hboth
    refine ⟨fun hblock ht => (hboth ht).1 hblock, ?_⟩
    rintro hnil rfl
    have hall := (normalOrders_nil hpaid').1 hnil
    exact (closed_agrees_iff hpaid' hall _).2 ((hboth rfl).2 hall)

/-! ## The rest of a partial refund -/

structure Placed (order stored : SaleOrder) (s s' : OrderDb) : Prop where
  mem : ∀ row, row ∈ s'.orders ↔ row ∈ s.orders ∨ row = stored
  id : ∀ row ∈ s.orders, row.id ≠ stored.id
  trade : stored.saleTradeId = order.saleTradeId
  status : stored.status = order.status
  inBlock : s'.inBlock = s.inBlock

theorem insert_run (order : SaleOrder) (s : OrderDb) : order.insert.run s =
    if (s.orders.first fun row => row.oid = order.oid).isSome = true then
      (.error .integrityError, s)
    else (.ok (s.orders.stored order),
      ((s.orders.stored order).updateSaletradeStatus.run
        { s with orders := s.orders.insert order }).2) := by
  unfold SaleOrder.insert
  rw [gets_bind_run, raiseIf_bind_run]
  by_cases htaken : (s.orders.first fun row => row.oid = order.oid).isSome = true
  · rw [if_pos htaken, if_pos htaken]
  · rw [if_neg htaken, if_neg htaken, gets_bind_run, modify_bind_run]
    have hok : (s.orders.stored order).updateSaletradeStatus.run
        { s with orders := s.orders.insert order } = (.ok (), _) :=
      Prod.ext (updateSaletradeStatus_ok _ _) rfl
    rw [bind_ok hok]
    rfl

theorem placeOrder_run (around : Surroundings) (order : SaleOrder) (s : OrderDb) :
    (SaleTrade.placeOrder around order).run s =
      if (s.orders.first fun row => row.oid = order.oid).isSome = true then
        (.error .integrityError, s)
      else ((s.orders.stored order).setPsiPaid around).run
        ((s.orders.stored order).updateSaletradeStatus.run
          { s with orders := s.orders.insert order }).2 := by
  unfold SaleTrade.placeOrder
  rw [bind_run, insert_run]
  by_cases htaken : (s.orders.first fun row => row.oid = order.oid).isSome = true
  · rw [if_pos htaken, if_pos htaken]
  · rw [if_neg htaken, if_neg htaken]

theorem placed_insert (order : SaleOrder) (s : OrderDb) :
    Placed order (s.orders.stored order) s
      ((s.orders.stored order).updateSaletradeStatus.run
        { s with orders := s.orders.insert order }).2 := by
  have hsame := updateSaletradeStatus_same (s.orders.stored order)
    { s with orders := s.orders.insert order }
  refine ⟨fun row => ?_, fun row hrow => ?_, rfl, rfl, hsame.inBlock⟩
  · rw [hsame.orders]
    exact Table.mem_insert
  · exact Nat.ne_of_lt (Table.pk_lt_nextId hrow)

theorem Placed.isPaid {stored : SaleOrder} (h : Placed order stored s s')
    (hpaid : IsPaid (s.statuses t)) (hstatus : isOpen order.status = true) :
    IsPaid (s'.statuses t) := by
  intro status hmem
  obtain ⟨row, hrow, htrade, rfl⟩ := mem_statuses.1 hmem
  rcases (h.mem row).1 hrow with hold | rfl
  · exact hpaid _ (mem_statuses.2 ⟨row, hold, htrade, rfl⟩)
  · rw [h.status]
    constructor <;> intro heq <;> rw [heq] at hstatus <;> cases hstatus

theorem allAgree_placeOrder (around : Surroundings)
    (hpaid : IsPaid (s.statuses t)) (hopen : isOpen order.status = true) (hagree : AllAgree t s) :
    (∃ e, (placeOrder around order).run s = (.error e, s)) ∨
      ∃ stored, Placed order stored s ((placeOrder around order).run s).2 ∧
        AllAgree t ((placeOrder around order).run s).2 := by
  rw [placeOrder_run]
  by_cases htaken : (s.orders.first fun row => row.oid = order.oid).isSome = true
  · rw [if_pos htaken]
    exact Or.inl ⟨_, rfl⟩
  · rw [if_neg htaken]
    have hput : Placed order (s.orders.stored order) s { s with orders := s.orders.insert order } :=
      ⟨fun row => Table.mem_insert, fun row hrow => Nat.ne_of_lt (Table.pk_lt_nextId hrow),
        rfl, rfl, rfl⟩
    have hplaced := placed_insert order s
    have hquiet := setPsiPaid_quiet around (s.orders.stored order)
      ((s.orders.stored order).updateSaletradeStatus.run
        { s with orders := s.orders.insert order }).2
    have hstored : isOpen (s.orders.stored order).status = true := hopen
    refine Or.inr ⟨s.orders.stored order, ⟨fun row => ?_, hplaced.id, rfl, rfl,
      hquiet.inBlock.trans hplaced.inBlock⟩, ?_⟩
    · rw [hquiet.orders]
      exact hplaced.mem row
    · rw [hquiet.allAgree, allAgree_updateSaletradeStatus (hput.isPaid hpaid hopen)]
      · refine ⟨hagree, fun _ ht => ?_⟩
        exact not_mixed_of_open ((hput.mem _).2 (Or.inr rfl)) ht hstored
      · intro _
        constructor <;> intro heq <;> rw [heq] at hstored <;> cases hstored

theorem allAgree_reissued (around : Surroundings)
    (refund : SaleRefund) (h : order ∈ s.orders) (hpaid : IsPaid (s.statuses t))
    (hwaits : order.status = .waitSellerSendGoods) (hrest : 0 < order.num - refund.refundNum)
    (hagree : AllAgree t s) :
    AllAgree t ((refund.reissueRest around order >>= fun _ =>
      refund.closeOrder around order).run s).2 := by
  have hopen : isOpen (order.inPlaceOf
      (order.numbered (s.saleOrders order.saleTradeId).length) order.skuId
      (order.num - refund.refundNum)).status = true := rfl
  have hreissue : (refund.reissueRest around order).run s = (placeOrder around
      (order.inPlaceOf (order.numbered (s.saleOrders order.saleTradeId).length) order.skuId
        (order.num - refund.refundNum))).run s := by
    unfold SaleRefund.reissueRest
    rw [if_pos ⟨hwaits, hrest⟩]
    rfl
  rcases allAgree_placeOrder around hpaid hopen hagree with ⟨e, herror⟩ | ⟨stored, hplaced, hafter⟩
  · rw [← hreissue] at herror
    rw [bind_error herror]
    exact hagree
  · have hpaid' := hplaced.isPaid hpaid hopen
    rw [← hreissue] at hplaced hafter hpaid'
    generalize hrun : (refund.reissueRest around order).run s = r at hplaced hafter hpaid'
    obtain ⟨result, s'⟩ := r
    cases result with
    | error e =>
      rw [bind_error hrun]
      exact hafter
    | ok u =>
      rw [bind_ok hrun]
      have horder : order ∈ s'.orders := (hplaced.mem order).2 (Or.inl h)
      have hstored : stored ∈ s'.orders := (hplaced.mem stored).2 (Or.inr rfl)
      have hkept : stored ∈ ((order.saveStatus
          (SaleOrder.closedByRefund order.status)).run s').2.orders :=
        ((replaced_saveStatus horder _).mem stored).2
          (Or.inr ⟨hstored, (hplaced.id order h).symm⟩)
      refine (allAgree_closeOrder around refund horder hpaid' rfl).2 ⟨hafter, fun ht => ?_⟩
      have htrade : stored.saleTradeId = t := hplaced.trade.trans ht
      have hstatus : stored.status = .waitSellerSendGoods := hplaced.status
      refine ⟨fun _ => not_mixed_of_open hkept htrade (by rw [hstatus]; rfl), fun hall => ?_⟩
      have hclosed := hall _ (mem_statuses.2 ⟨stored, hkept, htrade, rfl⟩)
      rw [hstatus] at hclosed
      cases hclosed

def ClosedBy (refund : SaleRefund) (order : SaleOrder) : Prop :=
  refund.refundNum = order.num ∨ isOpen order.status = true

def Reissues (refund : SaleRefund) (order : SaleOrder) : Prop :=
  order.status = .waitSellerSendGoods ∧ 0 < order.num - refund.refundNum

theorem Replaced.trans {order'' : SaleOrder} {s'' : OrderDb}
    (h : Replaced order order' s s') (hid : order'.id = order.id)
    (h' : Replaced order' order'' s' s'') : Replaced order order'' s s'' := by
  refine ⟨h.before, fun row => ?_, h'.trade.trans h.trade, h'.inBlock.trans h.inBlock⟩
  rw [h'.mem, h.mem, hid]
  constructor
  · rintro (rfl | ⟨rfl | hold, hne⟩)
    · exact Or.inl rfl
    · exact absurd hid hne
    · exact Or.inr hold
  · rintro (rfl | ⟨hold, hne⟩)
    · exact Or.inl rfl
    · exact Or.inr ⟨Or.inr ⟨hold, hne⟩, hne⟩

def refunded (refund : SaleRefund) (order : SaleOrder) : SaleOrder := refund.succeeded.sync order

theorem refunded_full
    (h : refund.refundNum = order.num) : (refunded refund order).status = .tradeClosed :=
  syncStatus_closes ⟨h, rfl⟩

theorem refunded_part
    (h : refund.refundNum ≠ order.num) : (refunded refund order).status = order.status := by
  refine syncStatus_else (fun hc => h hc.1) fun hf => ?_
  have hstatus : RefundStatus.refundSuccess = .refundClosed := hf.2
  cases hstatus

theorem closedByRefund_refunded (h : ClosedBy refund order) :
    SaleOrder.closedByRefund (refunded refund order).status = .tradeClosed := by
  by_cases hfull : refund.refundNum = order.num
  · rw [refunded_full hfull]
    rfl
  · rw [refunded_part hfull]
    have hopen := h.resolve_left hfull
    cases hs : order.status <;> first | rfl | (rw [hs] at hopen; cases hopen)

theorem closedByRefund_not (h : ¬ ClosedBy refund order) :
    SaleOrder.closedByRefund (refunded refund order).status = order.status := by
  rw [refunded_part fun hfull => h (Or.inl hfull)]
  cases hs : order.status <;> first | rfl | exact absurd (Or.inr (by rw [hs]; rfl)) h

theorem refundConfirm_run {srefund : SaleRefund}
    (h : Linked refund order s) (hrefund : srefund ∈ s.refunds)
    (hid : srefund.id = refund.id) (hstatus : srefund.status ≠ .refundSuccess) :
    (refund.refundConfirm around).run s =
      (refund.reissueRest around (refunded refund order) >>= fun _ =>
        refund.closeOrder around (refunded refund order)).run (refund.succeeded.save.run s).2 := by
  have hlinked : Linked refund.succeeded order s := ⟨h.mem, h.orderId, h.tradeId, h.trade⟩
  have hget : s.refunds.get? refund.id = some srefund := Table.get?_eq_some.2 ⟨hrefund, hid⟩
  have hsaved := refund_saved hlinked
  have hgetOrder : (refund.succeeded.save.run s).2.orders.get? refund.orderId =
      some (refunded refund order) :=
    Table.get?_eq_some.2 ⟨(hsaved.mem _).2 (Or.inl rfl), h.orderId⟩
  have hrun : refund.succeeded.save.run s = (.ok (), (refund.succeeded.save.run s).2) :=
    Prod.ext (refund_save_ok hlinked) rfl
  unfold SaleRefund.refundConfirm
  rw [getOr_bind_run]
  simp only [hget]
  rw [if_neg hstatus, bind_ok hrun]
  unfold SaleOrder.get
  rw [getOr_bind_run]
  simp only [hgetOrder]

/-- A refund that nothing is sent again for is right unless it leaves the orders mixed,
or finds only orders that the system has closed. -/
structure ConfirmSettles (refund : SaleRefund) (order : SaleOrder) (t : Nat) (s : OrderDb) :
    Prop where
  closed : s.inBlock = false → ClosedBy refund order →
    ¬ (TradeStatus.tradeFinished ∈ others s order ∧ NoneOpen (others s order))
  left : s.inBlock = false → ¬ ClosedBy refund order → ¬ Mixed (s.statuses t)
  bySys : ¬ ClosedBy refund order →
    ¬ ∀ status ∈ s.statuses t, status = TradeStatus.tradeClosedBySys

theorem confirmSettles_iff {s'' : OrderDb} (hsaved : Replaced order (refunded refund order) s s')
    (hdone : Replaced order order' s s'')
    (hstatus : order'.status = SaleOrder.closedByRefund (refunded refund order).status) :
    ((s.inBlock = false → ¬ Mixed (s'.statuses order.saleTradeId)) ∧
      (s.inBlock = false → ¬ Mixed (s''.statuses order.saleTradeId)) ∧
      ((∀ status ∈ s''.statuses order.saleTradeId, isClosed status = true) →
        TradeStatus.tradeClosed ∈ s''.statuses order.saleTradeId)) ↔
      ConfirmSettles refund order order.saleTradeId s := by
  by_cases hclosed : ClosedBy refund order
  · rw [closedByRefund_refunded hclosed] at hstatus
    have hmixed : Mixed (s''.statuses order.saleTradeId) ↔
        TradeStatus.tradeFinished ∈ others s order ∧ NoneOpen (others s order) := by
      rw [hdone.mixed_iff, hstatus]
      simp [isOpen]
    have hbefore : Mixed (s'.statuses order.saleTradeId) →
        Mixed (s''.statuses order.saleTradeId) := by
      rw [hsaved.mixed_iff, hmixed]
      rintro ⟨-, hfin | hfin, hopen, hnone⟩
      · by_cases hfull : refund.refundNum = order.num
        · rw [refunded_full hfull] at hfin
          cases hfin
        · rw [refunded_part hfull] at hopen
          rw [hclosed.resolve_left hfull] at hopen
          cases hopen
      · exact ⟨hfin, hnone⟩
    constructor
    · rintro ⟨-, hafter, -⟩
      exact ⟨fun hblock _ => hmixed.not.1 (hafter hblock), fun _ hnot => absurd hclosed hnot,
        fun hnot => absurd hclosed hnot⟩
    · intro h
      refine ⟨fun hblock hm => h.closed hblock hclosed (hmixed.1 (hbefore hm)),
        fun hblock hm => h.closed hblock hclosed (hmixed.1 hm), fun _ => ?_⟩
      exact hdone.statuses_trade.2 (Or.inl hstatus.symm)
  · rw [closedByRefund_not hclosed] at hstatus
    have hfull : refund.refundNum ≠ order.num := fun hfull => hclosed (Or.inl hfull)
    have hmem : ∀ status, status ∈ s''.statuses order.saleTradeId ↔
        status ∈ s.statuses order.saleTradeId := by
      intro status
      rw [hdone.statuses_trade, (Replaced.self hdone.before).statuses_trade, hstatus]
    have hmixed : Mixed (s''.statuses order.saleTradeId) ↔
        Mixed (s.statuses order.saleTradeId) := by
      rw [hdone.mixed_iff, (Replaced.self hdone.before).mixed_iff, hstatus]
    have hbefore : Mixed (s'.statuses order.saleTradeId) ↔
        Mixed (s.statuses order.saleTradeId) := by
      rw [hsaved.mixed_iff, (Replaced.self hdone.before).mixed_iff, refunded_part hfull]
    have hsys : ((∀ status ∈ s''.statuses order.saleTradeId, isClosed status = true) →
        TradeStatus.tradeClosed ∈ s''.statuses order.saleTradeId) ↔
        ¬ ∀ status ∈ s.statuses order.saleTradeId, status = TradeStatus.tradeClosedBySys := by
      simp only [hmem]
      constructor
      · intro h hall
        have h6 := h fun status hm => by rw [hall status hm]; rfl
        cases hall _ h6
      · intro h hall
        by_contra h6
        refine h fun status hm => ?_
        have hst := hall status hm
        cases hs : status with
        | tradeClosedBySys => rfl
        | tradeClosed => exact absurd (hs ▸ hm) h6
        | _ => rw [hs] at hst; cases hst
    rw [hbefore, hmixed, hsys]
    constructor
    · rintro ⟨h, -, hnot⟩
      exact ⟨fun _ hc => absurd hc hclosed, fun hblock _ => h hblock, fun _ => hnot⟩
    · intro h
      exact ⟨fun hblock => h.left hblock hclosed, fun hblock => h.left hblock hclosed,
        h.bySys hclosed⟩

theorem allAgree_refundConfirm {srefund : SaleRefund}
    (around : Surroundings) (h : Linked refund order s)
    (hpaid : IsPaid (s.statuses t)) (hrefund : srefund ∈ s.refunds)
    (hid : srefund.id = refund.id) (hstatus : srefund.status ≠ .refundSuccess)
    (hagree : AllAgree t s) :
    AllAgree t ((refund.refundConfirm around).run s).2 ↔
      (order.saleTradeId = t → ¬ Reissues refund order → ConfirmSettles refund order t s) := by
  have hlinked : Linked refund.succeeded order s := ⟨h.mem, h.orderId, h.tradeId, h.trade⟩
  have hsaved : Replaced order (refunded refund order) s (refund.succeeded.save.run s).2 :=
    refund_saved hlinked
  have hagreeSaved := allAgree_refund_save (t := t) hlinked hpaid
  have hpaidOrder : order.saleTradeId = t → order.status ≠ .noCreatePay ∧
      order.status ≠ .waitBuyerPay := by
    rintro rfl
    exact hpaid _ (mem_statuses.2 ⟨order, h.mem, rfl, rfl⟩)
  have hpaid' : IsPaid ((refund.succeeded.save.run s).2.statuses t) :=
    hsaved.isPaid hpaid fun ht => syncStatus_paid (hpaidOrder ht)
  rw [refundConfirm_run h hrefund hid hstatus]
  generalize hs' : (refund.succeeded.save.run s).2 = s' at hsaved hagreeSaved hpaid'
  have horder : refunded refund order ∈ s'.orders := (hsaved.mem _).2 (Or.inl rfl)
  by_cases hreissues : Reissues refund order
  · refine ⟨fun _ _ hnot => absurd hreissues hnot, fun _ => ?_⟩
    have hpart : refund.refundNum ≠ order.num := by
      have hrest := hreissues.2
      omega
    have hwaits : (refunded refund order).status = .waitSellerSendGoods :=
      (refunded_part hpart).trans hreissues.1
    refine allAgree_reissued around refund horder hpaid' hwaits hreissues.2 (hagreeSaved.2 ?_)
    refine ⟨hagree, fun _ ht => not_mixed_of_open horder (hsaved.trade.trans ht) ?_⟩
    rw [hwaits]
    rfl
  · have hnot : ¬ ((refunded refund order).status = .waitSellerSendGoods ∧
        0 < (refunded refund order).num - refund.refundNum) := by
      rintro ⟨hwaits, hrest⟩
      have hrest : 0 < order.num - refund.refundNum := hrest
      have hpart : refund.refundNum ≠ order.num := by omega
      exact hreissues ⟨(refunded_part hpart).symm.trans hwaits, hrest⟩
    have hskip : (refund.reissueRest around (refunded refund order)).run s' = (.ok (), s') := by
      unfold SaleRefund.reissueRest
      rw [if_neg hnot]
      rfl
    have hdone := hsaved.trans rfl (replaced_saveStatus horder
      (SaleOrder.closedByRefund (refunded refund order).status))
    rw [bind_ok hskip, allAgree_closeOrder around refund horder hpaid' rfl, hagreeSaved,
      hsaved.inBlock, hsaved.trade]
    constructor
    · rintro ⟨⟨-, hbefore⟩, hafter⟩ rfl -
      exact (confirmSettles_iff hsaved hdone rfl).1
        ⟨fun hblock => hbefore hblock rfl, (hafter rfl).1, (hafter rfl).2⟩
    · intro hsettles
      refine ⟨⟨hagree, ?_⟩, ?_⟩
      · rintro hblock rfl
        exact ((confirmSettles_iff hsaved hdone rfl).2 (hsettles rfl hreissues)).1 hblock
      · rintro rfl
        exact ((confirmSettles_iff hsaved hdone rfl).2 (hsettles rfl hreissues)).2

/-! ## The writers of the status -/

/-- What may write the status of a trade: the task of the hook, the end of an atomic
block, the daily task, a saved refund and a confirmed one. -/
inductive Call where
  | update (trade : Nat)
  | commit
  | push (around : Surroundings) (now preDays : Nat)
  | save (refund : SaleRefund)
  | confirm (around : Surroundings) (refund : SaleRefund)

namespace Call

def exec (s : OrderDb) : Call → OrderDb
  | update trade => ((tasksUpdateSaleTradeStatus trade).run s).2
  | commit => (SaleTrade.commit.run s).2
  | push around now preDays => ((taskPushSaleTradeFinished around now preDays).run s).2
  | save refund => (refund.save.run s).2
  | confirm around refund => ((refund.refundConfirm around).run s).2

def written (call : Call) (s : OrderDb) : List StatusWrite :=
  (call.exec { s with statusWrites := [] }).statusWrites

def IsLinked (s : OrderDb) : Call → Prop
  | save refund | confirm _ refund => ∃ order, Linked refund order s
  | _ => True

/-- When a call writes the right status of the trade `t`, by what it finds. -/
def Settles (t : Nat) (s : OrderDb) : Call → Prop
  | update trade => trade = t → ¬ Mixed (s.statuses t)
  | commit => t ∈ s.onCommit → ¬ Mixed (s.statuses t)
  | push around now preDays =>
      ¬ LastOnes around now t (s.orders.filter (SaleOrder.isDue now preDays)) s
  | save refund => s.inBlock = false → ∀ order, Linked refund order s → order.saleTradeId = t →
      (Closes refund order →
        ¬ (TradeStatus.tradeFinished ∈ others s order ∧ NoneOpen (others s order))) ∧
      (Finishes refund order →
        ¬ (TradeStatus.tradeClosed ∈ others s order ∧ NoneOpen (others s order))) ∧
      (¬ Closes refund order → ¬ Finishes refund order → ¬ Mixed (s.statuses t))
  | confirm _ refund => ∀ srefund ∈ s.refunds, srefund.id = refund.id →
      srefund.status ≠ .refundSuccess → ∀ order, Linked refund order s →
        order.saleTradeId = t → ¬ Reissues refund order → ConfirmSettles refund order t s

end Call

def UpToDate (t : Nat) (s : OrderDb) : Prop :=
  ∀ trade ∈ ((tasksUpdateSaleTradeStatus t).run s).2.trades, trade.id = t →
    NotBehind trade.status (s.statuses t)

theorem upToDate (hpaid : IsPaid (s.statuses t)) : UpToDate t s := by
  intro trade htrade hid
  by_cases hne : s.statuses t = []
  · rw [hne]
    rintro ⟨st, hst, -⟩
    cases hst
  · obtain ⟨status, hder⟩ := derived_isSome hpaid hne
    rw [tasksUpdate_run, hder] at htrade
    have hrow : trade ∈ s.trades.update (fun row => decide (row.id = t)) fun row =>
        { row with status := status } := htrade
    have hstatus : trade.status = status := by
      rcases Table.mem_update.1 hrow with ⟨row, -, -, rfl⟩ | ⟨-, hother⟩
      · rfl
      · exact absurd hid (of_decide_eq_false hother)
    rw [hstatus]
    exact not_behind_of_derived hpaid hder

theorem linked_unique (h : Linked refund order s) (h' : Linked refund order' s) : order' = order :=
  Table.pk_inj h'.mem h.mem (h'.orderId.trans h.orderId.symm)

theorem allAgree_forEach_update (due : List Nat) :
    ∀ s : OrderDb, IsPaid (s.statuses t) →
      (AllAgree t ((forEach due tasksUpdateSaleTradeStatus).run s).2 ↔
        AllAgree t s ∧ (t ∈ due → ¬ Mixed (s.statuses t))) := by
  induction due with
  | nil =>
    intro s _
    exact ⟨fun h => ⟨h, fun hmem => by cases hmem⟩, And.left⟩
  | cons trade due ih =>
    intro s hpaid
    have hsame := tasksUpdate_same trade s
    have hok : (tasksUpdateSaleTradeStatus trade).run s =
        (.ok (), ((tasksUpdateSaleTradeStatus trade).run s).2) := by
      refine Prod.ext ?_ rfl
      rw [tasksUpdate_run]
      cases derivedStatus (s.statuses trade) <;> rfl
    have hrest := ih ((tasksUpdateSaleTradeStatus trade).run s).2
      (by rw [hsame.statuses]; exact hpaid)
    rw [forEach_cons, bind_ok hok, hrest, allAgree_tasksUpdate hpaid, hsame.statuses, and_assoc,
      List.mem_cons, or_imp, eq_comm (a := trade)]

theorem allAgree_save_refund
    (h : Linked refund order s) (hpaid : IsPaid (s.statuses t)) (hagree : AllAgree t s) :
    AllAgree t (refund.save.run s).2 ↔ (Call.save refund).Settles t s := by
  have hsaved := refund_saved h
  have hself := (Replaced.self h.mem).mixed_iff
  have hmixed : order.saleTradeId = t → ((¬ Mixed ((refund.save.run s).2.statuses t)) ↔
      (Closes refund order →
        ¬ (TradeStatus.tradeFinished ∈ others s order ∧ NoneOpen (others s order))) ∧
      (Finishes refund order →
        ¬ (TradeStatus.tradeClosed ∈ others s order ∧ NoneOpen (others s order))) ∧
      (¬ Closes refund order → ¬ Finishes refund order → ¬ Mixed (s.statuses t))) := by
    rintro rfl
    rw [hsaved.mixed_iff]
    change ¬ ((refund.syncStatus order = _ ∨ _) ∧ (refund.syncStatus order = _ ∨ _) ∧
      isOpen (refund.syncStatus order) = _ ∧ _) ↔ _
    by_cases hc : Closes refund order
    · have hf : ¬ Finishes refund order := by
        intro hf
        have hstatus := hc.2.symm.trans hf.2
        cases hstatus
      rw [syncStatus_closes hc]
      simp [hc, hf, isOpen]
    by_cases hf : Finishes refund order
    · rw [syncStatus_finishes hf]
      simp [hc, hf, isOpen]
    · rw [syncStatus_else hc hf, ← hself]
      simp [hc, hf]
  rw [allAgree_refund_save h hpaid]
  constructor
  · rintro ⟨-, hall⟩ hblock order' hlinked ht
    rw [linked_unique h hlinked] at ht ⊢
    exact (hmixed ht).1 (hall hblock ht)
  · intro hsettles
    exact ⟨hagree, fun hblock ht => (hmixed ht).2 (hsettles hblock order h ht)⟩

theorem allAgree_confirm
    (around : Surroundings) (h : Linked refund order s) (hpaid : IsPaid (s.statuses t))
    (hagree : AllAgree t s) : AllAgree t ((refund.refundConfirm around).run s).2 ↔
      (Call.confirm around refund).Settles t s := by
  cases hget : s.refunds.get? refund.id with
  | none =>
    have hrun : (refund.refundConfirm around).run s = (.error .doesNotExist, s) := by
      unfold SaleRefund.refundConfirm
      rw [getOr_bind_run]
      simp only [hget]
    rw [hrun]
    refine ⟨fun _ srefund hmem hid => ?_, fun _ => hagree⟩
    rw [Table.get?_eq_some.2 ⟨hmem, hid⟩] at hget
    cases hget
  | some srefund =>
    obtain ⟨hmem, hid⟩ := Table.get?_eq_some.1 hget
    have honly : ∀ row ∈ s.refunds, row.id = refund.id → row = srefund :=
      fun row hrow hrowId => Table.pk_inj hrow hmem (hrowId.trans hid.symm)
    by_cases hstatus : srefund.status = .refundSuccess
    · have hrun : (refund.refundConfirm around).run s = (.ok (), s) := by
        unfold SaleRefund.refundConfirm
        rw [getOr_bind_run]
        simp only [hget]
        rw [if_pos hstatus]
        rfl
      rw [hrun]
      refine ⟨fun _ row hrow hrowId hrowStatus => ?_, fun _ => hagree⟩
      rw [honly row hrow hrowId] at hrowStatus
      exact absurd hstatus hrowStatus
    · rw [allAgree_refundConfirm around h hpaid hmem hid hstatus hagree]
      constructor
      · intro hsettles row _ _ _ order' hlinked
        rw [linked_unique h hlinked]
        exact hsettles
      · intro hsettles
        exact hsettles srefund hmem hid hstatus order h

theorem allAgree_exec_iff {call : Call} (hpaid : IsPaid (s.statuses t))
    (hlinked : call.IsLinked s) (hagree : AllAgree t s) :
    AllAgree t (call.exec s) ↔ call.Settles t s := by
  cases call with
  | update trade => exact (allAgree_tasksUpdate hpaid trade).trans (and_iff_right hagree)
  | commit =>
    have hpaid' : IsPaid (OrderDb.statuses { s with inBlock := false, onCommit := [] } t) := hpaid
    exact (allAgree_forEach_update s.onCommit _ hpaid').trans (and_iff_right hagree)
  | push around now preDays =>
    refine (allAgree_forEach_pushOrder around now t
      (s.orders.filter (SaleOrder.isDue now preDays)) s hpaid ?_ ?_).trans
      (and_iff_right hagree)
    · intro order horder
      obtain ⟨hmem, hdue⟩ := List.mem_filter.1 horder
      refine ⟨hmem, ?_⟩
      cases hs : order.status <;> simp_all [SaleOrder.isDue, isOpen]
    · exact (Table.nodup_rows _).filter _
  | save refund =>
    obtain ⟨order, horder⟩ := hlinked
    exact allAgree_save_refund horder hpaid hagree
  | confirm around refund =>
    obtain ⟨order, horder⟩ := hlinked
    exact allAgree_confirm around horder hpaid hagree

theorem Linked.reset
    (h : Linked refund order s) (horders : s'.orders = s.orders) (htrades : s'.trades = s.trades) :
    Linked refund order s' :=
  ⟨by rw [horders]; exact h.mem, h.orderId, h.tradeId, by rw [htrades]; exact h.trade⟩

theorem settles_reset (t : Nat) (s : OrderDb) (call : Call) :
    call.Settles t { s with statusWrites := [] } ↔ call.Settles t s := by
  cases call with
  | update trade => exact Iff.rfl
  | commit => exact Iff.rfl
  | push around now preDays =>
    have hsame : SameOrders s { s with statusWrites := [] } := ⟨rfl, rfl⟩
    exact not_congr (lastOnes_same hsame)
  | save refund =>
    constructor
    · intro h hblock order horder
      exact h hblock order (horder.reset rfl rfl)
    · intro h hblock order horder
      exact h hblock order (horder.reset rfl rfl)
  | confirm around refund =>
    constructor
    · intro h srefund hmem hid hstatus order horder ht hreissues
      obtain ⟨hclosed, hleft, hsys⟩ :=
        h srefund hmem hid hstatus order (horder.reset rfl rfl) ht hreissues
      exact ⟨hclosed, hleft, hsys⟩
    · intro h srefund hmem hid hstatus order horder ht hreissues
      obtain ⟨hclosed, hleft, hsys⟩ :=
        h srefund hmem hid hstatus order (horder.reset rfl rfl) ht hreissues
      exact ⟨hclosed, hleft, hsys⟩

/-- The writers agree with the orders of a paid trade exactly where the orders are no
mixture of finished and refunded ones and not all closed by the system. -/
theorem status_writes_agree_iff (t : Nat) (s : OrderDb) (call : Call)
    (hpaid : IsPaid (s.statuses t)) (hlinked : call.IsLinked s) :
    ((∀ w ∈ call.written s, w.trade = t → w.Agrees) ∧ UpToDate t s) ↔ call.Settles t s := by
  have hagree : AllAgree t { s with statusWrites := [] } := fun w hw => by cases hw
  have hpaid' : IsPaid (OrderDb.statuses { s with statusWrites := [] } t) := hpaid
  have hlinked' : call.IsLinked { s with statusWrites := [] } := by
    cases call with
    | save refund => exact hlinked.imp fun order horder => horder.reset rfl rfl
    | confirm around refund => exact hlinked.imp fun order horder => horder.reset rfl rfl
    | _ => trivial
  rw [and_iff_left (upToDate hpaid), ← settles_reset]
  exact allAgree_exec_iff hpaid' hlinked' hagree

def plainSurroundings : Surroundings where
  productSku _ := true
  modelId _ := some 0
  sourceType _ := none
  canAssign _ _ := true
  teambuyCanSend _ := .ok false
  arrangementCancelled := .ok ()
  afterwards := .ok ()

def signedOrder : SaleOrder where
  id := 0
  saleTradeId := 1
  oid := "xo2"
  itemId := 1
  skuId := 2
  num := 1
  payTime := some 0
  consignTime := some 0
  signTime := some 0
  refundId := none
  refundFee := 0
  refundStatus := .noRefund
  status := .tradeBuyerSigned

def pairShop (first : TradeStatus) : OrderDb where
  trades := Table.empty.insert ⟨0, .saleOrder, .tradeBuyerSigned⟩
  orders := (Table.empty.insert { signedOrder with oid := "xo1", status := first }).insert
    signedOrder
  refunds := Table.empty
  packageSkuItems := Table.empty
  inBlock := false
  onCommit := []
  statusWrites := []

def monthlyPush : Call := .push plainSurroundings 2592000 10

theorem status_writes_agree_finished :
    (∀ w ∈ monthlyPush.written (pairShop .tradeFinished), w.trade = 1 → w.Agrees) ∧
      UpToDate 1 (pairShop .tradeFinished) := by
  have hpaid : IsPaid ((pairShop .tradeFinished).statuses 1) := by
    unfold IsPaid
    decide
  refine (status_writes_agree_iff 1 (pairShop .tradeFinished) monthlyPush hpaid trivial).2 ?_
  rintro ⟨h6, -, -⟩
  exact absurd h6 (by decide)

/-- One order refunded and one finished: the hook closes the trade and the task
finishes it. -/
theorem status_writes_agree_fail :
    ¬ ∀ (t : Nat) (s : OrderDb) (call : Call), IsPaid (s.statuses t) → call.IsLinked s →
      ((∀ w ∈ call.written s, w.trade = t → w.Agrees) ∧ UpToDate t s) := by
  intro hall
  have hpaid : IsPaid ((pairShop .tradeClosed).statuses 1) := by
    unfold IsPaid
    decide
  obtain ⟨hagrees, -⟩ := hall 1 (pairShop .tradeClosed) monthlyPush hpaid trivial
  have hmem : (⟨1, .tradeFinished, [.tradeClosed, .tradeFinished]⟩ : StatusWrite) ∈
      monthlyPush.written (pairShop .tradeClosed) := by decide
  have hder := (hagrees _ hmem rfl).derived
  exact absurd hder (by decide)

end ShopManager.Pay.Order
