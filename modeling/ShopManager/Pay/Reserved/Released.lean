import ShopManager.Pay.Reserved.Timeout

/-!
# Reservations are counted and released

The columns stay exact through every run, but for what is written behind the handlers.  After
the scheduled task no cart is overdue; that every unpaid trade whose time is over has been
closed or handed on holds exactly where the task finds no overdue cart, or no such trade.
-/

namespace ShopManager.Pay.Reserved

open Library Library.Tx Library.Execution
open Cart (CartStatus)
open Trade (TradeStatus normalOrderStatus)

variable {shop : Shop} {around : Surroundings} {s s' : ReserveDb}

def Expired (around : Surroundings) (trade : SaleTrade) : Prop :=
  trade.status = .waitBuyerPay ∧ trade.isPayable around.now = false

/-- What stands right after the task: no cart is overdue, and every trade that was not payable
is closed or has just been handed to `notifyTradePayTask`. -/
structure Released (around : Surroundings) (s s' : ReserveDb) : Prop where
  carts : ∀ cart ∈ s'.carts, overdue around.now cart = false
  trades : ∃ fresh, s'.notified = s.notified ++ fresh ∧
    ∀ trade ∈ s.trades, Expired around trade →
      (∃ row ∈ s'.trades, row.id = trade.id ∧ row.status = .tradeClosedBySys) ∨
        (around.retrieve trade.tid = .ok (some true) ∧ trade.tid ∈ fresh)

/-- There is no overdue cart or no expired trade, and every expired trade has a paid charge, or
one that is looked up and its means given back. -/
def TimelyAt (around : Surroundings) (s : ReserveDb) : Prop :=
  ((∀ cart ∈ s.carts, overdue around.now cart = false) ∨
      ∀ trade ∈ s.trades, ¬ Expired around trade) ∧
    ∀ trade ∈ s.trades, Expired around trade → ∃ charge, around.retrieve trade.tid = .ok charge ∧
      (charge = some true ∨ around.released trade.tid = true)

theorem notifies_iff {trade : SaleTrade} (h : Expired around trade) :
    notifies around trade = true ↔ around.retrieve trade.tid = .ok (some true) := by
  unfold notifies
  rw [h.2]
  cases around.retrieve trade.tid <;> simp

theorem closes_iff {trade : SaleTrade} (h : Expired around trade) :
    closes around trade = true ↔ ∃ charge, around.retrieve trade.tid = .ok charge ∧
      charge ≠ some true ∧ around.released trade.tid = true := by
  unfold closes
  rw [h.2]
  cases around.retrieve trade.tid <;> simp

theorem overdue_cancelled (now : Nat) (t : Table ShoppingCart) :
    ∀ cart ∈ t.update (overdue now) cancelCart, overdue now cart = false := by
  intro cart hcart
  obtain ⟨row, -, rfl⟩ := Table.exists_of_mem_update hcart
  split
  · rfl
  · next hnot => exact Bool.not_eq_true _ ▸ hnot

theorem closeTimeoutTrades_run (around : Surroundings) (s : ReserveDb) :
    ∃ s', (closeTimeoutTrades around).run s = (.ok (), s') ∧ s'.carts = s.carts ∧
      ∃ fresh, s'.notified = s.notified ++ fresh ∧
        ∀ trade ∈ s.trades, trade.status = .waitBuyerPay →
          afterTimeout around trade ∈ s'.trades ∧
            (notifies around trade = true → trade.tid ∈ fresh) := by
  have hnodup : ((s.trades.filter fun trade => decide (trade.status = .waitBuyerPay)).map
      SaleTrade.id).Nodup := by
    have hkeys : (s.trades.rows.map SaleTrade.id).Nodup := s.trades.sorted.imp ne_of_lt
    exact hkeys.sublist ((List.filter_sublist ..).map SaleTrade.id)
  obtain ⟨s', hrun, hcarts, hnotified, htrades, -⟩ := @closeTimeoutTrades_loop around _ s hnodup
    fun trade htrade => ⟨List.mem_of_mem_filter htrade,
      of_decide_eq_true (List.mem_filter.1 htrade).2⟩
  refine ⟨s', hrun, hcarts, _, hnotified, fun trade htrade hwaits => ?_⟩
  have hmem : trade ∈ s.trades.filter fun trade => decide (trade.status = .waitBuyerPay) :=
    List.mem_filter.2 ⟨htrade, decide_eq_true hwaits⟩
  refine ⟨htrades trade hmem, fun hnotifies => ?_⟩
  exact List.mem_map_of_mem (List.mem_filter.2 ⟨hmem, hnotifies⟩)

theorem released_iff (hs : Sound shop [] s) :
    Released around s (ReserveOp.exec shop (.taskScheduleCart around) s) ↔ TimelyAt around s := by
  obtain ⟨stocks, -, hrun⟩ := @taskScheduleCart_run shop around s hs
  have hexec : ReserveOp.exec shop (.taskScheduleCart around) s =
      ((if overdueSkus around.now s = [] then closeTimeoutTrades around else pure ()).run
        { s with
          carts := s.carts.update (overdue around.now) cancelCart
          stocks := stocks }).2 := congrArg Prod.snd hrun
  rw [hexec]
  by_cases hnone : overdueSkus around.now s = []
  · -- no cart is overdue: the trades take their turns
    rw [if_pos hnone]
    obtain ⟨s', hloop, hcarts, fresh, hnotified, htrades⟩ := closeTimeoutTrades_run around
      { s with
        carts := s.carts.update (overdue around.now) cancelCart
        stocks := stocks }
    rw [hloop]
    constructor
    · rintro ⟨-, fresh', hfresh', hreleased⟩
      obtain rfl : fresh = fresh' := List.append_cancel_left (hnotified.symm.trans hfresh')
      refine ⟨.inl (overdueSkus_eq_nil.1 hnone), fun trade htrade hexpired => ?_⟩
      obtain ⟨hafter, -⟩ := htrades trade htrade hexpired.1
      rcases hreleased trade htrade hexpired with ⟨row, hrow, hid, hstatus⟩ | ⟨hpaid, -⟩
      · have hidAfter : (afterTimeout around trade).id = trade.id := by
          unfold afterTimeout
          split <;> rfl
        obtain rfl : row = afterTimeout around trade :=
          Table.pk_inj hrow hafter (Eq.trans hid hidAfter.symm)
        by_cases hcloses : closes around trade = true
        · obtain ⟨charge, hcharge, -, hgiven⟩ := (closes_iff hexpired).1 hcloses
          exact ⟨charge, hcharge, .inr hgiven⟩
        · unfold afterTimeout at hstatus
          rw [if_neg hcloses, hexpired.1] at hstatus
          cases hstatus
      · exact ⟨some true, hpaid, .inl rfl⟩
    · rintro ⟨-, hcharges⟩
      refine ⟨?_, fresh, hnotified, fun trade htrade hexpired => ?_⟩
      · change ∀ cart ∈ s'.carts, _
        rw [hcarts]
        exact overdue_cancelled around.now s.carts
      · obtain ⟨hafter, hnotifies⟩ := htrades trade htrade hexpired.1
        obtain ⟨charge, hcharge, hpaid⟩ := hcharges trade htrade hexpired
        by_cases hsome : charge = some true
        · rw [hsome] at hcharge
          exact .inr ⟨hcharge, hnotifies ((notifies_iff hexpired).2 hcharge)⟩
        · have hcloses : closes around trade = true :=
            (closes_iff hexpired).2 ⟨charge, hcharge, hsome, hpaid.resolve_left hsome⟩
          refine .inl ⟨_, hafter, ?_, ?_⟩ <;>
            · unfold afterTimeout
              rw [if_pos hcloses]
  · -- some cart is overdue: the trades are not looked at
    rw [if_neg hnone]
    constructor
    · rintro ⟨-, fresh, hfresh, hreleased⟩
      have hnil : fresh = [] := List.self_eq_append_right.1 hfresh
      have hall : ∀ trade ∈ s.trades, ¬ Expired around trade := by
        intro trade htrade hexpired
        rcases hreleased trade htrade hexpired with ⟨row, hrow, hid, hstatus⟩ | ⟨-, hmem⟩
        · obtain rfl : row = trade := Table.pk_inj hrow htrade hid
          rw [hexpired.1] at hstatus
          cases hstatus
        · rw [hnil] at hmem
          exact List.not_mem_nil hmem
      exact ⟨.inr hall, fun trade htrade hexpired => absurd hexpired (hall trade htrade)⟩
    · rintro ⟨hone, -⟩
      have hall := hone.resolve_left fun hcarts => hnone (overdueSkus_eq_nil.2 hcarts)
      exact ⟨overdue_cancelled around.now s.carts, [], (List.append_nil _).symm,
        fun trade htrade hexpired => absurd hexpired (hall trade htrade)⟩

/-! ## Runs -/

/-- The operation writes nothing behind a handler: an order or a cart of the first version names
a SKU of its item, and a quantity that is changed by `update` is one that a queued job counts
or that counts nothing. -/
def Handled (shop : Shop) (s : ReserveDb) : ReserveOp → Prop
  | .createCartV1 request => SkuOfItem shop request.itemId request.skuId
  | .plusProductCartsV1 customer pk lockable locked =>
      lockable = true → locked = true → ∀ cart ∈ s.carts, cart.id = pk →
        ownCart customer cart = true → ∃ job ∈ s.pending, job.OfCart cart.skuId
  | .minusProductCartsV1 pk =>
      ∀ cart ∈ s.carts, cart.id = pk → 1 < cart.num → cart.status = .normal →
        ∃ job ∈ s.pending, job.OfCart cart.skuId
  | .buynowCreate _ _ _ itemId skuId _ => SkuOfItem shop itemId skuId
  | _ => True

theorem updateNum_inexact {cart : ShoppingCart} {num : Int} (hs : Sound shop [] s)
    (hnone : s.pending = []) (hcart : cart ∈ s.carts) (hnormal : cart.status = .normal)
    (hnum : num ≠ cart.num) : ¬ Exact ((updateNum cart num).run s).2 := by
  intro hexact
  have hbefore := congrArg SkuStock.shoppingcartNum (hs.exact hnone cart.skuId)
  have hafter := congrArg SkuStock.shoppingcartNum (hexact hnone cart.skuId)
  have hsum : s.carts.sum (cartCount cart.skuId) =
      (s.carts.save { cart with num := num }).sum (cartCount cart.skuId) :=
    hbefore.symm.trans hafter
  rw [Table.sum_save (a := { cart with num := num }) hcart rfl] at hsum
  have hold : cartCount cart.skuId cart = cart.num := if_pos ⟨rfl, hnormal⟩
  have hnew : cartCount cart.skuId { cart with num := num } = num := if_pos ⟨rfl, hnormal⟩
  rw [hold, hnew] at hsum
  omega

def Timely (s : ReserveDb) : ReserveOp → Prop
  | .taskScheduleCart around => TimelyAt around s
  | _ => True

def ReleasedAfter (shop : Shop) (s : ReserveDb) (op : ReserveOp) : Prop :=
  match op with
  | .taskScheduleCart around => Released around s (ReserveOp.exec shop op s)
  | _ => True

theorem exec_sound {op : ReserveOp} (hs : Sound shop [] s) (h : Handled shop s op) :
    Sound shop [] (op.exec shop s) := by
  cases op with
  | createCart request => exact createCart_sound request s hs
  | createCartV1 request => exact createCartV1_sound h s hs
  | plusProductCarts customer pk lockable locked freeNum =>
    exact plusProductCarts_sound customer pk lockable locked freeNum s hs
  | plusProductCartsV1 customer pk lockable locked => exact plusProductCartsV1_sound hs h
  | minusProductCarts pk => exact minusProductCarts_sound pk s hs
  | minusProductCartsV1 pk => exact minusProductCartsV1_sound hs h
  | closeCart pk => exact deleteCarts_sound pk s hs
  | shoppingcartCreate customer tid now cartIds =>
    exact shoppingcartCreate_sound customer now tid cartIds s hs
  | buynowCreate customer tid now itemId skuId num => exact buynowCreate_sound h s hs
  | setOrderPaid confirmed tradeId => exact chargeConfirm_sound confirmed tradeId s hs
  | closeTrade released tradeId => exact closeTrade_sound released tradeId s hs
  | taskScheduleCart around => exact taskScheduleCart_sound around s hs
  | runPending around i => exact runPending_sound around i s hs

theorem releasedAfter_iff (hs : Sound shop [] s) (op : ReserveOp) :
    ReleasedAfter shop s op ↔ Timely s op := by
  cases op with
  | taskScheduleCart around => exact released_iff hs
  | _ => exact Iff.rfl

theorem releasedAfter_run : ∀ (ops : List ReserveOp) {s : ReserveDb}, Sound shop [] s →
    Guarded (ReserveOp.exec shop) (Handled shop) ops s →
      (Guarded (ReserveOp.exec shop) (ReleasedAfter shop) ops s ↔
        Guarded (ReserveOp.exec shop) Timely ops s) := by
  intro ops
  induction ops with
  | nil =>
    intro s _ _
    exact Iff.rfl
  | cons op ops ih =>
    rintro s hs ⟨hop, hrest⟩
    exact and_congr (releasedAfter_iff hs op) (ih (exec_sound hs hop) hrest)

def oneSku : Shop where
  products := Table.empty.insert ⟨0, true, false⟩
  productSkus := Table.empty.insert ⟨0, 1, "red", "", true⟩
  isDeposit := fun _ _ => false

/-- A cart of two pieces that is kept for twenty minutes and a trade of three, both of the
start of the day. -/
def cartAndTrade : ReserveDb where
  carts := Table.empty.insert ⟨0, 7, 1, 1, 2, .flashsale, some twentyMinutes, .normal⟩
  trades := Table.empty.insert ⟨0, "xd1", 7, 0, .waitBuyerPay⟩
  orders := Table.empty.insert ⟨0, 1, 1, 1, 3, 0, .waitBuyerPay⟩
  stocks := fun skuId => if skuId = 1 then some ⟨2, 3, 0⟩ else none
  pending := []
  notified := []

/-- The task `minutes` after the start, with a charge that was never made. -/
def taskAfter (minutes : Nat) : Surroundings where
  now := minutes * 60 * 1000000
  retrieve := fun _ => .ok none
  released := fun _ => true

theorem cartAndTrade_sound : Sound oneSku [] cartAndTrade where
  carts := by
    intro skuId _
    by_cases h : skuId = 1
    · subst h
      rfl
    · simp [ReserveDb.stock, cartAndTrade, cartCount, Table.stored, Row.withPk, h, Ne.symm h]
  waiting := by
    intro skuId _
    by_cases h : skuId = 1
    · subst h
      rfl
    · simp [ReserveDb.stock, cartAndTrade, waitingpayCount, Table.stored, Row.withPk, h,
        Ne.symm h]
  paid := by
    intro skuId
    by_cases h : skuId = 1
    · subst h
      rfl
    · simp [ReserveDb.stock, cartAndTrade, paidCount, Table.stored, Row.withPk, h, Ne.symm h]
  known := fun _ hjob => absurd hjob List.not_mem_nil
  cartItem := by
    intro cart hcart
    obtain rfl := List.mem_singleton.1 hcart
    rfl
  orderItem := by
    intro order horder
    obtain rfl := List.mem_singleton.1 horder
    rfl
  unpaid := by
    intro trade _ _ order horder _
    obtain rfl := List.mem_singleton.1 horder
    decide
  placed := by
    intro order horder
    obtain rfl := List.mem_singleton.1 horder
    exact ⟨_, List.mem_singleton.2 rfl, rfl⟩

def cartRun : List ReserveOp :=
  [.minusProductCarts 1, .runPending (taskAfter 1) 0, .taskScheduleCart (taskAfter 22)]

end ShopManager.Pay.Reserved
