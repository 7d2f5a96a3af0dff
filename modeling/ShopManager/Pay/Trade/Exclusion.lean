import ShopManager.Library.Execution
import ShopManager.Pay.Trade.Spec

/-!
# A trade is paid or closed, and once

Requests that confirm a trade and requests that close it run at the same time.
The row lock makes each locked section one step; what follows a confirmation
runs after the lock, and the tasks that bring a status up to date run when they
like.
-/

namespace ShopManager.Pay.Trade

open Library Library.Tx Library.Execution Coupon

/-- A request or a task, at the point that it has reached. -/
inductive Handler where
  | received (clock : Clock) (notify : Notify)
  | confirming (clock : Clock) (id : Nat) (chargeTime : Option Nat) (charge : String)
  | confirmed (id : Nat)
  | closing (clock : Clock) (id : Nat)
  | updating (id : Nat)
  | finished

def Handler.step : Handler → PayTx Handler
  | received clock notify =>
      if notify.paid = false then pure finished else do
        let tcharge ← recordCharge notify
        let strade ← getOr .doesNotExist fun s =>
          s.saleTrades.first fun t => t.tid = notify.orderNo
        pure (confirming clock strade.id tcharge.timePaid tcharge.charge)
  | confirming clock id chargeTime charge => do
      let passed ← SaleTrade.chargeConfirmLocked clock id chargeTime charge
      pure (if passed then confirmed id else finished)
  | confirmed id => do
      SaleTrade.setOrderPaid id
      pure finished
  | closing clock id => do
      let _ ← SaleTrade.closeTrade clock id
      pure finished
  | updating id => do
      SaleTrade.tasksUpdateSaleTradeStatus id
      pure finished
  | finished => pure finished

structure System where
  db : PayDb
  handlers : List Handler

def System.advance (i : Nat) (sys : System) : System :=
  match sys.handlers[i]? with
  | none => sys
  | some handler =>
      let stepped := handler.step.run sys.db
      ⟨stepped.2, sys.handlers.set i (stepped.1.toOption.getD .finished)⟩

def System.start (db : PayDb) (handlers : List Handler) : System :=
  ⟨{ db with history := [] }, handlers⟩

def PayDb.trace (s : PayDb) (t : Nat) : List Event :=
  (s.history.filter fun entry => entry.1 = t).map Prod.snd

variable {s : PayDb} {t : Nat}

theorem PayDb.trace_append {s' : PayDb} {n : Nat} {events : List Event}
    (h : s'.history = s.history ++ events.map fun e => (n, e)) :
    s'.trace t = s.trace t ++ if n = t then events else [] := by
  have hstamped : ∀ events : List Event,
      ((events.map fun e => (n, e)).filter fun entry => entry.1 = t).map Prod.snd =
        if n = t then events else [] := by
    intro events
    induction events with
    | nil => simp
    | cons e events ih => by_cases hn : n = t <;> simp_all
  unfold PayDb.trace
  rw [h, List.filter_append, List.map_append, hstamped]

/-! ## What a step does to one trade -/

/-- A trade that something happened to does not wait for its payment any more,
and what happened is one confirmation or one closing. -/
structure Settled (t : Nat) (s : PayDb) : Prop where
  not_waiting : ∀ st, s.saleTrades.get? t = some st → st.status ≠ .waitBuyerPay
  shape : (∃ st confirmed, s.trace t = confirmTrace st confirmed) ∨
    ∃ st canceled, s.trace t = closeTrace st canceled

def OnceSettled (t : Nat) (s : PayDb) : Prop := s.trace t = [] ∨ Settled t s

theorem OnceSettled.of_quiet {s' : PayDb} (h : OnceSettled t s) (hhistory : s'.history = s.history)
    (hstatus : ∀ st', s'.saleTrades.get? t = some st' → st'.status = .waitBuyerPay →
      ∃ st, s.saleTrades.get? t = some st ∧ st.status = .waitBuyerPay) :
    OnceSettled t s' := by
  have htrace : s'.trace t = s.trace t := by rw [PayDb.trace, PayDb.trace, hhistory]
  rcases h with hnone | hsettled
  · exact Or.inl (htrace.trans hnone)
  · right
    constructor
    · intro st' hget hwait
      obtain ⟨st, hst, hst'⟩ := hstatus st' hget hwait
      exact hsettled.not_waiting st hst hst'
    · rw [htrace]
      exact hsettled.shape

theorem OnceSettled.of_pass {n : Nat} {s' : PayDb} {st : SaleTrade}
    {events : List Event} (h : OnceSettled t s)
    (hget : s.saleTrades.get? n = some st) (hwait : st.status = .waitBuyerPay)
    (hhistory : s'.history = s.history ++ events.map fun e => (n, e))
    (hshape : (∃ st confirmed, events = confirmTrace st confirmed) ∨
      ∃ st canceled, events = closeTrace st canceled)
    (hafter : ∀ st', s'.saleTrades.get? n = some st' → st'.status ≠ .waitBuyerPay)
    (hother : ∀ m, m ≠ n → s'.saleTrades.get? m = s.saleTrades.get? m) :
    OnceSettled t s' := by
  have htrace := PayDb.trace_append (t := t) hhistory
  by_cases ht : n = t
  · subst ht
    have hempty : s.trace n = [] := by
      rcases h with hnone | hsettled
      · exact hnone
      · exact absurd hwait (hsettled.not_waiting st hget)
    rw [hempty, if_pos rfl, List.nil_append] at htrace
    right
    constructor
    · exact hafter
    · rw [htrace]
      exact hshape
  · rw [if_neg ht, List.append_nil] at htrace
    rcases h with hnone | hsettled
    · exact Or.inl (htrace.trans hnone)
    · right
      constructor
      · intro st' hget'
        rw [hother t (Ne.symm ht)] at hget'
        exact hsettled.not_waiting st' hget'
      · rw [htrace]
        exact hsettled.shape

theorem OnceSettled.chargeConfirmLocked (h : OnceSettled t s)
    (clock : Clock) (id : Nat) (chargeTime : Option Nat) (charge : String) :
    OnceSettled t ((SaleTrade.chargeConfirmLocked clock id chargeTime charge).run s).2 := by
  cases hsome : confirmable clock id s with
  | none =>
    obtain ⟨r, _, hrun⟩ := chargeConfirmLocked_of_none chargeTime charge hsome
    rw [hrun]
    exact h
  | some st =>
    rw [chargeConfirmLocked_of_some chargeTime charge hsome]
    obtain ⟨hget, hwait, -, -⟩ := confirmable_eq_some.1 hsome
    have hid := SaleTrade.id_of_get hget
    rw [← hid] at hget
    refine h.of_pass hget hwait rfl (Or.inl ⟨st, _, rfl⟩) ?_ ?_
    · intro st' hget'
      rw [get?_confirmedDb, if_pos rfl, hget] at hget'
      cases hget'
      simp [SaleTrade.setOrdersPaid, SaleTrade.setPaid]
    · intro m hm
      rw [get?_confirmedDb, if_neg hm]

theorem OnceSettled.closeTrade (h : OnceSettled t s) (clock : Clock) (id : Nat) :
    OnceSettled t ((SaleTrade.closeTrade clock id).run s).2 := by
  cases hsome : closable clock id s with
  | none =>
    obtain ⟨r, _, hrun⟩ := closeTrade_of_none hsome
    rw [hrun]
    exact h
  | some st =>
    rw [closeTrade_of_some hsome]
    obtain ⟨hget, hwait, -, -⟩ := closable_eq_some.1 hsome
    have hid := SaleTrade.id_of_get hget
    rw [← hid] at hget
    refine h.of_pass hget hwait rfl (Or.inr ⟨st, _, rfl⟩) ?_ ?_
    · intro st' hget'
      rw [get?_closedDb, if_pos rfl, hget] at hget'
      cases hget'
      simp [SaleTrade.setOrdersClosed, SaleTrade.setClosed]
    · intro m hm
      rw [get?_closedDb, if_neg hm]

theorem tasksUpdateSaleTradeStatus_snd (id : Nat) (s : PayDb) :
    ((SaleTrade.tasksUpdateSaleTradeStatus id).run s).2 = s ∨
      ∃ status, status ≠ TradeStatus.waitBuyerPay ∧
        ((SaleTrade.tasksUpdateSaleTradeStatus id).run s).2 =
          { s with
            saleTrades := s.saleTrades.update (fun t => t.id = id)
              (SaleTrade.setStatus status) } := by
  unfold SaleTrade.tasksUpdateSaleTradeStatus
  rw [SaleTrade.get_bind_run]
  cases s.saleTrades.get? id with
  | none => exact Or.inl rfl
  | some st =>
    dsimp only
    split_ifs
    all_goals first
      | exact Or.inl rfl
      | exact Or.inr ⟨_, by decide, rfl⟩

theorem OnceSettled.tasksUpdateSaleTradeStatus (h : OnceSettled t s) (id : Nat) :
    OnceSettled t ((SaleTrade.tasksUpdateSaleTradeStatus id).run s).2 := by
  rcases tasksUpdateSaleTradeStatus_snd id s with hsame | ⟨status, hstatus, hset⟩
  · rw [hsame]
    exact h
  · rw [hset]
    refine h.of_quiet ?_ fun st' hget hwait => ?_
    · rfl
    rw [SaleTrade.get?_updateFields _ _ _ (SaleTrade.setStatus status) fun _ => rfl] at hget
    by_cases ht : t = id
    · rw [if_pos ht, Option.map_eq_some_iff] at hget
      obtain ⟨st, _, rfl⟩ := hget
      exact absurd hwait hstatus
    · rw [if_neg ht] at hget
      exact ⟨st', hget, hwait⟩

theorem OnceSettled.setOrderPaid (h : OnceSettled t s) (id : Nat) :
    OnceSettled t ((SaleTrade.setOrderPaid id).run s).2 := by
  obtain ⟨items, hsnd⟩ := setOrderPaid_snd id s
  rw [hsnd]
  refine h.of_quiet ?_ fun st' hget hwait => ⟨st', hget, hwait⟩
  rfl

theorem bind_pure_snd {α β : Type} (m : PayTx α) (g : α → β) (s : PayDb) :
    ((m >>= fun a => pure (g a)).run s).2 = (m.run s).2 := by
  rw [bind_pure_run]

theorem OnceSettled.step (h : OnceSettled t s) (handler : Handler) :
    OnceSettled t (handler.step.run s).2 := by
  cases handler with
  | received clock notify =>
    rw [Handler.step]
    by_cases hpaid : notify.paid = false
    · rw [if_pos hpaid]
      exact h
    · rw [if_neg hpaid]
      obtain ⟨tcharge, charges, hrun⟩ : ∃ tcharge charges, (recordCharge notify).run s =
          (.ok tcharge, { s with tradeCharges := charges }) := ⟨_, _, rfl⟩
      rw [bind_ok hrun, getOr_bind_run]
      have hquiet : OnceSettled t { s with tradeCharges := charges } := by
        refine h.of_quiet ?_ fun st' hget hwait => ⟨st', hget, hwait⟩
        rfl
      split <;> exact hquiet
  | confirming clock id chargeTime charge =>
    rw [Handler.step, bind_pure_snd]
    exact h.chargeConfirmLocked clock id chargeTime charge
  | confirmed id =>
    rw [Handler.step, bind_pure_snd]
    exact h.setOrderPaid id
  | closing clock id =>
    rw [Handler.step, bind_pure_snd]
    exact h.closeTrade clock id
  | updating id =>
    rw [Handler.step, bind_pure_snd]
    exact h.tasksUpdateSaleTradeStatus id
  | finished => exact h

theorem OnceSettled.advance (sys : System) (i : Nat)
    (h : OnceSettled t sys.db) : OnceSettled t (sys.advance i).db := by
  unfold System.advance
  split
  · exact h
  · exact h.step _

/-! ## Once, and one of the two -/

/-- The trade is confirmed at most once and closed at most once, not both, and
with it its orders, its wallet log and its coupons. -/
structure PaidOrClosedOnce (trace : List Event) : Prop where
  passes : trace.count .chargeConfirmed + trace.count .tradeClosed ≤ 1
  order_paid : ∀ order, trace.count (.orderPaid order) ≤ 1
  order_closed : ∀ order, trace.count (.orderClosed order) ≤ 1
  wallet : trace.count .walletConfirmed + trace.count .walletCanceled ≤ 1
  coupons : trace.count .couponsUsed + trace.count .couponsReleased ≤ 1

theorem count_orders {orders : List SaleOrder} {event : SaleOrder → Event} {e : Event}
    (h : ∀ order, event order ≠ e) : (orders.map event).count e = 0 := by
  apply List.count_eq_zero.2
  intro hmem
  obtain ⟨order, _, he⟩ := List.mem_map.1 hmem
  exact h order he

theorem count_order {orders : List SaleOrder} (event : Nat → Event)
    (hinj : Function.Injective event) (hpk : (orders.map SaleOrder.id).Nodup)
    (order : Nat) : (orders.map fun o => event o.id).count (event order) ≤ 1 := by
  have hnodup : ((orders.map SaleOrder.id).map event).Nodup := hpk.map hinj
  rw [List.map_map] at hnodup
  exact List.nodup_iff_count_le_one.1 hnodup _

theorem ids_nodup (orders : Table SaleOrder) : (orders.rows.map SaleOrder.id).Nodup :=
  orders.sorted.imp ne_of_lt

theorem normalOrders_ids_nodup (st : SaleTrade) :
    (st.normalOrders.map SaleOrder.id).Nodup :=
  (ids_nodup st.saleOrders).sublist (List.filter_sublist.map SaleOrder.id)

theorem confirmTrace_once (st : SaleTrade) (confirmed : Bool) :
    PaidOrClosedOnce (confirmTrace st confirmed) := by
  have hother : ∀ e : Event, (∀ order, Event.orderPaid order ≠ e) →
      (st.saleOrders.rows.map fun order => Event.orderPaid order.id).count e = 0 :=
    fun e he => count_orders fun order => he order.id
  unfold confirmTrace
  constructor
  · cases confirmed <;> by_cases hc : st.coupon = [] <;> simp [hc, hother]
  · intro order
    have hcount := count_order Event.orderPaid (fun _ _ h => by simpa using h)
      (ids_nodup st.saleOrders) order
    cases confirmed <;> by_cases hc : st.coupon = [] <;> simpa [hc] using hcount
  · intro order
    cases confirmed <;> by_cases hc : st.coupon = [] <;> simp [hc, hother]
  · cases confirmed <;> by_cases hc : st.coupon = [] <;> simp [hc, hother]
  · cases confirmed <;> by_cases hc : st.coupon = [] <;> simp [hc, hother]

theorem closeTrace_once (st : SaleTrade) (canceled : Bool) :
    PaidOrClosedOnce (closeTrace st canceled) := by
  have hother : ∀ e : Event, (∀ order, Event.orderClosed order ≠ e) →
      (st.normalOrders.map fun order => Event.orderClosed order.id).count e = 0 :=
    fun e he => count_orders fun order => he order.id
  unfold closeTrace
  constructor
  · cases canceled <;> simp [hother]
  · intro order
    cases canceled <;> simp [hother]
  · intro order
    have hcount := count_order Event.orderClosed (fun _ _ h => by simpa using h)
      (normalOrders_ids_nodup st) order
    cases canceled <;> simpa using hcount
  · cases canceled <;> simp [hother]
  · cases canceled <;> simp [hother]

/-- Whatever requests and tasks there are and however they interleave, a trade is
paid or closed, and once. -/
theorem paid_or_closed_once (t : Nat) (db : PayDb) (handlers : List Handler)
    (schedule : List Nat) :
    PaidOrClosedOnce
      ((run System.advance schedule (System.start db handlers)).db.trace t) := by
  have hstart : OnceSettled t (System.start db handlers).db := Or.inl rfl
  have honce : OnceSettled t (run System.advance schedule (System.start db handlers)).db :=
    (throughout_of_step (I := fun sys : System => OnceSettled t sys.db)
      (fun sys i h => h.advance sys i) schedule _ hstart).last
  rcases honce with hnone | hsettled
  · rw [hnone]
    constructor <;> simp
  · rcases hsettled.shape with ⟨st, confirmed, htrace⟩ | ⟨st, canceled, htrace⟩
    · rw [htrace]
      exact confirmTrace_once st confirmed
    · rw [htrace]
      exact closeTrace_once st canceled

theorem advance_alone (handler : Handler) (db : PayDb) :
    System.advance 0 ⟨db, [handler]⟩ =
      ⟨(handler.step.run db).2, [(handler.step.run db).1.toOption.getD .finished]⟩ := rfl

theorem advance_confirmation (clock : Clock) (id : Nat) (chargeTime : Option Nat)
    (charge : String) (db : PayDb) :
    (run System.advance [0, 0] ⟨db, [.confirming clock id chargeTime charge]⟩).db =
      ((SaleTrade.chargeConfirm clock id chargeTime charge).run db).2 := by
  rw [run_cons, run_cons, run_nil, advance_alone, Handler.step, bind_pure_run,
    SaleTrade.chargeConfirm, bind_run]
  cases hrun : (SaleTrade.chargeConfirmLocked clock id chargeTime charge).run db with
  | mk res db' =>
    rcases res with e | confirmed
    · rfl
    · cases confirmed with
      | false => rfl
      | true =>
        rw [advance_alone]
        exact bind_pure_snd (SaleTrade.setOrderPaid id) (fun _ => Handler.finished) db'

def Handler.passesCheck (t : Nat) (s : PayDb) : Handler → Bool
  | confirming _ id _ _ => id = t && (s.saleTrades.get? t).any fun st => st.status = .waitBuyerPay
  | _ => false

def confirmationsPastCheck (t : Nat) : List Nat → System → Nat
  | [], _ => 0
  | i :: schedule, sys =>
      (if sys.handlers[i]?.any (Handler.passesCheck t sys.db) then 1 else 0) +
        confirmationsPastCheck t schedule (sys.advance i)

def usedUpShop : PayDb :=
  let db := shop 0 0 (waitingTrade .wx 1000 0 0 "" [1])
  { db with
    coupon := { db.coupon with
      userCoupons := Table.empty.insert
        ⟨0, 7, .normal, 1, some "xd2", 5000, "u1", .used, none, none, none, false⟩ } }

/-- Two notifications both get past the check: the first raises at the coupon, and
the trade waits for its payment again. -/
theorem raising_confirmation_passes_twice :
    ¬ confirmationsPastCheck 1 [0, 1]
      (System.start usedUpShop
        [.confirming firstDay 1 none "ch1", .confirming firstDay 1 none "ch1"]) ≤ 1 := by
  decide

end ShopManager.Pay.Trade
