import ShopManager.Pay.Trade.Model
import ShopManager.Pay.Wallet.Spec

/-!
# What confirming and closing do

For each of the two the condition under which it gets through, on the state
before it, and the state that it then leaves.  Where it raises inside its
transaction the state stays as it was.
-/

namespace ShopManager.Pay.Trade

open Library Library.Tx Coupon Coin Wallet

variable {α : Type} {s : PayDb} {id : Nat} {st : SaleTrade}

namespace SaleTrade

@[simp] theorem updateFields_bind_run (id : Nat) (set : SaleTrade → SaleTrade)
    (f : Unit → PayTx α) (s : PayDb) :
    (updateFields id set >>= f).run s =
      (f ()).run { s with saleTrades := s.saleTrades.update (fun t => t.id = id) set } := rfl

@[simp] theorem note_bind_run (id : Nat) (events : List Event) (f : Unit → PayTx α) (s : PayDb) :
    (note id events >>= f).run s =
      (f ()).run { s with history := s.history ++ events.map fun e => (id, e) } := rfl

@[simp] theorem note_run (id : Nat) (events : List Event) (s : PayDb) :
    (note id events).run s =
      (.ok (), { s with history := s.history ++ events.map fun e => (id, e) }) := rfl

theorem get_bind_run (id : Nat) (f : SaleTrade → PayTx α) (s : PayDb) :
    (get id >>= f).run s = match s.saleTrades.get? id with
      | some st => (f st).run s
      | none => (.error .doesNotExist, s) := by
  rw [get, getOr_bind_run]
  cases s.saleTrades.get? id <;> rfl

theorem id_of_get (h : s.saleTrades.get? id = some st) : st.id = id := (Table.get?_eq_some.1 h).2

theorem get?_updateFields (trades : Table SaleTrade) (n m : Nat)
    (set : SaleTrade → SaleTrade) (hset : ∀ t, (set t).id = t.id) :
    (trades.update (fun t => t.id = n) set).get? m =
      if m = n then (trades.get? n).map set else trades.get? m := by
  refine (Table.get?_update trades n m set).trans ?_
  by_cases hm : m = n
  · rw [if_pos hm, if_pos hm]
    apply Option.map_congr
    intro t ht
    have hid : (set t).id = n := (hset t).trans (Table.get?_eq_some.1 ht).2
    rw [← hid]
    rfl
  · rw [if_neg hm, if_neg hm]

end SaleTrade

theorem inWallet_bind_run {β : Type} (m : WalletTx α) (f : α → PayTx β) (s : PayDb) :
    (inWallet m >>= f).run s = match m.run s.wallet with
      | (.ok a, wallet) => (f a).run { s with wallet := wallet }
      | (.error e, wallet) => (.error e, { s with wallet := wallet }) := by
  rw [inWallet, zoom_bind_run]
  rcases m.run s.wallet with ⟨_ | _, _⟩ <;> rfl

theorem inCoupon_bind_run {β : Type} (m : CouponTx α) (f : α → PayTx β) (s : PayDb) :
    (inCoupon m >>= f).run s = match m.run s.coupon with
      | (.ok a, coupon) => (f a).run { s with coupon := coupon }
      | (.error e, coupon) => (.error e, { s with coupon := coupon }) := by
  rw [inCoupon, zoom_bind_run]
  rcases m.run s.coupon with ⟨_ | _, _⟩ <;> rfl

theorem userBudget_get_run (customer : Nat) (s : WalletDb) :
    (UserBudget.get customer).run s = match s.userBudgets customer with
      | some budget => (.ok budget, s)
      | none => (.error .doesNotExist, s) := by
  unfold UserBudget.get
  cases h : s.userBudgets customer with
  | some budget => exact getOr_some h
  | none => exact getOr_none h

/-! ## Confirmation -/

def budgetReady (st : SaleTrade) (s : PayDb) : Bool :=
  !st.hasBudgetPaid || (s.wallet.userBudgets st.buyerId).isSome

def confirmedWallet (st : SaleTrade) (s : PayDb) : Bool × WalletDb :=
  if st.hasBudgetPaid then
    let settled := (UserBudget.chargeConfirm st.buyerId st.id).run s.wallet
    (settled.1.toOption.getD false, settled.2)
  else (false, s.wallet)

theorem confirmBudget_run (h : budgetReady st s = true) :
    (SaleTrade.confirmBudget st).run s =
      (.ok (), { s with
        wallet := (confirmedWallet st s).2
        history := s.history ++
          (if (confirmedWallet st s).1 then [.walletConfirmed] else []).map
            fun e => (st.id, e) }) := by
  unfold SaleTrade.confirmBudget confirmedWallet
  cases hpaid : st.hasBudgetPaid with
  | false => simp
  | true =>
    have hwallet : (s.wallet.userBudgets st.buyerId).isSome = true := by
      simpa [budgetReady, hpaid] using h
    obtain ⟨budget, hbudget⟩ := Option.isSome_iff_exists.1 hwallet
    simp only [if_true]
    rw [inWallet_bind_run, userBudget_get_run, hbudget]
    rcases UserBudget.chargeConfirm_cases st.id hwallet with hrun | ⟨blog, _, _, hrun⟩
    · simp only [inWallet_bind_run, hrun, SaleTrade.note_run]
      rfl
    · simp only [inWallet_bind_run, hrun, SaleTrade.note_run]
      rfl

theorem confirmBudget_run_of_not_ready (h : budgetReady st s = false) :
    (SaleTrade.confirmBudget st).run s = (.error .doesNotExist, s) := by
  have hparts : st.hasBudgetPaid = true ∧ s.wallet.userBudgets st.buyerId = none := by
    simpa [budgetReady] using h
  unfold SaleTrade.confirmBudget
  rw [if_pos hparts.1, inWallet_bind_run, userBudget_get_run, hparts.2]

def usedCoupons (clock : Clock) (st : SaleTrade) (s : PayDb) : Except Exn Unit × CouponDb :=
  (setCoupon2UseByTradeConfirm clock.now clock.today st.coupon st.buyerId st.tid).run
    s.coupon

def couponsUsable (clock : Clock) (st : SaleTrade) (s : PayDb) : Bool :=
  (usedCoupons clock st s).1.isOk

def confirmable (clock : Clock) (id : Nat) (s : PayDb) : Option SaleTrade :=
  (s.saleTrades.get? id).filter fun st =>
    st.status = .waitBuyerPay ∧ budgetReady st s = true ∧ couponsUsable clock st s = true

variable {clock : Clock}

theorem confirmable_eq_some :
    confirmable clock id s = some st ↔
      s.saleTrades.get? id = some st ∧ st.status = .waitBuyerPay ∧
        budgetReady st s = true ∧ couponsUsable clock st s = true := by
  simp [confirmable, Option.filter_eq_some_iff]

def confirmTrace (st : SaleTrade) (walletConfirmed : Bool) : List Event :=
  [.chargeConfirmed] ++ (if walletConfirmed then [.walletConfirmed] else []) ++
    (if st.coupon = [] then [] else [.couponsUsed]) ++
    st.saleOrders.rows.map fun order => .orderPaid order.id

def confirmedTrades (clock : Clock) (st : SaleTrade) (chargeTime : Option Nat)
    (charge : String) (s : PayDb) : Table SaleTrade :=
  (s.saleTrades.update (fun t => t.id = st.id)
      (SaleTrade.setPaid (chargeTime.getD clock.now) charge)).update
    (fun t => t.id = st.id) (SaleTrade.setOrdersPaid (chargeTime.getD clock.now))

def confirmedDb (clock : Clock) (st : SaleTrade) (chargeTime : Option Nat)
    (charge : String) (s : PayDb) : PayDb :=
  { s with
    wallet := (confirmedWallet st s).2
    coupon := (usedCoupons clock st s).2
    saleTrades := confirmedTrades clock st chargeTime charge s
    history := s.history ++
      (confirmTrace st (confirmedWallet st s).1).map fun e => (st.id, e) }

theorem get?_confirmedDb (clock : Clock) (st : SaleTrade) (chargeTime : Option Nat)
    (charge : String) (s : PayDb) (m : Nat) :
    (confirmedDb clock st chargeTime charge s).saleTrades.get? m =
      if m = st.id then
        (s.saleTrades.get? m).map fun trade =>
          SaleTrade.setOrdersPaid (chargeTime.getD clock.now)
            (SaleTrade.setPaid (chargeTime.getD clock.now) charge trade)
      else s.saleTrades.get? m := by
  simp only [confirmedDb, confirmedTrades]
  rw [SaleTrade.get?_updateFields _ _ _ (SaleTrade.setOrdersPaid _) fun _ => rfl,
    SaleTrade.get?_updateFields _ _ _ (SaleTrade.setPaid _ charge) fun _ => rfl,
    SaleTrade.get?_updateFields _ _ _ (SaleTrade.setPaid _ charge) fun _ => rfl]
  by_cases hm : m = st.id
  · subst hm
    rw [if_pos rfl, if_pos rfl, if_pos rfl, Option.map_map]
    rfl
  · rw [if_neg hm, if_neg hm, if_neg hm]

theorem useCoupons_run (h : couponsUsable clock st s = true) :
    (SaleTrade.useCoupons clock st).run s =
      (.ok (), { s with
        coupon := (usedCoupons clock st s).2
        history := s.history ++
          (if st.coupon = [] then [] else [Event.couponsUsed]).map fun e => (st.id, e) }) := by
  unfold SaleTrade.useCoupons
  rw [inCoupon_bind_run]
  unfold couponsUsable usedCoupons at h
  cases hrun : (setCoupon2UseByTradeConfirm clock.now clock.today st.coupon st.buyerId
    st.tid).run s.coupon with
  | mk res coupon =>
    rw [hrun] at h
    cases res with
    | ok u => simp only [SaleTrade.note_run, usedCoupons, hrun]
    | error e => exact absurd h (by simp [Except.isOk, Except.toBool])

theorem useCoupons_error (h : couponsUsable clock st s = false) :
    ∃ e, (SaleTrade.useCoupons clock st).run s =
      (.error e, { s with coupon := (usedCoupons clock st s).2 }) := by
  unfold SaleTrade.useCoupons
  rw [inCoupon_bind_run]
  unfold couponsUsable usedCoupons at h
  unfold usedCoupons
  rcases hrun : (setCoupon2UseByTradeConfirm clock.now clock.today st.coupon st.buyerId
    st.tid).run s.coupon with ⟨e | u, coupon⟩
  · exact ⟨e, rfl⟩
  · rw [hrun] at h
    exact absurd h (by simp [Except.isOk, Except.toBool])

theorem payOrders_bind_run (payTime : Nat) (st : SaleTrade) (f : Unit → PayTx α) (s : PayDb) :
    (SaleTrade.payOrders payTime st >>= f).run s =
      (f ()).run { s with
        saleTrades := s.saleTrades.update (fun t => t.id = st.id)
          (SaleTrade.setOrdersPaid payTime)
        history := s.history ++
          (st.saleOrders.rows.map fun order => Event.orderPaid order.id).map
            fun e => (st.id, e) } := rfl

theorem chargeConfirmLocked_of_some (chargeTime : Option Nat) (charge : String)
    (h : confirmable clock id s = some st) :
    (SaleTrade.chargeConfirmLocked clock id chargeTime charge).run s =
      (.ok true, confirmedDb clock st chargeTime charge s) := by
  obtain ⟨hget, hstatus, hbudget, hcoupons⟩ := confirmable_eq_some.1 h
  unfold SaleTrade.chargeConfirmLocked
  apply atomic_ok
  rw [SaleTrade.get_bind_run, hget]
  simp only [hstatus, ne_eq, not_true_eq_false, if_false]
  rw [SaleTrade.updateFields_bind_run, SaleTrade.note_bind_run]
  refine (bind_ok (confirmBudget_run ?_)).trans ?_
  · exact hbudget
  refine (bind_ok (useCoupons_run ?_)).trans ?_
  · exact hcoupons
  rw [payOrders_bind_run, pure_run]
  simp only [confirmedDb, confirmedTrades, confirmTrace, List.map_append, List.append_assoc]
  rfl

theorem chargeConfirmLocked_of_none
    (chargeTime : Option Nat) (charge : String) (h : confirmable clock id s = none) :
    ∃ r, r ≠ .ok true ∧
      (SaleTrade.chargeConfirmLocked clock id chargeTime charge).run s = (r, s) := by
  unfold SaleTrade.chargeConfirmLocked
  cases hget : s.saleTrades.get? id with
  | none =>
    apply atomic_of_raises
    rw [SaleTrade.get_bind_run, hget]
    exact ⟨_, _, rfl⟩
  | some st =>
    by_cases hstatus : st.status = .waitBuyerPay
    · apply atomic_of_raises
      rw [SaleTrade.get_bind_run, hget]
      simp only [hstatus, ne_eq, not_true_eq_false, if_false]
      rw [SaleTrade.updateFields_bind_run, SaleTrade.note_bind_run]
      by_cases hbudget : budgetReady st s = true
      · have hcoupons : couponsUsable clock st s = false := by
          by_contra hne
          have hsome := confirmable_eq_some.2 ⟨hget, hstatus, hbudget, by simpa using hne⟩
          rw [h] at hsome
          cases hsome
        refine ⟨_, _, (bind_ok (confirmBudget_run ?_)).trans
          (bind_error (useCoupons_error ?_).choose_spec)⟩
        · exact hbudget
        · exact hcoupons
      · refine ⟨_, _, bind_error (confirmBudget_run_of_not_ready ?_)⟩
        exact Bool.eq_false_of_not_eq_true hbudget
    · refine ⟨.ok false, by simp, ?_⟩
      apply atomic_ok
      rw [SaleTrade.get_bind_run, hget]
      simp only [ne_eq, hstatus, not_false_eq_true, if_true, pure_run]

theorem setOrderPaid_snd (id : Nat) (s : PayDb) :
    ∃ items, ((SaleTrade.setOrderPaid id).run s).2 = { s with packageSkuItems := items } := by
  let R : PayDb → PayDb → Prop := fun s s' => ∃ items, s' = { s with packageSkuItems := items }
  have hrefl : ∀ s, R s s := fun s => ⟨s.packageSkuItems, rfl⟩
  have htrans : ∀ a b c, R a b → R b c → R a c := by
    rintro a b c ⟨_, rfl⟩ ⟨items, rfl⟩
    exact ⟨items, rfl⟩
  have hkeeps : Keeps R (SaleTrade.setOrderPaid id) := by
    refine Keeps.bind htrans (Keeps.getOr hrefl _ _) fun st => ?_
    refine Keeps.ite _ (Keeps.forEach hrefl htrans (fun order => ?_) _) (Keeps.pure hrefl _)
    refine Keeps.modify fun s => ?_
    split
    · exact hrefl s
    · exact ⟨_, rfl⟩
  exact hkeeps s

theorem chargeConfirm_snd_of_none
    (chargeTime : Option Nat) (charge : String) (h : confirmable clock id s = none) :
    ((SaleTrade.chargeConfirm clock id chargeTime charge).run s).2 = s := by
  obtain ⟨r, hr, hrun⟩ := chargeConfirmLocked_of_none chargeTime charge h
  cases r with
  | error e => rw [SaleTrade.chargeConfirm, bind_error hrun]
  | ok confirmed =>
    have hfalse : confirmed = false := by simpa using hr
    rw [SaleTrade.chargeConfirm, bind_ok hrun, hfalse]
    rfl

theorem chargeConfirm_snd_of_some
    (chargeTime : Option Nat) (charge : String) (h : confirmable clock id s = some st) :
    ∃ items, ((SaleTrade.chargeConfirm clock id chargeTime charge).run s).2 =
      { confirmedDb clock st chargeTime charge s with packageSkuItems := items } := by
  rw [SaleTrade.chargeConfirm, bind_ok (chargeConfirmLocked_of_some chargeTime charge h)]
  exact setOrderPaid_snd id _

/-! ## Closing -/

def canceledWallet (st : SaleTrade) (s : PayDb) : Bool × WalletDb :=
  if st.hasBudgetPaid then
    let settled := (UserBudget.chargeCancel st.buyerId st.id).run s.wallet
    (settled.1.toOption = some (some true), settled.2)
  else (false, s.wallet)

theorem cancelBudget_run (h : budgetReady st s = true) :
    (SaleTrade.cancelBudget st).run s =
      (.ok (), { s with
        wallet := (canceledWallet st s).2
        history := s.history ++
          (if (canceledWallet st s).1 then [.walletCanceled] else []).map
            fun e => (st.id, e) }) := by
  unfold SaleTrade.cancelBudget canceledWallet
  cases hpaid : st.hasBudgetPaid with
  | false => simp
  | true =>
    have hwallet : (s.wallet.userBudgets st.buyerId).isSome = true := by
      simpa [budgetReady, hpaid] using h
    obtain ⟨budget, hbudget⟩ := Option.isSome_iff_exists.1 hwallet
    simp only [if_true]
    rw [inWallet_bind_run, userBudget_get_run, hbudget]
    rcases UserBudget.chargeCancel_cases st.id hwallet with ⟨r, _, hrun⟩ | ⟨blog, _, _, hrun⟩
    · simp only [inWallet_bind_run, hrun, SaleTrade.note_run]
      simp [Except.toOption]
    · simp only [inWallet_bind_run, hrun, SaleTrade.note_run]
      simp [Except.toOption]

theorem cancelBudget_run_of_not_ready (h : budgetReady st s = false) :
    (SaleTrade.cancelBudget st).run s = (.error .doesNotExist, s) := by
  have hparts : st.hasBudgetPaid = true ∧ s.wallet.userBudgets st.buyerId = none := by
    simpa [budgetReady] using h
  unfold SaleTrade.cancelBudget
  rw [if_pos hparts.1, inWallet_bind_run, userBudget_get_run, hparts.2]

def consumeLog (st : SaleTrade) (s : PayDb) : Option XiaoluCoinLog :=
  s.coin.coinLogs.first fun log =>
    log.subject = .consume ∧ log.referalId = toString st.id

def refundedCoin (clock : Clock) (st : SaleTrade) (s : PayDb) : Except Exn Unit × CoinDb :=
  if st.hasCoinPaid then
    match getXiaolumm s st.buyerId with
    | none => (.error .attributeError, s.coin)
    | some xlmm =>
        if (s.coin.xiaoluCoins xlmm.id).isSome ∧ (consumeLog st s).isSome then
          (XiaoluCoin.refund clock.today xlmm.id st.coinPayment (toString st.id)).run s.coin
        else (.ok (), s.coin)
  else (.ok (), s.coin)

theorem refundCoin_run (clock : Clock) (st : SaleTrade) (s : PayDb) :
    (SaleTrade.refundCoin clock st).run s =
      ((refundedCoin clock st s).1, { s with coin := (refundedCoin clock st s).2 }) := by
  unfold SaleTrade.refundCoin refundedCoin
  split
  · rw [getOr_bind_run]
    cases getXiaolumm s st.buyerId with
    | none => rfl
    | some xlmm =>
      dsimp only
      rw [gets_bind_run, gets_bind_run]
      by_cases hlog : (s.coin.xiaoluCoins xlmm.id).isSome ∧ (consumeLog st s).isSome
      · simp only [if_pos hlog]
        exact congrArg (fun m => run m s) (if_pos hlog)
      · simp only [if_neg hlog]
        exact congrArg (fun m => run m s) (if_neg hlog)
  · rfl

def closable (clock : Clock) (id : Nat) (s : PayDb) : Option SaleTrade :=
  (s.saleTrades.get? id).filter fun st =>
    st.status = .waitBuyerPay ∧ budgetReady st s = true ∧
      (refundedCoin clock st s).1.isOk = true

theorem closable_eq_some :
    closable clock id s = some st ↔
      s.saleTrades.get? id = some st ∧ st.status = .waitBuyerPay ∧
        budgetReady st s = true ∧ (refundedCoin clock st s).1.isOk = true := by
  simp [closable, Option.filter_eq_some_iff]

def closeTrace (st : SaleTrade) (walletCanceled : Bool) : List Event :=
  [.tradeClosed] ++ (st.normalOrders.map fun order => .orderClosed order.id) ++
    (if walletCanceled then [.walletCanceled] else []) ++ [.couponsReleased]

def closedDb (clock : Clock) (st : SaleTrade) (s : PayDb) : PayDb :=
  { s with
    wallet := (canceledWallet st s).2
    coin := (refundedCoin clock st s).2
    coupon := ((cancelTransferRecordByTrade st.tid).run s.coupon).2
    saleTrades := (s.saleTrades.update (fun t => t.id = st.id) SaleTrade.setClosed).update
      (fun t => t.id = st.id) SaleTrade.setOrdersClosed
    history := s.history ++
      (closeTrace st (canceledWallet st s).1).map fun e => (st.id, e) }

theorem cancelTransferRecordByTrade_run (tid : String) (s : CouponDb) :
    (cancelTransferRecordByTrade tid).run s =
      (.ok (), ((cancelTransferRecordByTrade tid).run s).2) := by
  unfold cancelTransferRecordByTrade
  rw [gets_bind_run]
  cases s.transferRecords.first fun r => decide (r.uniKey = tid) <;> rfl

theorem get?_closedDb (clock : Clock) (st : SaleTrade) (s : PayDb) (m : Nat) :
    (closedDb clock st s).saleTrades.get? m =
      if m = st.id then
        (s.saleTrades.get? m).map fun trade => SaleTrade.setOrdersClosed trade.setClosed
      else s.saleTrades.get? m := by
  simp only [closedDb]
  rw [SaleTrade.get?_updateFields _ _ _ SaleTrade.setOrdersClosed fun _ => rfl,
    SaleTrade.get?_updateFields _ _ _ SaleTrade.setClosed fun _ => rfl,
    SaleTrade.get?_updateFields _ _ _ SaleTrade.setClosed fun _ => rfl]
  by_cases hm : m = st.id
  · subst hm
    rw [if_pos rfl, if_pos rfl, if_pos rfl, Option.map_map]
    rfl
  · rw [if_neg hm, if_neg hm, if_neg hm]

theorem closeOrders_bind_run (st : SaleTrade) (f : Unit → PayTx α) (s : PayDb) :
    (SaleTrade.closeOrders st >>= f).run s =
      (f ()).run { s with
        saleTrades := s.saleTrades.update (fun t => t.id = st.id) SaleTrade.setOrdersClosed
        history := s.history ++
          (st.normalOrders.map fun order => Event.orderClosed order.id).map
            fun e => (st.id, e) } := rfl

theorem releaseCoupon_run (st : SaleTrade) (s : PayDb) :
    (SaleTrade.releaseCoupon st).run s =
      (.ok (), { s with
        coupon := ((cancelTransferRecordByTrade st.tid).run s.coupon).2
        history := s.history ++ [(st.id, .couponsReleased)] }) := by
  rw [SaleTrade.releaseCoupon, inCoupon_bind_run, cancelTransferRecordByTrade_run]
  rfl

theorem refundCoin_ok (h : (refundedCoin clock st s).1.isOk = true) :
    (SaleTrade.refundCoin clock st).run s =
      (.ok (), { s with coin := (refundedCoin clock st s).2 }) := by
  rw [refundCoin_run]
  cases hres : (refundedCoin clock st s).1 with
  | ok u => rfl
  | error e =>
    rw [hres] at h
    exact absurd h (by simp [Except.isOk, Except.toBool])

theorem refundCoin_error (h : (refundedCoin clock st s).1.isOk = false) :
    ∃ e, (SaleTrade.refundCoin clock st).run s =
      (.error e, { s with coin := (refundedCoin clock st s).2 }) := by
  rw [refundCoin_run]
  cases hres : (refundedCoin clock st s).1 with
  | ok u =>
    rw [hres] at h
    exact absurd h (by simp [Except.isOk, Except.toBool])
  | error e => exact ⟨e, rfl⟩

theorem closeTrade_of_some (h : closable clock id s = some st) :
    (SaleTrade.closeTrade clock id).run s = (.ok true, closedDb clock st s) := by
  obtain ⟨hget, hstatus, hbudget, hrefund⟩ := closable_eq_some.1 h
  unfold SaleTrade.closeTrade
  apply atomic_ok
  rw [SaleTrade.get_bind_run, hget]
  simp only [hstatus, ne_eq, not_true_eq_false, if_false]
  rw [SaleTrade.updateFields_bind_run, SaleTrade.note_bind_run, closeOrders_bind_run]
  refine (bind_ok (cancelBudget_run ?_)).trans ?_
  · exact hbudget
  refine (bind_ok (refundCoin_ok ?_)).trans ?_
  · exact hrefund
  rw [bind_ok (releaseCoupon_run st _), pure_run]
  simp only [closedDb, closeTrace, List.map_append, List.append_assoc]
  rfl

theorem closeTrade_of_none (h : closable clock id s = none) :
    ∃ r, r ≠ .ok true ∧ (SaleTrade.closeTrade clock id).run s = (r, s) := by
  unfold SaleTrade.closeTrade
  cases hget : s.saleTrades.get? id with
  | none =>
    apply atomic_of_raises
    rw [SaleTrade.get_bind_run, hget]
    exact ⟨_, _, rfl⟩
  | some st =>
    by_cases hstatus : st.status = .waitBuyerPay
    · apply atomic_of_raises
      rw [SaleTrade.get_bind_run, hget]
      simp only [hstatus, ne_eq, not_true_eq_false, if_false]
      rw [SaleTrade.updateFields_bind_run, SaleTrade.note_bind_run, closeOrders_bind_run]
      by_cases hbudget : budgetReady st s = true
      · have hrefund : (refundedCoin clock st s).1.isOk = false := by
          by_contra hne
          have hsome := closable_eq_some.2 ⟨hget, hstatus, hbudget, by simpa using hne⟩
          rw [h] at hsome
          cases hsome
        refine ⟨_, _, (bind_ok (cancelBudget_run ?_)).trans
          (bind_error (refundCoin_error ?_).choose_spec)⟩
        · exact hbudget
        · exact hrefund
      · refine ⟨_, _, bind_error (cancelBudget_run_of_not_ready ?_)⟩
        exact Bool.eq_false_of_not_eq_true hbudget
    · refine ⟨.ok false, by simp, ?_⟩
      apply atomic_ok
      rw [SaleTrade.get_bind_run, hget]
      simp only [ne_eq, hstatus, not_false_eq_true, if_true, pure_run]

end ShopManager.Pay.Trade
