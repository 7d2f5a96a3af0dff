import ShopManager.Pay.Trade.Account

/-!
# An order is paid in full before it is confirmed

One trade is charged, notified, confirmed and closed in any order, and between
two of these steps everybody else does as they like.  The trade is never
confirmed below its payment exactly when each step that confirms it finds, or
brings in, the rest.
-/

namespace ShopManager.Pay.Trade

open Library Library.Tx Library.Execution Coin Wallet

/-! ## The steps of one trade -/

def keyedLog (t : Nat) (log : BudgetLog) : Bool := log.uniKey = some ("st_" ++ toString t)

structure Untouched (t : Nat) (s s' : PayDb) : Prop where
  trade : s'.saleTrades.get? t = s.saleTrades.get? t
  number : ∀ tid, (s.saleTrades.get? t).map SaleTrade.tid = some tid →
    (s'.saleTrades.first fun r => r.tid = tid) = s.saleTrades.first fun r => r.tid = tid
  budgetLogs : s'.wallet.budgetLogs.filter (keyedLog t) =
    s.wallet.budgetLogs.filter (keyedLog t)
  coinLogs : (s'.coin.coinLogs.filter fun log => log.referalId = toString t) =
    s.coin.coinLogs.filter fun log => log.referalId = toString t
  tradeCharges : ∀ tid, (s.saleTrades.get? t).map SaleTrade.tid = some tid →
    (s'.tradeCharges.filter fun c => c.orderNo = tid) =
      s.tradeCharges.filter fun c => c.orderNo = tid

inductive Step (t : Nat) where
  | budgetCharge (clock : Clock) (checkCoupon : Bool)
  | pingppCharge (clock : Clock) (checkCoupon : Bool) (buyerOpenid : String)
      (answer : ProviderAnswer)
  | charge (clock : Clock) (channel : Option Channel) (buyerOpenid : String)
      (answer : ProviderAnswer)
  | notify (clock : Clock) (paid : Bool) (chargeId : String) (timePaid : Option Nat)
  | closeTrade (clock : Clock)
  | chargeConfirm (clock : Clock) (chargeTime : Option Nat) (chargeId : String)
  | others (change : PayDb → PayDb) (untouched : ∀ s, Untouched t s (change s))

def onTrade {α : Type} (t : Nat) (s : PayDb) (method : SaleTrade → PayTx α) : PayDb :=
  match s.saleTrades.get? t with
  | none => s
  | some trade => ((method trade).run s).2

def cashNotify (trade : SaleTrade) (paid : Bool) (charge : String)
    (timePaid : Option Nat) : Notify :=
  ⟨trade.tid, charge, paid, trade.getCashPayment, timePaid⟩

def Step.exec {t : Nat} (float : FloatText) : Step t → PayDb → PayDb
  | budgetCharge clock checkCoupon, s =>
      onTrade t s fun trade => Trade.budgetCharge float clock trade checkCoupon
  | pingppCharge clock checkCoupon buyerOpenid answer, s =>
      onTrade t s fun trade => Trade.pingppCharge clock trade checkCoupon buyerOpenid answer
  | charge clock channel buyerOpenid answer, s =>
      ((Trade.charge float clock t channel buyerOpenid answer).run s).2
  | notify clock paid chargeId timePaid, s =>
      onTrade t s fun trade =>
        notifyTradePayTask clock (cashNotify trade paid chargeId timePaid)
  | closeTrade clock, s => ((SaleTrade.closeTrade clock t).run s).2
  | chargeConfirm clock chargeTime chargeId, s =>
      ((SaleTrade.chargeConfirm clock t chargeTime chargeId).run s).2
  | others change _, s => change s

def Account.PaidInFull (a : Account) : Prop :=
  a.status = .waitSellerSendGoods → a.payment ≤ a.received

def PaidInFull (t : Nat) (s : PayDb) : Prop := ∀ a ∈ account t s, a.PaidInFull

/-- What `budget_charge` brings in for the trade. -/
def BudgetPay.amount (trade : SaleTrade) (s : PayDb) : BudgetPay → Int
  | nothing => 0
  | coins _ => trade.coinPayment
  | wallet => if s.wallet.keyTaken (some ("st_" ++ toString trade.id)) then 0 else trade.payment

/-- What `budget_charge` brings in, if it gets to the confirmation and through. -/
def budgetConfirms (float : FloatText) (clock : Clock) (trade : SaleTrade)
    (checkCoupon : Bool) (s : PayDb) : Option Int :=
  (budgetPays float clock trade checkCoupon s).bind fun pay =>
    (confirmable clock trade.id (pay.take clock trade s)).map fun _ => pay.amount trade s

def Step.confirmsWith {t : Nat} (float : FloatText) (s : PayDb) : Step t → Option Int
  | budgetCharge clock checkCoupon =>
      (s.saleTrades.get? t).bind fun trade => budgetConfirms float clock trade checkCoupon s
  | charge clock channel _ _ =>
      (chargeable clock t channel s).bind fun trade =>
        if trade.channel = .budget then
          budgetConfirms float clock trade false (switched t channel s)
        else none
  | notify clock paid chargeId timePaid =>
      (s.saleTrades.get? t).bind fun trade =>
        if paid then
          (confirmable clock t s).map fun _ =>
            newCash (cashNotify trade paid chargeId timePaid) s
        else none
  | chargeConfirm clock _ _ => (confirmable clock t s).map fun _ => 0
  | _ => none

def Step.completes {t : Nat} (float : FloatText) (s : PayDb) (step : Step t) : Bool :=
  match step.confirmsWith float s, account t s with
  | some amount, some a => a.payment ≤ a.received + amount
  | _, _ => true

theorem walletReceived_filter (t : Nat) (s : WalletDb) :
    walletReceived t s = ((s.budgetLogs.filter (keyedLog t)).map fun log =>
      if log.status ≠ .canceled then log.flowAmount else 0).sum := by
  rw [Table.sum_filter, walletReceived]
  apply Table.sum_congr
  intro log _
  by_cases hkey : log.uniKey = some ("st_" ++ toString t)
  · simp only [keyedLog, hkey, true_and, decide_true, if_true]
  · simp only [keyedLog, hkey, false_and, decide_false, Bool.false_eq_true, if_false]

theorem coinReceived_filter (t : Nat) (s : CoinDb) :
    coinReceived t s = ((s.coinLogs.filter fun log => log.referalId = toString t).map
      (takenCoins t)).sum := by
  rw [Table.sum_filter, coinReceived]
  apply Table.sum_congr
  intro log _
  by_cases hreferal : log.referalId = toString t
  · simp only [hreferal, decide_true, if_true]
  · simp only [hreferal, decide_false, Bool.false_eq_true, if_false, takenCoins]

theorem consumptions_filter (t : Nat) (s : CoinDb) :
    consumptions t s = ((s.coinLogs.filter fun log => log.referalId = toString t).map
      fun log => if isConsume t log then (1 : Int) else 0).sum := by
  rw [Table.sum_filter, consumptions]
  apply Table.sum_congr
  intro log _
  by_cases hreferal : log.referalId = toString t
  · simp only [hreferal, decide_true, if_true]
  · simp only [hreferal, decide_false, Bool.false_eq_true, if_false, isConsume, and_false]

theorem cashReceived_filter (tid : String) (charges : Table TradeCharge) :
    cashReceived tid charges = ((charges.filter fun c => c.orderNo = tid).map
      fun c => if c.paid then c.amount else 0).sum := by
  rw [Table.sum_filter, cashReceived]
  apply Table.sum_congr
  intro c _
  by_cases horder : c.orderNo = tid
  · simp only [horder, true_and, decide_true, if_true]
  · simp only [horder, false_and, decide_false, Bool.false_eq_true, if_false]

variable {t : Nat} {s : PayDb}

theorem Untouched.account_eq {s' : PayDb} (h : Untouched t s s') :
    account t s' = account t s := by
  rw [account, account, h.trade]
  cases hget : s.saleTrades.get? t with
  | none => rfl
  | some trade =>
    have hid := SaleTrade.id_of_get hget
    have hcharges := h.tradeCharges trade.tid (by rw [hget]; rfl)
    simp only [Option.map_some, SaleTrade.account, hid, walletReceived_filter,
      coinReceived_filter, consumptions_filter, cashReceived_filter, h.budgetLogs, h.coinLogs,
      hcharges]

theorem Untouched.orderly {s' : PayDb} (h : Untouched t s s')
    (ho : Orderly t s) : Orderly t s' := by
  constructor
  · intro trade hget hwait log hlog hkey
    rw [h.trade] at hget
    have hmem : log ∈ s'.wallet.budgetLogs.filter (keyedLog t) :=
      List.mem_filter.2 ⟨hlog, decide_eq_true hkey⟩
    rw [h.budgetLogs] at hmem
    exact ho.live trade hget hwait log (List.mem_filter.1 hmem).1 hkey
  · intro trade hget
    rw [h.trade] at hget
    rw [h.number trade.tid (by rw [hget]; rfl)]
    exact ho.unique trade hget

/-! ## What a step does to the account -/

/-- An account after a step that confirms with the given amount, or that does not
confirm. -/
inductive Outcome (a a' : Account) : Option Int → Prop where
  | keeps (hpayment : a'.payment = a.payment)
      (hstatus : a'.status = .waitSellerSendGoods → a.status = .waitSellerSendGoods)
      (hreceived : a.status = .waitSellerSendGoods → a.received ≤ a'.received) :
      Outcome a a' none
  | confirms (amount : Int) (hpayment : a'.payment = a.payment)
      (hstatus : a'.status = .waitSellerSendGoods)
      (hreceived : a'.received = a.received + amount) : Outcome a a' (some amount)

theorem Outcome.refl (a : Account) : Outcome a a none :=
  keeps rfl (fun h => h) fun _ => le_refl _

theorem Outcome.paidInFull_iff {a a' : Account} {amount : Option Int}
    (h : Outcome a a' amount) (ha : a.PaidInFull) :
    a'.PaidInFull ↔ ∀ n ∈ amount, a.payment ≤ a.received + n := by
  cases h with
  | keeps hpayment hstatus hreceived =>
    constructor
    · intro _ n hn
      cases hn
    · intro _ hsend
      have hbefore := hstatus hsend
      have hle := ha hbefore
      have hmore := hreceived hbefore
      omega
  | confirms amount hpayment hstatus hreceived =>
    constructor
    · intro hfull n hn
      cases hn
      have hle := hfull hstatus
      omega
    · intro hcomplete _
      have hle := hcomplete amount rfl
      omega

theorem outcome_chargeConfirm {a a₁ : Account} {n : Int}
    (ho : Orderly t s) (ha : account t s = some a₁) (hstatus : a₁.status = a.status)
    (hpayment : a₁.payment = a.payment) (hreceived : a₁.received = a.received + n)
    (hmore : a.status = .waitSellerSendGoods → 0 ≤ n) (clock : Clock)
    (chargeTime : Option Nat) (charge : String) :
    ∃ a', account t ((SaleTrade.chargeConfirm clock t chargeTime charge).run s).2 = some a' ∧
      Outcome a a' ((confirmable clock t s).map fun _ => n) := by
  rw [account_chargeConfirm ho]
  cases hsome : confirmable clock t s with
  | none =>
    refine ⟨a₁, by simpa using ha, ?_⟩
    refine Outcome.keeps hpayment (fun h => hstatus ▸ h) fun h => ?_
    have := hmore h
    omega
  | some st =>
    refine ⟨a₁.confirm, by simp [ha], ?_⟩
    exact Outcome.confirms n hpayment rfl hreceived

theorem received_booked (trade : SaleTrade) (s : PayDb) (pay : BudgetPay) (a : Account)
    (hcoin : a.coinPayment = trade.coinPayment) :
    (pay.booked trade s a).status = a.status ∧ (pay.booked trade s a).payment = a.payment ∧
      (pay.booked trade s a).received = a.received + pay.amount trade s := by
  cases pay with
  | nothing => exact ⟨rfl, rfl, (add_zero _).symm⟩
  | coins mama =>
    refine ⟨rfl, rfl, ?_⟩
    simp only [BudgetPay.booked, BudgetPay.amount, Account.received, Account.addCoin, hcoin]
    omega
  | wallet =>
    refine ⟨rfl, rfl, ?_⟩
    simp only [BudgetPay.booked, BudgetPay.amount, Account.received, Account.addWallet]
    omega

variable {trade : SaleTrade}

theorem outcome_budgetCharge (ho : Orderly trade.id s)
    (hget : s.saleTrades.get? trade.id = some trade) (float : FloatText) (clock : Clock)
    (checkCoupon : Bool) :
    ∃ a', account trade.id ((budgetCharge float clock trade checkCoupon).run s).2 = some a' ∧
      Outcome (trade.account s) a' (budgetConfirms float clock trade checkCoupon s) := by
  rw [budgetCharge_snd, budgetConfirms]
  cases hpays : budgetPays float clock trade checkCoupon s with
  | none => exact ⟨_, account_eq_some hget, Outcome.refl _⟩
  | some pay =>
    unfold budgetPays at hpays
    rw [hget] at hpays
    by_cases hwait : trade.status = .waitBuyerPay
    · rw [if_pos (by simpa using hwait)] at hpays
      have ha₁ := account_take hget rfl hpays
      rw [account_eq_some hget, Option.map_some] at ha₁
      obtain ⟨hstatus, hpayment, hreceived⟩ :=
        received_booked trade s pay (trade.account s) rfl
      have hnot : (trade.account s).status = .waitSellerSendGoods →
          0 ≤ pay.amount trade s := by
        intro hsend
        rw [SaleTrade.account, hwait] at hsend
        cases hsend
      exact outcome_chargeConfirm (ho.take clock pay) ha₁ hstatus hpayment hreceived hnot
        clock none ""
    · rw [if_neg (by simpa using hwait)] at hpays
      cases hpays

theorem coinPayment_nonneg (trade : SaleTrade) : 0 ≤ trade.coinPayment := by
  unfold SaleTrade.coinPayment
  split
  · next h => exact le_of_lt (trade.coin_pos h)
  · exact le_refl 0

theorem pendingAmount_nonneg (trade : SaleTrade) (s : WalletDb) :
    0 ≤ pendingAmount trade s := by
  unfold pendingAmount SaleTrade.budgetPayment
  split
  · next h =>
    rw [if_pos h.1]
    exact le_of_lt (trade.budget_pos h.1)
  · exact le_refl 0

theorem outcome_pingppCharge {st : SaleTrade} (hget : s.saleTrades.get? trade.id = some st)
    (hcoin : st.coinPayment = trade.coinPayment) (clock : Clock) (checkCoupon : Bool)
    (buyerOpenid : String) (answer : ProviderAnswer) :
    ∃ a', account trade.id
        ((pingppCharge clock trade checkCoupon buyerOpenid answer).run s).2 = some a' ∧
      Outcome (st.account s) a' none := by
  rw [account_pingppCharge hget hcoin, account_eq_some hget, Option.map_some]
  refine ⟨_, rfl, ?_⟩
  have hpending := pendingAmount_nonneg trade s.wallet
  have hcoins : 0 ≤ (st.account s).coinPayment := coinPayment_nonneg st
  unfold pingppBooked
  split
  · split
    · refine Outcome.keeps rfl (fun h => h) fun _ => ?_
      simp only [Account.received, Account.addWallet, Account.addCoin]
      omega
    · refine Outcome.keeps rfl (fun h => h) fun _ => ?_
      simp only [Account.received, Account.addWallet]
      omega
  · exact Outcome.refl _

theorem outcome_charge {a : Account} (ho : Orderly t s)
    (ha : account t s = some a) (float : FloatText) (clock : Clock)
    (channel : Option Channel) (buyerOpenid : String) (answer : ProviderAnswer) :
    ∃ a', account t ((charge float clock t channel buyerOpenid answer).run s).2 = some a' ∧
      Outcome a a' ((Step.charge clock channel buyerOpenid answer :
        Step t).confirmsWith float s) := by
  rw [charge_snd]
  simp only [Step.confirmsWith]
  cases hsome : chargeable clock t channel s with
  | none => exact ⟨a, by rw [account_switched]; exact ha, Outcome.refl a⟩
  | some trade =>
    obtain ⟨hid, hget⟩ := get?_switched hsome
    subst hid
    have hos := ho.switched channel
    have hstored : trade.account (switched trade.id channel s) = a := by
      have hsame := (account_eq_some hget).symm.trans (account_switched trade.id channel s)
      exact Option.some.inj (hsame.trans ha)
    have hfinished : ∀ s₁, account trade.id (payFinished trade.id s₁) =
        account trade.id s₁ := fun s₁ =>
      account_written plain_setPayFinished (fun _ => rfl) s₁
    have hpingpp := outcome_pingppCharge hget rfl clock false buyerOpenid answer
    rw [hstored] at hpingpp
    simp only [hfinished, Option.bind_some, pay]
    cases hchannel : trade.channel with
    | budget =>
      have hbudget := outcome_budgetCharge hos hget float clock false
      rw [hstored] at hbudget
      simpa using hbudget
    | wallet =>
      obtain ⟨xiaolumms, hsnd⟩ := walletCharge_snd clock trade false
        (switched trade.id channel s)
      refine ⟨a, ?_, by simpa using Outcome.refl a⟩
      dsimp only
      rw [hsnd]
      exact (account_switched trade.id channel s).trans ha
    | wx => simpa using hpingpp
    | weapp => simpa using hpingpp
    | alipay => simpa using hpingpp
    | wxPub => simpa using hpingpp
    | alipayWap => simpa using hpingpp
    | upmpWap => simpa using hpingpp
    | apple => simpa using hpingpp

theorem outcome_notify (ho : Orderly t s)
    (hget : s.saleTrades.get? t = some trade) (float : FloatText) (clock : Clock)
    (paid : Bool) (chargeId : String) (timePaid : Option Nat) :
    ∃ a', account t ((notifyTradePayTask clock
        (cashNotify trade paid chargeId timePaid)).run s).2 = some a' ∧
      Outcome (trade.account s) a' ((Step.notify clock paid chargeId timePaid :
        Step t).confirmsWith float s) := by
  simp only [Step.confirmsWith, hget, Option.bind_some]
  unfold notifyTradePayTask
  cases paid with
  | false => exact ⟨_, account_eq_some hget, Outcome.refl _⟩
  | true =>
    have hpaid : ¬ (cashNotify trade true chargeId timePaid).paid = false := by
      simp [cashNotify]
    rw [if_neg hpaid]
    simp only [if_true]
    obtain ⟨tcharge, charges, hrun, hcash⟩ :=
      recordCharge_run (cashNotify trade true chargeId timePaid) s
    have hid := SaleTrade.id_of_get hget
    have hfirst : (s.saleTrades.first fun r =>
        r.tid = (cashNotify trade true chargeId timePaid).orderNo) = some trade :=
      ho.unique trade hget
    rw [bind_ok hrun, getOr_bind_run]
    dsimp only
    rw [hfirst]
    dsimp only
    rw [hid]
    have hoc : Orderly t { s with tradeCharges := charges } := ⟨ho.live, ho.unique⟩
    have hconfirm : confirmable clock t { s with tradeCharges := charges } =
        confirmable clock t s := rfl
    rw [← hconfirm]
    refine outcome_chargeConfirm (a := trade.account s) hoc (account_eq_some hget) rfl rfl
      ?_ ?_ clock _ _
    · simp only [SaleTrade.account, Account.received]
      have hcash' : cashReceived trade.tid charges = cashReceived trade.tid s.tradeCharges +
          newCash (cashNotify trade true chargeId timePaid) s := hcash
      omega
    · intro _
      unfold newCash
      split
      · exact le_refl 0
      · exact trade.cash_nonneg

theorem outcome_closeTrade {a : Account} (ha : account t s = some a) (clock : Clock) :
    ∃ a', account t ((SaleTrade.closeTrade clock t).run s).2 = some a' ∧
      Outcome a a' none := by
  cases hsome : closable clock t s with
  | none =>
    obtain ⟨r, _, hrun⟩ := closeTrade_of_none hsome
    rw [hrun]
    exact ⟨a, ha, Outcome.refl a⟩
  | some st =>
    obtain ⟨a', ha', hclosed, hpayment, _⟩ := account_closeTrade hsome
    have hstored := (account_eq_some (closable_eq_some.1 hsome).1).symm.trans ha
    have ha₀ : st.account s = a := Option.some.inj hstored
    have hwait : a.status = .waitBuyerPay := by
      rw [← ha₀]
      exact (closable_eq_some.1 hsome).2.1
    refine ⟨a', ha', Outcome.keeps ?_ ?_ ?_⟩
    · rw [hpayment, ← ha₀]
      rfl
    · intro hsend
      rw [hclosed] at hsend
      cases hsend
    · intro hsend
      rw [hwait] at hsend
      cases hsend

theorem Step.outcome {a : Account} (ho : Orderly t s)
    (ha : account t s = some a) (float : FloatText) (step : Step t) :
    ∃ a', account t (step.exec float s) = some a' ∧
      Outcome a a' (step.confirmsWith float s) := by
  obtain ⟨trade, hget, rfl⟩ := Option.map_eq_some_iff.1 ha
  have hid := SaleTrade.id_of_get hget
  cases step with
  | budgetCharge clock checkCoupon =>
    simp only [exec, onTrade, confirmsWith, hget, Option.bind_some]
    subst hid
    exact outcome_budgetCharge ho hget float clock checkCoupon
  | pingppCharge clock checkCoupon buyerOpenid answer =>
    simp only [exec, onTrade, confirmsWith, hget]
    subst hid
    exact outcome_pingppCharge hget rfl clock checkCoupon buyerOpenid answer
  | charge clock channel buyerOpenid answer =>
    exact outcome_charge ho ha float clock channel buyerOpenid answer
  | notify clock paid chargeId timePaid =>
    simp only [exec, onTrade, hget]
    exact outcome_notify ho hget float clock paid chargeId timePaid
  | closeTrade clock => exact outcome_closeTrade ha clock
  | chargeConfirm clock chargeTime chargeId =>
    refine outcome_chargeConfirm ho ha rfl rfl ?_ (fun _ => le_refl 0) clock _ _
    omega
  | others change untouched =>
    exact ⟨_, (untouched s).account_eq.trans ha, Outcome.refl _⟩

theorem Step.account_none (h : account t s = none)
    (float : FloatText) (step : Step t) : account t (step.exec float s) = none := by
  have hget : s.saleTrades.get? t = none := by simpa [account] using h
  cases step with
  | budgetCharge clock checkCoupon => simpa [exec, onTrade, hget] using h
  | pingppCharge clock checkCoupon buyerOpenid answer =>
    simpa [exec, onTrade, hget] using h
  | charge clock channel buyerOpenid answer =>
    have hnone : chargeable clock t channel s = none := by simp [chargeable, hget]
    rw [exec, charge_snd, hnone]
    exact (account_switched t channel s).trans h
  | notify clock paid chargeId timePaid => simpa [exec, onTrade, hget] using h
  | closeTrade clock =>
    have hnone : closable clock t s = none := by simp [closable, hget]
    obtain ⟨r, _, hrun⟩ := closeTrade_of_none hnone
    rw [exec, hrun]
    exact h
  | chargeConfirm clock chargeTime chargeId =>
    have hnone : confirmable clock t s = none := by simp [confirmable, hget]
    rw [exec, chargeConfirm_snd_of_none chargeTime chargeId hnone]
    exact h
  | others change untouched => exact (untouched s).account_eq.trans h

theorem Step.paidInFull_iff (float : FloatText) (step : Step t)
    (ho : Orderly t s) (hp : PaidInFull t s) :
    PaidInFull t (step.exec float s) ↔ step.completes float s = true := by
  unfold completes
  cases ha : account t s with
  | none => simp [PaidInFull, step.account_none ha float]
  | some a =>
    obtain ⟨a', ha', houtcome⟩ := step.outcome ho ha float
    have hiff := houtcome.paidInFull_iff (hp a ha)
    cases hamount : step.confirmsWith float s with
    | none => simpa [PaidInFull, ha', hamount] using hiff
    | some amount => simpa [PaidInFull, ha', hamount] using hiff

/-! ## Runs -/

theorem Orderly.budgetCharge (h : Orderly trade.id s)
    (float : FloatText) (clock : Clock) (checkCoupon : Bool) :
    Orderly trade.id ((Trade.budgetCharge float clock trade checkCoupon).run s).2 := by
  rw [budgetCharge_snd]
  cases budgetPays float clock trade checkCoupon s with
  | none => exact h
  | some pay => exact (h.take clock pay).chargeConfirm clock none ""

theorem Orderly.charge (h : Orderly t s) (float : FloatText)
    (clock : Clock) (channel : Option Channel) (buyerOpenid : String) (answer : ProviderAnswer) :
    Orderly t ((Trade.charge float clock t channel buyerOpenid answer).run s).2 := by
  rw [charge_snd]
  have hs := h.switched channel
  cases hsome : chargeable clock t channel s with
  | none => exact hs
  | some trade =>
    obtain ⟨hid, -⟩ := get?_switched hsome
    subst hid
    refine Orderly.written ?_ plain_setPayFinished fun _ hwait => hwait
    have hpingpp := hs.pingppCharge clock false buyerOpenid answer
    unfold pay
    cases trade.channel with
    | budget => exact hs.budgetCharge float clock false
    | wallet =>
      obtain ⟨xiaolumms, hsnd⟩ := walletCharge_snd clock trade false
        (Trade.switched trade.id channel s)
      dsimp only
      rw [hsnd]
      exact ⟨hs.live, hs.unique⟩
    | wx => exact hpingpp
    | weapp => exact hpingpp
    | alipay => exact hpingpp
    | wxPub => exact hpingpp
    | alipayWap => exact hpingpp
    | upmpWap => exact hpingpp
    | apple => exact hpingpp

theorem Orderly.notify (h : Orderly t s)
    (hget : s.saleTrades.get? t = some trade) (clock : Clock) (paid : Bool)
    (chargeId : String) (timePaid : Option Nat) :
    Orderly t ((notifyTradePayTask clock
      (cashNotify trade paid chargeId timePaid)).run s).2 := by
  unfold notifyTradePayTask
  split
  · exact h
  · obtain ⟨tcharge, charges, hrun, _⟩ :=
      recordCharge_run (cashNotify trade paid chargeId timePaid) s
    have hfirst : (s.saleTrades.first fun r =>
        r.tid = (cashNotify trade paid chargeId timePaid).orderNo) = some trade :=
      h.unique trade hget
    have hc : Orderly t { s with tradeCharges := charges } := ⟨h.live, h.unique⟩
    rw [bind_ok hrun, getOr_bind_run]
    dsimp only
    rw [hfirst]
    dsimp only
    rw [SaleTrade.id_of_get hget]
    exact hc.chargeConfirm clock _ _

theorem Orderly.exec (h : Orderly t s) (float : FloatText)
    (step : Step t) : Orderly t (step.exec float s) := by
  have honTrade : ∀ {α : Type} (method : SaleTrade → PayTx α),
      (∀ trade, s.saleTrades.get? t = some trade → Orderly t ((method trade).run s).2) →
      Orderly t (onTrade t s method) := by
    intro α method hmethod
    unfold onTrade
    cases hget : s.saleTrades.get? t with
    | none => exact h
    | some trade => exact hmethod trade hget
  cases step with
  | budgetCharge clock checkCoupon =>
    apply honTrade
    intro trade hget
    have hid := SaleTrade.id_of_get hget
    subst hid
    exact h.budgetCharge float clock checkCoupon
  | pingppCharge clock checkCoupon buyerOpenid answer =>
    apply honTrade
    intro trade hget
    have hid := SaleTrade.id_of_get hget
    subst hid
    exact h.pingppCharge clock checkCoupon buyerOpenid answer
  | charge clock channel buyerOpenid answer =>
    exact h.charge float clock channel buyerOpenid answer
  | notify clock paid chargeId timePaid =>
    exact honTrade _ fun trade hget => h.notify hget clock paid chargeId timePaid
  | closeTrade clock => exact h.closeTrade clock
  | chargeConfirm clock chargeTime chargeId => exact h.chargeConfirm clock chargeTime chargeId
  | others change untouched => exact (untouched s).orderly h

theorem orderly_shop (amount coins : Int) (trade : SaleTrade) :
    Orderly 1 (shop amount coins trade) := by
  constructor
  · intro st _ _ log hlog
    simp [shop, Table.mem_def] at hlog
  · intro st hget
    have hst : { trade with id := 1 } = st := Option.some.inj hget
    rw [← hst]
    simp [shop, Table.first, Table.insert, Table.stored, Row.withPk, Table.nextId]

theorem paidInFull_shop (amount coins : Int) (trade : SaleTrade)
    (hwait : trade.status = .waitBuyerPay) : PaidInFull 1 (shop amount coins trade) := by
  intro a ha hsend
  have ha' : SaleTrade.account (shop amount coins trade) { trade with id := 1 } = a :=
    Option.some.inj ha
  rw [← ha', SaleTrade.account, hwait] at hsend
  cases hsend

end ShopManager.Pay.Trade
