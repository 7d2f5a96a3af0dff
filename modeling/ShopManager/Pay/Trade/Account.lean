import ShopManager.Library.Execution
import ShopManager.Pay.Trade.Charging

/-!
# The account of one trade

What the wallet, the coins and the provider have brought in for a trade, as
amounts beside its status.  Every step on the trade is read as a change of this
account; the tables behind it matter no more after that.
-/

namespace ShopManager.Pay.Trade

open Library Library.Tx Coin Wallet

/-- What has been brought in for a trade.  `coin` is net of refunds, `consumes`
counts the logs that took coins. -/
structure Account where
  status : TradeStatus
  payment : Int
  coinPayment : Int
  wallet : Int
  coin : Int
  consumes : Int
  cash : Int
  deriving DecidableEq, Repr

namespace Account

def received (a : Account) : Int := a.wallet + a.coin + a.cash

def addWallet (n : Int) (a : Account) : Account := { a with wallet := a.wallet + n }

def addCoin (a : Account) : Account :=
  { a with coin := a.coin + a.coinPayment, consumes := a.consumes + 1 }

def addCash (n : Int) (a : Account) : Account := { a with cash := a.cash + n }

def confirm (a : Account) : Account := { a with status := .waitSellerSendGoods }

end Account

/-! ## Reading the account from the tables -/

def walletReceived (t : Nat) (s : WalletDb) : Int :=
  s.budgetLogs.sum fun log =>
    if log.uniKey = some ("st_" ++ toString t) ∧ log.status ≠ .canceled then log.flowAmount
    else 0

def isConsume (t : Nat) (log : XiaoluCoinLog) : Bool :=
  log.subject = .consume ∧ log.referalId = toString t

def takenCoins (t : Nat) (log : XiaoluCoinLog) : Int :=
  if log.referalId = toString t then
    match log.subject with
    | .consume => log.amount
    | .refund => -log.amount
    | _ => 0
  else 0

def coinReceived (t : Nat) (s : CoinDb) : Int := s.coinLogs.sum (takenCoins t)

def consumptions (t : Nat) (s : CoinDb) : Int :=
  s.coinLogs.sum fun log => if isConsume t log then 1 else 0

def cashReceived (tid : String) (charges : Table TradeCharge) : Int :=
  charges.sum fun c => if c.orderNo = tid ∧ c.paid = true then c.amount else 0

def SaleTrade.account (s : PayDb) (trade : SaleTrade) : Account where
  status := trade.status
  payment := trade.payment
  coinPayment := trade.coinPayment
  wallet := walletReceived trade.id s.wallet
  coin := coinReceived trade.id s.coin
  consumes := consumptions trade.id s.coin
  cash := cashReceived trade.tid s.tradeCharges

def account (t : Nat) (s : PayDb) : Option Account :=
  (s.saleTrades.get? t).map (SaleTrade.account s)

variable {t : Nat} {s : PayDb} {trade : SaleTrade}

theorem account_eq_some
    (h : s.saleTrades.get? t = some trade) : account t s = some (trade.account s) := by
  rw [account, h, Option.map_some]

/-- The log of a waiting trade is not cancelled, and no other trade has its
number. -/
structure Orderly (t : Nat) (s : PayDb) : Prop where
  live : ∀ trade, s.saleTrades.get? t = some trade → trade.status = .waitBuyerPay →
    ∀ log ∈ s.wallet.budgetLogs,
      log.uniKey = some ("st_" ++ toString t) → log.status ≠ .canceled
  unique : ∀ trade, s.saleTrades.get? t = some trade →
    (s.saleTrades.first fun r => r.tid = trade.tid) = some trade

structure Plain (set : SaleTrade → SaleTrade) : Prop where
  id : ∀ trade, (set trade).id = trade.id
  tid : ∀ trade, (set trade).tid = trade.tid
  payment : ∀ trade, (set trade).payment = trade.payment
  coinPayment : ∀ trade, (set trade).coinPayment = trade.coinPayment

def written (t : Nat) (set : SaleTrade → SaleTrade) (s : PayDb) : PayDb :=
  { s with saleTrades := s.saleTrades.update (fun r => r.id = t) set }

variable {set : SaleTrade → SaleTrade}

theorem get?_written (hset : Plain set) (s : PayDb) :
    (written t set s).saleTrades.get? t = (s.saleTrades.get? t).map set := by
  rw [written, SaleTrade.get?_updateFields _ _ _ set hset.id, if_pos rfl]

theorem first_written (hset : Plain set) (s : PayDb) (tid : String) (hid : trade.id = t)
    (h : (s.saleTrades.first fun r => r.tid = tid) = some trade) :
    ((written t set s).saleTrades.first fun r => r.tid = tid) = some (set trade) := by
  have hrow : Row.withPk trade.id (set trade) = set trade := by
    have hpk : (set trade).id = trade.id := hset.id trade
    rw [← hpk]
    rfl
  rw [written, Table.first_update, h, Option.map_some]
  · simp only [hid, decide_true, if_true]
    exact congrArg some hrow
  · intro r _
    have htid : (set r).tid = r.tid := hset.tid r
    exact congrArg (fun x => decide (x = tid)) htid

theorem account_written (hset : Plain set)
    (hstatus : ∀ trade, (set trade).status = trade.status) (s : PayDb) :
    account t (written t set s) = account t s := by
  rw [account, account, get?_written hset, Option.map_map]
  congr 1
  funext trade
  simp only [Function.comp_apply, SaleTrade.account, hset.id, hset.tid, hset.payment,
    hset.coinPayment, hstatus]
  rfl

theorem Orderly.written (h : Orderly t s) (hset : Plain set)
    (hstatus : ∀ trade, (set trade).status = .waitBuyerPay → trade.status = .waitBuyerPay) :
    Orderly t (written t set s) := by
  constructor
  · intro trade' hget hwait
    rw [get?_written hset, Option.map_eq_some_iff] at hget
    obtain ⟨trade, hget, rfl⟩ := hget
    exact h.live trade hget (hstatus trade hwait)
  · intro trade' hget
    rw [get?_written hset, Option.map_eq_some_iff] at hget
    obtain ⟨trade, hget, rfl⟩ := hget
    rw [hset.tid]
    exact first_written hset s trade.tid (SaleTrade.id_of_get hget) (h.unique trade hget)

theorem coinReceived_consumed (clock : Clock) (trade : SaleTrade) (mama : Nat) (s : CoinDb) :
    coinReceived trade.id (consumedCoin clock trade mama s) =
      coinReceived trade.id s + trade.coinPayment := by
  rw [coinReceived, consumedCoin, Table.sum_insert]
  congr 1
  exact if_pos rfl

theorem consumptions_consumed (clock : Clock) (trade : SaleTrade) (mama : Nat) (s : CoinDb) :
    consumptions trade.id (consumedCoin clock trade mama s) =
      consumptions trade.id s + 1 := by
  rw [consumptions, consumedCoin, Table.sum_insert]
  congr 1
  exact if_pos (decide_eq_true ⟨rfl, rfl⟩)

variable {st : SaleTrade}

theorem account_consumed (clock : Clock) (mama : Nat) (hget : s.saleTrades.get? trade.id = some st)
    (hcoin : st.coinPayment = trade.coinPayment) :
    account trade.id { s with coin := consumedCoin clock trade mama s.coin } =
      (account trade.id s).map Account.addCoin := by
  have hid : st.id = trade.id := SaleTrade.id_of_get hget
  rw [account_eq_some hget, account]
  show (s.saleTrades.get? trade.id).map _ = _
  rw [hget]
  simp only [SaleTrade.account, Option.map_some, Account.addCoin, hid,
    coinReceived_consumed, consumptions_consumed, hcoin]

theorem walletReceived_create {today : Date} {args : BudgetLog.CreateArgs} {s : WalletDb}
    (herror : BudgetLog.createError s today args = none)
    (hkey : args.uniKey = some ("st_" ++ toString t))
    (hstatus : args.status.getD .confirmed ≠ .canceled) :
    walletReceived t ((BudgetLog.create today args).run s).2 =
      walletReceived t s + args.flowAmount := by
  rw [BudgetLog.create_run, herror]
  simp only [walletReceived, WalletDb.budgetLogs_post, Table.sum_insert]
  congr 1
  exact if_pos ⟨congrArg some (createKey_stKey t hkey), hstatus⟩

/-- What `budget_charge` books on the account. -/
def BudgetPay.booked (trade : SaleTrade) (s : PayDb) (a : Account) : BudgetPay → Account
  | nothing => a
  | coins _ => a.addCoin
  | wallet =>
      a.addWallet
        (if s.wallet.keyTaken (some ("st_" ++ toString trade.id)) then 0 else trade.payment)

variable {clock : Clock}

theorem walletReceived_budgetTaken {s : WalletDb} (hcustomer : trade.buyerId ∈ s.customers) :
    walletReceived trade.id (budgetTaken clock trade s) =
      walletReceived trade.id s +
        if s.keyTaken (some ("st_" ++ toString trade.id)) then 0 else trade.payment := by
  have herror := createError_budgetArgs clock.today hcustomer
  unfold budgetTaken
  cases htaken : s.keyTaken (some ("st_" ++ toString trade.id)) with
  | true =>
    rw [htaken, if_pos rfl] at herror
    simp [herror]
  | false =>
    rw [htaken, if_neg (by decide)] at herror
    rw [herror]
    have hreceived := walletReceived_create (t := trade.id) herror rfl (by simp [budgetArgs])
    simpa [budgetArgs] using hreceived

theorem account_take {float : FloatText} {checkCoupon : Bool} {pay : BudgetPay}
    (hget : s.saleTrades.get? trade.id = some st) (hcoin : st.coinPayment = trade.coinPayment)
    (hpay : budgetPay float clock trade checkCoupon s = some pay) :
    account trade.id (pay.take clock trade s) =
      (account trade.id s).map fun a => pay.booked trade s a := by
  have hid : st.id = trade.id := SaleTrade.id_of_get hget
  cases pay with
  | nothing =>
    rw [account_eq_some hget]
    exact account_eq_some hget
  | coins mama => exact account_consumed clock mama hget hcoin
  | wallet =>
    have hcustomer : trade.buyerId ∈ s.wallet.customers := by
      by_contra hnot
      simp [budgetPay, hnot] at hpay
    rw [account_eq_some hget, account]
    show (s.saleTrades.get? trade.id).map _ = _
    rw [hget]
    simp only [SaleTrade.account, BudgetPay.take, BudgetPay.booked, Option.map_some,
      Account.addWallet, hid, walletReceived_budgetTaken hcustomer]

/-! ## Confirming and closing -/

theorem walletReceived_confirmed (hready : budgetReady st s = true)
    (hlive : ∀ log ∈ s.wallet.budgetLogs,
      log.uniKey = some ("st_" ++ toString t) → log.status ≠ .canceled) :
    walletReceived t (confirmedWallet st s).2 = walletReceived t s.wallet := by
  unfold confirmedWallet
  cases hpaid : st.hasBudgetPaid with
  | false => rfl
  | true =>
    have hwallet : (s.wallet.userBudgets st.buyerId).isSome = true := by
      simpa [budgetReady, hpaid] using hready
    rcases UserBudget.chargeConfirm_cases st.id hwallet with hrun | ⟨blog, hfirst, _, hrun⟩
    · simp only [if_true, hrun]
    · have hmem := Table.mem_of_first hfirst
      simp only [if_true, hrun, walletReceived, WalletDb.budgetLogs_post]
      have hpk : Row.pk blog = Row.pk (UserBudget.settledLog s.wallet blog
        (confirmChange (UserBudget.pendingLog blog)) .confirmed) := rfl
      rw [Table.sum_save hmem hpk]
      by_cases hkey : blog.uniKey = some ("st_" ++ toString t)
      · have hstatus := hlive blog hmem hkey
        simp only [UserBudget.settledLog, hkey, hstatus, ne_eq, not_false_eq_true,
          reduceCtorEq, and_self, if_true]
        omega
      · simp only [UserBudget.settledLog, hkey, false_and, if_false]
        omega

theorem plain_setPaid (payTime : Nat) (charge : String) :
    Plain (SaleTrade.setPaid payTime charge) := by
  constructor <;> intro trade <;> rfl

theorem plain_setOrdersPaid (payTime : Nat) : Plain (SaleTrade.setOrdersPaid payTime) := by
  constructor <;> intro trade <;> rfl

theorem plain_setClosed : Plain SaleTrade.setClosed := by
  constructor <;> intro trade <;> rfl

theorem plain_setOrdersClosed : Plain SaleTrade.setOrdersClosed := by
  constructor <;> intro trade <;> rfl

theorem plain_setChannel (channel : Channel) : Plain (setChannel channel) := by
  constructor <;> intro trade <;> rfl

theorem plain_setPayFinished : Plain setPayFinished := by
  constructor <;> intro trade <;> rfl

theorem plain_setCharge (charge : String) : Plain (setCharge charge) := by
  constructor <;> intro trade <;> rfl

theorem Orderly.settled {s' : PayDb} (h : Orderly t s) (htrades : s'.saleTrades = s.saleTrades)
    (hwait : ∀ trade, s.saleTrades.get? t = some trade → trade.status ≠ .waitBuyerPay) :
    Orderly t s' := by
  constructor
  · intro trade hget hstatus
    rw [htrades] at hget
    exact absurd hstatus (hwait trade hget)
  · intro trade hget
    rw [htrades] at hget ⊢
    exact h.unique trade hget

theorem account_chargeConfirm (h : Orderly t s) (clock : Clock)
    (chargeTime : Option Nat) (charge : String) :
    account t ((SaleTrade.chargeConfirm clock t chargeTime charge).run s).2 =
      if (confirmable clock t s).isSome then (account t s).map Account.confirm
      else account t s := by
  cases hsome : confirmable clock t s with
  | none => rw [chargeConfirm_snd_of_none chargeTime charge hsome]; rfl
  | some st =>
    obtain ⟨items, hsnd⟩ := chargeConfirm_snd_of_some chargeTime charge hsome
    obtain ⟨hget, hwait, hready, -⟩ := confirmable_eq_some.1 hsome
    have hid := SaleTrade.id_of_get hget
    have hwallet := walletReceived_confirmed hready (h.live st hget hwait)
    have hget' : (confirmedDb clock st chargeTime charge s).saleTrades.get? t =
        some (SaleTrade.setOrdersPaid (chargeTime.getD clock.now)
          (SaleTrade.setPaid (chargeTime.getD clock.now) charge st)) := by
      rw [get?_confirmedDb, hid, if_pos rfl, hget]
      rfl
    rw [hsnd, account_eq_some hget]
    refine (congrArg (Option.map _) hget').trans ?_
    rw [← hid] at hwallet
    simp only [Option.isSome_some, if_true, Option.map_some, SaleTrade.account,
      Account.confirm, SaleTrade.setOrdersPaid, SaleTrade.setPaid, confirmedDb, hwallet]
    rfl

theorem Orderly.chargeConfirm (h : Orderly t s) (clock : Clock)
    (chargeTime : Option Nat) (charge : String) :
    Orderly t ((SaleTrade.chargeConfirm clock t chargeTime charge).run s).2 := by
  cases hsome : confirmable clock t s with
  | none =>
    rw [chargeConfirm_snd_of_none chargeTime charge hsome]
    exact h
  | some st =>
    obtain ⟨items, hsnd⟩ := chargeConfirm_snd_of_some chargeTime charge hsome
    have hid := SaleTrade.id_of_get (confirmable_eq_some.1 hsome).1
    have hpaid : Orderly t (Trade.written t (SaleTrade.setOrdersPaid (chargeTime.getD clock.now))
        (Trade.written t (SaleTrade.setPaid (chargeTime.getD clock.now) charge) s)) := by
      refine (h.written (plain_setPaid _ _) ?_).written (plain_setOrdersPaid _) ?_
      · intro trade hwait
        simp [SaleTrade.setPaid] at hwait
      · exact fun trade hwait => hwait
    rw [hsnd]
    refine hpaid.settled ?_ ?_
    · simp only [confirmedDb, confirmedTrades, hid]
      rfl
    · intro trade hget
      rw [get?_written (plain_setOrdersPaid _), get?_written (plain_setPaid _ _),
        Option.map_map, Option.map_eq_some_iff] at hget
      obtain ⟨st', _, rfl⟩ := hget
      simp [SaleTrade.setOrdersPaid, SaleTrade.setPaid]

def refundable (st : SaleTrade) (s : PayDb) : Bool :=
  st.hasCoinPaid && (consumeLog st s).isSome &&
    (getXiaolumm s st.buyerId).any fun xlmm => (s.coin.xiaoluCoins xlmm.id).isSome

theorem coinReceived_refunded (hok : (refundedCoin clock st s).1.isOk = true) :
    coinReceived st.id (refundedCoin clock st s).2 =
      coinReceived st.id s.coin - if refundable st s then st.coinPayment else 0 := by
  unfold refundedCoin at hok ⊢
  unfold refundable
  cases hpaid : st.hasCoinPaid with
  | false => simp
  | true =>
    simp only [hpaid, if_true] at hok ⊢
    cases hmama : getXiaolumm s st.buyerId with
    | none => simp
    | some xlmm =>
      simp only [hmama] at hok ⊢
      by_cases hlog : (s.coin.xiaoluCoins xlmm.id).isSome ∧ (consumeLog st s).isSome
      · rw [if_pos hlog] at hok ⊢
        rw [XiaoluCoin.refund, XiaoluCoin.move_run] at hok ⊢
        cases htaken : s.coin.keyTaken (XiaoluCoinLog.genUniKey clock.today xlmm.id .refund
          (toString st.id)) with
        | true =>
          rw [if_pos htaken] at hok
          simp [Except.isOk, Except.toBool] at hok
        | false =>
          simp only [Bool.false_eq_true, if_false]
          rw [coinReceived, Table.sum_insert]
          have hback : takenCoins st.id (s.coin.coinLogs.stored
              (movedLog s.coin clock.today xlmm.id st.coinPayment .incoming st.coinPayment
                .refund (toString st.id))) = -st.coinPayment := if_pos rfl
          rw [hback]
          simp [hlog, coinReceived, sub_eq_add_neg]
      · rw [if_neg hlog]
        have hnot : ((consumeLog st s).isSome && (s.coin.xiaoluCoins xlmm.id).isSome) =
            false := by
          simpa [and_comm] using hlog
        simp [hnot]

theorem account_closeTrade (hsome : closable clock t s = some st) :
    ∃ a', account t ((SaleTrade.closeTrade clock t).run s).2 = some a' ∧
      a'.status = .tradeClosedBySys ∧ a'.payment = st.payment ∧
      a'.coinPayment = st.coinPayment ∧
      a'.coin = coinReceived t s.coin - if refundable st s then st.coinPayment else 0 := by
  obtain ⟨hget, -, -, hrefund⟩ := closable_eq_some.1 hsome
  have hid := SaleTrade.id_of_get hget
  have hget' : (closedDb clock st s).saleTrades.get? t =
      some (SaleTrade.setOrdersClosed st.setClosed) := by
    rw [get?_closedDb, hid, if_pos rfl, hget]
    rfl
  rw [closeTrade_of_some hsome]
  refine ⟨_, account_eq_some hget', rfl, rfl, rfl, ?_⟩
  rw [← hid]
  exact coinReceived_refunded hrefund

theorem Orderly.closeTrade (h : Orderly t s) (clock : Clock) :
    Orderly t ((SaleTrade.closeTrade clock t).run s).2 := by
  cases hsome : closable clock t s with
  | none =>
    obtain ⟨r, _, hrun⟩ := closeTrade_of_none hsome
    rw [hrun]
    exact h
  | some st =>
    have hid := SaleTrade.id_of_get (closable_eq_some.1 hsome).1
    have hclosed : Orderly t (Trade.written t SaleTrade.setOrdersClosed
        (Trade.written t SaleTrade.setClosed s)) := by
      refine (h.written plain_setClosed ?_).written plain_setOrdersClosed ?_
      · intro trade hwait
        simp [SaleTrade.setClosed] at hwait
      · exact fun trade hwait => hwait
    rw [closeTrade_of_some hsome]
    refine hclosed.settled ?_ ?_
    · simp only [closedDb, hid]
      rfl
    · intro trade hget
      rw [get?_written plain_setOrdersClosed, get?_written plain_setClosed,
        Option.map_map, Option.map_eq_some_iff] at hget
      obtain ⟨st', _, rfl⟩ := hget
      simp [SaleTrade.setOrdersClosed, SaleTrade.setClosed]

/-! ## Charging and notifications -/

theorem Orderly.create {today : Date} {args : BudgetLog.CreateArgs}
    (h : Orderly t s) (hstatus : args.status.getD .confirmed ≠ .canceled) :
    Orderly t { s with wallet := ((BudgetLog.create today args).run s.wallet).2 } := by
  refine ⟨?_, h.unique⟩
  intro st hget hwait log hlog hkey
  rw [BudgetLog.create_run] at hlog
  cases herror : BudgetLog.createError s.wallet today args with
  | some e =>
    rw [herror] at hlog
    exact h.live st hget hwait log hlog hkey
  | none =>
    rw [herror] at hlog
    rcases Table.mem_insert.1 hlog with hold | rfl
    · exact h.live st hget hwait log hold hkey
    · exact hstatus

theorem Orderly.take (h : Orderly trade.id s)
    (clock : Clock) (pay : BudgetPay) : Orderly trade.id (pay.take clock trade s) := by
  cases pay with
  | nothing => exact h
  | coins mama => exact ⟨h.live, h.unique⟩
  | wallet =>
    unfold BudgetPay.take budgetTaken
    cases BudgetLog.createError s.wallet clock.today (budgetArgs trade) with
    | some e => exact h
    | none => exact h.create (by simp [budgetArgs])

/-- What `pingpp_charge` brings in from the wallet: its pending log, if it is new. -/
def pendingAmount (trade : SaleTrade) (s : WalletDb) : Int :=
  if trade.hasBudgetPaid = true ∧
      s.budgetLogs.filter (BudgetLog.isConsum trade.buyerId trade.id) = [] then
    trade.budgetPayment
  else 0

theorem pendingTaken_cases {s wallet : WalletDb} (h : pendingTaken clock trade s = some wallet) :
    (wallet = s ∧ pendingAmount trade s = 0) ∨
      (pendingAmount trade s = trade.budgetPayment ∧
        (s.userBudgets trade.buyerId).isSome = true ∧
        BudgetLog.createError s clock.today (UserBudget.chargePendingArgs trade.buyerId trade.id
          trade.budgetPayment) = none ∧
        wallet = ((BudgetLog.create clock.today (UserBudget.chargePendingArgs trade.buyerId
          trade.id trade.budgetPayment)).run s).2) := by
  unfold pendingTaken at h
  unfold pendingAmount
  cases hpaid : trade.hasBudgetPaid with
  | false =>
    rw [hpaid] at h
    exact Or.inl ⟨(Option.some.inj h).symm, by simp⟩
  | true =>
    simp only [hpaid, if_true] at h
    cases hwallet : (s.userBudgets trade.buyerId).isSome with
    | false => simp [hwallet] at h
    | true =>
      simp only [hwallet, if_true, UserBudget.chargePending_run] at h
      rcases hlogs : s.budgetLogs.filter (BudgetLog.isConsum trade.buyerId trade.id) with
        _ | ⟨blog, _ | ⟨blog', rest⟩⟩
      · right
        rw [hlogs] at h
        cases herror : BudgetLog.createError s clock.today (UserBudget.chargePendingArgs
          trade.buyerId trade.id trade.budgetPayment) with
        | some e =>
          simp [BudgetLog.create_run, herror, Except.map, Except.isOk, Except.toBool] at h
        | none =>
          refine ⟨by simp, rfl, rfl, ?_⟩
          simp only [BudgetLog.create_run, herror, Except.map, Except.isOk,
            Except.toBool, if_true, Option.some.injEq] at h
          rw [BudgetLog.create_run, herror]
          exact h.symm
      · left
        rw [hlogs] at h
        simp only [Except.isOk, Except.toBool, if_true, Option.some.injEq] at h
        exact ⟨h.symm, by simp⟩
      · rw [hlogs] at h
        simp [Except.isOk, Except.toBool] at h

theorem walletReceived_pendingTaken {s wallet : WalletDb}
    (h : pendingTaken clock trade s = some wallet) :
    walletReceived trade.id wallet = walletReceived trade.id s + pendingAmount trade s := by
  rcases pendingTaken_cases h with ⟨rfl, hzero⟩ | ⟨hamount, _, herror, rfl⟩
  · rw [hzero, add_zero]
  · rw [hamount]
    exact walletReceived_create herror rfl (by simp [UserBudget.chargePendingArgs])

theorem Orderly.pendingTaken {wallet : WalletDb} (h : Orderly trade.id s)
    (htaken : pendingTaken clock trade s.wallet = some wallet) :
    Orderly trade.id { s with wallet := wallet } := by
  rcases pendingTaken_cases htaken with ⟨rfl, _⟩ | ⟨_, _, _, rfl⟩
  · exact h
  · exact h.create (by simp [UserBudget.chargePendingArgs])

/-- What `pingpp_charge` books on the account. -/
def pingppBooked (checkCoupon : Bool) (trade : SaleTrade) (clock : Clock)
    (buyerOpenid : String) (s : PayDb) (a : Account) : Account :=
  if pingppReady checkCoupon trade clock buyerOpenid s ∧
      (pendingTaken clock trade s.wallet).isSome then
    if trade.hasCoinPaid ∧ (pingppCoins clock trade s).isSome then
      (a.addWallet (pendingAmount trade s.wallet)).addCoin
    else a.addWallet (pendingAmount trade s.wallet)
  else a

theorem account_charged (answer : ProviderAnswer) :
    account trade.id (charged trade answer s) = account trade.id s := by
  cases answer with
  | error e => rfl
  | ok charge => exact account_written (plain_setCharge charge) (fun _ => rfl) s

theorem account_pending {wallet : WalletDb} (hget : s.saleTrades.get? trade.id = some st)
    (htaken : pendingTaken clock trade s.wallet = some wallet) :
    account trade.id { s with wallet := wallet } =
      (account trade.id s).map (Account.addWallet (pendingAmount trade s.wallet)) := by
  have hid : st.id = trade.id := SaleTrade.id_of_get hget
  rw [account_eq_some hget, account]
  show (s.saleTrades.get? trade.id).map _ = _
  rw [hget]
  simp only [SaleTrade.account, Option.map_some, Account.addWallet, hid,
    walletReceived_pendingTaken htaken]

theorem account_pingppCharge {checkCoupon : Bool} {buyerOpenid : String} {answer : ProviderAnswer}
    (hget : s.saleTrades.get? trade.id = some st) (hcoin : st.coinPayment = trade.coinPayment) :
    account trade.id
        ((pingppCharge clock trade checkCoupon buyerOpenid answer).run s).2 =
      (account trade.id s).map (pingppBooked checkCoupon trade clock buyerOpenid s) := by
  rw [pingppCharge_snd]
  cases hready : pingppReady checkCoupon trade clock buyerOpenid s with
  | false =>
    have hsame : pingppBooked checkCoupon trade clock buyerOpenid s = id := by
      funext a
      simp [pingppBooked, hready]
    rw [hsame, Option.map_id]
    rfl
  | true =>
    simp only [if_true]
    cases htaken : pendingTaken clock trade s.wallet with
    | none =>
      have hsame : pingppBooked checkCoupon trade clock buyerOpenid s = id := by
        funext a
        simp [pingppBooked, htaken]
      rw [hsame, Option.map_id]
      rfl
    | some wallet =>
      have hpending := account_pending hget htaken
      unfold pingppCoins
      cases hpaid : trade.hasCoinPaid with
      | false =>
        simp only [Bool.false_eq_true, if_false, account_charged]
        refine Eq.trans ?_ (hpending.trans ?_)
        · rfl
        · congr 1
          funext a
          simp [pingppBooked, hready, htaken, hpaid]
      | true =>
        simp only [if_true]
        cases hsource : coinSource clock trade s with
        | none =>
          simp only [Option.map_none]
          rw [hpending]
          congr 1
          funext a
          simp [pingppBooked, hready, htaken, pingppCoins, hpaid, hsource]
        | some mama =>
          simp only [Option.map_some, account_charged]
          refine Eq.trans (account_consumed clock mama (s := { s with wallet := wallet })
            hget hcoin) ?_
          rw [hpending, Option.map_map]
          congr 1
          funext a
          simp [pingppBooked, hready, htaken, pingppCoins, hpaid, hsource]

theorem Orderly.pingppCharge (h : Orderly trade.id s)
    (clock : Clock) (checkCoupon : Bool) (buyerOpenid : String) (answer : ProviderAnswer) :
    Orderly trade.id
      ((Trade.pingppCharge clock trade checkCoupon buyerOpenid answer).run s).2 := by
  rw [pingppCharge_snd]
  split
  · split
    · exact h
    · next wallet htaken =>
      have hwallet := h.pendingTaken htaken
      split
      · exact hwallet
      · next coin _ =>
        have hcoin : Orderly trade.id { s with wallet := wallet, coin := coin } :=
          ⟨hwallet.live, hwallet.unique⟩
        cases answer with
        | error e => exact hcoin
        | ok charge => exact hcoin.written (plain_setCharge charge) fun _ hwait => hwait
  · exact h

theorem switched_eq (t : Nat) (channel : Option Channel) (s : PayDb) :
    switched t channel s = s ∨
      ∃ channel', switched t channel s = written t (setChannel channel') s := by
  unfold switched
  cases hget : s.saleTrades.get? t with
  | none => exact Or.inl rfl
  | some found =>
    have hid := SaleTrade.id_of_get hget
    dsimp only
    unfold switchChannel
    split
    · refine Or.inr ⟨channel.getD found.channel, ?_⟩
      rw [hid]
      rfl
    · exact Or.inl rfl

theorem account_switched (t : Nat) (channel : Option Channel) (s : PayDb) :
    account t (switched t channel s) = account t s := by
  rcases switched_eq t channel s with h | ⟨channel', h⟩
  · rw [h]
  · rw [h]
    exact account_written (plain_setChannel channel') (fun _ => rfl) s

theorem Orderly.switched (h : Orderly t s) (channel : Option Channel) :
    Orderly t (Trade.switched t channel s) := by
  rcases switched_eq t channel s with hs | ⟨channel', hs⟩
  · rw [hs]
    exact h
  · rw [hs]
    exact h.written (plain_setChannel channel') fun _ hwait => hwait

theorem get?_switched {channel : Option Channel} (h : chargeable clock t channel s = some trade) :
    trade.id = t ∧ (Trade.switched t channel s).saleTrades.get? t = some trade := by
  unfold chargeable at h
  rw [Option.filter_eq_some_iff] at h
  obtain ⟨found, hget, rfl⟩ := Option.map_eq_some_iff.1 h.1
  have hid := SaleTrade.id_of_get hget
  refine ⟨hid, ?_⟩
  unfold Trade.switched
  simp only [hget, switchChannel]
  by_cases hne : channel.getD found.channel ≠ found.channel
  · rw [if_pos hne, hid]
    refine (get?_written (plain_setChannel (channel.getD found.channel)) s).trans ?_
    rw [hget, Option.map_some]
  · rw [if_neg hne]
    have hsame : setChannel (channel.getD found.channel) found = found := by
      rw [not_not.1 hne]
      rfl
    rw [hsame]
    exact hget

def newCash (notify : Notify) (s : PayDb) : Int :=
  if (knownCharge notify s).any TradeCharge.paid then 0 else notify.amount

theorem recordCharge_run (notify : Notify) (s : PayDb) :
    ∃ tcharge charges, (recordCharge notify).run s =
        (.ok tcharge, { s with tradeCharges := charges }) ∧
      cashReceived notify.orderNo charges =
        cashReceived notify.orderNo s.tradeCharges + newCash notify s := by
  unfold recordCharge newCash
  rw [gets_bind_run]
  cases hknown : knownCharge notify s with
  | none =>
    refine ⟨_, _, rfl, ?_⟩
    refine (Table.sum_insert _ _ _).trans ?_
    simp only [cashReceived, Option.any_none, Bool.false_eq_true, if_false]
    congr 1
    exact if_pos ⟨rfl, rfl⟩
  | some known =>
    have hmem := Table.mem_of_first hknown
    have horder : known.orderNo = notify.orderNo := by
      have hspec := Table.first_spec hknown
      simp only [decide_eq_true_eq] at hspec
      exact hspec.1
    have hpk : Row.pk known = Row.pk (known.pay notify) := by
      unfold TradeCharge.pay
      split <;> rfl
    refine ⟨_, _, rfl, ?_⟩
    refine (Table.sum_save hmem hpk _).trans ?_
    cases hpaid : known.paid with
    | true => simp [TradeCharge.pay, hpaid, cashReceived]
    | false => simp [TradeCharge.pay, hpaid, horder, cashReceived]

end ShopManager.Pay.Trade
