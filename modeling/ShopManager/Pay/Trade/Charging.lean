import ShopManager.Pay.Trade.Spec

/-!
# What charging does

Each way to pay in closed form: what it takes, when it raises, and what stays
taken when a later part raises.
-/

namespace ShopManager.Pay.Trade

open Library Library.Tx Coupon Coin Wallet

/-! ## Taking coins and wallet money -/

def coinSource (clock : Clock) (trade : SaleTrade) (s : PayDb) : Option Nat :=
  ((getXiaolumm s trade.buyerId).map XiaoluMama.id).filter fun mama =>
    (s.coin.xiaoluCoins mama).any (fun amount => trade.coinPayment ≤ amount) ∧
      s.coin.keyTaken (XiaoluCoinLog.genUniKey clock.today mama .consume
        (toString trade.id)) = false

def consumedCoin (clock : Clock) (trade : SaleTrade) (mama : Nat) (s : CoinDb) : CoinDb where
  xiaoluCoins := Function.update s.xiaoluCoins mama
    (some (s.amount mama + -trade.coinPayment))
  coinLogs := s.coinLogs.insert
    (movedLog s clock.today mama (-trade.coinPayment) .outgoing trade.coinPayment .consume
      (toString trade.id))

theorem takeCoin_cases (clock : Clock) (trade : SaleTrade) (noMama tooLittle : Exn)
    (s : PayDb) :
    (∃ mama, coinSource clock trade s = some mama ∧
        (takeCoin clock trade noMama tooLittle).run s =
          (.ok (), { s with coin := consumedCoin clock trade mama s.coin })) ∨
      (coinSource clock trade s = none ∧
        ∃ e, (takeCoin clock trade noMama tooLittle).run s = (.error e, s)) := by
  unfold takeCoin coinSource
  rw [getOr_bind_run]
  cases getXiaolumm s trade.buyerId with
  | none => exact Or.inr ⟨rfl, _, rfl⟩
  | some xlmm =>
    dsimp only
    rw [getOr_bind_run]
    cases hcoins : s.coin.xiaoluCoins xlmm.id with
    | none => exact Or.inr ⟨by simp [Option.filter, hcoins], _, rfl⟩
    | some amount =>
      by_cases hle : trade.coinPayment ≤ amount
      · have hconsume : (inCoin (XiaoluCoin.consume clock.today xlmm.id trade.coinPayment
            (toString trade.id))).run s = (_, { s with coin := _ }) := rfl
        simp only [Option.filter, hle, decide_true, if_true]
        rw [hconsume, XiaoluCoin.consume, XiaoluCoin.move_run]
        cases htaken : s.coin.keyTaken (XiaoluCoinLog.genUniKey clock.today xlmm.id
          .consume (toString trade.id)) with
        | true => exact Or.inr ⟨by simpa [hcoins, hle] using htaken, _, rfl⟩
        | false => exact Or.inl ⟨xlmm.id, by simpa [hcoins, hle] using htaken, rfl⟩
      · refine Or.inr ⟨by simp [Option.filter, hcoins, hle], tooLittle, ?_⟩
        simp [Option.filter, hle]

def couponsGood (clock : Clock) (trade : SaleTrade) (s : PayDb) : Bool :=
  ((checkBeforeCharge clock trade).run s).1.isOk

theorem checkBeforeCharge_snd (clock : Clock) (trade : SaleTrade) (s : PayDb) :
    ((checkBeforeCharge clock trade).run s).2 = s := by
  let R : PayDb → PayDb → Prop := fun s s' => s' = s
  have hrefl : ∀ s, R s s := fun _ => rfl
  have htrans : ∀ a b c, R a b → R b c → R a c := fun a b c hab hbc => hbc.trans hab
  have hkeeps : Keeps R (checkBeforeCharge clock trade) := by
    refine Keeps.forEach hrefl htrans (fun couponId => ?_) _
    refine Keeps.bind htrans (Keeps.getOr hrefl _ _) fun userCoupon => ?_
    refine Keeps.ite _ (Keeps.pure hrefl _) ?_
    cases userCoupon.couponBasicCheck clock.now with
    | ok u => exact Keeps.pure hrefl _
    | error e => exact Keeps.raise hrefl e
  exact hkeeps s

theorem checkBeforeCharge_ok {clock : Clock} {trade : SaleTrade} {s : PayDb}
    (h : couponsGood clock trade s = true) :
    (checkBeforeCharge clock trade).run s = (.ok (), s) := by
  have hsnd := checkBeforeCharge_snd clock trade s
  unfold couponsGood at h
  rcases hrun : (checkBeforeCharge clock trade).run s with ⟨e | u, s'⟩
  · rw [hrun] at h
    exact absurd h (by simp [Except.isOk, Except.toBool])
  · rw [hrun] at hsnd
    exact congrArg (Prod.mk _) hsnd

theorem checkBeforeCharge_error {clock : Clock} {trade : SaleTrade} {s : PayDb}
    (h : couponsGood clock trade s = false) :
    ∃ e, (checkBeforeCharge clock trade).run s = (.error e, s) := by
  have hsnd := checkBeforeCharge_snd clock trade s
  unfold couponsGood at h
  rcases hrun : (checkBeforeCharge clock trade).run s with ⟨e | u, s'⟩
  · rw [hrun] at hsnd
    exact ⟨e, congrArg (Prod.mk _) hsnd⟩
  · rw [hrun] at h
    exact absurd h (by simp [Except.isOk, Except.toBool])

def couponsPass (checkCoupon : Bool) (clock : Clock) (trade : SaleTrade) (s : PayDb) : Bool :=
  !checkCoupon || couponsGood clock trade s

theorem checkIf_cases (checkCoupon : Bool) (clock : Clock) (trade : SaleTrade)
    (s : PayDb) :
    (couponsPass checkCoupon clock trade s = true ∧
        (checkIf checkCoupon clock trade).run s = (.ok (), s)) ∨
      (couponsPass checkCoupon clock trade s = false ∧
        ∃ e, (checkIf checkCoupon clock trade).run s = (.error e, s)) := by
  cases checkCoupon with
  | false => exact Or.inl ⟨rfl, rfl⟩
  | true =>
    cases hgood : couponsGood clock trade s with
    | true => exact Or.inl ⟨by simp [couponsPass, hgood], checkBeforeCharge_ok hgood⟩
    | false => exact Or.inr ⟨by simp [couponsPass, hgood], checkBeforeCharge_error hgood⟩

theorem find_customer_bind_run {α : Type} (customer : Nat) (f : Nat → PayTx α) (s : PayDb) :
    (getOr .doesNotExist (fun s : PayDb =>
        s.wallet.customers.find? fun id => id = customer) >>= f).run s =
      if customer ∈ s.wallet.customers then (f customer).run s
      else (.error .doesNotExist, s) := by
  rw [getOr_bind_run, BudgetLog.find_customer]
  by_cases hc : customer ∈ s.wallet.customers
  · rw [if_pos hc, if_pos hc]
  · rw [if_neg hc, if_neg hc]

def budgetCovers (trade : SaleTrade) (s : PayDb) : Bool :=
  (s.wallet.userBudgets trade.buyerId).any fun budget => trade.payment ≤ budget .amount

/-- The log with which `budget_charge` pays a trade. -/
def budgetArgs (trade : SaleTrade) : BudgetLog.CreateArgs where
  customerId := trade.buyerId
  budgetType := .budgetOut
  flowAmount := trade.payment
  budgetLogType := .consum
  budgetDate := none
  referalId := toString trade.id
  status := some .confirmed
  uniKey := some ("st_" ++ toString trade.id)

/-- The wallet after `budget_charge` took the payment from it. -/
def budgetTaken (clock : Clock) (trade : SaleTrade) (s : WalletDb) : WalletDb :=
  match BudgetLog.createError s clock.today (budgetArgs trade) with
  | some _ => s
  | none => ((BudgetLog.create clock.today (budgetArgs trade)).run s).2

theorem stKey_ne_empty (id : Nat) : "st_" ++ toString id ≠ "" := by
  intro h
  have hlength := congrArg String.length h
  rw [String.length_append] at hlength
  have hst : "st_".length = 3 := by decide
  have hempty : "".length = 0 := by decide
  omega

theorem createKey_stKey {s : WalletDb} {today : Date} {args : BudgetLog.CreateArgs}
    (id : Nat) (h : args.uniKey = some ("st_" ++ toString id)) :
    BudgetLog.createKey s today args = "st_" ++ toString id := by
  have hfilter : (args.uniKey.filter fun key => key ≠ "") = some ("st_" ++ toString id) := by
    rw [h, Option.filter_eq_some_iff]
    exact ⟨rfl, decide_eq_true (stKey_ne_empty id)⟩
  simp only [BudgetLog.createKey, hfilter]

theorem createError_budgetArgs {trade : SaleTrade} {s : WalletDb} (today : Date)
    (hcustomer : trade.buyerId ∈ s.customers) :
    BudgetLog.createError s today (budgetArgs trade) =
      if s.keyTaken (some ("st_" ++ toString trade.id)) then some .integrityError
      else none := by
  have hid : ¬ (budgetArgs trade).customerId ∉ s.customers := not_not_intro hcustomer
  have hstatus : (budgetArgs trade).status.getD .confirmed ≠ .canceled := by
    simp [budgetArgs]
  rw [BudgetLog.createError, if_neg hid, if_neg hstatus, createKey_stKey trade.id rfl]

theorem takeBudget_cases {clock : Clock} {trade : SaleTrade} {s : PayDb}
    (hcustomer : trade.buyerId ∈ s.wallet.customers) :
    (budgetCovers trade s = true ∧ (takeBudget clock trade).run s =
        (.ok (), { s with wallet := budgetTaken clock trade s.wallet })) ∨
      (budgetCovers trade s = false ∧
        ∃ e, (takeBudget clock trade).run s = (.error e, s)) := by
  unfold takeBudget budgetCovers
  rw [getOr_bind_run]
  cases hbudget : s.wallet.userBudgets trade.buyerId with
  | none => exact Or.inr ⟨rfl, _, rfl⟩
  | some budget =>
    by_cases hle : trade.payment ≤ budget .amount
    · left
      refine ⟨by simpa using hle, ?_⟩
      simp only [Option.filter, hle, decide_true, if_true]
      have herror := createError_budgetArgs clock.today hcustomer
      cases htaken : s.wallet.keyTaken (some ("st_" ++ toString trade.id)) with
      | true =>
        rw [htaken, if_pos rfl] at herror
        have hrun : (inWallet (BudgetLog.create clock.today (budgetArgs trade)) >>=
            fun _ => (pure () : PayTx Unit)).run s = (.error .integrityError, s) := by
          rw [inWallet_bind_run, BudgetLog.create_run, herror]
        rw [budgetTaken, herror]
        exact tryCatch_error hrun
      | false =>
        rw [htaken, if_neg (by decide)] at herror
        have hrun : (inWallet (BudgetLog.create clock.today (budgetArgs trade)) >>=
            fun _ => (pure () : PayTx Unit)).run s =
            (.ok (), { s with wallet := budgetTaken clock trade s.wallet }) := by
          rw [inWallet_bind_run, budgetTaken, herror, BudgetLog.create_run, herror]
          rfl
        exact tryCatch_ok hrun
    · right
      refine ⟨by simpa using hle, .exception "你的铺子钱包余额不足", ?_⟩
      simp [Option.filter, hle]

/-- What `budget_charge` takes the payment from. -/
inductive BudgetPay where
  | nothing
  | coins (mama : Nat)
  | wallet
  deriving DecidableEq, Repr

def BudgetPay.take (clock : Clock) (trade : SaleTrade) (s : PayDb) : BudgetPay → PayDb
  | nothing => s
  | coins mama => { s with coin := consumedCoin clock trade mama s.coin }
  | wallet => { s with wallet := budgetTaken clock trade s.wallet }

/-- How `budget_charge` gets its payment, if it does not raise. -/
def budgetPay (float : FloatText) (clock : Clock) (trade : SaleTrade)
    (checkCoupon : Bool) (s : PayDb) : Option BudgetPay :=
  if trade.buyerId ∈ s.wallet.customers ∧ couponsPass checkCoupon clock trade s then
    match getPayTypeFromTrade float trade.payExtras with
    | .error _ => none
    | .ok (_, coinPay) =>
        if trade.payment > 0 then
          if coinPay then (coinSource clock trade s).map .coins
          else if budgetCovers trade s then some .wallet else none
        else some .nothing
  else none

theorem budgetTake_cases (float : FloatText) (clock : Clock) (trade : SaleTrade)
    (checkCoupon : Bool) (s : PayDb) :
    (∃ pay, budgetPay float clock trade checkCoupon s = some pay ∧
        (budgetTake float clock trade checkCoupon).run s =
          (.ok (), pay.take clock trade s)) ∨
      (budgetPay float clock trade checkCoupon s = none ∧
        ∃ e, (budgetTake float clock trade checkCoupon).run s = (.error e, s)) := by
  unfold budgetTake budgetPay
  by_cases hcustomer : trade.buyerId ∈ s.wallet.customers
  · rcases checkIf_cases checkCoupon clock trade s with ⟨hpass, hcheck⟩ | ⟨hpass, e, hcheck⟩
    · rw [if_pos ⟨hcustomer, hpass⟩]
      cases htype : getPayTypeFromTrade float trade.payExtras with
      | error e =>
        refine Or.inr ⟨rfl, e, ?_⟩
        apply atomic_raise
        rw [find_customer_bind_run, if_pos hcustomer, bind_ok hcheck]
        rfl
      | ok pays =>
        obtain ⟨_, coinPay⟩ := pays
        by_cases hpayment : trade.payment > 0
        · cases coinPay with
          | true =>
            simp only [if_pos hpayment, if_true]
            rcases takeCoin_cases clock trade
              (.exception "不是正常的你的铺子妈妈账号，无法使用你的铺子币，请联系客服或管理员")
              (.exception "你的铺子币余额不足") s with
              ⟨mama, hsource, htake⟩ | ⟨hsource, e, htake⟩
            · refine Or.inl ⟨.coins mama, by rw [hsource]; rfl, ?_⟩
              apply atomic_ok
              rw [find_customer_bind_run, if_pos hcustomer, bind_ok hcheck]
              exact htake
            · refine Or.inr ⟨by rw [hsource]; rfl, e, ?_⟩
              apply atomic_raise
              rw [find_customer_bind_run, if_pos hcustomer, bind_ok hcheck]
              exact htake
          | false =>
            simp only [if_pos hpayment, Bool.false_eq_true, if_false]
            rcases takeBudget_cases hcustomer with ⟨hcovers, htake⟩ | ⟨hcovers, e, htake⟩
            · refine Or.inl ⟨.wallet, by rw [hcovers]; rfl, ?_⟩
              apply atomic_ok
              rw [find_customer_bind_run, if_pos hcustomer, bind_ok hcheck]
              exact htake
            · refine Or.inr ⟨by rw [hcovers]; rfl, e, ?_⟩
              apply atomic_raise
              rw [find_customer_bind_run, if_pos hcustomer, bind_ok hcheck]
              exact htake
        · simp only [if_neg hpayment]
          refine Or.inl ⟨.nothing, rfl, ?_⟩
          apply atomic_ok
          rw [find_customer_bind_run, if_pos hcustomer, bind_ok hcheck]
          rfl
    · refine Or.inr ⟨by simp [hpass], e, ?_⟩
      apply atomic_raise
      rw [find_customer_bind_run, if_pos hcustomer, bind_error hcheck]
  · refine Or.inr ⟨by simp [hcustomer], .doesNotExist, ?_⟩
    apply atomic_raise
    rw [find_customer_bind_run, if_neg hcustomer]

/-- How `budget_charge` pays a trade that it finds waiting. -/
def budgetPays (float : FloatText) (clock : Clock) (trade : SaleTrade)
    (checkCoupon : Bool) (s : PayDb) : Option BudgetPay :=
  if (s.saleTrades.get? trade.id).any fun st => st.status = .waitBuyerPay then
    budgetPay float clock trade checkCoupon s
  else none

theorem budgetCharge_snd (float : FloatText) (clock : Clock) (trade : SaleTrade)
    (checkCoupon : Bool) (s : PayDb) :
    ((budgetCharge float clock trade checkCoupon).run s).2 =
      match budgetPays float clock trade checkCoupon s with
      | some pay =>
        ((SaleTrade.chargeConfirm clock trade.id none "").run (pay.take clock trade s)).2
      | none => s := by
  unfold budgetCharge budgetPays
  rw [SaleTrade.get_bind_run]
  cases hget : s.saleTrades.get? trade.id with
  | none => rfl
  | some st =>
    dsimp only
    rw [raiseIf_bind_run]
    by_cases hwait : st.status = .waitBuyerPay
    · rw [if_neg (not_not_intro hwait), if_pos (by simpa using hwait)]
      rcases budgetTake_cases float clock trade checkCoupon s with
        ⟨pay, hpay, hrun⟩ | ⟨hpay, e, hrun⟩
      · rw [hpay, bind_ok hrun]
      · rw [hpay, bind_error hrun]
    · rw [if_pos hwait, if_neg (by simpa using hwait)]

/-! ## The charge at the provider -/

/-- `pingpp_charge` gets past what it checks first. -/
def pingppReady (checkCoupon : Bool) (trade : SaleTrade) (clock : Clock)
    (buyerOpenid : String) (s : PayDb) : Bool :=
  couponsPass checkCoupon clock trade s ∧ 0 < trade.getCashPayment ∧
    trade.buyerId ∈ s.wallet.customers ∧
    ¬ ((trade.channel = .wxPub ∨ trade.channel = .weapp) ∧ buyerOpenid = "" ∧
      trade.openid = "")

theorem pingppCheck_cases (clock : Clock) (trade : SaleTrade) (checkCoupon : Bool)
    (buyerOpenid : String) (s : PayDb) :
    (pingppReady checkCoupon trade clock buyerOpenid s = true ∧
        (pingppCheck clock trade checkCoupon buyerOpenid).run s = (.ok (), s)) ∨
      (pingppReady checkCoupon trade clock buyerOpenid s = false ∧
        ∃ e, (pingppCheck clock trade checkCoupon buyerOpenid).run s = (.error e, s)) := by
  unfold pingppCheck pingppReady
  rcases checkIf_cases checkCoupon clock trade s with ⟨hpass, hcheck⟩ | ⟨hpass, e, hcheck⟩
  · rw [bind_ok hcheck, raiseIf_bind_run]
    by_cases hcash : trade.getCashPayment ≤ 0
    · rw [if_pos hcash]
      exact Or.inr ⟨by simp [Int.not_lt.2 hcash], _, rfl⟩
    · rw [if_neg hcash, find_customer_bind_run]
      by_cases hcustomer : trade.buyerId ∈ s.wallet.customers
      · rw [if_pos hcustomer, raiseIf_run]
        by_cases hopenid : (trade.channel = .wxPub ∨ trade.channel = .weapp) ∧
            buyerOpenid = "" ∧ trade.openid = ""
        · rw [if_pos hopenid]
          exact Or.inr ⟨by simp [hopenid], _, rfl⟩
        · rw [if_neg hopenid]
          refine Or.inl ⟨?_, rfl⟩
          exact decide_eq_true ⟨hpass, Int.not_le.1 hcash, hcustomer, hopenid⟩
      · rw [if_neg hcustomer]
        exact Or.inr ⟨by simp [hcustomer], _, rfl⟩
  · exact Or.inr ⟨by simp [hpass], e, bind_error hcheck⟩

/-- The wallet after the pending log of a trade is there, if that does not raise. -/
def pendingTaken (clock : Clock) (trade : SaleTrade) (s : WalletDb) : Option WalletDb :=
  if trade.hasBudgetPaid then
    if (s.userBudgets trade.buyerId).isSome then
      let charged := (UserBudget.chargePending clock.today trade.buyerId trade.id
        trade.budgetPayment).run s
      if charged.1.isOk then some charged.2 else none
    else none
  else some s

theorem pingppBudget_cases (clock : Clock) (trade : SaleTrade) (s : PayDb) :
    (∃ wallet, pendingTaken clock trade s.wallet = some wallet ∧
        (pingppBudget clock trade).run s = (.ok (), { s with wallet := wallet })) ∨
      (pendingTaken clock trade s.wallet = none ∧
        ∃ e, (pingppBudget clock trade).run s = (.error e, s)) := by
  unfold pingppBudget pendingTaken
  cases hpaid : trade.hasBudgetPaid with
  | false => exact Or.inl ⟨s.wallet, rfl, rfl⟩
  | true =>
    simp only [if_true]
    cases hbudget : s.wallet.userBudgets trade.buyerId with
    | none =>
      refine Or.inr ⟨rfl, .attributeError, ?_⟩
      apply atomic_raise
      rw [getOr_bind_run, hbudget]
    | some budget =>
      rcases hrun : (UserBudget.chargePending clock.today trade.buyerId trade.id
        trade.budgetPayment).run s.wallet with ⟨e | b, wallet⟩
      · refine Or.inr ⟨rfl, e, ?_⟩
        refine atomic_error (?_ : _ = (Except.error e, { s with wallet := wallet }))
        rw [getOr_bind_run, hbudget]
        dsimp only
        rw [inWallet_bind_run, hrun]
      · refine Or.inl ⟨wallet, rfl, ?_⟩
        apply atomic_ok
        rw [getOr_bind_run, hbudget]
        dsimp only
        rw [inWallet_bind_run, hrun]
        rfl

/-- The coin tables after the coin part of a trade was taken, if that does not raise. -/
def pingppCoins (clock : Clock) (trade : SaleTrade) (s : PayDb) : Option CoinDb :=
  if trade.hasCoinPaid then
    (coinSource clock trade s).map fun mama => consumedCoin clock trade mama s.coin
  else some s.coin

theorem pingppCoin_cases (clock : Clock) (trade : SaleTrade) (s : PayDb) :
    (∃ coin, pingppCoins clock trade s = some coin ∧
        (pingppCoin clock trade).run s = (.ok (), { s with coin := coin })) ∨
      (pingppCoins clock trade s = none ∧
        ∃ e, (pingppCoin clock trade).run s = (.error e, s)) := by
  unfold pingppCoin pingppCoins
  cases hpaid : trade.hasCoinPaid with
  | false => exact Or.inl ⟨s.coin, rfl, rfl⟩
  | true =>
    simp only [if_true]
    rcases takeCoin_cases clock trade (.exception "您还不是你的铺子妈妈")
      (.exception "你的铺子币不足") s with ⟨mama, hsource, htake⟩ | ⟨hsource, e, htake⟩
    · rw [hsource]
      exact Or.inl ⟨_, rfl, atomic_ok htake⟩
    · rw [hsource]
      exact Or.inr ⟨rfl, e, atomic_raise htake⟩

def charged (trade : SaleTrade) (answer : ProviderAnswer) (s : PayDb) : PayDb :=
  match answer with
  | .ok charge =>
      { s with
        saleTrades := s.saleTrades.update (fun t => t.id = trade.id) (setCharge charge) }
  | .error _ => s

theorem pingppCharge_snd (clock : Clock) (trade : SaleTrade) (checkCoupon : Bool)
    (buyerOpenid : String) (answer : ProviderAnswer) (s : PayDb) :
    ((pingppCharge clock trade checkCoupon buyerOpenid answer).run s).2 =
      if pingppReady checkCoupon trade clock buyerOpenid s then
        match pendingTaken clock trade s.wallet with
        | none => s
        | some wallet =>
          match pingppCoins clock trade s with
          | none => { s with wallet := wallet }
          | some coin => charged trade answer { s with wallet := wallet, coin := coin }
      else s := by
  unfold pingppCharge
  rcases pingppCheck_cases clock trade checkCoupon buyerOpenid s with
    ⟨hready, hcheck⟩ | ⟨hready, e, hcheck⟩
  · rw [if_pos hready, bind_ok hcheck]
    rcases pingppBudget_cases clock trade s with ⟨wallet, htaken, hrun⟩ | ⟨htaken, e, hrun⟩
    · rw [htaken, bind_ok hrun]
      dsimp only
      have hcoins : pingppCoins clock trade { s with wallet := wallet } =
          pingppCoins clock trade s := rfl
      rcases pingppCoin_cases clock trade { s with wallet := wallet } with
        ⟨coin, hcoin, hrun'⟩ | ⟨hcoin, e, hrun'⟩
      · rw [bind_ok hrun', ← hcoins, hcoin]
        cases answer <;> rfl
      · rw [bind_error hrun', ← hcoins, hcoin]
    · rw [htaken, bind_error hrun]
  · rw [bind_error hcheck, hready]
    rfl

theorem walletCharge_snd (clock : Clock) (trade : SaleTrade) (checkCoupon : Bool)
    (s : PayDb) :
    ∃ xiaolumms, ((walletCharge clock trade checkCoupon).run s).2 =
      { s with xiaolumms := xiaolumms } := by
  unfold walletCharge
  rcases checkIf_cases checkCoupon clock trade s with ⟨_, hcheck⟩ | ⟨_, e, hcheck⟩
  · rw [bind_ok hcheck, getOr_bind_run]
    cases s.xiaolumms trade.buyerId with
    | none => exact ⟨s.xiaolumms, rfl⟩
    | some xlmm =>
      dsimp only
      rw [raiseIf_bind_run]
      split
      · exact ⟨s.xiaolumms, rfl⟩
      · exact ⟨_, rfl⟩
  · rw [bind_error hcheck]
    exact ⟨s.xiaolumms, rfl⟩

/-- The trade that `charge` pays, with the channel that it pays over. -/
def chargeable (clock : Clock) (id : Nat) (channel : Option Channel) (s : PayDb) :
    Option SaleTrade :=
  ((s.saleTrades.get? id).map fun found => setChannel (channel.getD found.channel) found).filter
    fun trade => trade.status = .waitBuyerPay ∧ trade.isPayable clock.now = true ∧
      trade.payStatus ≠ .paying

def switched (id : Nat) (channel : Option Channel) (s : PayDb) : PayDb :=
  match s.saleTrades.get? id with
  | none => s
  | some found => ((switchChannel found (channel.getD found.channel)).run s).2

def payFinished (id : Nat) (s : PayDb) : PayDb :=
  { s with saleTrades := s.saleTrades.update (fun t => t.id = id) setPayFinished }

theorem charge_snd (float : FloatText) (clock : Clock) (id : Nat)
    (channel : Option Channel) (buyerOpenid : String) (answer : ProviderAnswer) (s : PayDb) :
    ((charge float clock id channel buyerOpenid answer).run s).2 =
      match chargeable clock id channel s with
      | none => switched id channel s
      | some trade =>
        payFinished id
          ((pay float clock trade buyerOpenid answer).run (switched id channel s)).2 := by
  unfold charge chargeable switched
  rw [SaleTrade.get_bind_run]
  cases hget : s.saleTrades.get? id with
  | none => rfl
  | some found =>
    have hswitch : (switchChannel found
        (setChannel (channel.getD found.channel) found).channel).run s =
        (.ok (), ((switchChannel found (channel.getD found.channel)).run s).2) := by
      unfold switchChannel setChannel
      split <;> rfl
    dsimp only
    rw [bind_ok hswitch, Option.map_some]
    generalize setChannel (channel.getD found.channel) found = trade
    generalize ((switchChannel found (channel.getD found.channel)).run s).2 = s₁
    by_cases hwait : trade.status = .waitBuyerPay
    · rw [if_neg (not_not_intro hwait)]
      by_cases hpayable : trade.isPayable clock.now = false
      · rw [if_pos hpayable]
        simp [Option.filter, hpayable]
      · rw [if_neg hpayable]
        by_cases hpaying : trade.payStatus = .paying
        · rw [if_pos hpaying]
          simp [Option.filter, hpaying]
        · rw [if_neg hpaying]
          have hchargeable : (some trade).filter (fun trade =>
              trade.status = .waitBuyerPay ∧ trade.isPayable clock.now = true ∧
                trade.payStatus ≠ .paying) = some trade := by
            simp [Option.filter, hwait, hpayable, hpaying]
          rw [hchargeable]
          dsimp only
          rcases hrun : (pay float clock trade buyerOpenid answer).run s₁ with ⟨e | u, s₂⟩
          · rw [tryCatch_error (bind_error hrun)]
            rfl
          · have hpaid : (pay float clock trade buyerOpenid answer >>= fun _ =>
                SaleTrade.updateFields id setPayFinished >>= fun _ =>
                  pure ChargeCode.ok).run s₁ = (.ok .ok, payFinished id s₂) := by
              rw [bind_ok hrun]
              rfl
            rw [tryCatch_ok hpaid]
    · rw [if_pos hwait]
      simp [Option.filter, hwait]

end ShopManager.Pay.Trade
