import Mathlib.Algebra.Order.Group.Int
import ShopManager.Pay.Trade.FullPayment

/-!
# The coins of an order

An attempt to pay takes the coins of the trade, a confirmation keeps them and a
closing gives them back.  The key of the log that takes them holds the day, so
nothing but the balance stops a second attempt on the next day.
-/

namespace ShopManager.Pay.Trade

open Library Library.Tx Library.Execution Coin Wallet

/-! ## The steps -/

/-- What happens to a trade from its creation on; the others leave it alone and
keep the coin accounts sound. -/
inductive Attempt (t : Nat) where
  | charge (clock : Clock) (channel : Option Channel) (buyerOpenid : String)
      (answer : ProviderAnswer)
  | notify (clock : Clock) (paid : Bool) (chargeId : String) (timePaid : Option Nat)
  | chargeConfirm (clock : Clock) (chargeTime : Option Nat) (chargeId : String)
  | closeTrade (clock : Clock)
  | others (change : PayDb → PayDb) (untouched : ∀ s, Untouched t s (change s))
      (sound : ∀ s mama, s.coin.Sound mama → (change s).coin.Sound mama)

def Attempt.toStep {t : Nat} : Attempt t → Step t
  | charge clock channel buyerOpenid answer => .charge clock channel buyerOpenid answer
  | notify clock paid chargeId timePaid => .notify clock paid chargeId timePaid
  | chargeConfirm clock chargeTime chargeId => .chargeConfirm clock chargeTime chargeId
  | closeTrade clock => .closeTrade clock
  | others change untouched _ => .others change untouched

def Attempt.exec {t : Nat} (float : FloatText) (attempt : Attempt t) (s : PayDb) : PayDb :=
  attempt.toStep.exec float s

/-- The coins that were taken and not given back: the coins of the trade when it
is paid, none when it is closed, at most those of the trade while it waits. -/
structure Account.ChargedOnce (a : Account) : Prop where
  waiting : a.status = .waitBuyerPay → a.coin ≤ a.coinPayment
  paid : a.status = .waitSellerSendGoods → a.coin = a.coinPayment
  closed : a.status = .tradeClosedBySys → a.coin = 0

def CoinCharged (t : Nat) (s : PayDb) : Prop :=
  (∀ mama, s.coin.Sound mama) ∧ ∀ a ∈ account t s, a.ChargedOnce

inductive CoinAct where
  | keeps
  | takes
  | confirms
  | takesAndConfirms
  | closes (refunds : Bool)
  deriving DecidableEq, Repr

namespace CoinAct

def apply (a : Account) : CoinAct → Account
  | keeps => a
  | takes => a.addCoin
  | confirms => a.confirm
  | takesAndConfirms => a.addCoin.confirm
  | closes refunds =>
      { a with
        status := .tradeClosedBySys
        coin := a.coin - if refunds then a.coinPayment else 0 }

/-- The coins are taken if none are, kept if they are taken, and given back if
there are any. -/
def fits (a : Account) : CoinAct → Bool
  | keeps => true
  | takes => a.coin = 0
  | confirms => a.coin = a.coinPayment
  | takesAndConfirms => a.coin = 0
  | closes refunds => refunds ∨ a.coin = 0

def confirmed (taken : Bool) (confirmable : Bool) : CoinAct :=
  match taken, confirmable with
  | false, false => keeps
  | true, false => takes
  | false, true => confirms
  | true, true => takesAndConfirms

end CoinAct

def BudgetPay.takesCoins : BudgetPay → Bool
  | coins _ => true
  | _ => false

def budgetCoinAct (float : FloatText) (clock : Clock) (trade : SaleTrade) (s : PayDb) :
    CoinAct :=
  match budgetPays float clock trade false s with
  | none => .keeps
  | some pay =>
      .confirmed pay.takesCoins (confirmable clock trade.id (pay.take clock trade s)).isSome

def pingppCoinAct (clock : Clock) (trade : SaleTrade) (buyerOpenid : String) (s : PayDb) :
    CoinAct :=
  if pingppReady false trade clock buyerOpenid s ∧
      (pendingTaken clock trade s.wallet).isSome ∧ trade.hasCoinPaid ∧
      (pingppCoins clock trade s).isSome then .takes
  else .keeps

def Attempt.coinAct {t : Nat} (float : FloatText) (s : PayDb) : Attempt t → CoinAct
  | charge clock channel buyerOpenid _ =>
      match chargeable clock t channel s with
      | none => .keeps
      | some trade =>
          match trade.channel with
          | .wallet => .keeps
          | .budget => budgetCoinAct float clock trade (switched t channel s)
          | _ => pingppCoinAct clock trade buyerOpenid (switched t channel s)
  | notify clock paid _ _ => .confirmed false (paid && (confirmable clock t s).isSome)
  | chargeConfirm clock _ _ => .confirmed false (confirmable clock t s).isSome
  | closeTrade clock =>
      match closable clock t s with
      | none => .keeps
      | some st => .closes (refundable st s)
  | others _ _ _ => .keeps

def Attempt.fits {t : Nat} (float : FloatText) (s : PayDb) (attempt : Attempt t) : Bool :=
  (account t s).all fun a => (attempt.coinAct float s).fits a

/-! ## The account after an attempt -/

structure Account.Booked (a : Account) : Prop where
  coinPayment_nonneg : 0 ≤ a.coinPayment
  consumes_nonneg : 0 ≤ a.consumes
  coin_eq : a.status = .waitBuyerPay → a.coin = a.coinPayment * a.consumes

variable {a : Account}

theorem Account.Booked.coin_nonneg (h : a.Booked)
    (hwait : a.status = .waitBuyerPay) : 0 ≤ a.coin := by
  rw [h.coin_eq hwait]
  exact Int.mul_nonneg h.coinPayment_nonneg h.consumes_nonneg

theorem Account.Booked.coin_eq_of_taken (h : a.Booked) (honce : a.ChargedOnce)
    (hwait : a.status = .waitBuyerPay) (hcoin : 0 < a.coinPayment) (htaken : 1 ≤ a.consumes) :
    a.coin = a.coinPayment := by
  have hle := honce.waiting hwait
  have hmore : a.coinPayment * 1 ≤ a.coinPayment * a.consumes :=
    Int.mul_le_mul_of_nonneg_left htaken (le_of_lt hcoin)
  have heq := h.coin_eq hwait
  omega

theorem CoinAct.chargedOnce_iff {act : CoinAct} (hbooked : a.Booked)
    (honce : a.ChargedOnce) (hwait : act = .keeps ∨ a.status = .waitBuyerPay)
    (hrefunds : act = .closes true → a.coin = a.coinPayment) :
    (act.apply a).ChargedOnce ↔ act.fits a = true := by
  have hnonneg := hbooked.coin_nonneg
  cases act with
  | keeps => simpa [apply, fits] using honce
  | takes =>
    have hw : a.status = .waitBuyerPay := by simpa using hwait
    have hcoin := hnonneg hw
    simp only [apply, fits, decide_eq_true_eq]
    constructor
    · intro h
      have hle : a.coin + a.coinPayment ≤ a.coinPayment := h.waiting hw
      omega
    · intro h
      refine ⟨fun _ => ?_, fun hs => ?_, fun hs => ?_⟩
      · simp only [Account.addCoin]
        omega
      · simp [Account.addCoin, hw] at hs
      · simp [Account.addCoin, hw] at hs
  | confirms =>
    simp only [apply, fits, decide_eq_true_eq]
    constructor
    · intro h
      exact h.paid rfl
    · intro h
      refine ⟨fun hs => ?_, fun _ => h, fun hs => ?_⟩
      · simp [Account.confirm] at hs
      · simp [Account.confirm] at hs
  | takesAndConfirms =>
    simp only [apply, fits, decide_eq_true_eq]
    constructor
    · intro h
      have heq : a.coin + a.coinPayment = a.coinPayment := h.paid rfl
      omega
    · intro h
      refine ⟨fun hs => ?_, fun _ => ?_, fun hs => ?_⟩
      · simp [Account.confirm] at hs
      · simp only [Account.confirm, Account.addCoin]
        omega
      · simp [Account.confirm] at hs
  | closes refunds =>
    simp only [apply, fits, decide_eq_true_eq]
    constructor
    · intro h
      have hzero := h.closed rfl
      cases refunds with
      | true => exact Or.inl rfl
      | false =>
        right
        simpa using hzero
    · intro h
      refine ⟨fun hs => ?_, fun hs => ?_, fun _ => ?_⟩
      · simp at hs
      · simp at hs
      · cases refunds with
        | true => simp [hrefunds rfl]
        | false => simpa using h

structure Account.SameCoins (a a' : Account) : Prop where
  status : a'.status = a.status
  coinPayment : a'.coinPayment = a.coinPayment
  coin : a'.coin = a.coin
  consumes : a.status = .waitBuyerPay → a'.consumes = a.consumes

theorem Account.SameCoins.refl (a : Account) : a.SameCoins a := ⟨rfl, rfl, rfl, fun _ => rfl⟩

theorem Account.SameCoins.chargedOnce_iff {a' : Account} (h : a.SameCoins a') :
    a'.ChargedOnce ↔ a.ChargedOnce := by
  constructor
  · rintro ⟨hwaiting, hpaid, hclosed⟩
    rw [h.status, h.coin, h.coinPayment] at *
    exact ⟨hwaiting, hpaid, hclosed⟩
  · rintro ⟨hwaiting, hpaid, hclosed⟩
    constructor
    · rw [h.status, h.coin, h.coinPayment]
      exact hwaiting
    · rw [h.status, h.coin, h.coinPayment]
      exact hpaid
    · rw [h.status, h.coin]
      exact hclosed

structure ActsBy (act : CoinAct) (a a' : Account) : Prop where
  waiting : act = .keeps ∨ a.status = .waitBuyerPay
  same : (act.apply a).SameCoins a'
  refunds : act = .closes true → 0 < a.coinPayment ∧ 1 ≤ a.consumes

theorem ActsBy.intro {act : CoinAct} {a' : Account} (hact : act ≠ .closes true)
    (hwait : act = .keeps ∨ a.status = .waitBuyerPay) (hsame : (act.apply a).SameCoins a') :
    ActsBy act a a' :=
  ⟨hwait, hsame, fun h => absurd h hact⟩

theorem ActsBy.keeps (a : Account) : ActsBy .keeps a a :=
  ActsBy.intro (by decide) (Or.inl rfl) (Account.SameCoins.refl a)

theorem CoinAct.confirmed_ne_closes (taken confirmable refunds : Bool) :
    confirmed taken confirmable ≠ closes refunds := by
  cases taken <;> cases confirmable <;> simp [confirmed]

variable {t : Nat} {s : PayDb}

theorem actsBy_chargeConfirm {a₁ : Account} (taken : Bool)
    (ho : Orderly t s) (ha : account t s = some a₁)
    (htaken : (if taken then a.addCoin else a).SameCoins a₁) (clock : Clock)
    (chargeTime : Option Nat) (charge : String) (hwait : taken = true → a.status = .waitBuyerPay) :
    ∃ a', account t ((SaleTrade.chargeConfirm clock t chargeTime charge).run s).2 = some a' ∧
      ActsBy (.confirmed taken (confirmable clock t s).isSome) a a' := by
  rw [account_chargeConfirm ho]
  have hstatus : a₁.status = a.status := by
    rw [htaken.status]
    cases taken <;> rfl
  have hwaiting : (confirmable clock t s).isSome = true → a.status = .waitBuyerPay := by
    intro hsome
    obtain ⟨st, hst⟩ := Option.isSome_iff_exists.1 hsome
    obtain ⟨hget, hw, -, -⟩ := confirmable_eq_some.1 hst
    have hstored := (account_eq_some hget).symm.trans ha
    rw [← hstatus, ← Option.some.inj hstored]
    exact hw
  cases hsome : (confirmable clock t s).isSome with
  | false =>
    refine ⟨a₁, by simpa using ha, ActsBy.intro (CoinAct.confirmed_ne_closes _ _ _) ?_ ?_⟩
    · cases taken with
      | false => exact Or.inl rfl
      | true => exact Or.inr (hwait rfl)
    · cases taken <;> exact htaken
  | true =>
    refine ⟨a₁.confirm, by simp [ha], ActsBy.intro (CoinAct.confirmed_ne_closes _ _ _)
      (Or.inr (hwaiting hsome)) ?_⟩
    cases taken with
    | false =>
      refine ⟨rfl, htaken.coinPayment, htaken.coin, fun h => ?_⟩
      simp [CoinAct.confirmed, CoinAct.apply, Account.confirm] at h
    | true =>
      refine ⟨rfl, htaken.coinPayment, htaken.coin, fun h => ?_⟩
      simp [CoinAct.confirmed, CoinAct.apply, Account.confirm] at h

variable {trade : SaleTrade}

theorem actsBy_budgetCharge (ho : Orderly trade.id s)
    (hget : s.saleTrades.get? trade.id = some trade) (float : FloatText) (clock : Clock) :
    ∃ a', account trade.id ((budgetCharge float clock trade false).run s).2 = some a' ∧
      ActsBy (budgetCoinAct float clock trade s) (trade.account s) a' := by
  rw [budgetCharge_snd, budgetCoinAct]
  cases hpays : budgetPays float clock trade false s with
  | none => exact ⟨_, account_eq_some hget, ActsBy.keeps _⟩
  | some pay =>
    unfold budgetPays at hpays
    rw [hget] at hpays
    by_cases hwait : trade.status = .waitBuyerPay
    · rw [if_pos (by simpa using hwait)] at hpays
      have ha₁ := account_take hget rfl hpays
      rw [account_eq_some hget, Option.map_some] at ha₁
      have htaken : (if pay.takesCoins then (trade.account s).addCoin
          else trade.account s).SameCoins (pay.booked trade s (trade.account s)) := by
        cases pay with
        | nothing => exact Account.SameCoins.refl _
        | coins mama => exact Account.SameCoins.refl _
        | wallet => exact ⟨rfl, rfl, rfl, fun _ => rfl⟩
      exact actsBy_chargeConfirm pay.takesCoins (ho.take clock pay) ha₁ htaken clock none ""
        fun _ => hwait
    · rw [if_neg (by simpa using hwait)] at hpays
      cases hpays

theorem actsBy_pingppCharge (hget : s.saleTrades.get? trade.id = some trade)
    (hwait : trade.status = .waitBuyerPay) (clock : Clock) (buyerOpenid : String)
    (answer : ProviderAnswer) :
    ∃ a', account trade.id
        ((pingppCharge clock trade false buyerOpenid answer).run s).2 = some a' ∧
      ActsBy (pingppCoinAct clock trade buyerOpenid s) (trade.account s) a' := by
  rw [account_pingppCharge hget rfl, account_eq_some hget, Option.map_some]
  refine ⟨_, rfl, ?_⟩
  unfold pingppBooked pingppCoinAct
  by_cases hready : pingppReady false trade clock buyerOpenid s = true ∧
      (pendingTaken clock trade s.wallet).isSome = true
  · rw [if_pos hready]
    by_cases hcoins : trade.hasCoinPaid = true ∧ (pingppCoins clock trade s).isSome = true
    · rw [if_pos hcoins, if_pos ⟨hready.1, hready.2, hcoins.1, hcoins.2⟩]
      exact ActsBy.intro (by decide) (Or.inr hwait) ⟨rfl, rfl, rfl, fun _ => rfl⟩
    · rw [if_neg hcoins, if_neg fun h => hcoins ⟨h.2.2.1, h.2.2.2⟩]
      exact ActsBy.intro (by decide) (Or.inl rfl) ⟨rfl, rfl, rfl, fun _ => rfl⟩
  · rw [if_neg hready, if_neg fun h => hready ⟨h.1, h.2.1⟩]
    exact ActsBy.keeps _

theorem actsBy_charge (ho : Orderly t s)
    (ha : account t s = some a) (float : FloatText) (clock : Clock)
    (channel : Option Channel) (buyerOpenid : String) (answer : ProviderAnswer) :
    ∃ a', account t ((charge float clock t channel buyerOpenid answer).run s).2 = some a' ∧
      ActsBy ((Attempt.charge clock channel buyerOpenid answer :
        Attempt t).coinAct float s) a a' := by
  rw [charge_snd]
  simp only [Attempt.coinAct]
  cases hsome : chargeable clock t channel s with
  | none => exact ⟨a, by rw [account_switched]; exact ha, ActsBy.keeps a⟩
  | some trade =>
    obtain ⟨hid, hget⟩ := get?_switched hsome
    have hwait : trade.status = .waitBuyerPay := by
      have hfilter := (Option.filter_eq_some_iff.1 hsome).2
      simp only [decide_eq_true_eq] at hfilter
      exact hfilter.1
    subst hid
    have hstored : trade.account (switched trade.id channel s) = a := by
      have hsame := (account_eq_some hget).symm.trans (account_switched trade.id channel s)
      exact Option.some.inj (hsame.trans ha)
    have hfinished : ∀ s₁, account trade.id (payFinished trade.id s₁) =
        account trade.id s₁ := fun s₁ =>
      account_written plain_setPayFinished (fun _ => rfl) s₁
    have hpingpp := actsBy_pingppCharge hget hwait clock buyerOpenid answer
    rw [hstored] at hpingpp
    simp only [hfinished, pay]
    cases hchannel : trade.channel with
    | budget =>
      have hbudget := actsBy_budgetCharge (ho.switched channel) hget float clock
      rw [hstored] at hbudget
      exact hbudget
    | wallet =>
      obtain ⟨xiaolumms, hsnd⟩ := walletCharge_snd clock trade false
        (switched trade.id channel s)
      refine ⟨a, ?_, ActsBy.keeps a⟩
      dsimp only
      rw [hsnd]
      exact (account_switched trade.id channel s).trans ha
    | wx => exact hpingpp
    | weapp => exact hpingpp
    | alipay => exact hpingpp
    | wxPub => exact hpingpp
    | alipayWap => exact hpingpp
    | upmpWap => exact hpingpp
    | apple => exact hpingpp

theorem actsBy_notify (ho : Orderly t s)
    (hget : s.saleTrades.get? t = some trade) (float : FloatText) (clock : Clock)
    (paid : Bool) (chargeId : String) (timePaid : Option Nat) :
    ∃ a', account t ((notifyTradePayTask clock
        (cashNotify trade paid chargeId timePaid)).run s).2 = some a' ∧
      ActsBy ((Attempt.notify clock paid chargeId timePaid : Attempt t).coinAct float s)
        (trade.account s) a' := by
  simp only [Attempt.coinAct]
  unfold notifyTradePayTask
  cases paid with
  | false => exact ⟨_, account_eq_some hget, ActsBy.keeps _⟩
  | true =>
    have hpaid : ¬ (cashNotify trade true chargeId timePaid).paid = false := by
      simp [cashNotify]
    rw [if_neg hpaid]
    simp only [Bool.true_and]
    obtain ⟨tcharge, charges, hrun, _⟩ :=
      recordCharge_run (cashNotify trade true chargeId timePaid) s
    have hid := SaleTrade.id_of_get hget
    have hfirst : (s.saleTrades.first fun r =>
        r.tid = (cashNotify trade true chargeId timePaid).orderNo) = some trade :=
      ho.unique trade hget
    rw [bind_ok hrun, getOr_bind_run]
    dsimp only
    rw [hfirst]
    dsimp only
    rw [hid]
    have hoc : Orderly t { s with tradeCharges := charges } := ⟨ho.live, ho.unique⟩
    exact actsBy_chargeConfirm (a := trade.account s) false hoc (account_eq_some hget)
      ⟨rfl, rfl, rfl, fun _ => rfl⟩ clock _ _ (by simp)

theorem taken_of_refundable {st : SaleTrade} (h : refundable st s = true) :
    0 < st.coinPayment ∧ 1 ≤ consumptions st.id s.coin := by
  simp only [refundable, Bool.and_eq_true] at h
  obtain ⟨⟨hpaid, hlog⟩, -⟩ := h
  constructor
  · rw [SaleTrade.coinPayment, if_pos hpaid]
    exact st.coin_pos hpaid
  · obtain ⟨log, hfirst⟩ := Option.isSome_iff_exists.1 hlog
    have hconsume : isConsume st.id log = true := Table.first_spec hfirst
    have hone : (if isConsume st.id log then (1 : Int) else 0) = 1 := if_pos hconsume
    rw [← hone]
    refine List.single_le_sum ?_ _ (List.mem_map_of_mem (Table.mem_of_first hfirst))
    intro n hn
    obtain ⟨log', _, rfl⟩ := List.mem_map.1 hn
    split <;> decide

theorem actsBy_closeTrade (ha : account t s = some a) (float : FloatText) (clock : Clock) :
    ∃ a', account t ((SaleTrade.closeTrade clock t).run s).2 = some a' ∧
      ActsBy ((Attempt.closeTrade clock : Attempt t).coinAct float s) a a' := by
  simp only [Attempt.coinAct]
  cases hsome : closable clock t s with
  | none =>
    obtain ⟨r, _, hrun⟩ := closeTrade_of_none hsome
    rw [hrun]
    exact ⟨a, ha, ActsBy.keeps a⟩
  | some st =>
    obtain ⟨a', ha', hclosed, _, hpayment, hcoin⟩ := account_closeTrade hsome
    obtain ⟨hget, hwait, -, -⟩ := closable_eq_some.1 hsome
    have hid := SaleTrade.id_of_get hget
    have ha₀ : st.account s = a := Option.some.inj ((account_eq_some hget).symm.trans ha)
    subst ha₀
    refine ⟨a', ha', Or.inr hwait, ⟨hclosed, hpayment, ?_, fun h => ?_⟩, fun h => ?_⟩
    · rw [hcoin]
      simp only [CoinAct.apply, SaleTrade.account, hid]
    · simp [CoinAct.apply] at h
    · exact taken_of_refundable (by simpa using h)

theorem Attempt.actsBy (ho : Orderly t s)
    (ha : account t s = some a) (float : FloatText) (attempt : Attempt t) :
    ∃ a', account t (attempt.exec float s) = some a' ∧
      ActsBy (attempt.coinAct float s) a a' := by
  cases attempt with
  | charge clock channel buyerOpenid answer =>
    exact actsBy_charge ho ha float clock channel buyerOpenid answer
  | notify clock paid chargeId timePaid =>
    obtain ⟨trade, hget, rfl⟩ := Option.map_eq_some_iff.1 ha
    have hnotify := actsBy_notify ho hget float clock paid chargeId timePaid
    simpa [exec, toStep, Step.exec, onTrade, hget] using hnotify
  | chargeConfirm clock chargeTime chargeId =>
    exact actsBy_chargeConfirm false ho ha (Account.SameCoins.refl a) clock chargeTime
      chargeId (by simp)
  | closeTrade clock => exact actsBy_closeTrade ha float clock
  | others change untouched sound =>
    exact ⟨a, (untouched s).account_eq.trans ha, ActsBy.keeps a⟩

/-! ## The coin accounts -/

theorem sound_consumed {clock : Clock} {mama : Nat}
    (hsource : coinSource clock trade s = some mama) (h : ∀ m, s.coin.Sound m) (m : Nat) :
    (consumedCoin clock trade mama s.coin).Sound m := by
  have hspec := (Option.filter_eq_some_iff.1 hsource).2
  simp only [Bool.decide_and, Bool.and_eq_true, decide_eq_true_eq] at hspec
  obtain ⟨hcovers, hfree⟩ := hspec
  have hrun : ((XiaoluCoin.move clock.today mama (-trade.coinPayment) .outgoing
      trade.coinPayment .consume (toString trade.id)).run s.coin).2 =
      consumedCoin clock trade mama s.coin := by
    rw [XiaoluCoin.move_run, hfree]
    rfl
  rw [← hrun]
  refine (h m).move clock.today .consume (toString trade.id) rfl fun hm => ?_
  subst hm
  rw [CoinDb.amount]
  cases hamount : s.coin.xiaoluCoins mama with
  | none => simp [hamount] at hcovers
  | some amount =>
    have hle : trade.coinPayment ≤ amount := by simpa [hamount] using hcovers
    simp only [Option.getD_some]
    omega

theorem coinSource_of_budgetPays {float : FloatText} {clock : Clock}
    {checkCoupon : Bool} {mama : Nat}
    (h : budgetPays float clock trade checkCoupon s = some (.coins mama)) :
    coinSource clock trade s = some mama := by
  unfold budgetPays budgetPay at h
  split at h
  · split at h
    · split at h
      · cases h
      · split at h
        · split at h
          · obtain ⟨mama', hsource, hpay⟩ := Option.map_eq_some_iff.1 h
            cases hpay
            exact hsource
          · split at h
            · cases h
            · cases h
        · cases h
    · cases h
  · cases h

theorem chargeConfirm_coin (clock : Clock) (t : Nat) (chargeTime : Option Nat)
    (charge : String) (s : PayDb) :
    ((SaleTrade.chargeConfirm clock t chargeTime charge).run s).2.coin = s.coin := by
  cases hsome : confirmable clock t s with
  | none => rw [chargeConfirm_snd_of_none chargeTime charge hsome]
  | some st =>
    obtain ⟨items, hsnd⟩ := chargeConfirm_snd_of_some chargeTime charge hsome
    rw [hsnd]
    rfl

theorem notify_coin (clock : Clock) (notify : Notify) (s : PayDb) :
    ((notifyTradePayTask clock notify).run s).2.coin = s.coin := by
  unfold notifyTradePayTask
  split
  · rfl
  · obtain ⟨tcharge, charges, hrun, _⟩ := recordCharge_run notify s
    rw [bind_ok hrun, getOr_bind_run]
    dsimp only
    split
    · exact chargeConfirm_coin _ _ _ _ _
    · rfl

theorem switched_coin (t : Nat) (channel : Option Channel) (s : PayDb) :
    (switched t channel s).coin = s.coin := by
  rcases switched_eq t channel s with h | ⟨channel', h⟩
  · rw [h]
  · rw [h]
    rfl

theorem sound_budgetCharge (h : ∀ m, s.coin.Sound m) (float : FloatText)
    (clock : Clock) (trade : SaleTrade) (checkCoupon : Bool) (m : Nat) :
    (((budgetCharge float clock trade checkCoupon).run s).2.coin).Sound m := by
  rw [budgetCharge_snd]
  cases hpays : budgetPays float clock trade checkCoupon s with
  | none => exact h m
  | some pay =>
    dsimp only
    rw [chargeConfirm_coin]
    cases pay with
    | nothing => exact h m
    | wallet => exact h m
    | coins mama => exact sound_consumed (coinSource_of_budgetPays hpays) h m

theorem sound_pingppCharge (h : ∀ m, s.coin.Sound m) (clock : Clock)
    (trade : SaleTrade) (checkCoupon : Bool) (buyerOpenid : String)
    (answer : ProviderAnswer) (m : Nat) :
    (((pingppCharge clock trade checkCoupon buyerOpenid answer).run s).2.coin).Sound m := by
  rw [pingppCharge_snd]
  split
  · split
    · exact h m
    · split
      · exact h m
      · next coin hcoin =>
        have hsound : coin.Sound m := by
          unfold pingppCoins at hcoin
          split at hcoin
          · obtain ⟨mama, hsource, rfl⟩ := Option.map_eq_some_iff.1 hcoin
            exact sound_consumed hsource h m
          · rw [← Option.some.inj hcoin]
            exact h m
        cases answer with
        | error e => exact hsound
        | ok charge => exact hsound
  · exact h m

theorem sound_charge (h : ∀ m, s.coin.Sound m) (float : FloatText)
    (clock : Clock) (channel : Option Channel) (buyerOpenid : String)
    (answer : ProviderAnswer) (m : Nat) :
    (((charge float clock t channel buyerOpenid answer).run s).2.coin).Sound m := by
  have hs : ∀ m, (switched t channel s).coin.Sound m := by
    rw [switched_coin]
    exact h
  rw [charge_snd]
  cases chargeable clock t channel s with
  | none => exact hs m
  | some trade =>
    have hpingpp := sound_pingppCharge hs clock trade false buyerOpenid answer m
    show (((pay float clock trade buyerOpenid answer).run
      (switched t channel s)).2.coin).Sound m
    unfold pay
    cases trade.channel with
    | budget => exact sound_budgetCharge hs float clock trade false m
    | wallet =>
      obtain ⟨xiaolumms, hsnd⟩ := walletCharge_snd clock trade false (switched t channel s)
      dsimp only
      rw [hsnd]
      exact hs m
    | wx => exact hpingpp
    | weapp => exact hpingpp
    | alipay => exact hpingpp
    | wxPub => exact hpingpp
    | alipayWap => exact hpingpp
    | upmpWap => exact hpingpp
    | apple => exact hpingpp

theorem sound_closeTrade (h : ∀ m, s.coin.Sound m) (clock : Clock)
    (m : Nat) : (((SaleTrade.closeTrade clock t).run s).2.coin).Sound m := by
  cases hsome : closable clock t s with
  | none =>
    obtain ⟨r, _, hrun⟩ := closeTrade_of_none hsome
    rw [hrun]
    exact h m
  | some st =>
    rw [closeTrade_of_some hsome]
    show ((refundedCoin clock st s).2).Sound m
    unfold refundedCoin
    split
    · split
      · exact h m
      · next xlmm _ =>
        split
        · refine (h m).move clock.today .refund (toString st.id) rfl fun _ => ?_
          have hcoins := coinPayment_nonneg st
          have hamount := (h m).nonneg
          omega
        · exact h m
    · exact h m

theorem Attempt.sound (h : ∀ m, s.coin.Sound m) (float : FloatText)
    (attempt : Attempt t) (m : Nat) : ((attempt.exec float s).coin).Sound m := by
  cases attempt with
  | charge clock channel buyerOpenid answer =>
    exact sound_charge h float clock channel buyerOpenid answer m
  | notify clock paid chargeId timePaid =>
    simp only [exec, toStep, Step.exec, onTrade]
    cases s.saleTrades.get? t with
    | none => exact h m
    | some trade =>
      dsimp only
      rw [notify_coin]
      exact h m
  | chargeConfirm clock chargeTime chargeId =>
    simp only [exec, toStep, Step.exec]
    rw [chargeConfirm_coin]
    exact h m
  | closeTrade clock => exact sound_closeTrade h clock m
  | others change untouched sound => exact sound s m (h m)

/-! ## Runs -/

theorem Attempt.chargedOnce_iff (float : FloatText)
    (attempt : Attempt t) (ho : Orderly t s) (hbooked : ∀ a ∈ account t s, a.Booked)
    (hc : CoinCharged t s) :
    CoinCharged t (attempt.exec float s) ↔ attempt.fits float s = true := by
  have hsound := attempt.sound hc.1 float
  unfold CoinCharged fits
  cases ha : account t s with
  | none =>
    have hnone : account t (attempt.exec float s) = none :=
      attempt.toStep.account_none ha float
    simpa [hnone] using hsound
  | some a =>
    obtain ⟨a', ha', hacts⟩ := attempt.actsBy ho ha float
    have honce := hc.2 a ha
    have hbook := hbooked a ha
    have hrefunds : attempt.coinAct float s = .closes true → a.coin = a.coinPayment := by
      intro hact
      obtain ⟨hcoin, htaken⟩ := hacts.refunds hact
      have hwait : a.status = .waitBuyerPay := by simpa [hact] using hacts.waiting
      exact hbook.coin_eq_of_taken honce hwait hcoin htaken
    rw [ha', Option.all_some]
    constructor
    · rintro ⟨-, h⟩
      have hnext := hacts.same.chargedOnce_iff.1 (h a' rfl)
      exact (CoinAct.chargedOnce_iff hbook honce hacts.waiting hrefunds).1 hnext
    · intro hfits
      refine ⟨hsound, ?_⟩
      rintro _ ⟨⟩
      exact hacts.same.chargedOnce_iff.2
        ((CoinAct.chargedOnce_iff hbook honce hacts.waiting hrefunds).2 hfits)

theorem ActsBy.booked {act : CoinAct} {a' : Account} (h : ActsBy act a a')
    (hbooked : a.Booked) (hnonneg : 0 ≤ a'.consumes) : a'.Booked := by
  have hsame := h.same
  cases act with
  | keeps =>
    refine ⟨hsame.coinPayment ▸ hbooked.coinPayment_nonneg, hnonneg, fun hwait => ?_⟩
    have hold : a.status = .waitBuyerPay := hsame.status ▸ hwait
    rw [hsame.coin, hsame.coinPayment, hsame.consumes hold]
    exact hbooked.coin_eq hold
  | takes =>
    refine ⟨hsame.coinPayment ▸ hbooked.coinPayment_nonneg, hnonneg, fun hwait => ?_⟩
    have hold : a.status = .waitBuyerPay := hsame.status ▸ hwait
    rw [hsame.coin, hsame.coinPayment, hsame.consumes hold]
    simp only [CoinAct.apply, Account.addCoin]
    rw [hbooked.coin_eq hold, Int.mul_add, Int.mul_one]
  | confirms =>
    refine ⟨hsame.coinPayment ▸ hbooked.coinPayment_nonneg, hnonneg, fun hwait => ?_⟩
    rw [hsame.status] at hwait
    simp [CoinAct.apply, Account.confirm] at hwait
  | takesAndConfirms =>
    refine ⟨hsame.coinPayment ▸ hbooked.coinPayment_nonneg, hnonneg, fun hwait => ?_⟩
    rw [hsame.status] at hwait
    simp [CoinAct.apply, Account.confirm] at hwait
  | closes refunds =>
    refine ⟨hsame.coinPayment ▸ hbooked.coinPayment_nonneg, hnonneg, fun hwait => ?_⟩
    rw [hsame.status] at hwait
    simp [CoinAct.apply] at hwait

theorem consumptions_nonneg (t : Nat) (s : CoinDb) : 0 ≤ consumptions t s := by
  refine List.sum_nonneg ?_
  intro n hn
  obtain ⟨log, _, rfl⟩ := List.mem_map.1 hn
  split <;> decide

theorem Attempt.booked (float : FloatText) (attempt : Attempt t)
    (ho : Orderly t s) (hbooked : ∀ a ∈ account t s, a.Booked) :
    ∀ a ∈ account t (attempt.exec float s), a.Booked := by
  intro a' ha'
  cases ha : account t s with
  | none =>
    rw [show account t (attempt.exec float s) = none from
      attempt.toStep.account_none ha float] at ha'
    cases ha'
  | some a =>
    obtain ⟨a₁, ha₁, hacts⟩ := attempt.actsBy ho ha float
    rw [ha₁] at ha'
    cases ha'
    obtain ⟨trade, _, rfl⟩ := Option.map_eq_some_iff.1 ha₁
    exact hacts.booked (hbooked a ha) (consumptions_nonneg _ _)

theorem account_shop (amount coins : Int) (trade : SaleTrade) :
    account 1 (shop amount coins trade) =
      some ⟨trade.status, trade.payment, trade.coinPayment, 0, 0, 0, 0⟩ := by
  have hcoin : coinReceived 1 (shop amount coins trade).coin = 0 := by
    simp [coinReceived, shop, takenCoins, Table.stored, Row.withPk]
  have hconsumes : consumptions 1 (shop amount coins trade).coin = 0 := by
    simp [consumptions, shop, isConsume, Table.stored, Row.withPk]
  have haccount : account 1 (shop amount coins trade) = some
      ⟨trade.status, trade.payment, trade.coinPayment, 0,
        coinReceived 1 (shop amount coins trade).coin,
        consumptions 1 (shop amount coins trade).coin, 0⟩ := rfl
  rw [haccount, hcoin, hconsumes]

theorem booked_shop (amount coins : Int) (trade : SaleTrade) :
    ∀ a ∈ account 1 (shop amount coins trade), a.Booked := by
  rw [account_shop]
  rintro _ ⟨⟩
  exact ⟨coinPayment_nonneg trade, le_refl 0, fun _ => (Int.mul_zero _).symm⟩

theorem coinCharged_shop {amount coins : Int} (hcoins : 0 ≤ coins)
    (hwait : trade.status = .waitBuyerPay) : CoinCharged 1 (shop amount coins trade) := by
  constructor
  · intro mama
    by_cases hmama : mama = 1
    · subst hmama
      exact ⟨by simp [shop, CoinDb.amount, CoinDb.logTotal, XiaoluCoinLog.signed, Table.stored,
        Row.withPk], by simpa [shop, CoinDb.amount] using hcoins⟩
    · have hne : 1 ≠ mama := Ne.symm hmama
      constructor
      · simp [shop, CoinDb.amount, CoinDb.logTotal, Table.stored, Row.withPk, hmama, hne]
      · simp [shop, CoinDb.amount, hmama]
  · rw [account_shop]
    rintro _ ⟨⟩
    refine ⟨fun _ => coinPayment_nonneg trade, fun hpaid => ?_, fun hclosed => ?_⟩
    · rw [hwait] at hpaid
      cases hpaid
    · rfl

end ShopManager.Pay.Trade
