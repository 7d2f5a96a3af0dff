import ShopManager.Pay.Trade.Account

/-!
# The wallet behind the orders

Orders are created, charged, confirmed and closed in any order.  Only what is
charged at the provider takes from the wallet without a look at the balance.
-/

namespace ShopManager.Pay.Trade

open Library Library.Tx Library.Execution Coin Wallet

/-! ## The steps of all trades -/

inductive Purchase where
  | createSaletrade (clock : Clock) (customer : Nat) (form : CreateForm) (uuidOk : Bool)
  | budgetCharge (clock : Clock) (t : Nat) (checkCoupon : Bool)
  | pingppCharge (clock : Clock) (t : Nat) (checkCoupon : Bool) (buyerOpenid : String)
      (answer : ProviderAnswer)
  | charge (clock : Clock) (t : Nat) (channel : Option Channel) (buyerOpenid : String)
      (answer : ProviderAnswer)
  | notify (clock : Clock) (said : Notify)
  | chargeConfirm (clock : Clock) (t : Nat) (chargeTime : Option Nat) (chargeId : String)
  | closeTrade (clock : Clock) (t : Nat)

def Purchase.exec (float : FloatText) : Purchase → PayDb → PayDb
  | createSaletrade clock customer form uuidOk, s =>
      ((Trade.createSaletrade float clock customer form uuidOk).run s).2
  | budgetCharge clock t checkCoupon, s =>
      ((SaleTrade.get t >>= fun trade =>
        Trade.budgetCharge float clock trade checkCoupon).run s).2
  | pingppCharge clock t checkCoupon buyerOpenid answer, s =>
      ((SaleTrade.get t >>= fun trade =>
        Trade.pingppCharge clock trade checkCoupon buyerOpenid answer).run s).2
  | charge clock t channel buyerOpenid answer, s =>
      ((Trade.charge float clock t channel buyerOpenid answer).run s).2
  | notify clock said, s => ((notifyTradePayTask clock said).run s).2
  | chargeConfirm clock t chargeTime chargeId, s =>
      ((SaleTrade.chargeConfirm clock t chargeTime chargeId).run s).2
  | closeTrade clock t, s => ((SaleTrade.closeTrade clock t).run s).2

def balance (customer : Nat) (s : WalletDb) : Int := s.budget customer .amount

def PaymentLogs (s : WalletDb) : Prop :=
  ∀ log ∈ s.budgetLogs, log.budgetLogType = .consum →
    log.budgetType = .budgetOut ∧ 0 ≤ log.flowAmount

/-- A charge at the provider takes more than there is: the trade has no log yet,
its key is free, and its wallet part is above the balance. -/
def pingppOverdraws (customer : Nat) (clock : Clock) (trade : SaleTrade)
    (checkCoupon : Bool) (buyerOpenid : String) (s : PayDb) : Bool :=
  trade.buyerId = customer ∧ pingppReady checkCoupon trade clock buyerOpenid s ∧
    (s.wallet.userBudgets customer).isSome ∧
    s.wallet.keyTaken (some ("st_" ++ toString trade.id)) = false ∧
    balance customer s.wallet < pendingAmount trade s.wallet

def Purchase.overdraws (customer : Nat) (s : PayDb) : Purchase → Bool
  | pingppCharge clock t checkCoupon buyerOpenid _ =>
      (s.saleTrades.get? t).any fun trade =>
        pingppOverdraws customer clock trade checkCoupon buyerOpenid s
  | charge clock t channel buyerOpenid _ =>
      (chargeable clock t channel s).any fun trade =>
        trade.channel ≠ .wallet ∧ trade.channel ≠ .budget ∧
          pingppOverdraws customer clock trade false buyerOpenid (switched t channel s)
  | _ => false

/-! ## Movements of the wallet -/

theorem balance_post (c customer : Nat) (change : UserBudget.Column → Option Int) (s : WalletDb)
    (logs : Table BudgetLog) :
    balance c (s.post customer change logs) =
      balance c s + if c = customer then RowObject.moved change .amount else 0 := by
  unfold balance
  by_cases h : c = customer
  · subst h
    rw [WalletDb.budget_post, if_pos rfl]
    rfl
  · rw [WalletDb.budget_post_of_ne s h, if_neg h, add_zero]

theorem PaymentLogs.post {s : WalletDb} {logs : Table BudgetLog} (h : PaymentLogs s)
    (customer : Nat) (change : UserBudget.Column → Option Int)
    (hlogs : ∀ log ∈ logs, log ∈ s.budgetLogs ∨
      (log.budgetLogType = .consum → log.budgetType = .budgetOut ∧ 0 ≤ log.flowAmount)) :
    PaymentLogs (s.post customer change logs) := by
  intro log hlog
  rcases hlogs log hlog with hold | hnew
  · exact h log hold
  · exact hnew

theorem balance_create {s : WalletDb} {today : Date} {args : BudgetLog.CreateArgs} (c : Nat)
    (herror : BudgetLog.createError s today args = none)
    (hout : args.budgetType = .budgetOut) :
    balance c ((BudgetLog.create today args).run s).2 =
      balance c s - if c = args.customerId then args.flowAmount else 0 := by
  rw [BudgetLog.create_run, herror]
  refine (balance_post c _ _ _ _).trans ?_
  have hmoved : RowObject.moved args.change .amount = -args.flowAmount := by
    rw [BudgetLog.CreateArgs.change, hout]
    rfl
  rw [hmoved]
  split <;> omega

theorem PaymentLogs.create {s : WalletDb} {today : Date} {args : BudgetLog.CreateArgs}
    (h : PaymentLogs s) (hout : args.budgetType = .budgetOut) (hflow : 0 ≤ args.flowAmount) :
    PaymentLogs ((BudgetLog.create today args).run s).2 := by
  rw [BudgetLog.create_run]
  cases BudgetLog.createError s today args with
  | some e => exact h
  | none =>
    refine h.post _ _ fun log hlog => ?_
    rcases Table.mem_insert.1 hlog with hold | rfl
    · exact Or.inl hold
    · exact Or.inr fun _ => ⟨hout, hflow⟩

structure Spares (c : Nat) (s s' : WalletDb) : Prop where
  balance : balance c s ≤ balance c s'
  paymentLogs : PaymentLogs s'

variable {c : Nat}

theorem Spares.refl {s : WalletDb} (h : PaymentLogs s) : Spares c s s :=
  ⟨le_refl _, h⟩

theorem Spares.settled {customer strade : Nat} {s : WalletDb} {blog : BudgetLog}
    {change : UserBudget.Column → Option Int} (h : PaymentLogs s)
    (hfirst : s.budgetLogs.first (BudgetLog.isConsum customer strade) = some blog)
    (hchange : 0 ≤ RowObject.moved change .amount) (status : Status) :
    Spares c s (s.post customer change
      (s.budgetLogs.save (UserBudget.settledLog s blog change status))) := by
  have hmem := Table.mem_of_first hfirst
  constructor
  · rw [balance_post]
    split <;> omega
  · refine h.post _ _ fun log hlog => ?_
    rcases Table.mem_save hlog with rfl | ⟨hold, _⟩
    · exact Or.inr (h blog hmem)
    · exact Or.inl hold

theorem consum_of_first {s : WalletDb} {customer strade : Nat} {blog : BudgetLog}
    (h : PaymentLogs s)
    (hfirst : s.budgetLogs.first (BudgetLog.isConsum customer strade) = some blog) :
    blog.budgetType = .budgetOut ∧ 0 ≤ blog.flowAmount := by
  have hspec := Table.first_spec hfirst
  simp only [BudgetLog.isConsum, decide_eq_true_eq] at hspec
  exact h blog (Table.mem_of_first hfirst) hspec.2.2

theorem Spares.confirmed {st : SaleTrade} {s : PayDb} (h : PaymentLogs s.wallet)
    (hready : budgetReady st s = true) : Spares c s.wallet (confirmedWallet st s).2 := by
  unfold confirmedWallet
  cases hpaid : st.hasBudgetPaid with
  | false => exact Spares.refl h
  | true =>
    have hwallet : (s.wallet.userBudgets st.buyerId).isSome = true := by
      simpa [budgetReady, hpaid] using hready
    simp only [if_true]
    rcases UserBudget.chargeConfirm_cases st.id hwallet with hrun | ⟨blog, hfirst, _, hrun⟩
    · rw [hrun]
      exact Spares.refl h
    · obtain ⟨hout, -⟩ := consum_of_first h hfirst
      rw [hrun]
      refine Spares.settled h hfirst ?_ .confirmed
      have hnone : confirmChange (UserBudget.pendingLog blog) = noChange := by
        simp [confirmChange, UserBudget.pendingLog, hout]
      rw [hnone]
      exact le_refl 0

theorem Spares.canceled {st : SaleTrade} {s : PayDb} (h : PaymentLogs s.wallet)
    (hready : budgetReady st s = true) : Spares c s.wallet (canceledWallet st s).2 := by
  unfold canceledWallet
  cases hpaid : st.hasBudgetPaid with
  | false => exact Spares.refl h
  | true =>
    have hwallet : (s.wallet.userBudgets st.buyerId).isSome = true := by
      simpa [budgetReady, hpaid] using hready
    simp only [if_true]
    rcases UserBudget.chargeCancel_cases st.id hwallet with
      ⟨r, _, hrun⟩ | ⟨blog, hfirst, _, hrun⟩
    · rw [hrun]
      exact Spares.refl h
    · obtain ⟨hout, hflow⟩ := consum_of_first h hfirst
      rw [hrun]
      refine Spares.settled h hfirst ?_ .canceled
      unfold cancelChange
      rw [hout]
      dsimp only
      split
      · have hmoved : RowObject.moved (expenseChange (-blog.flowAmount)) .amount =
            -(-blog.flowAmount) := rfl
        rw [hmoved]
        omega
      · exact le_refl 0

theorem Spares.chargeConfirm {s : PayDb} (h : PaymentLogs s.wallet) (clock : Clock)
    (t : Nat) (chargeTime : Option Nat) (charge : String) :
    Spares c s.wallet ((SaleTrade.chargeConfirm clock t chargeTime charge).run s).2.wallet := by
  cases hsome : confirmable clock t s with
  | none =>
    rw [chargeConfirm_snd_of_none chargeTime charge hsome]
    exact Spares.refl h
  | some st =>
    obtain ⟨items, hsnd⟩ := chargeConfirm_snd_of_some chargeTime charge hsome
    rw [hsnd]
    exact Spares.confirmed h (confirmable_eq_some.1 hsome).2.2.1

theorem Spares.closeTrade {s : PayDb} (h : PaymentLogs s.wallet) (clock : Clock)
    (t : Nat) : Spares c s.wallet ((SaleTrade.closeTrade clock t).run s).2.wallet := by
  cases hsome : closable clock t s with
  | none =>
    obtain ⟨r, _, hrun⟩ := closeTrade_of_none hsome
    rw [hrun]
    exact Spares.refl h
  | some st =>
    rw [closeTrade_of_some hsome]
    exact Spares.canceled h (closable_eq_some.1 hsome).2.2.1

variable {clock : Clock} {trade : SaleTrade}

theorem wallet_of_budgetPay {float : FloatText} {checkCoupon : Bool} {s : PayDb}
    (h : budgetPay float clock trade checkCoupon s = some .wallet) :
    0 < trade.payment ∧ budgetCovers trade s = true := by
  unfold budgetPay at h
  split at h
  · split at h
    · cases h
    · split at h
      · next hpayment =>
        split at h
        · obtain ⟨mama, _, hpay⟩ := Option.map_eq_some_iff.1 h
          cases hpay
        · split at h
          · next hcovers => exact ⟨hpayment, hcovers⟩
          · cases h
      · cases h
  · cases h

theorem nonneg_take {s : PayDb} {float : FloatText}
    {checkCoupon : Bool} {pay : BudgetPay} (h : 0 ≤ balance c s.wallet)
    (hpay : budgetPay float clock trade checkCoupon s = some pay) :
    0 ≤ balance c (pay.take clock trade s).wallet := by
  cases pay with
  | nothing => exact h
  | coins mama => exact h
  | wallet =>
    obtain ⟨-, hcovers⟩ := wallet_of_budgetPay hpay
    unfold BudgetPay.take budgetTaken
    cases herror : BudgetLog.createError s.wallet clock.today (budgetArgs trade) with
    | some e => exact h
    | none =>
      have hafter : balance c
          ((BudgetLog.create clock.today (budgetArgs trade)).run s.wallet).2 =
          balance c s.wallet - if c = trade.buyerId then trade.payment else 0 :=
        balance_create c herror rfl
      dsimp only
      rw [hafter]
      split
      · next hc =>
        have hle : trade.payment ≤ balance c s.wallet := by
          unfold budgetCovers at hcovers
          rw [← hc] at hcovers
          unfold balance WalletDb.budget
          cases hbudget : s.wallet.userBudgets c with
          | none => simp [hbudget] at hcovers
          | some budget => simpa [hbudget] using hcovers
        omega
      · omega

theorem PaymentLogs.take {s : PayDb} {float : FloatText}
    {checkCoupon : Bool} {pay : BudgetPay} (h : PaymentLogs s.wallet)
    (hpay : budgetPay float clock trade checkCoupon s = some pay) :
    PaymentLogs (pay.take clock trade s).wallet := by
  cases pay with
  | nothing => exact h
  | coins mama => exact h
  | wallet =>
    obtain ⟨hpayment, -⟩ := wallet_of_budgetPay hpay
    unfold BudgetPay.take budgetTaken
    cases BudgetLog.createError s.wallet clock.today (budgetArgs trade) with
    | some e => exact h
    | none => exact h.create rfl (le_of_lt hpayment)

theorem budgetCharge_spares {s : PayDb} (h : PaymentLogs s.wallet) (float : FloatText)
    (clock : Clock) (trade : SaleTrade) (checkCoupon : Bool) (c : Nat) :
    ∃ s' : PayDb, PaymentLogs s'.wallet ∧
      (0 ≤ balance c s.wallet → 0 ≤ balance c s'.wallet) ∧
      Spares c s'.wallet
        ((Trade.budgetCharge float clock trade checkCoupon).run s).2.wallet := by
  rw [budgetCharge_snd]
  cases hpays : budgetPays float clock trade checkCoupon s with
  | none => exact ⟨s, h, fun hnonneg => hnonneg, Spares.refl h⟩
  | some pay =>
    have hpay : budgetPay float clock trade checkCoupon s = some pay := by
      unfold budgetPays at hpays
      split at hpays
      · exact hpays
      · cases hpays
    refine ⟨pay.take clock trade s, h.take hpay, fun hnonneg => nonneg_take hnonneg hpay, ?_⟩
    exact Spares.chargeConfirm (h.take hpay) clock trade.id none ""

/-! ## Payments at the provider -/

theorem pingppCharge_wallet (clock : Clock) (trade : SaleTrade) (checkCoupon : Bool)
    (buyerOpenid : String) (answer : ProviderAnswer) (s : PayDb) :
    ((Trade.pingppCharge clock trade checkCoupon buyerOpenid answer).run s).2.wallet =
      if pingppReady checkCoupon trade clock buyerOpenid s then
        (pendingTaken clock trade s.wallet).getD s.wallet
      else s.wallet := by
  rw [pingppCharge_snd]
  split
  · cases pendingTaken clock trade s.wallet with
    | none => rfl
    | some wallet =>
      dsimp only
      split
      · rfl
      · cases answer <;> rfl
  · rfl

theorem createError_chargePendingArgs {s : WalletDb} (today : Date)
    (hcustomer : trade.buyerId ∈ s.customers) :
    BudgetLog.createError s today (UserBudget.chargePendingArgs trade.buyerId trade.id
        trade.budgetPayment) =
      if s.keyTaken (some ("st_" ++ toString trade.id)) then some .integrityError
      else none := by
  have hid : ¬ (UserBudget.chargePendingArgs trade.buyerId trade.id
      trade.budgetPayment).customerId ∉ s.customers := not_not_intro hcustomer
  have hstatus : (UserBudget.chargePendingArgs trade.buyerId trade.id
      trade.budgetPayment).status.getD .confirmed ≠ .canceled := by
    simp [UserBudget.chargePendingArgs]
  rw [BudgetLog.createError, if_neg hid, if_neg hstatus, createKey_stKey trade.id rfl]

theorem pendingAmount_of_none {s : WalletDb}
    (hcustomer : trade.buyerId ∈ s.customers) (hnone : pendingTaken clock trade s = none)
    (hwallet : (s.userBudgets trade.buyerId).isSome = true)
    (hfree : s.keyTaken (some ("st_" ++ toString trade.id)) = false) :
    pendingAmount trade s = 0 := by
  have herror := createError_chargePendingArgs clock.today hcustomer
  rw [hfree, if_neg (by decide)] at herror
  unfold pendingAmount
  rw [if_neg]
  rintro ⟨hpaid, hlogs⟩
  unfold pendingTaken at hnone
  simp only [hpaid, hwallet, if_true, UserBudget.chargePending_run, hlogs,
    BudgetLog.create_run, herror] at hnone
  simp [Except.map, Except.isOk, Except.toBool] at hnone

theorem balance_pendingTaken {s : WalletDb} (c : Nat) (hcustomer : trade.buyerId ∈ s.customers) :
    balance c ((pendingTaken clock trade s).getD s) =
      balance c s - if trade.buyerId = c ∧ (s.userBudgets c).isSome ∧
        s.keyTaken (some ("st_" ++ toString trade.id)) = false then pendingAmount trade s
      else 0 := by
  have herror := createError_chargePendingArgs clock.today hcustomer
  cases htaken : pendingTaken clock trade s with
  | none =>
    have hzero := pendingAmount_of_none hcustomer htaken
    simp only [Option.getD_none]
    split
    · next h =>
      have hno := hzero (h.1 ▸ h.2.1) h.2.2
      omega
    · omega
  | some wallet =>
    rcases pendingTaken_cases htaken with ⟨rfl, hzero⟩ | ⟨hamount, hwallet, hnone, rfl⟩
    · simp only [Option.getD_some, hzero, ite_self, sub_zero]
    · have hfree : s.keyTaken (some ("st_" ++ toString trade.id)) = false := by
        by_contra hkey
        rw [if_pos (by simpa using hkey)] at herror
        rw [herror] at hnone
        cases hnone
      have hafter : balance c ((BudgetLog.create clock.today
          (UserBudget.chargePendingArgs trade.buyerId trade.id trade.budgetPayment)).run s).2 =
          balance c s - if c = trade.buyerId then trade.budgetPayment else 0 :=
        balance_create c hnone rfl
      rw [Option.getD_some, hafter, hamount]
      by_cases hc : c = trade.buyerId
      · subst hc
        rw [if_pos rfl, if_pos ⟨rfl, hwallet, hfree⟩]
      · rw [if_neg hc, if_neg fun h => hc h.1.symm]

theorem paymentLogs_pendingTaken {s : WalletDb}
    (h : PaymentLogs s) : PaymentLogs ((pendingTaken clock trade s).getD s) := by
  cases htaken : pendingTaken clock trade s with
  | none => exact h
  | some wallet =>
    rcases pendingTaken_cases htaken with ⟨rfl, _⟩ | ⟨hamount, _, _, rfl⟩
    · exact h
    · refine h.create rfl ?_
      show 0 ≤ trade.budgetPayment
      unfold SaleTrade.budgetPayment
      split
      · next hpaid => exact le_of_lt (trade.budget_pos hpaid)
      · exact le_refl 0

theorem nonneg_pingppCharge_iff {s : PayDb} (h : 0 ≤ balance c s.wallet)
    (clock : Clock) (trade : SaleTrade) (checkCoupon : Bool) (buyerOpenid : String)
    (answer : ProviderAnswer) :
    0 ≤ balance c
        ((Trade.pingppCharge clock trade checkCoupon buyerOpenid answer).run s).2.wallet ↔
      pingppOverdraws c clock trade checkCoupon buyerOpenid s = false := by
  rw [pingppCharge_wallet]
  unfold pingppOverdraws
  rw [decide_eq_false_iff_not]
  by_cases hready : pingppReady checkCoupon trade clock buyerOpenid s = true
  · have hcustomer : trade.buyerId ∈ s.wallet.customers := by
      simp only [pingppReady, decide_eq_true_eq] at hready
      exact hready.2.2.1
    rw [if_pos hready, balance_pendingTaken c hcustomer]
    by_cases htakes : trade.buyerId = c ∧ (s.wallet.userBudgets c).isSome = true ∧
        s.wallet.keyTaken (some ("st_" ++ toString trade.id)) = false
    · obtain ⟨hbuyer, hwallet, hfree⟩ := htakes
      rw [if_pos ⟨hbuyer, hwallet, hfree⟩]
      constructor
      · rintro hle ⟨-, -, -, -, hlt⟩
        omega
      · intro hnot
        by_contra hneg
        refine hnot ⟨hbuyer, hready, hwallet, hfree, ?_⟩
        omega
    · rw [if_neg htakes, sub_zero]
      refine ⟨fun _ hover => htakes ⟨hover.1, hover.2.2.1, hover.2.2.2.1⟩, fun _ => h⟩
  · rw [if_neg hready]
    exact ⟨fun _ hover => hready hover.2.1, fun _ => h⟩

theorem PaymentLogs.pingppCharge {s : PayDb} (h : PaymentLogs s.wallet) (clock : Clock)
    (trade : SaleTrade) (checkCoupon : Bool) (buyerOpenid : String)
    (answer : ProviderAnswer) :
    PaymentLogs ((Trade.pingppCharge clock trade checkCoupon buyerOpenid
      answer).run s).2.wallet := by
  rw [pingppCharge_wallet]
  split
  · exact paymentLogs_pendingTaken h
  · exact h

/-! ## All steps -/

theorem switched_wallet (t : Nat) (channel : Option Channel) (s : PayDb) :
    (switched t channel s).wallet = s.wallet := by
  rcases switched_eq t channel s with h | ⟨channel', h⟩
  · rw [h]
  · rw [h]
    rfl

theorem createSaletrade_wallet (float : FloatText) (clock : Clock) (customer : Nat)
    (form : CreateForm) (uuidOk : Bool) (s : PayDb) :
    ((createSaletrade float clock customer form uuidOk).run s).2.wallet = s.wallet := by
  let R : PayDb → PayDb → Prop := fun s s' => s'.wallet = s.wallet
  have hrefl : ∀ s, R s s := fun _ => rfl
  have htrans : ∀ a b c, R a b → R b c → R a c := fun a b c hab hbc => hbc.trans hab
  have hkeeps : Keeps R (createSaletrade float clock customer form uuidOk) := by
    refine Keeps.bind htrans (Keeps.raiseIf hrefl _ _) fun _ => ?_
    refine Keeps.bind htrans (Keeps.getOr hrefl _ _) fun _ => ?_
    refine Keeps.bind htrans (Keeps.gets hrefl _) fun saleTrade => ?_
    cases saleTrade with
    | some trade =>
      refine Keeps.bind htrans (Keeps.raiseIf hrefl _ _) fun _ => ?_
      exact Keeps.pure hrefl _
    | none =>
      refine Keeps.bind htrans (Keeps.ofExcept hrefl _) fun budgetPayment => ?_
      refine Keeps.bind htrans (Keeps.ofExcept hrefl _) fun xiaolucoinPayment => ?_
      refine Keeps.bind htrans (Keeps.raiseIf hrefl _ _) fun _ => ?_
      refine Keeps.bind htrans (Keeps.gets hrefl _) fun id => ?_
      refine Keeps.bind htrans (Keeps.modify fun _ => rfl) fun _ => ?_
      exact Keeps.pure hrefl _
  exact hkeeps s

theorem Spares.notify {s : PayDb} (h : PaymentLogs s.wallet) (clock : Clock)
    (said : Notify) : Spares c s.wallet ((notifyTradePayTask clock said).run s).2.wallet := by
  unfold notifyTradePayTask
  split
  · exact Spares.refl h
  · obtain ⟨tcharge, charges, hrun, _⟩ := recordCharge_run said s
    rw [bind_ok hrun, getOr_bind_run]
    dsimp only
    split
    · next strade _ =>
      exact Spares.chargeConfirm (s := { s with tradeCharges := charges }) h clock strade.id _ _
    · exact Spares.refl h

theorem charge_wallet {t : Nat} {channel : Option Channel} {s : PayDb}
    (h : chargeable clock t channel s = some trade) (float : FloatText)
    (buyerOpenid : String) (answer : ProviderAnswer) :
    ((charge float clock t channel buyerOpenid answer).run s).2.wallet =
      ((pay float clock trade buyerOpenid answer).run (switched t channel s)).2.wallet := by
  rw [charge_snd, h]
  rfl

/-- Whether the payment logs take money out after a step, and whether the wallet
of a customer is overdrawn then. -/
structure StepOn (c : Nat) (s s' : WalletDb) (overdraws : Bool) : Prop where
  paymentLogs : PaymentLogs s'
  nonneg_iff : 0 ≤ balance c s → (0 ≤ balance c s' ↔ overdraws = false)

theorem StepOn.of_spares {s s₁ s' : WalletDb} (h : Spares c s₁ s')
    (hnonneg : 0 ≤ balance c s → 0 ≤ balance c s₁) : StepOn c s s' false := by
  refine ⟨h.paymentLogs, fun hs => ⟨fun _ => rfl, fun _ => ?_⟩⟩
  have hfirst := hnonneg hs
  have hmore := h.balance
  omega

theorem stepOn_charge {t : Nat} {s : PayDb} (h : PaymentLogs s.wallet)
    (float : FloatText) (clock : Clock) (channel : Option Channel) (buyerOpenid : String)
    (answer : ProviderAnswer) :
    StepOn c s.wallet ((charge float clock t channel buyerOpenid answer).run s).2.wallet
      ((Purchase.charge clock t channel buyerOpenid answer).overdraws c s) := by
  have hswitched := switched_wallet t channel s
  have hs : PaymentLogs (switched t channel s).wallet := by
    rw [hswitched]
    exact h
  simp only [Purchase.overdraws]
  cases hsome : chargeable clock t channel s with
  | none =>
    rw [charge_snd, hsome]
    dsimp only
    rw [hswitched]
    exact StepOn.of_spares (Spares.refl h) fun hnonneg => hnonneg
  | some trade =>
    rw [charge_wallet hsome, Option.any_some, ← hswitched]
    have hpingpp : StepOn c (switched t channel s).wallet
        ((pingppCharge clock trade false buyerOpenid answer).run
          (switched t channel s)).2.wallet
        (pingppOverdraws c clock trade false buyerOpenid (switched t channel s)) :=
      ⟨hs.pingppCharge clock trade false buyerOpenid answer,
        fun hnonneg => nonneg_pingppCharge_iff hnonneg clock trade false buyerOpenid answer⟩
    unfold pay
    cases hchannel : trade.channel with
    | budget =>
      obtain ⟨s₁, _, hnonneg, hspares⟩ := budgetCharge_spares hs float clock trade false c
      exact StepOn.of_spares hspares hnonneg
    | wallet =>
      obtain ⟨xiaolumms, hsnd⟩ := walletCharge_snd clock trade false (switched t channel s)
      dsimp only
      rw [hsnd]
      exact StepOn.of_spares (Spares.refl hs) fun hnonneg => hnonneg
    | wx => simpa using hpingpp
    | weapp => simpa using hpingpp
    | alipay => simpa using hpingpp
    | wxPub => simpa using hpingpp
    | alipayWap => simpa using hpingpp
    | upmpWap => simpa using hpingpp
    | apple => simpa using hpingpp

theorem Purchase.stepOn {s : PayDb} (float : FloatText) (step : Purchase)
    (h : PaymentLogs s.wallet) :
    StepOn c s.wallet (step.exec float s).wallet (step.overdraws c s) := by
  have hkeep : ∀ {s' : WalletDb}, Spares c s.wallet s' → StepOn c s.wallet s' false :=
    fun hs => StepOn.of_spares hs fun hnonneg => hnonneg
  cases step with
  | createSaletrade clock customer form uuidOk =>
    refine hkeep ?_
    rw [exec, createSaletrade_wallet]
    exact Spares.refl h
  | budgetCharge clock t checkCoupon =>
    rw [exec, SaleTrade.get_bind_run]
    cases s.saleTrades.get? t with
    | none => exact hkeep (Spares.refl h)
    | some trade =>
      obtain ⟨s₁, _, hnonneg, hspares⟩ :=
        budgetCharge_spares h float clock trade checkCoupon c
      exact StepOn.of_spares hspares hnonneg
  | pingppCharge clock t checkCoupon buyerOpenid answer =>
    rw [exec, SaleTrade.get_bind_run, overdraws]
    cases s.saleTrades.get? t with
    | none => exact hkeep (Spares.refl h)
    | some trade =>
      exact ⟨h.pingppCharge clock trade checkCoupon buyerOpenid answer, fun hnonneg =>
        nonneg_pingppCharge_iff hnonneg clock trade checkCoupon buyerOpenid answer⟩
  | charge clock t channel buyerOpenid answer =>
    exact stepOn_charge h float clock channel buyerOpenid answer
  | notify clock said => exact hkeep (Spares.notify h clock said)
  | chargeConfirm clock t chargeTime chargeId =>
    exact hkeep (Spares.chargeConfirm h clock t chargeTime chargeId)
  | closeTrade clock t => exact hkeep (Spares.closeTrade h clock t)

/-- The wallet of a customer is never overdrawn exactly when no charge at the
provider takes more than it holds. -/
theorem never_overdrawn_iff (float : FloatText) (customer : Nat) (steps : List Purchase)
    (s : PayDb) (hlogs : PaymentLogs s.wallet) (hnonneg : 0 ≤ balance customer s.wallet) :
    Throughout (Purchase.exec float) (fun s => 0 ≤ balance customer s.wallet) steps s ↔
      Guarded (Purchase.exec float) (fun s step => step.overdraws customer s = false)
        steps s := by
  have halways : ∀ (s : PayDb) (step : Purchase), PaymentLogs s.wallet →
      PaymentLogs (step.exec float s).wallet := by
    intro s step h
    exact (step.stepOn (c := customer) float h).paymentLogs
  have hstep : ∀ (s : PayDb) (step : Purchase), PaymentLogs s.wallet →
      0 ≤ balance customer s.wallet →
      (0 ≤ balance customer (step.exec float s).wallet ↔ step.overdraws customer s = false) := by
    intro s step h hs
    exact (step.stepOn float h).nonneg_iff hs
  exact throughout_iff_guarded halways hstep steps s hlogs hnonneg

theorem paymentLogs_shop (amount coins : Int) (trade : SaleTrade) :
    PaymentLogs (shop amount coins trade).wallet := by
  intro log hlog
  simp [shop, Table.mem_def] at hlog

def walletOrder : CreateForm where
  uuid := "xd2"
  channel := .wx
  payment := 1000
  payExtras := "pid:3:budget:5.00"
  couponIds := []
  isBoutique := false
  orderType := .saleOrder
  openid := "o1"
  saleOrders := Table.empty.insert ⟨0, .waitBuyerPay, none, false⟩

theorem provider_charge_overdraws :
    0 ≤ balance 1 (shop 0 0 (waitingTrade .wx 300 0 0 "" [])).wallet ∧
      ¬ Throughout (Purchase.exec decimalText) (fun s => 0 ≤ balance 1 s.wallet)
        [.createSaletrade firstDay 1 walletOrder true,
          .pingppCharge firstDay 2 true "" (.ok "ch2")]
        (shop 0 0 (waitingTrade .wx 300 0 0 "" [])) := by
  refine ⟨by decide, fun h => ?_⟩
  have hlast := h.last
  have hbalance : ¬ 0 ≤ balance 1 (run (Purchase.exec decimalText)
      [.createSaletrade firstDay 1 walletOrder true,
        .pingppCharge firstDay 2 true "" (.ok "ch2")]
      (shop 0 0 (waitingTrade .wx 300 0 0 "" []))).wallet := by decide
  exact hbalance hlast

theorem never_overdrawn_with_enough :
    Throughout (Purchase.exec decimalText) (fun s => 0 ≤ balance 1 s.wallet)
      [.createSaletrade firstDay 1 walletOrder true,
        .pingppCharge firstDay 2 true "" (.ok "ch2"), .closeTrade firstDay 2,
        .budgetCharge firstDay 1 false, .chargeConfirm firstDay 2 none "ch2"]
      (shop 600 0 (waitingTrade .budget 300 0 0 "" [])) :=
  (never_overdrawn_iff decimalText 1 _ _ (paymentLogs_shop 600 0 _) (by decide)).2 (by decide)

end ShopManager.Pay.Trade
