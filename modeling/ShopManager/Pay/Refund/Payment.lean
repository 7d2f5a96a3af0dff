import ShopManager.Pay.Refund.Model
import ShopManager.Pay.Wallet.Keys

/-!
# What a payment of a refund does

`refund_payment_2_budget` either pays the fee to the wallet of the buyer or moves
no money, and which of the two is decided by the state before it.
-/

namespace ShopManager.Pay.Refund

open Library Library.Tx Wallet

/-! ## What the money depends on -/

def SaleOrder.terms (order : SaleOrder) : Nat × Nat × Nat :=
  (order.saleTradeId, order.buyerId, order.payment)

def SaleRefund.terms (refund : SaleRefund) : Nat × Nat × Nat × Nat :=
  (refund.tradeId, refund.orderId, refund.buyerId, refund.refundFee)

structure SameMoney (s s' : RefundDb) : Prop where
  wallet : s'.wallet = s.wallet
  provider : s'.providerRefunds = s.providerRefunds
  orders : ∀ id, (s'.orders.get? id).map SaleOrder.terms =
    (s.orders.get? id).map SaleOrder.terms
  refunds : ∀ id, (s'.refunds.get? id).map SaleRefund.terms =
    (s.refunds.get? id).map SaleRefund.terms

theorem SameMoney.refl (s : RefundDb) : SameMoney s s := ⟨rfl, rfl, fun _ => rfl, fun _ => rfl⟩

theorem SameMoney.trans {s s' s'' : RefundDb} (h : SameMoney s s') (h' : SameMoney s' s'') :
    SameMoney s s'' :=
  ⟨h'.wallet.trans h.wallet, h'.provider.trans h.provider,
    fun id => (h'.orders id).trans (h.orders id),
    fun id => (h'.refunds id).trans (h.refunds id)⟩

theorem SameMoney.order {s s' : RefundDb} (h : SameMoney s s') {id : Nat} {order : SaleOrder}
    (horder : s.orders.get? id = some order) :
    ∃ order', s'.orders.get? id = some order' ∧ order'.terms = order.terms := by
  have hmap := h.orders id
  rw [horder, Option.map_some] at hmap
  obtain ⟨order', hget, hterms⟩ := Option.map_eq_some_iff.1 hmap
  exact ⟨order', hget, hterms⟩

theorem SameMoney.refund {s s' : RefundDb} (h : SameMoney s s') {id : Nat}
    {refund : SaleRefund} (hrefund : s.refunds.get? id = some refund) :
    ∃ refund', s'.refunds.get? id = some refund' ∧ refund'.terms = refund.terms := by
  have hmap := h.refunds id
  rw [hrefund, Option.map_some] at hmap
  obtain ⟨refund', hget, hterms⟩ := Option.map_eq_some_iff.1 hmap
  exact ⟨refund', hget, hterms⟩

theorem SameMoney.saveOrder {s : RefundDb} {order : SaleOrder} {old : SaleOrder}
    (hold : s.orders.get? order.id = some old) (hterms : order.terms = old.terms) :
    SameMoney s { s with orders := s.orders.save order } := by
  refine ⟨rfl, rfl, ?_, fun _ => rfl⟩
  intro id
  show ((s.orders.save order).get? id).map SaleOrder.terms = _
  rw [Table.get?_save]
  by_cases hid : id = Row.pk order
  · have hpk : id = order.id := hid
    rw [if_pos hid, hpk, hold]
    simp [hterms]
  · rw [if_neg hid]

theorem SameMoney.saveRefund {s : RefundDb} {refund : SaleRefund} {old : SaleRefund}
    (hold : s.refunds.get? refund.id = some old) (hterms : refund.terms = old.terms) :
    SameMoney s { s with refunds := s.refunds.save refund } := by
  refine ⟨rfl, rfl, fun _ => rfl, ?_⟩
  intro id
  show ((s.refunds.save refund).get? id).map SaleRefund.terms = _
  rw [Table.get?_save]
  by_cases hid : id = Row.pk refund
  · have hpk : id = refund.id := hid
    rw [if_pos hid, hpk, hold]
    simp [hterms]
  · rw [if_neg hid]

theorem SaleOrder.id_of_get {s : RefundDb} {id : Nat} {order : SaleOrder}
    (h : s.orders.get? id = some order) : order.id = id := (Table.get?_eq_some.1 h).2

theorem SaleRefund.id_of_get {s : RefundDb} {id : Nat} {refund : SaleRefund}
    (h : s.refunds.get? id = some refund) : refund.id = id := (Table.get?_eq_some.1 h).2

theorem SaleOrder.closedByRefund_same (order : SaleOrder) :
    order.closedByRefund.id = order.id ∧ order.closedByRefund.terms = order.terms := by
  unfold SaleOrder.closedByRefund
  split
  · exact ⟨rfl, rfl⟩
  · exact ⟨rfl, rfl⟩
  · exact ⟨rfl, rfl⟩
  · exact ⟨rfl, rfl⟩

namespace SaleRefund

theorem syncStatus_same (refund : SaleRefund) (order : SaleOrder) :
    (syncStatus refund order).id = order.id ∧
      (syncStatus refund order).terms = order.terms := by
  unfold syncStatus
  split
  · split
    · exact ⟨rfl, rfl⟩
    · exact ⟨rfl, rfl⟩
    · exact ⟨rfl, rfl⟩
  · exact ⟨rfl, rfl⟩

theorem syncRefund_same (refund : SaleRefund) (order : SaleOrder) :
    (syncRefund refund order).id = order.id ∧
      (syncRefund refund order).terms = order.terms := by
  unfold syncRefund
  split
  · exact ⟨rfl, rfl⟩
  · exact ⟨rfl, rfl⟩

theorem sync_same (refund : SaleRefund) (order : SaleOrder) :
    (sync refund order).id = order.id ∧ (sync refund order).terms = order.terms := by
  obtain ⟨hid, hterms⟩ := syncStatus_same refund order
  obtain ⟨hid', hterms'⟩ := syncRefund_same refund
    { syncStatus refund order with refundStatus := refund.status }
  exact ⟨hid'.trans hid, hterms'.trans hterms⟩

variable {s : RefundDb} {refund old : SaleRefund} {order : SaleOrder}

theorem syncSaleRefundStatus_run (refund : SaleRefund) (horder : s.orders.get? refund.orderId = some order) :
    ∃ s', (syncSaleRefundStatus refund).run s = (.ok (), s') ∧ SameMoney s s' ∧
      s'.refunds = s.refunds := by
  obtain ⟨hid, hterms⟩ := sync_same refund order
  have hold : s.orders.get? (sync refund order).id = some order := by
    rw [hid, SaleOrder.id_of_get horder, horder]
  refine ⟨{ s with orders := s.orders.save (sync refund order) }, ?_,
    SameMoney.saveOrder hold hterms, rfl⟩
  rw [syncSaleRefundStatus, SaleOrder.get, getOr_bind_run, horder]
  rfl

theorem save_run (refund : SaleRefund) (hold : s.refunds.get? refund.id = some old)
    (hterms : refund.terms = old.terms)
    (horder : s.orders.get? refund.orderId = some order) :
    ∃ s', (save refund).run s = (.ok (), s') ∧ SameMoney s s' ∧
      s'.refunds.get? refund.id = some refund := by
  obtain ⟨s', hrun, hsame, hrefunds⟩ := syncSaleRefundStatus_run
    (s := { s with refunds := s.refunds.save refund }) refund horder
  refine ⟨s', ?_, (SameMoney.saveRefund hold hterms).trans hsame, ?_⟩
  · rw [save, modify_bind_run, hrun]
  · have hpk : refund.id = Row.pk refund := rfl
    rw [hrefunds, Table.get?_save, if_pos hpk, hold, Option.map_some]

theorem refundConfirm_run (around : Surroundings)
    (hold : s.refunds.get? refund.id = some old) (hterms : refund.terms = old.terms)
    (horder : s.orders.get? refund.orderId = some order) :
    ∃ s', (refundConfirm around refund).run s =
        (if old.status = .refundSuccess then .ok () else around.confirmed, s') ∧
      SameMoney s s' := by
  unfold refundConfirm
  rw [getOr_bind_run]
  simp only [hold]
  by_cases hsuccess : old.status = .refundSuccess
  · simp only [hsuccess, if_true]
    exact ⟨s, rfl, SameMoney.refl s⟩
  · simp only [hsuccess, if_false]
    obtain ⟨s₁, hrun₁, hsame₁, -⟩ := save_run refund.succeeded hold hterms horder
    obtain ⟨order₁, horder₁, -⟩ := hsame₁.order horder
    obtain ⟨hid, hclosed⟩ := order₁.closedByRefund_same
    have hold₁ : s₁.orders.get? order₁.closedByRefund.id = some order₁ := by
      rw [hid, SaleOrder.id_of_get horder₁, horder₁]
    refine ⟨{ s₁ with orders := s₁.orders.save order₁.closedByRefund }, ?_,
      hsame₁.trans (SameMoney.saveOrder hold₁ hclosed)⟩
    rw [bind_ok hrun₁, SaleOrder.get, getOr_bind_run]
    simp only [horder₁, SaleOrder.save, modify_bind_run]
    cases around.confirmed with
    | ok u => rfl
    | error e => rfl

end SaleRefund

/-! ## Paying -/

def refundKey (today : Date) (refund : SaleRefund) (s : WalletDb) : String :=
  let group : KeyGroup := ⟨refund.buyerId, .budgetIn, .refund, today⟩
  group.key (s.groupCount group + 1)

def paymentArgs (today : Date) (refund : SaleRefund) (s : WalletDb) : BudgetLog.CreateArgs :=
  refund.salerefundArgs refund.refundFee (refundKey today refund s)

def loggable (today : Date) (refund : SaleRefund) (s : WalletDb) : Bool :=
  (BudgetLog.createError s today (paymentArgs today refund s)).isNone

def paidWallet (today : Date) (refund : SaleRefund) (s : WalletDb) : WalletDb :=
  s.post refund.buyerId (paymentArgs today refund s).change
    (s.budgetLogs.insert (BudgetLog.createdLog s today (paymentArgs today refund s)))

theorem createSalerefundLog_run (today : Date) (refund : SaleRefund) (s : WalletDb) :
    (SaleRefund.createSalerefundLog today refund refund.refundFee).run s =
      if loggable today refund s then (.ok (), paidWallet today refund s)
      else (.error ((BudgetLog.createError s today (paymentArgs today refund s)).getD
        .integrityError), s) := by
  have hkey : (BudgetLog.genUniKey today refund.buyerId .budgetIn .refund).run s =
      (.ok (refundKey today refund s), s) := by
    simp only [BudgetLog.genUniKey, gets_run, refundKey, KeyGroup.key, WalletDb.groupCount,
      BudgetLog.group, KeyGroup.mk.injEq]
  unfold SaleRefund.createSalerefundLog
  rw [bind_ok hkey, bind_run, BudgetLog.create_run]
  unfold loggable paidWallet paymentArgs
  cases BudgetLog.createError s today
    (refund.salerefundArgs refund.refundFee (refundKey today refund s)) with
  | none => rfl
  | some e => rfl

def withinPayment (s : RefundDb) (refund : SaleRefund) : Bool :=
  (s.orders.get? refund.orderId).any fun order =>
    refund.logged s + refund.refundFee ≤ order.payment

def confirms (around : Surroundings) (refund : SaleRefund) : Bool :=
  refund.status = .refundSuccess || around.confirmed.isOk

def pays (around : Surroundings) (s : RefundDb) (refund : SaleRefund) : Bool :=
  decide (0 < refund.refundFee) && loggable around.today refund s.wallet &&
    confirms around refund

/-- `refund_payment_2_budget` pays the fee. -/
def payable (around : Surroundings) (s : RefundDb) (refund : SaleRefund) : Bool :=
  withinPayment s refund && pays around s refund

def Paid (today : Date) (refund : SaleRefund) (s s' : RefundDb) : Prop :=
  SameMoney { s with wallet := paidWallet today refund s.wallet } s'

/-- A program that pays the fee exactly if `p` holds, and then ends in `r`. -/
def Pays (today : Date) (refund : SaleRefund) (p : Bool) (r : Except Exn Unit)
    (m : RefundTx Unit) (s : RefundDb) : Prop :=
  (p = true ∧ ∃ s', m.run s = (r, s') ∧ Paid today refund s s') ∨
    (p = false ∧ ∃ r' s', m.run s = (r', s') ∧ SameMoney s s')

theorem Pays.idle {today : Date} {refund : SaleRefund} {r : Except Exn Unit}
    {m : RefundTx Unit} {s : RefundDb} (h : (m.run s).2 = s) :
    Pays today refund false r m s := by
  refine Or.inr ⟨rfl, (m.run s).1, (m.run s).2, rfl, ?_⟩
  rw [h]
  exact SameMoney.refl s

def PaysOrRaises (today : Date) (refund : SaleRefund) (p : Bool) (m : RefundTx Unit)
    (s : RefundDb) : Prop :=
  (p = true ∧ ∃ s', m.run s = (.ok (), s') ∧ Paid today refund s s') ∨
    (p = false ∧ ((∃ e s', m.run s = (.error e, s')) ∨
      ∃ s', m.run s = (.ok (), s') ∧ SameMoney s s'))

theorem PaysOrRaises.atomic {today : Date} {refund : SaleRefund} {p : Bool}
    {m : RefundTx Unit} {s : RefundDb} (h : PaysOrRaises today refund p m s) :
    Pays today refund p (.ok ()) (atomic m) s := by
  rcases h with ⟨hp, s', hrun, hpaid⟩ | ⟨hp, ⟨e, s', hrun⟩ | ⟨s', hrun, hsame⟩⟩
  · exact Or.inl ⟨hp, s', atomic_ok hrun, hpaid⟩
  · exact Or.inr ⟨hp, _, s, atomic_error hrun, SameMoney.refl s⟩
  · exact Or.inr ⟨hp, _, s', atomic_ok hrun, hsame⟩

namespace SaleRefund

variable {s : RefundDb} {refund : SaleRefund} {order : SaleOrder}

theorem updateGoodStatus_same (isPost : Bool) (refund : SaleRefund) :
    (updateGoodStatus isPost refund).id = refund.id ∧
      (updateGoodStatus isPost refund).terms = refund.terms ∧
      (updateGoodStatus isPost refund).status = refund.status := by
  cases isPost
  · exact ⟨rfl, rfl, rfl⟩
  · exact ⟨rfl, rfl, rfl⟩

theorem payToWallet_run (today : Date) (refund : SaleRefund) (s : RefundDb) :
    (payToWallet today refund).run s =
      if 0 < refund.refundFee then
        if loggable today refund s.wallet then
          (.ok (), { s with wallet := paidWallet today refund s.wallet })
        else (.error ((BudgetLog.createError s.wallet today
          (paymentArgs today refund s.wallet)).getD .integrityError), s)
      else (.ok (), s) := by
  unfold payToWallet
  by_cases hfee : 0 < refund.refundFee
  · simp only [hfee, if_true, RefundDb.inWallet, zoom, createSalerefundLog_run]
    split
    · rfl
    · rfl
  · simp only [hfee, if_false]
    rfl

theorem payToWallet_updateGoodStatus (today : Date) (isPost : Bool) (refund : SaleRefund)
    (s : RefundDb) :
    (payToWallet today (updateGoodStatus isPost refund)).run s =
      (payToWallet today refund).run s := by
  cases isPost
  · rfl
  · rfl

theorem payConfirm_cases (around : Surroundings) {refund' : SaleRefund}
    (hget : s.refunds.get? refund'.id = some refund')
    (horder : s.orders.get? refund'.orderId = some order)
    (hstatus : refund'.status = refund.status) :
    PaysOrRaises around.today refund (pays around s refund)
      (payToWallet around.today refund >>= fun _ => refundConfirm around refund') s := by
  have hpay := payToWallet_run around.today refund s
  unfold pays
  by_cases hfee : 0 < refund.refundFee
  · rw [if_pos hfee] at hpay
    cases hlog : loggable around.today refund s.wallet with
    | false =>
      rw [hlog] at hpay
      simp only [Bool.and_false, Bool.false_and]
      exact Or.inr ⟨rfl, Or.inl ⟨_, _, bind_error hpay⟩⟩
    | true =>
      rw [hlog] at hpay
      obtain ⟨s', hconfirm, hsame⟩ := refundConfirm_run around
        (s := { s with wallet := paidWallet around.today refund s.wallet }) hget rfl horder
      rw [hstatus] at hconfirm
      have hrun := (bind_ok (f := fun _ => refundConfirm around refund') hpay).trans hconfirm
      simp only [hfee, decide_true, Bool.and_self, Bool.true_and, confirms]
      by_cases hsuccess : refund.status = .refundSuccess
      · rw [if_pos hsuccess] at hrun
        simp only [hsuccess, decide_true, Bool.true_or]
        exact Or.inl ⟨rfl, s', hrun, hsame⟩
      · rw [if_neg hsuccess] at hrun
        simp only [hsuccess, decide_false, Bool.false_or]
        cases hconfirmed : around.confirmed with
        | ok u =>
          rw [hconfirmed] at hrun
          exact Or.inl ⟨rfl, s', hrun, hsame⟩
        | error e =>
          rw [hconfirmed] at hrun
          exact Or.inr ⟨rfl, Or.inl ⟨e, s', hrun⟩⟩
  · rw [if_neg hfee] at hpay
    simp only [hfee, decide_false, Bool.false_and]
    obtain ⟨s', hconfirm, hsame⟩ := refundConfirm_run around hget rfl horder
    have hrun := (bind_ok (f := fun _ => refundConfirm around refund') hpay).trans hconfirm
    refine Or.inr ⟨rfl, ?_⟩
    generalize (if refund'.status = .refundSuccess then (.ok () : Except Exn Unit)
      else around.confirmed) = r at hrun
    cases r with
    | ok u => exact Or.inr ⟨s', hrun, hsame⟩
    | error e => exact Or.inl ⟨e, s', hrun⟩

theorem paysOrRaises_of_same {around : Surroundings} {s₁ : RefundDb} {m m' : RefundTx Unit}
    (hsame : SameMoney s s₁) (hrun : m.run s = m'.run s₁)
    (h : PaysOrRaises around.today refund (pays around s₁ refund) m' s₁) :
    PaysOrRaises around.today refund (pays around s refund) m s := by
  have hpays : pays around s₁ refund = pays around s refund := by
    rw [pays, pays, hsame.wallet]
  rw [hpays] at h
  rcases h with ⟨hp, s', hrun', hpaid⟩ | ⟨hp, ⟨e, s', hrun'⟩ | ⟨s', hrun', hidle⟩⟩
  · refine Or.inl ⟨hp, s', hrun.trans hrun', ?_⟩
    have hwallet : SameMoney { s with wallet := paidWallet around.today refund s.wallet }
        { s₁ with wallet := paidWallet around.today refund s₁.wallet } := by
      refine ⟨?_, hsame.provider, hsame.orders, hsame.refunds⟩
      rw [hsame.wallet]
    exact hwallet.trans hpaid
  · exact Or.inr ⟨hp, Or.inl ⟨e, s', hrun.trans hrun'⟩⟩
  · exact Or.inr ⟨hp, Or.inr ⟨s', hrun.trans hrun', hsame.trans hidle⟩⟩

theorem payAndConfirm_cases (around : Surroundings)
    (hget : s.refunds.get? refund.id = some refund)
    (horder : s.orders.get? refund.orderId = some order) :
    Pays around.today refund (pays around s refund) (.ok ()) (payAndConfirm around refund) s := by
  obtain ⟨hid, hterms, hstatus⟩ := updateGoodStatus_same around.isPost refund
  have hget' : s.refunds.get? (updateGoodStatus around.isPost refund).id = some refund := by
    rw [hid, hget]
  have horderId : (updateGoodStatus around.isPost refund).orderId = refund.orderId :=
    congrArg (fun terms => terms.2.1) hterms
  have horder' : s.orders.get? (updateGoodStatus around.isPost refund).orderId = some order := by
    rw [horderId, horder]
  obtain ⟨s₁, hrun, hsame, hsaved⟩ := save_run _ hget' hterms horder'
  obtain ⟨order₁, horder₁, -⟩ := hsame.order horder'
  refine PaysOrRaises.atomic (paysOrRaises_of_same hsame ?_
    (payConfirm_cases around hsaved horder₁ hstatus))
  rw [bind_ok hrun, bind_run, bind_run, payToWallet_updateGoodStatus]

theorem payAndConfirm_error {around : Surroundings}
    (hget : s.refunds.get? refund.id = some refund)
    (horder : s.orders.get? refund.orderId = some order)
    (hfails : (0 < refund.refundFee ∧ loggable around.today refund s.wallet = false) ∨
      (refund.status ≠ .refundSuccess ∧ around.confirmed.isOk = false)) :
    ∃ e, (refund.payAndConfirm around).run s = (.error e, s) := by
  obtain ⟨hid, hterms, hstatus⟩ := updateGoodStatus_same around.isPost refund
  have horderId : (refund.updateGoodStatus around.isPost).orderId = refund.orderId :=
    congrArg (fun terms => terms.2.1) hterms
  rw [← hid] at hget
  rw [← horderId] at horder
  obtain ⟨s₁, hsave, hsame, hsaved⟩ := save_run _ hget hterms horder
  obtain ⟨order₁, horder₁, -⟩ := hsame.order horder
  have herror : ∃ e s₂, (do
      (refund.updateGoodStatus around.isPost).save
      (refund.updateGoodStatus around.isPost).payToWallet around.today
      (refund.updateGoodStatus around.isPost).refundConfirm around).run s = (.error e, s₂) := by
    rw [bind_ok hsave, bind_run, payToWallet_updateGoodStatus, payToWallet_run, hsame.wallet]
    rcases hfails with ⟨hfee, hlog⟩ | ⟨hopen, hconfirm⟩
    · rw [if_pos hfee, hlog]
      exact ⟨_, _, rfl⟩
    · have hlast : ∀ wallet, ∃ e s₂, ((refund.updateGoodStatus around.isPost).refundConfirm
          around).run { s₁ with wallet := wallet } = (.error e, s₂) := by
        intro wallet
        obtain ⟨s₂, hrun, -⟩ := refundConfirm_run around
          (s := { s₁ with wallet := wallet }) hsaved rfl horder₁
        rw [if_neg (hstatus ▸ hopen)] at hrun
        cases hconfirmed : around.confirmed with
        | ok u =>
          rw [hconfirmed] at hconfirm
          cases hconfirm
        | error e => exact ⟨e, s₂, hconfirmed ▸ hrun⟩
      by_cases hfee : 0 < refund.refundFee
      · rw [if_pos hfee]
        cases loggable around.today refund s.wallet with
        | false => exact ⟨_, _, rfl⟩
        | true => exact hlast _
      · rw [if_neg hfee]
        exact hlast s₁.wallet
  obtain ⟨e, s₂, hrun⟩ := herror
  exact ⟨e, atomic_error hrun⟩

theorem refundPayment2Budget_cases (around : Surroundings)
    (hget : s.refunds.get? refund.id = some refund) :
    Pays around.today refund (payable around s refund) around.afterwards
      (refundPayment2Budget around refund) s := by
  unfold refundPayment2Budget payable withinPayment
  cases horder : s.orders.get? refund.orderId with
  | none =>
    simp only [Option.any_none, Bool.false_and]
    apply Pays.idle
    rw [getOr_bind_run]
    simp only [horder]
  | some order =>
    have hread : (do
        let sorder ← getOr .attributeError fun s : RefundDb => s.orders.get? refund.orderId
        let totalRefund ← gets fun s => logged s refund
        raiseIf (totalRefund + refund.refundFee > sorder.payment)
          (.exception "超过订单实际支付金额 !")
        payAndConfirm around refund
        ofExcept around.afterwards : RefundTx Unit).run s =
        (raiseIf (logged s refund + refund.refundFee > order.payment)
            (.exception "超过订单实际支付金额 !") >>= fun _ =>
          payAndConfirm around refund >>= fun _ => ofExcept around.afterwards).run s := by
      rw [getOr_bind_run]
      simp only [horder]
      rfl
    simp only [Option.any_some]
    by_cases hover : logged s refund + refund.refundFee > order.payment
    · have hfalse : ¬ logged s refund + refund.refundFee ≤ order.payment := by omega
      simp only [hfalse, decide_false, Bool.false_and]
      apply Pays.idle
      rw [hread, raiseIf_bind_run, if_pos hover]
    · have htrue : logged s refund + refund.refundFee ≤ order.payment := by omega
      simp only [htrue, decide_true, Bool.true_and]
      rcases payAndConfirm_cases around hget horder with
        ⟨hp, s', hrun, hpaid⟩ | ⟨hp, r, s', hrun, hsame⟩
      · refine Or.inl ⟨hp, s', ?_, hpaid⟩
        rw [hread, raiseIf_bind_run, if_neg hover, bind_ok hrun]
        cases around.afterwards with
        | ok u => rfl
        | error e => rfl
      · refine Or.inr ⟨hp, ?_⟩
        rw [hread, raiseIf_bind_run, if_neg hover]
        cases r with
        | error e => exact ⟨_, s', bind_error hrun, hsame⟩
        | ok u =>
          rw [bind_ok hrun]
          cases around.afterwards with
          | ok u => exact ⟨_, s', rfl, hsame⟩
          | error e => exact ⟨_, s', rfl, hsame⟩

def arrived (around : Surroundings) : Bool := !around.isPost || around.refundproduct

theorem refundFastApprove_cases (around : Surroundings)
    (hget : s.refunds.get? refund.id = some refund) :
    Pays around.today refund (arrived around && payable around s refund) around.afterwards
      (refundFastApprove around refund) s := by
  unfold refundFastApprove arrived
  by_cases h : around.isPost = true ∧ around.refundproduct = false
  · simp only [h.1, h.2, Bool.not_true, Bool.or_self, Bool.false_and]
    apply Pays.idle
    rw [raiseIf_bind_run, if_pos (by simp)]
  · have harrived : (!around.isPost || around.refundproduct) = true := by
      cases hpost : around.isPost
      · rfl
      · cases hproduct : around.refundproduct
        · exact absurd ⟨hpost, hproduct⟩ h
        · rfl
    rw [harrived, Bool.true_and]
    have hrun := raiseIf_bind_run (around.isPost = true ∧ around.refundproduct = false)
      (.exception "退货商品还没有到达仓库,不予退款") (fun _ => refundPayment2Budget around refund) s
    rw [if_neg h] at hrun
    rcases refundPayment2Budget_cases around hget with
      ⟨hp, s', hpay, hpaid⟩ | ⟨hp, r, s', hpay, hsame⟩
    · exact Or.inl ⟨hp, s', hrun.trans hpay, hpaid⟩
    · exact Or.inr ⟨hp, r, s', hrun.trans hpay, hsame⟩

end SaleRefund

end ShopManager.Pay.Refund
