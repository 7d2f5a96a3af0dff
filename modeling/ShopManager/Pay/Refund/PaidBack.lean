import ShopManager.Library.Execution
import ShopManager.Pay.Refund.Payment

/-!
# No more is paid back than was paid

A payment to the wallet is held against what the order has cost, and against
nothing that the refund itself asks for: a refund that has been paid is paid again
as long as the order allows.  A run keeps every refund to its fee exactly when no
payment gets through for a refund that has been paid.
-/

namespace ShopManager.Pay.Refund

open Library Library.Tx Library.Execution Library.Key Wallet

/-- A request for a refund, an approval, a confirmation or a notification. -/
inductive RefundOp where
  | doRefund (request : SaleRefund.Request) (orderId : Nat)
  | refundHandler (request : SaleRefund.Request) (orderId : Nat)
  | agreeReturnGoods (refundId : Nat)
  | refundRefuse (feedback : String) (refundId : Nat)
  | pushTradeRefundTask (around : Surroundings) (refundId : Nat)
  | confirmByAdmin (around : Surroundings) (refundId : Nat)
  | returnFeeByRefundProduct (around : Surroundings) (refundId : Nat)
  | refundApprove (around : Surroundings) (refundId : Nat)
  | refundPayment2Budget (around : Surroundings) (refundId : Nat)
  | refundConfirm (around : Surroundings) (refundId : Nat)
  | notifyTradeRefundTask (around : Surroundings) (notify : Notify)

def onRefund (refundId : Nat) (method : SaleRefund → RefundTx Unit) : RefundTx Unit := do
  let refund ← getOr .doesNotExist fun s => s.refunds.get? refundId
  method refund

def doRefundOf (request : SaleRefund.Request) (orderId : Nat) : RefundTx Unit := do
  let order ← SaleOrder.get orderId
  let _ ← SaleRefund.doRefund request order
  pure ()

namespace RefundOp

def tx : RefundOp → RefundTx Unit
  | .doRefund request orderId => doRefundOf request orderId
  | .refundHandler request orderId => Refund.refundHandler request orderId
  | .agreeReturnGoods refundId => onRefund refundId SaleRefund.agreeReturnGoods
  | .refundRefuse feedback refundId => onRefund refundId (SaleRefund.refundRefuse feedback)
  | .pushTradeRefundTask around refundId => Refund.pushTradeRefundTask around refundId
  | .confirmByAdmin around refundId => Refund.confirmByAdmin around refundId
  | .returnFeeByRefundProduct around refundId => Refund.returnFeeByRefundProduct around refundId
  | .refundApprove around refundId => onRefund refundId (SaleRefund.refundApprove around)
  | .refundPayment2Budget around refundId =>
      onRefund refundId (SaleRefund.refundPayment2Budget around)
  | .refundConfirm around refundId => onRefund refundId (SaleRefund.refundConfirm around)
  | .notifyTradeRefundTask around notify => Refund.notifyTradeRefundTask around notify

def exec (op : RefundOp) (s : RefundDb) : RefundDb := (op.tx.run s).2

def reaches (s : RefundDb) (refund : SaleRefund) : RefundOp → Bool
  | .pushTradeRefundTask around _ =>
      !(refund.isPostrefund || around.isBooked) &&
        (SaleRefund.arrived around && payable around s refund)
  | .confirmByAdmin around _ => refund.isOpen && payable around s refund
  | .returnFeeByRefundProduct around _ =>
      (refund.goodStatus = .buyerReturnedGoods && refund.status = .refundConfirmGoods) &&
        ((SaleRefund.arrived around && payable around s refund) && around.afterwards.isOk)
  | .refundApprove around _ => SaleRefund.arrived around && payable around s refund
  | .refundPayment2Budget around _ => payable around s refund
  | _ => false

def target (s : RefundDb) : RefundOp → Option SaleRefund
  | .pushTradeRefundTask _ refundId | .confirmByAdmin _ refundId
  | .returnFeeByRefundProduct _ refundId | .refundApprove _ refundId
  | .refundPayment2Budget _ refundId => s.refunds.get? refundId
  | _ => none

def paid (s : RefundDb) (op : RefundOp) : Option SaleRefund :=
  (target s op).filter fun refund => reaches s refund op

def Allowed (s : RefundDb) (op : RefundOp) : Prop :=
  ∀ refund ∈ paid s op, refund.logged s = 0

instance (s : RefundDb) (op : RefundOp) : Decidable (Allowed s op) :=
  decidable_of_iff ((paid s op).all fun refund => refund.logged s = 0) (by
    simp [Allowed, Option.all_eq_true])

end RefundOp

/-! ## What a step does -/

def Requested (s s' : RefundDb) : Prop :=
  ∃ refund order, s.orders.get? refund.orderId = some order ∧
    refund.tradeId = order.saleTradeId ∧
    (∀ r ∈ s.refunds, ¬ (r.tradeId = refund.tradeId ∧ r.orderId = refund.orderId)) ∧
    SameMoney { s with refunds := s.refunds.insert refund } s'

/-- No money moves, the fee of a refund is paid, or a refund is asked for. -/
inductive Effect (op : RefundOp) (s s' : RefundDb) : Prop where
  | same (hp : op.paid s = none) (h : SameMoney s s')
  | pays (refund : SaleRefund) (today : Date) (hp : op.paid s = some refund)
      (hget : s.refunds.get? refund.id = some refund) (h : Paid today refund s s')
  | requested (hp : op.paid s = none) (h : Requested s s')

variable {s : RefundDb}

theorem onRefund_some {refundId : Nat} {refund : SaleRefund}
    (method : SaleRefund → RefundTx Unit) (h : s.refunds.get? refundId = some refund) :
    (onRefund refundId method).run s = (method refund).run s := by
  rw [onRefund, getOr_bind_run]
  simp only [h]

theorem onRefund_none {refundId : Nat} (method : SaleRefund → RefundTx Unit)
    (h : s.refunds.get? refundId = none) : (onRefund refundId method).run s =
      (.error .doesNotExist, s) := by
  rw [onRefund, getOr_bind_run]
  simp only [h]

theorem effect_of_pays {op : RefundOp} {refundId : Nat} {today : Date}
    {result : SaleRefund → Except Exn Unit} {method : SaleRefund → RefundTx Unit}
    (htarget : op.target s = s.refunds.get? refundId) (htx : op.tx = onRefund refundId method)
    (h : ∀ refund, s.refunds.get? refund.id = some refund →
      Pays today refund (op.reaches s refund) (result refund) (method refund) s) :
    Effect op s (op.exec s) := by
  rw [RefundOp.exec, htx]
  cases hget : s.refunds.get? refundId with
  | none =>
    have hpaid : op.paid s = none := by simp [RefundOp.paid, htarget, hget]
    rw [onRefund_none method hget]
    exact Effect.same hpaid (SameMoney.refl s)
  | some refund =>
    have hid := SaleRefund.id_of_get hget
    have hget' : s.refunds.get? refund.id = some refund := by rw [hid, hget]
    rw [onRefund_some method hget]
    rcases h refund hget' with ⟨hp, s', hrun, hpaid⟩ | ⟨hp, r, s', hrun, hsame⟩
    · have hpaid' : op.paid s = some refund := by simp [RefundOp.paid, htarget, hget, hp]
      rw [hrun]
      exact Effect.pays refund today hpaid' hget' hpaid
    · have hpaid' : op.paid s = none := by simp [RefundOp.paid, htarget, hget, hp]
      rw [hrun]
      exact Effect.same hpaid' hsame

namespace SaleRefund

variable {refund : SaleRefund}

theorem refundApprove_cases (around : Surroundings)
    (hget : s.refunds.get? refund.id = some refund) :
    Pays around.today refund (arrived around && payable around s refund) around.afterwards
      (refundApprove around refund) s :=
  refundFastApprove_cases around hget

theorem pays_ite {today : Date} {p : Bool} {r : Except Exn Unit} {m : RefundTx Unit}
    (c : Bool) (h : Pays today refund p r m s) :
    Pays today refund (c && p) r (if c then m else pure ()) s := by
  cases c with
  | true => simpa using h
  | false =>
    simp only [Bool.false_and, Bool.false_eq_true, if_false]
    exact Pays.idle rfl

theorem pushMethod_cases (around : Surroundings)
    (hget : s.refunds.get? refund.id = some refund) :
    Pays around.today refund
      (!(refund.isPostrefund || around.isBooked) &&
        (arrived around && payable around s refund)) around.afterwards
      (SaleOrder.get refund.orderId >>= fun _ =>
        if refund.isPostrefund ∨ around.isBooked then pure ()
        else refund.refundApprove around) s := by
  cases horder : s.orders.get? refund.orderId with
  | none =>
    have hnot : payable around s refund = false := by simp [payable, withinPayment, horder]
    rw [hnot, Bool.and_false, Bool.and_false]
    apply Pays.idle
    rw [SaleOrder.get, getOr_bind_run]
    simp only [horder]
  | some order =>
    have hread : (SaleOrder.get refund.orderId >>= fun _ =>
        if refund.isPostrefund ∨ around.isBooked then pure ()
        else refund.refundApprove around).run s =
        ((if !(refund.isPostrefund || around.isBooked) then refund.refundApprove around
          else pure ()) : RefundTx Unit).run s := by
      rw [SaleOrder.get, getOr_bind_run]
      simp only [horder]
      by_cases h : refund.isPostrefund = true ∨ around.isBooked = true
      · have hor : (refund.isPostrefund || around.isBooked) = true := by simpa using h
        rw [if_pos h, hor]
        rfl
      · have hor : (refund.isPostrefund || around.isBooked) = false := by simpa using h
        rw [if_neg h, hor]
        rfl
    have h := pays_ite (!(refund.isPostrefund || around.isBooked))
      (refundApprove_cases around hget)
    simpa only [Pays, hread] using h

theorem returnMethod_cases (around : Surroundings)
    (hget : s.refunds.get? refund.id = some refund) :
    Pays around.today refund
      ((refund.goodStatus = .buyerReturnedGoods && refund.status = .refundConfirmGoods) &&
        ((arrived around && payable around s refund) && around.afterwards.isOk)) (.ok ())
      (if refund.goodStatus ≠ .buyerReturnedGoods ∨ refund.status ≠ .refundConfirmGoods then
        pure ()
      else atomic (refund.refundFastApprove around)) s := by
  have hatomic : Pays around.today refund
      ((arrived around && payable around s refund) && around.afterwards.isOk) (.ok ())
      (atomic (refund.refundFastApprove around)) s := by
    apply PaysOrRaises.atomic
    rcases refundFastApprove_cases around hget with
      ⟨hp, s', hrun, hpaid⟩ | ⟨hp, r, s', hrun, hsame⟩
    · rw [hp, Bool.true_and]
      cases hafter : around.afterwards with
      | ok u =>
        rw [hafter] at hrun
        exact Or.inl ⟨rfl, s', hrun, hpaid⟩
      | error e =>
        rw [hafter] at hrun
        exact Or.inr ⟨rfl, Or.inl ⟨e, s', hrun⟩⟩
    · rw [hp, Bool.false_and]
      cases r with
      | ok u => exact Or.inr ⟨rfl, Or.inr ⟨s', hrun, hsame⟩⟩
      | error e => exact Or.inr ⟨rfl, Or.inl ⟨e, s', hrun⟩⟩
  by_cases h : refund.goodStatus ≠ .buyerReturnedGoods ∨ refund.status ≠ .refundConfirmGoods
  · have hfalse : (decide (refund.goodStatus = .buyerReturnedGoods) &&
        decide (refund.status = .refundConfirmGoods)) = false := by
      simp only [Bool.and_eq_false_iff, decide_eq_false_iff_not]
      exact h
    rw [if_pos h, hfalse, Bool.false_and]
    exact Pays.idle rfl
  · have htrue : (decide (refund.goodStatus = .buyerReturnedGoods) &&
        decide (refund.status = .refundConfirmGoods)) = true := by
      simp only [Bool.and_eq_true, decide_eq_true_eq]
      rw [not_or, not_ne_iff, not_ne_iff] at h
      exact h
    rw [if_neg h, htrue, Bool.true_and]
    exact hatomic

end SaleRefund

def credited (s : RefundDb) (refundId : Nat) : Int :=
  ((s.wallet.budgetLogs.filter fun log =>
    log.referalId = toString refundId ∧ log.budgetLogType = .refund ∧
      log.status = .confirmed).map BudgetLog.flowAmount).sum

def provided (s : RefundDb) (refundId : Nat) : Int :=
  ((s.providerRefunds.filter fun refund => refund.1 = refundId).map fun refund =>
    (refund.2 : Int)).sum

def paidBack (s : RefundDb) (orderId : Nat) : Int :=
  ((s.refunds.filter fun refund => refund.orderId = orderId).map fun refund =>
    credited s refund.id + provided s refund.id).sum

/-- No order has been paid back more than it cost, and no refund more than its fee. -/
structure NoOverpay (s : RefundDb) : Prop where
  order : ∀ order ∈ s.orders, paidBack s order.id ≤ order.payment
  fee : ∀ refund ∈ s.refunds, credited s refund.id ≤ refund.refundFee

/-- The books of a shop: a refund belongs to an order of its own, the refund logs
are those of payments, and the provider has not been asked for anything. -/
structure Consistent (s : RefundDb) : Prop where
  owned : ∀ refund ∈ s.refunds, ∃ order, s.orders.get? refund.orderId = some order ∧
    refund.tradeId = order.saleTradeId
  unique : ∀ refund ∈ s.refunds, ∀ refund' ∈ s.refunds,
    refund.orderId = refund'.orderId → refund.id = refund'.id
  logs : ∀ log ∈ s.wallet.budgetLogs, log.budgetLogType = .refund →
    ∃ refund ∈ s.refunds, log.customerId = refund.buyerId ∧
      log.referalId = toString refund.id ∧ log.status = .confirmed ∧ 0 < log.flowAmount
  provider : s.providerRefunds = []

theorem SaleRefund.get_of_mem {refund : SaleRefund} (h : refund ∈ s.refunds) :
    s.refunds.get? refund.id = some refund := Table.get?_eq_some.2 ⟨h, rfl⟩

theorem SaleRefund.mem_of_get {refund : SaleRefund} {id : Nat}
    (h : s.refunds.get? id = some refund) : refund ∈ s.refunds := (Table.get?_eq_some.1 h).1

variable {s' : RefundDb}

theorem SameMoney.refund_back (h : SameMoney s s') {refund : SaleRefund}
    (hrefund : refund ∈ s'.refunds) :
    ∃ old ∈ s.refunds, old.id = refund.id ∧ old.terms = refund.terms := by
  have hmap := h.refunds refund.id
  rw [SaleRefund.get_of_mem hrefund, Option.map_some] at hmap
  obtain ⟨old, hget, hterms⟩ := Option.map_eq_some_iff.1 hmap.symm
  exact ⟨old, SaleRefund.mem_of_get hget, SaleRefund.id_of_get hget, hterms⟩

theorem SameMoney.refund_mem (h : SameMoney s s') {refund : SaleRefund}
    (hrefund : refund ∈ s.refunds) :
    ∃ new ∈ s'.refunds, new.id = refund.id ∧ new.terms = refund.terms := by
  obtain ⟨new, hget, hterms⟩ := h.refund (SaleRefund.get_of_mem hrefund)
  exact ⟨new, SaleRefund.mem_of_get hget, SaleRefund.id_of_get hget, hterms⟩

theorem SaleRefund.terms_eq {refund refund' : SaleRefund} (h : refund.terms = refund'.terms) :
    refund.tradeId = refund'.tradeId ∧ refund.orderId = refund'.orderId ∧
      refund.buyerId = refund'.buyerId ∧ refund.refundFee = refund'.refundFee := by
  simpa only [SaleRefund.terms, Prod.mk.injEq] using h

theorem SaleOrder.terms_eq {order order' : SaleOrder} (h : order.terms = order'.terms) :
    order.saleTradeId = order'.saleTradeId ∧ order.buyerId = order'.buyerId ∧
      order.payment = order'.payment := by
  simpa only [SaleOrder.terms, Prod.mk.injEq] using h

theorem Consistent.same (hc : Consistent s) (h : SameMoney s s') :
    Consistent s' where
  owned refund hrefund := by
    obtain ⟨old, hold, -, hterms⟩ := h.refund_back hrefund
    obtain ⟨htrade, horder, -, -⟩ := SaleRefund.terms_eq hterms
    obtain ⟨order, hget, hsame⟩ := hc.owned old hold
    obtain ⟨order', hget', hterms'⟩ := h.order hget
    obtain ⟨htrade', -, -⟩ := SaleOrder.terms_eq hterms'
    refine ⟨order', by rw [← horder, hget'], ?_⟩
    rw [← htrade, hsame, htrade']
  unique refund hrefund refund' hrefund' hsame := by
    obtain ⟨old, hold, hid, hterms⟩ := h.refund_back hrefund
    obtain ⟨old', hold', hid', hterms'⟩ := h.refund_back hrefund'
    obtain ⟨-, horder, -, -⟩ := SaleRefund.terms_eq hterms
    obtain ⟨-, horder', -, -⟩ := SaleRefund.terms_eq hterms'
    rw [← hid, ← hid']
    exact hc.unique old hold old' hold' (horder.trans (hsame.trans horder'.symm))
  logs log hlog htype := by
    rw [h.wallet] at hlog
    obtain ⟨old, hold, hcustomer, hreferal, hrest⟩ := hc.logs log hlog htype
    obtain ⟨new, hnew, hid, hterms⟩ := h.refund_mem hold
    obtain ⟨-, -, hbuyer, -⟩ := SaleRefund.terms_eq hterms
    exact ⟨new, hnew, by rw [hcustomer, hbuyer], by rw [hreferal, hid], hrest⟩
  provider := by rw [h.provider, hc.provider]

theorem Consistent.paid {refund : SaleRefund} {today : Date}
    (hc : Consistent s) (hget : s.refunds.get? refund.id = some refund)
    (hfee : 0 < refund.refundFee) (h : Paid today refund s s') : Consistent s' := by
  refine Consistent.same ?_ h
  refine ⟨hc.owned, hc.unique, ?_, hc.provider⟩
  intro log hlog htype
  rcases Table.mem_insert.1 hlog with hold | rfl
  · exact hc.logs log hold htype
  · refine ⟨refund, SaleRefund.mem_of_get hget, rfl, rfl, rfl, ?_⟩
    show (0 : Int) < refund.refundFee
    omega

theorem Consistent.requested (hc : Consistent s) (h : Requested s s') :
    Consistent s' := by
  obtain ⟨refund, order, hget, htrade, hnew, hsame⟩ := h
  refine Consistent.same ?_ hsame
  refine ⟨?_, ?_, ?_, hc.provider⟩
  · intro r hr
    rcases Table.mem_insert.1 hr with hold | rfl
    · exact hc.owned r hold
    · exact ⟨order, hget, htrade⟩
  · intro r hr r' hr' horder
    have hother : ∀ old ∈ s.refunds, old.orderId ≠ refund.orderId := by
      intro old hold heq
      obtain ⟨order', hget', htrade'⟩ := hc.owned old hold
      rw [heq, hget] at hget'
      cases hget'
      exact hnew old hold ⟨by rw [htrade', htrade], heq⟩
    rcases Table.mem_insert.1 hr with hold | rfl
    · rcases Table.mem_insert.1 hr' with hold' | rfl
      · exact hc.unique r hold r' hold' horder
      · exact absurd horder (hother r hold)
    · rcases Table.mem_insert.1 hr' with hold' | rfl
      · exact absurd horder.symm (hother r' hold')
      · rfl
  · intro log hlog htype
    obtain ⟨old, hold, hrest⟩ := hc.logs log hlog htype
    exact ⟨old, Table.mem_insert.2 (Or.inl hold), hrest⟩

theorem credited_same (h : SameMoney s s') (refundId : Nat) :
    credited s' refundId = credited s refundId := by
  rw [credited, credited, h.wallet]

theorem logged_eq_credited {refund : SaleRefund} (hc : Consistent s)
    (hrefund : refund ∈ s.refunds) : refund.logged s = credited s refund.id := by
  have hsame : ∀ log ∈ s.wallet.budgetLogs.rows,
      decide (log.customerId = refund.buyerId ∧ log.referalId = toString refund.id ∧
        log.budgetLogType = .refund) =
      decide (log.referalId = toString refund.id ∧ log.budgetLogType = .refund ∧
        log.status = .confirmed) := by
    intro log hlog
    apply decide_eq_decide.2
    constructor
    · rintro ⟨-, hreferal, htype⟩
      obtain ⟨-, -, -, -, hstatus, -⟩ := hc.logs log hlog htype
      exact ⟨hreferal, htype, hstatus⟩
    · rintro ⟨hreferal, htype, -⟩
      obtain ⟨other, hother, hcustomer, hreferal', -⟩ := hc.logs log hlog htype
      have hid : refund.id = other.id := toString_inj.1 (hreferal.symm.trans hreferal')
      have heq : refund = other := Table.pk_inj hrefund hother hid
      exact ⟨by rw [hcustomer, heq], hreferal, htype⟩
  rw [SaleRefund.logged, credited, Table.filter, Table.filter, List.filter_congr hsame]

theorem credited_nonneg (hc : Consistent s) (refundId : Nat) : 0 ≤ credited s refundId := by
  apply List.sum_nonneg
  intro flow hflow
  obtain ⟨log, hlog, rfl⟩ := List.mem_map.1 hflow
  obtain ⟨hmem, hlog⟩ := List.mem_filter.1 hlog
  obtain ⟨-, htype, -⟩ : log.referalId = toString refundId ∧ log.budgetLogType = .refund ∧
      log.status = .confirmed := by simpa using hlog
  obtain ⟨-, -, -, -, -, hpos⟩ := hc.logs log hmem htype
  exact hpos.le

theorem credited_paid {refund : SaleRefund} {today : Date}
    (h : Paid today refund s s') (refundId : Nat) :
    credited s' refundId = credited s refundId +
      if refund.id = refundId then (refund.refundFee : Int) else 0 := by
  rw [credited_same h]
  have hlog : ∀ log : BudgetLog, log = s.wallet.budgetLogs.stored
      (BudgetLog.createdLog s.wallet today (paymentArgs today refund s.wallet)) →
      log.referalId = toString refund.id ∧ log.budgetLogType = .refund ∧
        log.status = .confirmed ∧ log.flowAmount = refund.refundFee := by
    rintro log rfl
    exact ⟨rfl, rfl, rfl, rfl⟩
  obtain ⟨hreferal, htype, hstatus, hflow⟩ := hlog _ rfl
  show ((((s.wallet.budgetLogs.insert _).filter _).map _).sum : Int) = _
  rw [Table.filter, Table.insert]
  simp only [List.filter_append, List.map_append, List.sum_append, credited, Table.filter]
  congr 1
  have hcounts : decide ((s.wallet.budgetLogs.stored (BudgetLog.createdLog s.wallet today
        (paymentArgs today refund s.wallet))).referalId = toString refundId ∧
      (s.wallet.budgetLogs.stored (BudgetLog.createdLog s.wallet today
        (paymentArgs today refund s.wallet))).budgetLogType = .refund ∧
      (s.wallet.budgetLogs.stored (BudgetLog.createdLog s.wallet today
        (paymentArgs today refund s.wallet))).status = .confirmed) =
      decide (refund.id = refundId) := by
    rw [hreferal, htype, hstatus]
    apply decide_eq_decide.2
    rw [toString_inj]
    exact ⟨fun h => h.1, fun h => ⟨h, rfl, rfl⟩⟩
  rw [List.filter_cons, hcounts]
  by_cases hid : refund.id = refundId
  · simp [hid, hflow]
  · simp [hid]

def Within (s : RefundDb) : Prop :=
  ∀ refund ∈ s.refunds, credited s refund.id ≤ refund.refundFee ∧
    ∀ order, s.orders.get? refund.orderId = some order → credited s refund.id ≤ order.payment

theorem paidBack_of_refund {refund : SaleRefund} (hc : Consistent s)
    (hrefund : refund ∈ s.refunds) : paidBack s refund.orderId = credited s refund.id := by
  have hfilter : (s.refunds.filter fun r => r.orderId = refund.orderId) = [refund] := by
    apply Table.filter_eq_singleton hrefund (by simp)
    intro r hr horder
    exact Table.pk_inj hr hrefund (hc.unique r hr refund hrefund (by simpa using horder))
  rw [paidBack, hfilter]
  simp [provided, hc.provider]

theorem noOverpay_iff (hc : Consistent s) : NoOverpay s ↔ Within s := by
  constructor
  · intro h refund hrefund
    refine ⟨h.fee refund hrefund, ?_⟩
    intro order horder
    have hmem := (Table.get?_eq_some.1 horder).1
    have hle := h.order order hmem
    rw [SaleOrder.id_of_get horder, paidBack_of_refund hc hrefund] at hle
    exact hle
  · intro h
    refine ⟨?_, fun refund hrefund => (h refund hrefund).1⟩
    intro order horder
    by_cases hsome : ∃ refund ∈ s.refunds, refund.orderId = order.id
    · obtain ⟨refund, hrefund, hid⟩ := hsome
      rw [← hid, paidBack_of_refund hc hrefund]
      exact (h refund hrefund).2 order (by rw [hid]; exact Table.get?_eq_some.2 ⟨horder, rfl⟩)
    · have hnone : (s.refunds.filter fun r => r.orderId = order.id) = [] := by
        apply List.filter_eq_nil_iff.2
        intro r hr
        simpa using fun heq => hsome ⟨r, hr, heq⟩
      rw [paidBack, hnone]
      exact Int.natCast_nonneg _

/-! ## Every step -/

theorem saved_same {refund : SaleRefund} (new : SaleRefund) (hc : Consistent s)
    (hget : s.refunds.get? refund.id = some refund) (hid : new.id = refund.id)
    (hterms : new.terms = refund.terms) : SameMoney s (new.save.run s).2 := by
  obtain ⟨order, horder, -⟩ := hc.owned refund (SaleRefund.mem_of_get hget)
  obtain ⟨-, horderId, -, -⟩ := SaleRefund.terms_eq hterms
  obtain ⟨s', hrun, hsame, -⟩ := SaleRefund.save_run new (by rw [hid, hget]) hterms
    (by rw [horderId, horder])
  rw [hrun]
  exact hsame

theorem confirmed_same {refund : SaleRefund} (around : Surroundings) (hc : Consistent s)
    (hget : s.refunds.get? refund.id = some refund) :
    SameMoney s ((refund.refundConfirm around).run s).2 := by
  obtain ⟨order, horder, -⟩ := hc.owned refund (SaleRefund.mem_of_get hget)
  obtain ⟨s', hrun, hsame⟩ := SaleRefund.refundConfirm_run around hget rfl horder
  rw [hrun]
  exact hsame

theorem effect_of_same {op : RefundOp} {refundId : Nat} {method : SaleRefund → RefundTx Unit}
    (htarget : op.target s = none) (htx : op.tx = onRefund refundId method)
    (h : ∀ refund, s.refunds.get? refund.id = some refund →
      SameMoney s ((method refund).run s).2) : Effect op s (op.exec s) := by
  have hpaid : op.paid s = none := by rw [RefundOp.paid, htarget]; rfl
  apply Effect.same hpaid
  rw [RefundOp.exec, htx]
  cases hget : s.refunds.get? refundId with
  | none =>
    rw [onRefund_none method hget]
    exact SameMoney.refl s
  | some refund =>
    rw [onRefund_some method hget]
    apply h
    rw [SaleRefund.id_of_get hget, hget]

theorem insert_cases (refund : SaleRefund) {order : SaleOrder}
    (horder : s.orders.get? refund.orderId = some order)
    (htrade : refund.tradeId = order.saleTradeId) :
    (∃ e, (SaleRefund.insert refund).run s = (.error e, s)) ∨
      ∃ stored s', (SaleRefund.insert refund).run s = (.ok stored, s') ∧
        s'.refunds.get? stored.id = some stored ∧ Requested s s' := by
  unfold SaleRefund.insert
  rw [gets_bind_run, raiseIf_bind_run]
  cases htaken : s.refunds.first fun r =>
      r.tradeId = refund.tradeId ∧ r.orderId = refund.orderId with
  | some r => exact Or.inl ⟨.integrityError, rfl⟩
  | none =>
    right
    obtain ⟨s', hrun, hsame, hrefunds⟩ := SaleRefund.syncSaleRefundStatus_run
      (s := { s with refunds := s.refunds.insert refund }) (s.refunds.stored refund) horder
    refine ⟨s.refunds.stored refund, s', ?_, ?_, refund, order, horder, htrade, ?_, hsame⟩
    · rw [if_neg (by simp), gets_bind_run, modify_bind_run, bind_ok hrun]
      rfl
    · have hid : (s.refunds.stored refund).id = s.refunds.nextId := rfl
      rw [hrefunds, Table.get?_insert, if_pos hid]
    · intro r hr hkey
      have hnone := Table.first_eq_none.1 htaken r hr
      simp only [decide_eq_false_iff_not] at hnone
      exact hnone hkey

theorem doRefund_cases (request : SaleRefund.Request) {order : SaleOrder}
    (horder : s.orders.get? order.id = some order) :
    (∃ e, (SaleRefund.doRefund request order).run s = (.error e, s)) ∨
      ∃ refund s', (SaleRefund.doRefund request order).run s = (.ok refund, s') ∧
        s'.refunds.get? refund.id = some refund ∧ Requested s s' := by
  unfold SaleRefund.doRefund
  rw [ofExcept_bind_run]
  cases SaleRefund.goodStatusFor order request with
  | error e => exact Or.inl ⟨e, rfl⟩
  | ok goodStatus =>
    exact insert_cases (SaleRefund.ofRequest order request goodStatus) horder rfl

theorem Requested.same {s'' : RefundDb} (h : Requested s s') (h' : SameMoney s' s'') :
    Requested s s'' := by
  obtain ⟨refund, order, horder, htrade, hnew, hsame⟩ := h
  exact ⟨refund, order, horder, htrade, hnew, hsame.trans h'⟩

theorem agreed_same {refund : SaleRefund} (hc : Consistent s)
    (hget : s.refunds.get? refund.id = some refund) :
    SameMoney s (refund.agreeReturnGoods.run s).2 := by
  unfold SaleRefund.agreeReturnGoods
  split
  · exact saved_same refund.agreed hc hget rfl rfl
  · exact SameMoney.refl s

theorem refused_same {refund : SaleRefund} (feedback : String) (hc : Consistent s)
    (hget : s.refunds.get? refund.id = some refund) :
    SameMoney s ((refund.refundRefuse feedback).run s).2 := by
  unfold SaleRefund.refundRefuse
  split
  · exact saved_same (refund.refused feedback) hc hget rfl rfl
  · exact SameMoney.refl s

theorem doRefundOf_cases (request : SaleRefund.Request) (orderId : Nat) :
    SameMoney s ((doRefundOf request orderId).run s).2 ∨
      Requested s ((doRefundOf request orderId).run s).2 := by
  unfold doRefundOf
  rw [SaleOrder.get, getOr_bind_run]
  cases horder : s.orders.get? orderId with
  | none => exact Or.inl (SameMoney.refl s)
  | some order =>
    have hget : s.orders.get? order.id = some order := by
      rw [SaleOrder.id_of_get horder, horder]
    rcases doRefund_cases request hget with ⟨e, hrun⟩ | ⟨refund, s', hrun, -, hrequested⟩
    · left
      simp only [bind_error hrun]
      exact SameMoney.refl s
    · right
      simp only [bind_ok hrun]
      exact hrequested

theorem refundHandler_cases (request : SaleRefund.Request) (orderId : Nat)
    (hc : Consistent s) :
    SameMoney s ((refundHandler request orderId).run s).2 ∨
      Requested s ((refundHandler request orderId).run s).2 := by
  unfold refundHandler
  rw [SaleOrder.get, getOr_bind_run]
  cases horder : s.orders.get? orderId with
  | none => exact Or.inl (SameMoney.refl s)
  | some order =>
    have hget : s.orders.get? order.id = some order := by
      rw [SaleOrder.id_of_get horder, horder]
    simp only [gets_bind_run]
    cases order.refund s with
    | some refund => exact Or.inl (SameMoney.refl s)
    | none =>
      rcases doRefund_cases request hget with ⟨e, hrun⟩ | ⟨refund, s', hrun, hnew, hreq⟩
      · left
        simp only [bind_error hrun]
        exact SameMoney.refl s
      · right
        simp only [bind_ok hrun]
        exact hreq.same (agreed_same (hc.requested hreq) hnew)

theorem notify_same (around : Surroundings) (notify : Notify) (hc : Consistent s) :
    SameMoney s ((notifyTradeRefundTask around notify).run s).2 := by
  unfold notifyTradeRefundTask
  rw [getOr_bind_run]
  cases hfirst : s.refunds.first fun refund => refund.refundId = notify.id with
  | none => exact SameMoney.refl s
  | some refund =>
    have hget := SaleRefund.get_of_mem (Table.mem_of_first hfirst)
    simp only
    split
    · exact confirmed_same around hc hget
    · exact saved_same (refund.failed notify.failureMsg) hc hget rfl rfl

theorem exec_effect (op : RefundOp) (hc : Consistent s) : Effect op s (op.exec s) := by
  cases op with
  | doRefund request orderId =>
    rcases doRefundOf_cases (s := s) request orderId with h | h
    · exact Effect.same rfl h
    · exact Effect.requested rfl h
  | refundHandler request orderId =>
    rcases refundHandler_cases request orderId hc with h | h
    · exact Effect.same rfl h
    · exact Effect.requested rfl h
  | agreeReturnGoods refundId =>
    exact effect_of_same rfl rfl fun refund hget => agreed_same hc hget
  | refundRefuse feedback refundId =>
    exact effect_of_same rfl rfl fun refund hget => refused_same feedback hc hget
  | pushTradeRefundTask around refundId =>
    exact effect_of_pays rfl rfl fun refund hget => SaleRefund.pushMethod_cases around hget
  | confirmByAdmin around refundId =>
    exact effect_of_pays rfl rfl fun refund hget =>
      SaleRefund.pays_ite refund.isOpen (SaleRefund.refundPayment2Budget_cases around hget)
  | returnFeeByRefundProduct around refundId =>
    exact effect_of_pays rfl rfl fun refund hget =>
      SaleRefund.returnMethod_cases around hget
  | refundApprove around refundId =>
    exact effect_of_pays rfl rfl fun refund hget =>
      SaleRefund.refundApprove_cases around hget
  | refundPayment2Budget around refundId =>
    exact effect_of_pays rfl rfl fun refund hget =>
      SaleRefund.refundPayment2Budget_cases around hget
  | refundConfirm around refundId =>
    exact effect_of_same rfl rfl fun refund hget => confirmed_same around hc hget
  | notifyTradeRefundTask around notify =>
    exact Effect.same rfl (notify_same around notify hc)

theorem payable_of_paid {op : RefundOp} {refund : SaleRefund} (h : op.paid s = some refund) :
    ∃ around, payable around s refund = true := by
  obtain ⟨-, hreach⟩ := Option.filter_eq_some_iff.1 h
  cases op with
  | pushTradeRefundTask around refundId =>
    simp only [RefundOp.reaches, Bool.and_eq_true] at hreach
    exact ⟨around, hreach.2.2⟩
  | confirmByAdmin around refundId =>
    simp only [RefundOp.reaches, Bool.and_eq_true] at hreach
    exact ⟨around, hreach.2⟩
  | returnFeeByRefundProduct around refundId =>
    simp only [RefundOp.reaches, Bool.and_eq_true] at hreach
    exact ⟨around, hreach.2.1.2⟩
  | refundApprove around refundId =>
    simp only [RefundOp.reaches, Bool.and_eq_true] at hreach
    exact ⟨around, hreach.2⟩
  | refundPayment2Budget around refundId => exact ⟨around, hreach⟩
  | _ => simp [RefundOp.reaches] at hreach

theorem fee_of_payable {around : Surroundings} {refund : SaleRefund}
    (h : payable around s refund = true) :
    withinPayment s refund = true ∧ 0 < refund.refundFee := by
  simp only [payable, pays, Bool.and_eq_true, decide_eq_true_eq] at h
  exact ⟨h.1, h.2.1.1⟩

theorem Consistent.exec (s : RefundDb) (op : RefundOp) (hc : Consistent s) :
    Consistent (op.exec s) := by
  cases exec_effect op hc with
  | same hp h => exact hc.same h
  | pays refund today hp hget h =>
    obtain ⟨around, hpayable⟩ := payable_of_paid hp
    exact hc.paid hget (fee_of_payable hpayable).2 h
  | requested hp h => exact hc.requested h

theorem Within.same (hw : Within s) (h : SameMoney s s') : Within s' := by
  intro refund hrefund
  obtain ⟨old, hold, hid, hterms⟩ := h.refund_back hrefund
  obtain ⟨-, horderId, -, hfee⟩ := SaleRefund.terms_eq hterms
  obtain ⟨hle, horders⟩ := hw old hold
  rw [credited_same h, ← hid, ← hfee]
  refine ⟨hle, ?_⟩
  intro order horder
  have hmap := h.orders refund.orderId
  rw [horder, Option.map_some] at hmap
  obtain ⟨order', hget, hsame⟩ := Option.map_eq_some_iff.1 hmap.symm
  obtain ⟨-, -, hpayment⟩ := SaleOrder.terms_eq hsame
  rw [← hpayment]
  exact horders order' (by rw [horderId, hget])

theorem credited_next (hc : Consistent s) : credited s s.refunds.nextId = 0 := by
  have hnone : (s.wallet.budgetLogs.filter fun log =>
      log.referalId = toString s.refunds.nextId ∧ log.budgetLogType = .refund ∧
        log.status = .confirmed) = [] := by
    apply List.filter_eq_nil_iff.2
    intro log hlog hcounted
    obtain ⟨hreferal, htype, -⟩ : log.referalId = toString s.refunds.nextId ∧
        log.budgetLogType = .refund ∧ log.status = .confirmed := by simpa using hcounted
    obtain ⟨refund, hrefund, -, hreferal', -⟩ := hc.logs log hlog htype
    have hid : s.refunds.nextId = refund.id := toString_inj.1 (hreferal.symm.trans hreferal')
    have hlt : refund.id < s.refunds.nextId := Table.pk_lt_nextId hrefund
    omega
  rw [credited, hnone]
  rfl

theorem Within.requested (hc : Consistent s) (hw : Within s) (h : Requested s s') : Within s' := by
  obtain ⟨refund, order, hget, htrade, hnew, hsame⟩ := h
  refine Within.same ?_ hsame
  intro r hr
  rcases Table.mem_insert.1 hr with hold | rfl
  · exact hw r hold
  · have hzero : credited s s.refunds.nextId = 0 := credited_next hc
    refine ⟨?_, ?_⟩
    · exact hzero.trans_le (Int.natCast_nonneg _)
    · intro order' _
      exact hzero.trans_le (Int.natCast_nonneg _)

theorem within_paid_iff {refund : SaleRefund} {today : Date}
    (hc : Consistent s) (hw : Within s) (hget : s.refunds.get? refund.id = some refund)
    (hroom : withinPayment s refund = true) (h : Paid today refund s s') :
    Within s' ↔ refund.logged s = 0 := by
  have hmem := SaleRefund.mem_of_get hget
  have hlogged := logged_eq_credited hc hmem
  have hnonneg := credited_nonneg hc refund.id
  have hcredited := credited_paid h
  constructor
  · intro hw'
    obtain ⟨new, hnew, hid, hterms⟩ := SameMoney.refund_mem h hmem
    obtain ⟨-, -, -, hfee⟩ := SaleRefund.terms_eq hterms
    have hle := (hw' new hnew).1
    rw [hid, hfee, hcredited, if_pos rfl] at hle
    omega
  · intro hfirst
    have hzero : credited s refund.id = 0 := by omega
    intro new hnew
    obtain ⟨old, hold, hid, hterms⟩ := SameMoney.refund_back h hnew
    obtain ⟨-, horderId, -, hfee⟩ := SaleRefund.terms_eq hterms
    have hpayment : ∀ order', s'.orders.get? new.orderId = some order' →
        ∃ order, s.orders.get? old.orderId = some order ∧ order.payment = order'.payment := by
      intro order' horder'
      have hmap := h.orders new.orderId
      rw [horder', Option.map_some] at hmap
      obtain ⟨order, hget', hsame⟩ := Option.map_eq_some_iff.1 hmap.symm
      obtain ⟨-, -, hpay⟩ := SaleOrder.terms_eq hsame
      exact ⟨order, by rw [horderId]; exact hget', hpay⟩
    rw [← hid, ← hfee, hcredited]
    by_cases heq : refund.id = old.id
    · have hsame : refund = old := Table.pk_inj hmem hold heq
      rw [if_pos heq, ← heq, hzero, ← hsame, zero_add]
      refine ⟨le_refl _, ?_⟩
      intro order' horder'
      obtain ⟨order, horder, hpay⟩ := hpayment order' horder'
      rw [← hsame] at horder
      have hle : refund.logged s + refund.refundFee ≤ order.payment := by
        simpa [withinPayment, horder] using hroom
      omega
    · rw [if_neg heq, add_zero]
      refine ⟨(hw old hold).1, ?_⟩
      intro order' horder'
      obtain ⟨order, horder, hpay⟩ := hpayment order' horder'
      rw [← hpay]
      exact (hw old hold).2 order horder

theorem noOverpay_exec (s : RefundDb) (op : RefundOp) (hc : Consistent s)
    (hn : NoOverpay s) : NoOverpay (op.exec s) ↔ op.Allowed s := by
  rw [noOverpay_iff hc] at hn
  rw [noOverpay_iff (hc.exec s op)]
  cases exec_effect op hc with
  | same hp h => exact iff_of_true (hn.same h) (by simp [RefundOp.Allowed, hp])
  | pays refund today hp hget h =>
    obtain ⟨around, hpayable⟩ := payable_of_paid hp
    rw [within_paid_iff hc hn hget (fee_of_payable hpayable).1 h]
    simp [RefundOp.Allowed, hp]
  | requested hp h => exact iff_of_true (hn.requested hc h) (by simp [RefundOp.Allowed, hp])

theorem consistent_throughout (ops : List RefundOp) (s : RefundDb) (hc : Consistent s) :
    Throughout RefundOp.exec Consistent ops s :=
  throughout_of_step Consistent.exec ops s hc

def paidOrder : RefundDb where
  orders := Table.empty.insert ⟨0, 3, 1, 1000, 2, .waitSellerSendGoods, .noRefund, none, 0⟩
  refunds := Table.empty
  wallet := ⟨[1], fun _ => none, Table.empty⟩
  providerRefunds := []

theorem consistent_paidOrder : Consistent paidOrder where
  owned _ h := absurd h List.not_mem_nil
  unique _ h := absurd h List.not_mem_nil
  logs _ h := absurd h List.not_mem_nil
  provider := rfl

theorem noOverpay_paidOrder : NoOverpay paidOrder :=
  (noOverpay_iff consistent_paidOrder).2 fun _ h => absurd h List.not_mem_nil

def quiet (afterwards : Except Exn Unit) : Surroundings :=
  ⟨⟨"2016-11-02"⟩, false, false, false, .ok (), afterwards, .error .attributeError⟩

def onePiece : SaleRefund.Request := ⟨1, 400, none, ""⟩

def retried : List RefundOp :=
  [.refundHandler onePiece 1,
    .pushTradeRefundTask (quiet (.error (.exception "weixin"))) 1,
    .pushTradeRefundTask (quiet (.ok ())) 1]

theorem consistent_retried : Throughout RefundOp.exec Consistent retried paidOrder :=
  consistent_throughout retried paidOrder consistent_paidOrder

end ShopManager.Pay.Refund
