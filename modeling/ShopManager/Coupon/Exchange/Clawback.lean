import ShopManager.Coupon.Exchange.Exchanged
import ShopManager.Library.Execution
import ShopManager.Library.Key

/-!
# What the refunds of an exchanged order take back

The mark of an exchange is a row under the text of the order, but a refund looks for it under
the order's id.  It finds none, takes the order for one that was never exchanged, and takes
nothing back.
-/

namespace ShopManager.Coupon

open Library Library.Tx Library.Execution Pay Pay.Wallet ExchangeDb

/-! ## Refunds of an order -/

structure Refunding where
  db : ExchangeDb
  refunded : Nat

structure PartialRefund where
  today : Date
  refund : Refund.SaleRefund
  payment : Nat
  deriving DecidableEq, Repr

def PartialRefund.exec (order : Refund.SaleOrder) (op : PartialRefund) (s : Refunding) :
    Refunding where
  db := ((saleorderReturnCouponExchange op.today { op.refund with orderId := order.id }
    op.payment).run s.db).2
  refunded := s.refunded + op.refund.refundNum

def debited (customer : Nat) (s : ExchangeDb) : Int :=
  s.wallet.budgetLogs.sum fun log =>
    if log.customerId = customer ∧ log.budgetLogType = .returnExchg then log.flowAmount else 0

def credit (customer : Nat) (oid : String) (s : ExchangeDb) : Int :=
  (exchgBudgetlog s.wallet customer oid).elim 0 BudgetLog.flowAmount

def usedCoupons (oid : String) (s : ExchangeDb) : List UserCoupon :=
  s.coupon.userCoupons.filter fun coupon => coupon.tradeTid = some oid ∧ coupon.status = .used

/-- Since the exchange in `start` no more has been debited than it earned, all of it once
every piece has been refunded, and a coupon is given back for each piece as long as there
are some. -/
structure InProportion (start : ExchangeDb) (customer : Nat) (oid : String) (num couponNum : Nat)
    (s : Refunding) : Prop where
  atMost : debited customer s.db - debited customer start ≤ credit customer oid start
  whole : num ≤ s.refunded →
    debited customer s.db - debited customer start = credit customer oid start
  given : (usedCoupons oid start).length =
    (usedCoupons oid s.db).length + min couponNum s.refunded

/-- A coupon that a refund gives back is frozen exactly where the wallet held less than was
debited. -/
def FrozenIfShort (customer : Nat) (oid : String) (s s' : Refunding) : Prop :=
  ∀ coupon ∈ usedCoupons oid s.db, ∀ coupon' ∈ s'.db.coupon.userCoupons,
    coupon'.id = coupon.id → coupon' ∉ usedCoupons oid s'.db →
      (coupon'.status = .freeze ↔
        s.db.wallet.budget customer .amount < debited customer s'.db - debited customer s.db)

/-- Every order has a text that is no numeral, and only such texts have been marked. -/
structure Numbered (s : ExchangeDb) : Prop where
  some : ∀ order ∈ s.refund.orders, (s.columns order.id).oid ≠ ""
  oid : ∀ order ∈ s.refund.orders, ∀ n : Nat, (s.columns order.id).oid ≠ toString n
  marked : ∀ row ∈ s.exchangeSaleOrders, row.hasExchanged = true →
    ∃ order ∈ s.refund.orders, row.orderOid = (s.columns order.id).oid

structure Unlinked (orderId : Nat) (s : ExchangeDb) : Prop where
  flag : (s.columns orderId).exchange = false
  row : ∀ row ∈ s.exchangeSaleOrders, row.orderOid = toString orderId → row.hasExchanged = false

theorem forbidExchange_unlinked {orderId : Nat} {s : ExchangeDb} (h : Unlinked orderId s)
    {row : Option ExchangeSaleOrder} (hrow : s.exchangeSaleOrder (toString orderId) = row) :
    ∃ t, ((ExchangeSaleOrder.forbidExchange (toString orderId) row).run s).2 =
        { s with exchangeSaleOrders := t } ∧
      Unlinked orderId { s with exchangeSaleOrders := t } := by
  cases row with
  | none =>
    unfold ExchangeSaleOrder.forbidExchange ExchangeSaleOrder.insert
    rw [gets_bind_run, raiseIf_bind_run]
    split
    · exact ⟨s.exchangeSaleOrders, rfl, h⟩
    · refine ⟨_, rfl, h.flag, fun row hmem hoid => ?_⟩
      rcases Table.mem_insert.1 hmem with hold | rfl
      · exact h.row row hold hoid
      · rfl
  | some row =>
    refine ⟨_, rfl, h.flag, fun row' hmem hoid => ?_⟩
    have hold : row ∈ s.exchangeSaleOrders := Table.mem_of_first hrow
    have hspec := Table.first_spec hrow
    rcases Table.mem_save hmem with rfl | ⟨hother, -⟩
    · exact h.row row hold (of_decide_eq_true hspec)
    · exact h.row row' hother hoid

theorem return_unlinked {order : Refund.SaleOrder} {s : ExchangeDb} (h : Unlinked order.id s)
    (today : Date) (refund : Refund.SaleRefund) (hid : refund.orderId = order.id)
    (payment : Nat) :
    ((saleorderReturnCouponExchange today refund payment).run s).2.wallet = s.wallet ∧
      ((saleorderReturnCouponExchange today refund payment).run s).2.coupon = s.coupon ∧
      Unlinked order.id ((saleorderReturnCouponExchange today refund payment).run s).2 := by
  unfold saleorderReturnCouponExchange
  rw [gets_bind_run, gets_bind_run, hid]
  cases hget : s.refund.orders.get? order.id with
  | none => exact ⟨rfl, rfl, h⟩
  | some saleOrder =>
    have hsame : saleOrder.id = order.id := (Table.get?_eq_some.1 hget).2
    dsimp only
    rw [gets_bind_run, hsame]
    have hnone : (s.exchangeSaleOrder (toString order.id)).any
        ExchangeSaleOrder.hasExchanged = false := by
      cases hrow : s.exchangeSaleOrder (toString order.id) with
      | none => rfl
      | some row =>
        have hspec := Table.first_spec hrow
        exact h.row row (Table.mem_of_first hrow) (of_decide_eq_true hspec)
    rw [if_pos ⟨h.flag, hnone⟩]
    obtain ⟨t, hforbid, hlinked⟩ := forbidExchange_unlinked h rfl
    rw [bind_run]
    cases hrun : (ExchangeSaleOrder.forbidExchange (toString order.id)
        (s.exchangeSaleOrder (toString order.id))).run s with
    | mk res s1 =>
      rw [hrun] at hforbid
      obtain rfl : s1 = _ := hforbid
      cases res with
      | error e => exact ⟨rfl, rfl, hlinked⟩
      | ok u =>
        refine ⟨rfl, rfl, ?_, hlinked.row⟩
        have hcolumns := SameColumns.update s.columns order.id
          (some (leftNum (s.columns order.id) saleOrder.num - refund.refundNum))
        exact (hcolumns order.id).2.2.trans h.flag

/-! ## Runs of refunds -/

section Runs

variable {now : Nat} {today : Date} {customer : Nat} {oid : String} {templateIds : List Nat}
  {couponNum : Nat} {exchgPayment : ExchgPayment} {order : Refund.SaleOrder}
  {s start : ExchangeDb}

theorem unlinked_of_exchange (hnumbered : Numbered s)
    (hrun : (couponExchangeSaleorder now today customer oid templateIds couponNum
      exchgPayment).run s = (.ok (), start)) (horder : s.orderByOid oid = some order) :
    Unlinked order.id start := by
  obtain ⟨order', horder', -, hflag, hwent⟩ := couponExchangeSaleorder_ok hrun
  obtain rfl := Option.some.inj (horder'.symm.trans horder)
  obtain ⟨t, columns, c1, c2, amount, log, w, hmark, hsame, -, -, -, -, rfl⟩ := hwent.gathered
  obtain ⟨t', heq, hmarked⟩ := markExchanged_ok hmark
  obtain rfl : t = t' := congrArg ExchangeDb.exchangeSaleOrders heq
  have hspec := Table.first_spec horder
  have hoid : (s.columns order'.id).oid = oid := of_decide_eq_true hspec
  refine ⟨(hsame order'.id).2.2.trans hflag, fun row hmem htext => ?_⟩
  by_contra hexchanged
  have hexchanged' : row.hasExchanged = true := by simpa using hexchanged
  rcases hmarked row hmem hexchanged' with hrow | hold
  · refine hnumbered.oid order' (Table.mem_of_first horder) order'.id ?_
    exact hoid.trans (hrow.symm.trans htext)
  · obtain ⟨other, hother, hrow⟩ := hnumbered.marked row hold hexchanged'
    exact hnumbered.oid other hother order'.id (hrow.symm.trans htext)

theorem credit_nonneg (hnumbered : Numbered s)
    (hrun : (couponExchangeSaleorder now today customer oid templateIds couponNum
      exchgPayment).run s = (.ok (), start)) : 0 ≤ credit customer oid start := by
  obtain ⟨order, horder, -, -, hwent⟩ := couponExchangeSaleorder_ok hrun
  have hspec := Table.first_spec horder
  have hoid : (s.columns order.id).oid = oid := of_decide_eq_true hspec
  have hsome : oid ≠ "" := hoid ▸ hnumbered.some order (Table.mem_of_first horder)
  obtain ⟨t, columns, c1, c2, amount, log, w, -, -, -, -, -, hcreate, rfl⟩ := hwent.gathered
  unfold credit
  cases hlog : exchgBudgetlog w customer oid with
  | none =>
    change 0 ≤ (exchgBudgetlog w customer oid).elim 0 BudgetLog.flowAmount
    rw [hlog]
    exact le_rfl
  | some log' =>
    change 0 ≤ (exchgBudgetlog w customer oid).elim 0 BudgetLog.flowAmount
    rw [hlog]
    have hmem : log' ∈ w.budgetLogs := Table.mem_of_first hlog
    have hkeyed := Table.first_spec hlog
    obtain ⟨-, -, -, hkey⟩ := of_decide_eq_true hkeyed
    rw [BudgetLog.create_run] at hcreate
    split at hcreate
    · cases congrArg Prod.fst hcreate
    · next hfree =>
        obtain rfl := congrArg Prod.snd hcreate
        rcases Table.mem_insert.1 hmem with hold | rfl
        · exfalso
          unfold BudgetLog.createError at hfree
          rw [exchgArgs_createKey today customer amount order.id hsome] at hfree
          split at hfree
          · cases hfree
          · split at hfree
            · cases hfree
            · split at hfree
              · cases hfree
              · next htaken =>
                  refine htaken ?_
                  unfold WalletDb.keyTaken
                  simp only [Option.isSome_some, Bool.true_and, List.any_eq_true,
                    decide_eq_true_eq]
                  exact ⟨log', hold, hkey⟩
        · exact Int.natCast_nonneg amount

structure Calm (order : Refund.SaleOrder) (start : ExchangeDb) (s : Refunding) : Prop where
  wallet : s.db.wallet = start.wallet
  coupon : s.db.coupon = start.coupon
  unlinked : Unlinked order.id s.db

theorem Calm.exec {s : Refunding} (h : Calm order start s) (op : PartialRefund) :
    Calm order start (op.exec order s) := by
  obtain ⟨hwallet, hcoupon, hunlinked⟩ := return_unlinked h.unlinked op.today
    { op.refund with orderId := order.id } rfl op.payment
  exact ⟨hwallet.trans h.wallet, hcoupon.trans h.coupon, hunlinked⟩

theorem Calm.frozenIfShort {s s' : Refunding} (h : Calm order start s)
    (h' : Calm order start s') : FrozenIfShort customer oid s s' := by
  intro coupon hcoupon coupon' hmem hid hgiven
  have hsame : s'.db.coupon = s.db.coupon := h'.coupon.trans h.coupon.symm
  have hrow : coupon ∈ s.db.coupon.userCoupons := List.mem_of_mem_filter hcoupon
  have heq : coupon' = coupon := by
    refine Table.pk_inj ?_ hrow hid
    exact hsame ▸ hmem
  refine absurd ?_ hgiven
  rw [heq]
  unfold usedCoupons
  rw [hsame]
  exact hcoupon

theorem Calm.inProportion_iff {s : Refunding} (h : Calm order start s)
    (hcredit : 0 ≤ credit customer oid start) (hpos : 0 < couponNum)
    (hle : couponNum ≤ order.num) :
    InProportion start customer oid order.num couponNum s ↔ s.refunded = 0 := by
  have hdebited : debited customer s.db = debited customer start := by
    unfold debited
    rw [h.wallet]
  have hused : usedCoupons oid s.db = usedCoupons oid start := by
    unfold usedCoupons
    rw [h.coupon]
  constructor
  · intro hprop
    have hgiven := hprop.given
    rw [hused] at hgiven
    omega
  · intro hnone
    refine ⟨?_, fun hall => ?_, ?_⟩
    · rw [hdebited, sub_self]
      exact hcredit
    · omega
    · rw [hused, hnone, Nat.min_zero, Nat.add_zero]

end Runs

/-- However an exchanged order is refunded: what is taken back is in proportion throughout
exactly when no refund takes a piece. -/
theorem clawback_iff (now : Nat) (today : Date) (customer : Nat) (oid : String)
    (templateIds : List Nat) (couponNum : Nat) (exchgPayment : ExchgPayment)
    (order : Refund.SaleOrder) (s start : ExchangeDb) (hnumbered : Numbered s)
    (horder : s.orderByOid oid = some order) (hle : couponNum ≤ order.num)
    (hrun : (couponExchangeSaleorder now today customer oid templateIds couponNum
      exchgPayment).run s = (.ok (), start)) (ops : List PartialRefund) :
    (Throughout (PartialRefund.exec order)
        (InProportion start customer oid order.num couponNum) ops ⟨start, 0⟩ ∧
      Stepwise (PartialRefund.exec order) (FrozenIfShort customer oid) ops ⟨start, 0⟩) ↔
        Guarded (PartialRefund.exec order) (fun _ op => op.refund.refundNum = 0) ops
          ⟨start, 0⟩ := by
  obtain ⟨_, -, -, -, hwent⟩ := couponExchangeSaleorder_ok hrun
  have hpos : 0 < couponNum := hwent.enough.1
  have hcredit := credit_nonneg hnumbered hrun
  have hcalm : Calm order start ⟨start, 0⟩ :=
    ⟨rfl, rfl, unlinked_of_exchange hnumbered hrun horder⟩
  have hfrozen : Stepwise (PartialRefund.exec order) (FrozenIfShort customer oid) ops
      ⟨start, 0⟩ := by
    have hany : Guarded (PartialRefund.exec order) (fun _ _ => True) ops ⟨start, 0⟩ :=
      guarded_of_forall (fun _ _ => trivial) ops _
    have hlaw : ∀ (s : Refunding) (op : PartialRefund), Calm order start s → True →
        FrozenIfShort customer oid s (PartialRefund.exec order op s) :=
      fun s op hs _ => hs.frozenIfShort (hs.exec op)
    exact stepwise_of_guarded hlaw (fun s op hs _ => hs.exec op) ops _ hcalm hany
  rw [and_iff_left hfrozen]
  refine throughout_iff_guarded (fun s op hs => hs.exec op) (fun s op hs hprop => ?_) ops _ hcalm
    ((hcalm.inProportion_iff hcredit hpos hle).2 rfl)
  have hnone : s.refunded = 0 := (hs.inProportion_iff hcredit hpos hle).1 hprop
  rw [(hs.exec op).inProportion_iff hcredit hpos hle]
  change s.refunded + op.refund.refundNum = 0 ↔ _
  rw [hnone, Nat.zero_add]

theorem twoTemplates_numbered : Numbered twoTemplates := by
  refine ⟨fun order _ => ?_, fun order _ n heq => ?_, fun row hrow => ?_⟩
  · change "xo1701015ab" ≠ ""
    decide
  · have hfree : Key.Free 'x' (toString n) := Key.free_toString rfl n
    have hoid : "xo1701015ab" = toString n := heq
    rw [← hoid] at hfree
    exact absurd hfree (by decide)
  · cases hrow

def oneExchanged : ExchangeDb :=
  ((couponExchangeSaleorder 50 ⟨"2017-01-02"⟩ 1 "xo1701015ab" [7, 8] 1 .none).run
    twoTemplates).2

def refundOf (refundNum : Nat) : PartialRefund where
  today := ⟨"2017-01-05"⟩
  refund := ⟨1, 1, 3, 2, "", "", refundNum, 9900 * refundNum, "", true, .buyerReturnedGoods,
    .refundSuccess, ""⟩
  payment := 9900 * refundNum

theorem clawback_of_nothing :
    Throughout (PartialRefund.exec twoPieces) (InProportion oneExchanged 1 "xo1701015ab" 2 1)
        [refundOf 0] ⟨oneExchanged, 0⟩ ∧
      Stepwise (PartialRefund.exec twoPieces) (FrozenIfShort 1 "xo1701015ab") [refundOf 0]
        ⟨oneExchanged, 0⟩ :=
  (clawback_iff 50 ⟨"2017-01-02"⟩ 1 "xo1701015ab" [7, 8] 1 .none twoPieces twoTemplates
    oneExchanged twoTemplates_numbered (by decide) (by decide) rfl [refundOf 0]).2
      ⟨rfl, trivial⟩

theorem clawback_fail :
    (couponExchangeSaleorder 50 ⟨"2017-01-02"⟩ 1 "xo1701015ab" [7, 8] 1 .none).run
        twoTemplates = (.ok (), oneExchanged) ∧
      ¬ Throughout (PartialRefund.exec twoPieces)
        (InProportion oneExchanged 1 "xo1701015ab" 2 1) [refundOf 2] ⟨oneExchanged, 0⟩ := by
  refine ⟨rfl, fun h => ?_⟩
  have hgiven := h.last.given
  exact absurd hgiven (by decide)

end ShopManager.Coupon
