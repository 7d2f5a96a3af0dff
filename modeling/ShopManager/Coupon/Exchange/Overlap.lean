import ShopManager.Coupon.Exchange.Clawback
import ShopManager.Coupon.Operations
import ShopManager.Pay.Refund.Payment

/-!
# Exchanges and refunds of one order

An exchange does not look at what of the order has been refunded, and a refund does not find
that the order has been exchanged.
-/

namespace ShopManager.Coupon

open Library Library.Tx Library.Execution Pay ExchangeDb

/-! ## Steps at an order -/

/-- `refund_payment_2_budget`, which ends with what the refund of an exchanged order does. -/
def refundPayment2Budget (around : Refund.Surroundings) (refundId : Nat) : ExchangeTx Unit := do
  let refund ← getOr .doesNotExist fun s => s.refund.refunds.get? refundId
  zoom ExchangeDb.refund (fun refund s => { s with refund := refund })
    (refund.refundPayment2Budget around)
  saleorderReturnCouponExchange around.today refund refund.refundFee

inductive OrderOp where
  | startExchange (now : Nat) (today : Date) (customer couponNum : Nat) (posted : Bool)
  | couponExchangeSaleorder (now : Nat) (today : Date) (customer : Nat) (templateIds : List Nat)
      (couponNum : Nat) (exchgPayment : ExchgPayment)
  | refundPayment2Budget (around : Refund.Surroundings) (refundId : Nat)

def OrderOp.exec (oid : String) (op : OrderOp) (s : ExchangeDb) : ExchangeDb :=
  match op with
  | .startExchange now today customer couponNum posted =>
      ((Coupon.startExchange now today customer oid couponNum posted).run s).2
  | .couponExchangeSaleorder now today customer templateIds couponNum exchgPayment =>
      ((Coupon.couponExchangeSaleorder now today customer oid templateIds couponNum
        exchgPayment).run s).2
  | .refundPayment2Budget around refundId =>
      ((Coupon.refundPayment2Budget around refundId).run s).2

/-- The pieces of an order whose refund is confirmed. -/
def refundedNum (orderId : Nat) (s : ExchangeDb) : Nat :=
  ((s.refund.refunds.filter fun refund =>
    refund.orderId = orderId ∧ refund.status = .refundSuccess).map Refund.SaleRefund.refundNum).sum

/-- No piece is both exchanged and refunded. -/
def Apart (order : Refund.SaleOrder) (oid : String) (s : ExchangeDb) : Prop :=
  (usedCoupons oid s).length + refundedNum order.id s ≤ order.num

/-- A refund that is confirmed while coupons are exchanged for the order is debited to the one
who gave them, and a coupon is given back for each piece. -/
def TakesBack (order : Refund.SaleOrder) (oid : String) (s s' : ExchangeDb) : Prop :=
  usedCoupons oid s ≠ [] → refundedNum order.id s < refundedNum order.id s' →
    (∃ coupon ∈ usedCoupons oid s,
      debited coupon.customerId s < debited coupon.customerId s') ∧
    (usedCoupons oid s).length = (usedCoupons oid s').length +
      min (usedCoupons oid s).length (refundedNum order.id s' - refundedNum order.id s)

/-- An exchange that can go through leaves what has been refunded. -/
def Leaves (order : Refund.SaleOrder) (oid : String) (s : ExchangeDb) (now customer : Nat)
    (templateIds : List Nat) (couponNum : Nat) (exchgPayment : ExchgPayment) : Prop :=
  usedCoupons oid s = [] → Exchangeable now customer templateIds couponNum exchgPayment s →
    couponNum + refundedNum order.id s ≤ order.num

/-- The refund is not confirmed: more would be paid than the order cost, or the payment or the
confirmation fails and is rolled back. -/
def TurnedDown (around : Refund.Surroundings) (refundId : Nat) (s : Refund.RefundDb) : Prop :=
  ∀ refund, s.refunds.get? refundId = some refund →
    Refund.withinPayment s refund = false ∨
    (0 < refund.refundFee ∧ Refund.loggable around.today refund s.wallet = false) ∨
    (refund.status ≠ .refundSuccess ∧ around.confirmed.isOk = false)

/-- No refund of the order is confirmed once it has been exchanged. -/
def OrderOp.Fits (order : Refund.SaleOrder) (oid : String) (s : ExchangeDb) : OrderOp → Prop
  | .startExchange now _ customer couponNum posted =>
      ∀ found, s.orderByOid oid = some found →
        Leaves order oid s now customer (s.columns found.id).couponTemplateIds couponNum
          (ExchgPayment.ofRequest posted)
  | .couponExchangeSaleorder now _ customer templateIds couponNum exchgPayment =>
      Leaves order oid s now customer templateIds couponNum exchgPayment
  | .refundPayment2Budget around refundId =>
      usedCoupons oid s = [] ∨ TurnedDown around refundId s.refund

section Proofs

variable {now : Nat} {today : Date} {customer : Nat} {oid : String} {templateIds : List Nat}
  {couponNum : Nat} {exchgPayment : ExchgPayment} {order : Refund.SaleOrder}
  {s s' : ExchangeDb}

theorem mem_usedCoupons {coupon : UserCoupon} : coupon ∈ usedCoupons oid s ↔
    coupon ∈ s.coupon.userCoupons ∧ coupon.tradeTid = some oid ∧ coupon.status = .used := by
  unfold usedCoupons
  rw [Table.filter, List.mem_filter, decide_eq_true_iff]
  exact Iff.rfl

theorem length_usedCoupons {ids : List Nat} (hnodup : ids.Nodup) (hnone : usedCoupons oid s = [])
    (hrows : ∀ id ∈ ids, ∃ coupon ∈ s.coupon.userCoupons, coupon.id = id)
    (hget : ∀ n, s'.coupon.userCoupons.get? n =
      (s.coupon.userCoupons.get? n).map (usedFor oid ids)) :
    (usedCoupons oid s').length = ids.length := by
  have hkeys : ((usedCoupons oid s').map Row.pk).Nodup := Table.nodup_pk_filter _ _
  rw [← List.length_map (f := Row.pk)]
  refine ((List.perm_ext_iff_of_nodup hkeys hnodup).2 fun id => ?_).length_eq
  rw [List.mem_map]
  constructor
  · rintro ⟨coupon', hmem, rfl⟩
    obtain ⟨hrow, hused⟩ := mem_usedCoupons.1 hmem
    have hsome := hget (Row.pk coupon')
    rw [Table.get?_eq_some.2 ⟨hrow, rfl⟩] at hsome
    obtain ⟨coupon, hold, heq⟩ := Option.map_eq_some_iff.1 hsome.symm
    obtain ⟨hmem, hid⟩ := Table.get?_eq_some.1 hold
    rw [← hid]
    by_contra hout
    have hsame : usedFor oid ids coupon = coupon := if_neg hout
    have hin : coupon ∈ usedCoupons oid s := by
      refine mem_usedCoupons.2 ⟨hmem, ?_⟩
      rw [← hsame, heq]
      exact hused
    rw [hnone] at hin
    exact List.not_mem_nil hin
  · intro hid
    obtain ⟨coupon, hrow, rfl⟩ := hrows id hid
    have hold : s.coupon.userCoupons.get? coupon.id = some coupon :=
      Table.get?_eq_some.2 ⟨hrow, rfl⟩
    have hsome := hget coupon.id
    rw [hold, Option.map_some] at hsome
    obtain ⟨hmem, hpk⟩ := Table.get?_eq_some.1 hsome
    refine ⟨_, mem_usedCoupons.2 ⟨hmem, ?_⟩, hpk⟩
    unfold usedFor
    rw [if_pos hid]
    exact ⟨rfl, rfl⟩

/-- The coupons of an exchanged order, and that it is not exchanged again. -/
structure Kept (order : Refund.SaleOrder) (oid : String) (s : ExchangeDb) : Prop where
  apart : refundedNum order.id s ≤ order.num → Apart order oid s
  closed : usedCoupons oid s ≠ [] → ∀ now today customer templateIds couponNum exchgPayment,
    ∃ e, (couponExchangeSaleorder now today customer oid templateIds couponNum
      exchgPayment).run s = (.error e, s)

theorem Kept.exchange (h : Kept order oid s)
    (hleaves : Leaves order oid s now customer templateIds couponNum exchgPayment) :
    Kept order oid ((couponExchangeSaleorder now today customer oid templateIds couponNum
        exchgPayment).run s).2 ∧
      refundedNum order.id ((couponExchangeSaleorder now today customer oid templateIds couponNum
        exchgPayment).run s).2 = refundedNum order.id s := by
  cases hrun : (couponExchangeSaleorder now today customer oid templateIds couponNum
      exchgPayment).run s with
  | mk res s' =>
    cases res with
    | error e =>
      rw [couponExchangeSaleorder_error hrun]
      exact ⟨h, rfl⟩
    | ok u =>
      have hnone : usedCoupons oid s = [] := by
        by_contra hused
        obtain ⟨e, herror⟩ :=
          h.closed hused now today customer templateIds couponNum exchgPayment
        cases congrArg Prod.fst (hrun.symm.trans herror)
      obtain ⟨_, -, -, -, hwent⟩ := couponExchangeSaleorder_ok hrun
      have hexchanged := hwent.exchanged
      obtain ⟨ids, hnodup, hlength, hrows, hget⟩ := hexchanged.used
      have hrefunded : refundedNum order.id s' = refundedNum order.id s := by
        obtain ⟨t, columns, c1, c2, amount, log, w, -, -, -, -, -, -, rfl⟩ := hwent.gathered
        rfl
      refine ⟨⟨fun _ => ?_, fun _ => hexchanged.rejected⟩, hrefunded⟩
      have hcoupons : (usedCoupons oid s').length = ids.length := by
        refine length_usedCoupons hnodup hnone (fun id hid => ?_) hget
        obtain ⟨coupon, hmem, heq⟩ := hrows id hid
        exact ⟨coupon, List.mem_of_mem_filter hmem, heq⟩
      unfold Apart
      rw [hcoupons, hlength, hrefunded]
      exact hleaves hnone hwent.exchangeable

/-- A request goes no further, or it is an exchange. -/
theorem startExchange_cases (couponNum : Nat) (posted : Bool) (s : ExchangeDb) :
    ((startExchange now today customer oid couponNum posted).run s).2 = s ∨
      ∃ found, s.orderByOid oid = some found ∧
        ((startExchange now today customer oid couponNum posted).run s).2 =
          ((couponExchangeSaleorder now today customer oid (s.columns found.id).couponTemplateIds
            couponNum (ExchgPayment.ofRequest posted)).run s).2 := by
  unfold startExchange
  split
  · exact .inl rfl
  · rw [getOr_bind_run]
    split
    · rw [getOr_bind_run]
      split
      · next found hfound =>
          split
          · exact .inl rfl
          · rw [gets_bind_run, gets_bind_run, gets_bind_run]
            split
            · exact .inl rfl
            · exact .inr ⟨found, hfound, rfl⟩
      · exact .inl rfl
    · exact .inl rfl

def NoneUsed (oid : String) (s : CouponDb) : Prop :=
  ∀ coupon ∈ s.userCoupons, ¬ (coupon.tradeTid = some oid ∧ coupon.status = .used)

theorem noneUsed_iff : OfCoupons (NoneUsed oid) s ↔ usedCoupons oid s = [] := by
  rw [List.eq_nil_iff_forall_not_mem]
  constructor
  · intro h coupon hmem
    obtain ⟨hrow, hused⟩ := mem_usedCoupons.1 hmem
    exact h coupon hrow hused
  · intro h coupon hrow hused
    exact h coupon (mem_usedCoupons.2 ⟨hrow, hused⟩)

theorem refund_noneUsed (around : Refund.Surroundings) (refundId : Nat) :
    Preserves (OfCoupons (NoneUsed oid)) (refundPayment2Budget around refundId) := by
  refine Preserves.getOr_bind fun s refund hs _ => ?_
  refine Preserves.bind (I := OfCoupons (NoneUsed oid)) (fun s hs => hs) (fun _ => ?_) s hs
  refine saleorderReturn_preserves (fun s s' hsame hs => ?_) (fun s coupon short hs _ _ => ?_) _ _ _
  · have hcoupons : s'.userCoupons = s.userCoupons := hsame
    unfold NoneUsed
    rw [hcoupons]
    exact hs
  · intro s hs coupon' hmem
    rcases Table.mem_update.1 hmem with ⟨old, -, -, rfl⟩ | ⟨hold, -⟩
    · rintro ⟨-, hused⟩
      cases short
      · cases hused
      · cases hused
    · exact hs coupon' hold

theorem refund_turnedDown {around : Refund.Surroundings} {refundId : Nat}
    (h : TurnedDown around refundId s.refund) :
    ((refundPayment2Budget around refundId).run s).2 = s := by
  unfold refundPayment2Budget
  rw [getOr_bind_run]
  cases hget : s.refund.refunds.get? refundId with
  | none => rfl
  | some refund =>
    have hfails : ∃ e, (refund.refundPayment2Budget around).run s.refund =
        (.error e, s.refund) := by
      unfold Refund.SaleRefund.refundPayment2Budget
      rw [getOr_bind_run]
      cases hfound : s.refund.orders.get? refund.orderId with
      | none => exact ⟨_, rfl⟩
      | some found =>
        dsimp only
        rw [gets_bind_run, raiseIf_bind_run]
        split
        · exact ⟨_, rfl⟩
        · next hwithin =>
            have hid : refund.id = refundId := (Table.get?_eq_some.1 hget).2
            rcases h refund hget with hover | hfails
            · unfold Refund.withinPayment at hover
              rw [hfound, Option.any_some, decide_eq_false_iff_not, not_le] at hover
              exact absurd hover hwithin
            · obtain ⟨e, hrun⟩ := Refund.SaleRefund.payAndConfirm_error (hid ▸ hget) hfound hfails
              exact ⟨e, bind_error hrun⟩
    obtain ⟨e, hrun⟩ := hfails
    dsimp only
    rw [zoom_bind_run, hrun]

theorem Kept.exec (h : Kept order oid s) {op : OrderOp} (hfits : op.Fits order oid s) :
    Kept order oid (op.exec oid s) ∧ TakesBack order oid s (op.exec oid s) := by
  have hcalm : ∀ s', Kept order oid s' ∧ refundedNum order.id s' = refundedNum order.id s →
      Kept order oid s' ∧ TakesBack order oid s s' := by
    rintro s' ⟨hkept, hsame⟩
    refine ⟨hkept, fun _ hlt => ?_⟩
    rw [hsame] at hlt
    exact absurd hlt (lt_irrefl _)
  cases op with
  | startExchange now today customer couponNum posted =>
    apply hcalm
    dsimp only [OrderOp.exec]
    rcases startExchange_cases couponNum posted s with hnothing | ⟨found, hfound, hexchange⟩
    · rw [hnothing]
      exact ⟨h, rfl⟩
    · rw [hexchange]
      exact h.exchange (hfits found hfound)
  | couponExchangeSaleorder now today customer templateIds couponNum exchgPayment =>
    exact hcalm _ (h.exchange hfits)
  | refundPayment2Budget around refundId =>
    rcases hfits with hnone | hdown
    · have hafter := refund_noneUsed around refundId s (noneUsed_iff.2 hnone)
      have hnone' : usedCoupons oid
          (OrderOp.exec oid (.refundPayment2Budget around refundId) s) = [] :=
        noneUsed_iff.1 hafter
      refine ⟨⟨fun hle => ?_, fun hused => absurd hnone' hused⟩, fun hused => absurd hnone hused⟩
      unfold Apart
      rw [hnone', List.length_nil, Nat.zero_add]
      exact hle
    · apply hcalm
      dsimp only [OrderOp.exec]
      rw [refund_turnedDown hdown]
      exact ⟨h, rfl⟩

end Proofs

/-- A refund of the order is asked for. -/
def withRefund (refundNum : Nat) : ExchangeDb :=
  { twoTemplates with
    refund := { twoTemplates.refund with
      refunds := Table.empty.insert ⟨0, 1, 3, 2, "", "", refundNum, 9900 * refundNum, "", true,
        .buyerReturnedGoods, .refundWaitSellerAgree, ""⟩ } }

def refundThenExchange : List OrderOp :=
  [.refundPayment2Budget ⟨⟨"2017-01-05"⟩, false, false, true, .ok (), .ok (), .ok ""⟩ 1,
    .couponExchangeSaleorder 50 ⟨"2017-01-06"⟩ 1 [7, 8] 1 .none]

end ShopManager.Coupon
