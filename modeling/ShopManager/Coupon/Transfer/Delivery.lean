import ShopManager.Coupon.Transfer.Model
import ShopManager.Coupon.Operations

/-!
# What a delivery does

A delivery moves as many coupons as its record asks for and delivers every record of
the order, or it does nothing.
-/

namespace ShopManager.Coupon

open Library Library.Tx Pay Pay.Wallet ExchangeDb CouponDb

theorem saveEach_run (change : UserCoupon → UserCoupon) (hid : ∀ coupon, (change coupon).id = coupon.id)
    {coupons : List UserCoupon} {s : CouponDb} (hmem : ∀ coupon ∈ coupons, coupon ∈ s.userCoupons)
    (hnodup : (coupons.map UserCoupon.id).Nodup) :
    ∃ t : Table UserCoupon,
      (forEach coupons fun coupon => (change coupon).save).run s =
        (.ok (), { s with userCoupons := t }) ∧
      ∀ id, t.get? id = (s.userCoupons.get? id).map fun coupon =>
        if id ∈ coupons.map UserCoupon.id then change coupon else coupon := by
  induction coupons generalizing s with
  | nil =>
    refine ⟨s.userCoupons, rfl, fun id => ?_⟩
    simp
  | cons coupon coupons ih =>
    obtain ⟨hcoupon, hrest⟩ := List.forall_mem_cons.1 hmem
    rw [List.map_cons, List.nodup_cons] at hnodup
    obtain ⟨hnot, hnodup⟩ := hnodup
    have hget : s.userCoupons.get? coupon.id = some coupon :=
      Table.get?_eq_some.2 ⟨hcoupon, rfl⟩
    -- the other coupons are still as they were
    have hmem' : ∀ other ∈ coupons, other ∈ s.userCoupons.save (change coupon) := by
      intro other hother
      have hne : other.id ≠ coupon.id := by
        intro heq
        exact hnot (heq ▸ List.mem_map_of_mem hother)
      refine Table.mem_update.2 (Or.inr ⟨hrest other hother, ?_⟩)
      rw [decide_eq_false_iff_not]
      show ¬ other.id = (change coupon).id
      rw [hid]
      exact hne
    obtain ⟨t, hrun, ht⟩ := ih (s := { s with
      userCoupons := s.userCoupons.save (change coupon) }) hmem' hnodup
    refine ⟨t, ?_, fun id => ?_⟩
    · rw [forEach_cons, UserCoupon.save, modify_bind_run]
      exact hrun
    · have hpk : Row.pk (change coupon) = coupon.id := hid coupon
      rw [ht]
      show ((s.userCoupons.save (change coupon)).get? id).map _ = _
      rw [Table.get?_save, hpk]
      by_cases heq : id = coupon.id
      · subst heq
        rw [if_pos rfl, hget]
        simp [hnot]
      · rw [if_neg heq]
        simp [heq]

theorem couponsFor_spec (s : CouponDb) (customer : Nat) (record : CouponTransferRecord) :
    (∀ coupon ∈ couponsFor s customer record, coupon ∈ s.userCoupons ∧
      coupon.customerId = customer ∧ coupon.couponType = .transfer ∧ coupon.status = .unused ∧
        coupon.templateId = record.templateId) ∧
    ((couponsFor s customer record).map UserCoupon.id).Nodup := by
  constructor
  · intro coupon hcoupon
    obtain ⟨hmem, hp⟩ := List.mem_filter.1 (List.mem_of_mem_take hcoupon)
    exact ⟨hmem, of_decide_eq_true hp⟩
  · have hrows : (s.userCoupons.rows.map UserCoupon.id).Nodup := s.userCoupons.sorted.imp ne_of_lt
    have hsub : List.Sublist (couponsFor s customer record) s.userCoupons.rows :=
      (List.take_sublist _ _).trans List.filter_sublist
    exact (hsub.map UserCoupon.id).nodup hrows

/-- Coupons of the customer have moved, as many as the record asks for, and every
record of the order is delivered. -/
structure Delivered (customer toCustomer : Nat) (record : CouponTransferRecord)
    (chain : List Nat) (moved : List UserCoupon) (s s' : CouponDb) : Prop where
  number : (moved.length : Int) = record.couponNum
  distinct : (moved.map UserCoupon.id).Nodup
  from_customer : ∀ coupon ∈ moved, coupon ∈ s.userCoupons ∧ coupon.customerId = customer ∧
    coupon.couponType = .transfer ∧ coupon.status = .unused ∧
      coupon.templateId = record.templateId
  coupons : ∀ id, s'.userCoupons.get? id = (s.userCoupons.get? id).map fun coupon =>
    if id ∈ moved.map UserCoupon.id then
      { coupon with customerId := toCustomer, chain := some (coupon.mamaChain ++ chain) }
    else coupon
  records : s'.transferRecords = s.transferRecords.update
    (fun r => r.orderNo = record.orderNo) fun r => { r with transferStatus := .delivered }
  mamas : s'.openMama = s.openMama ∧ s'.chargedMama = s.chargedMama
  templates : s'.templates = s.templates

def CouponDb.withOrderDelivered (s : CouponDb) (orderNo : String) : CouponDb :=
  { s with
    transferRecords := s.transferRecords.update (fun record => record.orderNo = orderNo)
      fun record => { record with transferStatus := .delivered } }

theorem delivered_of_run (toCustomer : Nat) (chain : List Nat) {customer : Nat}
    {record : CouponTransferRecord} {s : ExchangeDb} (hnum : 0 ≤ record.couponNum)
    (hcount : record.couponNum ≤ (transferableCoupons s.coupon customer record.templateId).length) :
    ∃ coupons, (do
        let coupons ← gets fun s => couponsFor s.coupon customer record
        inCoupon (transferCoupons coupons toCustomer record.id chain)
        pure 0 : ExchangeTx Nat).run
          (s.setCoupon (s.coupon.withOrderDelivered record.orderNo)) =
        (.ok 0, s.setCoupon coupons) ∧
      Delivered customer toCustomer record chain (couponsFor s.coupon customer record)
        s.coupon coupons := by
  obtain ⟨hspec, hnodup⟩ := couponsFor_spec s.coupon customer record
  obtain ⟨t, hrun, ht⟩ := saveEach_run (s := s.coupon.withOrderDelivered record.orderNo)
    (fun coupon => { coupon with
      customerId := toCustomer, chain := some (coupon.mamaChain ++ chain) })
    (fun _ => rfl) (fun coupon hcoupon => (hspec coupon hcoupon).1) hnodup
  let s₂ : CouponDb := ((createTransferCouponDetail record.id
    ((couponsFor s.coupon customer record).map UserCoupon.id)).run
      { s.coupon.withOrderDelivered record.orderNo with userCoupons := t }).2
  have htransfer : (transferCoupons (couponsFor s.coupon customer record) toCustomer record.id
      chain).run (s.coupon.withOrderDelivered record.orderNo) = (.ok (), s₂) := by
    unfold transferCoupons
    exact bind_ok hrun
  refine ⟨s₂, ?_, ?_⟩
  · have hinside : (inCoupon (transferCoupons (couponsFor s.coupon customer record) toCustomer
        record.id chain)).run (s.setCoupon (s.coupon.withOrderDelivered record.orderNo)) =
          (.ok (), s.setCoupon s₂) :=
      zoom_eq_ok.2 ⟨s₂, htransfer, rfl⟩
    rw [gets_bind_run]
    exact bind_ok hinside
  · refine ⟨?_, hnodup, hspec, ht, rfl, ⟨rfl, rfl⟩, rfl⟩
    unfold couponsFor
    rw [List.length_take]
    omega

theorem processTransferCoupon_cases (referals : Referals) (customer initFromCustomer : Nat)
    (record : CouponTransferRecord) (s : ExchangeDb) :
    ((processTransferCoupon referals customer initFromCustomer record).run s).2 = s ∨
      ∃ initMama chain coupons, s.coupon.openMama initFromCustomer = some initMama ∧
        referals.getShipChain initMama record.couponFromMamaId = some chain ∧
        (processTransferCoupon referals customer initFromCustomer record).run s =
          (.ok 0, s.setCoupon coupons) ∧
        Delivered customer initFromCustomer record chain (couponsFor s.coupon customer record)
          s.coupon coupons := by
  unfold processTransferCoupon
  rw [gets_bind_run]
  split
  · exact Or.inl rfl
  · rename_i hcount
    rw [not_lt] at hcount
    rcases atomic_cases (do
        inCoupon (deliverOrder record.orderNo)
        let initMama ← getOr .attributeError fun s => s.coupon.openMama initFromCustomer
        let chain ← shipChain referals initMama record.couponFromMamaId
        raiseIf (record.couponNum < 0) (.assertion "Negative indexing is not supported.")
        let coupons ← gets fun s => couponsFor s.coupon customer record
        inCoupon (transferCoupons coupons initFromCustomer record.id chain)
        pure 0) s with ⟨answer, s', hrun, hatomic⟩ | hsame
    · right
      rw [hatomic]
      obtain ⟨_, t, hdeliver, h⟩ := bind_eq_ok.1 hrun
      obtain ⟨coupons, hupdate, rfl⟩ := zoom_eq_ok.1 hdeliver
      simp only [deliverOrder, modify_run, Prod.mk.injEq, true_and] at hupdate
      subst hupdate
      obtain ⟨initMama, hinitMama, h⟩ := getOr_bind_eq_ok.1 h
      obtain ⟨chain, hchain, h⟩ := getOr_bind_eq_ok.1 h
      obtain ⟨hnum, h⟩ := raiseIf_bind_eq_ok.1 h
      rw [not_lt] at hnum
      obtain ⟨coupons, hdone, hdelivered⟩ :=
        delivered_of_run initFromCustomer chain hnum hcount
      have heq := h.symm.trans hdone
      rw [heq]
      exact ⟨initMama, chain, coupons, hinitMama, hchain, rfl, hdelivered⟩
    · exact Or.inl hsame

theorem deliverBought_cases (mamaId customer : Nat) (initFromCustomer : Option Nat)
    (record : CouponTransferRecord) (chain : List Nat) (s : ExchangeDb) :
    ((deliverBought mamaId customer initFromCustomer record chain).run s).2 = s ∨
      ∃ toCustomer coupons, ((deliverBought mamaId customer initFromCustomer record chain).run s).2 =
          s.setCoupon coupons ∧
        Delivered customer toCustomer record chain (couponsFor s.coupon customer record)
          s.coupon coupons := by
  unfold deliverBought
  rw [getOr_bind_run]
  cases s.mamas mamaId with
  | none => exact Or.inl rfl
  | some mama =>
    dsimp only
    split
    · exact Or.inl rfl
    · rw [gets_bind_run]
      split
      · exact Or.inl rfl
      · rename_i hcount
        rw [not_lt] at hcount
        rcases atomic_cases (do
            inCoupon (deliverOrder record.orderNo)
            raiseIf (record.couponNum < 0) (.assertion "Negative indexing is not supported.")
            let initFromCustomer ← getOr .attributeError fun _ => initFromCustomer
            let coupons ← gets fun s => couponsFor s.coupon customer record
            inCoupon (transferCoupons coupons initFromCustomer record.id chain)
            pure 0) s with ⟨answer, s', hrun, hatomic⟩ | hsame
        · right
          rw [hatomic]
          obtain ⟨_, t, hdeliver, h⟩ := bind_eq_ok.1 hrun
          obtain ⟨coupons, hupdate, rfl⟩ := zoom_eq_ok.1 hdeliver
          simp only [deliverOrder, modify_run, Prod.mk.injEq, true_and] at hupdate
          subst hupdate
          obtain ⟨hnum, h⟩ := raiseIf_bind_eq_ok.1 h
          rw [not_lt] at hnum
          obtain ⟨toCustomer, -, h⟩ := getOr_bind_eq_ok.1 h
          obtain ⟨coupons, hdone, hdelivered⟩ :=
            delivered_of_run toCustomer chain hnum hcount
          have heq := h.symm.trans hdone
          simp only [Prod.mk.injEq] at heq
          exact ⟨toCustomer, coupons, heq.2, hdelivered⟩
        · exact Or.inl hsame

end ShopManager.Coupon
