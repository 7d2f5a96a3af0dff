import ShopManager.Coupon.Operations

/-!
# The records of returns

A request to return coupons is a record: it waits, is agreed to, and ends delivered
or cancelled.  The requests, the payments and the freezing of coupons add records
and leave those that are there alone; four functions set the status of one.
-/

namespace ShopManager.Coupon

open Library Library.Tx Library.Execution Pay Pay.Wallet ExchangeDb CouponDb

variable {record : CouponTransferRecord}

namespace CouponDb

def recordState (s : CouponDb) (id : Nat) : Option (TransferType × TransferStatus) :=
  (s.transferRecords.get? id).map fun record => (record.transferType, record.transferStatus)

theorem recordState_of_get {s : CouponDb} {id : Nat} (h : s.transferRecords.get? id = some record) :
    s.recordState id = some (record.transferType, record.transferStatus) := by
  rw [recordState, h]
  rfl

end CouponDb

/-! ## What adds records only -/

def NewRecords (s s' : CouponDb) : Prop :=
  ∀ id, s'.recordState id = s.recordState id ∨
    (s.recordState id = none ∧ s'.recordState id ≠ some (.inReturnCoupon, .delivered))

namespace NewRecords

theorem refl (s : CouponDb) : NewRecords s s := fun _ => Or.inl rfl

theorem trans (s s' s'' : CouponDb) (h : NewRecords s s') (h' : NewRecords s' s'') :
    NewRecords s s'' := by
  intro id
  rcases h' id with heq' | ⟨hnone', hnew'⟩
  · rw [heq']
    exact h id
  · right
    rcases h id with heq | ⟨hnone, -⟩
    · exact ⟨heq ▸ hnone', hnew'⟩
    · exact ⟨hnone, hnew'⟩

theorem keeps_state {s s' : CouponDb} (h : NewRecords s s') {id : Nat}
    {state : TransferType × TransferStatus} (hs : s.recordState id = some state) :
    s'.recordState id = some state := by
  rcases h id with heq | ⟨hnone, -⟩
  · exact heq.trans hs
  · rw [hs] at hnone
    exact absurd hnone (by simp)

theorem modifyCoupons (f : CouponDb → Table UserCoupon) :
    Keeps NewRecords (modify fun s => { s with userCoupons := f s } : CouponTx Unit) :=
  Keeps.modify fun _ _ => Or.inl rfl

theorem insert
    (hrecord : (record.transferType, record.transferStatus) ≠ (.inReturnCoupon, .delivered)) :
    Keeps NewRecords record.insert := by
  refine Keeps.bind trans (Keeps.gets refl _) fun taken => ?_
  refine Keeps.bind trans (Keeps.raiseIf refl _ _) fun _ => ?_
  refine Keeps.bind trans (Keeps.gets refl _) fun stored => ?_
  refine Keeps.bind trans (Keeps.modify fun s id => ?_) fun _ => Keeps.pure refl _
  unfold CouponDb.recordState
  show ((s.transferRecords.insert record).get? id).map _ = _ ∨ _
  rw [Table.get?_insert]
  by_cases hid : id = s.transferRecords.nextId
  · right
    have hnone : s.transferRecords.get? id = none := by
      apply Table.first_eq_none.2
      intro r hr
      have hlt := Table.pk_lt_nextId hr
      simp only [decide_eq_false_iff_not]
      omega
    refine ⟨by rw [hnone]; rfl, ?_⟩
    rw [if_pos hid, Option.map_some]
    intro h
    exact hrecord (Option.some.inj h)
  · left
    rw [if_neg hid]

theorem createTransferCouponDetail (transferId : Nat) (couponIds : List Nat) :
    Keeps NewRecords (Coupon.createTransferCouponDetail transferId couponIds) :=
  Keeps.modify fun _ _ => Or.inl rfl

theorem genCancelExchgRecord (today : Date) (customer couponNum templateId : Nat)
    (oid : String) :
    Keeps NewRecords
      (CouponTransferRecord.genCancelExchgRecord today customer couponNum templateId oid) := by
  refine Keeps.bind trans (Keeps.getOr refl _ _) fun toMama => ?_
  refine Keeps.bind trans (Keeps.gets refl _) fun idx => ?_
  refine Keeps.bind trans (Keeps.gets refl _) fun template => ?_
  refine Keeps.bind trans (Keeps.raiseIf refl _ _) fun _ => ?_
  refine Keeps.bind trans (Keeps.getOr refl _ _) fun _ => insert ?_
  simp

theorem useCouponByIds (now : Nat) (ids : List Nat) (tid : String) :
    Keeps NewRecords (Coupon.useCouponByIds now ids tid) := by
  refine Keeps.bind trans (Keeps.gets refl _) fun coupons => ?_
  refine Keeps.bind trans (Keeps.ofExcept refl _) fun _ => ?_
  refine Keeps.forEach refl trans (fun id => Keeps.atomic refl ?_) ids
  refine Keeps.bind trans (Keeps.getOr refl _ _) fun coupon => ?_
  exact Keeps.bind trans (Keeps.raiseIf refl _ _) fun _ => modifyCoupons _

theorem freezeCoupon (id : Nat) : Keeps NewRecords (UserCoupon.freezeCoupon id) := by
  refine Keeps.bind trans (Keeps.getOr refl _ _) fun coupon => ?_
  exact Keeps.bind trans (Keeps.raiseIf refl _ _) fun _ => modifyCoupons _

theorem unfreezeCoupon (id : Nat) : Keeps NewRecords (UserCoupon.unfreezeCoupon id) := by
  refine Keeps.bind trans (Keeps.getOr refl _ _) fun coupon => ?_
  exact Keeps.bind trans (Keeps.raiseIf refl _ _) fun _ => modifyCoupons _

theorem freezeTransferCoupon (couponIds : List Nat) (transferId : Nat) :
    Keeps NewRecords (Coupon.freezeTransferCoupon couponIds transferId) := by
  refine Keeps.bind trans (Keeps.gets refl _) fun coupons => ?_
  refine Keeps.forEach refl trans (fun coupon => ?_) coupons
  exact Keeps.bind trans (Keeps.raiseIf refl _ _) fun _ => modifyCoupons _

theorem rollback (ids : List Nat) :
    Keeps NewRecords (rollbackUserCouponStatus2UnusedByIds ids) :=
  modifyCoupons _

theorem cancelEach (coupons : List UserCoupon) :
    Keeps NewRecords (forEach coupons cancelCoupon) := by
  refine Keeps.forEach refl trans (fun coupon => ?_) coupons
  exact Keeps.bind trans (Keeps.raiseIf refl _ _) fun _ => modifyCoupons _

theorem cancelCouponByIds (couponIds : List Nat) :
    Keeps NewRecords (Coupon.cancelCouponByIds couponIds) :=
  Keeps.bind trans (Keeps.gets refl _) fun coupons => cancelEach coupons

theorem giveBackOfOrder (today : Date) (customer : Nat) (oid : String) (price payment : Nat)
    (notEnoughBudget : Bool) :
    Keeps NewRecords
      (Coupon.giveBackOfOrder today customer oid price payment notEnoughBudget) := by
  refine Keeps.bind trans (Keeps.gets refl _) fun userCoupon => ?_
  refine Keeps.bind trans (Keeps.ofExcept refl _) fun num => ?_
  refine Keeps.bind trans (Keeps.forEach refl trans (fun coupon => modifyCoupons _) _)
    fun _ => ?_
  refine Keeps.bind trans (Keeps.getOr refl _ _) fun first => ?_
  refine Keeps.bind trans (genCancelExchgRecord _ _ _ _ _) fun transfer => ?_
  exact createTransferCouponDetail _ _

theorem reviveFirst (ids : List Nat) : Keeps NewRecords (Coupon.reviveFirst ids) := by
  induction ids with
  | nil => exact Keeps.pure refl _
  | cons id ids ih =>
    refine Keeps.bind trans (Keeps.getOr refl _ _) fun oneCoupon => ?_
    refine Keeps.ite _ ih ?_
    exact Keeps.bind trans (modifyCoupons _) fun _ => Keeps.pure refl _

theorem reviveOfOrder (oid : String) : Keeps NewRecords (Coupon.reviveOfOrder oid) := by
  refine Keeps.bind trans (Keeps.gets refl _) fun exchgCtr => ?_
  cases exchgCtr with
  | none => exact Keeps.pure refl _
  | some record => exact Keeps.bind trans (Keeps.gets refl _) fun ids => reviveFirst ids

theorem freezeGivenBack (id : Nat) : Keeps NewRecords (Coupon.freezeGivenBack id) :=
  Keeps.bind trans (Keeps.getOr refl _ _) fun _ => modifyCoupons _

theorem unfreezeOne (coupon : UserCoupon) : Keeps NewRecords (Coupon.unfreezeOne coupon) :=
  Keeps.ite _ (modifyCoupons _) (Keeps.pure refl _)

end NewRecords

def Recorded (s s' : ExchangeDb) : Prop :=
  NewRecords s.coupon s'.coupon ∧ s'.paidOut = s.paidOut

namespace Recorded

theorem refl (s : ExchangeDb) : Recorded s s := ⟨NewRecords.refl _, rfl⟩

theorem trans (s s' s'' : ExchangeDb) (h : Recorded s s') (h' : Recorded s' s'') :
    Recorded s s'' :=
  ⟨NewRecords.trans _ _ _ h.1 h'.1, h'.2.trans h.2⟩

theorem inCoupon {α : Type} {m : CouponTx α} (hm : Keeps NewRecords m) :
    Keeps Recorded (ExchangeDb.inCoupon m) :=
  fun s => ⟨hm s.coupon, rfl⟩

theorem same {α : Type} {m : ExchangeTx α} (hm : Keeps SameCoupon m) : Keeps Recorded m := by
  intro s
  have hsame := hm s
  refine ⟨?_, hsame.2⟩
  rw [hsame.1]
  exact NewRecords.refl _

theorem returnOne (coupon : UserCoupon) (back : GivenBack) :
    Keeps Recorded (Coupon.returnOne coupon back) := by
  refine Keeps.bind trans (Keeps.ofExcept refl _) fun orderId => ?_
  refine Keeps.bind trans (Keeps.getOr refl _ _) fun order => ?_
  refine Keeps.bind trans (Keeps.gets refl _) fun columns => ?_
  refine Keeps.bind trans (Keeps.getOr refl _ _) fun carry => ?_
  refine Keeps.bind trans (Keeps.raiseIf refl _ _) fun _ => ?_
  refine Keeps.bind trans (inCoupon (NewRecords.reviveOfOrder _)) fun revived => ?_
  refine Keeps.bind trans (Keeps.gets refl _) fun exchgSaleOrder => ?_
  refine Keeps.bind trans (same (SameCoupon.takeFromReturnNum _ _ _)) fun left => ?_
  refine Keeps.bind trans (same (SameCoupon.forbidIfNoneLeft _ _ _)) fun _ => ?_
  exact Keeps.pure refl _

theorem returnEach (coupons : List UserCoupon) (back : GivenBack) :
    Keeps Recorded (Coupon.returnEach coupons back) := by
  induction coupons generalizing back with
  | nil => exact Keeps.pure refl _
  | cons coupon coupons ih =>
    unfold Coupon.returnEach
    cases coupon.buyCouponType with
    | none => exact ih back
    | some _ => exact Keeps.bind trans (returnOne coupon back) fun back => ih back

theorem recordGivenBack (today : Date) (customer : Option Nat) (templateId : Nat)
    (notEnoughBudget : Bool) (back : Nat × List Nat) :
    Keeps Recorded (Coupon.recordGivenBack today customer templateId notEnoughBudget back) := by
  refine Keeps.bind trans (Keeps.gets refl _) fun oid => ?_
  refine Keeps.bind trans (Keeps.getOr refl _ _) fun customer => ?_
  refine Keeps.bind trans (inCoupon (NewRecords.genCancelExchgRecord _ _ _ _ _))
    fun transfer => ?_
  refine Keeps.bind trans (inCoupon (NewRecords.createTransferCouponDetail _ _)) fun _ => ?_
  refine Keeps.ite _ ?_ (Keeps.pure refl _)
  exact Keeps.forEach refl trans (fun id => inCoupon (NewRecords.freezeGivenBack id)) _

theorem transferRecordReturn (today : Date) (coupons : List UserCoupon) (recordId : Nat) :
    Keeps Recorded (transferRecordReturnCouponExchange today coupons recordId) := by
  refine Keeps.atomic refl (Keeps.bind trans (returnEach _ _) fun back => ?_)
  refine Keeps.bind trans (Keeps.gets refl _) fun customer => ?_
  refine Keeps.bind trans (same (SameCoupon.takeReturnPayment _ _ _ _)) fun short => ?_
  exact Keeps.forEach refl trans (fun entry => recordGivenBack _ _ _ _ entry) _

theorem clawBack (today : Date) (refund : Refund.SaleRefund) (payment : Nat)
    (order : Refund.SaleOrder) (exchgSaleOrder : Option ExchangeSaleOrder) (fromMama : Nat) :
    Keeps Recorded (Coupon.clawBack today refund payment order exchgSaleOrder fromMama) := by
  refine Keeps.bind trans (Keeps.getOr refl _ _) fun customer => ?_
  refine Keeps.bind trans (Keeps.gets refl _) fun oid => ?_
  refine Keeps.bind trans (Keeps.gets refl _) fun price => ?_
  refine Keeps.bind trans (Keeps.gets refl _) fun refundNo => ?_
  refine Keeps.bind trans (Keeps.gets refl _) fun exchgPayment => ?_
  refine Keeps.bind trans (Keeps.gets refl _) fun notEnoughBudget => Keeps.atomic refl ?_
  refine Keeps.bind trans (same (SameCoupon.inWallet _)) fun _ => ?_
  refine Keeps.bind trans (same (SameCoupon.takeFromReturnNum _ _ _)) fun left => ?_
  refine Keeps.bind trans (same (SameCoupon.forbidIfNoneLeft _ _ _)) fun _ => ?_
  exact inCoupon (NewRecords.giveBackOfOrder _ _ _ _ _ _)

theorem saleorderReturn (today : Date) (refund : Refund.SaleRefund) (payment : Nat) :
    Keeps Recorded (saleorderReturnCouponExchange today refund payment) := by
  refine Keeps.bind trans (Keeps.gets refl _) fun exchgSaleOrder => ?_
  refine Keeps.bind trans (Keeps.gets refl _) fun saleOrder => ?_
  cases saleOrder with
  | none => exact Keeps.pure refl _
  | some order =>
    refine Keeps.bind trans (Keeps.gets refl _) fun columns => Keeps.ite _ ?_ ?_
    · refine Keeps.bind trans (same (SameCoupon.forbidExchange _ _)) fun _ => ?_
      exact Keeps.bind trans (same (SameCoupon.takeFromReturnNum _ _ _))
        fun _ => Keeps.pure refl _
    · refine Keeps.bind trans (Keeps.gets refl _) fun cts => ?_
      cases cts with
      | none => exact Keeps.pure refl _
      | some cts => exact clawBack _ _ _ _ _ _

theorem unfreezeByUserbudget (customer : Nat) :
    Keeps Recorded (unfreezeUserCouponByUserbudget customer) := by
  refine Keeps.bind trans (Keeps.gets refl _) fun normal => Keeps.ite _ ?_ (Keeps.pure refl _)
  refine Keeps.bind trans (Keeps.gets refl _) fun userCoupons => ?_
  exact Keeps.forEach refl trans (fun coupon => inCoupon (NewRecords.unfreezeOne coupon)) _

theorem requestFor {couponIds : List Nat} (hrecord : record.transferStatus = .pending) :
    Keeps Recorded (do
      let transfer ← ExchangeDb.inCoupon (CouponTransferRecord.insert record)
      ExchangeDb.inCoupon (Coupon.freezeTransferCoupon couponIds transfer.id)
      ExchangeDb.inCoupon (Coupon.createTransferCouponDetail transfer.id couponIds)) := by
  refine Keeps.bind trans (inCoupon (NewRecords.insert (by simp [hrecord]))) fun transfer => ?_
  refine Keeps.bind trans (inCoupon (NewRecords.freezeTransferCoupon _ _)) fun _ => ?_
  exact inCoupon (NewRecords.createTransferCouponDetail _ _)

theorem applyToUpper (today : Date) (mama templateId : Nat) (upper : Nat × List Nat) :
    Keeps Recorded (Coupon.applyToUpper today mama templateId upper) := by
  refine Keeps.bind trans (Keeps.gets refl _) fun count => ?_
  refine Keeps.bind trans (Keeps.getOr refl _ _) fun upperMm => ?_
  exact Keeps.bind trans (Keeps.getOr refl _ _) fun _ => requestFor rfl

theorem applyToSys (today : Date) (prices : Prices) (mama templateId : Nat)
    (transferType : TransferType) (orderPrefix : String) (couponIds : List Nat) :
    Keeps Recorded
      (Coupon.applyToSys today prices mama templateId transferType orderPrefix couponIds) := by
  refine Keeps.ite _ (Keeps.pure refl _) ?_
  exact Keeps.bind trans (Keeps.gets refl _) fun count => requestFor rfl

theorem forTemplate {couponIds : List Nat} {customer : Nat}
    {allowed : List UserCoupon → Bool} {body : List UserCoupon → Nat → Nat → ExchangeTx Nat}
    (hbody : ∀ coupons templateId mama, Keeps Recorded (body coupons templateId mama)) :
    Keeps Recorded (do
      let coupons ← gets fun s => getUserCouponsByIds s.coupon couponIds
      if allowed coupons = false then pure 1
      else
        match oneTemplate coupons with
        | none => pure 2
        | some templateId => do
            let template ← gets fun s => s.coupon.templates.contains templateId
            raiseIf (template = false) .doesNotExist
            let mama ← getOr .attributeError fun s => s.coupon.openMama customer
            body coupons templateId mama) := by
  refine Keeps.bind trans (Keeps.gets refl _) fun coupons => ?_
  refine Keeps.ite _ (Keeps.pure refl _) ?_
  cases oneTemplate coupons with
  | none => exact Keeps.pure refl _
  | some templateId =>
    refine Keeps.bind trans (Keeps.gets refl _) fun template => ?_
    refine Keeps.bind trans (Keeps.raiseIf refl _ _) fun _ => ?_
    exact Keeps.bind trans (Keeps.getOr refl _ _) fun mama => hbody coupons templateId mama

theorem applyPending (today : Date) (couponIds : List Nat) (customer : Nat) :
    Keeps Recorded (applyPendingReturnTransferCoupon today couponIds customer) := by
  refine Keeps.atomic refl (forTemplate fun coupons templateId mama => ?_)
  exact Keeps.bind trans (Keeps.forEach refl trans (fun upper => applyToUpper _ _ _ _) _)
    fun _ => Keeps.pure refl _

theorem applyPending2Sys (today : Date) (prices : Prices) (couponIds : List Nat)
    (customer : Nat) :
    Keeps Recorded (applyPendingReturnTransferCoupon2Sys today prices couponIds customer) := by
  refine Keeps.atomic refl (forTemplate fun coupons templateId mama => ?_)
  refine Keeps.bind trans (applyToSys _ _ _ _ _ _ _) fun _ => ?_
  exact Keeps.bind trans (applyToSys _ _ _ _ _ _ _) fun _ => Keeps.pure refl _

theorem applyReturn (today : Date) (prices : Prices) (toUpper admitted : Bool)
    (couponIds : List Nat) (customer : Nat) :
    Keeps Recorded (Coupon.applyReturn today prices toUpper admitted couponIds customer) := by
  refine Keeps.bind trans (Keeps.gets refl _) fun unused => ?_
  refine Keeps.ite _ (Keeps.pure refl _) (Keeps.ite _ ?_ ?_)
  · exact Keeps.bind trans (applyPending _ _ _) fun _ => Keeps.pure refl _
  · exact Keeps.bind trans (applyPending2Sys _ _ _ _) fun _ => Keeps.pure refl _

theorem returnCoupon (toMamaId : Nat) (coupon : UserCoupon) :
    Keeps Recorded (Coupon.returnCoupon toMamaId coupon) := by
  refine Keeps.bind trans (Keeps.getOr refl _ _) fun toMama => ?_
  cases toMama.normalCustomer with
  | none => exact Keeps.pure refl _
  | some customer =>
    refine Keeps.bind trans (Keeps.raiseIf refl _ _) fun _ => ?_
    exact inCoupon (NewRecords.modifyCoupons _)

end Recorded

/-! ## What sets a status -/

/-- The record `id` gets the status; the others are as they were. -/
structure StatusSet (id : Nat) (status : TransferStatus) (s s' : CouponDb) : Prop where
  self : s'.recordState id = (s.recordState id).map fun state => (state.1, status)
  others : ∀ other, other ≠ id → s'.recordState other = s.recordState other ∨
    (s.recordState other = none ∧ s'.recordState other ≠ some (.inReturnCoupon, .delivered))

theorem StatusSet.of_save {s : CouponDb} (status : TransferStatus) {old : TransferStatus}
    (h : s.recordState record.id = some (record.transferType, old)) :
    StatusSet record.id status s { s with
      transferRecords := s.transferRecords.save { record with transferStatus := status } } where
  self := by
    rw [h]
    unfold CouponDb.recordState at h ⊢
    rw [Table.get?_save]
    have hpk : record.id = Row.pk { record with transferStatus := status } := rfl
    rw [if_pos hpk]
    cases hget : s.transferRecords.get? record.id with
    | none =>
      rw [hget] at h
      exact absurd h (by simp)
    | some r => rfl
  others := by
    intro other hother
    left
    unfold CouponDb.recordState
    rw [Table.get?_save]
    have hpk : ¬ other = Row.pk { record with transferStatus := status } := hother
    rw [if_neg hpk]

theorem StatusSet.between {id : Nat} {status : TransferStatus} {s t t' s' : CouponDb}
    {state : TransferType × TransferStatus} (hs : s.recordState id = some state)
    (hbefore : NewRecords s t) (hset : StatusSet id status t t') (hafter : NewRecords t' s') :
    StatusSet id status s s' where
  self := by
    have ht := hbefore.keeps_state hs
    have ht' := hset.self
    rw [ht, Option.map_some] at ht'
    rw [hs, Option.map_some]
    exact hafter.keeps_state ht'
  others := by
    intro other hother
    rcases hafter other with heq | ⟨hnone, hnew⟩
    · rw [heq]
      rcases hset.others other hother with heq' | ⟨hnone, hnew⟩
      · rw [heq']
        exact hbefore other
      · right
        refine ⟨?_, hnew⟩
        rcases hbefore other with heq'' | ⟨hnone'', -⟩
        · rw [← heq'']
          exact hnone
        · exact hnone''
    · right
      refine ⟨?_, hnew⟩
      rcases hset.others other hother with heq' | ⟨hnone', -⟩
      · rcases hbefore other with heq'' | ⟨hnone'', -⟩
        · rw [← heq'', ← heq']
          exact hnone
        · exact hnone''
      · rcases hbefore other with heq'' | ⟨hnone'', -⟩
        · rw [← heq'']
          exact hnone'
        · exact hnone''

/-- May the status of a record of the type become another: the end is final, and what
goes back to a mama has been agreed to. -/
def MayBecome (type : TransferType) (old new : TransferStatus) : Prop :=
  (old = .delivered ∨ old = .canceled → new = old) ∧
    (type = .inReturnCoupon → new = .delivered → old = .delivered ∨ old = .processed)

/-- What an operation does to the records: it adds some, or it sets the status of one
as it may become, and where it pays for one it delivers it. -/
inductive RecordStep (s s' : ExchangeDb) : Prop
  | added (h : Recorded s s')
  | moved (id : Nat) (type : TransferType) (old new : TransferStatus)
      (hold : s.coupon.recordState id = some (type, old))
      (hset : StatusSet id new s.coupon s'.coupon) (hmay : MayBecome type old new)
      (hpaid : s'.paidOut = s.paidOut ∨
        (s'.paidOut = s.paidOut ++ [id] ∧ old ≠ .delivered ∧ new = .delivered))

/-- The law of a step: delivered and cancelled records stay so, and a return to a mama
that is delivered was so or had been agreed to. -/
structure Lawful (s s' : ExchangeDb) : Prop where
  final : ∀ id type status, s.coupon.recordState id = some (type, status) →
    (status = .delivered ∨ status = .canceled) → s'.coupon.recordState id = some (type, status)
  agreed : ∀ id, s'.coupon.recordState id = some (.inReturnCoupon, .delivered) →
    s.coupon.recordState id = some (.inReturnCoupon, .delivered) ∨
      s.coupon.recordState id = some (.inReturnCoupon, .processed)

def PaidOnce (s : ExchangeDb) : Prop :=
  ∀ id, s.paidOut.count id ≤ 1 ∧
    (id ∈ s.paidOut → ∃ type, s.coupon.recordState id = some (type, .delivered))

variable {s : ExchangeDb}

theorem RecordStep.lawful {s' : ExchangeDb} (h : RecordStep s s') : Lawful s s' := by
  cases h with
  | added h =>
    refine ⟨fun id type status hs _ => h.1.keeps_state hs, fun id hs' => ?_⟩
    rcases h.1 id with heq | ⟨-, hnew⟩
    · left
      rw [← heq]
      exact hs'
    · exact absurd hs' hnew
  | moved rid type old new hold hset hmay hpaid =>
    have hself := hset.self
    rw [hold, Option.map_some] at hself
    constructor
    · intro id type' status hs hfinal
      by_cases hid : id = rid
      · subst hid
        rw [hold, Option.some.injEq, Prod.mk.injEq] at hs
        obtain ⟨rfl, rfl⟩ := hs
        rw [hself, hmay.1 hfinal]
      · rcases hset.others id hid with heq | ⟨hnone, -⟩
        · rw [heq]
          exact hs
        · rw [hnone] at hs
          exact absurd hs (by simp)
    · intro id hs'
      by_cases hid : id = rid
      · subst hid
        rw [hself, Option.some.injEq, Prod.mk.injEq] at hs'
        obtain ⟨rfl, rfl⟩ := hs'
        rw [hold]
        rcases hmay.2 rfl rfl with rfl | rfl
        · exact Or.inl rfl
        · exact Or.inr rfl
      · rcases hset.others id hid with heq | ⟨-, hnew⟩
        · left
          rw [← heq]
          exact hs'
        · exact absurd hs' hnew

theorem RecordStep.paidOnce {s' : ExchangeDb} (h : RecordStep s s') (hs : PaidOnce s) :
    PaidOnce s' := by
  have hlawful := h.lawful
  have hkeep : ∀ id, id ∈ s.paidOut →
      ∃ type, s'.coupon.recordState id = some (type, .delivered) := by
    intro id hid
    obtain ⟨type, htype⟩ := (hs id).2 hid
    exact ⟨type, hlawful.final id type _ htype (Or.inl rfl)⟩
  have hsame : s'.paidOut = s.paidOut → PaidOnce s' := by
    intro heq id
    rw [heq]
    exact ⟨(hs id).1, hkeep id⟩
  cases h with
  | added h => exact hsame h.2
  | moved rid type old new hold hset hmay hpaid =>
    rcases hpaid with heq | ⟨heq, hne, rfl⟩
    · exact hsame heq
    · have hself := hset.self
      rw [hold, Option.map_some] at hself
      -- the record was not delivered, so it has not been paid
      have hnot : rid ∉ s.paidOut := by
        intro hmem
        obtain ⟨type', htype⟩ := (hs rid).2 hmem
        rw [hold, Option.some.injEq, Prod.mk.injEq] at htype
        exact hne htype.2
      intro id
      rw [heq]
      constructor
      · rw [List.count_append]
        by_cases hid : id = rid
        · subst hid
          rw [List.count_eq_zero_of_not_mem hnot, List.count_singleton_self]
        · have hone : [rid].count id = 0 :=
            List.count_eq_zero_of_not_mem (by simpa using hid)
          have hle := (hs id).1
          omega
      · intro hmem
        rcases List.mem_append.1 hmem with hmem | hmem
        · exact hkeep id hmem
        · rw [List.mem_singleton.1 hmem]
          exact ⟨type, hself⟩

theorem RecordStep.of_set {t t' s' : ExchangeDb} {id : Nat} {status : TransferStatus} {u : Unit}
    (hget : s.coupon.transferRecords.get? id = some record) (hbefore : NewRecords s.coupon t.coupon)
    (hset : (setTransferStatus status record).run t = (.ok u, t')) (hafter : Recorded t' s')
    (hmay : MayBecome record.transferType record.transferStatus status)
    (hpaid : t.paidOut = s.paidOut ∨
      (t.paidOut = s.paidOut ++ [record.id] ∧ record.transferStatus ≠ .delivered ∧
        status = .delivered)) : RecordStep s s' := by
  have hid : record.id = id := (Table.get?_eq_some.1 hget).2
  have hold := recordState_of_get hget
  rw [← hid] at hold
  obtain ⟨coupons, hsave, rfl⟩ := zoom_eq_ok.1 hset
  simp only [CouponTransferRecord.save, modify_run, Prod.mk.injEq, true_and] at hsave
  have hstatus : StatusSet record.id status t.coupon coupons := by
    rw [← hsave]
    exact StatusSet.of_save status (hbefore.keeps_state hold)
  refine .moved record.id record.transferType record.transferStatus status hold
    (StatusSet.between hold hbefore hstatus hafter.1) hmay ?_
  rw [hafter.2]
  exact hpaid

theorem decideApply_ok {toMama : ExchangeDb → Option Nat} {newStatus : TransferStatus}
    {transferRecordId : Nat} {t : ExchangeDb}
    (h : (decideApply toMama newStatus transferRecordId).run s = (.ok record, t)) :
    s.coupon.transferRecords.get? transferRecordId = some record ∧
      record.transferType = .inReturnCoupon ∧ record.transferStatus = .pending ∧
        (setTransferStatus newStatus record).run s = (.ok (), t) := by
  unfold decideApply at h
  obtain ⟨record', hrecord, h⟩ := getOr_bind_eq_ok.1 h
  obtain ⟨htype, h⟩ := raiseIf_bind_eq_ok.1 h
  obtain ⟨hpending, h⟩ := raiseIf_bind_eq_ok.1 h
  obtain ⟨mama, -, h⟩ := getOr_bind_eq_ok.1 h
  obtain ⟨-, h⟩ := raiseIf_bind_eq_ok.1 h
  obtain ⟨_, t₆, hset, h⟩ := bind_eq_ok.1 h
  obtain ⟨rfl, rfl⟩ := pure_eq_ok.1 h
  exact ⟨hrecord, not_not.1 htype, not_not.1 hpending, hset⟩

theorem RecordStep.atomic {α : Type} {m : ExchangeTx α}
    (h : ∀ a s', m.run s = (.ok a, s') → RecordStep s s') :
    RecordStep s ((Tx.atomic m).run s).2 := by
  rcases atomic_cases m s with ⟨a, s', hrun, hatomic⟩ | hsame
  · rw [hatomic]
    exact h a s' hrun
  · rw [hsame]
    exact .added (Recorded.refl s)

theorem verifyReturnTransferRecord_step (s : ExchangeDb) (agree : Bool)
    (customer transferRecordId : Nat) :
    RecordStep s ((verifyReturnTransferRecord agree customer transferRecordId).run s).2 := by
  cases agree with
  | true =>
    refine RecordStep.atomic fun u s' h => ?_
    obtain ⟨record, t, hdecide, h⟩ := bind_eq_ok.1 h
    obtain ⟨-, rfl⟩ := pure_eq_ok.1 h
    obtain ⟨hget, htype, hpending, hset⟩ := decideApply_ok hdecide
    refine RecordStep.of_set hget (NewRecords.refl _) hset (Recorded.refl _) ?_ (Or.inl rfl)
    rw [hpending]
    exact ⟨by simp, by simp⟩
  | false =>
    refine RecordStep.atomic fun u s' h => ?_
    obtain ⟨record, t, hdecide, h⟩ := bind_eq_ok.1 h
    obtain ⟨hget, htype, hpending, hset⟩ := decideApply_ok hdecide
    rw [gets_bind_run] at h
    have hafter : Recorded t s' := by
      have hkeep := Recorded.inCoupon (NewRecords.rollback
        ((getFreezeBoutiqueCouponsByTransfer t.coupon record.id).map UserCoupon.id)) t
      rw [h] at hkeep
      exact hkeep
    refine RecordStep.of_set hget (NewRecords.refl _) hset hafter ?_ (Or.inl rfl)
    rw [hpending]
    exact ⟨by simp, by simp⟩

theorem cancelReturnTransfer_step {id : Nat}
    {customer : Option Nat} (hget : s.coupon.transferRecords.get? id = some record)
    (hguard : getFreezeBoutiqueCouponsByTransfer s.coupon record.id ≠ [] →
      (∀ c, customer = some c → s.coupon.openMama c = some record.couponFromMamaId) →
        record.transferStatus ≠ .delivered) :
    RecordStep s ((cancelReturnTransfer customer record).run s).2 := by
  refine RecordStep.atomic fun u s' h => ?_
  obtain ⟨_, t, hcheck, h⟩ := bind_eq_ok.1 h
  have howner : s = t ∧
      ∀ c, customer = some c → s.coupon.openMama c = some record.couponFromMamaId := by
    cases customer with
    | none =>
      obtain ⟨-, rfl⟩ := pure_eq_ok.1 hcheck
      exact ⟨rfl, fun c hc => by simp at hc⟩
    | some customer =>
      obtain ⟨mama, hmama, hrun₂⟩ := getOr_bind_eq_ok.1 hcheck
      obtain ⟨hsame, rfl⟩ := raiseIf_eq_ok.1 hrun₂
      refine ⟨rfl, fun c hc => ?_⟩
      rw [← Option.some.inj hc, not_not.1 hsame]
      exact hmama
  obtain ⟨rfl, howner⟩ := howner
  rw [gets_bind_run] at h
  obtain ⟨hsome, h⟩ := raiseIf_bind_eq_ok.1 h
  obtain ⟨_, t₂, hrollback, hset⟩ := bind_eq_ok.1 h
  have hbefore : Recorded s t₂ := by
    have hkeep := Recorded.inCoupon (NewRecords.rollback
      ((getFreezeBoutiqueCouponsByTransfer s.coupon record.id).map UserCoupon.id)) s
    rw [hrollback] at hkeep
    exact hkeep
  refine RecordStep.of_set hget hbefore.1 hset (Recorded.refl _) ⟨?_, by simp⟩
    (Or.inl hbefore.2)
  rintro (hdelivered | hcanceled)
  · exact absurd hdelivered (hguard hsome howner)
  · exact hcanceled.symm

/-- A record that may not become delivered: it was taken back, or the mama above has
not agreed yet. -/
def CouponTransferRecord.isUnfit (record : CouponTransferRecord) : Bool :=
  record.transferStatus = .canceled ||
    (record.transferType = .inReturnCoupon && record.transferStatus = .pending)

theorem mayBecome_delivered (h : record.isUnfit = false) :
    MayBecome record.transferType record.transferStatus .delivered := by
  unfold CouponTransferRecord.isUnfit at h
  simp only [Bool.or_eq_false_iff, Bool.and_eq_false_iff, decide_eq_false_iff_not] at h
  obtain ⟨hcanceled, hagreed⟩ := h
  constructor
  · rintro (hdelivered | hc)
    · exact hdelivered.symm
    · exact absurd hc hcanceled
  · intro htype _
    cases hstatus : record.transferStatus with
    | pending => exact absurd hstatus (hagreed.resolve_left fun h => h htype)
    | processed => exact Or.inr rfl
    | delivered => exact Or.inl rfl
    | canceled => exact absurd hstatus hcanceled

theorem returnTransferCoupon_step (coupons : List UserCoupon) {transferRecordId : Nat}
    (hguard : ∀ record, s.coupon.transferRecords.get? transferRecordId = some record →
      record.isUnfit = false) :
    RecordStep s ((returnTransferCoupon coupons transferRecordId).run s).2 := by
  refine RecordStep.atomic fun u s' h => ?_
  obtain ⟨record, hget, h⟩ := getOr_bind_eq_ok.1 h
  obtain ⟨_, t, hset, hloop⟩ := bind_eq_ok.1 h
  have hafter : Recorded t s' := by
    have hkeep := Keeps.forEach Recorded.refl Recorded.trans
      (fun coupon => Recorded.returnCoupon record.couponToMamaId coupon) coupons t
    rw [hloop] at hkeep
    exact hkeep
  exact RecordStep.of_set hget (NewRecords.refl _) hset hafter
    (mayBecome_delivered (hguard record hget)) (Or.inl rfl)

theorem agreeApplyTransferRecord2Sys_step (today : Date) (prices : Prices) {id : Nat}
    (hget : s.coupon.transferRecords.get? id = some record)
    (hguard : getFreezeBoutiqueCouponsByTransfer s.coupon record.id ≠ [] →
      ((s.mamas record.couponFromMamaId).any XiaoluMama.effective) = true →
        record.isUnfit = false ∧ record.transferStatus ≠ .delivered) :
    RecordStep s ((agreeApplyTransferRecord2Sys today prices record).run s).2 := by
  refine RecordStep.atomic fun u s' h => ?_
  rw [gets_bind_run] at h
  obtain ⟨first, hfirst, h⟩ := getOr_bind_eq_ok.1 h
  obtain ⟨xlmm, hxlmm, h⟩ := getOr_bind_eq_ok.1 h
  obtain ⟨_, t₁, hcancel, h⟩ := bind_eq_ok.1 h
  obtain ⟨_, t₂, hbudget, h⟩ := bind_eq_ok.1 h
  obtain ⟨_, t₃, hcoin, h⟩ := bind_eq_ok.1 h
  obtain ⟨_, t₄, hnote, h⟩ := bind_eq_ok.1 h
  obtain ⟨_, t₅, hset, h⟩ := bind_eq_ok.1 h
  have hsome : getFreezeBoutiqueCouponsByTransfer s.coupon record.id ≠ [] := by
    intro hnone
    rw [hnone] at hfirst
    exact absurd hfirst (by simp)
  have hmama : ((s.mamas record.couponFromMamaId).any XiaoluMama.effective) = true := by
    obtain ⟨hmama, heffective⟩ := Option.filter_eq_some_iff.1 hxlmm
    rw [hmama]
    exact heffective
  obtain ⟨hfit, hwaits⟩ := hguard hsome hmama
  have hbefore : Recorded s t₃ := by
    have h₁ := Recorded.inCoupon (NewRecords.cancelEach
      (getFreezeBoutiqueCouponsByTransfer s.coupon record.id)) s
    rw [hcancel] at h₁
    have h₂ := (Recorded.same (SameCoupon.payBudget today record.id first.customerId _)).of_run
      hbudget
    have h₃ := (Recorded.same (SameCoupon.payCoin today record.id _ _)).of_run hcoin
    exact Recorded.trans _ _ _ (Recorded.trans _ _ _ h₁ h₂) h₃
  have hafter : Recorded t₅ s' := by
    by_cases hindirect : xlmm.referalFrom = .indirect
    · rw [if_pos hindirect] at h
      exact (Recorded.transferRecordReturn today _ record.id).of_run h
    · rw [if_neg hindirect] at h
      obtain ⟨-, rfl⟩ := pure_eq_ok.1 h
      exact Recorded.refl t₅
  simp only [notePaidOut, modify_run, Prod.mk.injEq, true_and] at hnote
  refine RecordStep.of_set hget ?_ hset hafter (mayBecome_delivered hfit) ?_
  · rw [← hnote]
    split
    · exact hbefore.1
    · exact hbefore.1
  · rw [← hnote]
    split
    · right
      refine ⟨?_, hwaits, rfl⟩
      show t₃.paidOut ++ [record.id] = _
      rw [hbefore.2]
    · left
      exact hbefore.2

/-! ## Runs -/

/-- Does the operation, in the state before it, deliver a record that was taken back or
not agreed to, pay for one that does not wait, or take a delivered one back?  None of
the functions looks at the status: each looks for coupons that are frozen under the
number of the record. -/
def CouponOp.derails (s : ExchangeDb) : CouponOp → Bool
  | .returnTransferCoupon _ transferRecordId =>
      (s.coupon.transferRecords.get? transferRecordId).any CouponTransferRecord.isUnfit
  | .returnTransferCoupon2Upper customer transferRecordId =>
      (s.coupon.transferRecords.get? transferRecordId).any fun record =>
        record.isUnfit &&
          (getFreezeBoutiqueCouponsByTransfer s.coupon transferRecordId).any fun coupon =>
            coupon.customerId = customer
  | .verifyReturnSysTransfer _ _ agree transferRecordId =>
      (s.coupon.transferRecords.get? transferRecordId).any fun record =>
        !(getFreezeBoutiqueCouponsByTransfer s.coupon record.id).isEmpty &&
          if agree then
            ((s.mamas record.couponFromMamaId).any XiaoluMama.effective) &&
              (record.isUnfit || record.transferStatus = .delivered)
          else record.transferStatus = .delivered
  | .cancelReturnTransferCoupon customer transferRecordId =>
      (s.coupon.transferRecords.get? transferRecordId).any fun record =>
        !(getFreezeBoutiqueCouponsByTransfer s.coupon record.id).isEmpty &&
          decide (s.coupon.openMama customer = some record.couponFromMamaId) &&
            decide (record.transferStatus = .delivered)
  | _ => false

theorem recordStep_exec (s : ExchangeDb) (op : CouponOp) (hguard : op.derails s = false) :
    RecordStep s (op.exec s) := by
  cases op with
  | useCouponByIds now ids tid =>
    exact .added (Recorded.inCoupon (NewRecords.useCouponByIds now ids tid) s)
  | freezeTransferCoupon couponIds transferId =>
    exact .added (Recorded.inCoupon (NewRecords.freezeTransferCoupon couponIds transferId) s)
  | freezeCoupon id => exact .added (Recorded.inCoupon (NewRecords.freezeCoupon id) s)
  | unfreezeCoupon id => exact .added (Recorded.inCoupon (NewRecords.unfreezeCoupon id) s)
  | rollbackUserCouponStatus2UnusedByIds ids =>
    exact .added (Recorded.inCoupon (NewRecords.rollback ids) s)
  | cancelCouponByIds couponIds =>
    exact .added (Recorded.inCoupon (NewRecords.cancelCouponByIds couponIds) s)
  | transferRecordReturnCouponExchange today couponIds recordId =>
    exact .added (Recorded.transferRecordReturn today _ recordId s)
  | saleorderReturnCouponExchange today refund payment =>
    exact .added (Recorded.saleorderReturn today refund payment s)
  | returnTransferCoupon couponIds transferRecordId =>
    refine returnTransferCoupon_step _ fun record hget => ?_
    simpa [CouponOp.derails, hget] using hguard
  | unfreezeUserCouponByUserbudget customer =>
    exact .added (Recorded.unfreezeByUserbudget customer s)
  | applyReturn today prices toUpper admitted couponIds customer =>
    exact .added (Recorded.applyReturn today prices toUpper admitted couponIds customer s)
  | verifyReturnSysTransfer today prices agree transferRecordId =>
    show RecordStep s
      ((verifyReturnSysTransfer today prices agree transferRecordId).run s).2
    unfold verifyReturnSysTransfer getTransferRecordById
    rw [getOr_bind_run]
    cases hget : s.coupon.transferRecords.get? transferRecordId with
    | none => exact .added (Recorded.refl s)
    | some record =>
      cases agree with
      | true =>
        refine agreeApplyTransferRecord2Sys_step today prices hget fun hsome hmama => ?_
        simpa [CouponOp.derails, hget, hsome, hmama] using hguard
      | false =>
        refine cancelReturnTransfer_step hget fun hsome _ => ?_
        simpa [CouponOp.derails, hget, hsome] using hguard
  | verifyReturnTransferRecord agree customer transferRecordId =>
    exact verifyReturnTransferRecord_step s agree customer transferRecordId
  | returnTransferCoupon2Upper customer transferRecordId =>
    show RecordStep s ((returnTransferCoupon2Upper customer transferRecordId).run s).2
    unfold Coupon.returnTransferCoupon2Upper
    rw [gets_bind_run]
    split
    · exact .added (Recorded.refl s)
    · rename_i hsome
      refine returnTransferCoupon_step _ fun record hget => ?_
      have hany : ((getFreezeBoutiqueCouponsByTransfer s.coupon transferRecordId).any
          fun coupon => decide (coupon.customerId = customer)) = true := by
        obtain ⟨coupon, hcoupon⟩ := List.exists_mem_of_ne_nil _ hsome
        obtain ⟨hmem, hcustomer⟩ := List.mem_filter.1 hcoupon
        exact List.any_eq_true.2 ⟨coupon, hmem, hcustomer⟩
      simpa [CouponOp.derails, hget, hany] using hguard
  | cancelReturnTransferCoupon customer transferRecordId =>
    show RecordStep s ((cancelReturnTransferCoupon customer transferRecordId).run s).2
    unfold Coupon.cancelReturnTransferCoupon getTransferRecordById
    rw [getOr_bind_run]
    cases hget : s.coupon.transferRecords.get? transferRecordId with
    | none => exact .added (Recorded.refl s)
    | some record =>
      have hstep : RecordStep s ((cancelReturnTransfer (some customer) record).run s).2 := by
        refine cancelReturnTransfer_step hget fun hsome howner => ?_
        have hmama := howner customer rfl
        simpa [CouponOp.derails, hget, hsome, hmama] using hguard
      dsimp only
      split
      · exact hstep
      · exact hstep

/-- In every run that does not derail a record the records of returns follow their state
machine, and none is paid out twice. -/
theorem return_records_follow (ops : List CouponOp) (s : ExchangeDb) (hpaid : PaidOnce s)
    (hguard : Guarded CouponOp.exec (fun s op => op.derails s = false) ops s) :
    Stepwise CouponOp.exec Lawful ops s ∧
      Throughout CouponOp.exec (fun s => ∀ id, s.paidOut.count id ≤ 1) ops s := by
  have hinv : ∀ s op, PaidOnce s → op.derails s = false → PaidOnce (CouponOp.exec op s) :=
    fun s op hs hop => (recordStep_exec s op hop).paidOnce hs
  have hstep : ∀ s op, PaidOnce s → op.derails s = false → Lawful s (CouponOp.exec op s) :=
    fun s op _ hop => (recordStep_exec s op hop).lawful
  refine ⟨stepwise_of_guarded hstep hinv ops s hpaid hguard, fun done hdone id => ?_⟩
  exact (throughout_of_guarded hinv ops s hpaid hguard done hdone id).1

def oneCoupon : ExchangeDb where
  refund := ⟨Table.empty, Table.empty, ⟨[1, 2], fun _ => none, Table.empty⟩, []⟩
  columns := fun _ => ⟨"", 0, false, none, []⟩
  refundNo := fun _ => ""
  coupon :=
    { userCoupons := Table.empty.insert ⟨0, 7, .transfer, 1, none, 100, "7_8_1_1", .unused,
        some [10], none, none, false⟩
      transferRecords := Table.empty
      details := []
      templates := [7]
      openMama := fun customer => if customer = 1 then some 11 else some 10
      chargedMama := fun customer => if customer = 1 then some 11 else some 10 }
  coin := ⟨fun _ => none, Table.empty⟩
  exchangeSaleOrders := Table.empty
  orderCarries := []
  mamas := fun mama =>
    if mama = 10 then some ⟨true, .direct, some 2, some 2⟩
    else some ⟨true, .indirect, some 1, some 1⟩
  normalCustomers := [1, 2]
  paidOut := []

def noPrices : Prices := ⟨fun _ _ => 0, fun _ => ""⟩

theorem returned_unagreed :
    PaidOnce oneCoupon ∧
      ¬ Stepwise CouponOp.exec Lawful
        [.applyReturn ⟨"2017-01-01"⟩ noPrices true true [1] 1, .returnTransferCoupon2Upper 1 1]
        oneCoupon := by
  refine ⟨fun id => ⟨by simp [oneCoupon], fun h => by simp [oneCoupon] at h⟩, fun h => ?_⟩
  have hlawful := h.2.1
  rcases hlawful.agreed 1 (by decide) with hdelivered | hprocessed
  · exact absurd hdelivered (by decide)
  · exact absurd hprocessed (by decide)

theorem oneCoupon_returned :
    Stepwise CouponOp.exec Lawful
        [.applyReturn ⟨"2017-01-01"⟩ noPrices true true [1] 1,
          .verifyReturnTransferRecord true 2 1, .returnTransferCoupon2Upper 1 1,
          .cancelReturnTransferCoupon 1 1] oneCoupon ∧
      Throughout CouponOp.exec (fun s => ∀ id, s.paidOut.count id ≤ 1)
        [.applyReturn ⟨"2017-01-01"⟩ noPrices true true [1] 1,
          .verifyReturnTransferRecord true 2 1, .returnTransferCoupon2Upper 1 1,
          .cancelReturnTransferCoupon 1 1] oneCoupon :=
  return_records_follow _ oneCoupon
    (fun id => ⟨by simp [oneCoupon], fun h => by simp [oneCoupon] at h⟩) (by decide)

end ShopManager.Coupon
