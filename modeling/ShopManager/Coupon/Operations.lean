import ShopManager.Coupon.Return.Model
import ShopManager.Library.Execution

/-!
# The operations on coupons

Everything that writes the status of a coupon or of the record of a return, as one
type of operations, and what the parts of it leave alone.
-/

namespace ShopManager.Coupon

open Library Library.Tx Library.Execution Pay Pay.Wallet ExchangeDb

inductive CouponOp where
  | useCouponByIds (now : Nat) (ids : List Nat) (tid : String)
  | freezeTransferCoupon (couponIds : List Nat) (transferId : Nat)
  | freezeCoupon (id : Nat)
  | unfreezeCoupon (id : Nat)
  | rollbackUserCouponStatus2UnusedByIds (ids : List Nat)
  | cancelCouponByIds (couponIds : List Nat)
  | transferRecordReturnCouponExchange (today : Date) (couponIds : List Nat) (recordId : Nat)
  | saleorderReturnCouponExchange (today : Date) (refund : Refund.SaleRefund) (payment : Nat)
  | returnTransferCoupon (couponIds : List Nat) (transferRecordId : Nat)
  | unfreezeUserCouponByUserbudget (customer : Nat)
  | applyReturn (today : Date) (prices : Prices) (toUpper admitted : Bool)
      (couponIds : List Nat) (customer : Nat)
  | verifyReturnSysTransfer (today : Date) (prices : Prices) (agree : Bool)
      (transferRecordId : Nat)
  | verifyReturnTransferRecord (agree : Bool) (customer transferRecordId : Nat)
  | returnTransferCoupon2Upper (customer transferRecordId : Nat)
  | cancelReturnTransferCoupon (customer transferRecordId : Nat)

namespace CouponOp

def onCoupons (couponIds : List Nat) (f : List UserCoupon → ExchangeTx Unit) : ExchangeTx Unit := do
  let coupons ← gets fun s => getUserCouponsByIds s.coupon couponIds
  f coupons

def program : CouponOp → ExchangeTx Unit
  | useCouponByIds now ids tid => inCoupon (Coupon.useCouponByIds now ids tid)
  | freezeTransferCoupon couponIds transferId =>
      inCoupon (Coupon.freezeTransferCoupon couponIds transferId)
  | freezeCoupon id => inCoupon (UserCoupon.freezeCoupon id)
  | unfreezeCoupon id => inCoupon (UserCoupon.unfreezeCoupon id)
  | rollbackUserCouponStatus2UnusedByIds ids =>
      inCoupon (Coupon.rollbackUserCouponStatus2UnusedByIds ids)
  | cancelCouponByIds couponIds => inCoupon (Coupon.cancelCouponByIds couponIds)
  | transferRecordReturnCouponExchange today couponIds recordId =>
      onCoupons couponIds fun coupons =>
        Coupon.transferRecordReturnCouponExchange today coupons recordId
  | saleorderReturnCouponExchange today refund payment =>
      Coupon.saleorderReturnCouponExchange today refund payment
  | returnTransferCoupon couponIds transferRecordId =>
      onCoupons couponIds fun coupons => Coupon.returnTransferCoupon coupons transferRecordId
  | unfreezeUserCouponByUserbudget customer => Coupon.unfreezeUserCouponByUserbudget customer
  | applyReturn today prices toUpper admitted couponIds customer =>
      Coupon.applyReturn today prices toUpper admitted couponIds customer
  | verifyReturnSysTransfer today prices agree transferRecordId =>
      Coupon.verifyReturnSysTransfer today prices agree transferRecordId
  | verifyReturnTransferRecord agree customer transferRecordId =>
      Coupon.verifyReturnTransferRecord agree customer transferRecordId
  | returnTransferCoupon2Upper customer transferRecordId =>
      Coupon.returnTransferCoupon2Upper customer transferRecordId
  | cancelReturnTransferCoupon customer transferRecordId =>
      Coupon.cancelReturnTransferCoupon customer transferRecordId

def exec (op : CouponOp) (s : ExchangeDb) : ExchangeDb := (op.program.run s).2

end CouponOp

/-! ## Parts that leave the coupons and the records alone -/

def SameCoupon (s s' : ExchangeDb) : Prop := s'.coupon = s.coupon ∧ s'.paidOut = s.paidOut

namespace SameCoupon

theorem refl (s : ExchangeDb) : SameCoupon s s := ⟨rfl, rfl⟩

theorem trans (s s' s'' : ExchangeDb) (h : SameCoupon s s') (h' : SameCoupon s' s'') :
    SameCoupon s s'' :=
  ⟨h'.1.trans h.1, h'.2.trans h.2⟩

theorem inWallet {α : Type} (m : WalletTx α) : Keeps SameCoupon (ExchangeDb.inWallet m) :=
  fun _ => ⟨rfl, rfl⟩

theorem inCoin {α : Type} (m : Coin.CoinTx α) : Keeps SameCoupon (ExchangeDb.inCoin m) :=
  fun _ => ⟨rfl, rfl⟩

theorem insert (row : ExchangeSaleOrder) : Keeps SameCoupon row.insert := by
  refine Keeps.bind trans (Keeps.gets refl _) fun taken => ?_
  refine Keeps.bind trans (Keeps.raiseIf refl _ _) fun _ => ?_
  exact Keeps.modify fun _ => ⟨rfl, rfl⟩

theorem forbidExchange (orderOid : String) (row : Option ExchangeSaleOrder) :
    Keeps SameCoupon (ExchangeSaleOrder.forbidExchange orderOid row) := by
  cases row with
  | none => exact insert _
  | some row => exact Keeps.modify fun _ => ⟨rfl, rfl⟩

theorem forbidIfNoneLeft (left : Int) (orderOid : String) (row : Option ExchangeSaleOrder) :
    Keeps SameCoupon (ExchangeSaleOrder.forbidIfNoneLeft left orderOid row) :=
  Keeps.ite _ (forbidExchange orderOid row) (Keeps.pure refl _)

theorem takeFromReturnNum (orderId num refundNum : Nat) :
    Keeps SameCoupon (Coupon.takeFromReturnNum orderId num refundNum) :=
  Keeps.bind trans (Keeps.modify fun _ => ⟨rfl, rfl⟩) fun _ => Keeps.gets refl _

theorem takeReturnPayment (today : Date) (customer : Option Nat) (returnPayment recordId : Nat) :
    Keeps SameCoupon (Coupon.takeReturnPayment today customer returnPayment recordId) := by
  unfold Coupon.takeReturnPayment
  refine Keeps.ite _ (Keeps.pure refl _) ?_
  refine Keeps.bind trans (Keeps.getOr refl _ _) fun customer => ?_
  refine Keeps.bind trans (Keeps.gets refl _) fun notEnoughBudget => ?_
  exact Keeps.bind trans (inWallet _) fun _ => Keeps.pure refl _

theorem payBudget (today : Date) (recordId customer budgetAmount : Nat) :
    Keeps SameCoupon (Coupon.payBudget today recordId customer budgetAmount) := by
  refine Keeps.ite _ ?_ (Keeps.pure refl _)
  exact Keeps.bind trans (inWallet _) fun _ => Keeps.pure refl _

theorem payCoin (today : Date) (recordId fromMama coinAmount : Nat) :
    Keeps SameCoupon (Coupon.payCoin today recordId fromMama coinAmount) :=
  Keeps.ite _ (Keeps.bind trans (inCoin _) fun _ => inCoin _) (Keeps.pure refl _)

end SameCoupon

def SameBooks (s s' : ExchangeDb) : Prop :=
  s'.coupon = s.coupon ∧ s'.refund.orders = s.refund.orders ∧ s'.columns = s.columns

namespace SameBooks

theorem refl (s : ExchangeDb) : SameBooks s s := ⟨rfl, rfl, rfl⟩

theorem trans (s s' s'' : ExchangeDb) (h : SameBooks s s') (h' : SameBooks s' s'') :
    SameBooks s s'' :=
  ⟨h'.1.trans h.1, h'.2.1.trans h.2.1, h'.2.2.trans h.2.2⟩

theorem payBudget (today : Date) (recordId customer budgetAmount : Nat) :
    Keeps SameBooks (Coupon.payBudget today recordId customer budgetAmount) := by
  refine Keeps.ite _ ?_ (Keeps.pure refl _)
  exact Keeps.bind trans (fun _ => ⟨rfl, rfl, rfl⟩) fun _ => Keeps.pure refl _

theorem payCoin (today : Date) (recordId fromMama coinAmount : Nat) :
    Keeps SameBooks (Coupon.payCoin today recordId fromMama coinAmount) := by
  refine Keeps.ite _ ?_ (Keeps.pure refl _)
  exact Keeps.bind trans (fun _ => ⟨rfl, rfl, rfl⟩) fun _ => fun _ => ⟨rfl, rfl, rfl⟩

theorem notePaidOut (recordId amount : Nat) :
    Keeps SameBooks (Coupon.notePaidOut recordId amount) := by
  refine Keeps.modify fun s => ?_
  split
  · exact ⟨rfl, rfl, rfl⟩
  · exact refl s

end SameBooks

def SameUserCoupons (s s' : CouponDb) : Prop := s'.userCoupons = s.userCoupons

namespace SameUserCoupons

theorem refl (s : CouponDb) : SameUserCoupons s s := rfl

theorem trans (s s' s'' : CouponDb) (h : SameUserCoupons s s') (h' : SameUserCoupons s' s'') :
    SameUserCoupons s s'' :=
  Eq.trans h' h

theorem insert (record : CouponTransferRecord) : Keeps SameUserCoupons record.insert := by
  refine Keeps.bind trans (Keeps.gets refl _) fun taken => ?_
  refine Keeps.bind trans (Keeps.raiseIf refl _ _) fun _ => ?_
  refine Keeps.bind trans (Keeps.gets refl _) fun stored => ?_
  exact Keeps.bind trans (Keeps.modify fun _ => rfl) fun _ => Keeps.pure refl _

theorem save (record : CouponTransferRecord) : Keeps SameUserCoupons record.save :=
  Keeps.modify fun _ => rfl

theorem createTransferCouponDetail (transferId : Nat) (couponIds : List Nat) :
    Keeps SameUserCoupons (Coupon.createTransferCouponDetail transferId couponIds) :=
  Keeps.modify fun _ => rfl

theorem genCancelExchgRecord (today : Date) (customer couponNum templateId : Nat)
    (oid : String) :
    Keeps SameUserCoupons
      (CouponTransferRecord.genCancelExchgRecord today customer couponNum templateId oid) := by
  refine Keeps.bind trans (Keeps.getOr refl _ _) fun toMama => ?_
  refine Keeps.bind trans (Keeps.gets refl _) fun idx => ?_
  refine Keeps.bind trans (Keeps.gets refl _) fun template => ?_
  refine Keeps.bind trans (Keeps.raiseIf refl _ _) fun _ => ?_
  exact Keeps.bind trans (Keeps.getOr refl _ _) fun _ => insert _

theorem createConsumeRecord (today : Date) (couponNum : Int) (buyerId : Nat) (tid : String)
    (templateId : Nat) :
    Keeps SameUserCoupons
      (CouponTransferRecord.createConsumeRecord today couponNum buyerId tid templateId) := by
  refine Keeps.bind trans (Keeps.getOr refl _ _) fun fromMama => ?_
  refine Keeps.bind trans (Keeps.gets refl _) fun existing => ?_
  refine Keeps.bind trans (Keeps.raiseIf refl _ _) fun _ => ?_
  refine Keeps.bind trans (Keeps.gets refl _) fun template => ?_
  exact Keeps.bind trans (Keeps.raiseIf refl _ _) fun _ => insert _

end SameUserCoupons

section Returned

variable {J : CouponDb → Prop}

theorem giveBackOfOrder_preserves (hsame : ∀ s s', SameUserCoupons s s' → J s → J s')
    (hgive : ∀ s coupon short, J s → coupon ∈ s.userCoupons → coupon.status = .used →
      Preserves J (giveBack short coupon))
    (today : Date) (customer : Nat) (oid : String) (price payment : Nat) (short : Bool) :
    Preserves J (giveBackOfOrder today customer oid price payment short) := by
  refine Preserves.gets_bind fun s hs => ?_
  refine Preserves.ofExcept_bind (I := J) (fun num _ => ?_) s hs
  refine Preserves.bind (Preserves.forEach fun coupon hcoupon => ?_) fun _ => ?_
  · obtain ⟨hmem, hp⟩ := List.mem_filter.1 (List.mem_of_mem_take hcoupon)
    rw [decide_eq_true_iff] at hp
    exact hgive s coupon short hs hmem hp.2
  · refine Preserves.getOr_bind fun t first ht _ => ?_
    refine Preserves.bind (I := J)
      (Preserves.of_keeps (SameUserCoupons.genCancelExchgRecord _ _ _ _ _) hsame)
      (fun transfer => ?_) t ht
    exact Preserves.of_keeps (SameUserCoupons.createTransferCouponDetail _ _) hsame

def OfCoupons (J : CouponDb → Prop) (s : ExchangeDb) : Prop := J s.coupon

/-- Of what a return does only the coupons given back matter to the coupons. -/
theorem saleorderReturn_preserves (hsame : ∀ s s', SameUserCoupons s s' → J s → J s')
    (hgive : ∀ s coupon short, J s → coupon ∈ s.userCoupons → coupon.status = .used →
      Preserves J (giveBack short coupon))
    (today : Date) (refund : Refund.SaleRefund) (payment : Nat) :
    Preserves (OfCoupons J) (saleorderReturnCouponExchange today refund payment) := by
  have hkeep : ∀ s s', SameCoupon s s' → OfCoupons J s → OfCoupons J s' := by
    intro s s' h hs
    unfold OfCoupons
    rw [h.1]
    exact hs
  refine Preserves.gets_bind fun s hs => ?_
  rw [gets_bind_run]
  cases s.refund.orders.get? refund.orderId with
  | none => exact hs
  | some order =>
    rw [gets_bind_run]
    refine Preserves.ite (I := OfCoupons J) (fun _ => ?_) (fun _ => ?_) s hs
    · refine Preserves.of_keeps (Keeps.bind SameCoupon.trans (SameCoupon.forbidExchange _ _)
        fun _ => Keeps.bind SameCoupon.trans (SameCoupon.takeFromReturnNum _ _ _)
          fun _ => Keeps.pure SameCoupon.refl _) hkeep
    · refine Preserves.gets_bind fun t ht => ?_
      cases exchangeRecord t.coupon (s.columns order.id).oid with
      | none => exact ht
      | some cts =>
        refine Preserves.getOr_bind (I := OfCoupons J) (fun s customer hs _ => ?_) t ht
        simp only [gets_bind_run]
        refine Preserves.atomic (I := OfCoupons J) ?_ s hs
        refine Preserves.bind (Preserves.of_keeps (SameCoupon.inWallet _) hkeep) fun _ => ?_
        refine Preserves.bind
          (Preserves.of_keeps (SameCoupon.takeFromReturnNum _ _ _) hkeep) fun left => ?_
        refine Preserves.bind
          (Preserves.of_keeps (SameCoupon.forbidIfNoneLeft _ _ _) hkeep) fun _ => ?_
        exact Preserves.zoom (J := J) (fun _ hs => hs)
          (giveBackOfOrder_preserves hsame hgive _ _ _ _ _ _) fun _ _ _ ht => ht

end Returned

namespace CouponDb

def statusOf (s : CouponDb) (id : Nat) : Option CouponStatus :=
  (s.userCoupons.get? id).map UserCoupon.status

/-- Id and `uniq_id` of every coupon. -/
def couponKeys (s : CouponDb) : List (Nat × String) :=
  s.userCoupons.rows.map fun coupon => (coupon.id, coupon.uniqId)

/-- `uniq_id` is a unique column. -/
def UniqIds (s : CouponDb) : Prop := (s.couponKeys.map Prod.snd).Nodup

variable {s : CouponDb}

theorem key_mem {coupon : UserCoupon} (h : coupon ∈ s.userCoupons) :
    (coupon.id, coupon.uniqId) ∈ s.couponKeys :=
  List.mem_map.2 ⟨coupon, h, rfl⟩

theorem statusOf_of_mem {coupon : UserCoupon} (h : coupon ∈ s.userCoupons) :
    s.statusOf coupon.id = some coupon.status := by
  have hget : s.userCoupons.get? coupon.id = some coupon := Table.get?_eq_some.2 ⟨h, rfl⟩
  rw [statusOf, hget]
  rfl

theorem isSome_statusOf {id : Nat} {uniqId : String} (h : (id, uniqId) ∈ s.couponKeys) :
    (s.statusOf id).isSome := by
  obtain ⟨coupon, hmem, heq⟩ := List.mem_map.1 h
  have hid : coupon.id = id := congrArg Prod.fst heq
  rw [← hid, statusOf_of_mem hmem]
  rfl

theorem mem_of_get {id : Nat} {coupon : UserCoupon} (h : s.userCoupons.get? id = some coupon) :
    coupon ∈ s.userCoupons ∧ coupon.id = id := Table.get?_eq_some.1 h

theorem uniqId_unique {id : Nat} {uniqId uniqId' : String} (h : (id, uniqId) ∈ s.couponKeys)
    (h' : (id, uniqId') ∈ s.couponKeys) : uniqId = uniqId' := by
  obtain ⟨coupon, hmem, heq⟩ := List.mem_map.1 h
  obtain ⟨coupon', hmem', heq'⟩ := List.mem_map.1 h'
  simp only [Prod.mk.injEq] at heq heq'
  have hpk : Row.pk coupon = Row.pk coupon' := heq.1.trans heq'.1.symm
  have hsame : coupon = coupon' := Table.pk_inj hmem hmem' hpk
  rw [← heq.2, ← heq'.2, hsame]

theorem id_unique (hu : s.UniqIds) {id id' : Nat} {uniqId : String}
    (h : (id, uniqId) ∈ s.couponKeys) (h' : (id', uniqId) ∈ s.couponKeys) : id = id' := by
  have hinj := List.inj_on_of_nodup_map hu h h' rfl
  exact congrArg Prod.fst hinj

theorem statusOf_save (coupon : UserCoupon) (id : Nat) :
    { s with userCoupons := s.userCoupons.save coupon }.statusOf id =
      if id = coupon.id then (s.statusOf id).map fun _ => coupon.status else s.statusOf id := by
  show ((s.userCoupons.save coupon).get? id).map UserCoupon.status = _
  rw [Table.get?_save]
  by_cases hid : id = Row.pk coupon
  · have hpk : id = coupon.id := hid
    rw [if_pos hid, if_pos hpk, statusOf, Option.map_map, Option.map_map]
    rfl
  · have hpk : ¬ id = coupon.id := hid
    rw [if_neg hid, if_neg hpk]
    rfl

theorem couponKeys_update {p : UserCoupon → Bool} {f : UserCoupon → UserCoupon}
    (hf : ∀ coupon ∈ s.userCoupons, p coupon = true → (f coupon).uniqId = coupon.uniqId) :
    { s with userCoupons := s.userCoupons.update p f }.couponKeys = s.couponKeys := by
  unfold couponKeys
  show (s.userCoupons.rows.map _).map _ = _
  rw [List.map_map]
  apply List.map_congr_left
  intro coupon hcoupon
  by_cases hp : p coupon = true
  · have huniq := hf coupon hcoupon hp
    simp only [Function.comp_apply, if_pos hp]
    exact Prod.ext rfl huniq
  · simp only [Function.comp_apply, if_neg hp]

theorem couponKeys_save (coupon : UserCoupon)
    (h : (coupon.id, coupon.uniqId) ∈ s.couponKeys) :
    { s with userCoupons := s.userCoupons.save coupon }.couponKeys = s.couponKeys := by
  apply couponKeys_update
  intro old hold hp
  have hpk : old.id = coupon.id := of_decide_eq_true hp
  have hkey := key_mem hold
  rw [hpk] at hkey
  exact uniqId_unique h hkey

theorem statusOf_update_of_not {p : UserCoupon → Bool} {f : UserCoupon → UserCoupon} {id : Nat}
    (hp : ∀ coupon ∈ s.userCoupons, coupon.id = id → p coupon = false) :
    { s with userCoupons := s.userCoupons.update p f }.statusOf id = s.statusOf id := by
  unfold statusOf
  show ((s.userCoupons.update p f).get? id).map _ = _
  have hget : ∀ coupon, s.userCoupons.get? id = some coupon →
      (s.userCoupons.update p f).get? id = some coupon := by
    intro coupon hcoupon
    obtain ⟨hmem, hid⟩ := mem_of_get hcoupon
    exact Table.get?_eq_some.2 ⟨Table.mem_update.2 (Or.inr ⟨hmem, hp coupon hmem hid⟩), hid⟩
  cases hcoupon : s.userCoupons.get? id with
  | some coupon => rw [hget coupon hcoupon]
  | none =>
    have hnone : (s.userCoupons.update p f).get? id = none := by
      apply Table.first_eq_none.2
      intro coupon hmem
      have hno := Table.first_eq_none.1 hcoupon
      rcases Table.mem_update.1 hmem with ⟨old, hold, -, rfl⟩ | ⟨hold, -⟩
      · have h := hno old hold
        simpa using h
      · exact hno coupon hold
    rw [hnone]

end CouponDb

end ShopManager.Coupon
