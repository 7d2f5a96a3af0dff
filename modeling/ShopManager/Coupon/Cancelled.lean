import ShopManager.Coupon.GivenBack

/-!
# A cancelled coupon is dead

The value of a cancelled coupon has been paid back.  Most operations leave such a
coupon alone, whatever happens around it; three do not look at the status that they
overwrite.
-/

namespace ShopManager.Coupon

open Library Library.Tx Library.Execution Pay Pay.Wallet ExchangeDb CouponDb

/-- The coupon `c` is cancelled, and every coupon has the keys it had. -/
structure Spared (c : Nat) (keys : List (Nat × String)) (s : CouponDb) : Prop where
  keys : s.couponKeys = keys
  cancelled : s.statusOf c = some .cancel

variable {coupon : UserCoupon}

section Coupons

variable {c : Nat} {keys : List (Nat × String)}

theorem Spared.of_same {s s' : CouponDb} (hsame : SameUserCoupons s s')
    (hs : Spared c keys s) : Spared c keys s' := by
  have hcoupons : s'.userCoupons = s.userCoupons := hsame
  refine ⟨?_, ?_⟩
  · rw [couponKeys, hcoupons]
    exact hs.keys
  · rw [statusOf, hcoupons]
    exact hs.cancelled

theorem Spared.same {α : Type} {m : CouponTx α} (hm : Keeps SameUserCoupons m) :
    Preserves (Spared c keys) m :=
  Preserves.of_keeps hm fun _ _ => Spared.of_same

theorem Spared.ne_of_mem {s : CouponDb} (hs : Spared c keys s)
    (h : coupon ∈ s.userCoupons) (hstatus : coupon.status ≠ .cancel) : coupon.id ≠ c := by
  rintro rfl
  have hcancel := hs.cancelled
  rw [statusOf_of_mem h, Option.some.injEq] at hcancel
  exact hstatus hcancel

theorem Spared.key {s : CouponDb} (hs : Spared c keys s)
    (h : coupon ∈ s.userCoupons) : (coupon.id, coupon.uniqId) ∈ keys := by
  rw [← hs.keys]
  exact key_mem h

theorem Spared.save {id : Nat} {uniqId : String}
    (hkey : (id, uniqId) ∈ keys) (hcoupon : (coupon.id, coupon.uniqId) = (id, uniqId))
    (hc : id = c → coupon.status = .cancel) :
    Preserves (Spared c keys) coupon.save := by
  rw [← hcoupon] at hkey
  have hid : coupon.id = id := congrArg Prod.fst hcoupon
  rw [← hid] at hc
  refine Preserves.modify fun s hs => ⟨?_, ?_⟩
  · rw [← hs.keys] at hkey ⊢
    exact couponKeys_save _ hkey
  · rw [statusOf_save]
    by_cases h : c = coupon.id
    · rw [if_pos h, hs.cancelled, Option.map_some, hc h.symm]
    · rw [if_neg h]
      exact hs.cancelled

theorem Spared.update (hu : (keys.map Prod.snd).Nodup) {id : Nat} {uniqId : String}
    (hkey : (id, uniqId) ∈ keys) (hid : id ≠ c) {f : UserCoupon → UserCoupon}
    (hf : ∀ coupon, (f coupon).uniqId = coupon.uniqId) :
    Preserves (Spared c keys) (Tx.modify fun s => { s with
      userCoupons := s.userCoupons.update (fun c => c.uniqId = uniqId) f } : CouponTx Unit) := by
  refine Preserves.modify fun s hs => ⟨?_, ?_⟩
  · rw [← hs.keys]
    exact couponKeys_update fun coupon _ _ => hf coupon
  · rw [statusOf_update_of_not]
    · exact hs.cancelled
    · intro coupon hmem hcoupon
      have hother := hs.key hmem
      rw [hcoupon] at hother
      have huniq : s.UniqIds := by
        rw [UniqIds, hs.keys]
        exact hu
      by_contra h
      have heq : coupon.uniqId = uniqId := by simpa using h
      rw [← hs.keys] at hkey hother
      rw [heq] at hother
      exact hid (id_unique huniq hkey hother)

theorem Spared.useCoupon {id : Nat} (tid : String) (hid : id ≠ c) :
    Preserves (Spared c keys) (useCoupon tid id) := by
  refine Preserves.atomic (Preserves.getOr_bind fun s coupon hs hget => ?_)
  obtain ⟨hmem, hcoupon⟩ := mem_of_get hget
  have hkey := hs.key hmem
  have hne : coupon.id ≠ c := by rwa [hcoupon]
  refine Preserves.raiseIf_bind (I := Spared c keys) (fun _ => ?_) s hs
  exact Spared.save hkey rfl fun h => absurd h hne

theorem Spared.useCouponByIds {s : CouponDb} (now : Nat) {ids : List Nat} (tid : String)
    (hguard : ¬ (c ∈ ids ∧ basicChecks now (getUserCouponsByIds s ids) = .ok ()))
    (hs : Spared c keys s) : Spared c keys ((useCouponByIds now ids tid).run s).2 := by
  unfold Coupon.useCouponByIds
  rw [gets_bind_run]
  refine Preserves.ofExcept_bind (I := Spared c keys) (fun u hok => Preserves.forEach ?_) s hs
  intro id hid
  refine Spared.useCoupon tid ?_
  rintro rfl
  exact hguard ⟨hid, hok⟩

theorem Spared.freezeCoupon (id : Nat) :
    Preserves (Spared c keys) (UserCoupon.freezeCoupon id) := by
  refine Preserves.getOr_bind fun s coupon hs hget => ?_
  obtain ⟨hmem, -⟩ := mem_of_get hget
  have hkey := hs.key hmem
  refine Preserves.raiseIf_bind (I := Spared c keys) (fun hstatus => ?_) s hs
  rw [not_not] at hstatus
  have hne : coupon.id ≠ c := hs.ne_of_mem hmem (by rw [hstatus]; decide)
  exact Spared.save hkey rfl fun h => absurd h hne

theorem Spared.unfreezeCoupon (id : Nat) :
    Preserves (Spared c keys) (UserCoupon.unfreezeCoupon id) := by
  refine Preserves.getOr_bind fun s coupon hs hget => ?_
  obtain ⟨hmem, -⟩ := mem_of_get hget
  have hkey := hs.key hmem
  refine Preserves.raiseIf_bind (I := Spared c keys) (fun hstatus => ?_) s hs
  rw [not_not] at hstatus
  have hne : coupon.id ≠ c := hs.ne_of_mem hmem (by rw [hstatus]; decide)
  exact Spared.save hkey rfl fun h => absurd h hne

theorem Spared.rollback (ids : List Nat) :
    Preserves (Spared c keys) (rollbackUserCouponStatus2UnusedByIds ids) := by
  refine Preserves.modify fun s hs => ⟨?_, ?_⟩
  · rw [← hs.keys]
    exact couponKeys_update fun _ _ _ => rfl
  · rw [statusOf_update_of_not]
    · exact hs.cancelled
    · intro coupon hmem hid
      have hcancel : coupon.status = .cancel := by
        by_contra h
        exact hs.ne_of_mem hmem h hid
      simp [hcancel]

theorem Spared.freezeTransferCoupon (couponIds : List Nat) (transferId : Nat) :
    Preserves (Spared c keys) (freezeTransferCoupon couponIds transferId) := by
  refine Preserves.gets_bind fun s hs => ?_
  refine Preserves.forEach (I := Spared c keys) ?_ s hs
  intro coupon hcoupon
  have hmem : coupon ∈ s.userCoupons := List.mem_of_mem_filter hcoupon
  have hkey := hs.key hmem
  refine Preserves.raiseIf_bind fun hstatus => ?_
  rw [not_not] at hstatus
  have hne : coupon.id ≠ c := hs.ne_of_mem hmem (by rw [hstatus]; decide)
  exact Spared.save hkey rfl fun h => absurd h hne

theorem Spared.cancelEach {coupons : List UserCoupon}
    (h : ∀ coupon ∈ coupons, (coupon.id, coupon.uniqId) ∈ keys) :
    Preserves (Spared c keys) (forEach coupons cancelCoupon) := by
  refine Preserves.forEach fun coupon hcoupon => ?_
  exact Preserves.raiseIf_bind fun _ => Spared.save (h coupon hcoupon) rfl fun _ => rfl

theorem Spared.cancelCouponByIds (couponIds : List Nat) :
    Preserves (Spared c keys) (cancelCouponByIds couponIds) := by
  refine Preserves.gets_bind fun s hs => ?_
  refine Spared.cancelEach (c := c) ?_ s hs
  intro coupon hcoupon
  exact hs.key (List.mem_of_mem_filter hcoupon)

end Coupons

/-! ## Operations on the whole store -/

def SparedIn (c : Nat) (keys : List (Nat × String)) (s : ExchangeDb) : Prop :=
  Spared c keys s.coupon

section Store

variable {c : Nat} {keys : List (Nat × String)}

theorem SparedIn.inCoupon {α : Type} {m : CouponTx α} (hm : Preserves (Spared c keys) m) :
    Preserves (SparedIn c keys) (ExchangeDb.inCoupon m) :=
  Preserves.zoom (J := Spared c keys) (fun _ hs => hs) hm fun _ _ _ ht => ht

theorem SparedIn.same {α : Type} {m : ExchangeTx α} (hm : Keeps SameCoupon m) :
    Preserves (SparedIn c keys) m := by
  refine Preserves.of_keeps hm fun s s' hsame hs => ?_
  unfold SparedIn
  rw [hsame.1]
  exact hs

theorem SparedIn.setTransferStatus (status : TransferStatus) (record : CouponTransferRecord) :
    Preserves (SparedIn c keys) (setTransferStatus status record) :=
  SparedIn.inCoupon (Spared.same (SameUserCoupons.save _))

theorem Spared.freezeGivenBack (hu : (keys.map Prod.snd).Nodup) {id : Nat} (hid : id ≠ c) :
    Preserves (Spared c keys) (freezeGivenBack id) := by
  refine Preserves.getOr_bind fun s coupon hs hget => ?_
  obtain ⟨hmem, hcoupon⟩ := mem_of_get hget
  have hne : coupon.id ≠ c := by rwa [hcoupon]
  have hkey := hs.key hmem
  refine Spared.update hu hkey hne ?_ s hs
  intro coupon'
  rfl

theorem SparedIn.recordGivenBack (hu : (keys.map Prod.snd).Nodup) (today : Date)
    (customer : Option Nat) (templateId : Nat) (notEnoughBudget : Bool) {back : Nat × List Nat}
    (hback : c ∉ back.2) :
    Preserves (SparedIn c keys)
      (recordGivenBack today customer templateId notEnoughBudget back) := by
  refine Preserves.gets_bind fun s hs => ?_
  refine Preserves.getOr_bind (I := SparedIn c keys) (fun t customer ht _ => ?_) s hs
  refine Preserves.bind (I := SparedIn c keys)
    (SparedIn.inCoupon (Spared.same (SameUserCoupons.genCancelExchgRecord _ _ _ _ _)))
    (fun transfer => ?_) t ht
  refine Preserves.bind
    (SparedIn.inCoupon (Spared.same (SameUserCoupons.createTransferCouponDetail _ _)))
    fun _ => Preserves.ite (fun _ => Preserves.forEach fun id hid => ?_) fun _ => Preserves.pure ()
  refine SparedIn.inCoupon (Spared.freezeGivenBack hu ?_)
  rintro rfl
  exact hback hid

theorem SparedIn.transferRecordReturn (hu : (keys.map Prod.snd).Nodup) (today : Date)
    {coupons : List UserCoupon} (recordId : Nat) {s : ExchangeDb}
    (hguard : c ∉ givenBack s coupons []) (hs : SparedIn c keys s) :
    SparedIn c keys
      ((transferRecordReturnCouponExchange today coupons recordId).run s).2 := by
  unfold transferRecordReturnCouponExchange
  rcases atomic_cases _ s with ⟨u, s', hrun, hatomic⟩ | hsame
  · rw [hatomic]
    obtain ⟨back, t, hloop, hrest⟩ := bind_eq_ok.1 hrun
    obtain ⟨hreviving, hwithin⟩ := returnEach_ok (Reviving.start s) (fun _ h => by cases h) hloop
    have ht : SparedIn c keys t := by
      refine ⟨hreviving.keys.trans hs.keys, ?_⟩
      rw [hreviving.status, if_neg hguard]
      exact hs.cancelled
    rw [gets_bind_run] at hrest
    have hlast : Preserves (SparedIn c keys) (do
        let notEnoughBudget ←
          takeReturnPayment today (t.mamaCustomer back.exchgMama) back.returnPayment recordId
        forEach back.couponIds
          (Coupon.recordGivenBack today (t.mamaCustomer back.exchgMama)
            ((coupons.head?.map UserCoupon.templateId).getD 0) notEnoughBudget)) := by
      refine Preserves.bind (SparedIn.same (SameCoupon.takeReturnPayment _ _ _ _))
        fun notEnoughBudget => Preserves.forEach fun entry hentry => ?_
      refine SparedIn.recordGivenBack hu _ _ _ _ fun hc => ?_
      exact hguard (hwithin entry hentry hc)
    have h := hlast t ht
    rw [hrest] at h
    exact h
  · rw [hsame]
    exact hs

theorem SparedIn.saleorderReturn (hu : (keys.map Prod.snd).Nodup) (today : Date)
    (refund : Refund.SaleRefund) (payment : Nat) :
    Preserves (SparedIn c keys) (saleorderReturnCouponExchange today refund payment) := by
  refine saleorderReturn_preserves (J := Spared c keys) (fun _ _ => Spared.of_same)
    (fun s coupon short hs hmem hused => ?_) today refund payment
  refine Spared.update hu (hs.key hmem) (hs.ne_of_mem hmem (by rw [hused]; decide)) ?_
  intro coupon'
  cases short
  · rfl
  · rfl

theorem Spared.unfreezeOne (hkey : (coupon.id, coupon.uniqId) ∈ keys)
    (hne : coupon.id ≠ c) : Preserves (Spared c keys) (unfreezeOne coupon) := by
  refine Preserves.ite (fun _ => ?_) fun _ => Preserves.pure ()
  exact Spared.save hkey rfl fun h => absurd h hne

theorem SparedIn.unfreezeByUserbudget (customer : Nat) :
    Preserves (SparedIn c keys) (unfreezeUserCouponByUserbudget customer) := by
  refine Preserves.gets_bind fun s hs => ?_
  refine Preserves.ite (I := SparedIn c keys) (fun _ => ?_) (fun _ => Preserves.pure ()) s hs
  refine Preserves.gets_bind fun t ht => ?_
  refine Preserves.forEach (I := SparedIn c keys) (fun coupon hcoupon => ?_) t ht
  obtain ⟨hmem, hp⟩ := List.mem_filter.1 hcoupon
  have hfreeze : coupon.status = .freeze := by
    simp only [decide_eq_true_eq] at hp
    exact hp.2.2
  have hne : coupon.id ≠ c := Spared.ne_of_mem ht hmem (by rw [hfreeze]; decide)
  exact SparedIn.inCoupon (Spared.unfreezeOne (Spared.key ht hmem) hne)

theorem Spared.frozen {s : CouponDb} (hs : Spared c keys s) {recordId : Nat}
    (h : coupon ∈ getFreezeBoutiqueCouponsByTransfer s recordId) :
    (coupon.id, coupon.uniqId) ∈ keys ∧ coupon.id ≠ c := by
  obtain ⟨hmem, hp⟩ := List.mem_filter.1 h
  have hfreeze : coupon.status = .freeze := by
    simp only [decide_eq_true_eq] at hp
    exact hp.1
  exact ⟨hs.key hmem, hs.ne_of_mem hmem (by rw [hfreeze]; decide)⟩

theorem SparedIn.cancelReturnTransfer (customer : Option Nat) (record : CouponTransferRecord) :
    Preserves (SparedIn c keys) (cancelReturnTransfer customer record) := by
  refine Preserves.atomic (Preserves.bind ?_ fun _ => ?_)
  · cases customer with
    | none => exact Preserves.pure ()
    | some customer =>
      exact Preserves.getOr_bind fun s mama hs _ =>
        Preserves.of_keeps (Keeps.raiseIf SameCoupon.refl _ _)
          (fun _ _ hsame h => by unfold SparedIn; rw [hsame.1]; exact h) s hs
  · refine Preserves.gets_bind fun s hs => ?_
    refine Preserves.raiseIf_bind (I := SparedIn c keys) (fun _ => ?_) s hs
    exact Preserves.bind (SparedIn.inCoupon (Spared.rollback _))
      fun _ => SparedIn.setTransferStatus _ _

theorem SparedIn.decideApply (toMama : ExchangeDb → Option Nat) (newStatus : TransferStatus)
    (transferRecordId : Nat) :
    Preserves (SparedIn c keys) (decideApply toMama newStatus transferRecordId) := by
  refine Preserves.getOr_bind fun s record hs _ => ?_
  refine Preserves.raiseIf_bind (I := SparedIn c keys) (fun _ => ?_) s hs
  refine Preserves.raiseIf_bind fun _ => Preserves.getOr_bind fun t mama ht _ => ?_
  refine Preserves.raiseIf_bind (I := SparedIn c keys) (fun _ => ?_) t ht
  exact Preserves.bind (SparedIn.setTransferStatus _ _) fun _ => Preserves.pure _

theorem SparedIn.verifyReturnTransferRecord (agree : Bool) (customer transferRecordId : Nat) :
    Preserves (SparedIn c keys)
      (verifyReturnTransferRecord agree customer transferRecordId) := by
  refine Preserves.ite (fun _ => ?_) fun _ => ?_
  · exact Preserves.atomic (Preserves.bind (SparedIn.decideApply _ _ _) fun _ => Preserves.pure ())
  · refine Preserves.atomic (Preserves.bind (SparedIn.decideApply _ _ _) fun record => ?_)
    exact Preserves.gets_bind fun s hs => SparedIn.inCoupon (Spared.rollback _) s hs

theorem SparedIn.requestFor {record : CouponTransferRecord} {couponIds : List Nat} :
    Preserves (SparedIn c keys) (do
      let transfer ← ExchangeDb.inCoupon (CouponTransferRecord.insert record)
      ExchangeDb.inCoupon (freezeTransferCoupon couponIds transfer.id)
      ExchangeDb.inCoupon (createTransferCouponDetail transfer.id couponIds)) := by
  refine Preserves.bind (SparedIn.inCoupon (Spared.same (SameUserCoupons.insert _)))
    fun transfer => ?_
  refine Preserves.bind (SparedIn.inCoupon (Spared.freezeTransferCoupon _ _)) fun _ => ?_
  exact SparedIn.inCoupon (Spared.same (SameUserCoupons.createTransferCouponDetail _ _))

theorem SparedIn.applyToUpper (today : Date) (mama templateId : Nat) (upper : Nat × List Nat) :
    Preserves (SparedIn c keys) (applyToUpper today mama templateId upper) := by
  refine Preserves.gets_bind fun s hs => ?_
  refine Preserves.getOr_bind (I := SparedIn c keys) (fun t upperMm ht _ => ?_) s hs
  refine Preserves.getOr_bind (I := SparedIn c keys) (fun t _ ht _ => ?_) t ht
  exact SparedIn.requestFor t ht

theorem SparedIn.applyToSys (today : Date) (prices : Prices) (mama templateId : Nat)
    (transferType : TransferType) (orderPrefix : String) (couponIds : List Nat) :
    Preserves (SparedIn c keys)
      (applyToSys today prices mama templateId transferType orderPrefix couponIds) := by
  refine Preserves.ite (fun _ => Preserves.pure ()) fun _ => ?_
  exact Preserves.gets_bind fun s hs => SparedIn.requestFor s hs

theorem SparedIn.applyPending (today : Date) (couponIds : List Nat) (customer : Nat) :
    Preserves (SparedIn c keys)
      (applyPendingReturnTransferCoupon today couponIds customer) := by
  refine Preserves.atomic (Preserves.gets_bind fun s hs => ?_)
  refine Preserves.ite (I := SparedIn c keys) (fun _ => Preserves.pure 1) (fun _ => ?_) s hs
  cases oneTemplate (getUserCouponsByIds s.coupon couponIds) with
  | none => exact Preserves.pure 2
  | some templateId =>
    refine Preserves.gets_bind fun t ht => ?_
    refine Preserves.raiseIf_bind (I := SparedIn c keys) (fun _ => ?_) t ht
    refine Preserves.getOr_bind fun u mama hu _ => ?_
    refine Preserves.bind (I := SparedIn c keys)
      (Preserves.forEach fun upper _ => SparedIn.applyToUpper _ _ _ _)
      (fun _ => Preserves.pure 0) u hu

theorem SparedIn.applyPending2Sys (today : Date) (prices : Prices) (couponIds : List Nat)
    (customer : Nat) :
    Preserves (SparedIn c keys)
      (applyPendingReturnTransferCoupon2Sys today prices couponIds customer) := by
  refine Preserves.atomic (Preserves.gets_bind fun s hs => ?_)
  refine Preserves.ite (I := SparedIn c keys) (fun _ => Preserves.pure 1) (fun _ => ?_) s hs
  cases oneTemplate (getUserCouponsByIds s.coupon couponIds) with
  | none => exact Preserves.pure 2
  | some templateId =>
    refine Preserves.gets_bind fun t ht => ?_
    refine Preserves.raiseIf_bind (I := SparedIn c keys) (fun _ => ?_) t ht
    refine Preserves.getOr_bind fun u mama hu _ => ?_
    refine Preserves.bind (I := SparedIn c keys) (SparedIn.applyToSys _ _ _ _ _ _ _)
      (fun _ => ?_) u hu
    exact Preserves.bind (SparedIn.applyToSys _ _ _ _ _ _ _) fun _ => Preserves.pure 0

theorem SparedIn.applyReturn (today : Date) (prices : Prices) (toUpper admitted : Bool)
    (couponIds : List Nat) (customer : Nat) :
    Preserves (SparedIn c keys)
      (applyReturn today prices toUpper admitted couponIds customer) := by
  refine Preserves.gets_bind fun s hs => ?_
  refine Preserves.ite (I := SparedIn c keys) (fun _ => Preserves.pure ()) (fun _ => ?_) s hs
  refine Preserves.ite (fun _ => ?_) fun _ => ?_
  · exact Preserves.bind (SparedIn.applyPending _ _ _) fun _ => Preserves.pure ()
  · exact Preserves.bind (SparedIn.applyPending2Sys _ _ _ _) fun _ => Preserves.pure ()

/-- Does the coupon go back under the record: it last came from the mama of the
record, who has an account. -/
def goesBack (s : ExchangeDb) (transferRecordId : Nat) (coupon : UserCoupon) : Bool :=
  match s.coupon.transferRecords.get? transferRecordId with
  | none => false
  | some transfer =>
      (s.mamaCustomer transfer.couponToMamaId).isSome &&
        decide (coupon.mamaChain.getLast? = some transfer.couponToMamaId)

theorem SparedIn.returnCoupon {mamas : Nat → Option XiaoluMama} (toMamaId : Nat)
    (hkey : (coupon.id, coupon.uniqId) ∈ keys)
    (hguard : coupon.id = c → ((mamas toMamaId).bind XiaoluMama.normalCustomer).isSome →
      coupon.mamaChain.getLast? ≠ some toMamaId) :
    Preserves (fun s => SparedIn c keys s ∧ s.mamas = mamas) (returnCoupon toMamaId coupon) := by
  refine Preserves.getOr_bind fun s toMama hs htoMama => ?_
  cases hcustomer : toMama.normalCustomer with
  | none => exact hs
  | some customer =>
    have hsome : ((mamas toMamaId).bind XiaoluMama.normalCustomer).isSome := by
      rw [← hs.2, htoMama, Option.bind_some, hcustomer]
      rfl
    refine Preserves.raiseIf_bind
      (I := fun s => SparedIn c keys s ∧ s.mamas = mamas) (fun hchain => ?_) s hs
    rw [not_not] at hchain
    have hne : coupon.id ≠ c := fun h => hguard h hsome hchain
    refine Preserves.zoom (J := Spared c keys) (fun _ h => h.1) ?_ fun _ _ h ht => ⟨ht, h.2⟩
    exact Spared.save hkey rfl fun h => absurd h hne

theorem SparedIn.returnTransferCoupon {s : ExchangeDb} {coupons : List UserCoupon}
    {transferRecordId : Nat} (hkeys : ∀ coupon ∈ coupons, (coupon.id, coupon.uniqId) ∈ keys)
    (hguard : ∀ coupon ∈ coupons, coupon.id = c → goesBack s transferRecordId coupon = false)
    (hs : SparedIn c keys s) :
    SparedIn c keys ((returnTransferCoupon coupons transferRecordId).run s).2 := by
  unfold Coupon.returnTransferCoupon
  rcases atomic_cases _ s with ⟨u, s', hrun, hatomic⟩ | hsame
  · rw [hatomic]
    obtain ⟨transfer, htransfer, hrest⟩ := getOr_bind_eq_ok.1 hrun
    obtain ⟨_, s₁, hset, hloop⟩ := bind_eq_ok.1 hrest
    have hs₁ : SparedIn c keys s₁ ∧ s₁.mamas = s.mamas := by
      refine ⟨(SparedIn.setTransferStatus _ _).of_run hs hset, ?_⟩
      obtain ⟨coupons', -, rfl⟩ := zoom_eq_ok.1 hset
      rfl
    have hend := Preserves.forEach (I := fun s' => SparedIn c keys s' ∧ s'.mamas = s.mamas)
      (fun coupon hcoupon => SparedIn.returnCoupon transfer.couponToMamaId
        (hkeys coupon hcoupon) ?_)
    · exact (hend.of_run hs₁ hloop).1
    · intro hid hsome hchain
      have hback := hguard coupon hcoupon hid
      unfold goesBack at hback
      rw [htransfer] at hback
      simp [mamaCustomer, hsome, hchain] at hback
  · rw [hsame]
    exact hs

/-- The coupons of the books as they were in `s`, the cancelled one among them. -/
structure Paying (c : Nat) (keys : List (Nat × String)) (s : ExchangeDb)
    (record : CouponTransferRecord) (t : ExchangeDb) : Prop where
  spared : SparedIn c keys t
  giving : SameGiving s t
  record : ∃ status, { record with transferStatus := status } ∈ t.coupon.transferRecords

variable {s : ExchangeDb} {record : CouponTransferRecord}

theorem Paying.same {α : Type} {m : ExchangeTx α} (hm : Keeps SameBooks m) :
    Preserves (Paying c keys s record) m := by
  refine Preserves.of_keeps hm fun t t' hsame ht => ⟨?_, ⟨?_, ?_, ?_, ?_⟩, ?_⟩
  · unfold SparedIn
    rw [hsame.1]
    exact ht.spared
  · rw [hsame.1]
    exact ht.giving.unused
  · rw [hsame.1]
    exact ht.giving.given
  · exact hsame.2.1.trans ht.giving.orders
  · exact hsame.2.2.trans ht.giving.columns
  · rw [hsame.1]
    exact ht.record

theorem Paying.cancelCoupon (hkey : (coupon.id, coupon.uniqId) ∈ keys)
    (hunused : s.coupon.statusOf coupon.id ≠ some .unused) :
    Preserves (fun coupons => Paying c keys s record (s.setCoupon coupons))
      (cancelCoupon coupon) := by
  refine Preserves.raiseIf_bind fun _ => ?_
  intro t ht
  have hsave : Preserves (Spared c keys) ({ coupon with status := .cancel } : UserCoupon).save :=
    Spared.save hkey rfl fun _ => rfl
  refine ⟨hsave t ht.spared, ⟨fun id => ?_, ht.giving.given, rfl, rfl⟩, ht.record⟩
  have hsame := ht.giving.unused id
  show CouponDb.statusOf { t with userCoupons := _ } id = _ ↔ _
  rw [statusOf_save]
  by_cases hid : id = coupon.id
  · rw [if_pos hid, hid]
    refine iff_of_false ?_ hunused
    cases t.statusOf coupon.id <;> simp
  · rw [if_neg hid]
    exact hsame

theorem Paying.setTransferStatus (status : TransferStatus) :
    Preserves (Paying c keys s record) (setTransferStatus status record) := by
  rintro t ⟨hspared, hgiving, status', hrecord⟩
  refine ⟨SparedIn.setTransferStatus _ _ t hspared,
    ⟨hgiving.unused, fun oid => ?_, hgiving.orders, hgiving.columns⟩, status, ?_⟩
  · exact (givenFor_save hrecord status oid).trans (hgiving.given oid)
  · refine Table.mem_update.2 (Or.inl ⟨_, hrecord, ?_, rfl⟩)
    exact decide_eq_true rfl

theorem SparedIn.agreeApply (hu : (keys.map Prod.snd).Nodup) (today : Date) (prices : Prices)
    (hrecord : record ∈ s.coupon.transferRecords)
    (hguard : ∀ xlmm, (s.mamas record.couponFromMamaId).filter XiaoluMama.effective = some xlmm →
      xlmm.referalFrom = .indirect →
        c ∉ givenBack s (getFreezeBoutiqueCouponsByTransfer s.coupon record.id) [])
    (hs : SparedIn c keys s) :
    SparedIn c keys ((agreeApplyTransferRecord2Sys today prices record).run s).2 := by
  unfold agreeApplyTransferRecord2Sys
  rcases atomic_cases _ s with ⟨u, s', hrun, hatomic⟩ | hsame
  · rw [hatomic]
    rw [gets_bind_run] at hrun
    obtain ⟨first, -, h⟩ := getOr_bind_eq_ok.1 hrun
    obtain ⟨xlmm, hxlmm, h⟩ := getOr_bind_eq_ok.1 h
    obtain ⟨_, t₁, hcancel, h⟩ := bind_eq_ok.1 h
    obtain ⟨_, t₂, hbudget, h⟩ := bind_eq_ok.1 h
    obtain ⟨_, t₃, hcoin, h⟩ := bind_eq_ok.1 h
    obtain ⟨_, t₄, hnote, h⟩ := bind_eq_ok.1 h
    obtain ⟨_, t₅, hset, h⟩ := bind_eq_ok.1 h
    have h₀ : Paying c keys s record s :=
      ⟨hs, ⟨fun _ => Iff.rfl, fun _ => rfl, rfl, rfl⟩, record.transferStatus, hrecord⟩
    have h₁ : Paying c keys s record t₁ := by
      obtain ⟨coupons, hloop, rfl⟩ := zoom_eq_ok.1 hcancel
      refine Preserves.of_run (I := fun coupons => Paying c keys s record (s.setCoupon coupons))
        (Preserves.forEach fun coupon hcoupon => ?_) h₀ hloop
      obtain ⟨hmem, hp⟩ := List.mem_filter.1 hcoupon
      have hfreeze : coupon.status = .freeze := by
        simp only [decide_eq_true_eq] at hp
        exact hp.1
      refine Paying.cancelCoupon (Spared.key hs hmem) ?_
      rw [statusOf_of_mem hmem, hfreeze]
      decide
    have h₂ := (Paying.same (SameBooks.payBudget _ _ _ _)).of_run h₁ hbudget
    have h₃ := (Paying.same (SameBooks.payCoin _ _ _ _)).of_run h₂ hcoin
    have h₄ := (Paying.same (SameBooks.notePaidOut _ _)).of_run h₃ hnote
    have h₅ := (Paying.setTransferStatus .delivered).of_run h₄ hset
    by_cases hindirect : xlmm.referalFrom = .indirect
    · rw [if_pos hindirect] at h
      have hno := hguard xlmm hxlmm hindirect
      rw [← h₅.giving.givenBack] at hno
      have hend := SparedIn.transferRecordReturn hu today record.id hno h₅.spared
      rw [h] at hend
      exact hend
    · rw [if_neg hindirect] at h
      obtain ⟨-, rfl⟩ := pure_eq_ok.1 h
      exact h₅.spared
  · rw [hsame]
    exact hs

end Store

/-! ## Runs -/

/-- Does the operation reach the coupon `c` at one of the places that do not look at
its status: among coupons that pass their checks and are used up, among those that
go back to the mama above, or as the next coupon to be given back for an order. -/
def CouponOp.revives (c : Nat) (s : ExchangeDb) : CouponOp → Bool
  | .useCouponByIds now ids _ =>
      ids.contains c && (basicChecks now (getUserCouponsByIds s.coupon ids)).isOk
  | .transferRecordReturnCouponExchange _ ids _ =>
      (givenBack s (getUserCouponsByIds s.coupon ids) []).contains c
  | .returnTransferCoupon ids transferRecordId =>
      (getUserCouponsByIds s.coupon ids).any fun coupon =>
        decide (coupon.id = c) && goesBack s transferRecordId coupon
  | .verifyReturnSysTransfer _ _ true transferRecordId =>
      match s.coupon.transferRecords.get? transferRecordId with
      | none => false
      | some record =>
          ((s.mamas record.couponFromMamaId).any fun mama =>
            mama.effective && decide (mama.referalFrom = .indirect)) &&
            (givenBack s (getFreezeBoutiqueCouponsByTransfer s.coupon record.id) []).contains c
  | _ => false

theorem SparedIn.exec {c : Nat} {keys : List (Nat × String)} (hu : (keys.map Prod.snd).Nodup)
    (s : ExchangeDb) (op : CouponOp) (hs : SparedIn c keys s)
    (hguard : op.revives c s = false) : SparedIn c keys (op.exec s) := by
  cases op with
  | useCouponByIds now ids tid =>
    refine Spared.useCouponByIds now tid ?_ hs
    rintro ⟨hmem, hok⟩
    simp [CouponOp.revives, hmem, hok, Except.isOk, Except.toBool] at hguard
  | freezeTransferCoupon couponIds transferId =>
    exact SparedIn.inCoupon (Spared.freezeTransferCoupon couponIds transferId) s hs
  | freezeCoupon id => exact SparedIn.inCoupon (Spared.freezeCoupon id) s hs
  | unfreezeCoupon id => exact SparedIn.inCoupon (Spared.unfreezeCoupon id) s hs
  | rollbackUserCouponStatus2UnusedByIds ids =>
    exact SparedIn.inCoupon (Spared.rollback ids) s hs
  | cancelCouponByIds couponIds =>
    exact SparedIn.inCoupon (Spared.cancelCouponByIds couponIds) s hs
  | transferRecordReturnCouponExchange today couponIds recordId =>
    refine SparedIn.transferRecordReturn hu today recordId ?_ hs
    simpa [CouponOp.revives] using hguard
  | saleorderReturnCouponExchange today refund payment =>
    exact SparedIn.saleorderReturn hu today refund payment s hs
  | returnTransferCoupon couponIds transferRecordId =>
    refine SparedIn.returnTransferCoupon ?_ ?_ hs
    · intro coupon hcoupon
      exact Spared.key hs (List.mem_of_mem_filter hcoupon)
    · intro coupon hcoupon hid
      have hany := List.any_eq_false.1 hguard coupon hcoupon
      simpa [hid] using hany
  | unfreezeUserCouponByUserbudget customer =>
    exact SparedIn.unfreezeByUserbudget customer s hs
  | applyReturn today prices toUpper admitted couponIds customer =>
    exact SparedIn.applyReturn today prices toUpper admitted couponIds customer s hs
  | verifyReturnSysTransfer today prices agree transferRecordId =>
    show SparedIn c keys
      ((verifyReturnSysTransfer today prices agree transferRecordId).run s).2
    unfold verifyReturnSysTransfer getTransferRecordById
    rw [getOr_bind_run]
    cases hget : s.coupon.transferRecords.get? transferRecordId with
    | none => exact hs
    | some record =>
      cases agree with
      | false => exact SparedIn.cancelReturnTransfer none record s hs
      | true =>
        have hmem := (Table.get?_eq_some.1 hget).1
        refine SparedIn.agreeApply hu today prices hmem (fun xlmm hxlmm hindirect hc => ?_) hs
        obtain ⟨hmama, heffective⟩ := Option.filter_eq_some_iff.1 hxlmm
        simp [CouponOp.revives, hget, hmama, heffective, hindirect, hc] at hguard
  | verifyReturnTransferRecord agree customer transferRecordId =>
    exact SparedIn.verifyReturnTransferRecord agree customer transferRecordId s hs
  | returnTransferCoupon2Upper customer transferRecordId =>
    show SparedIn c keys ((returnTransferCoupon2Upper customer transferRecordId).run s).2
    unfold Coupon.returnTransferCoupon2Upper
    rw [gets_bind_run]
    split
    · exact hs
    · refine SparedIn.returnTransferCoupon ?_ ?_ hs
      · intro coupon hcoupon
        exact (Spared.frozen hs (List.mem_of_mem_filter hcoupon)).1
      · intro coupon hcoupon hid
        exact absurd hid (Spared.frozen hs (List.mem_of_mem_filter hcoupon)).2
  | cancelReturnTransferCoupon customer transferRecordId =>
    refine Preserves.getOr_bind (I := SparedIn c keys) (fun t record ht _ => ?_) s hs
    exact Preserves.ite (I := SparedIn c keys) (fun _ => SparedIn.cancelReturnTransfer _ _)
      (fun _ => SparedIn.cancelReturnTransfer _ _) t ht

/-- A cancelled coupon stays cancelled in every run that does not reach it at one of
those places. -/
theorem cancelled_coupon_stays (c : Nat) (ops : List CouponOp) (s : ExchangeDb)
    (hunique : s.coupon.UniqIds) (hc : s.coupon.statusOf c = some .cancel)
    (hguard : Guarded CouponOp.exec (fun s op => op.revives c s = false) ops s) :
    Throughout CouponOp.exec (fun s => s.coupon.statusOf c = some .cancel) ops s := by
  have hrun := throughout_of_guarded (I := SparedIn c s.coupon.couponKeys)
    (SparedIn.exec hunique) ops s ⟨rfl, hc⟩ hguard
  intro done hdone
  exact (hrun done hdone).cancelled

/-- A cancelled coupon of customer 1 that is not past its date, and an unused one. -/
def cashedOut : ExchangeDb where
  refund := ⟨Table.empty, Table.empty, ⟨[1], fun _ => none, Table.empty⟩, []⟩
  columns := fun _ => ⟨"", 0, false, none, []⟩
  refundNo := fun _ => ""
  coupon :=
    { userCoupons :=
        (Table.empty.insert ⟨0, 7, .transfer, 1, none, 100, "7_8_1_1", .cancel, none, none,
          none, false⟩).insert ⟨0, 7, .transfer, 1, none, 100, "7_8_1_2", .unused, none, none,
            none, false⟩
      transferRecords := Table.empty
      details := []
      templates := [7]
      openMama := fun _ => none
      chargedMama := fun _ => none }
  coin := ⟨fun _ => none, Table.empty⟩
  exchangeSaleOrders := Table.empty
  orderCarries := []
  mamas := fun _ => none
  normalCustomers := [1]
  paidOut := []

/-- `coupon_basic_check` lets the cancelled coupon through, and a trade uses it. -/
theorem cancelled_coupon_used :
    cashedOut.coupon.UniqIds ∧ cashedOut.coupon.statusOf 1 = some .cancel ∧
      ¬ Throughout CouponOp.exec
        (fun s => s.coupon.statusOf 1 ≠ some .unused ∧ s.coupon.statusOf 1 ≠ some .used)
        [.useCouponByIds 50 [1] "sd1"] cashedOut := by
  refine ⟨by unfold UniqIds; decide, by decide, fun h => ?_⟩
  have hused : (CouponOp.exec (.useCouponByIds 50 [1] "sd1") cashedOut).coupon.statusOf 1 =
      some .used := by decide
  exact h.last.2 hused

theorem cashedOut_stays_cancelled :
    Throughout CouponOp.exec (fun s => s.coupon.statusOf 1 = some .cancel)
      [.useCouponByIds 50 [2] "sd1", .useCouponByIds 120 [1] "sd2",
        .rollbackUserCouponStatus2UnusedByIds [1, 2], .freezeCoupon 1,
        .unfreezeUserCouponByUserbudget 1] cashedOut :=
  cancelled_coupon_stays 1 _ cashedOut (by unfold UniqIds; decide) (by decide) (by decide)

end ShopManager.Coupon
