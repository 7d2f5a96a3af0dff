import ShopManager.Coupon.Operations

/-!
# Which coupons an exchange gives back

`transfer_record_return_coupon_exchange` looks, for each returned coupon, through the
coupons that were given for its order and takes the first that is not unused.
`givenBack` says from the state before the call which ones these are.
-/

namespace ShopManager.Coupon

open Library Library.Tx Pay Pay.Wallet ExchangeDb CouponDb

/-! ## Lookups -/

def givenRecord (s : CouponDb) (oid : String) : Option CouponTransferRecord :=
  s.transferRecords.first fun record =>
    record.transferType = .outExchgSaleorder ∧ record.uniKey = oid

def givenFor (s : CouponDb) (oid : String) : List Nat :=
  match givenRecord s oid with
  | none => []
  | some record => detailIds s record.id

/-- The `oid` of the order that bought a coupon. -/
def boughtBy (s : ExchangeDb) (coupon : UserCoupon) : Option String :=
  match orderIdOfUniqId coupon.uniqId with
  | .error _ => none
  | .ok orderId => (orderById s orderId).map fun order => (s.columns order.id).oid

def nextGivenBack (s : CouponDb) (back : List Nat) (ids : List Nat) : Option Nat :=
  ids.find? fun id => !(decide (s.statusOf id = some .unused) || back.contains id)

/-- The coupons that are given back when these are returned, after `back`. -/
def givenBack (s : ExchangeDb) : List UserCoupon → List Nat → List Nat
  | [], back => back
  | coupon :: coupons, back =>
      match coupon.buyCouponType, boughtBy s coupon with
      | some _, some oid =>
          givenBack s coupons
            (back ++ (nextGivenBack s.coupon back (givenFor s.coupon oid)).toList)
      | _, _ => givenBack s coupons back

/-! ## The loop -/

/-- The state inside the loop: the coupons in `back` have become unused, the rest is
as it was in `s₀`. -/
structure Reviving (s₀ : ExchangeDb) (back : List Nat) (s : ExchangeDb) : Prop where
  keys : s.coupon.couponKeys = s₀.coupon.couponKeys
  present : ∀ id ∈ back, (s₀.coupon.statusOf id).isSome
  status : ∀ id, s.coupon.statusOf id =
    if id ∈ back then (s₀.coupon.statusOf id).map fun _ => .unused else s₀.coupon.statusOf id
  details : s.coupon.details = s₀.coupon.details
  records : s.coupon.transferRecords = s₀.coupon.transferRecords
  orders : s.refund.orders = s₀.refund.orders
  oid : ∀ id, (s.columns id).oid = (s₀.columns id).oid

theorem Reviving.start (s : ExchangeDb) : Reviving s [] s where
  keys := rfl
  present := fun _ h => absurd h List.not_mem_nil
  status := fun _ => rfl
  details := rfl
  records := rfl
  orders := rfl
  oid := fun _ => rfl

variable {ids : List Nat}

theorem reviveFirst_ok {s s' : CouponDb} {revived : Option Nat}
    (h : (reviveFirst ids).run s = (.ok revived, s')) :
    revived = ids.find? (fun id => !decide (s.statusOf id = some .unused)) ∧
      (revived = none → s' = s) ∧
      ∀ id, revived = some id → ∃ coupon, s.userCoupons.get? id = some coupon ∧
        s' = { s with userCoupons := s.userCoupons.save { coupon with status := .unused } } := by
  induction ids with
  | nil =>
    obtain ⟨rfl, rfl⟩ := pure_eq_ok.1 h
    exact ⟨rfl, fun _ => rfl, fun id hid => absurd hid (by simp)⟩
  | cons id ids ih =>
    obtain ⟨coupon, hcoupon, hrest⟩ := getOr_bind_eq_ok.1 h
    have hstatus : s.statusOf id = some coupon.status := by
      rw [statusOf, hcoupon]
      rfl
    have hid : coupon.id = id := (mem_of_get hcoupon).2
    by_cases hunused : coupon.status = .unused
    · rw [if_pos hunused] at hrest
      obtain ⟨hrevived, hs'⟩ := ih hrest
      refine ⟨?_, hs'⟩
      rw [hrevived, List.find?_cons, hstatus, hunused]
      rfl
    · rw [if_neg hunused] at hrest
      obtain ⟨_, t, hsave, hpure⟩ := bind_eq_ok.1 hrest
      obtain ⟨rfl, rfl⟩ := pure_eq_ok.1 hpure
      simp only [UserCoupon.save, modify_run, Prod.mk.injEq, true_and] at hsave
      refine ⟨?_, fun hnone => absurd hnone (by simp), ?_⟩
      · have hne : ¬ some coupon.status = some CouponStatus.unused := by simpa using hunused
        rw [List.find?_cons, hstatus, decide_eq_false hne, hid]
        rfl
      · intro id' hid'
        rw [hid, Option.some.injEq] at hid'
        rw [← hid']
        exact ⟨coupon, hcoupon, hsave.symm⟩

variable {s s₀ : ExchangeDb}

theorem Reviving.save {back : List Nat} (h : Reviving s₀ back s) {id : Nat}
    {coupon : UserCoupon} (hget : s.coupon.userCoupons.get? id = some coupon) :
    Reviving s₀ (back ++ [id])
      (s.setCoupon { s.coupon with
        userCoupons := s.coupon.userCoupons.save { coupon with status := .unused } }) where
  keys := by
    obtain ⟨hmem, -⟩ := mem_of_get hget
    have hkey : (coupon.id, coupon.uniqId) ∈ s.coupon.couponKeys := key_mem hmem
    exact (couponKeys_save { coupon with status := .unused } hkey).trans h.keys
  present := by
    intro id' hid'
    rcases List.mem_append.1 hid' with hback | hid'
    · exact h.present id' hback
    · obtain ⟨hmem, hid⟩ := mem_of_get hget
      have hkey := key_mem hmem
      rw [h.keys, hid] at hkey
      rw [List.mem_singleton.1 hid']
      exact isSome_statusOf hkey
  status := by
    intro id'
    have hid : coupon.id = id := (mem_of_get hget).2
    have hsave := statusOf_save (s := s.coupon) { coupon with status := .unused } id'
    refine hsave.trans ?_
    have hstatus := h.status id'
    by_cases heq : id' = id
    · have hcoupon : id' = coupon.id := heq.trans hid.symm
      have hmem : id' ∈ back ++ [id] := List.mem_append_right _ (by rw [heq]; exact List.mem_singleton_self _)
      rw [if_pos hcoupon, if_pos hmem, hstatus]
      by_cases hback : id' ∈ back
      · rw [if_pos hback, Option.map_map]
        rfl
      · rw [if_neg hback]
    · have hcoupon : ¬ id' = coupon.id := by rwa [hid]
      have hmem : id' ∈ back ++ [id] ↔ id' ∈ back := by simp [heq]
      rw [if_neg hcoupon, hstatus]
      by_cases hback : id' ∈ back
      · rw [if_pos hback, if_pos (hmem.2 hback)]
      · rw [if_neg hback, if_neg fun hm => hback (hmem.1 hm)]
  details := h.details
  records := h.records
  orders := h.orders
  oid := h.oid

theorem Reviving.next {back : List Nat} (h : Reviving s₀ back s) (ids : List Nat) :
    ids.find? (fun id => !decide (s.coupon.statusOf id = some .unused)) =
      nextGivenBack s₀.coupon back ids := by
  unfold nextGivenBack
  congr 1
  funext id
  rw [h.status id]
  by_cases hback : id ∈ back
  · obtain ⟨status, hstatus⟩ := Option.isSome_iff_exists.1 (h.present id hback)
    simp [hback, hstatus]
  · simp [hback]

theorem Reviving.givenFor {back : List Nat} (h : Reviving s₀ back s)
    (oid : String) : givenFor s.coupon oid = givenFor s₀.coupon oid := by
  unfold Coupon.givenFor givenRecord detailIds
  rw [h.records, h.details]

theorem Reviving.sameCoupon {s' : ExchangeDb} {back : List Nat} (h : Reviving s₀ back s)
    (hsame : SameCoupon s s') (horders : s'.refund.orders = s.refund.orders)
    (hoid : ∀ id, (s'.columns id).oid = (s.columns id).oid) : Reviving s₀ back s' where
  keys := by rw [hsame.1, h.keys]
  present := h.present
  status := by
    intro id
    rw [hsame.1, h.status]
  details := by rw [hsame.1, h.details]
  records := by rw [hsame.1, h.records]
  orders := horders.trans h.orders
  oid := fun id => (hoid id).trans (h.oid id)

def SameOrders (s s' : ExchangeDb) : Prop :=
  SameCoupon s s' ∧ s'.refund.orders = s.refund.orders ∧
    ∀ id, (s'.columns id).oid = (s.columns id).oid

namespace SameOrders

theorem refl (s : ExchangeDb) : SameOrders s s := ⟨SameCoupon.refl s, rfl, fun _ => rfl⟩

theorem trans (s s' s'' : ExchangeDb) (h : SameOrders s s') (h' : SameOrders s' s'') :
    SameOrders s s'' :=
  ⟨SameCoupon.trans _ _ _ h.1 h'.1, h'.2.1.trans h.2.1, fun id => (h'.2.2 id).trans (h.2.2 id)⟩

theorem insert (row : ExchangeSaleOrder) : Keeps SameOrders row.insert := by
  refine Keeps.bind trans (Keeps.gets refl _) fun taken => ?_
  refine Keeps.bind trans (Keeps.raiseIf refl _ _) fun _ => ?_
  exact Keeps.modify fun _ => ⟨⟨rfl, rfl⟩, rfl, fun _ => rfl⟩

theorem forbidExchange (orderOid : String) (row : Option ExchangeSaleOrder) :
    Keeps SameOrders (ExchangeSaleOrder.forbidExchange orderOid row) := by
  cases row with
  | none => exact insert _
  | some row => exact Keeps.modify fun _ => ⟨⟨rfl, rfl⟩, rfl, fun _ => rfl⟩

theorem forbidIfNoneLeft (left : Int) (orderOid : String) (row : Option ExchangeSaleOrder) :
    Keeps SameOrders (ExchangeSaleOrder.forbidIfNoneLeft left orderOid row) :=
  Keeps.ite _ (forbidExchange orderOid row) (Keeps.pure refl _)

theorem takeFromReturnNum (orderId num refundNum : Nat) :
    Keeps SameOrders (Coupon.takeFromReturnNum orderId num refundNum) := by
  refine Keeps.bind trans (Keeps.modify fun s => ⟨⟨rfl, rfl⟩, rfl, fun id => ?_⟩) fun _ =>
    Keeps.gets refl _
  show (Function.update s.columns orderId _ id).oid = _
  by_cases h : id = orderId
  · subst h
    rw [Function.update_self]
  · rw [Function.update_of_ne h]

end SameOrders

def GivenBack.Within (back : GivenBack) (ids : List Nat) : Prop :=
  ∀ entry ∈ back.couponIds, entry.2 ⊆ ids

theorem appendId_subset {key id : Nat} {entries : List (Nat × List Nat)}
    (h : ∀ entry ∈ entries, entry.2 ⊆ ids) :
    ∀ entry ∈ appendId key id entries, entry.2 ⊆ ids ++ [id] := by
  induction entries with
  | nil =>
    intro entry hentry
    rw [appendId, List.mem_singleton] at hentry
    rw [hentry]
    exact List.subset_append_right _ _
  | cons first rest ih =>
    obtain ⟨key', old⟩ := first
    have hold : old ⊆ ids := h (key', old) (List.mem_cons_self ..)
    have hrest := ih fun entry hentry => h entry (List.mem_cons_of_mem _ hentry)
    intro entry hentry
    rw [appendId] at hentry
    by_cases hkey : key' = key
    · rw [if_pos hkey, List.mem_cons] at hentry
      rcases hentry with rfl | hentry
      · exact List.append_subset.2
          ⟨List.Subset.trans hold (List.subset_append_left _ _), List.subset_append_right _ _⟩
      · exact List.Subset.trans (h entry (List.mem_cons_of_mem _ hentry))
          (List.subset_append_left _ _)
    · rw [if_neg hkey, List.mem_cons] at hentry
      rcases hentry with rfl | hentry
      · exact List.Subset.trans hold (List.subset_append_left _ _)
      · exact hrest entry hentry

theorem GivenBack.Within.add {back : GivenBack} (h : back.Within ids)
    (orderId price : Nat) (revived : Option Nat) :
    (GivenBack.add orderId price revived back).Within (ids ++ revived.toList) := by
  cases revived with
  | none =>
    intro entry hentry
    simpa using h entry hentry
  | some id => exact appendId_subset h

theorem reviveOfOrder_ok {oid : String} {t : CouponDb}
    {revived : Option Nat} (hs : Reviving s₀ ids s)
    (h : (reviveOfOrder oid).run s.coupon = (.ok revived, t)) :
    revived = nextGivenBack s₀.coupon ids (givenFor s₀.coupon oid) ∧
      Reviving s₀ (ids ++ revived.toList) (s.setCoupon t) := by
  rw [← hs.givenFor oid]
  unfold reviveOfOrder at h
  rw [gets_bind_run] at h
  unfold givenFor givenRecord
  generalize (s.coupon.transferRecords.first fun record =>
    record.transferType = .outExchgSaleorder ∧ record.uniKey = oid) = exchgCtr at h ⊢
  cases exchgCtr with
  | none =>
    obtain ⟨rfl, rfl⟩ := pure_eq_ok.1 h
    refine ⟨rfl, ?_⟩
    simpa [ExchangeDb.setCoupon] using hs
  | some record =>
    obtain ⟨hrevived, hidle, hsaved⟩ := reviveFirst_ok h
    rw [hs.next] at hrevived
    refine ⟨hrevived, ?_⟩
    cases hr : revived with
    | none =>
      rw [hidle hr]
      simpa [ExchangeDb.setCoupon] using hs
    | some id =>
      obtain ⟨oneCoupon, hget, rfl⟩ := hsaved id hr
      exact hs.save hget

theorem returnOne_ok {s' : ExchangeDb} {coupon : UserCoupon}
    {back back' : GivenBack} (hs : Reviving s₀ ids s) (hback : back.Within ids)
    (h : (returnOne coupon back).run s = (.ok back', s')) :
    ∃ oid, boughtBy s₀ coupon = some oid ∧
      let revived := nextGivenBack s₀.coupon ids (givenFor s₀.coupon oid)
      Reviving s₀ (ids ++ revived.toList) s' ∧ back'.Within (ids ++ revived.toList) := by
  unfold returnOne at h
  obtain ⟨orderId, hparse, h⟩ := ofExcept_bind_eq_ok.1 h
  obtain ⟨order, horder, h⟩ := getOr_bind_eq_ok.1 h
  rw [gets_bind_run] at h
  obtain ⟨carry, -, h⟩ := getOr_bind_eq_ok.1 h
  obtain ⟨-, h⟩ := raiseIf_bind_eq_ok.1 h
  obtain ⟨revived, t, hrun₅, h⟩ := bind_eq_ok.1 h
  obtain ⟨coupons, hrevive, rfl⟩ := zoom_eq_ok.1 hrun₅
  rw [gets_bind_run] at h
  obtain ⟨left, t, hleft, h⟩ := bind_eq_ok.1 h
  obtain ⟨_, u, hforbid, h⟩ := bind_eq_ok.1 h
  obtain ⟨rfl, rfl⟩ := pure_eq_ok.1 h
  have hbought : boughtBy s₀ coupon = some (s.columns order.id).oid := by
    have hsame : orderById s₀ orderId = orderById s orderId := by
      unfold orderById
      rw [hs.orders]
    unfold boughtBy
    rw [hparse]
    simp only [hsame, horder, Option.map_some, hs.oid]
  obtain ⟨hrevived, hreviving⟩ := reviveOfOrder_ok hs hrevive
  -- the exchange row and the quantity left are no matter of the loop
  have hsame : SameOrders (s.setCoupon coupons) u := by
    have h₁ := SameOrders.takeFromReturnNum order.id order.num 1 (s.setCoupon coupons)
    have h₂ := SameOrders.forbidIfNoneLeft left (s.columns order.id).oid
      ((s.setCoupon coupons).exchangeSaleOrder (s.columns order.id).oid) t
    rw [hleft] at h₁
    rw [hforbid] at h₂
    exact SameOrders.trans _ _ _ h₁ h₂
  have hwithin : GivenBack.Within { back with exchgMama := carry.mamaId } ids := hback
  refine ⟨(s.columns order.id).oid, hbought, ?_⟩
  rw [← hrevived]
  exact ⟨hreviving.sameCoupon hsame.1 hsame.2.1 hsame.2.2,
    hwithin.add order.id (s.columns order.id).price revived⟩

theorem returnEach_ok {coupons : List UserCoupon}
    {s' : ExchangeDb} {back back' : GivenBack} (hs : Reviving s₀ ids s) (hback : back.Within ids)
    (h : (returnEach coupons back).run s = (.ok back', s')) :
    Reviving s₀ (givenBack s₀ coupons ids) s' ∧ back'.Within (givenBack s₀ coupons ids) := by
  induction coupons generalizing ids s back with
  | nil =>
    obtain ⟨rfl, rfl⟩ := pure_eq_ok.1 h
    exact ⟨hs, hback⟩
  | cons coupon coupons ih =>
    unfold returnEach at h
    unfold givenBack
    cases hbuy : coupon.buyCouponType with
    | none =>
      rw [hbuy] at h
      exact ih hs hback h
    | some buyCouponType =>
      rw [hbuy] at h
      obtain ⟨back₁, s₁, hone, hrest⟩ := bind_eq_ok.1 h
      obtain ⟨oid, hoid, hs₁, hback₁⟩ := returnOne_ok hs hback hone
      rw [hoid]
      exact ih hs₁ hback₁ hrest

/-- The unused coupons, the coupons given for an order and the orders that bought
coupons are what they were in `s₀`. -/
structure SameGiving (s₀ s : ExchangeDb) : Prop where
  unused : ∀ id, s.coupon.statusOf id = some .unused ↔ s₀.coupon.statusOf id = some .unused
  given : ∀ oid, givenFor s.coupon oid = givenFor s₀.coupon oid
  orders : s.refund.orders = s₀.refund.orders
  columns : s.columns = s₀.columns

theorem SameGiving.givenBack (h : SameGiving s₀ s) (coupons : List UserCoupon)
    (back : List Nat) : givenBack s coupons back = givenBack s₀ coupons back := by
  induction coupons generalizing back with
  | nil => rfl
  | cons coupon coupons ih =>
    have hbought : boughtBy s coupon = boughtBy s₀ coupon := by
      unfold boughtBy orderById
      rw [h.orders, h.columns]
    have hnext : ∀ ids, nextGivenBack s.coupon back ids = nextGivenBack s₀.coupon back ids := by
      intro ids
      unfold nextGivenBack
      simp only [h.unused]
    unfold Coupon.givenBack
    simp only [hbought, hnext, h.given, ih]

theorem givenFor_save {s : CouponDb} {record : CouponTransferRecord}
    (h : record ∈ s.transferRecords) (status : TransferStatus) (oid : String) :
    givenFor { s with
      transferRecords := s.transferRecords.save { record with transferStatus := status } } oid =
        givenFor s oid := by
  have hfirst : givenRecord { s with
      transferRecords := s.transferRecords.save { record with transferStatus := status } } oid =
        (givenRecord s oid).map fun r =>
          if r.id = record.id then { record with transferStatus := status } else r := by
    have hpk : Row.pk record = Row.pk { record with transferStatus := status } := rfl
    exact Table.first_save h hpk rfl
  unfold givenFor
  rw [hfirst]
  cases hr : givenRecord s oid with
  | none => rfl
  | some r =>
    by_cases hid : r.id = record.id
    · rw [Option.map_some, if_pos hid]
      show detailIds s record.id = detailIds s r.id
      rw [hid]
    · rw [Option.map_some, if_neg hid]
      rfl

end ShopManager.Coupon
