import ShopManager.Coupon.Exchange.Model
import ShopManager.Pay.Wallet.Spec

/-!
# Exchanging an order is all or nothing

The coupons for an order are gathered over the templates in turn, and a record is written
for each template that has some; but a record has the number of the order as its key, so only
the first of them is stored.  An exchange goes through exactly when that template has enough.
-/

namespace ShopManager.Coupon

open Library Library.Tx Pay Pay.Wallet ExchangeDb

/-! ## The stock of a customer -/

section Stock

variable (s : CouponDb) (customer : Nat)

def unusedOf (templateId : Nat) : List UserCoupon :=
  s.userCoupons.filter fun coupon =>
    coupon.customerId = customer ∧ coupon.templateId = templateId ∧ coupon.status = .unused

def unusedOver (templateIds : List Nat) : List UserCoupon :=
  s.userCoupons.filter fun coupon =>
    coupon.customerId = customer ∧ coupon.templateId ∈ templateIds ∧ coupon.status = .unused

def firstUnused : List Nat → List UserCoupon
  | [] => []
  | templateId :: templateIds =>
      if unusedOf s customer templateId = [] then firstUnused templateIds
      else unusedOf s customer templateId

end Stock

section Laws

variable {s : CouponDb} {customer : Nat}

theorem exists_firstUnused {templateIds : List Nat}
    (h : firstUnused s customer templateIds ≠ []) :
    ∃ templateId ∈ templateIds,
      firstUnused s customer templateIds = unusedOf s customer templateId := by
  induction templateIds with
  | nil => exact absurd rfl h
  | cons first templateIds ih =>
    unfold firstUnused at h ⊢
    split
    · next hfirst =>
        rw [if_pos hfirst] at h
        obtain ⟨templateId, hmem, heq⟩ := ih h
        exact ⟨templateId, List.mem_cons_of_mem _ hmem, heq⟩
    · exact ⟨first, List.mem_cons_self, rfl⟩

theorem firstUnused_length_le (templateIds : List Nat) :
    (firstUnused s customer templateIds).length ≤ (unusedOver s customer templateIds).length := by
  by_cases h : firstUnused s customer templateIds = []
  · rw [h]
    exact Nat.zero_le _
  · obtain ⟨templateId, hmem, heq⟩ := exists_firstUnused h
    rw [heq]
    refine (List.monotone_filter_right _ fun coupon hcoupon => ?_).length_le
    rw [decide_eq_true_iff] at hcoupon ⊢
    exact ⟨hcoupon.1, hcoupon.2.1 ▸ hmem, hcoupon.2.2⟩

theorem mem_firstUnused {templateIds : List Nat} {coupon : UserCoupon}
    (h : coupon ∈ firstUnused s customer templateIds) :
    coupon ∈ s.userCoupons ∧ coupon.customerId = customer ∧ coupon.templateId ∈ templateIds ∧
      coupon.status = .unused := by
  obtain ⟨templateId, hmem, heq⟩ := exists_firstUnused (List.ne_nil_of_mem h)
  rw [heq] at h
  obtain ⟨hrow, hcoupon⟩ := List.mem_filter.1 h
  rw [decide_eq_true_iff] at hcoupon
  exact ⟨hrow, hcoupon.1, hcoupon.2.1 ▸ hmem, hcoupon.2.2⟩

theorem firstUnused_nodup (templateIds : List Nat) :
    ((firstUnused s customer templateIds).map UserCoupon.id).Nodup := by
  have hpk : (s.userCoupons.rows.map Row.pk).Nodup := s.userCoupons.sorted.imp ne_of_lt
  by_cases h : firstUnused s customer templateIds = []
  · rw [h]
    exact List.nodup_nil
  · obtain ⟨templateId, -, heq⟩ := exists_firstUnused h
    rw [heq]
    exact hpk.sublist (List.filter_sublist.map _)

end Laws

def RecordTaken (s : CouponDb) (oid : String) : Prop :=
  ∃ record ∈ s.transferRecords, record.uniKey = oid

def exchgRecord (today : Date) (mama couponNum : Nat) (oid : String) (templateId : Nat) :
    CouponTransferRecord where
  id := 0
  couponFromMamaId := mama
  couponToMamaId := 0
  initFromMamaId := mama
  orderNo := oid
  templateId := templateId
  couponNum := couponNum
  transferType := .outExchgSaleorder
  transferStatus := .delivered
  uniKey := oid
  dateField := today

section Records

variable {today : Date} {customer : Nat} {oid : String}

theorem taken_iff {s : CouponDb} {oid : String} :
    (s.transferRecords.first fun r => r.uniKey = oid).isSome = true ↔ RecordTaken s oid := by
  rw [Option.isSome_iff_ne_none, ne_eq, Table.first_eq_none, not_forall]
  unfold RecordTaken
  constructor
  · rintro ⟨record, h⟩
    rw [Classical.not_imp] at h
    exact ⟨record, h.1, by simpa using h.2⟩
  · rintro ⟨record, hmem, hkey⟩
    refine ⟨record, fun h => ?_⟩
    simpa [hkey] using h hmem

theorem createExchgOrderRecord_ok {couponNum templateId : Nat} {s s' : CouponDb}
    {record : CouponTransferRecord}
    (h : (CouponTransferRecord.createExchgOrderRecord today customer couponNum oid
      templateId).run s = (.ok record, s')) :
    ¬ RecordTaken s oid ∧ ∃ mama, s.chargedMama customer = some mama ∧
      record = s.transferRecords.stored (exchgRecord today mama couponNum oid templateId) ∧
      s' = { s with
        transferRecords := s.transferRecords.insert
          (exchgRecord today mama couponNum oid templateId) } := by
  unfold CouponTransferRecord.createExchgOrderRecord at h
  obtain ⟨mama, hmama, h⟩ := getOr_bind_eq_ok.1 h
  rw [gets_bind_run] at h
  obtain ⟨-, h⟩ := raiseIf_bind_eq_ok.1 h
  unfold CouponTransferRecord.insert at h
  rw [gets_bind_run] at h
  obtain ⟨hfree, h⟩ := raiseIf_bind_eq_ok.1 h
  rw [gets_bind_run, modify_bind_run] at h
  obtain ⟨rfl, rfl⟩ := pure_eq_ok.1 h
  exact ⟨fun htaken => hfree (taken_iff.2 htaken), mama, hmama, rfl, rfl⟩

theorem createExchgOrderRecord_run {couponNum templateId mama : Nat} {s : CouponDb}
    (hfree : ¬ RecordTaken s oid) (hmama : s.chargedMama customer = some mama)
    (htemplate : s.templates.contains templateId = true) :
    (CouponTransferRecord.createExchgOrderRecord today customer couponNum oid templateId).run s =
      (.ok (s.transferRecords.stored (exchgRecord today mama couponNum oid templateId)),
        { s with
          transferRecords := s.transferRecords.insert
            (exchgRecord today mama couponNum oid templateId) }) := by
  unfold CouponTransferRecord.createExchgOrderRecord
  have hget : (getOr .attributeError fun s : CouponDb => s.chargedMama customer :
      CouponTx Nat).run s = (.ok mama, s) := getOr_eq_ok.2 ⟨hmama, rfl⟩
  rw [bind_ok hget, gets_bind_run, raiseIf_bind_run,
    if_neg fun hmissing => absurd (htemplate.symm.trans hmissing) (by decide)]
  unfold CouponTransferRecord.insert
  have hnone : ¬ (s.transferRecords.first fun r => r.uniKey = oid).isSome = true :=
    fun h => hfree (taken_iff.1 h)
  rw [gets_bind_run, raiseIf_bind_run]
  exact if_neg hnone

theorem giveCoupons_taken : ∀ {templateIds : List Nat} {leftNum : Nat} {s s' : CouponDb}
    {ids : List Nat}, RecordTaken s oid →
      (giveCoupons today customer oid templateIds leftNum).run s = (.ok ids, s') →
        ids = [] ∧ s' = s := by
  intro templateIds
  induction templateIds with
  | nil =>
    intro leftNum s s' ids _ h
    obtain ⟨rfl, rfl⟩ := pure_eq_ok.1 h
    exact ⟨rfl, rfl⟩
  | cons templateId templateIds ih =>
    intro leftNum s s' ids htaken h
    unfold giveCoupons at h
    rw [gets_bind_run] at h
    split at h
    · exact ih htaken h
    · obtain ⟨transfer, s1, hrecord, -⟩ := bind_eq_ok.1 h
      exact absurd htaken (createExchgOrderRecord_ok hrecord).1

theorem giveCoupons_ok : ∀ {templateIds : List Nat} {leftNum : Nat} {s s' : CouponDb}
    {ids : List Nat},
      (giveCoupons today customer oid templateIds leftNum).run s = (.ok ids, s') →
        ids = ((firstUnused s customer templateIds).take leftNum).map UserCoupon.id ∧
          s'.userCoupons = s.userCoupons ∧
          (ids ≠ [] → ¬ RecordTaken s oid ∧ ∃ mama templateId,
            s'.transferRecords = s.transferRecords.insert
              (exchgRecord today mama ids.length oid templateId)) := by
  intro templateIds
  induction templateIds with
  | nil =>
    intro leftNum s s' ids h
    obtain ⟨rfl, rfl⟩ := pure_eq_ok.1 h
    exact ⟨by simp [firstUnused], rfl, fun hne => absurd rfl hne⟩
  | cons templateId templateIds ih =>
    intro leftNum s s' ids h
    unfold giveCoupons at h
    rw [gets_bind_run] at h
    unfold firstUnused
    split at h
    · next hnone =>
        have hnone' : unusedOf s customer templateId = [] := hnone
        rw [if_pos hnone']
        exact ih h
    · next hsome =>
        have hsome' : ¬ unusedOf s customer templateId = [] := hsome
        rw [if_neg hsome']
        obtain ⟨transfer, s1, hrecord, h⟩ := bind_eq_ok.1 h
        obtain ⟨hfree, mama, -, rfl, rfl⟩ := createExchgOrderRecord_ok hrecord
        rw [createTransferCouponDetail, modify_bind_run] at h
        split at h
        · obtain ⟨rfl, rfl⟩ := pure_eq_ok.1 h
          exact ⟨rfl, rfl, fun _ => ⟨hfree, mama, templateId, rfl⟩⟩
        · next hleft =>
            obtain ⟨rest, s2, hrest, h⟩ := bind_eq_ok.1 h
            obtain ⟨rfl, rfl⟩ := pure_eq_ok.1 h
            -- the key of the order is taken by the first record
            obtain ⟨rfl, rfl⟩ := @giveCoupons_taken today customer oid _ _ _ _ _
              ⟨_, Table.mem_insert.2 (.inr rfl), rfl⟩ hrest
            rw [not_le, List.length_map] at hleft
            rw [List.append_nil]
            exact ⟨rfl, rfl, fun _ => ⟨hfree, mama, templateId, rfl⟩⟩

theorem giveCoupons_run {mama : Nat} : ∀ {templateIds : List Nat} {leftNum : Nat} {s : CouponDb},
    ¬ RecordTaken s oid → s.chargedMama customer = some mama →
      (∀ templateId ∈ templateIds, s.templates.contains templateId = true) →
        0 < leftNum → leftNum ≤ (firstUnused s customer templateIds).length →
          ∃ s', (giveCoupons today customer oid templateIds leftNum).run s =
            (.ok (((firstUnused s customer templateIds).take leftNum).map UserCoupon.id), s') := by
  intro templateIds
  induction templateIds with
  | nil =>
    intro leftNum s _ _ _ hpos hle
    exact absurd hle (not_le.2 hpos)
  | cons templateId templateIds ih =>
    intro leftNum s hfree hmama htemplates hpos hle
    unfold giveCoupons
    rw [gets_bind_run]
    unfold firstUnused at hle ⊢
    by_cases hnone : unusedOf s customer templateId = []
    · rw [if_pos hnone] at hle ⊢
      have hnone' := hnone
      unfold unusedOf at hnone'
      rw [if_pos hnone']
      exact ih hfree hmama (fun t ht => htemplates t (List.mem_cons_of_mem _ ht)) hpos hle
    · rw [if_neg hnone] at hle ⊢
      have hnone' := hnone
      unfold unusedOf at hnone'
      rw [if_neg hnone', bind_ok (createExchgOrderRecord_run hfree hmama
        (htemplates templateId List.mem_cons_self)), createTransferCouponDetail,
        modify_bind_run, if_pos]
      · exact ⟨_, rfl⟩
      · rw [List.length_map, List.length_take]
        exact le_min le_rfl hle

end Records

/-! ## The coupons that are used -/

section Use

variable {now : Nat} {tid : String}

def usedFor (tid : String) (ids : List Nat) (coupon : UserCoupon) : UserCoupon :=
  if coupon.id ∈ ids then { coupon with status := .used, tradeTid := some tid } else coupon

theorem useCoupon_run {id : Nat} {s : CouponDb} {coupon : UserCoupon}
    (hget : s.userCoupons.get? id = some coupon) (hnew : coupon.status ≠ .used) :
    (useCoupon tid id).run s = (.ok (), { s with
      userCoupons := s.userCoupons.save
        { coupon with status := .used, tradeTid := some tid } }) := by
  refine atomic_ok ?_
  have hread : (getOr .doesNotExist fun s : CouponDb => s.userCoupons.get? id :
      CouponTx UserCoupon).run s = (.ok coupon, s) := getOr_eq_ok.2 ⟨hget, rfl⟩
  rw [bind_ok hread, raiseIf_bind_run, if_neg hnew]
  rfl

theorem useCoupons_run : ∀ {ids : List Nat} {s : CouponDb}, ids.Nodup →
    (∀ id ∈ ids, ∃ coupon, s.userCoupons.get? id = some coupon ∧ coupon.status ≠ .used) →
      ∃ t, (forEach ids (useCoupon tid)).run s = (.ok (), { s with userCoupons := t }) ∧
        ∀ n, t.get? n = (s.userCoupons.get? n).map (usedFor tid ids) := by
  intro ids
  induction ids with
  | nil =>
    intro s _ _
    refine ⟨s.userCoupons, rfl, fun n => ?_⟩
    cases s.userCoupons.get? n <;> rfl
  | cons id ids ih =>
    intro s hnodup h
    rw [List.nodup_cons] at hnodup
    obtain ⟨coupon, hget, hnew⟩ := h id List.mem_cons_self
    have hpk : coupon.id = id := (Table.get?_eq_some.1 hget).2
    have hsave : ∀ n, (s.userCoupons.save
        { coupon with status := .used, tradeTid := some tid }).get? n =
          if n = id then some { coupon with status := .used, tradeTid := some tid }
          else s.userCoupons.get? n := by
      intro n
      have hkey : Row.pk { coupon with status := .used, tradeTid := some tid } = id := hpk
      rw [Table.get?_save, hkey]
      by_cases hn : n = id
      · rw [if_pos hn, if_pos hn, hn, hget]
        rfl
      · rw [if_neg hn, if_neg hn]
    have hrest : ∀ other ∈ ids, ∃ c, (s.userCoupons.save
        { coupon with status := .used, tradeTid := some tid }).get? other = some c ∧
          c.status ≠ .used := by
      intro other hother
      have hne : other ≠ id := fun heq => hnodup.1 (heq ▸ hother)
      rw [hsave, if_neg hne]
      exact h other (List.mem_cons_of_mem _ hother)
    obtain ⟨t, hrun, ht⟩ := @ih { s with
      userCoupons := s.userCoupons.save
        { coupon with status := .used, tradeTid := some tid } } hnodup.2 hrest
    refine ⟨t, by rw [forEach_cons, bind_ok (useCoupon_run hget hnew), hrun], fun n => ?_⟩
    rw [ht]
    dsimp only
    rw [hsave]
    by_cases hn : n = id
    · rw [if_pos hn, hn, hget]
      simp only [Option.map_some, usedFor, hpk]
      rw [if_neg hnodup.1, if_pos List.mem_cons_self]
    · rw [if_neg hn]
      apply Option.map_congr
      intro c hc
      have hcid : c.id = n := (Table.get?_eq_some.1 hc).2
      have hne : c.id ≠ id := fun heq => hn (hcid.symm.trans heq)
      simp only [usedFor, List.mem_cons, hne, false_or]

theorem basicChecks_iff : ∀ {coupons : List UserCoupon},
    (∀ coupon ∈ coupons, coupon.status = .unused) →
      (basicChecks now coupons = .ok () ↔ ∀ coupon ∈ coupons, now ≤ coupon.expiresTime) := by
  intro coupons
  induction coupons with
  | nil =>
    intro _
    exact iff_of_true rfl fun coupon hmem => by cases hmem
  | cons coupon coupons ih =>
    intro h
    have hunused := h coupon List.mem_cons_self
    have hrest := ih fun c hc => h c (List.mem_cons_of_mem _ hc)
    have hcheck : coupon.couponBasicCheck now =
        if now ≤ coupon.expiresTime then .ok () else .error (.assertion "使用日期错误") := by
      unfold UserCoupon.couponBasicCheck
      rw [hunused]
    unfold basicChecks
    rw [hcheck, List.forall_mem_cons, ← hrest]
    by_cases hdate : now ≤ coupon.expiresTime
    · rw [if_pos hdate]
      exact ⟨fun hok => ⟨hdate, hok⟩, fun hok => hok.2⟩
    · rw [if_neg hdate]
      exact iff_of_false (fun hok => by cases hok) fun hok => hdate hok.1

theorem useCouponByIds_run {coupons : List UserCoupon} {s : CouponDb}
    (hrows : ∀ coupon ∈ coupons, coupon ∈ s.userCoupons)
    (hunused : ∀ coupon ∈ coupons, coupon.status = .unused)
    (hnodup : (coupons.map UserCoupon.id).Nodup) :
    ((∃ s', (useCouponByIds now (coupons.map UserCoupon.id) tid).run s = (.ok (), s')) ↔
      ∀ coupon ∈ coupons, now ≤ coupon.expiresTime) ∧
    ∀ s', (useCouponByIds now (coupons.map UserCoupon.id) tid).run s = (.ok (), s') →
      s'.transferRecords = s.transferRecords ∧
        ∀ n, s'.userCoupons.get? n =
          (s.userCoupons.get? n).map (usedFor tid (coupons.map UserCoupon.id)) := by
  have hsame : ∀ coupon, coupon ∈ getUserCouponsByIds s (coupons.map UserCoupon.id) ↔
      coupon ∈ coupons := by
    intro coupon
    unfold getUserCouponsByIds Table.filter
    rw [List.mem_filter, List.contains_iff_mem]
    constructor
    · rintro ⟨hrow, hid⟩
      obtain ⟨other, hother, heq⟩ := List.mem_map.1 hid
      have hpk : other = coupon := Table.pk_inj (hrows other hother) hrow heq
      exact hpk ▸ hother
    · intro hcoupon
      exact ⟨hrows coupon hcoupon, List.mem_map_of_mem hcoupon⟩
  have hchecks : basicChecks now (getUserCouponsByIds s (coupons.map UserCoupon.id)) = .ok () ↔
      ∀ coupon ∈ coupons, now ≤ coupon.expiresTime := by
    rw [basicChecks_iff fun coupon hcoupon => hunused coupon ((hsame coupon).1 hcoupon)]
    exact forall_congr' fun coupon => by rw [hsame]
  obtain ⟨t, hrun, ht⟩ := @useCoupons_run tid (coupons.map UserCoupon.id) s hnodup (by
    intro id hid
    obtain ⟨coupon, hcoupon, rfl⟩ := List.mem_map.1 hid
    refine ⟨coupon, Table.get?_eq_some.2 ⟨hrows coupon hcoupon, rfl⟩, ?_⟩
    rw [hunused coupon hcoupon]
    decide)
  unfold useCouponByIds
  simp only [gets_bind_run]
  constructor
  · rw [← hchecks]
    constructor
    · rintro ⟨s', h⟩
      obtain ⟨_, s1, hok, -⟩ := bind_eq_ok.1 h
      exact (ofExcept_eq_ok.1 hok).1
    · intro hok
      exact ⟨_, bind_eq_ok.2 ⟨(), s, ofExcept_eq_ok.2 ⟨hok, rfl⟩, hrun⟩⟩
  · intro s' h
    obtain ⟨_, -, huse⟩ := ofExcept_bind_eq_ok.1 h
    rw [hrun] at huse
    obtain rfl := congrArg Prod.snd huse
    exact ⟨rfl, ht⟩

end Use

section Parts

variable {today : Date} {customer : Nat} {oid : String}

theorem markExchanged_ok {s s' : ExchangeDb} {u : Unit}
    (h : (ExchangeSaleOrder.markExchanged oid (s.exchangeSaleOrder oid)).run s = (.ok u, s')) :
    ∃ t, s' = { s with exchangeSaleOrders := t } ∧
      ∀ row ∈ t, row.hasExchanged = true → row.orderOid = oid ∨ row ∈ s.exchangeSaleOrders := by
  cases hrow : s.exchangeSaleOrder oid with
  | none =>
    rw [hrow] at h
    unfold ExchangeSaleOrder.markExchanged ExchangeSaleOrder.insert at h
    rw [gets_bind_run] at h
    obtain ⟨-, hinsert⟩ := raiseIf_bind_eq_ok.1 h
    obtain rfl := congrArg Prod.snd hinsert
    refine ⟨_, rfl, fun row hmem _ => ?_⟩
    rcases Table.mem_insert.1 hmem with hold | rfl
    · exact .inr hold
    · exact .inl rfl
  | some row =>
    rw [hrow] at h
    obtain rfl := congrArg Prod.snd h
    have hspec := Table.first_spec hrow
    have hoid : row.orderOid = oid := of_decide_eq_true hspec
    refine ⟨_, rfl, fun row' hmem _ => ?_⟩
    rcases Table.mem_save hmem with rfl | ⟨hold, -⟩
    · exact .inl hoid
    · exact .inr hold

theorem markExchanged_run {s : ExchangeDb}
    (hkeys : ∀ row ∈ s.exchangeSaleOrders, row.uniKey = oid → row.orderOid = oid) :
    ∃ s', (ExchangeSaleOrder.markExchanged oid (s.exchangeSaleOrder oid)).run s =
      (.ok (), s') := by
  cases hrow : s.exchangeSaleOrder oid with
  | none =>
    have hfree : (s.exchangeSaleOrders.first fun r => r.uniKey = oid) = none := by
      refine Table.first_eq_none.2 fun row hmem => decide_eq_false fun hkey => ?_
      have hnone := Table.first_eq_none.1 hrow row hmem
      exact of_decide_eq_false hnone (hkeys row hmem hkey)
    unfold ExchangeSaleOrder.markExchanged ExchangeSaleOrder.insert
    rw [gets_bind_run, raiseIf_bind_run]
    refine ⟨_, if_neg fun htaken => ?_⟩
    have hkey : (s.exchangeSaleOrders.first fun r => r.uniKey = oid).isSome = true := htaken
    rw [hfree] at hkey
    cases hkey
  | some row => exact ⟨_, rfl⟩

def SameColumns (columns columns' : Nat → OrderColumns) : Prop :=
  ∀ n, (columns' n).oid = (columns n).oid ∧ (columns' n).price = (columns n).price ∧
    (columns' n).exchange = (columns n).exchange

theorem SameColumns.refl (columns : Nat → OrderColumns) : SameColumns columns columns :=
  fun _ => ⟨rfl, rfl, rfl⟩

theorem SameColumns.update (columns : Nat → OrderColumns) (n : Nat) (left : Option Int) :
    SameColumns columns
      (Function.update columns n { columns n with canReturnNum := left }) := by
  intro m
  by_cases hm : m = n
  · subst hm
    rw [Function.update_self]
    exact ⟨rfl, rfl, rfl⟩
  · rw [Function.update_of_ne hm]
    exact ⟨rfl, rfl, rfl⟩

theorem initReturnNum_run (orderId num : Nat) (s : ExchangeDb) :
    ∃ columns, (initReturnNum orderId num).run s = (.ok (), { s with columns := columns }) ∧
      SameColumns s.columns columns := by
  unfold initReturnNum
  rw [modify_run]
  split
  · exact ⟨s.columns, rfl, SameColumns.refl _⟩
  · exact ⟨_, rfl, SameColumns.update _ _ _⟩

structure Went (now : Nat) (today : Date) (customer : Nat) (oid : String)
    (order : Refund.SaleOrder) (templateIds : List Nat) (couponNum : Nat)
    (exchgPayment : ExchgPayment) (s s' : ExchangeDb) : Prop where
  gathered : ∃ t columns c1 c2 amount log w,
    (ExchangeSaleOrder.markExchanged oid (s.exchangeSaleOrder oid)).run s =
        (.ok (), { s with exchangeSaleOrders := t }) ∧
      SameColumns s.columns columns ∧
      (giveCoupons today customer oid templateIds couponNum).run s.coupon =
        (.ok (((firstUnused s.coupon customer templateIds).take couponNum).map UserCoupon.id),
          c1) ∧
      (useCouponByIds now
        (((firstUnused s.coupon customer templateIds).take couponNum).map UserCoupon.id)
          oid).run c1 = (.ok (), c2) ∧
      exchgAmount exchgPayment (s.exchangeSaleOrder oid) (s.columns order.id).price couponNum =
        .ok amount ∧
      (BudgetLog.create today (exchgArgs customer amount order.id oid)).run s.wallet =
        (.ok log, w) ∧
      s' = setWallet w (setCoupon c2 { s with exchangeSaleOrders := t, columns := columns })
  enough : 0 < couponNum ∧ couponNum ≤ (firstUnused s.coupon customer templateIds).length

variable {now : Nat} {order : Refund.SaleOrder} {templateIds : List Nat} {couponNum : Nat}
  {exchgPayment : ExchgPayment} {s s' : ExchangeDb}

theorem exchangeCoupons_ok
    (h : (exchangeCoupons now today customer oid order (s.exchangeSaleOrder oid) templateIds
      couponNum exchgPayment).run s = (.ok (), s')) :
    Went now today customer oid order templateIds couponNum exchgPayment s s' := by
  obtain ⟨_, s1, hmark, h⟩ := bind_eq_ok.1 (atomic_eq_ok.1 h)
  obtain ⟨t, rfl, -⟩ := markExchanged_ok hmark
  obtain ⟨columns, hinit, hsame⟩ := initReturnNum_run order.id order.num
    { s with exchangeSaleOrders := t }
  rw [bind_ok hinit] at h
  obtain ⟨ids, s2, hgiven, h⟩ := bind_eq_ok.1 h
  obtain ⟨c1, hgive, rfl⟩ := zoom_eq_ok.1 hgiven
  obtain ⟨hnum, h⟩ := raiseIf_bind_eq_ok.1 h
  obtain ⟨_, s4, hused, h⟩ := bind_eq_ok.1 h
  obtain ⟨c2, huse, rfl⟩ := zoom_eq_ok.1 hused
  obtain ⟨hsome, h⟩ := raiseIf_bind_eq_ok.1 h
  rw [gets_bind_run] at h
  obtain ⟨amount, hamount, h⟩ := ofExcept_bind_eq_ok.1 h
  obtain ⟨log, s7, hcreated, h⟩ := bind_eq_ok.1 h
  obtain ⟨w, hcreate, rfl⟩ := zoom_eq_ok.1 hcreated
  obtain ⟨-, rfl⟩ := pure_eq_ok.1 h
  have hgive' : (giveCoupons today customer oid templateIds couponNum).run s.coupon =
      (.ok ids, c1) := hgive
  obtain ⟨rfl, -, -⟩ := giveCoupons_ok hgive'
  have hprice : (columns order.id).price = (s.columns order.id).price := (hsame order.id).2.1
  refine ⟨⟨t, columns, c1, c2, amount, log, w, hmark, hsame, hgive, huse, ?_, hcreate, rfl⟩, ?_⟩
  · rw [← hprice]
    exact hamount
  · rw [not_not, List.length_map, List.length_take] at hnum
    have hpos : couponNum ≠ 0 := by
      rintro rfl
      exact hsome rfl
    omega

theorem couponExchangeSaleorder_error {e : Exn}
    (h : (couponExchangeSaleorder now today customer oid templateIds couponNum exchgPayment).run
      s = (.error e, s')) : s' = s := by
  unfold couponExchangeSaleorder at h
  rw [gets_bind_run, getOr_bind_run] at h
  split at h
  · next order _ =>
      rw [raiseIf_bind_run] at h
      split at h
      · exact (congrArg Prod.snd h).symm
      · rw [gets_bind_run, raiseIf_bind_run] at h
        split at h
        · exact (congrArg Prod.snd h).symm
        · unfold exchangeCoupons at h
          rcases atomic_cases (σ := ExchangeDb) _ s with ⟨u, t, -, hatomic⟩ | hatomic
          · rw [hatomic] at h
            cases congrArg Prod.fst h
          · rw [h] at hatomic
            exact hatomic
  · exact (congrArg Prod.snd h).symm

theorem couponExchangeSaleorder_ok
    (h : (couponExchangeSaleorder now today customer oid templateIds couponNum exchgPayment).run
      s = (.ok (), s')) :
    ∃ order, s.orderByOid oid = some order ∧ isSent order.status = true ∧
      (s.columns order.id).exchange = false ∧
      Went now today customer oid order templateIds couponNum exchgPayment s s' := by
  unfold couponExchangeSaleorder at h
  rw [gets_bind_run] at h
  obtain ⟨order, horder, h⟩ := getOr_bind_eq_ok.1 h
  obtain ⟨hsent, h⟩ := raiseIf_bind_eq_ok.1 h
  rw [gets_bind_run] at h
  obtain ⟨hflag, h⟩ := raiseIf_bind_eq_ok.1 h
  exact ⟨order, horder, by simpa using hsent, by simpa using hflag, exchangeCoupons_ok h⟩

theorem couponExchangeSaleorder_taken (htaken : RecordTaken s.coupon oid) :
    ∃ e, (couponExchangeSaleorder now today customer oid templateIds couponNum
      exchgPayment).run s = (.error e, s) := by
  cases hrun : (couponExchangeSaleorder now today customer oid templateIds couponNum
      exchgPayment).run s with
  | mk res s' =>
    cases res with
    | error e => exact ⟨e, by rw [couponExchangeSaleorder_error hrun]⟩
    | ok u =>
      obtain ⟨order, -, -, -, hwent⟩ := couponExchangeSaleorder_ok hrun
      obtain ⟨t, columns, c1, c2, amount, log, w, -, -, hgive, -⟩ := hwent.gathered
      obtain ⟨hnone, -⟩ := giveCoupons_taken htaken hgive
      have hlength := congrArg List.length hnone
      rw [List.length_map, List.length_take, List.length_nil] at hlength
      have henough := hwent.enough
      omega

end Parts

/-! ## The law -/

/-- An order that may be exchanged: sent, not exchanged before, by a mama in force whose
wallet and whose templates are there. -/
structure MayExchange (customer : Nat) (oid : String) (templateIds : List Nat)
    (order : Refund.SaleOrder) (s : ExchangeDb) : Prop where
  found : s.orderByOid oid = some order
  sent : isSent order.status = true
  flag : (s.columns order.id).exchange = false
  number : oid ≠ ""
  row : ∀ row ∈ s.exchangeSaleOrders, row.uniKey = oid → row.orderOid = oid
  record : ¬ RecordTaken s.coupon oid
  log : ∀ log ∈ s.wallet.budgetLogs, log.uniKey ≠ some oid
  account : customer ∈ s.wallet.customers
  charged : (s.coupon.chargedMama customer).isSome
  templates : ∀ templateId ∈ templateIds, s.coupon.templates.contains templateId = true

section Law

variable (now : Nat) (today : Date) (customer : Nat) (oid : String) (templateIds : List Nat)
  (couponNum : Nat) (exchgPayment : ExchgPayment) (s : ExchangeDb)

/-- What a successful exchange leaves: so many unused coupons of the templates are used for
the order, one record accounts for them, the wallet has one more log with its amount, and the
order is not exchanged again. -/
structure Exchanged (s' : ExchangeDb) : Prop where
  used : ∃ ids : List Nat, ids.Nodup ∧ ids.length = couponNum ∧
    (∀ id ∈ ids, ∃ coupon ∈ unusedOver s.coupon customer templateIds, coupon.id = id) ∧
      ∀ n, s'.coupon.userCoupons.get? n = (s.coupon.userCoupons.get? n).map (usedFor oid ids)
  recorded : ∃ record, s'.coupon.transferRecords = s.coupon.transferRecords.insert record ∧
    record.transferType = .outExchgSaleorder ∧ record.orderNo = oid ∧
      record.couponNum = couponNum
  credited : ∃ log, s'.wallet.budgetLogs = s.wallet.budgetLogs.insert log ∧
    log.customerId = customer ∧ log.budgetType = .budgetIn ∧ log.budgetLogType = .exchgOrder ∧
      s'.wallet.budget customer .amount = s.wallet.budget customer .amount + log.flowAmount
  rejected : ∀ now today customer templateIds couponNum exchgPayment,
    ∃ e, (couponExchangeSaleorder now today customer oid templateIds couponNum
      exchgPayment).run s' = (.error e, s')

/-- An exchange goes through exactly when there are enough unused coupons, as a whole, and
otherwise has no effect. -/
structure AllOrNothing : Prop where
  succeeds : (∃ s', (couponExchangeSaleorder now today customer oid templateIds couponNum
      exchgPayment).run s = (.ok (), s')) ↔
    couponNum ≤ (unusedOver s.coupon customer templateIds).length
  success : ∀ s', (couponExchangeSaleorder now today customer oid templateIds couponNum
      exchgPayment).run s = (.ok (), s') →
    Exchanged customer oid templateIds couponNum s s'
  failure : ∀ e s', (couponExchangeSaleorder now today customer oid templateIds couponNum
      exchgPayment).run s = (.error e, s') → s' = s

/-- No amount is posted, and the first template of which there are unused coupons has enough
of them, in date. -/
structure Exchangeable : Prop where
  payment : exchgPayment ≠ .text
  enough : couponNum ≤ (firstUnused s.coupon customer templateIds).length
  inDate : ∀ coupon ∈ (firstUnused s.coupon customer templateIds).take couponNum,
    now ≤ coupon.expiresTime

end Law

section Proofs

variable {now : Nat} {today : Date} {customer : Nat} {oid : String} {templateIds : List Nat}
  {couponNum : Nat} {exchgPayment : ExchgPayment} {order : Refund.SaleOrder}
  {s s' : ExchangeDb}

theorem given_coupons {s c1 : CouponDb} (hc1 : c1.userCoupons = s.userCoupons)
    (templateIds : List Nat) (couponNum : Nat) :
    (∀ coupon ∈ (firstUnused s customer templateIds).take couponNum,
        coupon ∈ c1.userCoupons ∧ coupon.status = .unused) ∧
      (((firstUnused s customer templateIds).take couponNum).map UserCoupon.id).Nodup := by
  refine ⟨fun coupon hcoupon => ?_, ?_⟩
  · obtain ⟨hmem, -, -, hunused⟩ := mem_firstUnused (List.mem_of_mem_take hcoupon)
    exact ⟨hc1 ▸ hmem, hunused⟩
  · exact (firstUnused_nodup templateIds).sublist ((List.take_sublist _ _).map _)

theorem Went.exchangeable (h : Went now today customer oid order templateIds couponNum
    exchgPayment s s') : Exchangeable now customer templateIds couponNum exchgPayment s := by
  obtain ⟨t, columns, c1, c2, amount, log, w, -, -, hgive, huse, hamount, -⟩ := h.gathered
  obtain ⟨-, hsame, -⟩ := giveCoupons_ok hgive
  obtain ⟨hrows, hnodup⟩ := given_coupons hsame templateIds couponNum
  refine ⟨?_, h.enough.2, ?_⟩
  · intro htext
    rw [htext] at hamount
    cases hamount
  · obtain ⟨hiff, -⟩ := @useCouponByIds_run now oid _ c1 (fun c hc => (hrows c hc).1)
      (fun c hc => (hrows c hc).2) hnodup
    exact hiff.1 ⟨c2, huse⟩

theorem Went.exchanged (h : Went now today customer oid order templateIds couponNum
    exchgPayment s s') : Exchanged customer oid templateIds couponNum s s' := by
  obtain ⟨t, columns, c1, c2, amount, log, w, -, -, hgive, huse, -, hcreate, rfl⟩ := h.gathered
  obtain ⟨hpos, henough⟩ := h.enough
  obtain ⟨-, hsame, hrecord⟩ := giveCoupons_ok hgive
  obtain ⟨hrows, hnodup⟩ := given_coupons hsame templateIds couponNum
  have hlength : (((firstUnused s.coupon customer templateIds).take couponNum).map
      UserCoupon.id).length = couponNum := by
    rw [List.length_map, List.length_take]
    exact min_eq_left henough
  have hne : ((firstUnused s.coupon customer templateIds).take couponNum).map
      UserCoupon.id ≠ [] := by
    intro hnil
    rw [hnil] at hlength
    exact hpos.ne hlength
  obtain ⟨-, mama, templateId, hrecords⟩ := hrecord hne
  obtain ⟨-, hused⟩ := @useCouponByIds_run now oid _ c1 (fun c hc => (hrows c hc).1)
    (fun c hc => (hrows c hc).2) hnodup
  obtain ⟨hkept, hcoupons⟩ := hused c2 huse
  rw [hsame] at hcoupons
  have hrecords' : c2.transferRecords = s.coupon.transferRecords.insert
      (exchgRecord today mama couponNum oid templateId) := by
    rw [hkept, hrecords, hlength]
  refine ⟨⟨_, hnodup, hlength, fun id hid => ?_, hcoupons⟩, ⟨_, hrecords', rfl, rfl, rfl⟩, ?_, ?_⟩
  · obtain ⟨coupon, hcoupon, rfl⟩ := List.mem_map.1 hid
    obtain ⟨hmem, hcoupon⟩ := mem_firstUnused (List.mem_of_mem_take hcoupon)
    exact ⟨coupon, List.mem_filter.2 ⟨hmem, decide_eq_true hcoupon⟩, rfl⟩
  · rw [BudgetLog.create_run] at hcreate
    split at hcreate
    · cases congrArg Prod.fst hcreate
    · obtain rfl := congrArg Prod.snd hcreate
      refine ⟨_, rfl, rfl, rfl, rfl, ?_⟩
      exact congrFun (WalletDb.budget_post s.wallet customer _ _) .amount
  · intro now' today' customer' templateIds' couponNum' exchgPayment'
    have hmem : s.coupon.transferRecords.stored (exchgRecord today mama couponNum oid templateId) ∈
        c2.transferRecords := hrecords' ▸ Table.mem_insert.2 (.inr rfl)
    exact couponExchangeSaleorder_taken ⟨_, hmem, rfl⟩

theorem exchgAmount_ok (hpayment : exchgPayment ≠ .text) (row : Option ExchangeSaleOrder)
    (price couponNum : Nat) : ∃ amount, exchgAmount exchgPayment row price couponNum =
      .ok amount := by
  unfold exchgAmount
  split
  · exact absurd rfl hpayment
  · exact ⟨_, rfl⟩
  · split
    · exact ⟨_, rfl⟩
    · split <;> exact ⟨_, rfl⟩

theorem exchgArgs_createKey {w : WalletDb} (today : Date) (customer amount orderId : Nat)
    (hoid : oid ≠ "") :
    BudgetLog.createKey w today (exchgArgs customer amount orderId oid) = oid := by
  have hkept : (some oid).filter (fun key => decide (key ≠ "")) = some oid := by
    simp [Option.filter, hoid]
  unfold BudgetLog.createKey exchgArgs
  dsimp only
  rw [hkept]

theorem MayExchange.create (h : MayExchange customer oid templateIds order s) (amount : Nat) :
    ∃ log w, (BudgetLog.create today (exchgArgs customer amount order.id oid)).run s.wallet =
      (.ok log, w) := by
  have hkey : BudgetLog.createKey s.wallet today (exchgArgs customer amount order.id oid) =
      oid := exchgArgs_createKey today customer amount order.id h.number
  have hfree : s.wallet.keyTaken (some oid) = false := by
    unfold WalletDb.keyTaken
    simp only [Option.isSome_some, Bool.true_and, List.any_eq_false, decide_eq_true_eq]
    exact h.log
  have herror : BudgetLog.createError s.wallet today
      (exchgArgs customer amount order.id oid) = none := by
    unfold BudgetLog.createError
    rw [hkey, hfree]
    change (if customer ∉ s.wallet.customers then _ else
      if Status.confirmed = Status.canceled then _ else if false = true then _ else none) = none
    rw [if_neg (not_not.2 h.account), if_neg (by decide), if_neg (by decide)]
  rw [BudgetLog.create_run, herror]
  exact ⟨_, _, rfl⟩

theorem MayExchange.run (h : MayExchange customer oid templateIds order s) (hpos : 0 < couponNum)
    (hexch : Exchangeable now customer templateIds couponNum exchgPayment s) :
    ∃ s', (couponExchangeSaleorder now today customer oid templateIds couponNum
      exchgPayment).run s = (.ok (), s') := by
  obtain ⟨mama, hmama⟩ := Option.isSome_iff_exists.1 h.charged
  obtain ⟨s1, hmark⟩ := markExchanged_run h.row
  obtain ⟨t, rfl, -⟩ := markExchanged_ok hmark
  obtain ⟨columns, hinit, hsame⟩ := initReturnNum_run order.id order.num
    { s with exchangeSaleOrders := t }
  obtain ⟨c1, hgive⟩ := @giveCoupons_run today customer oid mama templateIds couponNum s.coupon
    h.record hmama h.templates hpos hexch.enough
  obtain ⟨-, hcoupons, -⟩ := giveCoupons_ok hgive
  obtain ⟨hrows, hnodup⟩ := given_coupons hcoupons templateIds couponNum
  obtain ⟨hiff, -⟩ := @useCouponByIds_run now oid _ c1 (fun c hc => (hrows c hc).1)
    (fun c hc => (hrows c hc).2) hnodup
  obtain ⟨c2, huse⟩ := hiff.2 hexch.inDate
  obtain ⟨amount, hamount⟩ := exchgAmount_ok hexch.payment (s.exchangeSaleOrder oid)
    (s.columns order.id).price couponNum
  have hnew : ∃ log w, (BudgetLog.create today (exchgArgs customer amount order.id oid)).run
      s.wallet = (.ok log, w) := h.create amount
  obtain ⟨log, w, hcreate⟩ := hnew
  have hnum : (((firstUnused s.coupon customer templateIds).take couponNum).map
      UserCoupon.id).length = couponNum := by
    rw [List.length_map, List.length_take]
    exact min_eq_left hexch.enough
  have hsome : ((firstUnused s.coupon customer templateIds).take couponNum).map
      UserCoupon.id ≠ [] := by
    intro hnil
    rw [hnil] at hnum
    exact hpos.ne hnum
  have hprice : (columns order.id).price = (s.columns order.id).price := (hsame order.id).2.1
  refine ⟨setWallet w (setCoupon c2 { s with exchangeSaleOrders := t, columns := columns }), ?_⟩
  refine bind_eq_ok.2 ⟨s.exchangeSaleOrder oid, s, rfl, ?_⟩
  refine bind_eq_ok.2 ⟨order, s, getOr_eq_ok.2 ⟨h.found, rfl⟩, ?_⟩
  refine bind_eq_ok.2 ⟨(), s, raiseIf_eq_ok.2 ⟨by simp [h.sent], rfl⟩, ?_⟩
  refine bind_eq_ok.2 ⟨_, s, rfl, ?_⟩
  refine bind_eq_ok.2 ⟨(), s, raiseIf_eq_ok.2 ⟨by simp [h.flag], rfl⟩, ?_⟩
  refine atomic_ok (bind_eq_ok.2 ⟨(), _, hmark, ?_⟩)
  refine bind_eq_ok.2 ⟨(), _, hinit, ?_⟩
  refine bind_eq_ok.2 ⟨_, _, zoom_eq_ok.2 ⟨c1, hgive, rfl⟩, ?_⟩
  refine bind_eq_ok.2 ⟨(), _, raiseIf_eq_ok.2 ⟨not_not.2 hnum, rfl⟩, ?_⟩
  refine bind_eq_ok.2 ⟨(), _, zoom_eq_ok.2 ⟨c2, huse, rfl⟩, ?_⟩
  refine bind_eq_ok.2 ⟨(), _, raiseIf_eq_ok.2 ⟨hsome, rfl⟩, ?_⟩
  refine bind_eq_ok.2 ⟨(columns order.id).price, _, rfl, ?_⟩
  rw [hprice]
  refine bind_eq_ok.2 ⟨amount, _, ofExcept_eq_ok.2 ⟨hamount, rfl⟩, ?_⟩
  exact bind_eq_ok.2 ⟨log, _, zoom_eq_ok.2 ⟨w, hcreate, rfl⟩, rfl⟩

/-- Of an order that may be exchanged: the exchange is all or nothing, and goes through
whenever there are enough coupons, exactly when those of the first template with some are
enough wherever all together are. -/
theorem exchange_all_or_nothing_iff (now : Nat) (today : Date) (customer : Nat) (oid : String)
    (templateIds : List Nat) (couponNum : Nat) (exchgPayment : ExchgPayment)
    (order : Refund.SaleOrder) (s : ExchangeDb)
    (hmay : MayExchange customer oid templateIds order s) (hpos : 1 ≤ couponNum)
    (hle : couponNum ≤ order.num) :
    AllOrNothing now today customer oid templateIds couponNum exchgPayment s ↔
      (unusedOver s.coupon customer templateIds).length < couponNum ∨
        Exchangeable now customer templateIds couponNum exchgPayment s := by
  have hiff : (∃ s', (couponExchangeSaleorder now today customer oid templateIds couponNum
      exchgPayment).run s = (.ok (), s')) ↔
        Exchangeable now customer templateIds couponNum exchgPayment s := by
    constructor
    · rintro ⟨s', hrun⟩
      obtain ⟨order', -, -, -, hwent⟩ := couponExchangeSaleorder_ok hrun
      exact hwent.exchangeable
    · exact hmay.run hpos
  constructor
  · intro hall
    by_cases hfew : (unusedOver s.coupon customer templateIds).length < couponNum
    · exact .inl hfew
    · exact .inr (hiff.1 (hall.succeeds.2 (not_lt.1 hfew)))
  · intro hguard
    refine ⟨?_, fun s' hrun => ?_, fun e s' => couponExchangeSaleorder_error⟩
    · rw [hiff]
      constructor
      · intro hexch
        exact hexch.enough.trans (firstUnused_length_le templateIds)
      · intro henough
        exact hguard.resolve_left (not_lt.2 henough)
    · obtain ⟨order', -, -, -, hwent⟩ := couponExchangeSaleorder_ok hrun
      exact hwent.exchanged

end Proofs

/-- A mama has one coupon of each of two interchangeable templates, and a customer of hers
has been sent two pieces. -/
def twoTemplates : ExchangeDb where
  refund := ⟨⟨[⟨3, 1, 2, 19800, 2, .waitBuyerConfirmGoods, .noRefund, none, 0⟩], by decide⟩,
    Table.empty, ⟨[1, 2], fun _ => none, Table.empty⟩, []⟩
  columns := fun _ => ⟨"xo1701015ab", 9900, false, none, [7, 8]⟩
  refundNo := fun _ => "RF170102"
  coupon := {
    userCoupons := ⟨[⟨1, 7, .transfer, 1, none, 100, "7_8_1_1", .unused, none, none, none, false⟩,
      ⟨2, 8, .transfer, 1, none, 100, "8_8_2_1", .unused, none, none, none, false⟩], by decide⟩
    transferRecords := Table.empty
    details := []
    templates := [7, 8]
    openMama := fun _ => some 11
    chargedMama := fun _ => some 11 }
  coin := ⟨fun _ => none, Table.empty⟩
  exchangeSaleOrders := Table.empty
  orderCarries := []
  mamas := fun _ => some ⟨true, .direct, some 1, some 1⟩
  normalCustomers := [1, 2]
  paidOut := []

def twoPieces : Refund.SaleOrder :=
  ⟨3, 1, 2, 19800, 2, .waitBuyerConfirmGoods, .noRefund, none, 0⟩

theorem twoTemplates_may : MayExchange 1 "xo1701015ab" [7, 8] twoPieces twoTemplates := by
  refine ⟨by decide, rfl, rfl, by decide, fun row hrow => ?_, ?_, fun log hlog => ?_,
    by decide, rfl, by decide⟩
  · cases hrow
  · rintro ⟨record, hrecord, -⟩
    cases hrecord
  · cases hlog

theorem exchange_one :
    AllOrNothing 50 ⟨"2017-01-02"⟩ 1 "xo1701015ab" [7, 8] 1 .none twoTemplates :=
  (exchange_all_or_nothing_iff 50 ⟨"2017-01-02"⟩ 1 "xo1701015ab" [7, 8] 1 .none twoPieces
    twoTemplates twoTemplates_may (by decide) (by decide)).2
      (.inr ⟨by decide, by decide, by decide⟩)

/-- There are two coupons for two pieces; the record of the second has the key of the
first. -/
theorem exchange_two_fail :
    MayExchange 1 "xo1701015ab" [7, 8] twoPieces twoTemplates ∧
      ¬ AllOrNothing 50 ⟨"2017-01-02"⟩ 1 "xo1701015ab" [7, 8] 2 .none twoTemplates := by
  refine ⟨twoTemplates_may, fun hall => ?_⟩
  obtain ⟨s', hrun⟩ := hall.succeeds.2 (by decide)
  have herror : ((couponExchangeSaleorder 50 ⟨"2017-01-02"⟩ 1 "xo1701015ab" [7, 8] 2
      .none).run twoTemplates).1 = .error .integrityError := by rfl
  rw [hrun] at herror
  cases herror

end ShopManager.Coupon
