import ShopManager.Coupon.Transfer.Delivery
import ShopManager.Library.Key

/-!
# Requests along the referral chain

A request is answered from the stock of the mama above or passed on to the mama above
her.  Passed on, it waits for the request that was made for it: as long as that one
exists, no request is left behind.
-/

namespace ShopManager.Coupon

open Library Library.Tx Library.Execution Pay Pay.Wallet ExchangeDb CouponDb Relation

/-! ## Operations -/

inductive TransferOp where
  | startTransfer (today : Date) (customer couponNum : Nat) (template : Option Nat)
  | processCoupon (today : Date) (customer pk : Nat)
  | transferCoupon (customer pk : Nat)
  | cancelCoupon (customer pk : Nat)

namespace TransferOp

def exec (referals : Referals) (op : TransferOp) (s : ExchangeDb) : ExchangeDb :=
  match op with
  | startTransfer today customer couponNum template =>
      ((CouponTransferRecordViewSet.startTransfer referals today customer couponNum template).run
        s).2
  | processCoupon today customer pk =>
      ((CouponTransferRecordViewSet.processCoupon referals today customer pk).run s).2
  | transferCoupon customer pk =>
      ((CouponTransferRecordViewSet.transferCoupon referals customer pk).run s).2
  | cancelCoupon customer pk => ((CouponTransferRecordViewSet.cancelCoupon customer pk).run s).2

end TransferOp

/-- `upper` is the mama who recommended `lower`. -/
def Referals.Up (referals : Referals) (lower upper : Nat) : Prop :=
  referals.getReferalFromMamaId lower = some upper

def Referals.Acyclic (referals : Referals) : Prop := ∀ mama, ¬ TransGen referals.Up mama mama

def CouponTransferRecord.IsRequest (record : CouponTransferRecord) : Prop :=
  record.transferType = .outTransfer

def Link (s : CouponDb) (orderNo : String) (lower upper : Nat) : Prop :=
  ∃ record ∈ s.transferRecords, record.IsRequest ∧ record.orderNo = orderNo ∧
    record.couponToMamaId = lower ∧ record.couponFromMamaId = upper

/-- The request `upper` is for the same order and further up. -/
def Above (s : CouponDb) (record upper : CouponTransferRecord) : Prop :=
  upper.IsRequest ∧ upper.orderNo = record.orderNo ∧
    ReflTransGen (Link s record.orderNo) record.couponFromMamaId upper.couponToMamaId

def NoneStranded (s : CouponDb) : Prop :=
  ∀ record ∈ s.transferRecords, record.IsRequest → record.transferStatus = .processed →
    ∃ upper ∈ s.transferRecords, Above s record upper ∧
      (upper.transferStatus = .pending ∨ upper.transferStatus = .delivered)

/-- Every request is to the mama above, climbs from the mama who asked first and is
numbered under her. -/
structure Rising (referals : Referals) (s : CouponDb) : Prop where
  up : ∀ record ∈ s.transferRecords, record.IsRequest →
    referals.Up record.couponToMamaId record.couponFromMamaId
  climbs : ∀ record ∈ s.transferRecords, record.IsRequest →
    ReflTransGen referals.Up record.initFromMamaId record.couponToMamaId
  numbered : ∀ record ∈ s.transferRecords, record.IsRequest →
    ∃ rest, record.orderNo = toString record.initFromMamaId ++ ("-" ++ rest)

/-! ## Changes of status -/

/-- The records are the same but for their status, which is `status` of the old one. -/
def Restated (status : CouponTransferRecord → TransferStatus) (s s' : CouponDb) : Prop :=
  ∀ record', record' ∈ s'.transferRecords ↔
    ∃ record ∈ s.transferRecords, record' = { record with transferStatus := status record }

variable {record : CouponTransferRecord}

section Restated

variable {referals : Referals} {status : CouponTransferRecord → TransferStatus}
  {s s' : CouponDb}

theorem Restated.mem (h : Restated status s s') (hrecord : record ∈ s.transferRecords) :
    { record with transferStatus := status record } ∈ s'.transferRecords :=
  (h _).2 ⟨record, hrecord, rfl⟩

theorem Restated.rising (h : Restated status s s') (hs : Rising referals s) :
    Rising referals s' := by
  refine ⟨?_, ?_, ?_⟩
  · intro record' hrecord' hrequest
    obtain ⟨record, hrecord, rfl⟩ := (h record').1 hrecord'
    exact hs.up record hrecord hrequest
  · intro record' hrecord' hrequest
    obtain ⟨record, hrecord, rfl⟩ := (h record').1 hrecord'
    exact hs.climbs record hrecord hrequest
  · intro record' hrecord' hrequest
    obtain ⟨record, hrecord, rfl⟩ := (h record').1 hrecord'
    exact hs.numbered record hrecord hrequest

theorem Restated.above (h : Restated status s s') {upper : CouponTransferRecord}
    (habove : Above s record upper) :
    Above s' { record with transferStatus := status record }
      { upper with transferStatus := status upper } := by
  obtain ⟨hrequest, horder, hclimb⟩ := habove
  refine ⟨hrequest, horder, ReflTransGen.mono (fun lower higher hlink => ?_) _ _ hclimb⟩
  obtain ⟨r, hr, hrrequest, hrorder, hlower, hhigher⟩ := hlink
  exact ⟨_, h.mem hr, hrrequest, hrorder, hlower, hhigher⟩

theorem restated_update (p : CouponTransferRecord → Bool) (new : TransferStatus) :
    Restated (fun record => if p record then new else record.transferStatus) s
      { s with transferRecords := s.transferRecords.update p fun record =>
        { record with transferStatus := new } } := by
  intro record'
  show record' ∈ s.transferRecords.update p _ ↔ _
  rw [Table.mem_update]
  constructor
  · rintro (⟨record, hrecord, hp, rfl⟩ | ⟨hrecord, hp⟩)
    · refine ⟨record, hrecord, ?_⟩
      simp only [if_pos hp]
      rfl
    · refine ⟨record', hrecord, ?_⟩
      simp [hp]
  · rintro ⟨record, hrecord, rfl⟩
    by_cases hp : p record = true
    · left
      refine ⟨record, hrecord, hp, ?_⟩
      simp only [if_pos hp]
      rfl
    · right
      simp only [if_neg hp]
      exact ⟨hrecord, by simpa using hp⟩

theorem restated_save (hrecord : record ∈ s.transferRecords) (new : TransferStatus) :
    Restated (fun r => if r.id = record.id then new else r.transferStatus) s
      { s with transferRecords := s.transferRecords.save { record with transferStatus := new } } := by
  intro record'
  show record' ∈ s.transferRecords.save _ ↔ _
  constructor
  · intro h
    rcases Table.mem_save h with rfl | ⟨hmem, hne⟩
    · refine ⟨record, hrecord, ?_⟩
      simp
    · have hid : ¬ record'.id = record.id := hne
      refine ⟨record', hmem, ?_⟩
      simp only [if_neg hid]
  · rintro ⟨r, hr, rfl⟩
    refine Table.mem_update.2 ?_
    by_cases hid : r.id = record.id
    · left
      have heq : r = record := Table.pk_inj hr hrecord hid
      refine ⟨r, hr, decide_eq_true hid, ?_⟩
      simp only [heq]
      rfl
    · right
      simp only [if_neg hid]
      exact ⟨hr, decide_eq_false hid⟩

end Restated

theorem NoneStranded.delivered {s : CouponDb} (hs : NoneStranded s) (orderNo : String) :
    NoneStranded (s.withOrderDelivered orderNo) := by
  have hrestated := restated_update (s := s) (fun record => record.orderNo = orderNo) .delivered
  intro record' hrecord' hrequest hprocessed
  obtain ⟨record, hrecord, rfl⟩ := (hrestated record').1 hrecord'
  have hother : ¬ record.orderNo = orderNo := by
    intro heq
    simp [heq] at hprocessed
  have hold : record.transferStatus = .processed := by simpa [hother] using hprocessed
  obtain ⟨upper, hupper, habove, hstatus⟩ := hs record hrecord hrequest hold
  refine ⟨_, hrestated.mem hupper, hrestated.above habove, ?_⟩
  have hupperOther : ¬ upper.orderNo = orderNo := by
    rw [habove.2.1]
    exact hother
  simpa [hupperOther] using hstatus

section Insert

variable {referals : Referals} {s : CouponDb} {new : CouponTransferRecord}

theorem Link.insert {orderNo : String} {lower upper : Nat} (h : Link s orderNo lower upper) :
    Link { s with transferRecords := s.transferRecords.insert new } orderNo lower upper := by
  obtain ⟨record, hrecord, h⟩ := h
  exact ⟨record, Table.mem_insert.2 (Or.inl hrecord), h⟩

theorem Above.insert (new : CouponTransferRecord) {upper : CouponTransferRecord}
    (h : Above s record upper) : Above { s with transferRecords := s.transferRecords.insert new } record upper :=
  ⟨h.1, h.2.1, ReflTransGen.mono (fun _ _ hlink => hlink.insert) _ _ h.2.2⟩

theorem NoneStranded.insert (hs : NoneStranded s) (hnew : new.transferStatus = .pending) :
    NoneStranded { s with transferRecords := s.transferRecords.insert new } := by
  intro record hrecord hrequest hprocessed
  rcases Table.mem_insert.1 hrecord with hold | rfl
  · obtain ⟨upper, hupper, habove, hstatus⟩ := hs record hold hrequest hprocessed
    exact ⟨upper, Table.mem_insert.2 (Or.inl hupper), habove.insert new, hstatus⟩
  · have hpending : (s.transferRecords.stored new).transferStatus = .pending := hnew
    rw [hpending] at hprocessed
    exact absurd hprocessed (by decide)

theorem Rising.insert (hs : Rising referals s)
    (hup : referals.Up new.couponToMamaId new.couponFromMamaId)
    (hclimbs : ReflTransGen referals.Up new.initFromMamaId new.couponToMamaId)
    (hnumbered : ∃ rest, new.orderNo = toString new.initFromMamaId ++ ("-" ++ rest)) :
    Rising referals { s with transferRecords := s.transferRecords.insert new } := by
  refine ⟨?_, ?_, ?_⟩
  · intro record hrecord hrequest
    rcases Table.mem_insert.1 hrecord with hold | rfl
    · exact hs.up record hold hrequest
    · exact hup
  · intro record hrecord hrequest
    rcases Table.mem_insert.1 hrecord with hold | rfl
    · exact hs.climbs record hold hrequest
    · exact hclimbs
  · intro record hrecord hrequest
    rcases Table.mem_insert.1 hrecord with hold | rfl
    · exact hs.numbered record hold hrequest
    · exact hnumbered

theorem Rising.init_unique (hs : Rising referals s) {other : CouponTransferRecord}
    (hrecord : record ∈ s.transferRecords) (hother : other ∈ s.transferRecords)
    (hrequest : record.IsRequest) (hrequest' : other.IsRequest)
    (horder : other.orderNo = record.orderNo) : other.initFromMamaId = record.initFromMamaId := by
  obtain ⟨rest, hrest⟩ := hs.numbered record hrecord hrequest
  obtain ⟨rest', hrest'⟩ := hs.numbered other hother hrequest'
  rw [hrest, hrest'] at horder
  have hfields := (Key.field_inj "-" rfl (Key.free_toString (by decide) _)
    (Key.free_toString (by decide) _)).1 horder
  exact Key.toString_inj.1 hfields.1

theorem Rising.link_up (hs : Rising referals s) {orderNo : String} {lower upper : Nat}
    (h : Link s orderNo lower upper) : referals.Up lower upper := by
  obtain ⟨record, hrecord, hrequest, -, rfl, rfl⟩ := h
  exact hs.up record hrecord hrequest

theorem Rising.not_first (hs : Rising referals s) (hacyclic : referals.Acyclic)
    {upper : CouponTransferRecord} (hrecord : record ∈ s.transferRecords)
    (hupper : upper ∈ s.transferRecords) (hrequest : record.IsRequest)
    (habove : Above s record upper) : upper.couponToMamaId ≠ upper.initFromMamaId := by
  intro heq
  obtain ⟨hrequest', horder, hclimb⟩ := habove
  have hinit := hs.init_unique hrecord hupper hrequest hrequest' horder
  have hto : ReflTransGen referals.Up record.initFromMamaId record.couponToMamaId :=
    hs.climbs record hrecord hrequest
  have hfrom : TransGen referals.Up record.initFromMamaId record.couponFromMamaId :=
    TransGen.tail' hto (hs.up record hrecord hrequest)
  have hback : ReflTransGen referals.Up record.couponFromMamaId record.initFromMamaId := by
    rw [← hinit, ← heq]
    exact ReflTransGen.mono (fun _ _ hlink => hs.link_up hlink) _ _ hclimb
  exact hacyclic _ (hfrom.trans_left hback)

end Insert

theorem NoneStranded.canceled {referals : Referals} {s : CouponDb} (hs : NoneStranded s)
    (hacyclic : referals.Acyclic) (hrising : Rising referals s)
    (hrecord : record ∈ s.transferRecords)
    (hfirst : record.IsRequest → record.couponToMamaId = record.initFromMamaId) :
    NoneStranded { s with
      transferRecords := s.transferRecords.save { record with transferStatus := .canceled } } := by
  have hrestated := restated_save hrecord .canceled
  intro lower' hlower' hrequest hprocessed
  obtain ⟨lower, hlower, rfl⟩ := (hrestated lower').1 hlower'
  have hother : ¬ lower.id = record.id := by
    intro heq
    simp [heq] at hprocessed
  have hold : lower.transferStatus = .processed := by simpa [hother] using hprocessed
  obtain ⟨upper, hupper, habove, hstatus⟩ := hs lower hlower hrequest hold
  refine ⟨_, hrestated.mem hupper, hrestated.above habove, ?_⟩
  have hne : ¬ upper.id = record.id := by
    intro heq
    have hsame : upper = record := Table.pk_inj hupper hrecord heq
    have hnot := hrising.not_first hacyclic hlower hupper hrequest habove
    rw [hsame] at hnot habove
    exact hnot (hfirst habove.1)
  simpa [hne] using hstatus

theorem NoneStranded.passedOn {s : CouponDb} (hs : NoneStranded s)
    {new : CouponTransferRecord} (hrecord : record ∈ s.transferRecords)
    (hrequest : record.IsRequest) (hnew : new.IsRequest) (hpending : new.transferStatus = .pending)
    (horder : new.orderNo = record.orderNo) (hto : new.couponToMamaId = record.couponFromMamaId) :
    NoneStranded { s with
      transferRecords := (s.transferRecords.save
        { record with transferStatus := .processed }).insert new } := by
  have hrestated := restated_save hrecord .processed
  intro lower' hlower' hrequest' hprocessed
  rcases Table.mem_insert.1 hlower' with hlower' | rfl
  · obtain ⟨lower, hlower, rfl⟩ := (hrestated lower').1 hlower'
    have hclosest : Above { s with
        transferRecords := (s.transferRecords.save
          { record with transferStatus := .processed }).insert new } record
        ((s.transferRecords.save { record with transferStatus := .processed }).stored new) := by
      refine ⟨hnew, horder, ?_⟩
      have hsame : ((s.transferRecords.save
        { record with transferStatus := .processed }).stored new).couponToMamaId =
          record.couponFromMamaId := hto
      rw [hsame]
    have hnewMem : (s.transferRecords.save
        { record with transferStatus := .processed }).stored new ∈
          (s.transferRecords.save { record with transferStatus := .processed }).insert new :=
      Table.mem_insert.2 (Or.inr rfl)
    by_cases hid : lower.id = record.id
    · have heq : lower = record := Table.pk_inj hlower hrecord hid
      rw [heq]
      exact ⟨_, hnewMem, hclosest, Or.inl hpending⟩
    · have hold : lower.transferStatus = .processed := by simpa [hid] using hprocessed
      obtain ⟨upper, hupper, habove, hstatus⟩ := hs lower hlower hrequest' hold
      by_cases hupperId : upper.id = record.id
      · -- the request above was this one: the new one is above it
        have heq : upper = record := Table.pk_inj hupper hrecord hupperId
        rw [heq] at habove
        have habove' := (hrestated.above habove).insert new
        refine ⟨_, hnewMem, ⟨hnew, horder.trans habove.2.1, ?_⟩, Or.inl hpending⟩
        refine habove'.2.2.trans (ReflTransGen.single ?_)
        refine ⟨_, Table.mem_insert.2 (Or.inl (hrestated.mem hrecord)), hrequest, habove.2.1,
          rfl, ?_⟩
        exact hto.symm
      · refine ⟨_, Table.mem_insert.2 (Or.inl (hrestated.mem hupper)),
          (hrestated.above habove).insert _, ?_⟩
        simpa [hupperId] using hstatus
  · have hstatus : new.transferStatus = .processed := hprocessed
    rw [hpending] at hstatus
    exact absurd hstatus (by decide)

/-! ## The request that goes up -/

def upperWithAccount (referals : Referals) (s : ExchangeDb) (mamaId : Nat) : Option Nat :=
  (referals.getReferalFromMamaId mamaId).filter fun upper =>
    (s.mamas upper).any fun mama => mama.customer.isSome

theorem upperMama_run (referals : Referals) (mamaId : Nat) (s : ExchangeDb) :
    (upperMama referals mamaId).run s = match upperWithAccount referals s mamaId with
      | some upper => (.ok upper, s)
      | none => (.error .attributeError, s) := by
  unfold upperMama upperWithAccount
  rw [getOr_bind_run]
  cases referals.getReferalFromMamaId mamaId with
  | none => rfl
  | some upper =>
    dsimp only
    rw [getOr_bind_run]
    cases hupper : s.mamas upper with
    | none =>
      rw [Option.filter_some_neg]
      simp [hupper]
    | some fromMama =>
      dsimp only
      rw [getOr_bind_run]
      cases hcustomer : fromMama.customer with
      | none =>
        rw [Option.filter_some_neg]
        simp [hupper, hcustomer]
      | some customer =>
        rw [Option.filter_some_pos]
        · rfl
        · simp [hupper, hcustomer]

/-- Can the mama pass a request of the order on: she does not buy her coupons, the mama
above has a row and an account, and the key of the new request is free. -/
def canPassOn (referals : Referals) (s : ExchangeDb) (mamaId : Nat) (orderNo : String) : Bool :=
  ((s.mamas mamaId).any fun mama => !mama.canBuyTransferCoupon) &&
    (upperWithAccount referals s mamaId).any fun upper =>
      (s.coupon.transferRecords.first fun record =>
        record.uniKey = CouponTransferRecord.genUnikeyWithOrderNo upper mamaId orderNo).isNone

theorem insert_run (record : CouponTransferRecord) {s : CouponDb}
    (hfree : (s.transferRecords.first fun r => r.uniKey = record.uniKey) = none) :
    (record.insert).run s = (.ok (s.transferRecords.stored record),
      { s with transferRecords := s.transferRecords.insert record }) := by
  unfold CouponTransferRecord.insert
  rw [gets_bind_run, raiseIf_bind_run, if_neg (by simp [hfree])]
  rfl

def ExchangeDb.withRecord (s : ExchangeDb) (record : CouponTransferRecord) : ExchangeDb :=
  s.setCoupon { s.coupon with transferRecords := s.coupon.transferRecords.insert record }

theorem inCoupon_insert_run (record : CouponTransferRecord) {s : ExchangeDb}
    (hfree : (s.coupon.transferRecords.first fun r => r.uniKey = record.uniKey) = none) :
    (inCoupon record.insert).run s =
      (.ok (s.coupon.transferRecords.stored record), s.withRecord record) :=
  zoom_eq_ok.2 ⟨_, insert_run record hfree, rfl⟩

def passedRequest (today : Date) (upper mamaId : Nat) (record : CouponTransferRecord) :
    CouponTransferRecord :=
  CouponTransferRecord.request today upper mamaId record.initFromMamaId record.orderNo
    record.templateId record.couponNum
    (CouponTransferRecord.genUnikeyWithOrderNo upper mamaId record.orderNo)

theorem genTransferRecord_cases (referals : Referals) (today : Date) (mamaId : Nat)
    (record : CouponTransferRecord) (s : ExchangeDb) :
    (canPassOn referals s mamaId record.orderNo = true ∧
      ∃ upper, upperWithAccount referals s mamaId = some upper ∧
        ((genTransferRecord referals today mamaId record).run s).2 =
          s.withRecord (passedRequest today upper mamaId record)) ∨
    (canPassOn referals s mamaId record.orderNo = false ∧
      ((genTransferRecord referals today mamaId record).run s).2 = s) := by
  unfold genTransferRecord canPassOn
  rw [getOr_bind_run]
  cases hmama : s.mamas mamaId with
  | none => exact Or.inr ⟨rfl, rfl⟩
  | some mama =>
    dsimp only
    cases hbuys : mama.canBuyTransferCoupon with
    | true =>
      right
      simp [hbuys]
    | false =>
      rw [if_neg (by simp), bind_run, upperMama_run]
      cases hupper : upperWithAccount referals s mamaId with
      | none =>
        right
        simp
      | some upper =>
        dsimp only
        rw [gets_bind_run]
        cases htaken : s.coupon.transferRecords.first fun r =>
            r.uniKey = CouponTransferRecord.genUnikeyWithOrderNo upper mamaId
              record.orderNo with
        | some r =>
          right
          simp [htaken]
        | none =>
          left
          refine ⟨by simp [hbuys, htaken], upper, rfl, ?_⟩
          have hinsert := inCoupon_insert_run (passedRequest today upper mamaId record)
            htaken
          rw [if_neg (by simp)]
          exact congrArg Prod.snd (bind_ok hinsert)

theorem genOrderNo_eq {s : CouponDb} {initFromMama templateId : Nat} {today : Date}
    {orderNo : String}
    (h : CouponTransferRecord.genOrderNo s initFromMama templateId today = some orderNo) :
    ∃ rest, orderNo = toString initFromMama ++ ("-" ++ rest) := by
  unfold CouponTransferRecord.genOrderNo at h
  dsimp only at h
  split at h
  · exact absurd h (by simp)
  · rw [Option.some.injEq] at h
    simp only [String.append_assoc] at h
    exact ⟨_, h.symm⟩

def IsFirstRequest (referals : Referals) (s : ExchangeDb) (record : CouponTransferRecord) : Prop :=
  upperWithAccount referals s record.couponToMamaId = some record.couponFromMamaId ∧
    record.initFromMamaId = record.couponToMamaId ∧ record.transferStatus = .pending ∧
      ∃ rest, record.orderNo = toString record.initFromMamaId ++ ("-" ++ rest)

theorem initTransferRecord_cases (referals : Referals) (today : Date)
    (toMama couponNum templateId : Nat) (s : ExchangeDb) :
    ((initTransferRecord referals today toMama couponNum templateId).run s).2 = s ∨
      ∃ record, IsFirstRequest referals s record ∧
        ((initTransferRecord referals today toMama couponNum templateId).run s).2 =
          s.withRecord record := by
  unfold initTransferRecord
  rw [getOr_bind_run]
  cases s.mamas toMama with
  | none => exact Or.inl rfl
  | some mama =>
    dsimp only
    split
    · exact Or.inl rfl
    · rw [bind_run, upperMama_run]
      cases hupper : upperWithAccount referals s toMama with
      | none => exact Or.inl rfl
      | some upper =>
        dsimp only
        simp only [gets_bind_run, raiseIf_bind_run]
        split
        · exact Or.inl rfl
        · cases CouponTransferRecord.genUnikey s.coupon upper toMama templateId today with
          | none => exact Or.inl rfl
          | some uniKey =>
            dsimp only
            rw [gets_bind_run]
            cases htaken : s.coupon.transferRecords.first fun r => r.uniKey = uniKey with
            | some r =>
              left
              rw [if_pos (by simp)]
              rfl
            | none =>
              rw [if_neg (by simp), getOr_bind_run]
              cases horder : CouponTransferRecord.genOrderNo s.coupon toMama templateId
                  today with
              | none => exact Or.inl rfl
              | some orderNo =>
                right
                refine ⟨CouponTransferRecord.request today upper toMama toMama orderNo
                  templateId couponNum uniKey,
                  ⟨hupper, rfl, rfl, genOrderNo_eq horder⟩, ?_⟩
                exact congrArg Prod.snd (bind_ok (inCoupon_insert_run _ htaken))

theorem startTransfer_cases (referals : Referals) (today : Date) (customer couponNum : Nat)
    (template : Option Nat) (s : ExchangeDb) :
    ((CouponTransferRecordViewSet.startTransfer referals today customer couponNum template).run
      s).2 = s ∨
    ∃ record, IsFirstRequest referals s record ∧
      ((CouponTransferRecordViewSet.startTransfer referals today customer couponNum template).run
        s).2 = s.withRecord record := by
  unfold CouponTransferRecordViewSet.startTransfer
  cases template with
  | none => exact Or.inl rfl
  | some templateId =>
    dsimp only
    simp only [gets_bind_run, raiseIf_bind_run]
    split
    · exact Or.inl rfl
    · cases s.coupon.chargedMama customer with
      | none => exact Or.inl rfl
      | some toMama =>
        dsimp only
        rw [gets_bind_run]
        split
        · exact Or.inl rfl
        · exact initTransferRecord_cases referals today toMama couponNum templateId s

/-! ## The answer to a request -/

def ExchangeDb.withStatus (s : ExchangeDb) (record : CouponTransferRecord)
    (status : TransferStatus) : ExchangeDb :=
  s.setCoupon { s.coupon with
    transferRecords := s.coupon.transferRecords.save { record with transferStatus := status } }

/-- What `process_coupon` may do: nothing, deliver from the stock of the mama, or pass the
request on to the mama above. -/
inductive Answered (referals : Referals) (today : Date) (customer pk : Nat)
    (s s' : ExchangeDb) : Prop
  | nothing (h : s' = s)
  | delivered (mamaId fromCustomer toCustomer : Nat) (record : CouponTransferRecord)
      (chain : List Nat) (moved : List UserCoupon)
      (hmama : s.normalChargedMama customer = some mamaId)
      (hrecord : s.coupon.transferRecords.get? pk = some record)
      (hcan : record.canProcess mamaId = true)
      (hfrom : (s.mamas mamaId).bind XiaoluMama.customer = some fromCustomer)
      (hto : s.mamaCustomer record.initFromMamaId = some toCustomer)
      (h : Delivered fromCustomer toCustomer record chain moved s.coupon s'.coupon)
  | passedOn (mamaId upper : Nat) (record : CouponTransferRecord)
      (hmama : s.normalChargedMama customer = some mamaId)
      (hrecord : s.coupon.transferRecords.get? pk = some record)
      (hcan : record.canProcess mamaId = true)
      (hupper : referals.Up mamaId upper)
      (h : s' = (s.withStatus record .processed).withRecord
        (passedRequest today upper mamaId record))

/-- The record that the mama may process and her stock does not cover, where she has no
request of her own. -/
def toPassOn (s : ExchangeDb) (customer pk : Nat) : Option (Nat × CouponTransferRecord) :=
  match s.normalChargedMama customer with
  | none => none
  | some mamaId =>
      (((s.coupon.transferRecords.get? pk).filter fun record => record.canProcess mamaId).filter
        fun record => decide (getCouponStockNum s.coupon mamaId record.templateId <
          record.couponNum) && !hasOpenRequest s.coupon mamaId record.templateId).map
            fun record => (mamaId, record)

theorem deliverFromStock_cases (referals : Referals) (mamaId : Nat)
    (record : CouponTransferRecord) (s : ExchangeDb) :
    ((deliverFromStock referals mamaId record).run s).2 = s ∨
      ∃ fromCustomer toCustomer chain coupons,
        (s.mamas mamaId).bind XiaoluMama.customer = some fromCustomer ∧
        s.mamaCustomer record.initFromMamaId = some toCustomer ∧
        ((deliverFromStock referals mamaId record).run s).2 = s.setCoupon coupons ∧
        Delivered fromCustomer toCustomer record chain (couponsFor s.coupon fromCustomer record)
          s.coupon coupons := by
  unfold deliverFromStock
  rw [getOr_bind_run]
  cases hmama : s.mamas mamaId with
  | none => exact Or.inl rfl
  | some mama =>
    dsimp only
    rw [getOr_bind_run]
    cases hcustomer : mama.customer with
    | none => exact Or.inl rfl
    | some fromCustomer =>
      dsimp only
      rw [getOr_bind_run]
      cases hinit : s.mamas record.initFromMamaId with
      | none => exact Or.inl rfl
      | some initFromMama =>
        dsimp only
        rw [getOr_bind_run]
        cases hto : initFromMama.normalCustomer with
        | none => exact Or.inl rfl
        | some toCustomer =>
          dsimp only
          rcases processTransferCoupon_cases referals fromCustomer toCustomer record s with
            hsame | ⟨initMama, chain, coupons, -, -, hrun, hdelivered⟩
          · exact Or.inl hsame
          · right
            refine ⟨fromCustomer, toCustomer, chain, coupons, ?_, ?_, ?_, hdelivered⟩
            · simp [hcustomer]
            · simp [mamaCustomer, hinit, hto]
            · rw [hrun]

theorem processCoupon_cases (referals : Referals) (today : Date) (customer pk : Nat)
    (s : ExchangeDb) :
    let s' := ((CouponTransferRecordViewSet.processCoupon referals today customer pk).run s).2
    (toPassOn s customer pk = none ∧ Answered referals today customer pk s s') ∨
      ∃ mamaId record, toPassOn s customer pk = some (mamaId, record) ∧
        s' = ((genTransferRecord referals today mamaId record).run
          (s.withStatus record .processed)).2 := by
  intro s'
  have hs' : s' =
    ((CouponTransferRecordViewSet.processCoupon referals today customer pk).run s).2 := rfl
  unfold CouponTransferRecordViewSet.processCoupon at hs'
  rw [getOr_bind_run] at hs'
  unfold toPassOn
  cases hmama : s.normalChargedMama customer with
  | none =>
    rw [hmama] at hs'
    exact Or.inl ⟨rfl, .nothing hs'⟩
  | some mamaId =>
    rw [hmama] at hs'
    dsimp only at hs'
    rw [gets_bind_run] at hs'
    cases hrecord : (s.coupon.transferRecords.get? pk).filter
        fun record => record.canProcess mamaId with
    | none =>
      rw [hrecord] at hs'
      left
      refine ⟨?_, .nothing hs'⟩
      dsimp only
      rw [hrecord]
      rfl
    | some record =>
      obtain ⟨hget, hcan⟩ := Option.filter_eq_some_iff.1 hrecord
      rw [hrecord] at hs'
      dsimp only at hs'
      rw [gets_bind_run] at hs'
      by_cases hstock : record.couponNum ≤ getCouponStockNum s.coupon mamaId record.templateId
      · rw [if_pos hstock] at hs'
        left
        constructor
        · have hnot : ¬ getCouponStockNum s.coupon mamaId record.templateId <
            record.couponNum := not_lt.2 hstock
          simp [hget, hcan, hnot]
        · rcases deliverFromStock_cases referals mamaId record s with
            hsame | ⟨fromCustomer, toCustomer, chain, coupons, hfrom, hto, hrun, hdelivered⟩
          · exact .nothing (hs'.trans hsame)
          · refine .delivered mamaId fromCustomer toCustomer record chain
              (couponsFor s.coupon fromCustomer record) hmama hget hcan hfrom hto ?_
            rw [hs', hrun]
            exact hdelivered
      · rw [if_neg hstock] at hs'
        unfold passOn at hs'
        rw [gets_bind_run] at hs'
        have hshort : getCouponStockNum s.coupon mamaId record.templateId <
          record.couponNum := not_le.1 hstock
        cases hopen : hasOpenRequest s.coupon mamaId record.templateId with
        | true =>
          rw [hopen, if_pos rfl] at hs'
          exact Or.inl ⟨by simp [hget, hcan, hopen], .nothing hs'⟩
        | false =>
          rw [hopen, if_neg (by simp)] at hs'
          right
          refine ⟨mamaId, record, by simp [hget, hcan, hopen, hshort], ?_⟩
          rw [hs']
          exact congrArg Prod.snd (bind_ok rfl)

theorem transferCoupon_cases (referals : Referals) (customer pk : Nat) (s : ExchangeDb) :
    ((CouponTransferRecordViewSet.transferCoupon referals customer pk).run s).2 = s ∨
      ∃ toCustomer record chain moved coupons,
        ((CouponTransferRecordViewSet.transferCoupon referals customer pk).run s).2 =
          s.setCoupon coupons ∧
        Delivered customer toCustomer record chain moved s.coupon coupons := by
  unfold CouponTransferRecordViewSet.transferCoupon
  rw [getOr_bind_run]
  cases s.coupon.chargedMama customer with
  | none => exact Or.inl rfl
  | some mamaId =>
    dsimp only
    rw [getOr_bind_run]
    cases s.coupon.transferRecords.get? pk with
    | none => exact Or.inl rfl
    | some record =>
      dsimp only
      rw [getOr_bind_run]
      cases s.mamas record.initFromMamaId with
      | none => exact Or.inl rfl
      | some initFromMama =>
        dsimp only
        rw [gets_bind_run]
        split
        · exact Or.inl rfl
        · unfold shipChain
          rw [getOr_bind_run]
          cases referals.getShipChain record.initFromMamaId record.couponFromMamaId with
          | none => exact Or.inl rfl
          | some chain =>
            dsimp only
            rcases deliverBought_cases mamaId customer initFromMama.normalCustomer record
              chain s with hsame | ⟨toCustomer, coupons, hrun, hdelivered⟩
            · exact Or.inl hsame
            · exact Or.inr ⟨toCustomer, record, chain, _, coupons, hrun, hdelivered⟩

theorem cancelCoupon_cases (customer pk : Nat) (s : ExchangeDb) :
    ((CouponTransferRecordViewSet.cancelCoupon customer pk).run s).2 = s ∨
      ∃ mamaId record, s.coupon.transferRecords.get? pk = some record ∧
        record.canCancel mamaId = true ∧
        ((CouponTransferRecordViewSet.cancelCoupon customer pk).run s).2 =
          s.withStatus record .canceled := by
  unfold CouponTransferRecordViewSet.cancelCoupon
  rw [getOr_bind_run]
  cases s.normalChargedMama customer with
  | none => exact Or.inl rfl
  | some mamaId =>
    dsimp only
    rw [gets_bind_run]
    cases hrecord : (s.coupon.transferRecords.get? pk).filter
        fun record => record.canCancel mamaId with
    | none => exact Or.inl rfl
    | some record =>
      obtain ⟨hget, hcan⟩ := Option.filter_eq_some_iff.1 hrecord
      exact Or.inr ⟨mamaId, record, hget, hcan, rfl⟩

/-! ## Runs -/

/-- The law of an operation: `process_coupon` delivers, passes on or does nothing. -/
def TransferOp.Lawful (referals : Referals) (s : ExchangeDb) (op : TransferOp) : Prop :=
  match op with
  | .processCoupon today customer pk => Answered referals today customer pk s (op.exec referals s)
  | _ => True

def TransferOp.strands (referals : Referals) (s : ExchangeDb) : TransferOp → Bool
  | .processCoupon _ customer pk =>
      (toPassOn s customer pk).any fun waiting =>
        !canPassOn referals s waiting.1 waiting.2.orderNo
  | _ => false

theorem toPassOn_spec {s : ExchangeDb} {customer pk mamaId : Nat}
    (h : toPassOn s customer pk = some (mamaId, record)) :
    s.normalChargedMama customer = some mamaId ∧
      s.coupon.transferRecords.get? pk = some record ∧ record.canProcess mamaId = true := by
  unfold toPassOn at h
  cases hmama : s.normalChargedMama customer with
  | none => simp [hmama] at h
  | some mama =>
    rw [hmama] at h
    obtain ⟨r, hr, heq⟩ := Option.map_eq_some_iff.1 h
    simp only [Prod.mk.injEq] at heq
    obtain ⟨rfl, rfl⟩ := heq
    obtain ⟨hfilter, -⟩ := Option.filter_eq_some_iff.1 hr
    obtain ⟨hget, hcan⟩ := Option.filter_eq_some_iff.1 hfilter
    exact ⟨rfl, hget, hcan⟩

theorem CouponTransferRecord.canProcess_iff {mamaId : Nat} :
    record.canProcess mamaId = true ↔ record.IsRequest ∧ record.transferStatus = .pending ∧
      record.couponFromMamaId = mamaId := by
  simp [CouponTransferRecord.canProcess, CouponTransferRecord.IsRequest, and_assoc]

theorem canPassOn_withStatus (referals : Referals) {s : ExchangeDb}
    (hrecord : record ∈ s.coupon.transferRecords) (status : TransferStatus) (mamaId : Nat)
    (orderNo : String) :
    canPassOn referals (s.withStatus record status) mamaId orderNo =
      canPassOn referals s mamaId orderNo := by
  have hfirst : ∀ uniKey, ((s.coupon.transferRecords.save
      { record with transferStatus := status }).first fun r => r.uniKey = uniKey).isNone =
        (s.coupon.transferRecords.first fun r => r.uniKey = uniKey).isNone := by
    intro uniKey
    have hpk : Row.pk record = Row.pk { record with transferStatus := status } := rfl
    rw [Table.first_save hrecord hpk rfl, Option.isNone_map]
  unfold canPassOn
  simp only [← hfirst]
  rfl

theorem get?_withStatus {s : ExchangeDb} {pk : Nat}
    (hget : s.coupon.transferRecords.get? pk = some record) (status : TransferStatus) :
    (s.withStatus record status).coupon.transferRecords.get? pk =
      some { record with transferStatus := status } := by
  have hid : record.id = pk := (Table.get?_eq_some.1 hget).2
  show (s.coupon.transferRecords.save { record with transferStatus := status }).get? pk = _
  have hpk : pk = Row.pk { record with transferStatus := status } := hid.symm
  rw [Table.get?_save, if_pos hpk, hget, Option.map_some]

theorem not_answered {referals : Referals} {today : Date} {customer pk : Nat} {s : ExchangeDb}
    (hget : s.coupon.transferRecords.get? pk = some record)
    (hpending : record.transferStatus = .pending) :
    ¬ Answered referals today customer pk s (s.withStatus record .processed) := by
  have hmarked := get?_withStatus hget .processed
  rintro (h | ⟨mamaId, fromCustomer, toCustomer, r, chain, moved, -, hr, -, -, -, h⟩ |
    ⟨mamaId, upper, r, -, hr, -, -, h⟩)
  · rw [h, hget, Option.some.injEq] at hmarked
    have hstatus := congrArg CouponTransferRecord.transferStatus hmarked
    rw [hpending] at hstatus
    exact absurd hstatus (by simp)
  · have heq : r = record := Option.some.inj (hr.symm.trans hget)
    obtain ⟨hmem, hid⟩ := Table.get?_eq_some.1 hmarked
    rw [h.records] at hmem
    rcases Table.mem_update.1 hmem with ⟨old, -, -, hold⟩ | ⟨-, hother⟩
    · have hstatus := congrArg CouponTransferRecord.transferStatus hold
      exact absurd hstatus (by simp [Row.withPk])
    · simp [heq] at hother
  · have hlength := congrArg (fun s => s.coupon.transferRecords.rows.length) h
    simp [ExchangeDb.withStatus, ExchangeDb.withRecord, setCoupon, Table.save, Table.update,
      Table.insert] at hlength

theorem lawful_iff (referals : Referals) (s : ExchangeDb) (op : TransferOp) :
    op.Lawful referals s ↔ op.strands referals s = false := by
  cases op with
  | startTransfer today customer couponNum template => exact iff_of_true trivial rfl
  | transferCoupon customer pk => exact iff_of_true trivial rfl
  | cancelCoupon customer pk => exact iff_of_true trivial rfl
  | processCoupon today customer pk =>
    show Answered referals today customer pk s _ ↔ (toPassOn s customer pk).any _ = false
    rcases processCoupon_cases referals today customer pk s with
      ⟨hnone, hanswered⟩ | ⟨mamaId, record, hwaits, hs'⟩
    · rw [hnone]
      exact iff_of_true hanswered rfl
    · rw [hwaits]
      obtain ⟨hmama, hget, hcan⟩ := toPassOn_spec hwaits
      obtain ⟨hrequest, hpending, hfrom⟩ := CouponTransferRecord.canProcess_iff.1 hcan
      have hmem := (Table.get?_eq_some.1 hget).1
      have hexec : TransferOp.exec referals (.processCoupon today customer pk) s =
        ((genTransferRecord referals today mamaId record).run
          (s.withStatus record .processed)).2 := hs'
      rw [hexec]
      rcases genTransferRecord_cases referals today mamaId record
        (s.withStatus record .processed) with ⟨hpass, upper, hupper, hrun⟩ | ⟨hstuck, hrun⟩
      · rw [canPassOn_withStatus referals hmem] at hpass
        refine iff_of_true ?_ (by simp [hpass])
        rw [hrun]
        exact .passedOn mamaId upper record hmama hget hcan (Option.filter_eq_some_iff.1 hupper).1 rfl
      · rw [canPassOn_withStatus referals hmem] at hstuck
        refine iff_of_false ?_ (by simp [hstuck])
        rw [hrun]
        exact not_answered hget hpending

structure Sound (referals : Referals) (s : ExchangeDb) : Prop where
  rising : Rising referals s.coupon
  noneStranded : NoneStranded s.coupon

theorem NoneStranded.congr {s s' : CouponDb} (h : s'.transferRecords = s.transferRecords)
    (hs : NoneStranded s) : NoneStranded s' := by
  unfold NoneStranded Above Link at hs ⊢
  rw [h]
  exact hs

theorem Rising.congr {referals : Referals} {s s' : CouponDb}
    (h : s'.transferRecords = s.transferRecords) (hs : Rising referals s) : Rising referals s' := by
  refine ⟨?_, ?_, ?_⟩
  · rw [h]
    exact hs.up
  · rw [h]
    exact hs.climbs
  · rw [h]
    exact hs.numbered

section Steps

variable {referals : Referals} {s : ExchangeDb}

theorem Sound.delivered (hs : Sound referals s) {customer toCustomer : Nat}
    {chain : List Nat} {moved : List UserCoupon} {s' : ExchangeDb}
    (h : Delivered customer toCustomer record chain moved s.coupon s'.coupon) :
    Sound referals s' := by
  have hrecords : s'.coupon.transferRecords =
    (s.coupon.withOrderDelivered record.orderNo).transferRecords := h.records
  refine ⟨Rising.congr hrecords ?_, NoneStranded.congr hrecords ?_⟩
  · exact (restated_update (fun r => r.orderNo = record.orderNo) .delivered).rising hs.rising
  · exact hs.noneStranded.delivered record.orderNo

theorem Sound.firstRequest (hs : Sound referals s)
    (h : IsFirstRequest referals s record) : Sound referals (s.withRecord record) := by
  obtain ⟨hupper, hinit, hpending, hnumbered⟩ := h
  have hup := (Option.filter_eq_some_iff.1 hupper).1
  refine ⟨hs.rising.insert hup ?_ hnumbered, hs.noneStranded.insert hpending⟩
  rw [hinit]

theorem Sound.passedOn (hs : Sound referals s) {today : Date} {mamaId upper : Nat}
    (hrecord : record ∈ s.coupon.transferRecords)
    (hcan : record.canProcess mamaId = true) (hup : referals.Up mamaId upper) :
    Sound referals ((s.withStatus record .processed).withRecord
      (passedRequest today upper mamaId record)) := by
  obtain ⟨hrequest, hpending, hfrom⟩ := CouponTransferRecord.canProcess_iff.1 hcan
  constructor
  · have hmarked : Rising referals (s.withStatus record .processed).coupon :=
      (restated_save hrecord .processed).rising hs.rising
    refine hmarked.insert hup ?_ (hs.rising.numbered record hrecord hrequest)
    have hstep := hs.rising.up record hrecord hrequest
    rw [hfrom] at hstep
    exact (hs.rising.climbs record hrecord hrequest).tail hstep
  · exact hs.noneStranded.passedOn hrecord hrequest rfl rfl rfl hfrom.symm

theorem Sound.canceled (hs : Sound referals s) (hacyclic : referals.Acyclic) {mamaId : Nat}
    (hrecord : record ∈ s.coupon.transferRecords) (hcan : record.canCancel mamaId = true) :
    Sound referals (s.withStatus record .canceled) := by
  refine ⟨(restated_save hrecord .canceled).rising hs.rising,
    hs.noneStranded.canceled hacyclic hs.rising hrecord fun hrequest => ?_⟩
  have htype : record.transferType = .outTransfer := hrequest
  simp [CouponTransferRecord.canCancel, htype] at hcan
  exact hcan.2.symm

theorem Sound.exec (hacyclic : referals.Acyclic) (op : TransferOp) (hs : Sound referals s)
    (hop : op.strands referals s = false) : Sound referals (op.exec referals s) := by
  cases op with
  | startTransfer today customer couponNum template =>
    show Sound referals
      ((CouponTransferRecordViewSet.startTransfer referals today customer couponNum template).run
        s).2
    rcases startTransfer_cases referals today customer couponNum template s with
      hsame | ⟨record, hfirst, hrun⟩
    · rw [hsame]
      exact hs
    · rw [hrun]
      exact hs.firstRequest hfirst
  | transferCoupon customer pk =>
    show Sound referals ((CouponTransferRecordViewSet.transferCoupon referals customer pk).run s).2
    rcases transferCoupon_cases referals customer pk s with
      hsame | ⟨toCustomer, record, chain, moved, coupons, hrun, hdelivered⟩
    · rw [hsame]
      exact hs
    · rw [hrun]
      exact hs.delivered hdelivered
  | cancelCoupon customer pk =>
    show Sound referals ((CouponTransferRecordViewSet.cancelCoupon customer pk).run s).2
    rcases cancelCoupon_cases customer pk s with hsame | ⟨mamaId, record, hget, hcan, hrun⟩
    · rw [hsame]
      exact hs
    · rw [hrun]
      exact hs.canceled hacyclic (Table.get?_eq_some.1 hget).1 hcan
  | processCoupon today customer pk =>
    have hanswered : Answered referals today customer pk s _ :=
      (lawful_iff referals s (.processCoupon today customer pk)).2 hop
    rcases hanswered with h | ⟨mamaId, fromCustomer, toCustomer, record, chain, moved, -, -, -,
      -, -, h⟩ | ⟨mamaId, upper, record, -, hget, hcan, hup, h⟩
    · rw [h]
      exact hs
    · exact hs.delivered h
    · rw [h]
      exact hs.passedOn (Table.get?_eq_some.1 hget).1 hcan hup

end Steps

/-- In an acyclic referral relation every answer delivers, passes on or does nothing, and
no request is left behind, exactly in the runs in which no request is marked as passed
on that cannot be. -/
theorem transfer_requests_iff (referals : Referals) (hacyclic : referals.Acyclic)
    (ops : List TransferOp) (s : ExchangeDb) (hs : Sound referals s) :
    (Guarded (TransferOp.exec referals) (TransferOp.Lawful referals) ops s ∧
        Throughout (TransferOp.exec referals) (fun s => NoneStranded s.coupon) ops s) ↔
      Guarded (TransferOp.exec referals) (fun s op => op.strands referals s = false) ops s := by
  constructor
  · rintro ⟨hlawful, -⟩
    exact hlawful.mono fun s op hop => (lawful_iff referals s op).1 hop
  · intro hguard
    refine ⟨hguard.mono fun s op hop => (lawful_iff referals s op).2 hop, fun done hdone => ?_⟩
    exact (throughout_of_guarded (fun s op hs hop => hs.exec hacyclic op hop) ops s hs hguard done
      hdone).noneStranded

def lineage : Referals := fun mama =>
  if mama = 12 then some ⟨11, true⟩ else if mama = 11 then some ⟨10, true⟩ else none

theorem acyclic_lineage : lineage.Acyclic := by
  have hless : ∀ lower upper, lineage.Up lower upper → upper < lower := by
    intro lower upper hup
    unfold Referals.Up Referals.getReferalFromMamaId lineage at hup
    split at hup
    · simp only [Option.map_some, Option.some.injEq] at hup
      omega
    · split at hup
      · simp only [Option.map_some, Option.some.injEq] at hup
        omega
      · simp at hup
  intro mama hcycle
  have hlt : ∀ lower upper, TransGen lineage.Up lower upper → upper < lower := by
    intro lower upper h
    induction h with
    | single hup => exact hless _ _ hup
    | tail _ hup ih => exact (hless _ _ hup).trans ih
  exact absurd (hlt mama mama hcycle) (lt_irrefl mama)

/-- Mama 10 has two coupons; mama 11 has none and was recommended as `middle` says. -/
def agency (middle : ReferalFrom) : ExchangeDb where
  refund := ⟨Table.empty, Table.empty, ⟨[1, 2, 3], fun _ => none, Table.empty⟩, []⟩
  columns := fun _ => ⟨"", 0, false, none, []⟩
  refundNo := fun _ => ""
  coupon :=
    { userCoupons :=
        (Table.empty.insert ⟨0, 7, .transfer, 3, none, 100, "7_8_1_1", .unused, none, none,
          none, false⟩).insert ⟨0, 7, .transfer, 3, none, 100, "7_8_1_2", .unused, none, none,
            none, false⟩
      transferRecords := Table.empty.insert ⟨0, 0, 10, 10, "sd1", 7, 2, .inBuyCoupon, .delivered,
        "sd1", ⟨"2017-01-01"⟩⟩
      details := []
      templates := [7]
      openMama := fun customer => some (13 - customer)
      chargedMama := fun customer => some (13 - customer) }
  coin := ⟨fun _ => none, Table.empty⟩
  exchangeSaleOrders := Table.empty
  orderCarries := []
  mamas := fun mama =>
    some ⟨true, if mama = 11 then middle else .indirect, some (13 - mama), some (13 - mama)⟩
  normalCustomers := [1, 2, 3]
  paidOut := []

theorem sound_agency (referals : Referals) (middle : ReferalFrom) :
    Sound referals (agency middle) := by
  have hnone : ∀ record ∈ (agency middle).coupon.transferRecords, ¬ record.IsRequest := by
    intro record hrecord
    rcases Table.mem_insert.1 hrecord with hold | rfl
    · exact absurd hold List.not_mem_nil
    · intro h
      exact absurd (show TransferType.inBuyCoupon = .outTransfer from h) (by decide)
  exact ⟨⟨fun r hr h => absurd h (hnone r hr), fun r hr h => absurd h (hnone r hr),
    fun r hr h => absurd h (hnone r hr)⟩, fun r hr h => absurd h (hnone r hr)⟩

/-- Mama 11 buys her coupons: she marks the request of mama 12 as passed on, and no
request goes up. -/
theorem request_stranded :
    lineage.Acyclic ∧ Sound lineage (agency .direct) ∧
      ¬ (Guarded (TransferOp.exec lineage) (TransferOp.Lawful lineage)
          [.startTransfer ⟨"2017-01-02"⟩ 1 1 (some 7), .processCoupon ⟨"2017-01-02"⟩ 2 2]
          (agency .direct) ∧
        Throughout (TransferOp.exec lineage) (fun s => NoneStranded s.coupon)
          [.startTransfer ⟨"2017-01-02"⟩ 1 1 (some 7), .processCoupon ⟨"2017-01-02"⟩ 2 2]
          (agency .direct)) := by
  refine ⟨acyclic_lineage, sound_agency _ _, fun h => ?_⟩
  have hstrands := (lawful_iff _ _ _).1 h.1.2.1
  exact absurd hstrands (by decide)

theorem request_climbs_and_delivers :
    Guarded (TransferOp.exec lineage) (TransferOp.Lawful lineage)
        [.startTransfer ⟨"2017-01-02"⟩ 1 1 (some 7), .processCoupon ⟨"2017-01-02"⟩ 2 2,
          .cancelCoupon 1 2, .processCoupon ⟨"2017-01-03"⟩ 3 3] (agency .indirect) ∧
      Throughout (TransferOp.exec lineage) (fun s => NoneStranded s.coupon)
        [.startTransfer ⟨"2017-01-02"⟩ 1 1 (some 7), .processCoupon ⟨"2017-01-02"⟩ 2 2,
          .cancelCoupon 1 2, .processCoupon ⟨"2017-01-03"⟩ 3 3] (agency .indirect) :=
  (transfer_requests_iff lineage acyclic_lineage _ (agency .indirect) (sound_agency _ _)).2
    (by decide)

example : ((TransferOp.processCoupon ⟨"2017-01-03"⟩ 3 3).exec lineage
    (run (TransferOp.exec lineage) [.startTransfer ⟨"2017-01-02"⟩ 1 1 (some 7),
      .processCoupon ⟨"2017-01-02"⟩ 2 2] (agency .indirect))).coupon.userCoupons.rows.map
        (fun coupon => (coupon.customerId, coupon.chain)) = [(1, some [10, 11]), (3, none)] := by
  decide

end ShopManager.Coupon
