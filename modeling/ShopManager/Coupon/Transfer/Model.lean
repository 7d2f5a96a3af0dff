import ShopManager.Coupon.Return.Model

/-!
# Transfers along the referral chain

A mama without stock asks the mama who recommended her; the request climbs until one
above has the coupons.  They go to the mama who asked first, and carry the chain of
the mamas between.
-/

namespace ShopManager.Coupon

open Library Library.Tx Pay Pay.Wallet ExchangeDb

/-! ## The referral relation -/

structure ReferalRelationship where
  referalFromMamaId : Nat
  valid : Bool
  deriving DecidableEq, Repr

/-- The relationship of each mama to the one who recommended her; the recommended mama
is a unique column. -/
abbrev Referals := Nat → Option ReferalRelationship

namespace Referals

def getReferalFromMamaId (referals : Referals) (toMama : Nat) : Option Nat :=
  (referals toMama).map ReferalRelationship.referalFromMamaId

def validUpper (referals : Referals) (toMama : Nat) : Option Nat :=
  ((referals toMama).filter ReferalRelationship.valid).map ReferalRelationship.referalFromMamaId

/-- The loop of `get_ship_chain` with `hops` rounds left.  Without a valid relationship
neither the mama nor the count changes, and it never ends: `none`. -/
def shipLoop (referals : Referals) (fromMama : Nat) : Nat → Nat → List Nat → Option (List Nat)
  | 0, _, chain => some chain
  | hops + 1, toMama, chain =>
      if toMama = fromMama then some chain
      else
        match referals.validUpper toMama with
        | none => none
        | some upper => shipLoop referals fromMama hops upper (upper :: chain)

/-- The mamas above `toMama` up to `fromMama`, the highest first. -/
def getShipChain (referals : Referals) (toMama fromMama : Nat) : Option (List Nat) :=
  shipLoop referals fromMama 10 toMama []

end Referals

def maxDailyTransfer : Nat := 60

namespace CouponTransferRecord

def canCancel (record : CouponTransferRecord) (mamaId : Nat) : Bool :=
  (record.transferType = .outTransfer && record.transferStatus = .pending &&
      record.initFromMamaId = mamaId && record.initFromMamaId = record.couponToMamaId) ||
    (record.transferType = .inReturnGoods && record.transferStatus = .pending &&
      record.couponFromMamaId = mamaId)

def canProcess (record : CouponTransferRecord) (mamaId : Nat) : Bool :=
  record.transferType = .outTransfer && record.transferStatus = .pending &&
    record.couponFromMamaId = mamaId

def genUnikeyWithOrderNo (fromMama toMama : Nat) (orderNo : String) : String :=
  toString fromMama ++ "-" ++ toString toMama ++ "-" ++ orderNo

/-- The key of the next request of the day; none where there are too many. -/
def genUnikey (s : CouponDb) (fromMama toMama templateId : Nat) (today : Date) : Option String :=
  let idx := (s.transferRecords.filter fun record =>
    record.couponFromMamaId = fromMama ∧ record.couponToMamaId = toMama ∧
      record.templateId = templateId ∧ record.dateField = today ∧
        record.transferStatus ≠ .pending).length + 1
  if maxDailyTransfer < idx then none
  else some (toString fromMama ++ "-" ++ toString toMama ++ "-" ++ toString templateId ++ "-" ++
    today.isoformat ++ "-" ++ toString idx)

def genOrderNo (s : CouponDb) (initFromMama templateId : Nat) (today : Date) : Option String :=
  let idx := (s.transferRecords.filter fun record =>
    record.initFromMamaId = initFromMama ∧ record.templateId = templateId ∧
      record.dateField = today).length + 1
  if maxDailyTransfer < idx then none
  else some (toString initFromMama ++ "-" ++ toString templateId ++ "-" ++ today.isoformat ++ "-" ++
    toString idx)

/-- A request of a mama to the mama above her. -/
def request (today : Date) (fromMama toMama initFromMama : Nat) (orderNo : String)
    (templateId : Nat) (couponNum : Int) (uniKey : String) : CouponTransferRecord where
  id := 0
  couponFromMamaId := fromMama
  couponToMamaId := toMama
  initFromMamaId := initFromMama
  orderNo := orderNo
  templateId := templateId
  couponNum := couponNum
  transferType := .outTransfer
  transferStatus := .pending
  uniKey := uniKey
  dateField := today

end CouponTransferRecord

namespace XiaoluMama

def canBuyTransferCoupon (mama : XiaoluMama) : Bool := mama.referalFrom = .direct

end XiaoluMama

/-- Does the mama herself wait for coupons of the template from above? -/
def hasOpenRequest (s : CouponDb) (mamaId templateId : Nat) : Bool :=
  (s.transferRecords.first fun record =>
    record.couponToMamaId = mamaId ∧ record.templateId = templateId ∧
      record.transferType = .outTransfer ∧
        (record.transferStatus = .pending ∨ record.transferStatus = .processed)).isSome

/-- The mama above, who must have a row and an account. -/
def upperMama (referals : Referals) (mamaId : Nat) : ExchangeTx Nat := do
  let upper ← getOr .attributeError fun _ => referals.getReferalFromMamaId mamaId
  let fromMama ← getOr .attributeError fun s => s.mamas upper
  let _ ← getOr .attributeError fun _ => fromMama.customer
  pure upper

/-- `CouponTransferRecord.init_transfer_record`, for the mama `toMama`; the answer is
the code of the source. -/
def initTransferRecord (referals : Referals) (today : Date) (toMama couponNum templateId : Nat) :
    ExchangeTx Nat := do
  let mama ← getOr .attributeError fun s => s.mamas toMama
  if mama.canBuyTransferCoupon then pure 2
  else do
    let fromMama ← upperMama referals toMama
    let uniKey ← gets fun s =>
      CouponTransferRecord.genUnikey s.coupon fromMama toMama templateId today
    let orderNo ← gets fun s => CouponTransferRecord.genOrderNo s.coupon toMama templateId today
    let template ← gets fun s => s.coupon.templates.contains templateId
    raiseIf (template = false) .attributeError
    match uniKey with
    | none => pure 2
    | some uniKey => do
        let existing ← gets fun s => s.coupon.transferRecords.first fun r => r.uniKey = uniKey
        if existing.isSome then pure 3
        else do
          -- the column may not be null
          let orderNo ← getOr .integrityError fun _ => orderNo
          let _ ← inCoupon (CouponTransferRecord.insert (CouponTransferRecord.request today
            fromMama toMama toMama orderNo templateId couponNum uniKey))
          pure 0

/-- A request is passed on to the mama above `toMama`. -/
def genTransferRecord (referals : Referals) (today : Date) (toMama : Nat)
    (reference : CouponTransferRecord) : ExchangeTx Nat := do
  let mama ← getOr .attributeError fun s => s.mamas toMama
  if mama.canBuyTransferCoupon then pure 2
  else do
    let fromMama ← upperMama referals toMama
    let uniKey := CouponTransferRecord.genUnikeyWithOrderNo fromMama toMama reference.orderNo
    let existing ← gets fun s => s.coupon.transferRecords.first fun r => r.uniKey = uniKey
    if existing.isSome then pure 3
    else do
      let _ ← inCoupon (CouponTransferRecord.insert (CouponTransferRecord.request today
        fromMama toMama reference.initFromMamaId reference.orderNo reference.templateId
        reference.couponNum uniKey))
      pure 0

/-- The coupons of the customer that may go out. -/
def transferableCoupons (s : CouponDb) (customer templateId : Nat) : List UserCoupon :=
  s.userCoupons.filter fun coupon =>
    coupon.customerId = customer ∧ coupon.couponType = .transfer ∧ coupon.status = .unused ∧
      coupon.templateId = templateId

/-- One coupon changes hands and remembers the mamas between. -/
def transferOne (toCustomer : Nat) (chain : List Nat) (coupon : UserCoupon) : CouponTx Unit :=
  UserCoupon.save
    { coupon with customerId := toCustomer, chain := some (coupon.mamaChain ++ chain) }

def transferCoupons (coupons : List UserCoupon) (toCustomer transferRecordId : Nat)
    (chain : List Nat) : CouponTx Unit := do
  forEach coupons (transferOne toCustomer chain)
  createTransferCouponDetail transferRecordId (coupons.map UserCoupon.id)

/-- Every record of the order is delivered. -/
def deliverOrder (orderNo : String) : CouponTx Unit :=
  modify fun s => { s with
    transferRecords := s.transferRecords.update (fun record => record.orderNo = orderNo)
      fun record => { record with transferStatus := .delivered } }

/-- The first of the coupons, as many as the record asks for. -/
def couponsFor (s : CouponDb) (customer : Nat) (record : CouponTransferRecord) :
    List UserCoupon :=
  (transferableCoupons s customer record.templateId).take record.couponNum.toNat

/-- A call that never ends commits nothing, like one that raises. -/
def shipChain (referals : Referals) (toMama fromMama : Nat) : ExchangeTx (List Nat) :=
  getOr (.exception "endless") fun _ => referals.getShipChain toMama fromMama

def processTransferCoupon (referals : Referals) (customer initFromCustomer : Nat)
    (record : CouponTransferRecord) : ExchangeTx Nat := do
  let count ← gets fun s => (transferableCoupons s.coupon customer record.templateId).length
  if (count : Int) < record.couponNum then pure 3
  else
    atomic do
      inCoupon (deliverOrder record.orderNo)
      let initMama ← getOr .attributeError fun s => s.coupon.openMama initFromCustomer
      let chain ← shipChain referals initMama record.couponFromMamaId
      raiseIf (record.couponNum < 0) (.assertion "Negative indexing is not supported.")
      let coupons ← gets fun s => couponsFor s.coupon customer record
      inCoupon (transferCoupons coupons initFromCustomer record.id chain)
      pure 0

def deliverFromStock (referals : Referals) (mamaId : Nat) (record : CouponTransferRecord) :
    ExchangeTx Nat := do
  let mama ← getOr .attributeError fun s => s.mamas mamaId
  let customer ← getOr .attributeError fun _ => mama.customer
  let initFromMama ← getOr .attributeError fun s => s.mamas record.initFromMamaId
  let initFromCustomer ← getOr .attributeError fun _ => initFromMama.normalCustomer
  processTransferCoupon referals customer initFromCustomer record

/-- The mama is short: her own request goes up. -/
def passOn (referals : Referals) (today : Date) (mamaId : Nat) (record : CouponTransferRecord) :
    ExchangeTx Nat := do
  let applied ← gets fun s => hasOpenRequest s.coupon mamaId record.templateId
  if applied then pure 3
  else do
    -- the status is written before it is known whether the request can go up
    setTransferStatus .processed record
    genTransferRecord referals today mamaId record

/-- The delivery of a mama who buys her coupons. -/
def deliverBought (mamaId customer : Nat) (initFromCustomer : Option Nat)
    (record : CouponTransferRecord) (chain : List Nat) : ExchangeTx Nat := do
  let mama ← getOr .attributeError fun s => s.mamas mamaId
  if (record.canProcess mamaId && mama.canBuyTransferCoupon) = false then pure 0
  else do
    let count ← gets fun s => (transferableCoupons s.coupon customer record.templateId).length
    if (count : Int) < record.couponNum then pure 3
    else
      atomic do
        inCoupon (deliverOrder record.orderNo)
        raiseIf (record.couponNum < 0) (.assertion "Negative indexing is not supported.")
        let initFromCustomer ← getOr .attributeError fun _ => initFromCustomer
        let coupons ← gets fun s => couponsFor s.coupon customer record
        inCoupon (transferCoupons coupons initFromCustomer record.id chain)
        pure 0

namespace CouponTransferRecordViewSet

/-- `template` is the template of the product asked for. -/
def startTransfer (referals : Referals) (today : Date) (customer couponNum : Nat)
    (template : Option Nat) : ExchangeTx Nat :=
  match template with
  | none => pure 2
  | some templateId => do
      let normal ← gets fun s => s.normalCustomers.contains customer
      raiseIf (normal = false) .attributeError
      let toMama ← gets fun s => s.coupon.chargedMama customer
      match toMama with
      | none => pure 4
      | some toMama => do
          let applied ← gets fun s => hasOpenRequest s.coupon toMama templateId
          if applied then pure 3
          else initTransferRecord referals today toMama couponNum templateId

def processCoupon (referals : Referals) (today : Date) (customer pk : Nat) : ExchangeTx Nat := do
  let mamaId ← getOr .attributeError fun s => s.normalChargedMama customer
  let record ← gets fun s =>
    (s.coupon.transferRecords.get? pk).filter fun record => record.canProcess mamaId
  match record with
  | none => pure 2
  | some record => do
      let stockNum ← gets fun s => getCouponStockNum s.coupon mamaId record.templateId
      if record.couponNum ≤ stockNum then deliverFromStock referals mamaId record
      else passOn referals today mamaId record

def cancelCoupon (customer pk : Nat) : ExchangeTx Unit := do
  let mamaId ← getOr .attributeError fun s => s.normalChargedMama customer
  let record ← gets fun s =>
    (s.coupon.transferRecords.get? pk).filter fun record => record.canCancel mamaId
  match record with
  | none => pure ()
  | some record => setTransferStatus .canceled record

def transferCoupon (referals : Referals) (customer pk : Nat) : ExchangeTx Nat := do
  let mamaId ← getOr .attributeError fun s => s.coupon.chargedMama customer
  let record ← getOr .attributeError fun s => s.coupon.transferRecords.get? pk
  let initFromMama ← getOr .attributeError fun s => s.mamas record.initFromMamaId
  let stockNum ← gets fun s => getCouponStockNum s.coupon mamaId record.templateId
  if stockNum < record.couponNum then pure 2
  else do
    let chain ← shipChain referals record.initFromMamaId record.couponFromMamaId
    deliverBought mamaId customer initFromMama.normalCustomer record chain

end CouponTransferRecordViewSet

end ShopManager.Coupon
