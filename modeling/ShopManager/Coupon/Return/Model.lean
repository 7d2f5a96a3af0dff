import Mathlib.Data.List.Infix
import ShopManager.Coupon.Exchange.Model

/-!
# Returns of coupons

A mama asks to give coupons back, to the mama above her or to the system.  The
coupons are frozen under the number of the request's record; the mama above agrees
or rejects, and the coupons move when the request is carried out; the system pays
for them.
-/

namespace ShopManager.Coupon

open Library Library.Tx Pay Pay.Wallet ExchangeDb

namespace UserCoupon

/-- `'gift' in self.uniq_id`. -/
def isGiftTransferCoupon (coupon : UserCoupon) : Bool :=
  decide ("gift".toList <:+: coupon.uniqId.toList)

def mamaChain (coupon : UserCoupon) : List Nat := coupon.chain.getD []

def canReturnSys (coupon : UserCoupon) : Bool :=
  coupon.isTransferCoupon && !coupon.isGiftTransferCoupon && coupon.mamaChain.isEmpty

def canReturnUpperMama (coupon : UserCoupon) : Bool :=
  coupon.isTransferCoupon && !coupon.mamaChain.isEmpty

def isCoinBuy (coupon : UserCoupon) : Bool := coupon.buyCouponType = some 1

end UserCoupon

/-- The frozen transfer coupons under the number of a record. -/
def getFreezeBoutiqueCouponsByTransfer (s : CouponDb) (transferRecordId : Nat) :
    List UserCoupon :=
  s.userCoupons.filter fun coupon =>
    coupon.status = .freeze ∧ coupon.couponType = .transfer ∧
      coupon.freezeByTransferId = some transferRecordId

def getTransferRecordById (id : Nat) : ExchangeTx CouponTransferRecord :=
  getOr .doesNotExist fun s => s.coupon.transferRecords.get? id

/-- `save(update_fields=['transfer_status', 'modified'])`. -/
def setTransferStatus (status : TransferStatus) (record : CouponTransferRecord) :
    ExchangeTx Unit :=
  inCoupon (CouponTransferRecord.save { record with transferStatus := status })

/-! ## Requests -/

/-- A request to the mama above, for the coupons that came from her. -/
def upperRecord (today : Date) (mama upperMama templateId couponNum : Nat) (uniKey : String) :
    CouponTransferRecord where
  id := 0
  couponFromMamaId := mama
  couponToMamaId := upperMama
  initFromMamaId := 0
  orderNo := uniKey
  templateId := templateId
  couponNum := couponNum
  transferType := .inReturnCoupon
  transferStatus := .pending
  uniKey := uniKey
  dateField := today

def returnUpperPrefix (upperMama templateId : Nat) : String :=
  "return-upper-" ++ toString upperMama ++ "-" ++ toString templateId ++ "-"

/-- How many requests to the mama for the template there are. -/
def returnUpperCount (s : CouponDb) (upperMama templateId : Nat) : Nat :=
  (s.transferRecords.filter fun record =>
    record.transferType = .inReturnCoupon ∧
      (returnUpperPrefix upperMama templateId).toList <:+: record.uniKey.toList).length

def applyToUpper (today : Date) (mama templateId : Nat) (upper : Nat × List Nat) :
    ExchangeTx Unit := do
  let count ← gets fun s => returnUpperCount s.coupon upper.1 templateId
  let upperMm ← getOr .doesNotExist fun s => s.mamas upper.1
  let _ ← getOr .attributeError fun _ => upperMm.customer
  let newTransfer ← inCoupon (CouponTransferRecord.insert
    (upperRecord today mama upper.1 templateId upper.2.length
      (returnUpperPrefix upper.1 templateId ++ toString (count + 1))))
  inCoupon (freezeTransferCoupon upper.2 newTransfer.id)
  inCoupon (createTransferCouponDetail newTransfer.id upper.2)

/-- The coupons by the mama that each came from. -/
def byUpperMama (coupons : List UserCoupon) : List (Nat × List Nat) :=
  coupons.foldl (fun upperMamas coupon =>
    appendId (coupon.mamaChain.getLast?.getD 0) coupon.id upperMamas) []

def oneTemplate (coupons : List UserCoupon) : Option Nat :=
  match (coupons.map UserCoupon.templateId).dedup with
  | [templateId] => some templateId
  | _ => none

def applyPendingReturnTransferCoupon (today : Date) (couponIds : List Nat) (customer : Nat) :
    ExchangeTx Nat :=
  atomic do
    let coupons ← gets fun s => getUserCouponsByIds s.coupon couponIds
    if coupons.all UserCoupon.canReturnUpperMama = false then pure 1
    else
      match oneTemplate coupons with
      | none => pure 2
      | some templateId => do
          let template ← gets fun s => s.coupon.templates.contains templateId
          raiseIf (template = false) .doesNotExist
          let mama ← getOr .attributeError fun s => s.coupon.openMama customer
          forEach (byUpperMama coupons) (applyToUpper today mama templateId)
          pure 0

/-- A request to the system, for money or for coins. -/
def sysRecord (today : Date) (mama templateId couponNum : Nat) (transferType : TransferType)
    (orderNo uniKey : String) : CouponTransferRecord where
  id := 0
  couponFromMamaId := mama
  couponToMamaId := 0
  initFromMamaId := 0
  orderNo := orderNo
  templateId := templateId
  couponNum := couponNum
  transferType := transferType
  transferStatus := .pending
  uniKey := uniKey
  dateField := today

/-- How many requests of the mama to the system there are. -/
def returnSysCount (s : CouponDb) (mama : Nat) : Nat :=
  (s.transferRecords.filter fun record =>
    (record.transferType = .outCashout ∨ record.transferType = .outCashoutCoin) ∧
      record.couponFromMamaId = mama).length

def applyToSys (today : Date) (prices : Prices) (mama templateId : Nat)
    (transferType : TransferType) (orderPrefix : String) (couponIds : List Nat) :
    ExchangeTx Unit :=
  if couponIds = [] then pure () else do
    let count ← gets fun s => returnSysCount s.coupon mama
    let transfer ← inCoupon (CouponTransferRecord.insert
      (sysRecord today mama templateId couponIds.length transferType
        (orderPrefix ++ prices.text (prices.agentPrice templateId mama * couponIds.length))
        ("return-sys-" ++ toString mama ++ "-" ++ toString count)))
    inCoupon (freezeTransferCoupon couponIds transfer.id)
    inCoupon (createTransferCouponDetail transfer.id couponIds)

def applyPendingReturnTransferCoupon2Sys (today : Date) (prices : Prices) (couponIds : List Nat)
    (customer : Nat) : ExchangeTx Nat :=
  atomic do
    let coupons ← gets fun s => getUserCouponsByIds s.coupon couponIds
    if coupons.all UserCoupon.canReturnSys = false then pure 1
    else
      match oneTemplate coupons with
      | none => pure 2
      | some templateId => do
          let template ← gets fun s => s.coupon.templates.contains templateId
          raiseIf (template = false) .doesNotExist
          let mama ← getOr .attributeError fun s => s.coupon.openMama customer
          applyToSys today prices mama templateId .outCashout "return-money-"
            ((coupons.filter fun coupon => !coupon.isCoinBuy).map UserCoupon.id)
          applyToSys today prices mama templateId .outCashoutCoin "return-coin-"
            ((coupons.filter UserCoupon.isCoinBuy).map UserCoupon.id)
          pure 0

/-- The mama above decides: `newStatus` where she agrees or rejects. -/
def decideApply (toMama : ExchangeDb → Option Nat) (newStatus : TransferStatus)
    (transferRecordId : Nat) : ExchangeTx CouponTransferRecord := do
  let record ← getTransferRecordById transferRecordId
  raiseIf (record.transferType ≠ .inReturnCoupon) (.exception "记录类型有错")
  raiseIf (record.transferStatus ≠ .pending) (.exception "记录状态不在待审核")
  let mama ← getOr .attributeError toMama
  raiseIf (record.couponToMamaId ≠ mama) (.exception "记录审核人错误")
  setTransferStatus newStatus record
  pure record

def agreeApplyTransferRecord (customer transferRecordId : Nat) : ExchangeTx Unit :=
  atomic do
    let _ ← decideApply (fun s => s.coupon.openMama customer) .processed transferRecordId
    pure ()

def rejectApplyTransferRecord (customer transferRecordId : Nat) : ExchangeTx Unit :=
  atomic do
    let record ← decideApply (fun s => s.coupon.chargedMama customer) .canceled transferRecordId
    let coupons ← gets fun s => getFreezeBoutiqueCouponsByTransfer s.coupon record.id
    inCoupon (rollbackUserCouponStatus2UnusedByIds (coupons.map UserCoupon.id))

def returnCouponArgs (customer flowAmount recordId : Nat) : BudgetLog.CreateArgs where
  customerId := customer
  budgetType := .budgetIn
  flowAmount := flowAmount
  budgetLogType := .returnCoupon
  budgetDate := none
  referalId := toString recordId
  status := none
  uniKey := none

/-- What the returned coupons cost, where `paid` picks those that are paid for in
one of the two ways. -/
def returnAmount (agentPrice : Nat) (paid : UserCoupon → Bool) (coupons : List UserCoupon) : Nat :=
  agentPrice * coupons.countP paid

/-- The money for the coupons goes to the wallet. -/
def payBudget (today : Date) (recordId customer budgetAmount : Nat) : ExchangeTx Unit :=
  if 0 < budgetAmount then do
    let _ ← inWallet (BudgetLog.create today (returnCouponArgs customer budgetAmount recordId))
    pure ()
  else pure ()

/-- What was bought with coins is paid in coins. -/
def payCoin (today : Date) (recordId fromMama coinAmount : Nat) : ExchangeTx Unit :=
  if 0 < coinAmount then do
    inCoin (Coin.XiaoluCoin.getOrCreate fromMama)
    inCoin (Coin.XiaoluCoin.refund today fromMama coinAmount (toString recordId))
  else pure ()

def notePaidOut (recordId amount : Nat) : ExchangeTx Unit :=
  modify fun s => if 0 < amount then { s with paidOut := s.paidOut ++ [recordId] } else s

def agreeApplyTransferRecord2Sys (today : Date) (prices : Prices)
    (record : CouponTransferRecord) : ExchangeTx Unit :=
  atomic do
    let coupons ← gets fun s => getFreezeBoutiqueCouponsByTransfer s.coupon record.id
    let first ← getOr (.exception "优惠券没有找到") fun _ => coupons.head?
    let xlmm ← getOr (.exception "你的铺子妈妈账号不正常，请联系客服或管理员1") fun s =>
      (s.mamas record.couponFromMamaId).filter XiaoluMama.effective
    inCoupon (forEach coupons cancelCoupon)
    let price := prices.agentPrice record.templateId record.couponFromMamaId
    payBudget today record.id first.customerId
      (returnAmount price (fun coupon => !coupon.isCoinBuy) coupons)
    payCoin today record.id record.couponFromMamaId (returnAmount price UserCoupon.isCoinBuy coupons)
    notePaidOut record.id (price * coupons.length)
    setTransferStatus .delivered record
    if xlmm.referalFrom = .indirect then
      transferRecordReturnCouponExchange today coupons record.id
    else pure ()

/-- A request of a customer is for a record of her own. -/
def checkOwner (customer : Option Nat) (record : CouponTransferRecord) : ExchangeTx Unit :=
  match customer with
  | none => pure ()
  | some customer => do
      let mama ← getOr .attributeError fun s => s.coupon.openMama customer
      raiseIf (record.couponFromMamaId ≠ mama) (.exception "提交退券和取消退券用户不一致")

/-- A request is taken back, by its customer or by the staff. -/
def cancelReturnTransfer (customer : Option Nat) (record : CouponTransferRecord) :
    ExchangeTx Unit :=
  atomic do
    checkOwner customer record
    let coupons ← gets fun s => getFreezeBoutiqueCouponsByTransfer s.coupon record.id
    raiseIf (coupons = []) (.exception "优惠券没有找到")
    inCoupon (rollbackUserCouponStatus2UnusedByIds (coupons.map UserCoupon.id))
    setTransferStatus .canceled record

def cancelReturn2SysTransfer (record : CouponTransferRecord) (customer : Option Nat) :
    ExchangeTx Unit :=
  cancelReturnTransfer customer record

def cancelReturn2UpperTransfer (record : CouponTransferRecord) (customer : Option Nat) :
    ExchangeTx Unit :=
  cancelReturnTransfer customer record

/-- One coupon goes back to the mama above; where she has no account it is skipped. -/
def returnCoupon (toMamaId : Nat) (coupon : UserCoupon) : ExchangeTx Unit := do
  let toMama ← getOr .doesNotExist fun s => s.mamas toMamaId
  match toMama.normalCustomer with
  | none => pure ()
  | some customer => do
      raiseIf (coupon.mamaChain.getLast? ≠ some toMamaId) (.exception "异常优惠券记录")
      inCoupon (UserCoupon.save
        { coupon with
          status := .unused
          customerId := customer
          chain := some coupon.mamaChain.dropLast })

def returnTransferCoupon (coupons : List UserCoupon) (transferRecordId : Nat) : ExchangeTx Unit :=
  atomic do
    let transfer ← getTransferRecordById transferRecordId
    setTransferStatus .delivered transfer
    forEach coupons (returnCoupon transfer.couponToMamaId)

/-- A customer asks to return coupons; `admitted` says that the limits of the month
and of the score allow it. -/
def applyReturn (today : Date) (prices : Prices) (toUpper admitted : Bool) (couponIds : List Nat)
    (customer : Nat) : ExchangeTx Unit := do
  let unused ← gets fun s => s.coupon.userCoupons.filter fun coupon =>
    coupon.status = .unused ∧ coupon.couponType = .transfer ∧ coupon.customerId = customer ∧
      coupon.id ∈ couponIds
  if unused = [] ∨ admitted = false then pure ()
  else if toUpper then do
    let _ ← applyPendingReturnTransferCoupon today (unused.map UserCoupon.id) customer
    pure ()
  else do
    let _ ← applyPendingReturnTransferCoupon2Sys today prices (unused.map UserCoupon.id) customer
    pure ()

/-- The staff agrees to a return to the system, or rejects it. -/
def verifyReturnSysTransfer (today : Date) (prices : Prices) (agree : Bool)
    (transferRecordId : Nat) : ExchangeTx Unit := do
  let record ← getTransferRecordById transferRecordId
  if agree then agreeApplyTransferRecord2Sys today prices record
  else cancelReturn2SysTransfer record none

def verifyReturnTransferRecord (agree : Bool) (customer transferRecordId : Nat) :
    ExchangeTx Unit :=
  if agree then agreeApplyTransferRecord customer transferRecordId
  else rejectApplyTransferRecord customer transferRecordId

def returnTransferCoupon2Upper (customer transferRecordId : Nat) : ExchangeTx Unit := do
  let coupons ← gets fun s =>
    (getFreezeBoutiqueCouponsByTransfer s.coupon transferRecordId).filter fun coupon =>
      coupon.customerId = customer
  if coupons = [] then pure () else returnTransferCoupon coupons transferRecordId

def cancelReturnTransferCoupon (customer transferRecordId : Nat) : ExchangeTx Unit := do
  let record ← getTransferRecordById transferRecordId
  if record.couponToMamaId = 0 then cancelReturn2SysTransfer record (some customer)
  else cancelReturn2UpperTransfer record (some customer)

end ShopManager.Coupon
