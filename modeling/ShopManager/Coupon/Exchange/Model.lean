import ShopManager.Pay.Refund.Model

/-!
# Exchange of orders for coupons

A mama gives up coupons of her own for what an order of her customer has earned;
when the goods or the coupons of that order come back, what she earned is taken
from her wallet and coupons are given back to her.  Amounts are in cents.
-/

namespace ShopManager.Coupon

open Library Library.Tx Pay Pay.Wallet

inductive ReferalFrom where
  | unknown
  | direct
  | indirect
  deriving DecidableEq, Repr

/-- A mama with the accounts of her union id: `customer` whatever its status,
`normalCustomer` only in normal status.  `effective` says that she is in effect and
charged. -/
structure XiaoluMama where
  effective : Bool
  referalFrom : ReferalFrom
  customer : Option Nat
  normalCustomer : Option Nat
  deriving DecidableEq, Repr

/-- The columns of an order that the exchange reads beside those of a refund;
`exchange` and `canReturnNum` are entries of `extras`, the templates come from the
product. -/
structure OrderColumns where
  oid : String
  price : Nat
  exchange : Bool
  canReturnNum : Option Int
  couponTemplateIds : List Nat
  deriving DecidableEq, Repr

structure ExchangeSaleOrder where
  id : Nat
  orderOid : String
  hasExchanged : Bool
  canExchange : Bool
  canExchgPayment : Nat
  uniKey : String
  deriving DecidableEq, Repr

instance : Row ExchangeSaleOrder where
  pk := ExchangeSaleOrder.id
  withPk n row := { row with id := n }

inductive CarryType where
  | wapOrder
  | appOrder
  | referalOrder
  | advancedMamaReferalOrder
  deriving DecidableEq, Repr

/-- What an order earns a mama; `confirmed` is the status `CONFIRM`. -/
structure OrderCarry where
  mamaId : Nat
  orderId : String
  carryType : CarryType
  confirmed : Bool
  deriving DecidableEq, Repr

/-- The orders with their refunds and the wallets, the coupons, the coins and the
mamas.  `paidOut` is no table: it lists the records that have been paid out, one
entry a payment. -/
structure ExchangeDb where
  refund : Refund.RefundDb
  columns : Nat → OrderColumns
  refundNo : Nat → String
  coupon : CouponDb
  coin : Coin.CoinDb
  exchangeSaleOrders : Table ExchangeSaleOrder
  orderCarries : List OrderCarry
  mamas : Nat → Option XiaoluMama
  normalCustomers : List Nat
  paidOut : List Nat

abbrev ExchangeTx (α : Type) := Tx ExchangeDb Exn α

namespace ExchangeDb

variable {α : Type}

def setCoupon (coupon : CouponDb) (s : ExchangeDb) : ExchangeDb := { s with coupon := coupon }

def setWallet (wallet : WalletDb) (s : ExchangeDb) : ExchangeDb :=
  { s with refund := { s.refund with wallet := wallet } }

def setCoin (coin : Coin.CoinDb) (s : ExchangeDb) : ExchangeDb := { s with coin := coin }

def setColumns (orderId : Nat) (columns : OrderColumns) (s : ExchangeDb) : ExchangeDb :=
  { s with columns := Function.update s.columns orderId columns }

def wallet (s : ExchangeDb) : WalletDb := s.refund.wallet

def inCoupon (m : CouponTx α) : ExchangeTx α := zoom ExchangeDb.coupon setCoupon m

def inWallet (m : WalletTx α) : ExchangeTx α := zoom wallet setWallet m

def inCoin (m : Coin.CoinTx α) : ExchangeTx α := zoom ExchangeDb.coin setCoin m

/-- `SaleOrder.objects.filter(oid=oid).first()`. -/
def orderByOid (s : ExchangeDb) (oid : String) : Option Refund.SaleOrder :=
  s.refund.orders.first fun order => (s.columns order.id).oid = oid

/-- `ExchangeSaleOrder.objects.filter(order_oid=orderOid).first()`. -/
def exchangeSaleOrder (s : ExchangeDb) (orderOid : String) : Option ExchangeSaleOrder :=
  s.exchangeSaleOrders.first fun row => row.orderOid = orderOid

def mamaCustomer (s : ExchangeDb) (mamaId : Nat) : Option Nat :=
  (s.mamas mamaId).bind XiaoluMama.normalCustomer

def normalChargedMama (s : ExchangeDb) (customer : Nat) : Option Nat :=
  if s.normalCustomers.contains customer then s.coupon.chargedMama customer else none

end ExchangeDb

open ExchangeDb

namespace ExchangeSaleOrder

/-- A new row; `uni_key` is unique. -/
def insert (row : ExchangeSaleOrder) : ExchangeTx Unit := do
  let taken ← gets fun s => (s.exchangeSaleOrders.first fun r => r.uniKey = row.uniKey).isSome
  raiseIf (taken = true) .integrityError
  modify fun s => { s with exchangeSaleOrders := s.exchangeSaleOrders.insert row }

def save (row : ExchangeSaleOrder) : ExchangeTx Unit :=
  modify fun s => { s with exchangeSaleOrders := s.exchangeSaleOrders.save row }

def new (orderOid : String) : ExchangeSaleOrder where
  id := 0
  orderOid := orderOid
  hasExchanged := false
  canExchange := true
  canExchgPayment := 0
  uniKey := orderOid

/-- The row of an order that has been exchanged. -/
def markExchanged (orderOid : String) : Option ExchangeSaleOrder → ExchangeTx Unit
  | none => insert { new orderOid with hasExchanged := true }
  | some row => save { row with hasExchanged := true }

/-- The row of an order that can no more be exchanged. -/
def forbidExchange (orderOid : String) : Option ExchangeSaleOrder → ExchangeTx Unit
  | none => insert { new orderOid with canExchange := false }
  | some row => save { row with canExchange := false }

def forbidIfNoneLeft (left : Int) (orderOid : String) (row : Option ExchangeSaleOrder) :
    ExchangeTx Unit :=
  if left = 0 then forbidExchange orderOid row else pure ()

end ExchangeSaleOrder

/-! ## The transfer records of an exchange -/

/-- The price of a coupon template for a mama, and how the source prints a price. -/
structure Prices where
  agentPrice : Nat → Nat → Nat
  text : Nat → String

namespace CouponTransferRecord

/-- The coupons that a mama gives for an order.  The key is the number of the
order, so a second record of the order fails. -/
def createExchgOrderRecord (today : Date) (customer : Nat) (couponNum : Nat) (oid : String)
    (templateId : Nat) : CouponTx CouponTransferRecord := do
  let fromMama ← getOr .attributeError fun s => s.chargedMama customer
  let template ← gets fun s => s.templates.contains templateId
  raiseIf (template = false) .attributeError
  insert
    { id := 0
      couponFromMamaId := fromMama
      couponToMamaId := 0
      initFromMamaId := fromMama
      orderNo := oid
      templateId := templateId
      couponNum := couponNum
      transferType := .outExchgSaleorder
      transferStatus := .delivered
      uniKey := oid
      dateField := today }

/-- How many cancelled exchanges of the order are on record for the day. -/
def cancelledExchanges (s : CouponDb) (today : Date) (toMama templateId : Nat)
    (oid : String) : Nat :=
  (s.transferRecords.filter fun record =>
    record.couponFromMamaId = 0 ∧ record.couponToMamaId = toMama ∧
      record.transferType = .inCancelExchg ∧ record.templateId = templateId ∧
        record.dateField = today ∧ record.orderNo = oid ∧
          record.transferStatus ≠ .pending).length

def genCancelExchgRecord (today : Date) (customer : Nat) (couponNum : Nat) (templateId : Nat)
    (oid : String) : CouponTx CouponTransferRecord := do
  let toMama ← getOr .attributeError fun s => s.openMama customer
  let idx ← gets fun s => cancelledExchanges s today toMama templateId oid
  let template ← gets fun s => s.templates.contains templateId
  raiseIf (template = false) .doesNotExist
  let _ ← getOr .attributeError fun s => s.chargedMama customer
  insert
    { id := 0
      couponFromMamaId := 0
      couponToMamaId := toMama
      initFromMamaId := toMama
      orderNo := oid
      templateId := templateId
      couponNum := couponNum
      transferType := .inCancelExchg
      transferStatus := .delivered
      uniKey := toString toMama ++ "-" ++ toString TransferType.inCancelExchg.code ++ "-" ++
        oid ++ "-" ++ toString (idx + 1)
      dateField := today }

end CouponTransferRecord

/-- What a mama has of a template by her records: what came in less what went out. -/
def getCouponStockNum (s : CouponDb) (mamaId templateId : Nat) : Int :=
  ((s.transferRecords.filter fun record =>
      record.couponToMamaId = mamaId ∧ record.transferStatus = .delivered ∧
        record.templateId = templateId).map CouponTransferRecord.couponNum).sum -
    ((s.transferRecords.filter fun record =>
      record.couponFromMamaId = mamaId ∧ record.transferStatus = .delivered ∧
        record.templateId = templateId).map CouponTransferRecord.couponNum).sum

/-- The statuses from `WAIT_BUYER_CONFIRM_GOODS` on. -/
def isSent : Trade.TradeStatus → Bool
  | .noCreatePay | .waitBuyerPay | .waitSellerSendGoods => false
  | _ => true

/-- The amount of an exchange: left out, a number, or the text of a request, which
no arithmetic accepts. -/
inductive ExchgPayment where
  | none
  | amount (cents : Nat)
  | text
  deriving DecidableEq, Repr

def ExchgPayment.ofRequest (posted : Bool) : ExchgPayment := if posted then .text else .none

/-- Of each template the coupons of the customer that are needed, with one record a
template; the ids that were found. -/
def giveCoupons (today : Date) (customer : Nat) (oid : String) :
    List Nat → Nat → CouponTx (List Nat)
  | [], _ => pure []
  | templateId :: templateIds, leftNum => do
      let unused ← gets fun s => s.userCoupons.filter fun coupon =>
        coupon.customerId = customer ∧ coupon.templateId = templateId ∧ coupon.status = .unused
      if unused = [] then giveCoupons today customer oid templateIds leftNum
      else do
        let ids := (unused.take leftNum).map UserCoupon.id
        let transfer ← CouponTransferRecord.createExchgOrderRecord today customer ids.length
          oid templateId
        createTransferCouponDetail transfer.id ids
        if leftNum ≤ ids.length then pure ids
        else do
          let rest ← giveCoupons today customer oid templateIds (leftNum - ids.length)
          pure (ids ++ rest)

def exchgAmount (exchgPayment : ExchgPayment) (exchgSaleOrder : Option ExchangeSaleOrder)
    (price couponNum : Nat) : Except Exn Nat :=
  match exchgPayment with
  | .text => .error (.exception "TypeError")
  | .amount (cents + 1) => .ok (cents + 1)
  | _ =>
      match exchgSaleOrder with
      | none => .ok (price * couponNum)
      | some row =>
          -- whole yuan only
          if 0 < row.canExchgPayment then .ok (row.canExchgPayment / 100 * 100)
          else .ok (price * couponNum)

def exchgArgs (customer : Nat) (flowAmount : Nat) (orderId : Nat) (oid : String) :
    BudgetLog.CreateArgs where
  customerId := customer
  budgetType := .budgetIn
  flowAmount := flowAmount
  budgetLogType := .exchgOrder
  budgetDate := none
  referalId := toString orderId
  status := some .confirmed
  uniKey := some oid

/-- An order whose `extras` have no `can_return_num` gets its quantity there. -/
def initReturnNum (orderId num : Nat) : ExchangeTx Unit :=
  modify fun s =>
    match (s.columns orderId).canReturnNum with
    | some _ => s
    | none => s.setColumns orderId { s.columns orderId with canReturnNum := some num }

def exchangeCoupons (now : Nat) (today : Date) (customer : Nat) (oid : String)
    (order : Refund.SaleOrder) (exchgSaleOrder : Option ExchangeSaleOrder) (templateIds : List Nat)
    (couponNum : Nat) (exchgPayment : ExchgPayment) : ExchangeTx Unit :=
  atomic do
    ExchangeSaleOrder.markExchanged oid exchgSaleOrder
    initReturnNum order.id order.num
    let couponIds ← inCoupon (giveCoupons today customer oid templateIds couponNum)
    raiseIf (couponIds.length ≠ couponNum) (.exception "精品券数量不足，兑换失败!")
    inCoupon (useCouponByIds now couponIds oid)
    -- `use_coupon_by_ids` ends with a look at its first coupon
    raiseIf (couponIds = []) (.exception "IndexError")
    let price ← gets fun s => (s.columns order.id).price
    let amount ← ofExcept (exchgAmount exchgPayment exchgSaleOrder price couponNum)
    let _ ← inWallet (BudgetLog.create today (exchgArgs customer amount order.id oid))
    pure ()

def couponExchangeSaleorder (now : Nat) (today : Date) (customer : Nat) (oid : String)
    (templateIds : List Nat) (couponNum : Nat) (exchgPayment : ExchgPayment) :
    ExchangeTx Unit := do
  let exchgSaleOrder ← gets fun s => s.exchangeSaleOrder oid
  let order ← getOr (.exception "找不到订单记录，兑换失败!") fun s => s.orderByOid oid
  raiseIf (isSent order.status = false) (.exception "订单记录状态不对，兑换失败!")
  let exchanged ← gets fun s => (s.columns order.id).exchange
  raiseIf (exchanged = true) (.exception "订单已经被兑换过了，兑换失败!")
  exchangeCoupons now today customer oid order exchgSaleOrder templateIds couponNum exchgPayment

/-- The coupons that a customer can give of some templates, by the records and by
the coupons themselves. -/
def stockNum (s : CouponDb) (mamaId : Nat) (templateIds : List Nat) : Int :=
  (templateIds.map (getCouponStockNum s mamaId)).sum

def unusedNum (s : CouponDb) (customer : Nat) (templateIds : List Nat) : Nat :=
  (templateIds.map fun templateId => (s.userCoupons.filter fun coupon =>
    coupon.customerId = customer ∧ coupon.templateId = templateId ∧
      coupon.status = .unused).length).sum

/-- The view: `posted` says that the request has an amount. -/
def startExchange (now : Nat) (today : Date) (customer : Nat) (oid : String) (couponNum : Nat)
    (posted : Bool) : ExchangeTx Unit :=
  if couponNum = 0 then pure () else do
    let mama ← getOr .attributeError fun s => s.normalChargedMama customer
    let order ← getOr .attributeError fun s => s.orderByOid oid
    if order.num < couponNum then pure ()
    else do
      let templateIds ← gets fun s => (s.columns order.id).couponTemplateIds
      let stock ← gets fun s => stockNum s.coupon mama templateIds
      let unused ← gets fun s => unusedNum s.coupon customer templateIds
      if templateIds = [] ∨ stock < couponNum ∨ unused < couponNum then pure ()
      else
        couponExchangeSaleorder now today customer oid templateIds couponNum
          (ExchgPayment.ofRequest posted)

/-- `round(payment / round(price))`, half away from nought. -/
def returnCouponNum (payment price : Nat) : Except Exn Nat :=
  if price = 0 then .error (.exception "ZeroDivisionError")
  else .ok ((2 * payment + price) / (2 * price))

def leftNum (columns : OrderColumns) (num : Nat) : Int := columns.canReturnNum.getD num

/-- `refundNum` of the order have come back. -/
def takeFromReturnNum (orderId num refundNum : Nat) : ExchangeTx Int := do
  modify fun s => s.setColumns orderId
    { s.columns orderId with canReturnNum := some (leftNum (s.columns orderId) num - refundNum) }
  gets fun s => leftNum (s.columns orderId) num

/-- A used coupon of the order is given back, frozen where the wallet is short. -/
def giveBack (notEnoughBudget : Bool) (coupon : UserCoupon) : CouponTx Unit :=
  modify fun s => { s with
    userCoupons := s.userCoupons.update (fun c => c.uniqId = coupon.uniqId) fun c =>
      if notEnoughBudget then { c with status := .freeze, tradeTid := some "", freezeType := true }
      else { c with status := .unused, tradeTid := some "" } }

def returnExchgArgs (customer : Nat) (flowAmount : Int) (referalId uniKey : String) :
    BudgetLog.CreateArgs where
  customerId := customer
  budgetType := .budgetOut
  flowAmount := flowAmount
  budgetLogType := .returnExchg
  budgetDate := none
  referalId := referalId
  status := some .confirmed
  uniKey := some uniKey

/-- The log of what the exchange of an order earned. -/
def exchgBudgetlog (s : WalletDb) (customer : Nat) (oid : String) : Option BudgetLog :=
  s.budgetLogs.first fun log =>
    log.customerId = customer ∧ log.budgetType = .budgetIn ∧ log.budgetLogType = .exchgOrder ∧
      log.uniKey = some oid

def isShort (s : WalletDb) (customer : Nat) (amount : Nat) : Bool :=
  (s.userBudgets customer).any fun budget => budget .amount < (amount : Int)

/-- The record of a delivered exchange of an order. -/
def exchangeRecord (s : CouponDb) (oid : String) : Option CouponTransferRecord :=
  s.transferRecords.first fun record =>
    record.transferType = .outExchgSaleorder ∧ record.uniKey = oid ∧
      record.transferStatus = .delivered

/-- The used coupons of an order are given back, as many as the payment stands for. -/
def giveBackOfOrder (today : Date) (customer : Nat) (oid : String) (price payment : Nat)
    (notEnoughBudget : Bool) : CouponTx Unit := do
  let userCoupon ← gets fun s => s.userCoupons.filter fun coupon =>
    coupon.tradeTid = some oid ∧ coupon.status = .used
  let num ← ofExcept (returnCouponNum payment price)
  forEach (userCoupon.take num) (giveBack notEnoughBudget)
  let first ← getOr (.exception "IndexError") fun _ => userCoupon.head?
  let transfer ← CouponTransferRecord.genCancelExchgRecord today customer num first.templateId oid
  createTransferCouponDetail transfer.id ((userCoupon.take num).map UserCoupon.id)

/-- What an exchange earned is taken back, and coupons are given back. -/
def clawBack (today : Date) (refund : Refund.SaleRefund) (payment : Nat) (order : Refund.SaleOrder)
    (exchgSaleOrder : Option ExchangeSaleOrder) (fromMama : Nat) : ExchangeTx Unit := do
  let customer ← getOr .attributeError fun s => s.mamaCustomer fromMama
  let oid ← gets fun s => (s.columns order.id).oid
  let price ← gets fun s => (s.columns order.id).price
  let refundNo ← gets fun s => s.refundNo refund.id
  let exchgPayment ← gets fun s =>
    match exchgBudgetlog s.wallet customer oid with
    | some log => log.flowAmount
    | none => payment
  let notEnoughBudget ← gets fun s => isShort s.wallet customer payment
  atomic do
    let _ ← inWallet (BudgetLog.create today
      (returnExchgArgs customer exchgPayment (toString refund.id) refundNo))
    let left ← takeFromReturnNum order.id order.num refund.refundNum
    ExchangeSaleOrder.forbidIfNoneLeft left (toString refund.orderId) exchgSaleOrder
    inCoupon (giveBackOfOrder today customer oid price payment notEnoughBudget)

def saleorderReturnCouponExchange (today : Date) (refund : Refund.SaleRefund) (payment : Nat) :
    ExchangeTx Unit := do
  -- the row is looked up under the id of the order, not under its `oid`
  let exchgSaleOrder ← gets fun s => s.exchangeSaleOrder (toString refund.orderId)
  let saleOrder ← gets fun s => s.refund.orders.get? refund.orderId
  match saleOrder with
  | none => pure ()
  | some order => do
      let columns ← gets fun s => s.columns order.id
      if columns.exchange = false ∧ exchgSaleOrder.any ExchangeSaleOrder.hasExchanged = false then do
        ExchangeSaleOrder.forbidExchange (toString refund.orderId) exchgSaleOrder
        let _ ← takeFromReturnNum order.id order.num refund.refundNum
        pure ()
      else do
        let cts ← gets fun s => exchangeRecord s.coupon columns.oid
        match cts with
        | none => pure ()
        | some cts => clawBack today refund payment order exchgSaleOrder cts.couponFromMamaId

/-! ## The return of coupons that an exchanged order bought -/

/-- `int(text)`: digits with an optional sign, blanks around them. -/
def parseInt (text : List Char) : Option Int :=
  let trimmed := ((text.dropWhile Char.isWhitespace).reverse.dropWhile Char.isWhitespace).reverse
  let digits := fun cs : List Char =>
    if cs ≠ [] ∧ cs.all Char.isDigit then
      some (cs.foldl (fun n c => 10 * n + (c.toNat - '0'.toNat)) 0)
    else none
  match trimmed with
  | '-' :: cs => (digits cs).map fun n => -(n : Int)
  | '+' :: cs => (digits cs).map fun n => (n : Int)
  | cs => (digits cs).map fun n => (n : Int)

/-- The order in the key of a coupon that was bought: `template_type_order_index`. -/
def orderIdOfUniqId (uniqId : String) : Except Exn Int :=
  match Trade.splitChars (fun c => c = '_') uniqId.toList with
  | _ :: _ :: part :: _ =>
      match parseInt part with
      | some n => .ok n
      | none => .error (.valueError "int")
  | _ => .error (.exception "IndexError")

/-- What the loop over the returned coupons has gathered: the amount to take from
the mama, the mama, and the coupons given back to her by order. -/
structure GivenBack where
  returnPayment : Nat
  exchgMama : Nat
  couponIds : List (Nat × List Nat)
  deriving DecidableEq, Repr

def GivenBack.none : GivenBack := ⟨0, 0, []⟩

/-- A dictionary of lists: the id is appended to the list under the key. -/
def appendId (key id : Nat) : List (Nat × List Nat) → List (Nat × List Nat)
  | [] => [(key, [id])]
  | (key', ids) :: rest =>
      if key' = key then (key', ids ++ [id]) :: rest else (key', ids) :: appendId key id rest

def GivenBack.add (orderId price : Nat) : Option Nat → GivenBack → GivenBack
  | .none, back => back
  | some id, back =>
      { back with
        returnPayment := back.returnPayment + price
        couponIds := appendId orderId id back.couponIds }

/-- The first coupon of the details that is not unused is made so. -/
def reviveFirst : List Nat → CouponTx (Option Nat)
  | [] => pure none
  | id :: ids => do
      let oneCoupon ← getOr .doesNotExist fun s => s.userCoupons.get? id
      if oneCoupon.status = .unused then reviveFirst ids
      else do
        UserCoupon.save { oneCoupon with status := .unused }
        pure (some oneCoupon.id)

def detailIds (s : CouponDb) (transferId : Nat) : List Nat :=
  (s.details.filter fun detail => detail.transferId = transferId).map
    TransferCouponDetail.couponId

/-- A coupon that was given for the order, whatever has become of it. -/
def reviveOfOrder (oid : String) : CouponTx (Option Nat) := do
  let exchgCtr ← gets fun s => s.transferRecords.first fun record =>
    record.transferType = .outExchgSaleorder ∧ record.uniKey = oid
  match exchgCtr with
  | none => pure none
  | some record => do
      let ids ← gets fun s => detailIds s record.id
      reviveFirst ids

/-- The confirmed earning of the mama above the buyer. -/
def referalCarry (s : ExchangeDb) (oid : String) : Option OrderCarry :=
  s.orderCarries.find? fun carry =>
    carry.orderId = oid ∧ carry.carryType = .referalOrder ∧ carry.confirmed

/-- `SaleOrder.objects.filter(id=order_id).first()`. -/
def orderById (s : ExchangeDb) : Int → Option Refund.SaleOrder
  | .ofNat id => s.refund.orders.get? id
  | .negSucc _ => none

/-- One returned coupon: the mama above gives back what its order earned her. -/
def returnOne (coupon : UserCoupon) (back : GivenBack) : ExchangeTx GivenBack := do
  let orderId ← ofExcept (orderIdOfUniqId coupon.uniqId)
  let order ← getOr (.exception "订单不存在") fun s => orderById s orderId
  let columns ← gets fun s => s.columns order.id
  let carry ← getOr (.exception "订单收益不存在") fun s => referalCarry s columns.oid
  raiseIf (back.exchgMama ≠ 0 ∧ back.exchgMama ≠ carry.mamaId)
    (.exception "退的多张精品券不属于同一个妈妈")
  let revived ← inCoupon (reviveOfOrder columns.oid)
  let exchgSaleOrder ← gets fun s => s.exchangeSaleOrder columns.oid
  let left ← takeFromReturnNum order.id order.num 1
  ExchangeSaleOrder.forbidIfNoneLeft left columns.oid exchgSaleOrder
  pure (GivenBack.add order.id columns.price revived { back with exchgMama := carry.mamaId })

/-- The loop; coupons that were not bought are skipped. -/
def returnEach : List UserCoupon → GivenBack → ExchangeTx GivenBack
  | [], back => pure back
  | coupon :: coupons, back =>
      match coupon.buyCouponType with
      | none => returnEach coupons back
      | some _ => do
          let back ← returnOne coupon back
          returnEach coupons back

/-- A coupon given back to a mama whose wallet is short. -/
def freezeGivenBack (id : Nat) : CouponTx Unit := do
  let freezeCoupon ← getOr .doesNotExist fun s => s.userCoupons.get? id
  modify fun s => { s with
    userCoupons := s.userCoupons.update (fun c => c.uniqId = freezeCoupon.uniqId) fun c =>
      { c with status := .freeze, tradeTid := some "", freezeType := true } }

/-- The record of the coupons given back for one order. -/
def recordGivenBack (today : Date) (customer : Option Nat) (templateId : Nat)
    (notEnoughBudget : Bool) (back : Nat × List Nat) : ExchangeTx Unit := do
  let oid ← gets fun s => (s.columns back.1).oid
  let customer ← getOr .attributeError fun _ => customer
  let transfer ← inCoupon (CouponTransferRecord.genCancelExchgRecord today customer
    back.2.length templateId oid)
  inCoupon (createTransferCouponDetail transfer.id back.2)
  if notEnoughBudget then forEach back.2 fun id => inCoupon (freezeGivenBack id) else pure ()

/-- What the mama owes for the coupons is taken from her wallet; whether it was short. -/
def takeReturnPayment (today : Date) (customer : Option Nat) (returnPayment recordId : Nat) :
    ExchangeTx Bool :=
  if returnPayment = 0 then pure false
  else do
    let customer ← getOr .attributeError fun _ => customer
    let notEnoughBudget ← gets fun s => isShort s.wallet customer returnPayment
    let _ ← inWallet (BudgetLog.create today
      (returnExchgArgs customer returnPayment (toString recordId) ("ctr-" ++ toString recordId)))
    pure notEnoughBudget

def transferRecordReturnCouponExchange (today : Date) (coupons : List UserCoupon)
    (recordId : Nat) : ExchangeTx Unit :=
  atomic do
    let back ← returnEach coupons GivenBack.none
    let customer ← gets fun s => s.mamaCustomer back.exchgMama
    let notEnoughBudget ← takeReturnPayment today customer back.returnPayment recordId
    -- nothing is given back where there is no coupon
    forEach back.couponIds
      (recordGivenBack today customer ((coupons.head?.map UserCoupon.templateId).getD 0)
        notEnoughBudget)

/-- One frozen coupon of a customer whose wallet is no more short. -/
def unfreezeOne (coupon : UserCoupon) : CouponTx Unit :=
  if coupon.freezeType then UserCoupon.save { coupon with status := .unused, freezeType := false }
  else pure ()

def unfreezeUserCouponByUserbudget (customer : Nat) : ExchangeTx Unit := do
  let normal ← gets fun s => s.normalCustomers.contains customer
  if normal then do
    let userCoupons ← gets fun s => s.coupon.userCoupons.filter fun coupon =>
      coupon.customerId = customer ∧ coupon.couponType = .transfer ∧ coupon.status = .freeze
    forEach userCoupons fun coupon => inCoupon (unfreezeOne coupon)
  else pure ()

end ShopManager.Coupon
