import ShopManager.Pay.Trade.Model

/-!
# Refunds of an order

A `SaleRefund` asks for a part of what an order has cost.  It is paid to the
wallet of the buyer, one log a payment; the payment provider is asked for a refund
only where the wallet does not serve, which is nowhere.  Amounts are in cents.
-/

namespace ShopManager.Pay.Refund

open Library Library.Tx Wallet

inductive RefundStatus where
  | noRefund
  | refundClosed
  | refundRefuseBuyer
  | refundWaitSellerAgree
  | refundWaitReturnGoods
  | refundConfirmGoods
  | refundApprove
  | refundSuccess
  deriving DecidableEq, Repr

inductive GoodStatus where
  | buyerNotReceived
  | buyerReceived
  | buyerReturnedGoods
  | sellerOutStock
  deriving DecidableEq, Repr

structure SaleOrder where
  id : Nat
  saleTradeId : Nat
  buyerId : Nat
  payment : Nat
  num : Nat
  status : Trade.TradeStatus
  refundStatus : RefundStatus
  refundId : Option Nat
  refundFee : Nat
  deriving DecidableEq, Repr

instance : Row SaleOrder where
  pk := SaleOrder.id
  withPk n order := { order with id := n }

/-- `charge` and `refundId` are the numbers of the payment provider. -/
structure SaleRefund where
  id : Nat
  tradeId : Nat
  orderId : Nat
  buyerId : Nat
  charge : String
  refundId : String
  refundNum : Nat
  refundFee : Nat
  sid : String
  hasGoodReturn : Bool
  goodStatus : GoodStatus
  status : RefundStatus
  feedback : String
  deriving DecidableEq, Repr

instance : Row SaleRefund where
  pk := SaleRefund.id
  withPk n refund := { refund with id := n }

/-- The orders, their refunds and the wallets.  `providerRefunds` is no table: it
lists what the payment provider has been asked to pay back, by refund. -/
structure RefundDb where
  orders : Table SaleOrder
  refunds : Table SaleRefund
  wallet : WalletDb
  providerRefunds : List (Nat × Nat)

abbrev RefundTx (α : Type) := Tx RefundDb Exn α

/-- What other parts of the shop say while a refund is handled: the package of the
order, the returned goods, how the work that a confirmed refund sets off ends
(the reissue of the rest, the receivers of the signal, the coupons, the package),
how the message and the return of an exchange end, and what the payment provider
answers. -/
structure Surroundings where
  today : Date
  isPost : Bool
  isBooked : Bool
  refundproduct : Bool
  confirmed : Except Exn Unit
  afterwards : Except Exn Unit
  provider : Except Exn String

namespace RefundDb

def inWallet {α : Type} (m : WalletTx α) : RefundTx α :=
  zoom RefundDb.wallet (fun wallet s => { s with wallet := wallet }) m

end RefundDb

namespace SaleOrder

def refund (s : RefundDb) (order : SaleOrder) : Option SaleRefund :=
  s.refunds.first fun refund => refund.tradeId = order.saleTradeId ∧ refund.orderId = order.id

def get (id : Nat) : RefundTx SaleOrder := getOr .doesNotExist fun s => s.orders.get? id

def save (order : SaleOrder) : RefundTx Unit :=
  modify fun s => { s with orders := s.orders.save order }

/-- An order whose refund is confirmed is closed, unless it is finished. -/
def closedByRefund (order : SaleOrder) : SaleOrder :=
  match order.status with
  | .waitSellerSendGoods | .waitBuyerConfirmGoods | .tradeBuyerSigned =>
      { order with status := .tradeClosed }
  | _ => order

end SaleOrder

namespace SaleRefund

open RefundDb

/-- A refund of everything closes the order, a closed one finishes it. -/
def syncStatus (refund : SaleRefund) (order : SaleOrder) : SaleOrder :=
  if refund.refundNum = order.num then
    match refund.status with
    | .refundSuccess => { order with status := .tradeClosed }
    | .refundClosed => { order with status := .tradeFinished }
    | _ => order
  else order

/-- An order takes the number of its first refund. -/
def syncRefund (refund : SaleRefund) (order : SaleOrder) : SaleOrder :=
  match order.refundId with
  | none => { order with refundId := some refund.id, refundFee := refund.refundFee }
  | some _ => order

def sync (refund : SaleRefund) (order : SaleOrder) : SaleOrder :=
  syncRefund refund { syncStatus refund order with refundStatus := refund.status }

/-- The `post_save` hook. -/
def syncSaleRefundStatus (refund : SaleRefund) : RefundTx Unit := do
  let order ← SaleOrder.get refund.orderId
  (sync refund order).save

def save (refund : SaleRefund) : RefundTx Unit := do
  modify fun s => { s with refunds := s.refunds.save refund }
  syncSaleRefundStatus refund

def insert (refund : SaleRefund) : RefundTx SaleRefund := do
  let taken ← gets fun s => (s.refunds.first fun r =>
    r.tradeId = refund.tradeId ∧ r.orderId = refund.orderId).isSome
  raiseIf (taken = true) .integrityError
  let stored ← gets fun s => s.refunds.stored refund
  modify fun s => { s with refunds := s.refunds.insert refund }
  syncSaleRefundStatus stored
  pure stored

/-- What is asked for; `none` and nought are arguments left out. -/
structure Request where
  refundNum : Nat
  refundFee : Nat
  goodStatus : Option GoodStatus
  charge : String

def ofRequest (order : SaleOrder) (request : Request) (goodStatus : GoodStatus) : SaleRefund where
  id := 0
  tradeId := order.saleTradeId
  orderId := order.id
  buyerId := order.buyerId
  charge := request.charge
  refundId := ""
  refundNum := if request.refundNum = 0 then order.num else request.refundNum
  refundFee := if request.refundFee = 0 then order.payment else request.refundFee
  sid := ""
  hasGoodReturn := goodStatus = .buyerReceived || goodStatus = .buyerReturnedGoods
  goodStatus := goodStatus
  status := .refundWaitSellerAgree
  feedback := ""

/-- The state of the goods follows from the order where the request has none. -/
def goodStatusFor (order : SaleOrder) (request : Request) : Except Exn GoodStatus :=
  match request.goodStatus with
  | some goodStatus => .ok goodStatus
  | none =>
      match order.status with
      | .waitBuyerConfirmGoods | .tradeBuyerSigned => .ok .buyerReceived
      | .waitSellerSendGoods => .ok .buyerNotReceived
      | _ => .error (.exception "订单状态不予退款操作!")

def doRefund (request : Request) (order : SaleOrder) : RefundTx SaleRefund := do
  let goodStatus ← ofExcept (goodStatusFor order request)
  insert (ofRequest order request goodStatus)

def updateGoodStatus (isPost : Bool) (refund : SaleRefund) : SaleRefund :=
  if isPost then
    { refund with
      goodStatus := if refund.sid = "" then .buyerReceived else .buyerReturnedGoods }
  else refund

def salerefundArgs (refund : SaleRefund) (flowAmount : Nat) (uniKey : String) :
    BudgetLog.CreateArgs where
  customerId := refund.buyerId
  budgetType := .budgetIn
  flowAmount := flowAmount
  budgetLogType := .refund
  budgetDate := none
  referalId := toString refund.id
  status := some .confirmed
  uniKey := some uniKey

def createSalerefundLog (today : Date) (refund : SaleRefund) (flowAmount : Nat) :
    WalletTx Unit := do
  let uniKey ← BudgetLog.genUniKey today refund.buyerId .budgetIn .refund
  let _ ← BudgetLog.create today (salerefundArgs refund flowAmount uniKey)
  pure ()

/-- What the wallet logs say has been paid for a refund. -/
def logged (s : RefundDb) (refund : SaleRefund) : Int :=
  ((s.wallet.budgetLogs.filter fun log =>
    log.customerId = refund.buyerId ∧ log.referalId = toString refund.id ∧
      log.budgetLogType = .refund).map BudgetLog.flowAmount).sum

def succeeded (refund : SaleRefund) : SaleRefund := { refund with status := .refundSuccess }

def refundConfirm (around : Surroundings) (refund : SaleRefund) : RefundTx Unit := do
  let srefund ← getOr .doesNotExist fun s => s.refunds.get? refund.id
  if srefund.status = .refundSuccess then pure ()
  else do
    refund.succeeded.save
    let sorder ← SaleOrder.get refund.orderId
    sorder.closedByRefund.save
    ofExcept around.confirmed

/-- A refund that asks for nothing leaves no log. -/
def payToWallet (today : Date) (refund : SaleRefund) : RefundTx Unit :=
  if 0 < refund.refundFee then inWallet (createSalerefundLog today refund refund.refundFee)
  else pure ()

def payAndConfirm (around : Surroundings) (refund : SaleRefund) : RefundTx Unit :=
  atomic do
    (updateGoodStatus around.isPost refund).save
    payToWallet around.today (updateGoodStatus around.isPost refund)
    refundConfirm around (updateGoodStatus around.isPost refund)

def refundPayment2Budget (around : Surroundings) (refund : SaleRefund) : RefundTx Unit := do
  let sorder ← getOr .attributeError fun s => s.orders.get? refund.orderId
  let totalRefund ← gets fun s => logged s refund
  raiseIf (totalRefund + refund.refundFee > sorder.payment)
    (.exception "超过订单实际支付金额 !")
  payAndConfirm around refund
  ofExcept around.afterwards

def refundFastApprove (around : Surroundings) (refund : SaleRefund) : RefundTx Unit := do
  raiseIf (around.isPost = true ∧ around.refundproduct = false)
    (.exception "退货商品还没有到达仓库,不予退款")
  refundPayment2Budget around refund

def isFastrefund (_ : SaleRefund) : Bool := true

def charged (re : String) (refund : SaleRefund) : SaleRefund :=
  { refund with refundId := re, status := .refundApprove }

def refundChargeApprove (around : Surroundings) (refund : SaleRefund) : RefundTx Unit := do
  let re ← ofExcept around.provider
  modify fun s => { s with
    providerRefunds := s.providerRefunds ++ [(refund.id, refund.refundFee)] }
  (refund.charged re).save

def refundApprove (around : Surroundings) (refund : SaleRefund) : RefundTx Unit :=
  if refund.isFastrefund then refundFastApprove around refund
  else if 0 < refund.refundFee ∧ refund.charge ≠ "" then refundChargeApprove around refund
  else pure ()

def isPostrefund (refund : SaleRefund) : Bool :=
  refund.goodStatus = .buyerReceived || refund.goodStatus = .buyerReturnedGoods

def agreed (refund : SaleRefund) : SaleRefund := { refund with status := .refundWaitReturnGoods }

def agreeReturnGoods (refund : SaleRefund) : RefundTx Unit :=
  if refund.status = .refundWaitSellerAgree ∧ refund.goodStatus = .buyerReceived then
    refund.agreed.save
  else pure ()

/-- The statuses in which a refund can still be refused or audited. -/
def isOpen (refund : SaleRefund) : Bool :=
  refund.status = .refundWaitSellerAgree || refund.status = .refundWaitReturnGoods ||
    refund.status = .refundConfirmGoods

def refused (feedback : String) (refund : SaleRefund) : SaleRefund :=
  { refund with
    status := .refundRefuseBuyer
    feedback := if feedback = "" then refund.feedback else feedback }

def refundRefuse (feedback : String) (refund : SaleRefund) : RefundTx Unit :=
  if refund.isOpen then (refund.refused feedback).save else pure ()

def failed (failureMsg : String) (refund : SaleRefund) : SaleRefund :=
  { refund with feedback := refund.feedback ++ failureMsg }

end SaleRefund

/-! ## Requests, tasks and views -/

open SaleRefund

/-- The request of a buyer: a refund that is there is not made again. -/
def refundHandler (request : Request) (orderId : Nat) : RefundTx Unit := do
  let order ← SaleOrder.get orderId
  let refund ← gets fun s => order.refund s
  match refund with
  | some _ => pure ()
  | none => do
      let refund ← doRefund request order
      refund.agreeReturnGoods

/-- Goods that have not been sent are refunded at once, unless they are booked. -/
def pushTradeRefundTask (around : Surroundings) (refundId : Nat) : RefundTx Unit := do
  let salerefund ← getOr .doesNotExist fun s => s.refunds.get? refundId
  let _ ← SaleOrder.get salerefund.orderId
  if salerefund.isPostrefund ∨ around.isBooked then pure ()
  else salerefund.refundApprove around

def confirmByAdmin (around : Surroundings) (refundId : Nat) : RefundTx Unit := do
  let obj ← getOr .doesNotExist fun s => s.refunds.get? refundId
  if obj.isOpen then obj.refundPayment2Budget around else pure ()

/-- The goods have come back to the warehouse. -/
def returnFeeByRefundProduct (around : Surroundings) (refundId : Nat) : RefundTx Unit := do
  let saleRefund ← getOr .doesNotExist fun s => s.refunds.get? refundId
  if saleRefund.goodStatus ≠ .buyerReturnedGoods ∨ saleRefund.status ≠ .refundConfirmGoods then
    pure ()
  else atomic (saleRefund.refundFastApprove around)

/-- A notification of the payment provider about a refund. -/
structure Notify where
  id : String
  succeed : Bool
  failureMsg : String

def notifyTradeRefundTask (around : Surroundings) (notify : Notify) : RefundTx Unit := do
  let srefund ← getOr (.exception "TypeError") fun s =>
    s.refunds.first fun refund => refund.refundId = notify.id
  if notify.succeed then srefund.refundConfirm around
  else (srefund.failed notify.failureMsg).save

end ShopManager.Pay.Refund
