import ShopManager.Pay.Refund.Model
import ShopManager.Warehouse.Model

/-!
# Orders after payment

The orders of a paid trade are shipped, replaced, refunded and finished.  An order
is shipped by a package item; a change of the sku, another delivery and the rest
of a partial refund each make a new order of the same trade.  The status of the
trade follows the orders: a hook of every save of an order derives it, and the
refunds and a daily task write it too.
-/

namespace ShopManager.Pay.Order

open Library Library.Tx
open Trade (TradeStatus)
open Refund (RefundStatus GoodStatus)
open Warehouse (AssignStatus)

structure SaleTrade where
  id : Nat
  orderType : Trade.OrderType
  status : TradeStatus
  deriving DecidableEq, Repr

instance : Row SaleTrade where
  pk := SaleTrade.id
  withPk n trade := { trade with id := n }

/-- Times are in seconds. -/
structure SaleOrder where
  id : Nat
  saleTradeId : Nat
  oid : String
  itemId : Nat
  skuId : Nat
  num : Int
  payTime : Option Nat
  consignTime : Option Nat
  signTime : Option Nat
  refundId : Option Nat
  refundFee : Nat
  refundStatus : RefundStatus
  status : TradeStatus
  deriving DecidableEq, Repr

instance : Row SaleOrder where
  pk := SaleOrder.id
  withPk n order := { order with id := n }

structure SaleRefund where
  id : Nat
  tradeId : Nat
  orderId : Nat
  refundNum : Int
  refundFee : Nat
  goodStatus : GoodStatus
  status : RefundStatus
  deriving DecidableEq, Repr

instance : Row SaleRefund where
  pk := SaleRefund.id
  withPk n refund := { refund with id := n }

structure PackageSkuItem where
  id : Nat
  saleOrderId : Nat
  oid : String
  skuId : Nat
  num : Int
  assignStatus : AssignStatus
  deriving DecidableEq, Repr

instance : Row PackageSkuItem where
  pk := PackageSkuItem.id
  withPk n item := { item with id := n }

/-- A write of the status of a trade, with the statuses of its orders at that moment. -/
structure StatusWrite where
  trade : Nat
  status : TradeStatus
  orders : List TradeStatus
  deriving DecidableEq, Repr

/-- `onCommit` holds the trades whose status is derived when the atomic block ends,
`statusWrites` every write of a status of a trade. -/
structure OrderDb where
  trades : Table SaleTrade
  orders : Table SaleOrder
  refunds : Table SaleRefund
  packageSkuItems : Table PackageSkuItem
  inBlock : Bool
  onCommit : List Nat
  statusWrites : List StatusWrite

abbrev OrderTx (α : Type) := Tx OrderDb Exn α

/-- What other parts of the shop say: the skus there are, the model of a product and
the source of a model, whether an item can be assigned at once, the team of a team
order, and how the work ends that a cancelled item and a confirmed refund set off. -/
structure Surroundings where
  productSku : Nat → Bool
  modelId : Nat → Option Nat
  sourceType : Nat → Option Nat
  canAssign : Nat → Int → Bool
  teambuyCanSend : String → Except Exn Bool
  arrangementCancelled : Except Exn Unit
  afterwards : Except Exn Unit

namespace OrderDb

def saleOrders (s : OrderDb) (trade : Nat) : List SaleOrder :=
  s.orders.filter fun order => order.saleTradeId = trade

def statuses (s : OrderDb) (trade : Nat) : List TradeStatus :=
  (s.saleOrders trade).map SaleOrder.status

def normalOrders (s : OrderDb) (trade : Nat) : List SaleOrder :=
  (s.saleOrders trade).filter fun order => order.status ∈ Trade.normalOrderStatus

def finishOrders (s : OrderDb) (trade : Nat) : List SaleOrder :=
  (s.saleOrders trade).filter fun order => order.status = .tradeFinished

end OrderDb

namespace SaleTrade

def get (id : Nat) : OrderTx SaleTrade := getOr .doesNotExist fun s => s.trades.get? id

def setStatus (status : TradeStatus) (id : Nat) : OrderTx Unit :=
  modify fun s => { s with
    trades := s.trades.update (fun trade => trade.id = id) fun trade =>
      { trade with status := status }
    statusWrites := s.statusWrites ++ [⟨id, status, s.statuses id⟩] }

def setStatusIf (p : Prop) [Decidable p] (status : TradeStatus) (id : Nat) : OrderTx Unit :=
  if p then setStatus status id else pure ()

/-- The status that the orders give their trade, if they give one. -/
def derivedStatus (saleOrderStatus : List TradeStatus) : Option TradeStatus :=
  if .waitSellerSendGoods ∈ saleOrderStatus then some .waitSellerSendGoods
  else if .waitBuyerConfirmGoods ∈ saleOrderStatus then some .waitBuyerConfirmGoods
  else if .tradeBuyerSigned ∈ saleOrderStatus then some .tradeBuyerSigned
  else if .tradeClosed ∈ saleOrderStatus then some .tradeClosed
  else if .tradeFinished ∈ saleOrderStatus then
    if saleOrderStatus.all fun status =>
      status = .tradeFinished ∨ status = .tradeClosedBySys then some .tradeFinished
    else none
  else if .tradeClosedBySys ∈ saleOrderStatus then
    if saleOrderStatus.all fun status => status = .tradeClosedBySys then
      some .tradeClosedBySys
    else none
  else none

def tasksUpdateSaleTradeStatus (id : Nat) : OrderTx Unit := do
  let saleOrderStatus ← gets fun s => s.statuses id
  match derivedStatus saleOrderStatus with
  | some status => setStatus status id
  | none => pure ()

/-- A task that waits for the end of an atomic block runs at once outside of one. -/
def updateOnCommit (id : Nat) : OrderTx Unit := do
  let inBlock ← gets OrderDb.inBlock
  if inBlock then modify fun s => { s with onCommit := s.onCommit ++ [id] }
  else tasksUpdateSaleTradeStatus id

/-- The atomic block ends and its tasks run. -/
def commit : OrderTx Unit := do
  let due ← gets OrderDb.onCommit
  modify fun s => { s with inBlock := false, onCommit := [] }
  forEach due tasksUpdateSaleTradeStatus

def inAtomicBlock (m : OrderTx Unit) : OrderTx Unit :=
  atomic do
    modify fun s => { s with inBlock := true }
    m
    commit

end SaleTrade

namespace PackageSkuItem

def create (around : Surroundings) (order : SaleOrder) : OrderTx Unit := do
  raiseIf (around.productSku order.skuId = false) .doesNotExist
  modify fun s => { s with
    packageSkuItems := s.packageSkuItems.insert
      { id := 0
        saleOrderId := order.id
        oid := order.oid
        skuId := order.skuId
        num := order.num
        assignStatus :=
          if around.canAssign order.skuId order.num then .assigned else .notAssigned } }

def toCancel (item : PackageSkuItem) : PackageSkuItem := { item with assignStatus := .canceled }

def setStatusCancel (around : Surroundings) (item : PackageSkuItem) : OrderTx Unit := do
  raiseIf (item.assignStatus = .canceled)
    (.exception ("已取消的包裹商品不能再次取消:" ++ toString item.id))
  raiseIf (item.assignStatus = .finished)
    (.exception ("已发货的包裹商品不能取消:" ++ toString item.id))
  ofExcept around.arrangementCancelled
  modify fun s => { s with packageSkuItems := s.packageSkuItems.save item.toCancel }

def get (id : Nat) : OrderTx PackageSkuItem :=
  getOr .doesNotExist fun s => s.packageSkuItems.get? id

def toSent (item : PackageSkuItem) : PackageSkuItem := { item with assignStatus := .finished }

/-- A weighed package is sent with the items that are assigned. -/
def setStatusSent (item : PackageSkuItem) : OrderTx Unit :=
  if item.assignStatus = .assigned then
    modify fun s => { s with packageSkuItems := s.packageSkuItems.save item.toSent }
  else pure ()

end PackageSkuItem

namespace SaleOrder

def get (id : Nat) : OrderTx SaleOrder := getOr .doesNotExist fun s => s.orders.get? id

def updateSaletradeStatus (order : SaleOrder) : OrderTx Unit :=
  if order.status = .noCreatePay ∨ order.status = .waitBuyerPay then pure ()
  else SaleTrade.updateOnCommit order.saleTradeId

def save (order : SaleOrder) : OrderTx Unit := do
  modify fun s => { s with orders := s.orders.save order }
  order.updateSaletradeStatus

def saveStatus (status : TradeStatus) (order : SaleOrder) : OrderTx Unit := do
  modify fun s => { s with
    orders := s.orders.update (fun row => row.id = order.id) fun row =>
      { row with status := status } }
  updateSaletradeStatus { order with status := status }

def insert (order : SaleOrder) : OrderTx SaleOrder := do
  let taken ← gets fun s => (s.orders.first fun row => row.oid = order.oid).isSome
  raiseIf (taken = true) .integrityError
  let stored ← gets fun s => s.orders.stored order
  modify fun s => { s with orders := s.orders.insert order }
  stored.updateSaletradeStatus
  pure stored

def packageSku (s : OrderDb) (order : SaleOrder) : Option PackageSkuItem :=
  s.packageSkuItems.first fun item => item.saleOrderId = order.id

def oidBase (oid : String) : String := String.ofList (oid.toList.takeWhile (· ≠ '-'))

def teambuyCanSend (around : Surroundings) (trade : SaleTrade) (order : SaleOrder) :
    OrderTx Bool :=
  if trade.orderType = .teambuyOrder then ofExcept (around.teambuyCanSend (oidBase order.oid))
  else pure true

/-- An order gets one package item, whatever becomes of it. -/
def setPsiPaid (around : Surroundings) (order : SaleOrder) : OrderTx Unit := do
  let trade ← SaleTrade.get order.saleTradeId
  if trade.orderType ∈ [Trade.OrderType.reserveOrder, .depositeOrder, .electronicGoodsOrder] then
    pure ()
  else do
    let canSend ← order.teambuyCanSend around trade
    let item ← gets fun s => order.packageSku s
    if canSend ∧ item.isNone then PackageSkuItem.create around order else pure ()

def setPsiCancel (around : Surroundings) (order : SaleOrder) : OrderTx Unit := do
  let item ← gets fun s => order.packageSku s
  match item with
  | some item => item.setStatusCancel around
  | none => pure ()

def canChangeSku (order : SaleOrder) : Bool :=
  order.status = .waitSellerSendGoods &&
    order.refundStatus ∉ [RefundStatus.refundWaitReturnGoods, .refundConfirmGoods,
      .refundApprove, .refundSuccess]

/-- An order in the place of `old`. -/
def inPlaceOf (old : SaleOrder) (oid : String) (skuId : Nat) (num : Int) : SaleOrder :=
  { old with
    oid := oid
    skuId := skuId
    num := num
    status := .waitSellerSendGoods
    refundId := none
    refundFee := 0
    refundStatus := .noRefund }

def numbered (old : SaleOrder) (cnt : Nat) : String := oidBase old.oid ++ "-" ++ toString cnt

/-- A refund that succeeds closes an order, unless the order is finished. -/
def closedByRefund (status : TradeStatus) : TradeStatus :=
  match status with
  | .waitSellerSendGoods | .waitBuyerConfirmGoods | .tradeBuyerSigned => .tradeClosed
  | _ => status

end SaleOrder

/-! ## Orders in the place of another -/

namespace SaleTrade

open SaleOrder

def placeOrder (around : Surroundings) (order : SaleOrder) : OrderTx Unit := do
  let stored ← order.insert
  stored.setPsiPaid around

/-- Items are made for the orders of an ordinary trade only. -/
def setOrderPaid (around : Surroundings) (id : Nat) : OrderTx Unit := do
  let trade ← get id
  let orders ← gets fun s => s.saleOrders trade.id
  if trade.orderType = .saleOrder then forEach orders (setPsiPaid around) else pure ()

def closedBySys (order : SaleOrder) : SaleOrder := { order with status := .tradeClosedBySys }

/-- The count in the number of another delivery. -/
def redeliveryCount (s : OrderDb) (old : SaleOrder) : Nat :=
  if '-' ∈ old.oid.toList then
    ((s.saleOrders old.saleTradeId).filter fun order =>
      old.oid.toList.isPrefixOf order.oid.toList).length
  else 1

def cancelWaiting (around : Surroundings) (order : SaleOrder) : OrderTx Unit :=
  if order.status = .waitSellerSendGoods then order.setPsiCancel around else pure ()

/-- The status is tested after it has been overwritten. -/
def redeliverSkuItem (around : Surroundings) (oldSaleOrder : SaleOrder) : OrderTx Unit := do
  raiseIf (around.productSku oldSaleOrder.skuId = false) .doesNotExist
  (closedBySys oldSaleOrder).save
  cancelWaiting around (closedBySys oldSaleOrder)
  let cnt ← gets fun s => redeliveryCount s oldSaleOrder
  placeOrder around
    (oldSaleOrder.inPlaceOf (oldSaleOrder.numbered cnt) oldSaleOrder.skuId oldSaleOrder.num)

def changeSkuItem (around : Surroundings) (skuId : Nat) (num : Int)
    (oldSaleOrder : SaleOrder) : OrderTx Unit := do
  raiseIf (oldSaleOrder.canChangeSku = false) (.exception "已发货或退款的商品不能执行换货")
  raiseIf (around.productSku skuId = false) .doesNotExist
  (closedBySys oldSaleOrder).save
  (closedBySys oldSaleOrder).setPsiCancel around
  let cnt ← gets fun s => (s.saleOrders oldSaleOrder.saleTradeId).length
  placeOrder around (oldSaleOrder.inPlaceOf (oldSaleOrder.numbered cnt) skuId num)

def reissueOrderByIncompleteRefund (around : Surroundings) (num : Int)
    (oldSaleOrder : SaleOrder) : OrderTx Unit := do
  let cnt ← gets fun s => (s.saleOrders oldSaleOrder.saleTradeId).length
  placeOrder around
    (oldSaleOrder.inPlaceOf (oldSaleOrder.numbered cnt) oldSaleOrder.skuId num)

end SaleTrade

namespace SaleRefund

/-- A refund of everything closes the order, a closed one finishes it. -/
def syncStatus (refund : SaleRefund) (order : SaleOrder) : TradeStatus :=
  if refund.refundNum = order.num then
    match refund.status with
    | .refundSuccess => .tradeClosed
    | .refundClosed => .tradeFinished
    | _ => order.status
  else order.status

/-- An order as a saved refund leaves it; it takes the number of its first refund. -/
def sync (refund : SaleRefund) (order : SaleOrder) : SaleOrder :=
  { order with
    status := refund.syncStatus order
    refundStatus := refund.status
    refundId := some (order.refundId.getD refund.id)
    refundFee := if order.refundId.isNone then refund.refundFee else order.refundFee }

/-- The orders are counted before the order of the refund is saved. -/
def syncTrade (refund : SaleRefund) (trade : Nat) : OrderTx Unit := do
  let orders ← gets fun s => s.statuses trade
  match refund.status with
  | .refundSuccess =>
      SaleTrade.setStatusIf (∀ status ∈ orders, status = .tradeClosed) .tradeClosed trade
  | .refundClosed =>
      SaleTrade.setStatusIf (∀ status ∈ orders, status = .tradeFinished) .tradeFinished trade
  | _ => pure ()

def syncSaleRefundStatus (refund : SaleRefund) : OrderTx Unit := do
  let order ← SaleOrder.get refund.orderId
  let trade ← SaleTrade.get refund.tradeId
  refund.syncTrade trade.id
  (refund.sync order).save

def save (refund : SaleRefund) : OrderTx Unit := do
  modify fun s => { s with refunds := s.refunds.save refund }
  refund.syncSaleRefundStatus

def insert (refund : SaleRefund) : OrderTx Unit := do
  let taken ← gets fun s => (s.refunds.first fun row =>
    row.tradeId = refund.tradeId ∧ row.orderId = refund.orderId).isSome
  raiseIf (taken = true) .integrityError
  let stored ← gets fun s => s.refunds.stored refund
  modify fun s => { s with refunds := s.refunds.insert refund }
  stored.syncSaleRefundStatus

def ofOrder (saleorder : SaleOrder) (refundNum : Int) (refundFee : Nat)
    (goodStatus : GoodStatus) : SaleRefund where
  id := 0
  tradeId := saleorder.saleTradeId
  orderId := saleorder.id
  refundNum := refundNum
  refundFee := refundFee
  goodStatus := goodStatus
  status := .refundWaitSellerAgree

def createSalerefund (refundNum : Int) (refundFee : Nat) (goodStatus : GoodStatus)
    (saleorder : SaleOrder) : OrderTx Unit :=
  insert (ofOrder saleorder refundNum refundFee goodStatus)

def get (id : Nat) : OrderTx SaleRefund := getOr .doesNotExist fun s => s.refunds.get? id

def succeeded (refund : SaleRefund) : SaleRefund := { refund with status := .refundSuccess }

/-- What has not been refunded of an order that waits to be sent is sent by a new one. -/
def reissueRest (around : Surroundings) (refund : SaleRefund) (sorder : SaleOrder) :
    OrderTx Unit :=
  if sorder.status = .waitSellerSendGoods ∧ 0 < sorder.num - refund.refundNum then
    SaleTrade.reissueOrderByIncompleteRefund around (sorder.num - refund.refundNum) sorder
  else pure ()

def closeTrade (trade : Nat) : OrderTx Unit := do
  let normalOrders ← gets fun s => s.normalOrders trade
  SaleTrade.setStatusIf (normalOrders.length = 0) .tradeClosed trade

def cancelItem (around : Surroundings) (refund : SaleRefund) (sorder : SaleOrder) :
    OrderTx Unit :=
  if refund.goodStatus ∈ [GoodStatus.buyerNotReceived, .sellerOutStock] then
    sorder.setPsiCancel around
  else pure ()

/-- The order is closed, the trade with the last of its orders, and the coupons are
given back before the item is cancelled. -/
def closeOrder (around : Surroundings) (refund : SaleRefund) (sorder : SaleOrder) :
    OrderTx Unit := do
  sorder.saveStatus (SaleOrder.closedByRefund sorder.status)
  closeTrade sorder.saleTradeId
  ofExcept around.afterwards
  refund.cancelItem around sorder

def refundConfirm (around : Surroundings) (refund : SaleRefund) : OrderTx Unit := do
  let srefund ← getOr .doesNotExist fun s => s.refunds.get? refund.id
  if srefund.status = .refundSuccess then pure ()
  else do
    refund.succeeded.save
    let sorder ← SaleOrder.get refund.orderId
    refund.reissueRest around sorder
    refund.closeOrder around sorder

end SaleRefund

namespace SaleOrder

def orderWaitConfirmToFinishedDays : Int := 14

def orderSignedToFinishedDays : Int := 7

def day : Int := 86400

/-- Whole days from a time that may be missing. -/
def daysSince (now : Nat) (time : Option Nat) : Int :=
  match time with
  | some time => (now - time : Int) / day
  | none => 0

def refundableStatus : List RefundStatus :=
  [.refundWaitSellerAgree, .refundWaitReturnGoods, .refundConfirmGoods, .refundApprove,
    .refundSuccess]

/-- Goods of the third source are never finished by the task. -/
def fromThirdSource (around : Surroundings) (order : SaleOrder) : Except Exn Bool :=
  match around.modelId order.itemId with
  | none => .error .attributeError
  | some 0 => .ok false
  | some model =>
      match around.sourceType model with
      | none => .error .attributeError
      | some source => .ok (source = 3)

/-- Whether the order has waited long enough. -/
def waited (now : Nat) (order : SaleOrder) : Bool :=
  let deltaDays := daysSince now order.consignTime
  match order.status with
  | .waitBuyerConfirmGoods => orderWaitConfirmToFinishedDays < deltaDays
  | .tradeBuyerSigned =>
      order.signTime.isNone || orderSignedToFinishedDays < daysSince now order.signTime ||
        orderWaitConfirmToFinishedDays < deltaDays
  | _ => false

def isFinishable (around : Surroundings) (now : Nat) (order : SaleOrder) : Except Exn Bool :=
  (fromThirdSource around order).map fun third =>
    !third && order.refundStatus ∉ refundableStatus && order.waited now

/-- The orders that the daily task looks at. -/
def isDue (now preDays : Nat) (order : SaleOrder) : Bool :=
  (order.status = .waitBuyerConfirmGoods || order.status = .tradeBuyerSigned) &&
    order.payTime.any fun payTime => payTime + preDays * 86400 ≤ now

end SaleOrder

namespace SaleTrade

def pushStatus (trade : Nat) : OrderTx Unit := do
  let normalNum ← gets fun s => (s.normalOrders trade).length
  setStatusIf (normalNum = 0) .tradeClosed trade
  let finishNum ← gets fun s => (s.finishOrders trade).length
  setStatusIf (normalNum = finishNum) .tradeFinished trade

def finishIf (finishable : Bool) (sorder : SaleOrder) : OrderTx Unit :=
  if finishable then sorder.saveStatus .tradeFinished else pure ()

def pushOrder (around : Surroundings) (now : Nat) (sorder : SaleOrder) : OrderTx Unit := do
  let finishable ← ofExcept (sorder.isFinishable around now)
  finishIf finishable sorder
  pushStatus sorder.saleTradeId

def taskPushSaleTradeFinished (around : Surroundings) (now preDays : Nat) : OrderTx Unit := do
  let sorders ← gets fun s => s.orders.filter (SaleOrder.isDue now preDays)
  forEach sorders (pushOrder around now)

end SaleTrade

end ShopManager.Pay.Order
