import ShopManager.Library.Execution
import ShopManager.Library.Table
import ShopManager.Library.Transaction

/-!
# Closing the orders of a refund

A refund is announced by `order_refund_signal`.  The handler closes the orders of the refund in
the trades that are not weighed yet or are merged into others, and gives their numbers back.  The
statuses it looks at are those by which trades are offered for merging: one list of the process.
-/

namespace ShopManager.Trades

open Library Library.Tx Library.Execution

/-! ## Rows -/

inductive SysStatus where
  | empty | waitAudit | waitPrepareSend | waitCheckBarcode | waitScanWeight | finished
  | invalid | regularRemain | onTheFly
  deriving DecidableEq, Repr

/-- `WAIT_WEIGHT_STATUS` as its module is loaded. -/
def waitWeightStatus : List SysStatus :=
  [.waitAudit, .waitPrepareSend, .regularRemain, .waitCheckBarcode, .waitScanWeight]

/-- The reason codes are a set that the column stores with commas between. -/
structure MergeTrade where
  id : Nat
  tid : String
  user : Nat
  receiverMobile : String
  receiverState : String
  receiverCity : String
  wareBy : Nat
  payTime : Option Nat
  outSid : String
  reasonCode : List String
  canReview : Bool
  sysStatus : SysStatus
  deriving DecidableEq, Repr

/-- `NORMAL` and `DELETE`; a new row may have neither. -/
inductive OrderStatus where
  | empty | normal | delete
  deriving DecidableEq, Repr

inductive RefundStatus where
  | noRefund | waitSellerAgree | waitReturnGoods | confirmGoods | refuseBuyer | closed | success
  deriving DecidableEq, Repr

structure MergeOrder where
  id : Nat
  oid : String
  mergeTrade : Nat
  num : Int
  outerId : String
  outerSkuId : String
  refundStatus : RefundStatus
  sysStatus : OrderStatus
  deriving DecidableEq, Repr

structure Product where
  id : Nat
  outerId : String
  waitPostNum : Int
  deriving DecidableEq, Repr

structure ProductSku where
  id : Nat
  outerId : String
  product : Nat
  waitPostNum : Int
  lockNum : Int
  deriving DecidableEq, Repr

instance : Row MergeTrade where
  pk := MergeTrade.id
  withPk n trade := { trade with id := n }

instance : Row MergeOrder where
  pk := MergeOrder.id
  withPk n order := { order with id := n }

instance : Row Product where
  pk := Product.id
  withPk n product := { product with id := n }

instance : Row ProductSku where
  pk := ProductSku.id
  withPk n sku := { sku with id := n }

structure SaleRefund where
  tradeId : Nat
  orderId : Nat
  deriving DecidableEq, Repr

/-- `saleTrades` and `saleOrders` give the `tid` and the `oid` of the rows that exist. -/
structure TradesDb where
  trades : Table MergeTrade
  orders : Table MergeOrder
  products : Table Product
  skus : Table ProductSku
  saleTrades : Nat → Option String
  saleOrders : Nat → Option String

/-- The tables, and the list object that the process shares. -/
structure Shop where
  db : TradesDb
  waitWeight : List SysStatus

def Shop.load (db : TradesDb) : Shop := { db := db, waitWeight := waitWeightStatus }

inductive Fault where
  | attributeError | doesNotExist | multipleObjectsReturned | productCodeDefect
  deriving DecidableEq, Repr

abbrev ShopTx (α : Type) := Tx Shop Fault α

/-- `get`: the one row that meets the condition. -/
def theOnly {α : Type} : List α → Except Fault α
  | [] => .error .doesNotExist
  | [a] => .ok a
  | _ :: _ :: _ => .error .multipleObjectsReturned

/-- The arguments of `getMergeQueryset` that it reads. -/
structure MergeQuery where
  receiverMobile : String
  state : String
  city : String
  wareBy : Option Nat
  latestPaytime : Option Nat
  deriving DecidableEq, Repr

def MergeQuery.passes (q : MergeQuery) (waitWeight : List SysStatus) (trade : MergeTrade) : Bool :=
  trade.receiverMobile = q.receiverMobile ∧ trade.sysStatus ∈ waitWeight ∧
    (q.state ≠ "" ∧ q.city ≠ "" → trade.receiverState = q.state ∧ trade.receiverCity = q.city) ∧
    (∀ wareBy ∈ q.wareBy, wareBy ≠ 0 → trade.wareBy = wareBy) ∧
    ∀ latest ∈ q.latestPaytime, ∃ paid ∈ trade.payTime, latest ≤ paid

def getMergeQueryset (s : Shop) (q : MergeQuery) : List MergeTrade :=
  if q.receiverMobile = "" then [] else s.db.trades.filter (q.passes s.waitWeight)

def Shop.saveTrade (s : Shop) (trade : MergeTrade) : Shop :=
  { s with db := { s.db with trades := s.db.trades.save trade } }

def Shop.saveOrder (s : Shop) (order : MergeOrder) : Shop :=
  { s with db := { s.db with orders := s.db.orders.save order } }

def Shop.saveProduct (s : Shop) (product : Product) : Shop :=
  { s with db := { s.db with products := s.db.products.save product } }

def Shop.saveSku (s : Shop) (sku : ProductSku) : Shop :=
  { s with db := { s.db with skus := s.db.skus.save sku } }

/-- `product__outer_id=outer_id`. -/
def TradesDb.ofProduct (db : TradesDb) (outerId : String) (sku : ProductSku) : Bool :=
  ∃ product ∈ db.products.rows, product.id = sku.product ∧ product.outerId = outerId

def TradesDb.postSku (db : TradesDb) (outerId outerSkuId : String) (sku : ProductSku) : Bool :=
  sku.outerId = outerSkuId && db.ofProduct outerId sku

def TradesDb.lockSku (db : TradesDb) (outerId outerSkuId : String) (sku : ProductSku) : Bool :=
  (sku.outerId = outerSkuId || sku.outerId = outerId ++ outerSkuId) && db.ofProduct outerId sku

/-- No row is a defect of the codes; several rows are an error of their own. -/
def codeDefect {α : Type} : Except Fault α → Except Fault α
  | .error .doesNotExist => .error .productCodeDefect
  | r => r

def reduceWaitPostNumByCode (outerId outerSkuId : String) (orderNum : Int) : ShopTx Unit := do
  let s ← gets id
  if outerSkuId ≠ "" then
    let sku ← ofExcept (codeDefect (theOnly (s.db.skus.filter (s.db.postSku outerId outerSkuId))))
    modify fun s => s.saveSku { sku with waitPostNum := sku.waitPostNum - orderNum }
  else
    let product ← ofExcept
      (codeDefect (theOnly (s.db.products.filter fun p => p.outerId = outerId)))
    modify fun s => s.saveProduct { product with waitPostNum := product.waitPostNum - orderNum }

def reduceLockNumByCode (outerId outerSkuId : String) (orderNum : Int) : ShopTx Unit := do
  let s ← gets id
  let sku ← ofExcept (codeDefect (theOnly (s.db.skus.filter (s.db.lockSku outerId outerSkuId))))
  modify fun s => s.saveSku { sku with lockNum := sku.lockNum - orderNum }

def MergeOrder.trade (order : MergeOrder) : ShopTx MergeTrade :=
  getOr .doesNotExist fun s => s.db.trades.get? order.mergeTrade

/-- `refresh_trade_status` for a deleted order.  What the save of the trade starts concerns its
packages. -/
def refreshTradeStatus (instance' : MergeOrder) : ShopTx Unit := do
  let s ← gets id
  if .normal ∈ (s.db.orders.filter fun o => o.mergeTrade = instance'.mergeTrade).map
      MergeOrder.sysStatus then
    pure ()
  else do
    let trade ← instance'.trade
    modify fun s => s.saveTrade { trade with sysStatus := .invalid }

def newRefundCode : String := "2"

/-- `append_reason_code`, with a code that is no system error. -/
def MergeTrade.appendReasonCode (code : String) (trade : MergeTrade) : MergeTrade :=
  { trade with
    reasonCode := trade.reasonCode.insert code
    canReview := trade.canReview &&
      !decide (trade.sysStatus = .waitCheckBarcode ∨ trade.sysStatus = .waitScanWeight)
    sysStatus :=
      if trade.outSid = "" ∧ trade.sysStatus = .waitPrepareSend then .waitAudit
      else trade.sysStatus }

def closeOrder (morder : MergeOrder) : ShopTx Unit := do
  modify fun s => s.saveOrder { morder with refundStatus := .waitSellerAgree, sysStatus := .delete }
  refreshTradeStatus morder
  let trade ← morder.trade
  let itrade := trade.appendReasonCode newRefundCode
  modify fun s => s.saveTrade itrade
  if itrade.sysStatus = .onTheFly then
    pure ()
  else do
    reduceWaitPostNumByCode morder.outerId morder.outerSkuId morder.num
    reduceLockNumByCode morder.outerId morder.outerSkuId morder.num

def closable (s : Shop) (oid : String) (user : Nat) (morder : MergeOrder) : Bool :=
  morder.oid = oid ∧ morder.sysStatus = .normal ∧
    ∃ trade ∈ s.db.trades.rows, trade.id = morder.mergeTrade ∧ trade.user = user ∧
      trade.sysStatus ∈ s.waitWeight

/-- `.first()` of a row: rows have no such attribute. -/
def MergeTrade.first (_trade : MergeTrade) : ShopTx (Option MergeTrade) := raise .attributeError

def SaleRefund.getTid (obj : SaleRefund) : ShopTx String :=
  getOr .attributeError fun s => s.db.saleTrades obj.tradeId

def SaleRefund.getOid (obj : SaleRefund) : ShopTx String :=
  getOr .attributeError fun s => s.db.saleOrders obj.orderId

/-- `normal_status_list` is the list of the module itself, which grows. -/
def appendNormalStatus : ShopTx Unit :=
  modify fun s => { s with waitWeight := s.waitWeight ++ [.onTheFly] }

def closeRefunded (obj : SaleRefund) : ShopTx Unit := do
  let tradeTid ← obj.getTid
  let tradeOid ← obj.getOid
  appendNormalStatus
  let s ← gets id
  let found ← ofExcept (theOnly (s.db.trades.filter fun t => t.tid = tradeTid))
  match ← found.first with
  | none => pure ()
  | some mtrade => forEach (s.db.orders.filter (closable s tradeOid mtrade.user)) closeOrder

def refundUpdateOrderInfo (obj : SaleRefund) : ShopTx Unit :=
  tryCatch (closeRefunded obj) fun _ => pure ()

def signal (obj : SaleRefund) (s : Shop) : Shop := ((refundUpdateOrderInfo obj).run s).2

end ShopManager.Trades
