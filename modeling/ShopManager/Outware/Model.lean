import ShopManager.Basic
import ShopManager.Library.Table
import ShopManager.Library.Transaction

/-!
# Orders at the outside warehouse

The mall pushes its orders to an outside warehouse through a gateway, cancels them there
and is told of deliveries, of goods that lack and of the states an order passes.  Each
order number of a SKU has one row, which goes over to the next order when it is free.
-/

namespace ShopManager.Outware

open Library Library.Tx

/-- The codes of the sources that an order may have, and of a sale. -/
def sourceTypeUsual : Nat := 10
def sourceTypeCrossboader : Nat := 40
def sourceTypeBooking : Nat := 50
def orderSale : Nat := 401

inductive OrderStatus where
  | normal
  | received
  | lackgoods
  | arrived
  | sended
  | cancel
  deriving DecidableEq, Repr

structure OrderItem where
  skuOrderCode : String
  skuId : String
  quantity : Int
  deriving DecidableEq, Repr

/-- The fields of a push that are looked at, and the rest of it as a text. -/
structure DictObject where
  receiverInfo : String
  orderItems : List OrderItem
  declareType : Nat
  orderPersonIdname : String
  orderPersonIdcard : String
  data : String
  deriving DecidableEq, Repr

structure OutwareOrder where
  id : Nat
  storeCode : String
  unionOrderCode : String
  orderType : Nat
  status : OrderStatus
  state : Nat
  data : DictObject
  lackgoods : Option String
  deriving DecidableEq, Repr

instance : Row OutwareOrder where
  pk := OutwareOrder.id
  withPk n order := { order with id := n }

structure OutwareOrderSku where
  id : Nat
  unionOrderCode : String
  originSkuorderNo : String
  skuCode : String
  skuQty : Int
  isValid : Bool
  deriving DecidableEq, Repr

instance : Row OutwareOrderSku where
  pk := OutwareOrderSku.id
  withPk n sku := { sku with id := n }

inductive Action where
  | orderCreate
  | orderCancel
  | orderStateFeedback
  | orderGoodlackFeedback
  deriving DecidableEq, Repr

/-- A record of an action on an order, good or an error. -/
structure ActionRecord where
  objectId : Nat
  actionCode : Action
  good : Bool
  deriving DecidableEq, Repr

/-- What the arguments of a push say of the order. -/
structure Push where
  orderCode : String
  storeCode : String
  orderType : Nat
  dictObj : DictObject
  deriving DecidableEq, Repr

inductive Asked where
  | create (push : Push)
  | cancel
  deriving DecidableEq, Repr

/-- A request that the gateway has answered. -/
structure Request where
  order : Nat
  asked : Asked
  success : Bool
  deriving DecidableEq, Repr

/-- The tables, the records of actions and what the gateway was asked, oldest first. -/
structure OutwareDb where
  orders : Table OutwareOrder
  orderSkus : Table OutwareOrderSku
  records : List ActionRecord
  requests : List Request

abbrev OutwareTx (α : Type) := Tx OutwareDb Exn α

/-- The account at the warehouse, and the SKUs that it has been told of. -/
structure Account where
  orderPrefix : String
  skuCodes : List String
  deriving Repr

/-- What an action returns: whether it went well, and the row it is about. -/
structure Response where
  success : Bool
  object : OutwareOrder
  deriving Repr

/-- `action_decorator`: an action that returns is put on record, one that raises is not. -/
def logged (actionCode : Action) (m : OutwareTx Response) : OutwareTx Response := do
  let resp ← m
  modify fun s => { s with records := s.records ++ [⟨resp.object.id, actionCode, resp.success⟩] }
  pure resp

namespace OutwareOrder

def formatOrderCode (account : Account) (orderCode : String) : String :=
  if account.orderPrefix.toList.isPrefixOf orderCode.toList = true then orderCode
  else account.orderPrefix ++ orderCode

def save (order : OutwareOrder) : OutwareTx Unit :=
  modify fun s => { s with orders := s.orders.save order }

def find (orderCode : String) (orderType : Nat) (s : OutwareDb) : Option OutwareOrder :=
  s.orders.first fun order => order.unionOrderCode = orderCode ∧ order.orderType = orderType

def get (orderCode : String) : OutwareTx OutwareOrder := do
  match ← gets fun s => s.orders.filter fun order => order.unionOrderCode = orderCode with
  | [order] => pure order
  | [] => raise .doesNotExist
  | _ => raise .multipleObjectsReturned

def isReproducible (order : OutwareOrder) : Bool :=
  order.status = .normal || order.status = .cancel

def isActionSuccess (actionCode : Action) (order : OutwareOrder) (s : OutwareDb) : Bool :=
  s.records.any fun r => r.objectId = order.id && r.actionCode = actionCode && r.good

/-- The SKU rows of the number that are valid become invalid. -/
def releaseSkus (order : OutwareOrder) : OutwareTx Unit :=
  modify fun s => { s with
    orderSkus := s.orderSkus.update
      (fun sku => sku.unionOrderCode = order.unionOrderCode ∧ sku.isValid = true)
      (fun sku => { sku with isValid := false }) }

def changeOrderStatus (status : OrderStatus) (order : OutwareOrder) : OutwareTx Unit := do
  save { order with status := status }
  if status = .cancel then order.releaseSkus else pure ()

def changeOrderState (state : Nat) (order : OutwareOrder) : OutwareTx Unit :=
  save { order with state := state }

/-- A new row, or the one there is: with its data changed if it may be pushed again, and
as it is otherwise. -/
def createOrGet (push : Push) (orderCode : String) : OutwareTx (OutwareOrder × Bool) := do
  match ← gets (find orderCode push.orderType) with
  | none => do
      let order : OutwareOrder := {
        id := 0
        storeCode := push.storeCode
        unionOrderCode := orderCode
        orderType := push.orderType
        status := .normal
        state := 1
        data := push.dictObj
        lackgoods := none }
      let stored ← gets fun s => s.orders.stored order
      modify fun s => { s with orders := s.orders.insert order }
      pure (stored, true)
  | some order =>
      if order.isReproducible = true then do
        let order := { order with data := push.dictObj }
        order.save
        pure (order, true)
      else pure (order, false)

end OutwareOrder

namespace OutwareOrderSku

def find (originSkuorderNo : String) (s : OutwareDb) : Option OutwareOrderSku :=
  s.orderSkus.first fun sku => sku.originSkuorderNo = originSkuorderNo

def isReproducible (sku : OutwareOrderSku) : Bool := !sku.isValid

/-- A new row, or the one there is if it is of the same SKU and free. -/
def push (account : Account) (orderCode : String) (item : OrderItem) : OutwareTx Unit := do
  raiseIf (item.skuId ∉ account.skuCodes) (.exception "供应商商品规格信息未录入")
  match ← gets (find item.skuOrderCode) with
  | none =>
      modify fun s => { s with
        orderSkus := s.orderSkus.insert {
          id := 0
          unionOrderCode := orderCode
          originSkuorderNo := item.skuOrderCode
          skuCode := item.skuId
          skuQty := item.quantity
          isValid := true } }
  | some sku => do
      raiseIf (sku.skuCode ≠ item.skuId) .doesNotExist
      raiseIf (sku.isReproducible = false) (.exception "该SKU订单已存在，请先取消后重新创建")
      modify fun s => { s with
        orderSkus := s.orderSkus.save { sku with
          isValid := true
          unionOrderCode := orderCode
          skuQty := item.quantity } }

end OutwareOrderSku

namespace Push

/-- The push has its address and items and, across the border, its declaration. -/
def check (push : Push) : OutwareTx Unit := do
  raiseIf (push.dictObj.receiverInfo = "" ∨ push.dictObj.orderItems = [])
    (.exception "缺少收货地址信息/商品SKU信息")
  raiseIf (push.orderType = sourceTypeCrossboader ∧ (push.dictObj.declareType = 0 ∨
      push.dictObj.orderPersonIdname = "" ∨ push.dictObj.orderPersonIdcard = ""))
    (.exception "跨境订单需要传入报关方式以及用户身份信息")

/-- The rows of the order and of its items; whether it is to be sent. -/
def store (account : Account) (push : Push) (orderCode : String) :
    OutwareTx (OutwareOrder × Bool) := atomic do
  let found ← OutwareOrder.createOrGet push orderCode
  if found.2 = true then forEach push.dictObj.orderItems (OutwareOrderSku.push account orderCode)
  else pure ()
  pure found

end Push

/-- The gateway is asked; it answers `success`. -/
def requestGetway (order : OutwareOrder) (asked : Asked) (success : Bool) : OutwareTx Unit :=
  modify fun s => { s with requests := s.requests ++ [⟨order.id, asked, success⟩] }

def createOrder (account : Account) (success : Bool) (push : Push) : OutwareTx Response :=
  logged .orderCreate do
    push.check
    let found ← push.store account (OutwareOrder.formatOrderCode account push.orderCode)
    if found.2 = false then pure ⟨true, found.1⟩
    else do
      requestGetway found.1 (.create push) success
      if success = false then pure ⟨false, found.1⟩
      else do
        found.1.changeOrderStatus .received
        pure ⟨true, found.1⟩

/-- The gateway is asked only if a push was ever put on record as good. -/
def cancelOrder (account : Account) (success : Bool) (orderCode : String) : OutwareTx Response :=
  logged .orderCancel do
    let order ← OutwareOrder.get (OutwareOrder.formatOrderCode account orderCode)
    let pushed ← gets (order.isActionSuccess .orderCreate)
    if pushed = true then do
      requestGetway order .cancel success
      if success = false then pure ⟨false, order⟩
      else do
        order.changeOrderStatus .cancel
        pure ⟨true, order⟩
    else do
      order.changeOrderStatus .cancel
      pure ⟨true, order⟩

def updateOutwareOrderByOrderStateChange (orderCode : String) (orderStatus : Nat) :
    OutwareTx Response := logged .orderStateFeedback (atomic do
  let order ← OutwareOrder.get orderCode
  order.changeOrderState orderStatus
  pure ⟨true, order⟩)

/-- The lack is written down whatever the status of the order is. -/
def updateOutwareOrderByOrderGoodlacks (orderCode lackGoods : String) : OutwareTx Response :=
  logged .orderGoodlackFeedback (atomic do
    let order ← OutwareOrder.get orderCode
    let order := { order with lackgoods := some lackGoods }
    order.changeOrderStatus .lackgoods
    pure ⟨true, order⟩)

/-- `create_by_push_info` up to the packages: the order is looked up under the code of a
sale, which is the code of its source and not of its type. -/
def markSended (orderCode : String) : OutwareTx Unit := do
  let order ← getOr .doesNotExist (OutwareOrder.find orderCode orderSale)
  order.changeOrderStatus .sended

end ShopManager.Outware
