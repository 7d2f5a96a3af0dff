import ShopManager.Library.Execution
import ShopManager.Pay.Cart.Model

/-!
# Pieces that carts and unpaid trades hold

A cart reserves pieces of a SKU for twenty minutes, an unpaid trade for as long as it may be
paid.  Three columns of the `SkuStock` count them: the save handlers queue recounts, the
creation of a cart also adds to its column, and a payment restates its columns at once.  A
scheduled task closes what is overdue.  Times are in microseconds.
-/

namespace ShopManager.Pay.Reserved

open Library Library.Tx
open Cart (CartStatus)
open Trade (TradeStatus normalOrderStatus)

structure Product where
  id : Nat
  onshelf : Bool
  isSeckill : Bool
  deriving DecidableEq, Repr

instance : Row Product where
  pk := Product.id
  withPk n product := { product with id := n }

structure ProductSku where
  id : Nat
  productId : Nat
  propertiesName : String
  propertiesAlias : String
  normal : Bool
  deriving DecidableEq, Repr

instance : Row ProductSku where
  pk := ProductSku.id
  withPk n sku := { sku with id := n }

inductive CartType where
  | flashsale
  | teambuy
  | secondbuy
  | boutiquebuy
  | virtualbuy
  deriving DecidableEq, Repr

structure ShoppingCart where
  id : Nat
  buyerId : Nat
  itemId : Nat
  skuId : Nat
  num : Int
  type : CartType
  remainTime : Option Nat
  status : CartStatus
  deriving DecidableEq, Repr

instance : Row ShoppingCart where
  pk := ShoppingCart.id
  withPk n cart := { cart with id := n }

structure SaleTrade where
  id : Nat
  tid : String
  buyerId : Nat
  created : Nat
  status : TradeStatus
  deriving DecidableEq, Repr

instance : Row SaleTrade where
  pk := SaleTrade.id
  withPk n trade := { trade with id := n }

structure SaleOrder where
  id : Nat
  saleTradeId : Nat
  itemId : Nat
  skuId : Nat
  num : Int
  created : Nat
  status : TradeStatus
  deriving DecidableEq, Repr

instance : Row SaleOrder where
  pk := SaleOrder.id
  withPk n order := { order with id := n }

structure SkuStock where
  shoppingcartNum : Int
  waitingpayNum : Int
  paidNum : Int
  deriving DecidableEq, Repr

inductive StockField where
  | shoppingcartNum
  | waitingpayNum
  | paidNum
  deriving DecidableEq, Repr

/-- What a save handler leaves to be done after the commit. -/
inductive Job where
  | shoppingcartCreated (skuId : Nat) (num : Int)
  | shoppingcartSaved (skuId : Nat)
  | saleorderSaved (orderId : Nat)
  deriving DecidableEq, Repr

/-- `stocks` holds the `SkuStock` of a SKU, `pending` the jobs in the order they were queued,
`notified` the numbers of the trades that were handed to `notifyTradePayTask`. -/
structure ReserveDb where
  carts : Table ShoppingCart
  trades : Table SaleTrade
  orders : Table SaleOrder
  stocks : Nat → Option SkuStock
  pending : List Job
  notified : List String

abbrev ReserveTx (α : Type) := Tx ReserveDb Exn α

/-- The goods.  `isDeposit` is the test of the item and of the SKU of an order. -/
structure Shop where
  products : Table Product
  productSkus : Table ProductSku
  isDeposit : Nat → Nat → Bool

/-- What one call of the timeout task meets: the time, `Charge.retrieve` with the paid flag of
the charge it finds, and whether the wallet, the coins and the coupons of a trade can be given
back. -/
structure Surroundings where
  now : Nat
  retrieve : String → Except Exn (Option Bool)
  released : String → Bool

def twentyMinutes : Nat := 20 * 60 * 1000000

def productSkuStatsCommitTime : Nat := (16911 * 86400 + 60 * 60) * 1000000

def timeForPayment : Nat := 25 * 60

/-! ## Statistics of a SKU -/

def Shop.productId (shop : Shop) (skuId : Nat) : Option Nat :=
  (shop.productSkus.get? skuId).map ProductSku.productId

/-- `status__in=[2, 3, 4, 5]`. -/
def paidStatus : List TradeStatus :=
  [.waitSellerSendGoods, .waitBuyerConfirmGoods, .tradeBuyerSigned, .tradeFinished]

def cartCount (skuId : Nat) (cart : ShoppingCart) : Int :=
  if cart.skuId = skuId ∧ cart.status = .normal then cart.num else 0

def waitingpayCount (skuId : Nat) (order : SaleOrder) : Int :=
  if order.skuId = skuId ∧ order.status = .waitBuyerPay then order.num else 0

def paidCount (skuId : Nat) (order : SaleOrder) : Int :=
  if order.skuId = skuId ∧ order.status ∈ paidStatus ∧
      productSkuStatsCommitTime < order.created then order.num else 0

/-- One column as `restat` defines it. -/
def restatField (s : ReserveDb) (skuId : Nat) (stock : SkuStock) : StockField → SkuStock
  | .shoppingcartNum => { stock with shoppingcartNum := s.carts.sum (cartCount skuId) }
  | .waitingpayNum => { stock with waitingpayNum := s.orders.sum (waitingpayCount skuId) }
  | .paidNum => { stock with paidNum := s.orders.sum (paidCount skuId) }

def restat (s : ReserveDb) (skuId : Nat) (needStat : List StockField) (stock : SkuStock) :
    SkuStock :=
  needStat.foldl (restatField s skuId) stock

def putStock (skuId : Nat) (stock : SkuStock) (s : ReserveDb) : ReserveDb :=
  { s with stocks := Function.update s.stocks skuId (some stock) }

/-- `get_by_sku`: the row of a known SKU is made at its first use. -/
def SkuStock.getBySku (shop : Shop) (skuId : Nat) : ReserveTx SkuStock := do
  let stat ← gets fun s => s.stocks skuId
  match stat with
  | some stat => pure stat
  | none => do
      let _ ← getOr .doesNotExist fun _ => shop.productSkus.get? skuId
      modify (putStock skuId ⟨0, 0, 0⟩)
      pure ⟨0, 0, 0⟩

def statSign : Bool := true

/-- `stat_save`.  With `stat` the values that were set are counted again. -/
def SkuStock.statSave (skuId : Nat) (updateFields : List StockField) (stat : Bool)
    (stock : SkuStock) : ReserveTx Unit :=
  modify fun s => putStock skuId (if stat then restat s skuId updateFields stock else stock) s

def SkuStock.setOrderPaidNum (skuId : Nat) (num : Int) : ReserveTx Unit := do
  let stock ← getOr .doesNotExist fun s => s.stocks skuId
  SkuStock.statSave skuId [.paidNum, .waitingpayNum] statSign
    { stock with
      paidNum := stock.paidNum + num
      waitingpayNum := stock.waitingpayNum - num }

/-- `task_shoppingcart_update_productskustats_shoppingcart_num`. -/
def recountShoppingcartNum (shop : Shop) (skuId : Nat) : ReserveTx Unit := do
  let total ← gets fun s => s.carts.sum (cartCount skuId)
  let stat ← SkuStock.getBySku shop skuId
  if stat.shoppingcartNum ≠ total then
    modify (putStock skuId { stat with shoppingcartNum := total })
  else pure ()

/-- `task_saleorder_update_productskustats_waitingpay_num`, which counts the orders of the
SKU's own product. -/
def recountWaitingpayNum (shop : Shop) (skuId : Nat) : ReserveTx Unit := do
  let productId ← getOr .doesNotExist fun _ => shop.productId skuId
  let total ← gets fun s => s.orders.sum fun order =>
    if order.itemId = productId then waitingpayCount skuId order else 0
  let stat ← SkuStock.getBySku shop skuId
  if stat.waitingpayNum ≠ total then
    modify (putStock skuId { stat with waitingpayNum := total })
  else pure ()

def ShoppingCart.save (cart : ShoppingCart) : ReserveTx Unit :=
  modify fun s =>
    { s with
      carts := s.carts.save cart
      pending := s.pending ++ [.shoppingcartSaved cart.skuId] }

def ShoppingCart.insert (cart : ShoppingCart) : ReserveTx Unit :=
  modify fun s =>
    { s with
      carts := s.carts.insert cart
      pending := s.pending ++ [.shoppingcartCreated cart.skuId cart.num] }

def SaleOrder.save (order : SaleOrder) : ReserveTx Unit :=
  modify fun s =>
    { s with
      orders := s.orders.save order
      pending := s.pending ++ [.saleorderSaved order.id] }

def SaleOrder.insert (order : SaleOrder) : ReserveTx Unit :=
  modify fun s =>
    { s with
      orders := s.orders.insert order
      pending := s.pending ++ [.saleorderSaved s.orders.nextId] }

def SaleTrade.save (trade : SaleTrade) : ReserveTx Unit :=
  modify fun s => { s with trades := s.trades.save trade }

/-- `is_payable`.  The days of the difference are not looked at. -/
def SaleTrade.isPayable (now : Nat) (trade : SaleTrade) : Bool :=
  trade.status = .waitBuyerPay ∧
    ((max now trade.created - min now trade.created) / 1000000) % 86400 < timeForPayment

def SaleOrder.closeOrder (order : SaleOrder) : ReserveTx Unit :=
  SaleOrder.save { order with status := .tradeClosedBySys }

/-- `released` says whether the wallet, the coins and the coupons can be given back. -/
def SaleTrade.closeTrade (released : Bool) (tradeId : Nat) : ReserveTx Unit :=
  atomic do
    let st ← getOr .doesNotExist fun s => s.trades.get? tradeId
    if st.status ≠ .waitBuyerPay then pure ()
    else do
      SaleTrade.save { st with status := .tradeClosedBySys }
      let normalOrders ← gets fun s => s.orders.filter fun order =>
        order.saleTradeId = st.id ∧ order.status ∈ normalOrderStatus
      forEach normalOrders SaleOrder.closeOrder
      raiseIf (released = false) .doesNotExist

/-- `set_status_paid`, with the order as it leaves it. -/
def SaleOrder.setStatusPaid (shop : Shop) (order : SaleOrder) : ReserveTx SaleOrder := do
  let order := { order with
    status := if shop.isDeposit order.itemId order.skuId then .tradeFinished
      else .waitSellerSendGoods }
  SaleOrder.save order
  SkuStock.setOrderPaidNum order.skuId order.num
  pure order

def SaleTrade.payOrder (shop : Shop) (order : SaleOrder) : ReserveTx Unit := do
  let order ← SaleOrder.setStatusPaid shop order
  if shop.isDeposit order.itemId order.skuId ∧ order.status = .waitSellerSendGoods then
    SaleOrder.save { order with status := .tradeFinished }
  else pure ()

/-- `charge_confirm`: the wallet and the coupons are settled before the orders are paid, which
`confirmed` lets through. -/
def SaleTrade.chargeConfirm (shop : Shop) (confirmed : Bool) (tradeId : Nat) :
    ReserveTx Unit :=
  atomic do
    let st ← getOr .doesNotExist fun s => s.trades.get? tradeId
    if st.status ≠ .waitBuyerPay then pure ()
    else do
      SaleTrade.save { st with status := .waitSellerSendGoods }
      raiseIf (confirmed = false) .doesNotExist
      let orders ← gets fun s => s.orders.filter fun order => order.saleTradeId = st.id
      forEach orders (SaleTrade.payOrder shop)

/-- `close_cart`, which saves the line as it was read. -/
def ShoppingCart.closeCart (shop : Shop) (releaseLocknum : Bool) (cart : ShoppingCart) :
    ReserveTx Unit :=
  atomic do
    let stored ← gets fun s => s.carts.first fun c => c.id = cart.id ∧ c.status = .normal
    match stored with
    | none => pure ()
    | some _ => do
        ShoppingCart.save { cart with status := .cancel }
        raiseIf (releaseLocknum = true ∧ shop.productSkus.get? cart.skuId = none) .doesNotExist

def deleteCarts (shop : Shop) (pk : Nat) : ReserveTx Unit := do
  let cart ← getOr .doesNotExist fun s => s.carts.get? pk
  ShoppingCart.closeCart shop true cart

/-- A line that a customer asks for.  `lockable` and `freeNum` are what the limit for one
customer and the stock leave. -/
structure CartRequest where
  customer : Nat
  itemId : Nat
  skuId : Nat
  num : Int
  type : CartType
  now : Nat
  lockable : Bool
  freeNum : Int

/-- The SKU that a request means: one of another product is replaced by a normal one of the
product with its name. -/
def Shop.requestedSku (shop : Shop) (itemId skuId : Nat) : Option ProductSku :=
  match shop.productSkus.get? skuId with
  | none => none
  | some sku =>
      if sku.productId = itemId then some sku
      else
        let pname := if sku.propertiesName = "" then sku.propertiesAlias else sku.propertiesName
        shop.productSkus.first fun other =>
          other.productId = itemId ∧ other.normal ∧
            (other.propertiesName = pname ∨ other.propertiesAlias = pname)

/-- The carts that `get_owner_queryset` finds. -/
def ownCart (customer : Nat) (cart : ShoppingCart) : Bool :=
  cart.buyerId = customer ∧ cart.status = .normal

def newCart (request : CartRequest) (skuId : Nat) (num : Int) : ShoppingCart where
  id := 0
  buyerId := request.customer
  itemId := request.itemId
  skuId := skuId
  num := num
  type := request.type
  remainTime := some (request.now + twentyMinutes)
  status := .normal

/-- `create` of the carts, second version of the interface. -/
def createCart (shop : Shop) (request : CartRequest) : ReserveTx Unit := do
  let product ← getOr (.exception "2") fun _ => shop.products.get? request.itemId
  raiseIf (product.isSeckill = true) (.exception "2")
  raiseIf (product.onshelf = false) (.exception "3")
  let sku ← getOr (.exception "8") fun _ => shop.requestedSku request.itemId request.skuId
  raiseIf (request.lockable = false) (.exception "4")
  let shopCart ← gets fun s => s.carts.first fun cart =>
    cart.itemId = request.itemId ∧ cart.skuId = sku.id ∧ cart.type = request.type ∧
      ownCart request.customer cart
  raiseIf (request.type ∈ [.flashsale, .boutiquebuy, .virtualbuy] ∧ shopCart.isSome)
    (.exception "6")
  raiseIf (request.freeNum < request.num) (.exception "5")
  ShoppingCart.insert (newCart request sku.id request.num)
  modify fun s =>
    { s with
      carts := s.carts.update (ownCart request.customer) fun cart =>
        { cart with remainTime := some (request.now + twentyMinutes) } }

def extendCart (now : Nat) (cart : ShoppingCart) : ReserveTx Unit :=
  ShoppingCart.save { cart with remainTime := some (now + twentyMinutes) }

/-- `create` of the first version: one piece, of the item and of the SKU as they are sent.  The
line that is already in the cart grows by one. -/
def createCartV1 (shop : Shop) (request : CartRequest) : ReserveTx Unit := do
  let product ← getOr .doesNotExist fun _ => shop.products.get? request.itemId
  raiseIf (product.isSeckill = true) (.exception "秒杀商品不能加购物车")
  raiseIf (product.onshelf = false) (.exception "商品已下架")
  let sku ← getOr .doesNotExist fun _ => shop.productSkus.get? request.skuId
  raiseIf (request.lockable = false) (.exception "该商品已限购")
  raiseIf (request.freeNum < 1) (.exception "商品库存不足")
  let shopCart ← gets fun s => s.carts.first fun cart =>
    cart.itemId = request.itemId ∧ cart.skuId = sku.id ∧ cart.type = .flashsale ∧
      ownCart request.customer cart
  match shopCart with
  | some cart => ShoppingCart.save { cart with num := cart.num + 1 }
  | none => do
      ShoppingCart.insert (newCart request sku.id 1)
      let queryset ← gets fun s => s.carts.filter (ownCart request.customer)
      forEach queryset (extendCart request.now)

/-- `plus_product_carts` of the second version. -/
def plusProductCarts (customer pk : Nat) (lockable locked : Bool) (freeNum : Int) :
    ReserveTx Unit := do
  let cart ← getOr .doesNotExist fun s => s.carts.first fun cart =>
    cart.id = pk ∧ ownCart customer cart
  raiseIf (lockable = false) (.exception "商品数量限购")
  raiseIf (freeNum ≤ cart.num ∨ locked = false) (.exception "商品库存不足")
  ShoppingCart.save { cart with num := cart.num + 1 }

def minusProductCarts (pk : Nat) : ReserveTx Unit := do
  let cart ← getOr .doesNotExist fun s => s.carts.get? pk
  raiseIf (cart.num ≤ 1) (.exception "至少购买一件")
  ShoppingCart.save { cart with num := cart.num - 1 }

/-- `queryset.update(num=…)`, which calls no save handler. -/
def updateNum (cart : ShoppingCart) (num : Int) : ReserveTx Unit :=
  modify fun s => { s with carts := s.carts.save { cart with num := num } }

/-- `plus_product_carts` of the first version. -/
def plusProductCartsV1 (customer pk : Nat) (lockable locked : Bool) : ReserveTx Unit := do
  let cart ← getOr .doesNotExist fun s => s.carts.first fun cart =>
    cart.id = pk ∧ ownCart customer cart
  raiseIf (lockable = false) (.exception "商品数量限购")
  raiseIf (locked = false) (.exception "商品库存不足")
  updateNum cart (cart.num + 1)

def minusProductCartsV1 (pk : Nat) : ReserveTx Unit := do
  let cart ← getOr .doesNotExist fun s => s.carts.get? pk
  raiseIf (cart.num ≤ 1) (.exception "至少购买一件")
  updateNum cart (cart.num - 1)

/-- `create_Saletrade`: a number that is already used gives its trade back. -/
def createSaletrade (customer : Nat) (tid : String) (now : Nat) :
    ReserveTx (SaleTrade × Bool) := do
  let saleTrade ← gets fun s => s.trades.first fun trade => trade.tid = tid
  match saleTrade with
  | some trade => do
      raiseIf (trade.buyerId ≠ customer) (.exception "该订单号被重用")
      pure (trade, false)
  | none => do
      let trade : SaleTrade ← gets fun s => s.trades.stored ⟨0, tid, customer, now, .waitBuyerPay⟩
      modify fun s => { s with trades := s.trades.insert trade }
      pure (trade, true)

def createOrder (trade : SaleTrade) (itemId skuId : Nat) (num : Int) : ReserveTx Unit :=
  SaleOrder.insert ⟨0, trade.id, itemId, skuId, num, trade.created, .waitBuyerPay⟩

def createOrderOfCart (shop : Shop) (trade : SaleTrade) (cart : ShoppingCart) :
    ReserveTx Unit := do
  let _ ← getOr .doesNotExist fun _ => shop.products.get? cart.itemId
  let _ ← getOr .doesNotExist fun _ => shop.productSkus.get? cart.skuId
  createOrder trade cart.itemId cart.skuId cart.num

/-- `shoppingcart_create` from the creation of the trade on. -/
def shoppingcartCreate (shop : Shop) (customer : Nat) (tid : String) (now : Nat)
    (cartIds : List Nat) : ReserveTx Unit := do
  let cartQs ← gets fun s => s.carts.filter fun cart =>
    cart.id ∈ cartIds ∧ cart.buyerId = customer
  atomic do
    let (trade, state) ← createSaletrade customer tid now
    if state then do
      forEach cartQs (createOrderOfCart shop trade)
      forEach cartQs (ShoppingCart.closeCart shop false)
    else pure ()

/-- `buynow_create` from the creation of the trade on.  The item and the SKU are looked up one
by one. -/
def buynowCreate (shop : Shop) (customer : Nat) (tid : String) (now itemId skuId : Nat)
    (num : Int) : ReserveTx Unit := do
  let product ← getOr .doesNotExist fun _ => shop.products.get? itemId
  let sku ← getOr .doesNotExist fun _ => shop.productSkus.get? skuId
  atomic do
    let (trade, state) ← createSaletrade customer tid now
    if state then createOrder trade product.id sku.id num else pure ()

/-- `remain_time__lte=now`. -/
def overdue (now : Nat) (cart : ShoppingCart) : Bool :=
  cart.status = .normal ∧ cart.remainTime.any (· ≤ now)

/-- One trade of the loop, with the exception it catches. -/
def closeTimeoutTrade (around : Surroundings) (trade : SaleTrade) : ReserveTx Unit :=
  if trade.isPayable around.now then pure ()
  else tryCatch
    (do
      let charge ← ofExcept (around.retrieve trade.tid)
      if charge = some true then
        modify fun s => { s with notified := s.notified ++ [trade.tid] }
      else SaleTrade.closeTrade (around.released trade.tid) trade.id)
    fun _ => pure ()

/-- The trades that wait for their payment. -/
def closeTimeoutTrades (around : Surroundings) : ReserveTx Unit := do
  let allTrade ← gets fun s => s.trades.filter fun trade => trade.status = .waitBuyerPay
  forEach allTrade (closeTimeoutTrade around)

/-- `close_timeout_carts_and_orders_reset_cart_num`.  The SKUs of the overdue carts take the
place of an empty argument. -/
def closeTimeoutCartsAndOrdersResetCartNum (shop : Shop) (around : Surroundings)
    (skus : List Nat) : ReserveTx Unit := do
  let (productInCart, skus, extendSkus) ← gets fun s : ReserveDb =>
    if skus = [] then
      let overdueSkus := ((s.carts.filter (overdue around.now)).map ShoppingCart.skuId).dedup
      (overdue around.now, overdueSkus,
        ((shop.productSkus.rows.map ProductSku.id).filter fun skuId =>
          skuId ∉ overdueSkus ∧ (s.stocks skuId).any fun stock => 0 < stock.shoppingcartNum))
    else ((fun cart => cart.skuId ∈ skus ∧ overdue around.now cart), skus, [])
  modify fun s =>
    { s with carts := s.carts.update productInCart fun cart => { cart with status := .cancel } }
  forEach (skus ++ extendSkus) (recountShoppingcartNum shop)
  if skus = [] then closeTimeoutTrades around else pure ()

def taskScheduleCart (shop : Shop) (around : Surroundings) : ReserveTx Unit :=
  closeTimeoutCartsAndOrdersResetCartNum shop around []

def runJob (shop : Shop) (around : Surroundings) : Job → ReserveTx Unit
  | .shoppingcartCreated skuId num => do
      let stat ← SkuStock.getBySku shop skuId
      modify (putStock skuId { stat with shoppingcartNum := stat.shoppingcartNum + num })
      closeTimeoutCartsAndOrdersResetCartNum shop around [skuId]
  | .shoppingcartSaved skuId => recountShoppingcartNum shop skuId
  | .saleorderSaved orderId => do
      let order ← getOr .doesNotExist fun s => s.orders.get? orderId
      recountWaitingpayNum shop order.skuId

/-- The job at a place of the queue is run. -/
def runPending (shop : Shop) (around : Surroundings) (i : Nat) : ReserveTx Unit := do
  let job ← gets fun s => s.pending[i]?
  match job with
  | none => pure ()
  | some job => do
      modify fun s => { s with pending := s.pending.eraseIdx i }
      runJob shop around job

inductive ReserveOp where
  | createCart (request : CartRequest)
  | createCartV1 (request : CartRequest)
  | plusProductCarts (customer pk : Nat) (lockable locked : Bool) (freeNum : Int)
  | plusProductCartsV1 (customer pk : Nat) (lockable locked : Bool)
  | minusProductCarts (pk : Nat)
  | minusProductCartsV1 (pk : Nat)
  | closeCart (pk : Nat)
  | shoppingcartCreate (customer : Nat) (tid : String) (now : Nat) (cartIds : List Nat)
  | buynowCreate (customer : Nat) (tid : String) (now itemId skuId : Nat) (num : Int)
  | setOrderPaid (confirmed : Bool) (tradeId : Nat)
  | closeTrade (released : Bool) (tradeId : Nat)
  | taskScheduleCart (around : Surroundings)
  | runPending (around : Surroundings) (i : Nat)

def ReserveOp.tx (shop : Shop) : ReserveOp → ReserveTx Unit
  | .createCart request => Reserved.createCart shop request
  | .createCartV1 request => Reserved.createCartV1 shop request
  | .plusProductCarts customer pk lockable locked freeNum =>
      Reserved.plusProductCarts customer pk lockable locked freeNum
  | .plusProductCartsV1 customer pk lockable locked =>
      Reserved.plusProductCartsV1 customer pk lockable locked
  | .minusProductCarts pk => Reserved.minusProductCarts pk
  | .minusProductCartsV1 pk => Reserved.minusProductCartsV1 pk
  | .closeCart pk => deleteCarts shop pk
  | .shoppingcartCreate customer tid now cartIds =>
      Reserved.shoppingcartCreate shop customer tid now cartIds
  | .buynowCreate customer tid now itemId skuId num =>
      Reserved.buynowCreate shop customer tid now itemId skuId num
  | .setOrderPaid confirmed tradeId => SaleTrade.chargeConfirm shop confirmed tradeId
  | .closeTrade released tradeId => SaleTrade.closeTrade released tradeId
  | .taskScheduleCart around => Reserved.taskScheduleCart shop around
  | .runPending around i => Reserved.runPending shop around i

def ReserveOp.exec (shop : Shop) (op : ReserveOp) (s : ReserveDb) : ReserveDb :=
  ((op.tx shop).run s).2

end ShopManager.Pay.Reserved
