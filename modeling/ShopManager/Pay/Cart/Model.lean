import ShopManager.Library.Rounding
import ShopManager.Pay.Cart.Discount
import ShopManager.Pay.Trade.Model

/-!
# Orders from the shopping cart

A customer orders the lines of the cart or one SKU at once.  The quantities, the numbers and
the amounts come from the client; they are checked before the customer is locked, and the
trade, its orders and the closed carts are written in one transaction.  Amounts are in cents.
-/

namespace ShopManager.Pay.Cart

open Library Library.Tx Library.Rounding
open Coupon (CouponDb)
open Trade (PayStatus TradeStatus parseCouponIdsFromPayExtras)

/-- `perLimitBuyNum` is the limit of the model for one customer, `mamaDiscount` the discount
of the details where it is a number. -/
structure Product where
  id : Nat
  upShelf : Bool
  perLimitBuyNum : Option Int
  mamaDiscount : Option Int
  deriving DecidableEq, Repr

instance : Row Product where
  pk := Product.id
  withPk n product := { product with id := n }

/-- `statLockNum` is the lock number of the `SkuStock`, where there is one. -/
structure ProductSku where
  id : Nat
  productId : Nat
  agentPrice : Int
  remainNum : Int
  lockNum : Int
  statLockNum : Option Int
  deriving DecidableEq, Repr

instance : Row ProductSku where
  pk := ProductSku.id
  withPk n sku := { sku with id := n }

inductive CartStatus where
  | normal
  | cancel
  deriving DecidableEq, Repr

structure ShoppingCart where
  id : Nat
  buyerId : Nat
  itemId : Nat
  skuId : Nat
  price : Int
  num : Int
  status : CartStatus
  deriving DecidableEq, Repr

instance : Row ShoppingCart where
  pk := ShoppingCart.id
  withPk n cart := { cart with id := n }

/-- `coupon` holds the texts of `extras_info`. -/
structure SaleTrade where
  id : Nat
  tid : String
  buyerId : Nat
  totalFee : Int
  payment : Int
  postFee : Int
  discountFee : Int
  coupon : List String
  payExtras : String
  status : TradeStatus
  payStatus : PayStatus
  deriving DecidableEq, Repr

instance : Row SaleTrade where
  pk := SaleTrade.id
  withPk n trade := { trade with id := n }

/-- `cart` is no column: the cart line that the order is made of. -/
structure SaleOrder where
  id : Nat
  saleTradeId : Nat
  itemId : Nat
  skuId : Nat
  num : Int
  payment : Int
  discountFee : Int
  totalFee : Int
  price : Int
  status : TradeStatus
  cart : Option Nat
  deriving DecidableEq, Repr

instance : Row SaleOrder where
  pk := SaleOrder.id
  withPk n order := { order with id := n }

structure CartDb where
  customers : List Nat
  products : Table Product
  productSkus : Table ProductSku
  carts : Table ShoppingCart
  trades : Table SaleTrade
  orders : Table SaleOrder
  coupon : CouponDb

abbrev CartTx (α : Type) := Tx CartDb Exn α

/-! ## Requests -/

/-- The amounts of a request as it names them; what is missing is checked as nought. -/
structure Amounts where
  totalFee : Option Int
  payment : Option Int
  postFee : Option Int
  discountFee : Option Int
  deriving DecidableEq, Repr

/-- What both kinds of requests name. -/
structure Submission where
  uuid : Option String
  customer : Nat
  amounts : Amounts
  payExtras : String
  couponId : Option String
  deriving DecidableEq, Repr

/-- `cart_ids`: the numbers among its pieces. -/
structure CartRequest extends Submission where
  cartIds : List Nat
  deriving DecidableEq, Repr

/-- `num` is 1 where it is missing. -/
structure BuynowRequest extends Submission where
  itemId : Nat
  skuId : Nat
  num : Int
  deriving DecidableEq, Repr

/-- What is ordered, as the checks have read it. -/
inductive Goods where
  | lines (carts : List ShoppingCart)
  | sku (product : Product) (sku : ProductSku) (num : Int)
  deriving DecidableEq, Repr

/-- A request that the checks have let through. -/
structure Prepared extends Submission where
  goods : Goods
  deriving DecidableEq, Repr

/-- A code of the answer, or an exception that the view lets through. -/
inductive Refusal where
  | code (n : Nat)
  | raised (e : Exn)
  deriving DecidableEq, Repr

/-- What other parts of the shop say: the pattern of a number, the level of the mama of a
customer, what a customer has bought of a SKU lately, the other checks (virtual goods,
address, identity, channel), and how the other steps of the creation end (the amounts paid
by wallet and coins, and the hooks of what is stored). -/
structure Surroundings where
  uuidOk : String → Bool
  agencylevel : Nat → Option Int
  userSkunum : Nat → Nat → Int
  otherChecks : Prepared → Option Nat
  tradeParams : Prepared → Except Exn Unit
  afterwards : Prepared → Except Exn Unit

namespace ProductSku

def freeNum (sku : ProductSku) : Int :=
  max (sku.remainNum - max (sku.statLockNum.getD sku.lockNum) 0) 0

/-- The discount of an agent for a piece, in cents. -/
def calcDiscountFee (agencylevel : Option Int) (product : Option Product) (sku : ProductSku) :
    Int :=
  match agencylevel, product.bind Product.mamaDiscount with
  | some level, some discount =>
      if level < 2 then 0
      else halfEven ((100 - max 0 (min discount 100)) * sku.agentPrice) 100
  | _, _ => 0

end ProductSku

namespace Amounts

/-- The comparisons of an amount with what the goods cost.  The fee is in cents, the discount
in hundredths of a cent. -/
def refusal (fee discount : Int) (amounts : Amounts) : Option Nat :=
  let discount := min discount (100 * fee)
  if discount < 100 * amounts.discountFee.getD 0 then some 4
  else
    let due := 100 * (fee + amounts.postFee.getD 0) - discount
    if amounts.postFee.getD 0 < 0 ∨ amounts.payment.getD 0 < 0 ∨
        1000 < |100 * amounts.payment.getD 0 - due| ∨ 10 < |amounts.totalFee.getD 0 - fee| then
      some 11
    else none

end Amounts

section Checks

variable (around : Surroundings) (rules : CouponRules) (s : CartDb)

def isGoodEnough (cart : ShoppingCart) : Except Exn Bool :=
  match s.productSkus.get? cart.skuId with
  | none => .error .doesNotExist
  | some sku =>
      match s.products.get? sku.productId with
      | none => .error .doesNotExist
      | some product => .ok (product.upShelf && decide (cart.num ≤ sku.freeNum))

/-- The lines in turn: each is good enough and has a product.  They cost so much. -/
def cartTotal : List ShoppingCart → Except Refusal Int
  | [] => .ok 0
  | cart :: carts =>
      match isGoodEnough s cart with
      | .error e => .error (.raised e)
      | .ok false => .error (.code 2)
      | .ok true =>
          if s.products.get? cart.itemId = none then .error (.raised .attributeError)
          else do
            let rest ← cartTotal carts
            .ok (cart.price * cart.num + rest)

/-- The discount, the amounts and the other checks, the same for both views.  The agent's
discount is in hundredths of a cent. -/
def checkSubmission (prepared : Prepared) (itemIds : List Nat) (fee agentDiscount : Int) :
    Except Refusal Prepared :=
  match calcExtraDiscount rules
      ⟨itemIds, prepared.customer, 100 * fee - agentDiscount, prepared.uuid⟩ s.coupon
      prepared.payExtras with
  | .error _ => .error (.code 3)
  | .ok discount =>
      match prepared.amounts.refusal fee (agentDiscount + 100 * discount) with
      | some n => .error (.code n)
      | none =>
          match around.otherChecks prepared with
          | some n => .error (.code n)
          | none => .ok prepared

variable {around rules s} in
theorem checkSubmission_ok {prepared accepted : Prepared} {itemIds : List Nat}
    {fee agentDiscount : Int}
    (h : checkSubmission around rules s prepared itemIds fee agentDiscount = .ok accepted) :
    accepted = prepared ∧ ∃ discount, calcExtraDiscount rules
      ⟨itemIds, prepared.customer, 100 * fee - agentDiscount, prepared.uuid⟩ s.coupon
        prepared.payExtras = .ok discount ∧
      prepared.amounts.refusal fee (agentDiscount + 100 * discount) = none := by
  unfold checkSubmission at h
  split at h
  · cases h
  · next discount hdiscount =>
      split at h
      · cases h
      · next hrefusal =>
          split at h
          · cases h
          · exact ⟨(Except.ok.inj h).symm, discount, hdiscount, hrefusal⟩

/-- The checks of `shoppingcart_create`.  The status of a cart is not looked at. -/
def checkCart (request : CartRequest) : Except Refusal Prepared :=
  let carts := s.carts.filter fun cart =>
    cart.id ∈ request.cartIds ∧ cart.buyerId = request.customer
  if carts.length ≠ request.cartIds.length then .error (.code 1)
  else
    match cartTotal s carts with
    | .error refusal => .error refusal
    | .ok fee =>
        checkSubmission around rules s ⟨request.toSubmission, .lines carts⟩
          (carts.map ShoppingCart.itemId) fee 0

def isQuantityLockable (sku : ProductSku) (num : Int) : Bool :=
  match (s.products.get? sku.productId).bind Product.perLimitBuyNum with
  | none => true
  | some limit => num ≤ limit

/-- The checks of `buynow_create`.  The product and the SKU are looked up apart.  The agent's
discount is in yuan where everything else is in cents: a hundredth of it is taken off. -/
def checkBuynow (request : BuynowRequest) : Except Refusal Prepared :=
  match s.products.get? request.itemId, s.productSkus.get? request.skuId with
  | none, _ | _, none => .error (.code 404)
  | some product, some sku =>
      if isQuantityLockable s sku (request.num + around.userSkunum request.customer sku.id) =
          false then .error (.code 2)
      else if sku.freeNum < request.num ∨ product.upShelf = false then .error (.code 2)
      else
        checkSubmission around rules s ⟨request.toSubmission, .sku product sku request.num⟩
          [request.itemId] (sku.agentPrice * request.num)
          (sku.calcDiscountFee (around.agencylevel request.customer)
            (s.products.get? sku.productId) * request.num)

end Checks

/-! ## The transaction -/

/-- `float(None)` raises. -/
def amount (value : Option Int) : CartTx Int := getOr (.exception "TypeError") fun _ => value

def couponTexts (prepared : Prepared) : List String :=
  match parseCouponIdsFromPayExtras prepared.payExtras with
  | [] => prepared.couponId.toList.filter fun text => text ≠ ""
  | texts => texts

/-- The trade of the number, and whether it is new. -/
def createSaletrade (around : Surroundings) (prepared : Prepared) : CartTx (SaleTrade × Bool) := do
  let tuuid ← getOr (.exception "TypeError") fun _ => prepared.uuid
  raiseIf (around.uuidOk tuuid = false) (.assertion "订单UUID异常")
  let customer ← getOr .doesNotExist fun s => s.customers.find? fun id => id = prepared.customer
  let saleTrade ← gets fun s => s.trades.first fun trade => trade.tid = tuuid
  match saleTrade with
  | some trade => do
      raiseIf (trade.buyerId ≠ customer) (.exception "该订单号被重用")
      pure (trade, false)
  | none => do
      let payment ← amount prepared.amounts.payment
      ofExcept (around.tradeParams prepared)
      let totalFee ← amount prepared.amounts.totalFee
      let postFee ← amount prepared.amounts.postFee
      let discountFee ← amount prepared.amounts.discountFee
      let trade : SaleTrade := {
        id := 0
        tid := tuuid
        buyerId := customer
        totalFee := totalFee
        payment := payment
        postFee := postFee
        discountFee := discountFee
        coupon := couponTexts prepared
        payExtras := prepared.payExtras
        status := .waitBuyerPay
        payStatus := .paying }
      let stored ← gets fun s => s.trades.stored trade
      modify fun s => { s with trades := s.trades.insert trade }
      pure (stored, true)

def share (amount totalFee cartTotalFee : Int) : Int :=
  if 0 < totalFee ∧ 0 < cartTotalFee then halfEven (amount * cartTotalFee) totalFee else 0

def orderOfCart (trade : SaleTrade) (cart : ShoppingCart) : SaleOrder where
  id := 0
  saleTradeId := trade.id
  itemId := cart.itemId
  skuId := cart.skuId
  num := cart.num
  payment := share (trade.payment - trade.postFee) trade.totalFee (cart.price * cart.num)
  discountFee := share trade.discountFee trade.totalFee (cart.price * cart.num)
  totalFee := cart.price * cart.num
  price := cart.price
  status := .waitBuyerPay
  cart := some cart.id

def createOrderOfCart (trade : SaleTrade) (cart : ShoppingCart) : CartTx Unit := do
  let _ ← getOr .doesNotExist fun s => s.products.get? cart.itemId
  let _ ← getOr .doesNotExist fun s => s.productSkus.get? cart.skuId
  modify fun s => { s with orders := s.orders.insert (orderOfCart trade cart) }

/-- `close_cart(release_locknum=False)`: the line as it was read is saved. -/
def closeCart (cart : ShoppingCart) : CartTx Unit := do
  let stored ← gets fun s => s.carts.first fun c => c.id = cart.id ∧ c.status = .normal
  match stored with
  | none => pure ()
  | some _ =>
      modify fun s => { s with carts := s.carts.save { cart with status := .cancel } }

def createSaleorderByShopcart (trade : SaleTrade) (carts : List ShoppingCart) : CartTx Unit := do
  forEach carts (createOrderOfCart trade)
  forEach carts closeCart

def orderOfSku (trade : SaleTrade) (product : Product) (sku : ProductSku) (num : Int) :
    SaleOrder where
  id := 0
  saleTradeId := trade.id
  itemId := product.id
  skuId := sku.id
  num := num
  payment := trade.payment - trade.postFee
  discountFee := trade.discountFee
  totalFee := trade.totalFee
  price := sku.agentPrice
  status := .waitBuyerPay
  cart := none

def createSaleOrderByProductsku (trade : SaleTrade) (product : Product) (sku : ProductSku)
    (num : Int) : CartTx Unit :=
  modify fun s => { s with orders := s.orders.insert (orderOfSku trade product sku num) }

def createOrders (trade : SaleTrade) : Goods → CartTx Unit
  | .lines carts => createSaleorderByShopcart trade carts
  | .sku product sku num => createSaleOrderByProductsku trade product sku num

def createTrade (around : Surroundings) (prepared : Prepared) : CartTx Unit :=
  atomic do
    let (trade, state) ← createSaletrade around prepared
    if state then do
      createOrders trade prepared.goods
      ofExcept (around.afterwards prepared)
    else pure ()

/-- `releaseLockQuantity`, which `buynow_create` calls when the creation fails, for pieces that
nothing has locked.  `free_num` has put the number of the `SkuStock` into the row as read. -/
def releaseLockQuantity (sku : ProductSku) (num : Int) (s : CartDb) : CartDb :=
  { s with productSkus := s.productSkus.update (fun row => row.id = sku.id) fun row =>
      { row with lockNum := row.lockNum - min num (sku.statLockNum.getD sku.lockNum) } }

/-- From the lock of the customer to the end of the view, without the charge. -/
def create (around : Surroundings) (prepared : Prepared) (s : CartDb) : CartDb :=
  match (createTrade around prepared).run s, prepared.goods with
  | (.ok _, s'), _ => s'
  | (.error _, s'), .lines _ => s'
  | (.error _, s'), .sku _ sku num => releaseLockQuantity sku num s'

def shoppingcartCreate (around : Surroundings) (rules : CouponRules) (request : CartRequest)
    (s : CartDb) : CartDb :=
  match checkCart around rules s request with
  | .error _ => s
  | .ok prepared => create around prepared s

def buynowCreate (around : Surroundings) (rules : CouponRules) (request : BuynowRequest)
    (s : CartDb) : CartDb :=
  match checkBuynow around rules s request with
  | .error _ => s
  | .ok prepared => create around prepared s

end ShopManager.Pay.Cart
