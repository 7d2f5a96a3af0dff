import ShopManager.Pay.Cart.Coupons
import ShopManager.Pay.Cart.Creation

/-!
# What an accepted order is for

The amounts of a trade are compared with the price of its goods, whatever the client sends.
The goods are not all looked at: a quantity need not be positive, an SKU need not be of the
product, and the lines of a cart are held against the stock one by one.
-/

namespace ShopManager.Pay.Cart

open Library Library.Tx

/-! ## Requests -/

inductive Request where
  | cart (request : CartRequest)
  | buynow (request : BuynowRequest)
  deriving DecidableEq, Repr

def CartRequest.lines (s : CartDb) (request : CartRequest) : List ShoppingCart :=
  s.carts.filter fun cart => cart.id ∈ request.cartIds ∧ cart.buyerId = request.customer

namespace Request

section Exec

variable (around : Surroundings) (rules : CouponRules)

def exec : Request → CartDb → CartDb
  | cart request, s => shoppingcartCreate around rules request s
  | buynow request, s => buynowCreate around rules request s

def check (s : CartDb) : Request → Except Refusal Prepared
  | cart request => checkCart around rules s request
  | buynow request => checkBuynow around rules s request

def priced (s : CartDb) : Request → List Nat × Int
  | cart request =>
      ((request.lines s).map ShoppingCart.itemId, (costs (request.lines s)).sum)
  | buynow request => ([request.itemId],
      ((s.productSkus.get? request.skuId).elim 0 ProductSku.agentPrice) * request.num)

def agentDiscount (s : CartDb) : Request → Int
  | cart _ => 0
  | buynow request =>
      (s.productSkus.get? request.skuId).elim 0 (fun sku =>
        sku.calcDiscountFee (around.agencylevel request.customer)
          (s.products.get? sku.productId)) * request.num

def toSubmission : Request → Submission
  | cart request => request.toSubmission
  | buynow request => request.toSubmission

def granted (s : CartDb) (request : Request) : Int :=
  request.agentDiscount around s +
    100 * (calcExtraDiscount rules
      ⟨(request.priced s).1, request.toSubmission.customer,
        100 * (request.priced s).2 - request.agentDiscount around s,
        request.toSubmission.uuid⟩ s.coupon request.toSubmission.payExtras).toOption.getD 0

end Exec

/-- Every line is for at least one piece of an SKU of its product, and lines of one SKU
together ask for no more than there is. -/
def Sound (s : CartDb) : Request → Prop
  | cart request =>
      (∀ cart ∈ request.lines s, 1 ≤ cart.num ∧
        ∃ sku ∈ s.productSkus, sku.id = cart.skuId ∧ sku.productId = cart.itemId) ∧
      ∀ sku ∈ s.productSkus,
        2 ≤ (request.lines s).countP (fun cart => cart.skuId = sku.id) →
          ((request.lines s).map fun cart => if cart.skuId = sku.id then cart.num else 0).sum ≤
            sku.freeNum
  | buynow request => 1 ≤ request.num ∧
      ∃ sku ∈ s.productSkus, sku.id = request.skuId ∧ sku.productId = request.itemId

end Request

def newTrades (s s' : CartDb) : List SaleTrade :=
  s'.trades.filter fun trade => s.trades.get? (Row.pk trade) = none

def newOrders (s s' : CartDb) : List SaleOrder :=
  s'.orders.filter fun order => s.orders.get? (Row.pk order) = none

def ordered (skuId : Nat) (orders : List SaleOrder) : Int :=
  (orders.map fun order => if order.skuId = skuId then order.num else 0).sum

def ordersCost (orders : List SaleOrder) : Int :=
  (orders.map fun order => order.price * order.num).sum

/-- The orders are for pieces of the products that they name, of which there are enough. -/
structure ForGoods (s : CartDb) (orders : List SaleOrder) : Prop where
  goods : ∀ order ∈ orders, 1 ≤ order.num ∧
    ∃ sku ∈ s.productSkus, sku.id = order.skuId ∧ sku.productId = order.itemId
  stock : ∀ sku ∈ s.productSkus, ordered sku.id orders ≤ sku.freeNum

structure AtPrice (granted : Int) (trade : SaleTrade) (orders : List SaleOrder) : Prop where
  total : |trade.totalFee - ordersCost orders| ≤ 10
  post : 0 ≤ trade.postFee
  payment : max 0 (100 * (ordersCost orders + trade.postFee) -
    min granted (100 * ordersCost orders) - 1000) ≤ 100 * trade.payment

structure RealGoods (granted : Int) (s s' : CartDb) (trade : SaleTrade) : Prop where
  goods : ForGoods s (newOrders s s')
  price : AtPrice granted trade (newOrders s s')

theorem not_mem_newTrades {s : CartDb} {trade : SaleTrade} : trade ∉ newTrades s s := by
  intro hnew
  obtain ⟨hmem, hnone⟩ := List.mem_filter.1 hnew
  simp [Table.get?_eq_some.2 ⟨hmem, rfl⟩] at hnone

def SaleOrder.unnumbered (order : SaleOrder) : SaleOrder := { order with id := 0 }

theorem map_unnumbered {trade : SaleTrade} {goods : Goods} {new : List SaleOrder}
    (h : List.Forall₂ (fun planned order => order = { planned with id := order.id })
      (plannedOrders trade goods) new) :
    new.map SaleOrder.unnumbered = plannedOrders trade goods := by
  have hzero : ∀ planned ∈ plannedOrders trade goods, planned.id = 0 := by
    intro planned hmem
    cases goods with
    | lines carts =>
      obtain ⟨cart, -, rfl⟩ := List.mem_map.1 hmem
      rfl
    | sku product sku num =>
      obtain rfl := List.mem_singleton.1 hmem
      rfl
  generalize plannedOrders trade goods = all at h hzero
  induction h with
  | nil => rfl
  | @cons planned order all new hfirst _ ih =>
    rw [List.map_cons, ih fun p hp => hzero p (List.mem_cons_of_mem _ hp)]
    congr 1
    unfold SaleOrder.unnumbered
    have hid : planned.id = 0 := hzero planned List.mem_cons_self
    rw [hfirst, ← hid]

theorem ordered_unnumbered (skuId : Nat) (orders : List SaleOrder) :
    ordered skuId (orders.map SaleOrder.unnumbered) = ordered skuId orders := by
  unfold ordered
  rw [List.map_map]
  rfl

theorem ordersCost_unnumbered (orders : List SaleOrder) :
    ordersCost (orders.map SaleOrder.unnumbered) = ordersCost orders := by
  unfold ordersCost
  rw [List.map_map]
  rfl

theorem forGoods_unnumbered {s : CartDb} {orders : List SaleOrder} :
    ForGoods s (orders.map SaleOrder.unnumbered) ↔ ForGoods s orders := by
  constructor
  · intro h
    refine ⟨fun order horder => ?_, fun sku hsku => ?_⟩
    · have hmem : order.unnumbered ∈ orders.map SaleOrder.unnumbered :=
        List.mem_map_of_mem horder
      exact h.goods order.unnumbered hmem
    · rw [← ordered_unnumbered]
      exact h.stock sku hsku
  · intro h
    refine ⟨fun order horder => ?_, fun sku hsku => ?_⟩
    · obtain ⟨order, hmem, rfl⟩ := List.mem_map.1 horder
      exact h.goods order hmem
    · rw [ordered_unnumbered]
      exact h.stock sku hsku

/-! ## The checks -/

theorem refusal_eq_none {fee discount : Int} {amounts : Amounts}
    (h : amounts.refusal fee discount = none) :
    |amounts.totalFee.getD 0 - fee| ≤ 10 ∧ 0 ≤ amounts.postFee.getD 0 ∧
      max 0 (100 * (fee + amounts.postFee.getD 0) - min discount (100 * fee) - 1000) ≤
        100 * amounts.payment.getD 0 := by
  unfold Amounts.refusal at h
  dsimp only at h
  split at h
  · cases h
  · split at h
    · cases h
    · next hdue =>
        simp only [not_or, not_lt] at hdue
        obtain ⟨hpost, hpayment, hclose, htotal⟩ := hdue
        refine ⟨htotal, hpost, max_le (by linarith) ?_⟩
        have hbelow := (abs_le.1 hclose).1
        linarith

theorem isGoodEnough_ok {s : CartDb} {cart : ShoppingCart}
    (h : isGoodEnough s cart = .ok true) :
    ∀ sku ∈ s.productSkus, cart.skuId = sku.id → cart.num ≤ sku.freeNum := by
  intro sku hsku hid
  unfold isGoodEnough at h
  have hget : s.productSkus.get? cart.skuId = some sku := Table.get?_eq_some.2 ⟨hsku, hid.symm⟩
  rw [hget] at h
  dsimp only at h
  split at h
  · cases h
  · have hboth := Except.ok.inj h
    rw [Bool.and_eq_true, decide_eq_true_iff] at hboth
    exact hboth.2

theorem cartTotal_ok {s : CartDb} : ∀ {carts : List ShoppingCart} {fee : Int},
    cartTotal s carts = .ok fee →
      fee = (costs carts).sum ∧ ∀ cart ∈ carts, isGoodEnough s cart = .ok true := by
  intro carts
  induction carts with
  | nil =>
    intro fee h
    refine ⟨(Except.ok.inj h).symm, fun cart hcart => ?_⟩
    cases hcart
  | cons cart carts ih =>
    intro fee h
    unfold cartTotal at h
    split at h
    · cases h
    · cases h
    · next hgood =>
        split at h
        · cases h
        · cases hrest : cartTotal s carts with
          | error refusal =>
            rw [hrest] at h
            cases h
          | ok rest =>
            rw [hrest] at h
            obtain ⟨rfl, hall⟩ := ih hrest
            refine ⟨(Except.ok.inj h).symm, fun c hc => ?_⟩
            rcases List.mem_cons.1 hc with rfl | hc
            · exact hgood
            · exact hall c hc

section Requests

variable {around : Surroundings} {rules : CouponRules} {s : CartDb} {prepared : Prepared}

theorem checkCart_ok {request : CartRequest}
    (h : checkCart around rules s request = .ok prepared) :
    prepared = ⟨request.toSubmission, .lines (request.lines s)⟩ ∧
      (request.lines s).length = request.cartIds.length ∧
      (∀ cart ∈ request.lines s, isGoodEnough s cart = .ok true) ∧
      request.amounts.refusal (costs (request.lines s)).sum
        ((Request.cart request).granted around rules s) = none := by
  unfold checkCart at h
  dsimp only at h
  split at h
  · cases h
  · next hlength =>
    split at h
    · cases h
    · next fee hfee =>
        obtain ⟨rfl, hgood⟩ := cartTotal_ok hfee
        obtain ⟨rfl, discount, hdiscount, hrefusal⟩ := checkSubmission_ok h
        refine ⟨rfl, not_not.1 hlength, hgood, ?_⟩
        have hgranted : (Request.cart request).granted around rules s = 0 + 100 * discount :=
          congrArg (fun r : Except Exn Int => 0 + 100 * r.toOption.getD 0) hdiscount
        rw [hgranted]
        exact hrefusal

theorem checkBuynow_ok {request : BuynowRequest}
    (h : checkBuynow around rules s request = .ok prepared) :
    ∃ product sku, s.products.get? request.itemId = some product ∧
      s.productSkus.get? request.skuId = some sku ∧
      prepared = ⟨request.toSubmission, .sku product sku request.num⟩ ∧
      request.num ≤ sku.freeNum ∧
      request.amounts.refusal (sku.agentPrice * request.num)
        ((Request.buynow request).granted around rules s) = none := by
  unfold checkBuynow at h
  split at h
  · cases h
  · cases h
  · next product sku hproduct hsku =>
      split at h
      · cases h
      · split at h
        · cases h
        · next hstock =>
            rw [not_or, not_lt] at hstock
            obtain ⟨rfl, discount, hdiscount, hrefusal⟩ := checkSubmission_ok h
            refine ⟨product, sku, hproduct, hsku, rfl, hstock.1, ?_⟩
            have hagent : (Request.buynow request).agentDiscount around s =
                sku.calcDiscountFee (around.agencylevel request.customer)
                  (s.products.get? sku.productId) * request.num := by
              change (s.productSkus.get? request.skuId).elim 0 _ * request.num = _
              rw [hsku]
              rfl
            have hpriced : (Request.buynow request).priced s =
                ([request.itemId], sku.agentPrice * request.num) := by
              change (_, (s.productSkus.get? request.skuId).elim 0 _ * request.num) = _
              rw [hsku]
              rfl
            unfold Request.granted
            rw [hagent, hpriced]
            change request.amounts.refusal _ (_ + 100 * (Except.toOption (calcExtraDiscount rules
              ⟨[request.itemId], request.customer, _, request.uuid⟩ s.coupon
                request.payExtras)).getD 0) = none
            rw [hdiscount]
            exact hrefusal

theorem exec_eq (request : Request) :
    request.exec around rules s = match request.check around rules s with
      | .error _ => s
      | .ok prepared => create around prepared s := by
  cases request <;> rfl

/-! ## The goods of a request -/

theorem sum_ite_of_countP_lt_two {α : Type} (p : α → Prop) [DecidablePred p] (f : α → Int) :
    ∀ {l : List α}, l.countP (fun a => p a) < 2 →
      (l.map fun a => if p a then f a else 0).sum = 0 ∨
        ∃ a ∈ l, p a ∧ (l.map fun a => if p a then f a else 0).sum = f a := by
  have hnone : ∀ {l : List α}, l.countP (fun a => p a) = 0 →
      (l.map fun a => if p a then f a else 0).sum = 0 := by
    intro l h
    refine List.sum_eq_zero fun x hx => ?_
    obtain ⟨a, ha, rfl⟩ := List.mem_map.1 hx
    have hp := List.countP_eq_zero.1 h a ha
    exact if_neg (by simpa using hp)
  intro l
  induction l with
  | nil => exact fun _ => .inl rfl
  | cons a l ih =>
    intro h
    by_cases hp : p a
    · right
      rw [List.countP_cons_of_pos (by simpa using hp)] at h
      refine ⟨a, List.mem_cons_self, hp, ?_⟩
      rw [List.map_cons, List.sum_cons, if_pos hp, hnone (by omega), add_zero]
    · rw [List.countP_cons_of_neg (by simpa using hp)] at h
      rw [List.map_cons, List.sum_cons, if_neg hp, zero_add]
      rcases ih h with hzero | ⟨b, hb, hpb, hsum⟩
      · exact .inl hzero
      · exact .inr ⟨b, List.mem_cons_of_mem _ hb, hpb, hsum⟩

theorem freeNum_nonneg (sku : ProductSku) : 0 ≤ sku.freeNum := le_max_right _ _

theorem lines_within_stock {carts : List ShoppingCart}
    (hgood : ∀ cart ∈ carts, isGoodEnough s cart = .ok true) {sku : ProductSku}
    (hsku : sku ∈ s.productSkus)
    (htwice : 2 ≤ carts.countP (fun cart => cart.skuId = sku.id) →
      (carts.map fun cart => if cart.skuId = sku.id then cart.num else 0).sum ≤ sku.freeNum) :
    (carts.map fun cart => if cart.skuId = sku.id then cart.num else 0).sum ≤ sku.freeNum := by
  by_cases hcount : 2 ≤ carts.countP fun cart => cart.skuId = sku.id
  · exact htwice hcount
  · rcases sum_ite_of_countP_lt_two (fun cart : ShoppingCart => cart.skuId = sku.id)
      ShoppingCart.num (not_le.1 hcount) with hzero | ⟨cart, hcart, hid, hsum⟩
    · rw [hzero]
      exact freeNum_nonneg sku
    · rw [hsum]
      exact isGoodEnough_ok (hgood cart hcart) sku hsku hid

theorem ordered_lines (trade : SaleTrade) (carts : List ShoppingCart) (skuId : Nat) :
    ordered skuId (plannedOrders trade (.lines carts)) =
      (carts.map fun cart => if cart.skuId = skuId then cart.num else 0).sum := by
  unfold ordered plannedOrders
  rw [List.map_map]
  rfl

theorem ordersCost_lines (trade : SaleTrade) (carts : List ShoppingCart) :
    ordersCost (plannedOrders trade (.lines carts)) = (costs carts).sum := by
  unfold ordersCost plannedOrders
  rw [List.map_map]
  rfl

theorem check_ok (request : Request) (trade : SaleTrade)
    (h : request.check around rules s = .ok prepared) :
    prepared.toSubmission = request.toSubmission ∧
      request.toSubmission.amounts.refusal (ordersCost (plannedOrders trade prepared.goods))
        (request.granted around rules s) = none ∧
      (ForGoods s (plannedOrders trade prepared.goods) ↔ request.Sound s) := by
  cases request with
  | cart request =>
    obtain ⟨rfl, -, hgood, hrefusal⟩ := checkCart_ok h
    refine ⟨rfl, by rw [ordersCost_lines]; exact hrefusal, ?_⟩
    constructor
    · intro hgoods
      refine ⟨fun cart hcart => hgoods.goods _ (List.mem_map_of_mem hcart), ?_⟩
      intro sku hsku _
      rw [← ordered_lines trade]
      exact hgoods.stock sku hsku
    · rintro ⟨hlines, htwice⟩
      refine ⟨fun order horder => ?_, fun sku hsku => ?_⟩
      · obtain ⟨cart, hcart, rfl⟩ := List.mem_map.1 horder
        exact hlines cart hcart
      · rw [ordered_lines]
        exact lines_within_stock hgood hsku (htwice sku hsku)
  | buynow request =>
    obtain ⟨product, sku, hproduct, hsku, rfl, hstock, hrefusal⟩ := checkBuynow_ok h
    obtain ⟨-, hitem⟩ := Table.get?_eq_some.1 hproduct
    obtain ⟨hmem, hid⟩ := Table.get?_eq_some.1 hsku
    have hcost : ordersCost (plannedOrders trade (.sku product sku request.num)) =
        sku.agentPrice * request.num := add_zero _
    refine ⟨rfl, by rw [hcost]; exact hrefusal, ?_⟩
    have hitem' : product.id = request.itemId := hitem
    have hid' : sku.id = request.skuId := hid
    constructor
    · intro hgoods
      obtain ⟨hnum, other, hother, hsame, hproductId⟩ := hgoods.goods _ List.mem_cons_self
      exact ⟨hnum, other, hother, hsame.trans hid', hproductId.trans hitem'⟩
    · rintro ⟨hnum, other, hother, hsame, hproductId⟩
      refine ⟨fun order horder => ?_, fun sku' hsku' => ?_⟩
      · obtain rfl := List.mem_singleton.1 horder
        exact ⟨hnum, other, hother, hsame.trans hid'.symm, hproductId.trans hitem'.symm⟩
      · have hsum : ordered sku'.id (plannedOrders trade (.sku product sku request.num)) =
            if sku.id = sku'.id then request.num else 0 := add_zero _
        rw [hsum]
        split
        · next heq =>
            have hsame : sku = sku' := Table.pk_inj hmem hsku' heq
            exact hsame ▸ hstock
        · exact freeNum_nonneg sku'

end Requests

def minusOneRequest : BuynowRequest where
  uuid := some "xd170101klmnopqrst"
  customer := 1
  amounts := ⟨some (-3990), some 0, some 0, some (-3990)⟩
  payExtras := ""
  couponId := none
  itemId := 7
  skuId := 21
  num := -1

end ShopManager.Pay.Cart
