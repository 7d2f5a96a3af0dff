import ShopManager.Pay.Cart.Model

/-!
# What a trade costs is split over its lines

Each line of the cart gets its share of the payment and of the discount, rounded to the cent
for itself.  The orders together pay what the trade does exactly when the roundings cancel.
-/

namespace ShopManager.Pay.Cart

open Library Library.Tx Library.Rounding

/-! ## The shares -/

def costs (carts : List ShoppingCart) : List Int := carts.map fun cart => cart.price * cart.num

def leftover (amount totalFee cost : Int) : Int :=
  if 0 < cost then residue (amount * cost) totalFee else amount * cost

/-- The roundings of the shares of an amount cancel; without a total there is nothing to
share. -/
def Cancels (amount totalFee : Int) (costs : List Int) : Prop :=
  if 0 < totalFee then (costs.map (leftover amount totalFee)).sum = 0 else amount = 0

instance (amount totalFee : Int) (costs : List Int) : Decidable (Cancels amount totalFee costs) :=
  inferInstanceAs (Decidable (if 0 < totalFee then (costs.map (leftover amount totalFee)).sum = 0
    else amount = 0))

theorem mul_share (amount : Int) {totalFee : Int} (h : 0 < totalFee) (cost : Int) :
    totalFee * share amount totalFee cost = amount * cost - leftover amount totalFee cost := by
  unfold share leftover
  by_cases hcost : 0 < cost
  · rw [if_pos ⟨h, hcost⟩, if_pos hcost, mul_halfEven]
  · rw [if_neg fun hand => hcost hand.2, if_neg hcost, mul_zero, sub_self]

theorem sum_share_iff (amount : Int) {costs : List Int} {totalFee : Int}
    (htotal : costs.sum = totalFee) :
    (costs.map (share amount totalFee)).sum = amount ↔ Cancels amount totalFee costs := by
  unfold Cancels
  by_cases h : 0 < totalFee
  · rw [if_pos h]
    have hsum : ∀ cs : List Int, totalFee * (cs.map (share amount totalFee)).sum =
        amount * cs.sum - (cs.map (leftover amount totalFee)).sum := by
      intro cs
      induction cs with
      | nil => simp
      | cons cost cs ih =>
        simp only [List.map_cons, List.sum_cons, mul_add, ih, mul_share amount h]
        ring
    have hall := hsum costs
    rw [htotal, mul_comm amount totalFee] at hall
    constructor
    · intro heq
      rw [heq] at hall
      omega
    · intro heq
      rw [heq, sub_zero] at hall
      exact Int.eq_of_mul_eq_mul_left h.ne' hall
  · rw [if_neg h]
    have hzero : (costs.map (share amount totalFee)).sum = 0 := by
      refine List.sum_eq_zero fun x hx => ?_
      obtain ⟨cost, -, rfl⟩ := List.mem_map.1 hx
      exact if_neg fun hand => h hand.1
    rw [hzero]
    exact eq_comm

def ordersPayment (trade : Nat) (s : CartDb) : Int :=
  s.orders.sum fun order => if order.saleTradeId = trade then order.payment else 0

def ordersDiscount (trade : Nat) (s : CartDb) : Int :=
  s.orders.sum fun order => if order.saleTradeId = trade then order.discountFee else 0

def SplitsExactly (trade : SaleTrade) (s : CartDb) : Prop :=
  ordersPayment trade.id s = trade.payment - trade.postFee ∧
    ordersDiscount trade.id s = trade.discountFee

theorem createOrders_ok {trade : SaleTrade} :
    ∀ {carts : List ShoppingCart} {s s' : CartDb} {u : Unit},
      (forEach carts (createOrderOfCart trade)).run s = (.ok u, s') →
        ∃ t new, s' = { s with orders := t } ∧ t.rows = s.orders.rows ++ new ∧
          List.Forall₂ (fun cart order => order = { orderOfCart trade cart with id := order.id })
            carts new := by
  intro carts
  induction carts with
  | nil =>
    intro s s' u h
    obtain ⟨-, rfl⟩ := pure_eq_ok.1 h
    exact ⟨s.orders, [], rfl, (List.append_nil _).symm, .nil⟩
  | cons cart carts ih =>
    intro s s' u h
    rw [forEach_cons] at h
    obtain ⟨_, s1, hfirst, hrest⟩ := bind_eq_ok.1 h
    unfold createOrderOfCart at hfirst
    obtain ⟨_, -, hfirst⟩ := getOr_bind_eq_ok.1 hfirst
    obtain ⟨_, -, hinsert⟩ := getOr_bind_eq_ok.1 hfirst
    obtain rfl : s1 = _ := congrArg Prod.snd hinsert.symm
    obtain ⟨t, new, rfl, hrows, hnew⟩ := ih hrest
    refine ⟨t, s.orders.stored (orderOfCart trade cart) :: new, rfl, ?_, .cons rfl hnew⟩
    rw [hrows]
    simp [Table.insert]

def SameOrders (s s' : CartDb) : Prop := s'.orders = s.orders

theorem SameOrders.refl (s : CartDb) : SameOrders s s := rfl

theorem SameOrders.trans (a b c : CartDb) (h : SameOrders a b) (h' : SameOrders b c) :
    SameOrders a c := Eq.trans h' h

theorem closeCart_orders (cart : ShoppingCart) : Keeps SameOrders (closeCart cart) := by
  refine Keeps.bind SameOrders.trans (Keeps.gets SameOrders.refl _) fun stored => ?_
  cases stored with
  | none => exact Keeps.pure SameOrders.refl ()
  | some _ => exact fun _ => rfl

theorem createSaleorderByShopcart_ok {trade : SaleTrade} {carts : List ShoppingCart}
    {s s' : CartDb} {u : Unit}
    (h : (createSaleorderByShopcart trade carts).run s = (.ok u, s')) :
    ∃ new, s'.orders.rows = s.orders.rows ++ new ∧
      List.Forall₂ (fun cart order => order = { orderOfCart trade cart with id := order.id })
        carts new := by
  obtain ⟨_, s1, horders, hclose⟩ := bind_eq_ok.1 h
  obtain ⟨t, new, rfl, hrows, hnew⟩ := createOrders_ok horders
  have hkeeps : Keeps SameOrders (forEach carts closeCart) :=
    Keeps.forEach SameOrders.refl SameOrders.trans closeCart_orders carts
  have hsame : s'.orders = t := hkeeps.of_run hclose
  exact ⟨new, by rw [hsame]; exact hrows, hnew⟩

theorem sum_new {trade : SaleTrade} {carts : List ShoppingCart} {s s' : CartDb}
    {new : List SaleOrder} (hfresh : ∀ order ∈ s.orders, order.saleTradeId ≠ trade.id)
    (hrows : s'.orders.rows = s.orders.rows ++ new)
    (hnew : List.Forall₂ (fun cart order => order = { orderOfCart trade cart with id := order.id })
      carts new) (column : SaleOrder → Int)
    (hcolumn : ∀ order n, column { order with id := n } = column order) :
    (s'.orders.sum fun order => if order.saleTradeId = trade.id then column order else 0) =
      (carts.map fun cart => column (orderOfCart trade cart)).sum := by
  unfold Table.sum
  rw [hrows, List.map_append, List.sum_append]
  have hold : (s.orders.rows.map fun order =>
      if order.saleTradeId = trade.id then column order else 0).sum = 0 := by
    refine List.sum_eq_zero fun x hx => ?_
    obtain ⟨order, horder, rfl⟩ := List.mem_map.1 hx
    exact if_neg (hfresh order horder)
  rw [hold, zero_add]
  clear hrows
  induction hnew with
  | nil => rfl
  | @cons cart order carts new hfirst hrest ih =>
    rw [List.map_cons, List.map_cons, List.sum_cons, List.sum_cons, ih, hfirst, hcolumn]
    congr 1
    exact if_pos rfl

def shopOf (carts : Table ShoppingCart) : CartDb where
  customers := [1]
  products := ⟨[⟨7, true, none, none⟩], by decide⟩
  productSkus := ⟨[⟨21, 7, 3990, 10, 0, none⟩, ⟨22, 7, 3990, 10, 0, none⟩,
    ⟨23, 7, 3990, 10, 0, none⟩], by decide⟩
  carts := carts
  trades := Table.empty
  orders := Table.empty
  coupon := {
    userCoupons := Table.empty
    transferRecords := Table.empty
    details := []
    templates := []
    openMama := fun _ => none
    chargedMama := fun _ => none }

def threeLines : List ShoppingCart :=
  [⟨1, 1, 7, 21, 3990, 1, .normal⟩, ⟨2, 1, 7, 22, 3990, 1, .normal⟩, ⟨3, 1, 7, 23, 3990, 1, .normal⟩]

def tradeOf (payment discountFee : Int) : SaleTrade where
  id := 1
  tid := "xd170101abcdefghij"
  buyerId := 1
  totalFee := 11970
  payment := payment
  postFee := 0
  discountFee := discountFee
  coupon := []
  payExtras := ""
  status := .waitBuyerPay
  payStatus := .paying

def threeLinesDb : CartDb := shopOf ⟨threeLines, by decide⟩

end ShopManager.Pay.Cart
