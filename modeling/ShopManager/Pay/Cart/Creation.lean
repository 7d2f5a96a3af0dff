import ShopManager.Pay.Cart.Splitting

/-!
# What a creation writes

From the lock of the customer to the end of the view a request either makes a new trade with
the orders of its goods, or leaves the trades, the orders and the carts as they were.  Which
of the two is a matter of the request and of the state at the lock.
-/

namespace ShopManager.Pay.Cart

open Library Library.Tx
open Trade (PayStatus TradeStatus)

def plannedOrders (trade : SaleTrade) : Goods → List SaleOrder
  | .lines carts => carts.map (orderOfCart trade)
  | .sku product sku num => [orderOfSku trade product sku num]

def plannedTrade (prepared : Prepared) : SaleTrade where
  id := 0
  tid := prepared.uuid.getD ""
  buyerId := prepared.customer
  totalFee := prepared.amounts.totalFee.getD 0
  payment := prepared.amounts.payment.getD 0
  postFee := prepared.amounts.postFee.getD 0
  discountFee := prepared.amounts.discountFee.getD 0
  coupon := couponTexts prepared
  payExtras := prepared.payExtras
  status := .waitBuyerPay
  payStatus := .paying

namespace Goods

def Available (s : CartDb) : Goods → Prop
  | lines carts => ∀ cart ∈ carts, (s.products.get? cart.itemId).isSome ∧
      (s.productSkus.get? cart.skuId).isSome
  | sku _ _ _ => True

end Goods

namespace Amounts

structure Named (amounts : Amounts) : Prop where
  payment : amounts.payment.isSome
  totalFee : amounts.totalFee.isSome
  postFee : amounts.postFee.isSome
  discountFee : amounts.discountFee.isSome

end Amounts

section Creation

variable (around : Surroundings) (prepared : Prepared) (s : CartDb)

structure Creates : Prop where
  uuid : ∃ uuid, prepared.uuid = some uuid ∧ around.uuidOk uuid = true ∧
    ∀ trade ∈ s.trades, trade.tid ≠ uuid
  customer : prepared.customer ∈ s.customers
  named : prepared.amounts.Named
  tradeParams : around.tradeParams prepared = .ok ()
  goods : prepared.goods.Available s
  afterwards : around.afterwards prepared = .ok ()

structure Made (s' : CartDb) : Prop where
  trades : s'.trades = s.trades.insert (plannedTrade prepared)
  orders : ∃ new, s'.orders.rows = s.orders.rows ++ new ∧
    List.Forall₂ (fun planned order => order = { planned with id := order.id })
      (plannedOrders (s.trades.stored (plannedTrade prepared)) prepared.goods) new

end Creation

structure Untouched (s s' : CartDb) : Prop where
  trades : s'.trades = s.trades
  orders : s'.orders = s.orders
  carts : s'.carts = s.carts

theorem Untouched.refl (s : CartDb) : Untouched s s := ⟨rfl, rfl, rfl⟩

/-! ## The trade -/

section Saletrade

variable {around : Surroundings} {prepared : Prepared} {s s' : CartDb}

theorem amount_eq_ok {value : Option Int} {a : Int} :
    (amount value).run s = (.ok a, s') ↔ value = some a ∧ s = s' := getOr_eq_ok

theorem createSaletrade_new {trade : SaleTrade}
    (h : (createSaletrade around prepared).run s = (.ok (trade, true), s')) :
    (∃ uuid, prepared.uuid = some uuid ∧ around.uuidOk uuid = true ∧
        ∀ trade ∈ s.trades, trade.tid ≠ uuid) ∧
      prepared.customer ∈ s.customers ∧ prepared.amounts.Named ∧
      around.tradeParams prepared = .ok () ∧ trade = s.trades.stored (plannedTrade prepared) ∧
      s' = { s with trades := s.trades.insert (plannedTrade prepared) } := by
  unfold createSaletrade at h
  obtain ⟨tuuid, huuid, h⟩ := getOr_bind_eq_ok.1 h
  obtain ⟨hok, h⟩ := raiseIf_bind_eq_ok.1 h
  obtain ⟨customer, hfind, h⟩ := getOr_bind_eq_ok.1 h
  rw [gets_bind_run] at h
  have hcustomer : customer = prepared.customer := by simpa using List.find?_some hfind
  have hmem : customer ∈ s.customers := List.mem_of_find?_eq_some hfind
  cases hfirst : s.trades.first fun trade => decide (trade.tid = tuuid) with
  | some known =>
    rw [hfirst] at h
    obtain ⟨_, s4, -, hend⟩ := bind_eq_ok.1 h
    obtain ⟨hpair, -⟩ := pure_eq_ok.1 hend
    cases hpair
  | none =>
    rw [hfirst] at h
    obtain ⟨payment, s4, h4, h⟩ := bind_eq_ok.1 h
    obtain ⟨hpayment, rfl⟩ := amount_eq_ok.1 h4
    obtain ⟨_, hparams, h⟩ := ofExcept_bind_eq_ok.1 h
    obtain ⟨totalFee, s6, h6, h⟩ := bind_eq_ok.1 h
    obtain ⟨htotal, rfl⟩ := amount_eq_ok.1 h6
    obtain ⟨postFee, s7, h7, h⟩ := bind_eq_ok.1 h
    obtain ⟨hpost, rfl⟩ := amount_eq_ok.1 h7
    obtain ⟨discountFee, s8, h8, h⟩ := bind_eq_ok.1 h
    obtain ⟨hdiscount, rfl⟩ := amount_eq_ok.1 h8
    rw [gets_bind_run, modify_bind_run] at h
    obtain ⟨hpair, rfl⟩ := pure_eq_ok.1 h
    have hplanned : plannedTrade prepared =
        ⟨0, tuuid, customer, totalFee, payment, postFee, discountFee, couponTexts prepared,
          prepared.payExtras, .waitBuyerPay, .paying⟩ := by
      unfold plannedTrade
      rw [huuid, hpayment, htotal, hpost, hdiscount, hcustomer]
      rfl
    refine ⟨⟨tuuid, huuid, ?_, ?_⟩, hcustomer ▸ hmem, ?_, hparams, ?_, ?_⟩
    · simpa using hok
    · intro trade htrade
      simpa using Table.first_eq_none.1 hfirst trade htrade
    · exact ⟨by simp [hpayment], by simp [htotal], by simp [hpost], by simp [hdiscount]⟩
    · rw [hplanned]
      exact (congrArg Prod.fst hpair).symm
    · rw [hplanned]

theorem createSaletrade_known {trade : SaleTrade}
    (h : (createSaletrade around prepared).run s = (.ok (trade, false), s')) : s' = s := by
  unfold createSaletrade at h
  obtain ⟨tuuid, -, h⟩ := getOr_bind_eq_ok.1 h
  obtain ⟨-, h⟩ := raiseIf_bind_eq_ok.1 h
  obtain ⟨customer, -, h⟩ := getOr_bind_eq_ok.1 h
  rw [gets_bind_run] at h
  cases hfirst : s.trades.first fun trade => decide (trade.tid = tuuid) with
  | some known =>
    rw [hfirst] at h
    obtain ⟨-, hend⟩ := raiseIf_bind_eq_ok.1 h
    exact (pure_eq_ok.1 hend).2.symm
  | none =>
    rw [hfirst] at h
    obtain ⟨payment, s4, -, h⟩ := bind_eq_ok.1 h
    obtain ⟨_, s5, -, h⟩ := bind_eq_ok.1 h
    obtain ⟨totalFee, s6, -, h⟩ := bind_eq_ok.1 h
    obtain ⟨postFee, s7, -, h⟩ := bind_eq_ok.1 h
    obtain ⟨discountFee, s8, -, h⟩ := bind_eq_ok.1 h
    rw [gets_bind_run, modify_bind_run] at h
    obtain ⟨hpair, -⟩ := pure_eq_ok.1 h
    cases hpair

theorem createSaletrade_run (h : Creates around prepared s) :
    (createSaletrade around prepared).run s =
      (.ok (s.trades.stored (plannedTrade prepared), true),
        { s with trades := s.trades.insert (plannedTrade prepared) }) := by
  obtain ⟨uuid, huuid, hok, hfresh⟩ := h.uuid
  obtain ⟨payment, hpayment⟩ := Option.isSome_iff_exists.1 h.named.payment
  obtain ⟨totalFee, htotal⟩ := Option.isSome_iff_exists.1 h.named.totalFee
  obtain ⟨postFee, hpost⟩ := Option.isSome_iff_exists.1 h.named.postFee
  obtain ⟨discountFee, hdiscount⟩ := Option.isSome_iff_exists.1 h.named.discountFee
  have hplanned : plannedTrade prepared =
      ⟨0, uuid, prepared.customer, totalFee, payment, postFee, discountFee,
        couponTexts prepared, prepared.payExtras, .waitBuyerPay, .paying⟩ := by
    unfold plannedTrade
    rw [huuid, hpayment, htotal, hpost, hdiscount]
    rfl
  have hfind : (s.customers.find? fun id => id = prepared.customer) = some prepared.customer := by
    cases hcustomer : s.customers.find? fun id => id = prepared.customer with
    | none => simpa using List.find?_eq_none.1 hcustomer _ h.customer
    | some customer => rw [show customer = prepared.customer by simpa using List.find?_some hcustomer]
  have hfirst : (s.trades.first fun trade => decide (trade.tid = uuid)) = none :=
    Table.first_eq_none.2 fun trade htrade => decide_eq_false (hfresh trade htrade)
  have hamount : ∀ {value : Option Int} {a : Int}, value = some a →
      (amount value).run s = (.ok a, s) := fun hvalue => amount_eq_ok.2 ⟨hvalue, rfl⟩
  have hnumber : (getOr (.exception "TypeError") fun _ => prepared.uuid : CartTx String).run s =
      (.ok uuid, s) := getOr_eq_ok.2 ⟨huuid, rfl⟩
  have hlocked : (getOr .doesNotExist fun s : CartDb =>
      s.customers.find? fun id => id = prepared.customer : CartTx Nat).run s =
        (.ok prepared.customer, s) := getOr_eq_ok.2 ⟨hfind, rfl⟩
  unfold createSaletrade
  rw [bind_ok hnumber, raiseIf_bind_run, if_neg (by simp [hok]), bind_ok hlocked,
    gets_bind_run, hfirst]
  dsimp only
  rw [bind_ok (hamount hpayment), h.tradeParams, ofExcept_bind_run]
  dsimp only
  rw [bind_ok (hamount htotal), bind_ok (hamount hpost), bind_ok (hamount hdiscount),
    gets_bind_run, modify_bind_run, hplanned]
  rfl

end Saletrade

theorem closeCart_run (cart : ShoppingCart) (s : CartDb) :
    ∃ t, (closeCart cart).run s = (.ok (), { s with carts := t }) := by
  unfold closeCart
  rw [gets_bind_run]
  cases s.carts.first fun c => c.id = cart.id ∧ c.status = .normal with
  | none => exact ⟨s.carts, rfl⟩
  | some _ => exact ⟨s.carts.save { cart with status := .cancel }, rfl⟩

theorem closeCarts_run : ∀ (carts : List ShoppingCart) (s : CartDb),
    ∃ t, (forEach carts closeCart).run s = (.ok (), { s with carts := t }) := by
  intro carts
  induction carts with
  | nil =>
    intro s
    exact ⟨s.carts, rfl⟩
  | cons cart carts ih =>
    intro s
    obtain ⟨t, hfirst⟩ := closeCart_run cart s
    obtain ⟨t', hrest⟩ := ih { s with carts := t }
    exact ⟨t', by rw [forEach_cons, bind_ok hfirst, hrest]⟩

theorem createOrdersOfCarts_run (trade : SaleTrade) : ∀ (carts : List ShoppingCart) (s : CartDb),
    (Goods.lines carts).Available s →
      ∃ t, (forEach carts (createOrderOfCart trade)).run s = (.ok (), { s with orders := t }) := by
  intro carts
  induction carts with
  | nil =>
    intro s _
    exact ⟨s.orders, rfl⟩
  | cons cart carts ih =>
    intro s h
    obtain ⟨hproduct, hsku⟩ := h cart List.mem_cons_self
    obtain ⟨product, hproduct⟩ := Option.isSome_iff_exists.1 hproduct
    obtain ⟨sku, hsku⟩ := Option.isSome_iff_exists.1 hsku
    have hfirst : (createOrderOfCart trade cart).run s =
        (.ok (), { s with orders := s.orders.insert (orderOfCart trade cart) }) := by
      refine bind_eq_ok.2 ⟨product, s, getOr_eq_ok.2 ⟨hproduct, rfl⟩, ?_⟩
      exact bind_eq_ok.2 ⟨sku, s, getOr_eq_ok.2 ⟨hsku, rfl⟩, rfl⟩
    obtain ⟨t, hrest⟩ := ih { s with orders := s.orders.insert (orderOfCart trade cart) }
      fun cart hcart => h cart (List.mem_cons_of_mem _ hcart)
    exact ⟨t, by rw [forEach_cons, bind_ok hfirst, hrest]⟩

theorem available_of_createOrders {trade : SaleTrade} : ∀ {carts : List ShoppingCart}
    {s s' : CartDb} {u : Unit},
      (forEach carts (createOrderOfCart trade)).run s = (.ok u, s') →
        (Goods.lines carts).Available s := by
  intro carts
  induction carts with
  | nil =>
    intro s s' u _ cart hcart
    cases hcart
  | cons first carts ih =>
    intro s s' u h cart hcart
    rw [forEach_cons] at h
    obtain ⟨_, s1, hfirst, hrest⟩ := bind_eq_ok.1 h
    unfold createOrderOfCart at hfirst
    obtain ⟨product, hproduct, hfirst⟩ := getOr_bind_eq_ok.1 hfirst
    obtain ⟨sku, hsku, hinsert⟩ := getOr_bind_eq_ok.1 hfirst
    obtain rfl := congrArg Prod.snd hinsert
    rcases List.mem_cons.1 hcart with rfl | hcart
    · exact ⟨by rw [hproduct]; rfl, by rw [hsku]; rfl⟩
    · exact ih hrest cart hcart

theorem createOrders_spec {trade : SaleTrade} {goods : Goods} {s s' : CartDb} {u : Unit}
    (h : (Cart.createOrders trade goods).run s = (.ok u, s')) :
    goods.Available s ∧ s'.trades = s.trades ∧
      ∃ new, s'.orders.rows = s.orders.rows ++ new ∧
        List.Forall₂ (fun planned order => order = { planned with id := order.id })
          (plannedOrders trade goods) new := by
  cases goods with
  | lines carts =>
    have horders := h
    obtain ⟨_, s1, hmade, hclose⟩ := bind_eq_ok.1 h
    obtain ⟨t, new, rfl, -, -⟩ := createOrders_ok hmade
    obtain ⟨t', hcarts⟩ := closeCarts_run carts { s with orders := t }
    rw [hcarts] at hclose
    obtain rfl := congrArg Prod.snd hclose
    obtain ⟨new, hrows, hnew⟩ := createSaleorderByShopcart_ok horders
    exact ⟨available_of_createOrders hmade, rfl, new, hrows, List.forall₂_map_left_iff.2 hnew⟩
  | sku product sku num =>
    obtain rfl := congrArg Prod.snd h
    refine ⟨trivial, rfl, [s.orders.stored (orderOfSku trade product sku num)], rfl, ?_⟩
    exact .cons rfl .nil

theorem createOrders_run (trade : SaleTrade) {goods : Goods} {s : CartDb}
    (h : goods.Available s) : ∃ s', (Cart.createOrders trade goods).run s = (.ok (), s') := by
  cases goods with
  | lines carts =>
    obtain ⟨t, horders⟩ := createOrdersOfCarts_run trade carts s h
    obtain ⟨t', hclose⟩ := closeCarts_run carts { s with orders := t }
    exact ⟨_, (bind_ok horders).trans hclose⟩
  | sku product sku num => exact ⟨_, rfl⟩

section Create

variable {around : Surroundings} {prepared : Prepared} {s : CartDb}

theorem available_insert {goods : Goods} (s : CartDb) (t : Table SaleTrade) :
    goods.Available { s with trades := t } ↔ goods.Available s := by
  cases goods <;> exact Iff.rfl

theorem createTrade_made (h : Creates around prepared s) :
    ∃ s', (createTrade around prepared).run s = (.ok (), s') ∧ Made prepared s s' := by
  have hgoods := (available_insert s (s.trades.insert (plannedTrade prepared))).2 h.goods
  obtain ⟨s', horders⟩ := createOrders_run (s.trades.stored (plannedTrade prepared)) hgoods
  obtain ⟨-, htrades, hnew⟩ := createOrders_spec horders
  refine ⟨s', atomic_ok ?_, htrades, hnew⟩
  rw [bind_ok (createSaletrade_run h)]
  dsimp only
  rw [if_pos rfl, bind_ok horders, h.afterwards]
  rfl

theorem createTrade_untouched (h : ¬ Creates around prepared s) :
    ((createTrade around prepared).run s).2 = s := by
  rcases atomic_cases (σ := CartDb) _ s with ⟨u, s', hrun, hatomic⟩ | hatomic
  · refine (congrArg Prod.snd hatomic).trans ?_
    obtain ⟨⟨trade, state⟩, t, htrade, hrest⟩ := bind_eq_ok.1 hrun
    dsimp only at hrest
    cases state with
    | false =>
      rw [if_neg (by decide)] at hrest
      obtain ⟨-, rfl⟩ := pure_eq_ok.1 hrest
      exact createSaletrade_known htrade
    | true =>
      rw [if_pos rfl] at hrest
      obtain ⟨huuid, hcustomer, hnamed, hparams, -, rfl⟩ := createSaletrade_new htrade
      obtain ⟨_, t, horders, hafter⟩ := bind_eq_ok.1 hrest
      obtain ⟨hgoods, -, -⟩ := createOrders_spec horders
      obtain ⟨hafterwards, -⟩ := ofExcept_eq_ok.1 hafter
      exact absurd ⟨huuid, hcustomer, hnamed, hparams, (available_insert s _).1 hgoods,
        hafterwards⟩ h
  · exact hatomic

theorem create_spec (around : Surroundings) (prepared : Prepared) (s : CartDb) :
    (Creates around prepared s ∧ Made prepared s (create around prepared s)) ∨
      (¬ Creates around prepared s ∧ Untouched s (create around prepared s)) := by
  by_cases h : Creates around prepared s
  · left
    obtain ⟨s', hrun, hmade⟩ := createTrade_made h
    refine ⟨h, ?_⟩
    unfold create
    rw [hrun]
    exact hmade
  · right
    refine ⟨h, ?_⟩
    have hsame := createTrade_untouched h
    unfold create
    cases hrun : (createTrade around prepared).run s with
    | mk res s' =>
      rw [hrun] at hsame
      obtain rfl : s' = s := hsame
      cases res with
      | ok _ => exact Untouched.refl s'
      | error _ => cases prepared.goods <;> exact ⟨rfl, rfl, rfl⟩

end Create

end ShopManager.Pay.Cart
