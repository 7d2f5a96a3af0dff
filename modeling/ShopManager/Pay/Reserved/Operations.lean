import ShopManager.Pay.Reserved.Counters

/-!
# The columns through every operation

Every operation keeps the columns exact, up to the jobs it queues, but for three that write
behind the handlers: the two of the first version of the interface that change the quantity of
a cart, where no job of its SKU is queued, and the orders that name a SKU of another product.
-/

namespace ShopManager.Pay.Reserved

open Library Library.Tx Library.Execution
open Cart (CartStatus)
open Trade (TradeStatus normalOrderStatus)

variable {shop : Shop} {due due' : List Job} {s s' : ReserveDb}

/-! ## Carts -/

variable {skuId : Nat} {sku : ProductSku}

theorem productId_of_get
    (h : shop.productSkus.get? skuId = some sku) : shop.productId skuId = some sku.productId := by
  unfold Shop.productId
  rw [h]
  rfl

theorem get_of_mem (h : sku ∈ shop.productSkus) :
    shop.productSkus.get? sku.id = some sku := Table.get?_eq_some.2 ⟨h, rfl⟩

theorem id_of_get
    (h : shop.productSkus.get? skuId = some sku) : sku.id = skuId := (Table.get?_eq_some.1 h).2

theorem requestedSku_item {itemId : Nat}
    (h : shop.requestedSku itemId skuId = some sku) : shop.productId sku.id = some itemId := by
  unfold Shop.requestedSku at h
  split at h
  · cases h
  · next found hfound =>
      split at h
      · next hitem =>
          obtain rfl := Option.some.inj h
          rw [id_of_get hfound, productId_of_get hfound, hitem]
      · have hspec := Table.first_spec h
        have hand := of_decide_eq_true hspec
        rw [productId_of_get (get_of_mem (Table.mem_of_first h)), hand.1]

theorem createCart_sound (request : CartRequest) :
    Preserves (Sound shop []) (createCart shop request) := by
  unfold createCart
  refine Preserves.getOr_bind fun s product hs _ => ?_
  refine Preserves.raiseIf_bind (fun _ => ?_) s hs
  refine Preserves.raiseIf_bind fun _ => ?_
  refine Preserves.getOr_bind fun s sku hs hsku => ?_
  refine Preserves.raiseIf_bind (fun _ => ?_) s hs
  refine Preserves.gets_bind fun s hs => ?_
  refine Preserves.raiseIf_bind (fun _ => ?_) s hs
  refine Preserves.raiseIf_bind fun _ => ?_
  refine Preserves.bind (fun s hs => hs.insertCart (requestedSku_item hsku)) fun _ => ?_
  refine Preserves.modify fun s hs => ?_
  exact hs.updateCarts (fun _ => rfl) (fun _ => rfl) (fun _ hjob => hjob)
    (fun _ hjob => absurd hjob List.not_mem_nil) fun _ _ _ => .inl rfl

def SkuOfItem (shop : Shop) (itemId skuId : Nat) : Prop :=
  ∀ sku, shop.productSkus.get? skuId = some sku → sku.productId = itemId

theorem SkuOfItem.productId {itemId : Nat}
    (h : SkuOfItem shop itemId skuId) (hsku : shop.productSkus.get? skuId = some sku) :
    shop.productId sku.id = some itemId := by
  rw [id_of_get hsku, productId_of_get hsku, h sku hsku]

theorem extendCarts_sound (now : Nat) (queryset : List ShoppingCart) :
    Preserves (fun s => Sound shop due s ∧ ∀ cart ∈ queryset, Line s cart)
      (forEach queryset (extendCart now)) := by
  refine Preserves.forEach fun cart hcart s hs => ?_
  obtain ⟨hsound, hlines⟩ := hs
  have hline : Line s { cart with remainTime := some (now + twentyMinutes) } := hlines cart hcart
  refine ⟨hsound.saveCart hline, fun other hother => ?_⟩
  exact hline.save (hlines other hother) rfl

theorem createCartV1_sound {request : CartRequest}
    (hitem : SkuOfItem shop request.itemId request.skuId) :
    Preserves (Sound shop []) (createCartV1 shop request) := by
  unfold createCartV1
  refine Preserves.getOr_bind fun s product hs _ => ?_
  refine Preserves.raiseIf_bind (fun _ => ?_) s hs
  refine Preserves.raiseIf_bind fun _ => ?_
  refine Preserves.getOr_bind fun s sku hs hsku => ?_
  refine Preserves.raiseIf_bind (fun _ => ?_) s hs
  refine Preserves.raiseIf_bind fun _ => ?_
  refine Preserves.gets_bind fun s hs => ?_
  split
  · next cart hcart =>
      have hline : Line s { cart with num := cart.num + 1 } :=
        ⟨cart, Table.mem_of_first hcart, rfl, rfl, rfl⟩
      exact hs.saveCart hline
  · refine Preserves.bind (fun s hs => hs.insertCart (hitem.productId hsku)) (fun _ => ?_) s hs
    refine Preserves.gets_bind fun s hs => ?_
    have hlines : ∀ cart ∈ s.carts.filter (ownCart request.customer), Line s cart :=
      fun cart hcart => line_of_mem (List.mem_of_mem_filter hcart)
    exact (extendCarts_sound request.now _ s ⟨hs, hlines⟩).1

theorem plusProductCarts_sound (customer pk : Nat) (lockable locked : Bool) (freeNum : Int) :
    Preserves (Sound shop []) (plusProductCarts customer pk lockable locked freeNum) := by
  unfold plusProductCarts
  refine Preserves.getOr_bind fun s cart hs hcart => ?_
  have hline : Line s { cart with num := cart.num + 1 } :=
    ⟨cart, Table.mem_of_first hcart, rfl, rfl, rfl⟩
  rw [raiseIf_bind_run]
  split
  · exact hs
  rw [raiseIf_bind_run]
  split
  · exact hs
  exact hs.saveCart hline

theorem minusProductCarts_sound (pk : Nat) :
    Preserves (Sound shop []) (minusProductCarts pk) := by
  unfold minusProductCarts
  refine Preserves.getOr_bind fun s cart hs hcart => ?_
  have hline : Line s { cart with num := cart.num - 1 } :=
    ⟨cart, Table.mem_of_first hcart, rfl, rfl, rfl⟩
  rw [raiseIf_bind_run]
  split
  · exact hs
  exact hs.saveCart hline

theorem Sound.updateNum {cart : ShoppingCart} (h : Sound shop [] s) (hcart : cart ∈ s.carts)
    (hcounted : cart.status = .normal → ∃ job ∈ s.pending, job.OfCart cart.skuId) (num : Int) :
    Sound shop [] ((Reserved.updateNum cart num).run s).2 := by
  have hline : Line s { cart with num := num } := ⟨cart, hcart, rfl, rfl, rfl⟩
  have hnext := @Sound.ofCarts shop [] [] s [] (s.carts.save { cart with num := num }) h
    (item_of_save h hline) (fun _ hjob => absurd hjob List.not_mem_nil) (fun _ hjob => hjob) ?_
  · change Sound shop [] { s with carts := s.carts.save { cart with num := num } }
    simpa only [List.append_nil] using hnext
  · intro skuId hquiet
    rw [List.append_nil, List.append_nil] at hquiet
    have hsame : cartCount skuId { cart with num := num } = cartCount skuId cart := by
      by_cases hcount : cart.skuId = skuId ∧ cart.status = .normal
      · obtain ⟨job, hjob, hof⟩ := hcounted hcount.2
        rw [hcount.1] at hof
        exact absurd hof (hquiet job hjob)
      · unfold cartCount
        rw [if_neg hcount, if_neg hcount]
    rw [Table.sum_save (a := { cart with num := num }) hcart rfl, hsame, sub_add_cancel]

theorem plusProductCartsV1_sound {customer pk : Nat} {lockable locked : Bool}
    (h : Sound shop [] s)
    (hcounted : lockable = true → locked = true → ∀ cart ∈ s.carts, cart.id = pk →
      ownCart customer cart = true → ∃ job ∈ s.pending, job.OfCart cart.skuId) :
    Sound shop [] ((plusProductCartsV1 customer pk lockable locked).run s).2 := by
  unfold plusProductCartsV1
  rw [getOr_bind_run]
  split
  · next cart hcart =>
      rw [raiseIf_bind_run]
      split
      · exact h
      · next hlockable =>
          rw [raiseIf_bind_run]
          split
          · exact h
          · next hlocked =>
              have hspec := Table.first_spec hcart
              have hand := of_decide_eq_true hspec
              have hmem := Table.mem_of_first hcart
              refine h.updateNum hmem (fun _ => ?_) _
              exact hcounted (Bool.not_eq_false _ ▸ hlockable) (Bool.not_eq_false _ ▸ hlocked)
                cart hmem hand.1 hand.2
  · exact h

theorem minusProductCartsV1_sound {pk : Nat} (h : Sound shop [] s)
    (hcounted : ∀ cart ∈ s.carts, cart.id = pk → 1 < cart.num → cart.status = .normal →
      ∃ job ∈ s.pending, job.OfCart cart.skuId) :
    Sound shop [] ((minusProductCartsV1 pk).run s).2 := by
  unfold minusProductCartsV1
  rw [getOr_bind_run]
  split
  · next cart hcart =>
      rw [raiseIf_bind_run]
      split
      · exact h
      · next hmore =>
          obtain ⟨hmem, hid⟩ := Table.get?_eq_some.1 hcart
          refine h.updateNum hmem (fun hnormal => ?_) _
          exact hcounted cart hmem hid (not_le.1 hmore) hnormal
  · exact h

theorem closeCart_ok {releaseLocknum : Bool} {cart : ShoppingCart}
    (h : (ShoppingCart.closeCart shop releaseLocknum cart).run s = (.ok (), s')) :
    s' = s ∨ s' = ((ShoppingCart.save { cart with status := .cancel }).run s).2 := by
  have h' := atomic_eq_ok.1 h
  rw [gets_bind_run] at h'
  split at h'
  · obtain ⟨-, rfl⟩ := pure_eq_ok.1 h'
    exact .inl rfl
  · obtain ⟨⟨⟩, s1, hsave, hraise⟩ := bind_eq_ok.1 h'
    obtain ⟨-, rfl⟩ := raiseIf_eq_ok.1 hraise
    rw [hsave]
    exact .inr rfl

theorem closeCart_sound (releaseLocknum : Bool) (cart : ShoppingCart) :
    Preserves (fun s => Sound shop due s ∧ Line s cart)
      (ShoppingCart.closeCart shop releaseLocknum cart) := by
  refine Preserves.atomic_ok fun s a s' hs h => ?_
  obtain ⟨hsound, hline⟩ := hs
  have hclosed : Line s { cart with status := .cancel } := hline
  rcases closeCart_ok (atomic_eq_ok.2 h) with rfl | rfl
  · exact ⟨hsound, hline⟩
  · exact ⟨hsound.saveCart hclosed, hclosed.save hline rfl⟩

theorem deleteCarts_sound (pk : Nat) : Preserves (Sound shop []) (deleteCarts shop pk) := by
  unfold deleteCarts
  refine Preserves.getOr_bind fun s cart hs hcart => ?_
  have hline : Line s cart := line_of_mem (Table.get?_eq_some.1 hcart).1
  exact (closeCart_sound true cart s ⟨hs, hline⟩).1

theorem createSaletrade_ok {customer now : Nat} {tid : String} {trade : SaleTrade} {state : Bool}
    (h : (createSaletrade customer tid now).run s = (.ok (trade, state), s')) :
    state = false ∧ s' = s ∨
      state = true ∧ s' = { s with trades := s.trades.insert trade } ∧
        ∃ row ∈ s'.trades, row.id = trade.id := by
  unfold createSaletrade at h
  rw [gets_bind_run] at h
  split at h
  · obtain ⟨⟨⟩, s1, hraise, hpure⟩ := bind_eq_ok.1 h
    obtain ⟨-, rfl⟩ := raiseIf_eq_ok.1 hraise
    obtain ⟨heq, rfl⟩ := pure_eq_ok.1 hpure
    exact .inl ⟨(congrArg Prod.snd heq).symm, rfl⟩
  · rw [gets_bind_run, modify_bind_run] at h
    obtain ⟨heq, rfl⟩ := pure_eq_ok.1 h
    obtain ⟨rfl, rfl⟩ := Prod.mk.inj heq
    refine .inr ⟨rfl, rfl, _, Table.mem_insert.2 (.inr rfl), ?_⟩
    rfl

theorem createOrder_sound {trade : SaleTrade} {itemId : Nat} {num : Int}
    (h : Sound shop due s) (hitem : shop.productId skuId = some itemId)
    (hplaced : ∃ row ∈ s.trades, row.id = trade.id) :
    Sound shop due ((createOrder trade itemId skuId num).run s).2 :=
  h.insertOrder hitem (by simp [paidStatus]) hplaced

theorem createOrderOfCart_ok {trade : SaleTrade} {cart : ShoppingCart}
    (h : (createOrderOfCart shop trade cart).run s = (.ok (), s')) :
    s' = ((createOrder trade cart.itemId cart.skuId cart.num).run s).2 := by
  obtain ⟨product, -, h⟩ := getOr_bind_eq_ok.1 h
  obtain ⟨sku, -, h⟩ := getOr_bind_eq_ok.1 h
  exact (congrArg Prod.snd h).symm

theorem shoppingcartCreate_sound (customer now : Nat) (tid : String) (cartIds : List Nat) :
    Preserves (Sound shop []) (shoppingcartCreate shop customer tid now cartIds) := by
  refine Preserves.gets_bind fun start hstart => ?_
  have hlines : ∀ cart ∈ start.carts.filter fun cart =>
      decide (cart.id ∈ cartIds ∧ cart.buyerId = customer), Line start cart :=
    fun cart hcart => line_of_mem (List.mem_of_mem_filter hcart)
  generalize (start.carts.filter fun cart =>
    decide (cart.id ∈ cartIds ∧ cart.buyerId = customer)) = cartQs at hlines
  refine (Preserves.atomic_ok (I := fun s => Sound shop [] s ∧ ∀ cart ∈ cartQs, Line s cart)
    (fun s a s' hs hrun => ?_) start ⟨hstart, hlines⟩).1
  obtain ⟨⟨trade, state⟩, s1, hcreate, hrest⟩ := bind_eq_ok.1 hrun
  rcases createSaletrade_ok hcreate with ⟨rfl, rfl⟩ | ⟨rfl, hs1, htrade⟩
  · obtain ⟨-, rfl⟩ := pure_eq_ok.1 hrest
    exact hs
  · have hnew : Sound shop [] s1 := by
      rw [hs1]
      exact hs.1.insertTrade
    have hlinesNew : ∀ cart ∈ cartQs, Line s1 cart := by
      rw [hs1]
      exact hs.2
    obtain ⟨⟨⟩, s2, horders, hclose⟩ := bind_eq_ok.1 hrest
    -- the orders leave the carts and the trades alone
    have hordered : (Sound shop [] s2 ∧ ∀ cart ∈ cartQs, Line s2 cart) ∧
        ∃ row ∈ s2.trades, row.id = trade.id := by
      refine forEach_ok (J := fun s => (Sound shop [] s ∧ ∀ cart ∈ cartQs, Line s cart) ∧
        ∃ row ∈ s.trades, row.id = trade.id) ?_ ⟨⟨hnew, hlinesNew⟩, htrade⟩ horders
      rintro cart hcart t t' ⟨⟨hsound, hlines⟩, hplaced⟩ hrun
      obtain rfl := createOrderOfCart_ok hrun
      exact ⟨⟨createOrder_sound hsound ((hlines cart hcart).item hsound) hplaced, hlines⟩,
        hplaced⟩
    refine forEach_ok (J := fun s => Sound shop [] s ∧ ∀ cart ∈ cartQs, Line s cart)
      (fun cart hcart t t' ht hrun => ?_) hordered.1 hclose
    obtain ⟨hsound, hlines⟩ := ht
    have hclosed : Line t { cart with status := .cancel } := hlines cart hcart
    rcases closeCart_ok hrun with rfl | rfl
    · exact ⟨hsound, hlines⟩
    · exact ⟨hsound.saveCart hclosed, fun other hother => hclosed.save (hlines other hother) rfl⟩

theorem buynowCreate_sound {customer now itemId : Nat} {tid : String} {num : Int}
    (hitem : SkuOfItem shop itemId skuId) :
    Preserves (Sound shop []) (buynowCreate shop customer tid now itemId skuId num) := by
  refine Preserves.getOr_bind fun s product hs hproduct => ?_
  have hproductId : product.id = itemId := (Table.get?_eq_some.1 hproduct).2
  refine Preserves.getOr_bind (fun s sku hs hsku => ?_) s hs
  refine Preserves.atomic_ok (fun s a s' hs hrun => ?_) s hs
  obtain ⟨⟨trade, state⟩, s1, hcreate, hrest⟩ := bind_eq_ok.1 hrun
  rcases createSaletrade_ok hcreate with ⟨rfl, rfl⟩ | ⟨rfl, hs1, htrade⟩
  · obtain ⟨-, rfl⟩ := pure_eq_ok.1 hrest
    exact hs
  · have hnew : Sound shop [] s1 := by
      rw [hs1]
      exact hs.insertTrade
    have hsku' : shop.productId sku.id = some product.id := by
      rw [hproductId]
      exact hitem.productId hsku
    rw [← show ((createOrder trade product.id sku.id num).run s1).2 = s' from
      congrArg Prod.snd hrest]
    exact createOrder_sound hnew hsku' htrade

theorem setOrderPaidNum_ok {num : Int}
    (h : (SkuStock.setOrderPaidNum skuId num).run s = (.ok (), s')) :
    s' = putStock skuId (paidStock s skuId) s := by
  obtain ⟨stock, hrow, hsave⟩ := getOr_bind_eq_ok.1 h
  have hstockOf : s.stock skuId = stock := by
    unfold ReserveDb.stock
    rw [hrow]
    rfl
  rw [← show _ = s' from congrArg Prod.snd hsave]
  unfold paidStock
  rw [hstockOf]
  rfl

/-- The order as `set_status_paid` leaves it. -/
def paidOrder (shop : Shop) (order : SaleOrder) : SaleOrder :=
  { order with
    status := if shop.isDeposit order.itemId order.skuId then .tradeFinished
      else .waitSellerSendGoods }

theorem payOrder_ok {order : SaleOrder}
    (h : (SaleTrade.payOrder shop order).run s = (.ok (), s')) :
    s' = putStock order.skuId
      (paidStock ((SaleOrder.save (paidOrder shop order)).run s).2 order.skuId)
        ((SaleOrder.save (paidOrder shop order)).run s).2 := by
  obtain ⟨paid, s1, hpaid, hrest⟩ := bind_eq_ok.1 h
  obtain ⟨⟨⟩, s2, hsave, hpaid⟩ := bind_eq_ok.1 hpaid
  obtain ⟨⟨⟩, s3, hnum, hpure⟩ := bind_eq_ok.1 hpaid
  obtain ⟨rfl, rfl⟩ := pure_eq_ok.1 hpure
  have hnever : ¬ (shop.isDeposit order.itemId order.skuId = true ∧
      (paidOrder shop order).status = .waitSellerSendGoods) := by
    rintro ⟨hdeposit, hstatus⟩
    simp [paidOrder, hdeposit] at hstatus
  have hpure : (pure () : ReserveTx Unit).run s3 = (.ok (), s') := by
    rw [← hrest]
    exact (congrArg (fun m : ReserveTx Unit => m.run s3) (if_neg hnever)).symm
  obtain ⟨-, rfl⟩ := pure_eq_ok.1 hpure
  obtain rfl := congrArg Prod.snd hsave
  exact setOrderPaidNum_ok hnum

theorem chargeConfirm_sound (confirmed : Bool) (tradeId : Nat) :
    Preserves (Sound shop []) (SaleTrade.chargeConfirm shop confirmed tradeId) := by
  refine Preserves.atomic_ok fun s a s' hs hrun => ?_
  obtain ⟨st, hst, hrun⟩ := getOr_bind_eq_ok.1 hrun
  split at hrun
  · obtain ⟨-, rfl⟩ := pure_eq_ok.1 hrun
    exact hs
  · obtain ⟨⟨⟩, s2, hsave, hrun⟩ := bind_eq_ok.1 hrun
    obtain ⟨⟨⟩, s3, hraise, hrun⟩ := bind_eq_ok.1 hrun
    obtain ⟨-, rfl⟩ := raiseIf_eq_ok.1 hraise
    rw [gets_bind_run] at hrun
    obtain rfl := congrArg Prod.snd hsave
    obtain ⟨hmem, -⟩ := Table.get?_eq_some.1 hst
    have hsaved : Sound shop [] ((SaleTrade.save { st with
        status := .waitSellerSendGoods }).run s).2 := hs.saveTrade (by simp)
    -- the trade does not wait any more, whichever of its orders are paid
    have hnowait : ∀ trade ∈ s.trades.save { st with status := .waitSellerSendGoods },
        trade.status = .waitBuyerPay → st.id ≠ trade.id := by
      intro trade htrade hwaits heq
      rcases Table.mem_save htrade with rfl | ⟨-, hne⟩
      · cases hwaits
      · exact hne heq.symm
    refine (forEach_ok (J := fun t => Sound shop [] t ∧
      (∀ order ∈ s.orders.filter fun order => decide (order.saleTradeId = st.id),
        Goods t order) ∧
      t.trades = s.trades.save { st with status := .waitSellerSendGoods }) ?_ ?_ hrun).1
    · rintro order horder t t' ⟨hsound, hgoods, htrades⟩ hpay
      have hgoodsOf : Goods t (paidOrder shop order) := hgoods order horder
      have hof : order.saleTradeId = st.id := of_decide_eq_true (List.mem_filter.1 horder).2
      obtain rfl := payOrder_ok hpay
      refine ⟨hsound.savePaid hgoodsOf ?_, fun other hother => ?_, htrades⟩
      · rw [htrades]
        intro trade htrade hwaits
        exact hof.trans_ne (hnowait trade htrade hwaits)
      · exact hgoodsOf.save (hgoods other hother) rfl
    · exact ⟨hsaved, fun order horder => goods_of_mem (List.mem_of_mem_filter horder), rfl⟩

theorem closeTrade_sound (released : Bool) (tradeId : Nat) :
    Preserves (Sound shop []) (SaleTrade.closeTrade released tradeId) := by
  refine Preserves.atomic_ok fun s a s' hs hrun => ?_
  obtain ⟨st, hst, hrun⟩ := getOr_bind_eq_ok.1 hrun
  split at hrun
  · obtain ⟨-, rfl⟩ := pure_eq_ok.1 hrun
    exact hs
  · next hwaits =>
    obtain ⟨⟨⟩, s2, hsave, hrun⟩ := bind_eq_ok.1 hrun
    rw [gets_bind_run] at hrun
    obtain ⟨⟨⟩, s3, hclose, hraise⟩ := bind_eq_ok.1 hrun
    obtain ⟨-, rfl⟩ := raiseIf_eq_ok.1 hraise
    obtain rfl := congrArg Prod.snd hsave
    obtain ⟨hmem, -⟩ := Table.get?_eq_some.1 hst
    have hsaved : Sound shop [] ((SaleTrade.save { st with
        status := .tradeClosedBySys }).run s).2 := hs.saveTrade (by simp)
    refine (forEach_ok (J := fun t => Sound shop [] t ∧
      ∀ order ∈ s.orders.filter fun order =>
          decide (order.saleTradeId = st.id ∧ order.status ∈ normalOrderStatus),
        Goods t order ∧ ∀ row ∈ t.orders, row.id = order.id → row.status ∉ paidStatus)
      ?_ ?_ hclose).1
    · rintro order horder t t' ⟨hsound, hopen⟩ hrun
      obtain rfl := congrArg Prod.snd hrun
      obtain ⟨hgoods, hold⟩ := hopen order horder
      have hclosed : Goods t { order with status := .tradeClosedBySys } := hgoods
      refine ⟨hsound.saveUnpaid hclosed hold (by simp [paidStatus]), fun other hother => ?_⟩
      obtain ⟨hgoodsOther, holdOther⟩ := hopen other hother
      refine ⟨hclosed.save hgoodsOther rfl, fun row hrow hid => ?_⟩
      rcases Table.mem_save hrow with rfl | ⟨hrow, -⟩
      · simp [paidStatus]
      · exact holdOther row hrow hid
    · refine ⟨hsaved, fun order horder => ?_⟩
      obtain ⟨horderMem, hof⟩ := List.mem_filter.1 horder
      refine ⟨goods_of_mem horderMem, fun row hrow hid => ?_⟩
      obtain rfl : row = order := Table.pk_inj hrow horderMem hid
      exact hs.unpaid st hmem (not_not.1 hwaits) row hrow (of_decide_eq_true hof).1

end ShopManager.Pay.Reserved
