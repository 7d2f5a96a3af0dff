import ShopManager.Pay.Reserved.Model

/-!
# What the columns count

A column of a SKU is exact unless a job that counts it is still queued or is just being run.
`Sound` says so, with the jobs under way beside the queue: a job that is taken from the queue
becomes one under way, a cart that is closed without its handler leaves one, and each recount
settles those of its SKU.
-/

namespace ShopManager.Pay.Reserved

open Library Library.Tx Library.Execution
open Cart (CartStatus)
open Trade (TradeStatus normalOrderStatus)

variable {shop : Shop} {due due' : List Job} {s s' : ReserveDb}

def ReserveDb.stock (s : ReserveDb) (skuId : Nat) : SkuStock := (s.stocks skuId).getD ⟨0, 0, 0⟩

/-- The columns as `restat` defines them. -/
def restated (s : ReserveDb) (skuId : Nat) : SkuStock :=
  restat s skuId [.shoppingcartNum, .waitingpayNum, .paidNum] ⟨0, 0, 0⟩

/-- Whenever no recount is pending, every column is what `restat` defines. -/
def Exact (s : ReserveDb) : Prop := s.pending = [] → ∀ skuId, s.stock skuId = restated s skuId

def Job.OfCart (skuId : Nat) : Job → Prop
  | .shoppingcartCreated id _ => id = skuId
  | .shoppingcartSaved id => id = skuId
  | .saleorderSaved _ => False

def CartQuiet (due : List Job) (s : ReserveDb) (skuId : Nat) : Prop :=
  ∀ job ∈ s.pending ++ due, ¬ job.OfCart skuId

def OrderQuiet (due : List Job) (s : ReserveDb) (skuId : Nat) : Prop :=
  ∀ order ∈ s.orders, order.skuId = skuId → Job.saleorderSaved order.id ∉ s.pending ++ due

structure Sound (shop : Shop) (due : List Job) (s : ReserveDb) : Prop where
  carts : ∀ skuId, CartQuiet due s skuId →
    (s.stock skuId).shoppingcartNum = s.carts.sum (cartCount skuId)
  waiting : ∀ skuId, OrderQuiet due s skuId →
    (s.stock skuId).waitingpayNum = s.orders.sum (waitingpayCount skuId)
  paid : ∀ skuId, (s.stock skuId).paidNum = s.orders.sum (paidCount skuId)
  known : ∀ job ∈ s.pending ++ due, ∀ skuId, job.OfCart skuId →
    (shop.productSkus.get? skuId).isSome
  cartItem : ∀ cart ∈ s.carts, shop.productId cart.skuId = some cart.itemId
  orderItem : ∀ order ∈ s.orders, shop.productId order.skuId = some order.itemId
  unpaid : ∀ trade ∈ s.trades, trade.status = .waitBuyerPay →
    ∀ order ∈ s.orders, order.saleTradeId = trade.id → order.status ∉ paidStatus
  placed : ∀ order ∈ s.orders, ∃ trade ∈ s.trades, trade.id = order.saleTradeId

theorem Sound.exact (h : Sound shop [] s) : Exact s := by
  intro hnone skuId
  have hcarts : (s.stock skuId).shoppingcartNum = s.carts.sum (cartCount skuId) := by
    apply h.carts
    intro job hjob
    rw [hnone] at hjob
    exact absurd hjob List.not_mem_nil
  have hwaiting : (s.stock skuId).waitingpayNum = s.orders.sum (waitingpayCount skuId) := by
    apply h.waiting
    intro order _ _
    rw [hnone]
    exact List.not_mem_nil
  change s.stock skuId = ⟨s.carts.sum (cartCount skuId),
    s.orders.sum (waitingpayCount skuId), s.orders.sum (paidCount skuId)⟩
  rw [← hcarts, ← hwaiting, ← h.paid skuId]

variable {skuId : Nat}

theorem known_of_productId {itemId : Nat} (h : shop.productId skuId = some itemId) :
    (shop.productSkus.get? skuId).isSome := by
  obtain ⟨sku, hsku, -⟩ := Option.map_eq_some_iff.1 h
  rw [hsku]
  rfl

/-! ## Writes of the columns -/

@[simp] theorem stock_putStock (s : ReserveDb) (skuId k : Nat) (stock : SkuStock) :
    (putStock skuId stock s).stock k = if k = skuId then stock else s.stock k := by
  unfold ReserveDb.stock putStock
  by_cases h : k = skuId
  · subst h
    simp
  · simp [h]

theorem putStock_putStock (s : ReserveDb) (skuId : Nat) (a b : SkuStock) :
    putStock skuId a (putStock skuId b s) = putStock skuId a s := by
  simp [putStock]

theorem putStock_self {stock : SkuStock} (h : s.stocks skuId = some stock) :
    putStock skuId stock s = s := by
  simp only [putStock, ← h, Function.update_eq_self]

theorem Sound.put {k : Nat} {stock : SkuStock} (h : Sound shop due s)
    (hcarts : CartQuiet due' s k → stock.shoppingcartNum = s.carts.sum (cartCount k))
    (hwaiting : OrderQuiet due' s k → stock.waitingpayNum = s.orders.sum (waitingpayCount k))
    (hpaid : stock.paidNum = s.orders.sum (paidCount k))
    (hcartsOff : ∀ skuId, skuId ≠ k → CartQuiet due' s skuId → CartQuiet due s skuId)
    (hwaitingOff : ∀ skuId, skuId ≠ k → OrderQuiet due' s skuId → OrderQuiet due s skuId)
    (hknown : ∀ job ∈ due', job ∈ due) : Sound shop due' (putStock k stock s) where
  carts := by
    intro skuId hquiet
    rw [stock_putStock]
    split
    · next heq =>
        subst heq
        exact hcarts hquiet
    · next hne => exact h.carts skuId (hcartsOff skuId hne hquiet)
  waiting := by
    intro skuId hquiet
    rw [stock_putStock]
    split
    · next heq =>
        subst heq
        exact hwaiting hquiet
    · next hne => exact h.waiting skuId (hwaitingOff skuId hne hquiet)
  paid := by
    intro skuId
    rw [stock_putStock]
    split
    · next heq =>
        subst heq
        exact hpaid
    · next hne => exact h.paid skuId
  known := by
    intro job hjob
    rcases List.mem_append.1 hjob with hjob | hjob
    · exact h.known job (List.mem_append_left _ hjob)
    · exact h.known job (List.mem_append_right _ (hknown job hjob))
  cartItem := h.cartItem
  orderItem := h.orderItem
  unpaid := h.unpaid
  placed := h.placed

theorem getBySku_run (hknown : (shop.productSkus.get? skuId).isSome) (s : ReserveDb) :
    (SkuStock.getBySku shop skuId).run s = (.ok (s.stock skuId),
      if s.stocks skuId = none then putStock skuId (s.stock skuId) s else s) := by
  unfold SkuStock.getBySku
  rw [gets_bind_run]
  cases hstat : s.stocks skuId with
  | some stat =>
    have hstock : s.stock skuId = stat := by
      unfold ReserveDb.stock
      rw [hstat]
      rfl
    rw [hstock]
    rfl
  | none =>
    have hstock : s.stock skuId = ⟨0, 0, 0⟩ := by
      unfold ReserveDb.stock
      rw [hstat]
      rfl
    obtain ⟨sku, hsku⟩ := Option.isSome_iff_exists.1 hknown
    rw [hstock]
    dsimp only
    rw [getOr_bind_run, hsku]
    rfl

theorem write_run {p : Prop} [Decidable p] {stock : SkuStock}
    (hsame : ¬ p → stock = s.stock skuId) :
    (if p then modify (putStock skuId stock) else pure () : ReserveTx Unit).run
        (if s.stocks skuId = none then putStock skuId (s.stock skuId) s else s) =
      (.ok (), putStock skuId stock s) := by
  by_cases hp : p
  · rw [if_pos hp, modify_run]
    split
    · rw [putStock_putStock]
    · rfl
  · rw [if_neg hp, pure_run, hsame hp]
    split
    · rfl
    · next hrow =>
        obtain ⟨stat, hstat⟩ := Option.ne_none_iff_exists'.1 hrow
        have hstock : s.stocks skuId = some (s.stock skuId) := by
          unfold ReserveDb.stock
          rw [hstat]
          rfl
        rw [putStock_self hstock]

theorem recountShoppingcartNum_run (hknown : (shop.productSkus.get? skuId).isSome) (s : ReserveDb) :
    (recountShoppingcartNum shop skuId).run s = (.ok (), putStock skuId
      { s.stock skuId with shoppingcartNum := s.carts.sum (cartCount skuId) } s) := by
  unfold recountShoppingcartNum
  rw [gets_bind_run, bind_ok (getBySku_run hknown s)]
  apply write_run
  intro hsame
  rw [← not_not.1 hsame]

theorem recountWaitingpayNum_run {itemId : Nat}
    (hitem : shop.productId skuId = some itemId) (s : ReserveDb) :
    (recountWaitingpayNum shop skuId).run s = (.ok (), putStock skuId
      { s.stock skuId with
        waitingpayNum := s.orders.sum fun order =>
          if order.itemId = itemId then waitingpayCount skuId order else 0 } s) := by
  unfold recountWaitingpayNum
  rw [getOr_bind_run, hitem]
  dsimp only
  rw [gets_bind_run, bind_ok (getBySku_run (known_of_productId hitem) s)]
  apply write_run
  intro hsame
  rw [← not_not.1 hsame]

theorem Sound.waitingOfItem (h : Sound shop due s) {itemId : Nat}
    (hitem : shop.productId skuId = some itemId) :
    (s.orders.sum fun order =>
      if order.itemId = itemId then waitingpayCount skuId order else 0) =
        s.orders.sum (waitingpayCount skuId) := by
  apply Table.sum_congr
  intro order horder
  by_cases hsku : order.skuId = skuId
  · have hsome := h.orderItem order horder
    rw [hsku, hitem, Option.some.injEq] at hsome
    rw [if_pos hsome.symm]
  · have hzero : waitingpayCount skuId order = 0 := if_neg fun hand => hsku hand.1
    rw [hzero, ite_self]

theorem Sound.recountCarts (h : Sound shop due s) (hsub : ∀ job ∈ due', job ∈ due)
    (hdue : ∀ job ∈ due, job ∈ due' ∨ job.OfCart skuId) :
    Sound shop due' (putStock skuId
      { s.stock skuId with shoppingcartNum := s.carts.sum (cartCount skuId) } s) := by
  have hwaits : ∀ k, OrderQuiet due' s k → OrderQuiet due s k := by
    intro k hquiet order horder hsku hjob
    rcases List.mem_append.1 hjob with hjob | hjob
    · exact hquiet order horder hsku (List.mem_append_left _ hjob)
    · rcases hdue _ hjob with hjob | hcart
      · exact hquiet order horder hsku (List.mem_append_right _ hjob)
      · exact hcart
  have hcarts : ∀ k, k ≠ skuId → CartQuiet due' s k → CartQuiet due s k := by
    intro k hne hquiet job hjob hof
    rcases List.mem_append.1 hjob with hjob | hjob
    · exact hquiet job (List.mem_append_left _ hjob) hof
    · rcases hdue _ hjob with hjob | hcart
      · exact hquiet job (List.mem_append_right _ hjob) hof
      · -- a job counts the carts of one SKU
        cases job with
        | shoppingcartCreated id num => exact hne (hof.symm.trans hcart)
        | shoppingcartSaved id => exact hne (hof.symm.trans hcart)
        | saleorderSaved id => exact hof
  exact h.put (fun _ => rfl) (fun hquiet => h.waiting skuId (hwaits skuId hquiet))
    (h.paid skuId) hcarts (fun k _ => hwaits k) hsub

/-! ## Writes of the carts -/

theorem Sound.ofCarts {new : List Job} {carts : Table ShoppingCart} (h : Sound shop due s)
    (hitem : ∀ cart ∈ carts, shop.productId cart.skuId = some cart.itemId)
    (hknown : ∀ job ∈ new ++ due', ∀ skuId, job.OfCart skuId →
      (shop.productSkus.get? skuId).isSome)
    (hdue : ∀ job ∈ due, job ∈ due')
    (hsum : ∀ skuId, (∀ job ∈ s.pending ++ new ++ due', ¬ job.OfCart skuId) →
      carts.sum (cartCount skuId) = s.carts.sum (cartCount skuId)) :
    Sound shop due' { s with
      carts := carts
      pending := s.pending ++ new } where
  carts := by
    intro skuId hquiet
    have hold : CartQuiet due s skuId := by
      intro job hjob
      apply hquiet
      rcases List.mem_append.1 hjob with hjob | hjob
      · exact List.mem_append_left _ (List.mem_append_left _ hjob)
      · exact List.mem_append_right _ (hdue job hjob)
    rw [hsum skuId hquiet]
    exact h.carts skuId hold
  waiting := by
    intro skuId hquiet
    apply h.waiting
    intro order horder hsku hjob
    apply hquiet order horder hsku
    rcases List.mem_append.1 hjob with hjob | hjob
    · exact List.mem_append_left _ (List.mem_append_left _ hjob)
    · exact List.mem_append_right _ (hdue _ hjob)
  paid := h.paid
  known := by
    intro job hjob
    rw [List.append_assoc] at hjob
    rcases List.mem_append.1 hjob with hjob | hjob
    · exact h.known job (List.mem_append_left _ hjob)
    · exact hknown job hjob
  cartItem := hitem
  orderItem := h.orderItem
  unpaid := h.unpaid
  placed := h.placed

variable {cart : ShoppingCart}

theorem cartCount_of_ne (h : cart.skuId ≠ skuId) :
    cartCount skuId cart = 0 := if_neg fun hand => h hand.1

def Line (s : ReserveDb) (cart : ShoppingCart) : Prop :=
  ∃ row ∈ s.carts, row.id = cart.id ∧ row.skuId = cart.skuId ∧ row.itemId = cart.itemId

theorem line_of_mem (h : cart ∈ s.carts) : Line s cart :=
  ⟨cart, h, rfl, rfl, rfl⟩

theorem Line.item (hline : Line s cart) (h : Sound shop due s) :
    shop.productId cart.skuId = some cart.itemId := by
  obtain ⟨row, hrow, -, hsku, hitem⟩ := hline
  rw [← hsku, ← hitem]
  exact h.cartItem row hrow

theorem Line.save {other : ShoppingCart} (hline : Line s cart) (hother : Line s other)
    {carts : Table ShoppingCart} (hcarts : carts = s.carts.save cart) :
    ∃ row ∈ carts, row.id = other.id ∧ row.skuId = other.skuId ∧ row.itemId = other.itemId := by
  obtain ⟨row, hrow, hid, hsku, hitem⟩ := hline
  obtain ⟨row', hrow', hid', hsku', hitem'⟩ := hother
  subst hcarts
  by_cases heq : row'.id = cart.id
  · have hsame : row' = row := Table.pk_inj hrow' hrow (heq.trans hid.symm)
    subst hsame
    exact ⟨cart, Table.mem_save_self hrow hid, hid.symm.trans hid', hsku.symm.trans hsku',
      hitem.symm.trans hitem'⟩
  · exact ⟨row', (Table.mem_save_iff hrow hid).2 (.inr ⟨hrow', heq⟩), hid', hsku', hitem'⟩

theorem item_of_save (h : Sound shop due s) (hline : Line s cart) :
    ∀ row ∈ s.carts.save cart, shop.productId row.skuId = some row.itemId := by
  intro row hrow
  rcases Table.mem_save hrow with rfl | ⟨hrow, -⟩
  · exact hline.item h
  · exact h.cartItem row hrow

theorem Sound.saveCart (h : Sound shop due s) (hline : Line s cart) :
    Sound shop due ((ShoppingCart.save cart).run s).2 := by
  refine h.ofCarts (item_of_save h hline) ?_ (fun _ hjob => hjob) ?_
  · intro job hjob skuId hof
    rcases List.mem_append.1 hjob with hjob | hjob
    · rw [List.mem_singleton.1 hjob] at hof
      obtain rfl : cart.skuId = skuId := hof
      exact known_of_productId (hline.item h)
    · exact h.known job (List.mem_append_right _ hjob) skuId hof
  · intro skuId hquiet
    have hne : cart.skuId ≠ skuId := hquiet (.shoppingcartSaved cart.skuId)
      (List.mem_append_left _ (List.mem_append_right _ (List.mem_singleton.2 rfl)))
    obtain ⟨row, hrow, hid, hsku, -⟩ := hline
    rw [Table.sum_save hrow hid, cartCount_of_ne hne, cartCount_of_ne (hsku.trans_ne hne),
      sub_zero, add_zero]

theorem Sound.insertCart (h : Sound shop due s)
    (hitem : shop.productId cart.skuId = some cart.itemId) :
    Sound shop due ((ShoppingCart.insert cart).run s).2 := by
  refine h.ofCarts ?_ ?_ (fun _ hjob => hjob) ?_
  · intro row hrow
    rcases Table.mem_insert.1 hrow with hrow | rfl
    · exact h.cartItem row hrow
    · exact hitem
  · intro job hjob skuId hof
    rcases List.mem_append.1 hjob with hjob | hjob
    · rw [List.mem_singleton.1 hjob] at hof
      obtain rfl : cart.skuId = skuId := hof
      exact known_of_productId hitem
    · exact h.known job (List.mem_append_right _ hjob) skuId hof
  · intro skuId hquiet
    have hne : cart.skuId ≠ skuId := hquiet (.shoppingcartCreated cart.skuId cart.num)
      (List.mem_append_left _ (List.mem_append_right _ (List.mem_singleton.2 rfl)))
    have hzero : cartCount skuId (s.carts.stored cart) = 0 := cartCount_of_ne hne
    rw [Table.sum_insert, hzero, add_zero]

theorem Sound.updateCarts {p : ShoppingCart → Bool} {f : ShoppingCart → ShoppingCart}
    (h : Sound shop due s) (hsku : ∀ cart, (f cart).skuId = cart.skuId)
    (hitem : ∀ cart, (f cart).itemId = cart.itemId) (hdue : ∀ job ∈ due, job ∈ due')
    (hknown : ∀ job ∈ due', ∀ skuId, job.OfCart skuId → (shop.productSkus.get? skuId).isSome)
    (hcount : ∀ cart ∈ s.carts, p cart = true →
      cartCount cart.skuId (f cart) = cartCount cart.skuId cart ∨
        ∃ job ∈ s.pending ++ due', job.OfCart cart.skuId) :
    Sound shop due' { s with carts := s.carts.update p f } := by
  have hnext := @Sound.ofCarts shop due due' s [] (s.carts.update p f) h ?_ hknown hdue ?_
  · simpa only [List.append_nil] using hnext
  · intro row hrow
    obtain ⟨cart, hcart, rfl⟩ := Table.exists_of_mem_update hrow
    split
    · change shop.productId (f cart).skuId = some (f cart).itemId
      rw [hsku, hitem]
      exact h.cartItem cart hcart
    · exact h.cartItem cart hcart
  · intro skuId hquiet
    rw [List.append_nil] at hquiet
    rw [Table.sum_update]
    apply Table.sum_congr
    intro cart hcart
    split
    · next hp =>
        change cartCount skuId { f cart with id := cart.id } = _
        by_cases heq : cart.skuId = skuId
        · subst heq
          rcases hcount cart hcart hp with hsame | ⟨job, hjob, hof⟩
          · exact hsame
          · exact absurd hof (hquiet job hjob)
        · rw [cartCount_of_ne heq]
          exact cartCount_of_ne ((hsku cart).trans_ne heq)
    · rfl

/-! ## Writes of the trades and of the orders -/

theorem Sound.saveTrade {trade : SaleTrade} (h : Sound shop due s)
    (hstatus : trade.status ≠ .waitBuyerPay) :
    Sound shop due ((SaleTrade.save trade).run s).2 where
  carts := h.carts
  waiting := h.waiting
  paid := h.paid
  known := h.known
  cartItem := h.cartItem
  orderItem := h.orderItem
  unpaid := by
    intro other hother hwaits
    rcases Table.mem_save hother with rfl | ⟨hother, -⟩
    · exact absurd hwaits hstatus
    · exact h.unpaid other hother hwaits
  placed := fun order horder => Table.exists_pk_save trade (h.placed order horder)

theorem Sound.insertTrade {trade : SaleTrade} (h : Sound shop due s) :
    Sound shop due { s with trades := s.trades.insert trade } where
  carts := h.carts
  waiting := h.waiting
  paid := h.paid
  known := h.known
  cartItem := h.cartItem
  orderItem := h.orderItem
  unpaid := by
    intro other hother hwaits order horder hof
    rcases Table.mem_insert.1 hother with hother | rfl
    · exact h.unpaid other hother hwaits order horder hof
    · -- the key is new, so that no order has it
      obtain ⟨old, hold, hid⟩ := h.placed order horder
      have hlt : Row.pk old < s.trades.nextId := Table.pk_lt_nextId hold
      exact absurd (hid.trans hof) hlt.ne
  placed := by
    intro order horder
    obtain ⟨old, hold, hid⟩ := h.placed order horder
    exact ⟨old, Table.mem_insert.2 (.inl hold), hid⟩

variable {order : SaleOrder}

theorem waitingpayCount_of_ne (h : order.skuId ≠ skuId) :
    waitingpayCount skuId order = 0 := if_neg fun hand => h hand.1

theorem paidCount_of_ne (h : order.skuId ≠ skuId) :
    paidCount skuId order = 0 := if_neg fun hand => h hand.1

theorem paidCount_of_unpaid
    (h : order.status ∉ paidStatus) : paidCount skuId order = 0 := if_neg fun hand => h hand.2.1

theorem Sound.insertOrder (h : Sound shop due s)
    (hitem : shop.productId order.skuId = some order.itemId) (hunpaid : order.status ∉ paidStatus)
    (hplaced : ∃ trade ∈ s.trades, trade.id = order.saleTradeId) :
    Sound shop due ((SaleOrder.insert order).run s).2 where
  carts := by
    intro skuId hquiet
    apply h.carts
    intro job hjob
    apply hquiet
    rcases List.mem_append.1 hjob with hjob | hjob
    · exact List.mem_append_left _ (List.mem_append_left _ hjob)
    · exact List.mem_append_right _ hjob
  waiting := by
    intro skuId hquiet
    have hold : OrderQuiet due s skuId := by
      intro old hold hsku hjob
      apply hquiet old (Table.mem_insert.2 (.inl hold)) hsku
      rcases List.mem_append.1 hjob with hjob | hjob
      · exact List.mem_append_left _ (List.mem_append_left _ hjob)
      · exact List.mem_append_right _ hjob
    have hne : order.skuId ≠ skuId := by
      intro hsku
      apply hquiet (s.orders.stored order) (Table.mem_insert.2 (.inr rfl)) hsku
      exact List.mem_append_left _ (List.mem_append_right _ (List.mem_singleton.2 rfl))
    have hzero : waitingpayCount skuId (s.orders.stored order) = 0 := waitingpayCount_of_ne hne
    change (s.stock skuId).waitingpayNum = (s.orders.insert order).sum (waitingpayCount skuId)
    rw [Table.sum_insert, hzero, add_zero]
    exact h.waiting skuId hold
  paid := by
    intro skuId
    have hzero : paidCount skuId (s.orders.stored order) = 0 := paidCount_of_unpaid hunpaid
    change (s.stock skuId).paidNum = (s.orders.insert order).sum (paidCount skuId)
    rw [Table.sum_insert, hzero, add_zero]
    exact h.paid skuId
  known := by
    intro job hjob skuId hof
    rcases List.mem_append.1 hjob with hjob | hjob
    · rcases List.mem_append.1 hjob with hjob | hjob
      · exact h.known job (List.mem_append_left _ hjob) skuId hof
      · rw [List.mem_singleton.1 hjob] at hof
        exact absurd hof id
    · exact h.known job (List.mem_append_right _ hjob) skuId hof
  cartItem := h.cartItem
  orderItem := by
    intro row hrow
    rcases Table.mem_insert.1 hrow with hrow | rfl
    · exact h.orderItem row hrow
    · exact hitem
  unpaid := by
    intro trade htrade hwaits row hrow hof
    rcases Table.mem_insert.1 hrow with hrow | rfl
    · exact h.unpaid trade htrade hwaits row hrow hof
    · exact hunpaid
  placed := by
    intro row hrow
    rcases Table.mem_insert.1 hrow with hrow | rfl
    · exact h.placed row hrow
    · exact hplaced

def Goods (s : ReserveDb) (order : SaleOrder) : Prop :=
  ∃ row ∈ s.orders, row = { order with status := row.status }

theorem goods_of_mem (h : order ∈ s.orders) : Goods s order :=
  ⟨order, h, rfl⟩

theorem Goods.save {other : SaleOrder} (hgoods : Goods s order) (hother : Goods s other)
    {orders : Table SaleOrder} (horders : orders = s.orders.save order) :
    ∃ row ∈ orders, row = { other with status := row.status } := by
  obtain ⟨row, hrow, hlike⟩ := hgoods
  obtain ⟨row', hrow', hlike'⟩ := hother
  subst horders
  have hid : row.id = order.id := by rw [hlike]
  by_cases heq : row'.id = order.id
  · have hsame : row' = row := Table.pk_inj hrow' hrow (heq.trans hid.symm)
    subst hsame
    refine ⟨order, Table.mem_save_self hrow hid, ?_⟩
    calc order = { row' with status := order.status } := by rw [hlike]
      _ = { other with status := order.status } := by rw [hlike']
  · exact ⟨row', (Table.mem_save_iff hrow hid).2 (.inr ⟨hrow', heq⟩), hlike'⟩

theorem orderQuiet_of_save (hgoods : Goods s order)
    (hquiet : OrderQuiet due ((SaleOrder.save order).run s).2 skuId) :
    order.skuId ≠ skuId ∧ OrderQuiet due s skuId := by
  obtain ⟨row, hrow, hlike⟩ := hgoods
  have hid : row.id = order.id := by rw [hlike]
  have hsku : row.skuId = order.skuId := by rw [hlike]
  have hne : order.skuId ≠ skuId := by
    intro heq
    apply hquiet order (Table.mem_save_self hrow hid) heq
    exact List.mem_append_left _ (List.mem_append_right _ (List.mem_singleton.2 rfl))
  refine ⟨hne, fun old hold holdSku hjob => ?_⟩
  have hother : old.id ≠ order.id := by
    intro heq
    have hsame : old = row := Table.pk_inj hold hrow (heq.trans hid.symm)
    rw [hsame, hsku] at holdSku
    exact hne holdSku
  apply hquiet old ((Table.mem_save_iff hrow hid).2 (.inr ⟨hold, hother⟩)) holdSku
  rcases List.mem_append.1 hjob with hjob | hjob
  · exact List.mem_append_left _ (List.mem_append_left _ hjob)
  · exact List.mem_append_right _ hjob

theorem sum_save_of_ne (hgoods : Goods s order) (hne : order.skuId ≠ skuId) :
    (s.orders.save order).sum (waitingpayCount skuId) = s.orders.sum (waitingpayCount skuId) ∧
      (s.orders.save order).sum (paidCount skuId) = s.orders.sum (paidCount skuId) := by
  obtain ⟨row, hrow, hlike⟩ := hgoods
  have hid : row.id = order.id := by rw [hlike]
  have hrowNe : row.skuId ≠ skuId := by
    rw [hlike]
    exact hne
  rw [Table.sum_save hrow hid, Table.sum_save hrow hid, waitingpayCount_of_ne hne,
    waitingpayCount_of_ne hrowNe, paidCount_of_ne hne, paidCount_of_ne hrowNe]
  simp

theorem cartQuiet_of_saveOrder
    (hquiet : CartQuiet due ((SaleOrder.save order).run s).2 skuId) : CartQuiet due s skuId := by
  intro job hjob
  apply hquiet
  rcases List.mem_append.1 hjob with hjob | hjob
  · exact List.mem_append_left _ (List.mem_append_left _ hjob)
  · exact List.mem_append_right _ hjob

theorem known_of_saveOrder (h : Sound shop due s) :
    ∀ job ∈ ((SaleOrder.save order).run s).2.pending ++ due, ∀ skuId, job.OfCart skuId →
      (shop.productSkus.get? skuId).isSome := by
  intro job hjob skuId hof
  rcases List.mem_append.1 hjob with hjob | hjob
  · rcases List.mem_append.1 hjob with hjob | hjob
    · exact h.known job (List.mem_append_left _ hjob) skuId hof
    · rw [List.mem_singleton.1 hjob] at hof
      exact absurd hof id
  · exact h.known job (List.mem_append_right _ hjob) skuId hof

theorem orderItem_of_save (h : Sound shop due s) (hgoods : Goods s order) :
    ∀ row ∈ s.orders.save order, shop.productId row.skuId = some row.itemId := by
  intro row hrow
  rcases Table.mem_save hrow with rfl | ⟨hrow, -⟩
  · obtain ⟨old, hold, hlike⟩ := hgoods
    have hitem := h.orderItem old hold
    rw [hlike] at hitem
    exact hitem
  · exact h.orderItem row hrow

theorem placed_of_save (h : Sound shop due s) (hgoods : Goods s order) :
    ∀ row ∈ s.orders.save order, ∃ trade ∈ s.trades, trade.id = row.saleTradeId := by
  intro row hrow
  rcases Table.mem_save hrow with rfl | ⟨hrow, -⟩
  · obtain ⟨old, hold, hlike⟩ := hgoods
    have hplaced := h.placed old hold
    rw [hlike] at hplaced
    exact hplaced
  · exact h.placed row hrow

theorem Sound.saveUnpaid (h : Sound shop due s) (hgoods : Goods s order)
    (hold : ∀ row ∈ s.orders, row.id = order.id → row.status ∉ paidStatus)
    (hnew : order.status ∉ paidStatus) : Sound shop due ((SaleOrder.save order).run s).2 where
  carts := fun skuId hquiet => h.carts skuId (cartQuiet_of_saveOrder hquiet)
  waiting := by
    intro skuId hquiet
    obtain ⟨hne, hquiet⟩ := orderQuiet_of_save hgoods hquiet
    exact (h.waiting skuId hquiet).trans (sum_save_of_ne hgoods hne).1.symm
  paid := by
    intro skuId
    obtain ⟨row, hrow, hlike⟩ := hgoods
    have hid : row.id = order.id := by rw [hlike]
    change (s.stock skuId).paidNum = (s.orders.save order).sum (paidCount skuId)
    rw [Table.sum_save hrow hid, paidCount_of_unpaid (hold row hrow hid),
      paidCount_of_unpaid hnew, sub_zero, add_zero]
    exact h.paid skuId
  known := known_of_saveOrder h
  cartItem := h.cartItem
  orderItem := orderItem_of_save h hgoods
  unpaid := by
    intro trade htrade hwaits row hrow hof
    rcases Table.mem_save hrow with rfl | ⟨hrow, -⟩
    · exact hnew
    · exact h.unpaid trade htrade hwaits row hrow hof
  placed := placed_of_save h hgoods

/-- The columns of the SKU of a paid order, as `set_order_paid_num` leaves them. -/
def paidStock (s : ReserveDb) (skuId : Nat) : SkuStock :=
  { s.stock skuId with
    paidNum := s.orders.sum (paidCount skuId)
    waitingpayNum := s.orders.sum (waitingpayCount skuId) }

theorem Sound.savePaid (h : Sound shop due s) (hgoods : Goods s order)
    (htrade : ∀ trade ∈ s.trades, trade.status = .waitBuyerPay → order.saleTradeId ≠ trade.id) :
    Sound shop due (putStock order.skuId
      (paidStock ((SaleOrder.save order).run s).2 order.skuId)
        ((SaleOrder.save order).run s).2) where
  carts := by
    intro skuId hquiet
    have hcarts := h.carts skuId (cartQuiet_of_saveOrder hquiet)
    rw [stock_putStock]
    split
    · next heq =>
        subst heq
        exact hcarts
    · exact hcarts
  waiting := by
    intro skuId hquiet
    rw [stock_putStock]
    split
    · next heq =>
        subst heq
        rfl
    · next hne =>
        obtain ⟨-, hquiet⟩ := orderQuiet_of_save hgoods hquiet
        exact (h.waiting skuId hquiet).trans (sum_save_of_ne hgoods (Ne.symm hne)).1.symm
  paid := by
    intro skuId
    rw [stock_putStock]
    split
    · next heq =>
        subst heq
        rfl
    · next hne =>
        exact (h.paid skuId).trans (sum_save_of_ne hgoods (Ne.symm hne)).2.symm
  known := known_of_saveOrder h
  cartItem := h.cartItem
  orderItem := orderItem_of_save h hgoods
  unpaid := by
    intro trade htradeMem hwaits row hrow hof
    rcases Table.mem_save hrow with rfl | ⟨hrow, -⟩
    · exact absurd hof (htrade trade htradeMem hwaits)
    · exact h.unpaid trade htradeMem hwaits row hrow hof
  placed := placed_of_save h hgoods

end ShopManager.Pay.Reserved
