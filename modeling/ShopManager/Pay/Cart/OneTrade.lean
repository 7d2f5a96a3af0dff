import ShopManager.Pay.Cart.RealGoods

/-!
# One submission makes one trade

A request is checked when it arrives and makes its trade when it has the lock of the customer;
other requests come in between.  A number makes one trade, with one order for each of its
goods.  That a line of the cart was settled before is not looked at: another number settles
it again.
-/

namespace ShopManager.Pay.Cart

open Library Library.Tx Library.Execution

/-! ## Requests that overlap -/

/-- `waiting` are the requests that the checks have let through; `created` is no data of the
shop: which request made which trade. -/
structure Desk where
  db : CartDb
  waiting : List (Request × Prepared)
  created : List (Nat × Request)

/-- A request arrives, or the waiting request of a place has the lock. -/
inductive DeskOp where
  | arrive (request : Request)
  | commit (place : Nat)
  deriving DecidableEq, Repr

section Exec

variable (around : Surroundings) (rules : CouponRules)

/-- The waiting request makes its trade; a request that finds the trade of its number, or
fails, makes none. -/
def Desk.create (s : Desk) (request : Request) (prepared : Prepared) : Desk where
  db := Cart.create around prepared s.db
  waiting := s.waiting
  created := s.created ++
    (newTrades s.db (Cart.create around prepared s.db)).map fun trade => (trade.id, request)

def DeskOp.exec : DeskOp → Desk → Desk
  | arrive request, s =>
      match request.check around rules s.db with
      | .error _ => s
      | .ok prepared => { s with waiting := s.waiting ++ [(request, prepared)] }
  | commit place, s =>
      match s.waiting[place]? with
      | none => s
      | some (request, prepared) =>
          { s.create around request prepared with waiting := s.waiting.eraseIdx place }

end Exec

def ordersOf (trade : Nat) (s : CartDb) : List SaleOrder :=
  s.orders.filter fun order => order.saleTradeId = trade

def Request.Ordered (orders : List SaleOrder) : Request → Prop
  | cart request => List.Perm (orders.map SaleOrder.cart) (request.cartIds.map some)
  | buynow request => ∃ order, orders = [order] ∧ order.skuId = request.skuId ∧
      order.num = request.num ∧ order.cart = none

def Settled (s : CartDb) : Prop :=
  ∀ order ∈ s.orders, ∀ other ∈ s.orders, order.cart.isSome → order.cart = other.cart →
    order.saleTradeId = other.saleTradeId

/-- A number has one trade, a trade the orders of its request, and a line of the cart is
settled in one trade. -/
structure OneTrade (s : Desk) : Prop where
  number : (s.db.trades.rows.map SaleTrade.tid).Nodup
  orders : ∀ made ∈ s.created, made.2.Ordered (ordersOf made.1 s.db)
  settled : Settled s.db

/-- A step adds a trade with its orders, or leaves the trades, the orders and the carts
alone. -/
def CleanStep (s s' : Desk) : Prop :=
  (newTrades s.db s'.db).length = 1 ∨ Untouched s.db s'.db

def UnsettledAt (around : Surroundings) (s : Desk) : DeskOp → Prop
  | .arrive _ => True
  | .commit place => ∀ request prepared, s.waiting[place]? = some (request, prepared) →
      Creates around prepared s.db →
        ∀ order ∈ s.db.orders, ∀ id, order.cart = some id →
          order.cart ∉ (plannedOrders (plannedTrade prepared) prepared.goods).map SaleOrder.cart

/-! ## What every step keeps -/

def Request.Names : Request → Goods → Prop
  | cart request, .lines carts => List.Perm (carts.map ShoppingCart.id) request.cartIds
  | buynow request, .sku _ sku num => sku.id = request.skuId ∧ num = request.num
  | _, _ => False

/-- Numbers are unique, orders and entries belong to trades that are there, and what waits
has been checked. -/
structure Desk.Kept (s : Desk) : Prop where
  number : (s.db.trades.rows.map SaleTrade.tid).Nodup
  orders : ∀ made ∈ s.created, made.2.Ordered (ordersOf made.1 s.db)
  ofTrade : ∀ order ∈ s.db.orders, order.saleTradeId < s.db.trades.nextId
  entries : ∀ made ∈ s.created, made.1 < s.db.trades.nextId
  checked : ∀ entry ∈ s.waiting, entry.1.Names entry.2.goods

section Steps

variable {around : Surroundings} {rules : CouponRules}

theorem names_of_check {s : CartDb} {request : Request} {prepared : Prepared}
    (h : request.check around rules s = .ok prepared) : request.Names prepared.goods := by
  cases request with
  | cart request =>
    obtain ⟨rfl, hlength, -, -⟩ := checkCart_ok h
    have hnodup : ((request.lines s).map ShoppingCart.id).Nodup := by
      have hpk : (s.carts.rows.map Row.pk).Nodup := s.carts.sorted.imp ne_of_lt
      exact hpk.sublist (List.filter_sublist.map _)
    have hsubset : (request.lines s).map ShoppingCart.id ⊆ request.cartIds := by
      intro id hid
      obtain ⟨cart, hcart, rfl⟩ := List.mem_map.1 hid
      have hnamed := List.of_mem_filter hcart
      exact (of_decide_eq_true hnamed).1
    refine (List.subperm_of_subset hnodup hsubset).perm_of_length_le ?_
    rw [List.length_map, hlength]
  | buynow request =>
    obtain ⟨product, sku, -, hsku, rfl, -, -⟩ := checkBuynow_ok h
    exact ⟨(Table.get?_eq_some.1 hsku).2, rfl⟩

theorem ordered_of_names {request : Request} {trade : SaleTrade} {goods : Goods}
    {new : List SaleOrder} (h : request.Names goods)
    (hnew : new.map SaleOrder.unnumbered = plannedOrders trade goods) : request.Ordered new := by
  have hcarts : (new.map SaleOrder.unnumbered).map SaleOrder.cart = new.map SaleOrder.cart := by
    rw [List.map_map]
    rfl
  cases request with
  | cart request =>
    cases goods with
    | lines carts =>
      have hperm : List.Perm (carts.map ShoppingCart.id) request.cartIds := h
      change List.Perm (new.map SaleOrder.cart) _
      rw [← hcarts, hnew]
      have hmap := hperm.map some
      rw [List.map_map] at hmap
      change List.Perm ((carts.map (orderOfCart trade)).map SaleOrder.cart) _
      rw [List.map_map]
      exact hmap
    | sku product sku num => exact h.elim
  | buynow request =>
    cases goods with
    | lines carts => exact h.elim
    | sku product sku num =>
      obtain ⟨hsku, hnum⟩ := h
      have hplanned : new.map SaleOrder.unnumbered = [orderOfSku trade product sku num] := hnew
      obtain ⟨order, rfl, horder⟩ := List.map_eq_singleton_iff.1 hplanned
      refine ⟨order, rfl, ?_, ?_, ?_⟩
      · exact (congrArg SaleOrder.skuId horder).trans hsku
      · exact (congrArg SaleOrder.num horder).trans hnum
      · exact congrArg SaleOrder.cart horder

theorem saleTradeId_of_mem {trade : SaleTrade} {goods : Goods} {new : List SaleOrder}
    (hnew : new.map SaleOrder.unnumbered = plannedOrders trade goods) :
    ∀ order ∈ new, order.saleTradeId = trade.id := by
  intro order horder
  have hmem : order.unnumbered ∈ plannedOrders trade goods :=
    hnew ▸ List.mem_map_of_mem horder
  change order.unnumbered.saleTradeId = trade.id
  cases goods with
  | lines carts =>
    obtain ⟨cart, -, heq⟩ := List.mem_map.1 hmem
    rw [← heq]
    rfl
  | sku product sku num =>
    rw [List.mem_singleton.1 hmem]
    rfl

theorem made_cases {prepared : Prepared} {s s' : CartDb} (h : Made prepared s s') :
    newTrades s s' = [s.trades.stored (plannedTrade prepared)] ∧
      ∃ new, s'.orders.rows = s.orders.rows ++ new ∧
        new.map SaleOrder.unnumbered =
          plannedOrders (s.trades.stored (plannedTrade prepared)) prepared.goods ∧
        ∀ order ∈ new, order.saleTradeId = s.trades.nextId := by
  obtain ⟨new, hrows, hplanned⟩ := h.orders
  have hnumbers := map_unnumbered hplanned
  refine ⟨Table.filter_new ?_, new, hrows, hnumbers, saleTradeId_of_mem hnumbers⟩
  rw [h.trades]
  rfl

theorem Desk.Kept.create {s : Desk} (h : s.Kept) {request : Request} {prepared : Prepared}
    (hnames : request.Names prepared.goods) : (s.create around request prepared).Kept := by
  unfold Desk.create
  rcases create_spec around prepared s.db with ⟨hcreates, hmade⟩ | ⟨-, hsame⟩
  · obtain ⟨hnew, new, hrows, hplanned, hids⟩ := made_cases hmade
    have hnext : s.db.trades.nextId < (Cart.create around prepared s.db).trades.nextId := by
      rw [hmade.trades]
      exact Table.nextId_lt_insert _ _
    have hof : ∀ n, ordersOf n (Cart.create around prepared s.db) =
        ordersOf n s.db ++ new.filter fun order => order.saleTradeId = n := by
      intro n
      unfold ordersOf Table.filter
      rw [hrows, List.filter_append]
    have hold : ordersOf s.db.trades.nextId s.db = [] := by
      refine List.filter_eq_nil_iff.2 fun order horder => ?_
      have hlt := h.ofTrade order horder
      simpa using hlt.ne
    refine ⟨?_, ?_, ?_, ?_, h.checked⟩
    · obtain ⟨uuid, huuid, -, hfresh⟩ := hcreates.uuid
      have htid : (plannedTrade prepared).tid = uuid := by
        unfold plannedTrade
        rw [huuid]
        rfl
      dsimp only
      rw [hmade.trades, Table.map_rows_insert, List.nodup_append]
      refine ⟨h.number, List.nodup_singleton _, ?_⟩
      intro tid htids last hlast heq
      obtain ⟨trade, htrade, rfl⟩ := List.mem_map.1 htids
      obtain rfl := List.mem_singleton.1 hlast
      exact hfresh trade htrade (heq.trans htid)
    · intro made hmem
      rw [hnew] at hmem
      change made.2.Ordered (ordersOf made.1 (Cart.create around prepared s.db))
      rw [hof]
      rcases List.mem_append.1 hmem with hmem | hmem
      · have hnone : (new.filter fun order => order.saleTradeId = made.1) = [] := by
          refine List.filter_eq_nil_iff.2 fun order horder => ?_
          have hlt := h.entries made hmem
          rw [hids order horder]
          simpa using hlt.ne'
        rw [hnone, List.append_nil]
        exact h.orders made hmem
      · obtain rfl := List.mem_singleton.1 hmem
        have hall : (new.filter fun order => order.saleTradeId = s.db.trades.nextId) = new :=
          List.filter_eq_self.2 fun order horder => decide_eq_true (hids order horder)
        change request.Ordered (ordersOf s.db.trades.nextId s.db ++
          new.filter fun order => order.saleTradeId = s.db.trades.nextId)
        rw [hold, hall, List.nil_append]
        exact ordered_of_names hnames hplanned
    · intro order horder
      rw [Table.mem_def, hrows] at horder
      rcases List.mem_append.1 horder with horder | horder
      · exact (h.ofTrade order horder).trans hnext
      · rw [hids order horder]
        exact hnext
    · intro made hmem
      rw [hnew] at hmem
      rcases List.mem_append.1 hmem with hmem | hmem
      · exact (h.entries made hmem).trans hnext
      · obtain rfl := List.mem_singleton.1 hmem
        exact hnext
  · have hnew : newTrades s.db (Cart.create around prepared s.db) = [] := by
      refine List.eq_nil_iff_forall_not_mem.2 fun trade htrade => ?_
      unfold newTrades at htrade
      rw [hsame.trades] at htrade
      exact not_mem_newTrades htrade
    have horders : ∀ n, ordersOf n (Cart.create around prepared s.db) = ordersOf n s.db := by
      intro n
      unfold ordersOf
      rw [hsame.orders]
    rw [hnew, List.map_nil, List.append_nil]
    refine ⟨?_, ?_, ?_, ?_, h.checked⟩
    · dsimp only
      rw [hsame.trades]
      exact h.number
    · intro made hmem
      exact (horders made.1).symm ▸ h.orders made hmem
    · dsimp only
      rw [hsame.trades, hsame.orders]
      exact h.ofTrade
    · dsimp only
      rw [hsame.trades]
      exact h.entries

theorem Desk.Kept.exec {s : Desk} (h : s.Kept) (op : DeskOp) :
    (op.exec around rules s).Kept := by
  cases op with
  | arrive request =>
    change Desk.Kept (match request.check around rules s.db with
      | .error _ => s
      | .ok prepared => { s with waiting := s.waiting ++ [(request, prepared)] })
    cases hcheck : request.check around rules s.db with
    | error refusal => exact h
    | ok prepared =>
      refine ⟨h.number, h.orders, h.ofTrade, h.entries, fun entry hentry => ?_⟩
      rcases List.mem_append.1 hentry with hentry | hentry
      · exact h.checked entry hentry
      · obtain rfl := List.mem_singleton.1 hentry
        exact names_of_check hcheck
  | commit place =>
    change Desk.Kept (match s.waiting[place]? with
      | none => s
      | some (request, prepared) =>
        { s.create around request prepared with waiting := s.waiting.eraseIdx place })
    cases hwaiting : s.waiting[place]? with
    | none => exact h
    | some entry =>
      have hnames := h.checked entry (List.mem_of_getElem? hwaiting)
      have hkept : (s.create around entry.1 entry.2).Kept := h.create hnames
      refine ⟨hkept.number, hkept.orders, hkept.ofTrade, hkept.entries, fun e he => ?_⟩
      exact h.checked e (List.mem_of_mem_eraseIdx he)

theorem cleanStep (s : Desk) (op : DeskOp) : CleanStep s (op.exec around rules s) := by
  cases op with
  | arrive request =>
    right
    change Untouched s.db (match request.check around rules s.db with
      | .error _ => s
      | .ok prepared => { s with waiting := s.waiting ++ [(request, prepared)] }).db
    cases request.check around rules s.db <;> exact Untouched.refl s.db
  | commit place =>
    change CleanStep s (match s.waiting[place]? with
      | none => s
      | some (request, prepared) =>
        { s.create around request prepared with waiting := s.waiting.eraseIdx place })
    cases s.waiting[place]? with
    | none => exact .inr (Untouched.refl s.db)
    | some entry =>
      rcases create_spec around entry.2 s.db with ⟨-, hmade⟩ | ⟨-, hsame⟩
      · left
        obtain ⟨hnew, -⟩ := made_cases hmade
        exact congrArg List.length hnew
      · exact .inr hsame

end Steps

theorem settled_made_iff {s s' : CartDb} {prepared : Prepared}
    (hof : ∀ order ∈ s.orders, order.saleTradeId < s.trades.nextId) (h : Settled s)
    (hmade : Made prepared s s') :
    Settled s' ↔ ∀ order ∈ s.orders, ∀ id, order.cart = some id →
      order.cart ∉ (plannedOrders (plannedTrade prepared) prepared.goods).map
        SaleOrder.cart := by
  obtain ⟨-, new, hrows, hplanned, hids⟩ := made_cases hmade
  have hcarts : new.map SaleOrder.cart =
      (plannedOrders (plannedTrade prepared) prepared.goods).map SaleOrder.cart := by
    have hmap := congrArg (List.map SaleOrder.cart) hplanned
    rw [List.map_map] at hmap
    refine Eq.trans hmap ?_
    cases prepared.goods with
    | lines carts =>
      change (carts.map _).map _ = (carts.map _).map _
      rw [List.map_map, List.map_map]
      rfl
    | sku product sku num => rfl
  rw [← hcarts]
  constructor
  · intro hsettled order horder id hid hmem
    obtain ⟨other, hother, heq⟩ := List.mem_map.1 hmem
    have hold : order ∈ s'.orders := by
      rw [Table.mem_def, hrows]
      exact List.mem_append_left _ horder
    have hnew : other ∈ s'.orders := by
      rw [Table.mem_def, hrows]
      exact List.mem_append_right _ hother
    have hsame := hsettled order hold other hnew (by rw [hid]; rfl) heq.symm
    have hlt := hof order horder
    rw [hsame, hids other hother] at hlt
    exact lt_irrefl _ hlt
  · intro hfresh order horder other hother hsome heq
    obtain ⟨id, hid⟩ := Option.isSome_iff_exists.1 hsome
    rw [Table.mem_def, hrows, List.mem_append] at horder hother
    rcases horder with horder | horder <;> rcases hother with hother | hother
    · exact h order horder other hother hsome heq
    · exact absurd (heq ▸ List.mem_map_of_mem hother) (hfresh order horder id hid)
    · exact absurd (heq ▸ List.mem_map_of_mem horder) (hfresh other hother id (heq ▸ hid))
    · rw [hids order horder, hids other hother]

section Law

variable {around : Surroundings} {rules : CouponRules}

theorem oneTrade_exec_iff {s : Desk} (hkept : s.Kept) (h : OneTrade s) (op : DeskOp) :
    OneTrade (op.exec around rules s) ↔ UnsettledAt around s op := by
  have hkept' : (op.exec around rules s).Kept := hkept.exec op
  have hiff : OneTrade (op.exec around rules s) ↔ Settled (op.exec around rules s).db :=
    ⟨fun hone => hone.settled, fun hsettled => ⟨hkept'.number, hkept'.orders, hsettled⟩⟩
  rw [hiff]
  cases op with
  | arrive request =>
    refine iff_of_true ?_ trivial
    change Settled (match request.check around rules s.db with
      | .error _ => s
      | .ok prepared => { s with waiting := s.waiting ++ [(request, prepared)] }).db
    cases request.check around rules s.db <;> exact h.settled
  | commit place =>
    change Settled (match s.waiting[place]? with
      | none => s
      | some (request, prepared) =>
        { s.create around request prepared with waiting := s.waiting.eraseIdx place }).db ↔
      ∀ request prepared, s.waiting[place]? = some (request, prepared) → _
    cases hwaiting : s.waiting[place]? with
    | none =>
      refine iff_of_true h.settled fun request prepared hnone => ?_
      cases hnone
    | some entry =>
      obtain ⟨request, prepared⟩ := entry
      change Settled (Cart.create around prepared s.db) ↔ _
      rcases create_spec around prepared s.db with ⟨hcreates, hmade⟩ | ⟨hnone, hsame⟩
      · rw [settled_made_iff hkept.ofTrade h.settled hmade]
        constructor
        · intro hfresh request' prepared' heq _
          cases heq
          exact hfresh
        · intro hguard
          exact hguard request prepared rfl hcreates
      · refine iff_of_true ?_ fun request' prepared' heq hcreates => ?_
        · unfold Settled
          rw [hsame.orders]
          exact h.settled
        · cases heq
          exact absurd hcreates hnone

end Law

/-- A shop that keeps the law before the requests come: the numbers are unique, every order
has its trade, and no line of a cart is in two. -/
structure Opening (db : CartDb) : Prop where
  number : (db.trades.rows.map SaleTrade.tid).Nodup
  ofTrade : ∀ order ∈ db.orders, ∃ trade ∈ db.trades, trade.id = order.saleTradeId
  settled : Settled db

def opened (db : CartDb) : Desk := ⟨db, [], []⟩

def submitTwice (request : Request) : List DeskOp :=
  [.arrive request, .arrive request, .commit 0, .commit 0]

def plainExec : DeskOp → Desk → Desk := DeskOp.exec plainSurroundings tenYuanRules

theorem opening_couponShop : Opening couponShop := by
  refine ⟨by decide, fun order horder => ?_, fun order horder => ?_⟩
  · cases horder
  · cases horder

def againRequest : CartRequest :=
  { threeLinesFor 11970 0 "" with uuid := some "xd170101klmnopqrst" }

end ShopManager.Pay.Cart
