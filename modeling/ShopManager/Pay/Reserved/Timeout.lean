import ShopManager.Pay.Reserved.Operations

/-!
# What the timeout task releases

`task_schedule_cart` closes the overdue carts and then, but only where there were none, the
unpaid trades whose time is over.
-/

namespace ShopManager.Pay.Reserved

open Library Library.Tx Library.Execution
open Cart (CartStatus)
open Trade (TradeStatus normalOrderStatus)

variable {shop : Shop} {around : Surroundings} {due due' : List Job} {s s' : ReserveDb}

/-! ## The recounts of the task -/

theorem recounts_run : ∀ (skuIds : List Nat) {s : ReserveDb},
    Sound shop (skuIds.map Job.shoppingcartSaved) s →
      ∃ stocks, (forEach skuIds (recountShoppingcartNum shop)).run s =
        (.ok (), { s with stocks := stocks }) ∧ Sound shop [] { s with stocks := stocks } := by
  intro skuIds
  induction skuIds with
  | nil =>
    intro s hs
    exact ⟨s.stocks, rfl, hs⟩
  | cons skuId skuIds ih =>
    intro s hs
    have hknown : (shop.productSkus.get? skuId).isSome :=
      hs.known _ (List.mem_append_right _ (List.mem_cons_self ..)) skuId rfl
    have hrest : Sound shop (skuIds.map Job.shoppingcartSaved) (putStock skuId
        { s.stock skuId with shoppingcartNum := s.carts.sum (cartCount skuId) } s) := by
      refine hs.recountCarts (fun job hjob => List.mem_cons_of_mem _ hjob) fun job hjob => ?_
      rcases List.mem_cons.1 hjob with rfl | hjob
      · exact .inr rfl
      · exact .inl hjob
    obtain ⟨stocks, hrun, hsound⟩ := ih hrest
    refine ⟨stocks, ?_, hsound⟩
    rw [forEach_cons, bind_ok (recountShoppingcartNum_run hknown s)]
    exact hrun

def cancelCart (cart : ShoppingCart) : ShoppingCart := { cart with status := .cancel }

def overdueSkus (now : Nat) (s : ReserveDb) : List Nat :=
  ((s.carts.filter (overdue now)).map ShoppingCart.skuId).dedup

theorem overdueSkus_eq_nil {now : Nat} :
    overdueSkus now s = [] ↔ ∀ cart ∈ s.carts, overdue now cart = false := by
  unfold overdueSkus
  rw [List.dedup_eq_nil, List.map_eq_nil_iff, Table.filter, List.filter_eq_nil_iff]
  refine forall₂_congr fun cart _ => ?_
  rw [Bool.not_eq_true]

def extendSkus (shop : Shop) (now : Nat) (s : ReserveDb) : List Nat :=
  (shop.productSkus.rows.map ProductSku.id).filter fun skuId =>
    skuId ∉ overdueSkus now s ∧ (s.stocks skuId).any fun stock => 0 < stock.shoppingcartNum

theorem known_of_skus (h : Sound shop due s) (now : Nat) :
    ∀ skuId ∈ overdueSkus now s ++ extendSkus shop now s,
      (shop.productSkus.get? skuId).isSome := by
  intro skuId hsku
  rcases List.mem_append.1 hsku with hsku | hsku
  · obtain ⟨cart, hcart, rfl⟩ := List.mem_map.1 (List.mem_dedup.1 hsku)
    exact known_of_productId (h.cartItem cart (List.mem_of_mem_filter hcart))
  · obtain ⟨sku, hrow, rfl⟩ := List.mem_map.1 (List.mem_of_mem_filter hsku)
    rw [get_of_mem hrow]
    rfl

theorem taskScheduleCart_run (h : Sound shop [] s) :
    ∃ stocks, Sound shop [] { s with
        carts := s.carts.update (overdue around.now) cancelCart
        stocks := stocks } ∧
      (taskScheduleCart shop around).run s =
        (if overdueSkus around.now s = [] then closeTimeoutTrades around else pure ()).run
          { s with
            carts := s.carts.update (overdue around.now) cancelCart
            stocks := stocks } := by
  have hknown := known_of_skus h around.now
  have hclosed : Sound shop
      ((overdueSkus around.now s ++ extendSkus shop around.now s).map Job.shoppingcartSaved)
      { s with carts := s.carts.update (overdue around.now) cancelCart } := by
    refine h.updateCarts (fun _ => rfl) (fun _ => rfl) (fun _ hjob => absurd hjob
      List.not_mem_nil) ?_ ?_
    · intro job hjob skuId hof
      obtain ⟨id, hid, rfl⟩ := List.mem_map.1 hjob
      obtain rfl : id = skuId := hof
      exact hknown id hid
    · intro cart hcart hover
      have hsku : cart.skuId ∈ overdueSkus around.now s :=
        List.mem_dedup.2 (List.mem_map_of_mem (List.mem_filter.2 ⟨hcart, hover⟩))
      exact .inr ⟨_, List.mem_append_right _
        (List.mem_map_of_mem (List.mem_append_left _ hsku)), rfl⟩
  obtain ⟨stocks, hrun, hsound⟩ := recounts_run _ hclosed
  refine ⟨stocks, hsound, ?_⟩
  unfold taskScheduleCart closeTimeoutCartsAndOrdersResetCartNum
  rw [gets_bind_run, if_pos rfl]
  dsimp only
  rw [modify_bind_run]
  exact bind_ok hrun

/-! ## The trades of the task -/

theorem closeOrders_run : ∀ (orders : List SaleOrder) (s : ReserveDb), ∃ table pending,
    (forEach orders SaleOrder.closeOrder).run s =
      (.ok (), { s with
        orders := table
        pending := pending }) := by
  intro orders
  induction orders with
  | nil =>
    intro s
    exact ⟨s.orders, s.pending, rfl⟩
  | cons order orders ih =>
    intro s
    obtain ⟨table, pending, hrun⟩ := ih ((SaleOrder.closeOrder order).run s).2
    exact ⟨table, pending, hrun⟩

theorem closeTrade_run {trade : SaleTrade} (hmem : trade ∈ s.trades)
    (hwaits : trade.status = .waitBuyerPay) (released : Bool) :
    ∃ res table pending, (SaleTrade.closeTrade released trade.id).run s =
      (res, if released then
        { s with
          trades := s.trades.save { trade with status := .tradeClosedBySys }
          orders := table
          pending := pending }
        else s) := by
  have hget : s.trades.get? trade.id = some trade := Table.get?_eq_some.2 ⟨hmem, rfl⟩
  obtain ⟨table, pending, hclose⟩ := closeOrders_run
    (s.orders.filter fun order => decide (order.saleTradeId = trade.id ∧
      order.status ∈ normalOrderStatus))
    { s with trades := s.trades.save { trade with status := .tradeClosedBySys } }
  have hsave : (SaleTrade.save { trade with status := .tradeClosedBySys }).run s =
      (.ok (), { s with trades := s.trades.save { trade with status := .tradeClosedBySys } }) :=
    rfl
  unfold SaleTrade.closeTrade
  cases released with
  | true =>
    refine ⟨.ok (), table, pending, atomic_ok ?_⟩
    rw [getOr_bind_run, hget]
    dsimp only
    rw [if_neg (not_not.2 hwaits), bind_ok hsave, gets_bind_run, bind_ok hclose]
    rfl
  | false =>
    refine ⟨.error .doesNotExist, table, pending, ?_⟩
    refine @atomic_error ReserveDb Exn Unit _ s
      { s with
        trades := s.trades.save { trade with status := .tradeClosedBySys }
        orders := table
        pending := pending } _ ?_
    rw [getOr_bind_run, hget]
    dsimp only
    rw [if_neg (not_not.2 hwaits), bind_ok hsave, gets_bind_run, bind_ok hclose]
    rfl

def notifies (around : Surroundings) (trade : SaleTrade) : Bool :=
  !trade.isPayable around.now && match around.retrieve trade.tid with
    | .ok charge => charge = some true
    | .error _ => false

def closes (around : Surroundings) (trade : SaleTrade) : Bool :=
  !trade.isPayable around.now && match around.retrieve trade.tid with
    | .ok charge => charge ≠ some true ∧ around.released trade.tid = true
    | .error _ => false

def afterTimeout (around : Surroundings) (trade : SaleTrade) : SaleTrade :=
  if closes around trade then { trade with status := .tradeClosedBySys } else trade

theorem closeTimeoutTrade_run {trade : SaleTrade} (hmem : trade ∈ s.trades)
    (hwaits : trade.status = .waitBuyerPay) :
    ∃ table pending, (closeTimeoutTrade around trade).run s =
      (.ok (), { s with
        trades := s.trades.save (afterTimeout around trade)
        orders := table
        pending := pending
        notified := s.notified ++ if notifies around trade then [trade.tid] else [] }) := by
  have hkept : s.trades.save trade = s.trades := Table.save_of_mem hmem
  unfold closeTimeoutTrade
  by_cases hpay : trade.isPayable around.now = true
  · refine ⟨s.orders, s.pending, ?_⟩
    simp [hpay, afterTimeout, closes, notifies, hkept]
  · rw [if_neg hpay]
    rw [Bool.not_eq_true] at hpay
    cases hretrieve : around.retrieve trade.tid with
    | error e =>
      refine ⟨s.orders, s.pending, ?_⟩
      rw [tryCatch_error (bind_error rfl)]
      simp [hpay, hretrieve, afterTimeout, closes, notifies, hkept]
    | ok charge =>
      by_cases hpaid : charge = some true
      · refine ⟨s.orders, s.pending, ?_⟩
        refine tryCatch_ok ?_
        rw [ofExcept_bind_run]
        simp [hpay, hretrieve, hpaid, afterTimeout, closes, notifies, hkept]
      · obtain ⟨res, table, pending, hclose⟩ :=
          @closeTrade_run s trade hmem hwaits (around.released trade.tid)
        have hnotify : notifies around trade = false := by
          simp [notifies, hretrieve, hpaid]
        have hcloses : closes around trade = around.released trade.tid := by
          simp [closes, hretrieve, hpaid, hpay]
        have hbody : (do
            let charge ← ofExcept (Except.ok charge)
            if charge = some true then
              modify fun s => { s with notified := s.notified ++ [trade.tid] }
            else SaleTrade.closeTrade (around.released trade.tid) trade.id :
              ReserveTx Unit).run s = (res, if around.released trade.tid then
                { s with
                  trades := s.trades.save { trade with status := .tradeClosedBySys }
                  orders := table
                  pending := pending }
                else s) := by
          rw [ofExcept_bind_run]
          dsimp only
          rw [if_neg hpaid]
          exact hclose
        have hend : ∃ table' pending', (if around.released trade.tid then
            { s with
              trades := s.trades.save { trade with status := .tradeClosedBySys }
              orders := table
              pending := pending }
            else s) = { s with
              trades := s.trades.save (afterTimeout around trade)
              orders := table'
              pending := pending'
              notified := s.notified ++ if notifies around trade then [trade.tid] else [] } := by
          unfold afterTimeout
          rw [hnotify, hcloses]
          by_cases hreleased : around.released trade.tid = true
          · exact ⟨table, pending, by simp [hreleased]⟩
          · exact ⟨s.orders, s.pending, by simp [hreleased, hkept]⟩
        obtain ⟨table', pending', hend⟩ := hend
        refine ⟨table', pending', ?_⟩
        rw [hend] at hbody
        cases res with
        | ok u => exact tryCatch_ok hbody
        | error e => exact tryCatch_error hbody

theorem closeTimeoutTrades_loop : ∀ (trades : List SaleTrade) {s : ReserveDb},
    (trades.map SaleTrade.id).Nodup →
      (∀ trade ∈ trades, trade ∈ s.trades ∧ trade.status = .waitBuyerPay) →
        ∃ s', (forEach trades (closeTimeoutTrade around)).run s = (.ok (), s') ∧
          s'.carts = s.carts ∧
          s'.notified = s.notified ++ (trades.filter (notifies around)).map SaleTrade.tid ∧
          (∀ trade ∈ trades, afterTimeout around trade ∈ s'.trades) ∧
          ∀ row ∈ s.trades, row.id ∉ trades.map SaleTrade.id → row ∈ s'.trades := by
  intro trades
  induction trades with
  | nil =>
    intro s _ _
    refine ⟨s, rfl, rfl, ?_, ?_, fun row hrow _ => hrow⟩
    · exact (List.append_nil _).symm
    · exact fun _ htrade => absurd htrade List.not_mem_nil
  | cons trade trades ih =>
    intro s hnodup hmem
    obtain ⟨hnot, hnodup⟩ := List.nodup_cons.1 hnodup
    obtain ⟨hmine, hwaits⟩ := hmem trade (List.mem_cons_self ..)
    obtain ⟨table, pending, hfirst⟩ := @closeTimeoutTrade_run around s trade hmine hwaits
    have hid : (afterTimeout around trade).id = trade.id := by
      unfold afterTimeout
      split <;> rfl
    have hothers : ∀ row ∈ s.trades, row.id ≠ trade.id →
        row ∈ s.trades.save (afterTimeout around trade) := by
      intro row hrow hne
      exact (Table.mem_save_iff hmine hid.symm).2
        (.inr ⟨hrow, fun heq => hne (Eq.trans heq hid)⟩)
    obtain ⟨s', hrest, hcarts, hnotified, htrades, hkept⟩ := @ih { s with
      trades := s.trades.save (afterTimeout around trade)
      orders := table
      pending := pending
      notified := s.notified ++ if notifies around trade then [trade.tid] else [] } hnodup (by
        intro other hother
        obtain ⟨hotherMem, hotherWaits⟩ := hmem other (List.mem_cons_of_mem _ hother)
        refine ⟨hothers other hotherMem fun heq => ?_, hotherWaits⟩
        exact hnot (heq ▸ List.mem_map_of_mem hother))
    refine ⟨s', ?_, hcarts, ?_, ?_, ?_⟩
    · rw [forEach_cons, bind_ok hfirst]
      exact hrest
    · rw [hnotified, List.append_assoc, List.filter_cons]
      split <;> rfl
    · intro other hother
      rcases List.mem_cons.1 hother with rfl | hother
      · refine hkept _ (Table.mem_save_self hmine hid.symm) ?_
        rw [hid]
        exact hnot
      · exact htrades other hother
    · intro row hrow hnew
      rw [List.map_cons, List.mem_cons, not_or] at hnew
      exact hkept row (hothers row hrow hnew.1) hnew.2

/-! ## Jobs -/

theorem Sound.takeJob {job : Job} {i : Nat} (h : Sound shop [] s) (hjob : s.pending[i]? = some job) :
    Sound shop [job] { s with pending := s.pending.eraseIdx i } := by
  obtain ⟨hi, hget⟩ := List.getElem?_eq_some_iff.1 hjob
  have hperm : s.pending.Perm (s.pending.eraseIdx i ++ [job]) := by
    rw [← hget]
    exact (List.getElem_cons_eraseIdx_perm hi).symm.trans (List.perm_append_singleton _ _).symm
  have hmem : ∀ other, other ∈ s.pending ++ [] ↔ other ∈ s.pending.eraseIdx i ++ [job] := by
    intro other
    rw [List.append_nil]
    exact hperm.mem_iff
  exact {
    carts := fun skuId hquiet => h.carts skuId fun other hother => hquiet other ((hmem _).1 hother)
    waiting := fun skuId hquiet => h.waiting skuId fun order horder hsku hother =>
      hquiet order horder hsku ((hmem _).1 hother)
    paid := h.paid
    known := fun other hother => h.known other ((hmem _).2 hother)
    cartItem := h.cartItem
    orderItem := h.orderItem
    unpaid := h.unpaid
    placed := h.placed }

theorem Sound.shoppingcartSaved_run {skuId : Nat}
    (h : Sound shop [.shoppingcartSaved skuId] s) :
    Sound shop [] ((runJob shop around (.shoppingcartSaved skuId)).run s).2 := by
  have hknown : (shop.productSkus.get? skuId).isSome :=
    h.known _ (List.mem_append_right _ (List.mem_cons_self ..)) skuId rfl
  unfold runJob
  rw [recountShoppingcartNum_run hknown]
  refine h.recountCarts (fun _ hjob => absurd hjob List.not_mem_nil) fun job hjob => ?_
  rw [List.mem_singleton.1 hjob]
  exact .inr rfl

theorem Sound.shoppingcartCreated_run {skuId : Nat} {num : Int}
    (h : Sound shop [.shoppingcartCreated skuId num] s) :
    Sound shop [] ((runJob shop around (.shoppingcartCreated skuId num)).run s).2 := by
  have hmine : Job.shoppingcartCreated skuId num ∈ [Job.shoppingcartCreated skuId num] :=
    List.mem_cons_self ..
  have hknown : (shop.productSkus.get? skuId).isSome :=
    h.known _ (List.mem_append_right _ hmine) skuId rfl
  have hadded : Sound shop [.shoppingcartCreated skuId num] (putStock skuId
      { s.stock skuId with shoppingcartNum := (s.stock skuId).shoppingcartNum + num } s) :=
    h.put (fun hquiet => absurd rfl (hquiet _ (List.mem_append_right _ hmine)))
      (h.waiting skuId) (h.paid skuId) (fun _ _ hquiet => hquiet) (fun _ _ hquiet => hquiet)
      fun _ hjob => hjob
  unfold runJob
  rw [bind_ok (getBySku_run hknown s), modify_bind_run]
  have hput : putStock skuId
      { s.stock skuId with shoppingcartNum := (s.stock skuId).shoppingcartNum + num }
        (if s.stocks skuId = none then putStock skuId (s.stock skuId) s else s) = putStock skuId
      { s.stock skuId with shoppingcartNum := (s.stock skuId).shoppingcartNum + num } s := by
    split
    · rw [putStock_putStock]
    · rfl
  rw [hput]
  generalize putStock skuId
    { s.stock skuId with shoppingcartNum := (s.stock skuId).shoppingcartNum + num } s = t at hadded
  unfold closeTimeoutCartsAndOrdersResetCartNum
  rw [gets_bind_run, if_neg (List.cons_ne_nil _ _)]
  dsimp only
  rw [modify_bind_run, List.append_nil, if_neg (List.cons_ne_nil _ _), forEach_cons]
  have hclosed : Sound shop [.shoppingcartCreated skuId num] { t with
      carts := t.carts.update
        (fun cart => decide (cart.skuId ∈ [skuId] ∧ overdue around.now cart = true))
        cancelCart } := by
    refine hadded.updateCarts (fun _ => rfl) (fun _ => rfl) (fun _ hjob => hjob)
      (fun job hjob => hadded.known job (List.mem_append_right _ hjob)) fun cart _ hp => ?_
    have hsku := List.mem_singleton.1 (of_decide_eq_true hp).1
    exact .inr ⟨_, List.mem_append_right _ hmine, hsku.symm⟩
  have hrecount := hclosed.recountCarts (fun _ hjob => absurd hjob List.not_mem_nil)
    fun job hjob => .inr (by
      rw [List.mem_singleton.1 hjob]
      exact rfl)
  rw [bind_ok (bind_ok (recountShoppingcartNum_run hknown _))]
  exact hrecount

theorem Sound.saleorderSaved_run {orderId : Nat} (h : Sound shop [.saleorderSaved orderId] s) :
    Sound shop [] ((runJob shop around (.saleorderSaved orderId)).run s).2 := by
  have hcarts : ∀ skuId, CartQuiet [] s skuId → CartQuiet [.saleorderSaved orderId] s skuId := by
    intro skuId hquiet job hjob
    rcases List.mem_append.1 hjob with hjob | hjob
    · exact hquiet job (List.mem_append_left _ hjob)
    · rw [List.mem_singleton.1 hjob]
      exact id
  have hwaits : ∀ skuId, (∀ order ∈ s.orders, order.id = orderId → order.skuId ≠ skuId) →
      OrderQuiet [] s skuId → OrderQuiet [.saleorderSaved orderId] s skuId := by
    intro skuId hother hquiet order horder hsku hjob
    rcases List.mem_append.1 hjob with hjob | hjob
    · exact hquiet order horder hsku (List.mem_append_left _ hjob)
    · have hid : order.id = orderId := by simpa using hjob
      exact hother order horder hid hsku
  unfold runJob
  rw [getOr_bind_run]
  cases hget : s.orders.get? orderId with
  | none =>
    have hnone : ∀ order ∈ s.orders, order.id ≠ orderId := by
      intro order horder hid
      have hsome : s.orders.get? orderId = some order := Table.get?_eq_some.2 ⟨horder, hid⟩
      rw [hget] at hsome
      cases hsome
    exact {
      carts := fun skuId hquiet => h.carts skuId (hcarts skuId hquiet)
      waiting := fun skuId hquiet => h.waiting skuId
        (hwaits skuId (fun order horder hid => absurd hid (hnone order horder)) hquiet)
      paid := h.paid
      known := fun job hjob => h.known job (List.mem_append_left _ (by simpa using hjob))
      cartItem := h.cartItem
      orderItem := h.orderItem
      unpaid := h.unpaid
      placed := h.placed }
  | some order =>
    obtain ⟨hmem, hid⟩ := Table.get?_eq_some.1 hget
    have hitem := h.orderItem order hmem
    dsimp only
    rw [recountWaitingpayNum_run hitem, h.waitingOfItem hitem]
    refine h.put (fun hquiet => h.carts _ (hcarts _ hquiet)) (fun _ => rfl)
      (h.paid _) (fun skuId _ hquiet => hcarts skuId hquiet) (fun skuId hne hquiet => ?_)
      fun _ hjob => absurd hjob List.not_mem_nil
    refine hwaits skuId (fun other hother hotherId => ?_) hquiet
    obtain rfl : other = order := Table.pk_inj hother hmem (Eq.trans hotherId hid.symm)
    exact hne.symm

theorem runPending_sound (around : Surroundings) (i : Nat) :
    Preserves (Sound shop []) (runPending shop around i) := by
  refine Preserves.gets_bind fun s hs => ?_
  cases hjob : s.pending[i]? with
  | none => exact hs
  | some job =>
    have htaken := hs.takeJob hjob
    dsimp only
    rw [modify_bind_run]
    cases job with
    | shoppingcartCreated skuId num => exact htaken.shoppingcartCreated_run
    | shoppingcartSaved skuId => exact htaken.shoppingcartSaved_run
    | saleorderSaved orderId => exact htaken.saleorderSaved_run

theorem closeTimeoutTrades_sound (around : Surroundings) :
    Preserves (Sound shop []) (closeTimeoutTrades around) := by
  refine Preserves.gets_bind fun s hs => Preserves.forEach (fun trade _ => ?_) s hs
  refine Preserves.ite (fun _ => Preserves.pure ()) fun _ => ?_
  refine Preserves.tryCatch (Preserves.ofExcept_bind fun charge _ => ?_) fun _ => Preserves.pure ()
  refine Preserves.ite (fun _ => Preserves.modify fun s hs => ?_) fun _ => closeTrade_sound _ _
  exact ⟨hs.carts, hs.waiting, hs.paid, hs.known, hs.cartItem, hs.orderItem, hs.unpaid, hs.placed⟩

theorem taskScheduleCart_sound (around : Surroundings) :
    Preserves (Sound shop []) (taskScheduleCart shop around) := by
  intro s hs
  obtain ⟨stocks, hsound, hrun⟩ := @taskScheduleCart_run shop around s hs
  rw [hrun]
  split
  · exact closeTimeoutTrades_sound around _ hsound
  · exact hsound

end ShopManager.Pay.Reserved
