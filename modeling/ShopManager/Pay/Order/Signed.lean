import ShopManager.Pay.Order.Units

/-!
# Signing a trade

The orders of a trade are signed one after another, each of them saved before the next one is
looked at, and the trade is finished whatever the other orders are waiting for.
-/

namespace ShopManager.Pay.Order

open Library Library.Tx
open Trade (TradeStatus)
open Warehouse (PsiStatus)

structure SkuStock where
  id : Nat
  skuId : Nat
  psiSentNum : Int
  psiFinishNum : Int
  deriving DecidableEq, Repr

instance : Row SkuStock where
  pk := SkuStock.id
  withPk n stock := { stock with id := n }

/-- The orders with the statuses of their items, by the ids of the items, and the stocks. -/
structure SigningDb where
  shop : OrderDb
  psiStatus : Nat → PsiStatus
  skuStocks : Table SkuStock

abbrev SigningTx (α : Type) := Tx SigningDb Exn α

namespace SigningDb

def withShop (shop : OrderDb) (s : SigningDb) : SigningDb := { s with shop := shop }

end SigningDb

def inShop {α : Type} (m : OrderTx α) : SigningTx α := zoom SigningDb.shop SigningDb.withShop m

namespace SkuStock

def setPsiFinish (skuId : Nat) (num : Int) : SigningTx Unit := do
  let stock ← getOr .doesNotExist fun s => s.skuStocks.first fun stock => stock.skuId = skuId
  modify fun s => { s with
    skuStocks := s.skuStocks.save { stock with
      psiFinishNum := stock.psiFinishNum + num
      psiSentNum := stock.psiSentNum - num } }

end SkuStock

namespace PackageSkuItem

def setStatusFinish (item : PackageSkuItem) : SigningTx Unit := do
  modify fun s => { s with psiStatus := Function.update s.psiStatus item.id .finish }
  inShop (modify fun shop => { shop with packageSkuItems := shop.packageSkuItems.save item.toSent })
  SkuStock.setPsiFinish item.skuId item.num

end PackageSkuItem

def statusCode : TradeStatus → Nat
  | .noCreatePay => 0
  | .waitBuyerPay => 1
  | .waitSellerSendGoods => 2
  | .waitBuyerConfirmGoods => 3
  | .tradeBuyerSigned => 4
  | .tradeFinished => 5
  | .tradeClosed => 6
  | .tradeClosedBySys => 7

/-- A save of the status of a trade; `teambuy` is how the hook of its team ends. -/
def saveTrade (teambuy : Except Exn Unit) (status : TradeStatus) (trade : Nat) : SigningTx Unit := do
  inShop (SaleTrade.setStatus status trade)
  ofExcept teambuy

namespace SaleOrder

def toSigned (now : Nat) (order : SaleOrder) : SaleOrder :=
  { order with
    status := .tradeBuyerSigned
    signTime := some now }

def saveSigned (now : Nat) (order : SaleOrder) : OrderTx Unit := do
  modify fun s => { s with
    orders := s.orders.update (fun row => row.id = order.id) (toSigned now) }
  (order.toSigned now).updateSaletradeStatus

def unsigned (trade : Nat) (s : SigningDb) : List SaleOrder :=
  (s.shop.normalOrders trade).filter fun order =>
    order.status ∉ [TradeStatus.tradeBuyerSigned, .tradeFinished]

def confirmSignOrder (teambuy : Except Exn Unit) (now : Nat) (order : SaleOrder) :
    SigningTx Unit :=
  if order.status = .tradeBuyerSigned then pure ()
  else do
    raiseIf (order.status ≠ .waitBuyerConfirmGoods)
      (.exception ("订单不是已发货状态，不能签收。" ++ toString (statusCode order.status)))
    inShop (order.saveSigned now)
    let item ← getOr .attributeError fun s => order.packageSku s.shop
    item.setStatusFinish
    let unsignOrders ← gets (unsigned order.saleTradeId)
    if unsignOrders = [] then saveTrade teambuy .tradeBuyerSigned order.saleTradeId else pure ()

end SaleOrder

namespace SaleTrade

def unsignOrders (trade : Nat) (s : SigningDb) : List SaleOrder :=
  (s.shop.saleOrders trade).filter fun order =>
    order.status ∈ [TradeStatus.waitSellerSendGoods, .waitBuyerConfirmGoods, .tradeBuyerSigned]

def confirmSignTrade (teambuy : Except Exn Unit) (now trade : Nat) : SigningTx Unit := do
  let _ ← inShop (SaleTrade.get trade)
  let orders ← gets (unsignOrders trade)
  forEach orders (SaleOrder.confirmSignOrder teambuy now)
  saveTrade teambuy .tradeFinished trade

end SaleTrade

/-! ## What signing should do -/

def isSigned (status : TradeStatus) : Bool :=
  status ∈ [TradeStatus.tradeBuyerSigned, .tradeFinished, .tradeClosed, .tradeClosedBySys]

/-- Every order that was on its way is signed and its item finished, and the trade is over. -/
structure Signs (trade : Nat) (s t : SigningDb) : Prop where
  signed : ∀ order ∈ s.shop.saleOrders trade, order.status = .waitBuyerConfirmGoods →
    ∃ row ∈ t.shop.orders, row.id = order.id ∧ row.status = .tradeBuyerSigned
  items : ∀ order ∈ s.shop.saleOrders trade, order.status = .waitBuyerConfirmGoods →
    ∃ item ∈ t.shop.packageSkuItems, item.saleOrderId = order.id ∧
      item.assignStatus = .finished ∧ t.psiStatus item.id = .finish
  allSigned : ∀ order ∈ t.shop.saleOrders trade, isSigned order.status = true
  finished : ∃ row ∈ t.shop.trades, row.id = trade ∧ row.status = .tradeFinished

structure Untouched (s t : SigningDb) : Prop where
  orders : t.shop.orders = s.shop.orders
  items : t.shop.packageSkuItems = s.shop.packageSkuItems
  psiStatus : t.psiStatus = s.psiStatus
  trades : t.shop.trades = s.shop.trades

def SignsAtomically (teambuy : Except Exn Unit) (now trade : Nat) (s : SigningDb) : Prop :=
  (∃ t, (SaleTrade.confirmSignTrade teambuy now trade).run s = (.ok (), t) ∧ Signs trade s t) ∨
    ∃ e t, (SaleTrade.confirmSignTrade teambuy now trade).run s = (.error e, t) ∧ Untouched s t

def pending (trade : Nat) (s : SigningDb) : List SaleOrder :=
  (s.shop.saleOrders trade).filter fun order =>
    order.status ∈ [TradeStatus.waitSellerSendGoods, .waitBuyerConfirmGoods]

structure Signable (s : SigningDb) (order : SaleOrder) : Prop where
  sent : order.status = .waitBuyerConfirmGoods
  item : ∃ item, order.packageSku s.shop = some item ∧
    (s.skuStocks.first fun stock => stock.skuId = item.skuId).isSome = true

structure Ready (teambuy : Except Exn Unit) (trade : Nat) (s : SigningDb) : Prop where
  team : teambuy = .ok ()
  signable : ∀ order ∈ pending trade s, Signable s order
  paid : ∀ order ∈ s.shop.saleOrders trade,
    order.status ≠ .noCreatePay ∧ order.status ≠ .waitBuyerPay

/-- The trade is ready, or the first of its pending orders is refused; or else there is nothing
to do on it, since it is not there or finished already. -/
inductive SignsCleanly (teambuy : Except Exn Unit) (trade : Nat) (s : SigningDb) : Prop where
  | ready (h : Ready teambuy trade s)
  | refused (order : SaleOrder) (orders : List SaleOrder)
      (hpending : pending trade s = order :: orders)
      (hstatus : order.status = .waitSellerSendGoods)
  | missing (h : s.shop.trades.get? trade = none)
  | finished (row : SaleTrade) (hrow : s.shop.trades.get? trade = some row)
      (hstatus : row.status = .tradeFinished) (hteam : teambuy ≠ .ok ())
      (hpending : pending trade s = [])

structure Hooked (s s' : OrderDb) : Prop where
  orders : s'.orders = s.orders
  items : s'.packageSkuItems = s.packageSkuItems
  trades : ∀ id, (s'.trades.get? id).isSome = (s.trades.get? id).isSome

theorem Hooked.refl (s : OrderDb) : Hooked s s := ⟨rfl, rfl, fun _ => rfl⟩

theorem Hooked.trans (s s' s'' : OrderDb) (h : Hooked s s') (h' : Hooked s' s'') : Hooked s s'' :=
  ⟨h'.orders.trans h.orders, h'.items.trans h.items, fun id => (h'.trades id).trans (h.trades id)⟩

theorem setStatus_hooked (status : TradeStatus) (id : Nat) :
    Keeps Hooked (SaleTrade.setStatus status id) := by
  refine Keeps.modify fun s => ⟨rfl, rfl, fun n => ?_⟩
  dsimp only
  rw [show (s.trades.update (fun trade => decide (trade.id = id)) fun trade =>
    { trade with status := status }).get? n = _ from Table.get?_update s.trades id n _]
  split
  · next heq => rw [heq, Option.isSome_map]
  · rfl

theorem updateSaletradeStatus_hooked (order : SaleOrder) :
    Keeps Hooked order.updateSaletradeStatus := by
  have htask : ∀ id, Keeps Hooked (SaleTrade.tasksUpdateSaleTradeStatus id) := by
    intro id
    refine Keeps.bind Hooked.trans (Keeps.gets Hooked.refl _) fun orders => ?_
    split
    · exact setStatus_hooked _ _
    · exact Keeps.pure Hooked.refl _
  have hcommit : ∀ id, Keeps Hooked (SaleTrade.updateOnCommit id) := by
    intro id
    refine Keeps.bind Hooked.trans (Keeps.gets Hooked.refl _) fun inBlock => ?_
    exact Keeps.ite _ (Keeps.modify fun _ => ⟨rfl, rfl, fun _ => rfl⟩) (htask id)
  exact Keeps.ite _ (Keeps.pure Hooked.refl _) (hcommit _)

theorem saveTrade_run (status : TradeStatus) (trade : Nat) (s : SigningDb) :
    (saveTrade (.ok ()) status trade).run s =
      (.ok (), s.withShop ((SaleTrade.setStatus status trade).run s.shop).2) := rfl

/-! ## One order -/

/-- What signing the orders `done` has come to. -/
structure Reached (now : Nat) (done : List SaleOrder) (s t : SigningDb) : Prop where
  orders : ∀ row, row ∈ t.shop.orders ↔
    ∃ old ∈ s.shop.orders, row = if old ∈ done then old.toSigned now else old
  items : ∀ order : SaleOrder, (order.packageSku t.shop).map PackageSkuItem.skuId =
    (order.packageSku s.shop).map PackageSkuItem.skuId
  stocks : ∀ skuId, (t.skuStocks.first fun stock => stock.skuId = skuId).isSome =
    (s.skuStocks.first fun stock => stock.skuId = skuId).isSome
  finished : ∀ order ∈ done, ∃ item ∈ t.shop.packageSkuItems, item.saleOrderId = order.id ∧
    item.assignStatus = .finished ∧ t.psiStatus item.id = .finish
  trades : ∀ id, (t.shop.trades.get? id).isSome = (s.shop.trades.get? id).isSome

section One

variable {teambuy : Except Exn Unit} {now trade : Nat} {s t : SigningDb} {order : SaleOrder}
  {done : List SaleOrder}

theorem Reached.refl (now : Nat) (s : SigningDb) : Reached now [] s s where
  orders row := by simp
  items _ := rfl
  stocks _ := rfl
  finished _ h := absurd h List.not_mem_nil
  trades _ := rfl

theorem Reached.mem (h : Reached now done s t) (horder : order ∈ s.shop.orders)
    (hdone : order ∉ done) : order ∈ t.shop.orders :=
  (h.orders order).mpr ⟨order, horder, by rw [if_neg hdone]⟩

theorem saveSigned_run (now : Nat) (horder : order ∈ t.shop.orders) :
    ∃ shop, (inShop (order.saveSigned now)).run t = (.ok (), t.withShop shop) ∧
      Hooked { t.shop with orders := t.shop.orders.save (order.toSigned now) } shop := by
  have hsave : t.shop.orders.update (fun row => row.id = order.id) (SaleOrder.toSigned now) =
      t.shop.orders.save (order.toSigned now) := Table.update_eq_save horder _
  refine ⟨((order.toSigned now).updateSaletradeStatus.run
    { t.shop with orders := t.shop.orders.save (order.toSigned now) }).2, ?_,
    updateSaletradeStatus_hooked _ _⟩
  rw [← hsave]
  refine Prod.ext ?_ rfl
  exact updateSaletradeStatus_ok (order.toSigned now) _

theorem mem_orders_signed (h : Reached now done s t) (horder : order ∈ s.shop.orders)
    (hdone : order ∉ done) (row : SaleOrder) :
    row ∈ t.shop.orders.save (order.toSigned now) ↔
      ∃ old ∈ s.shop.orders, row = if old ∈ order :: done then old.toSigned now else old := by
  have hmem := h.mem horder hdone
  rw [Table.mem_save_iff hmem (by rfl)]
  constructor
  · rintro (rfl | ⟨hrow, hne⟩)
    · exact ⟨order, horder, by rw [if_pos List.mem_cons_self]⟩
    · obtain ⟨old, hold, heq⟩ := (h.orders row).mp hrow
      have hother : old ≠ order := by
        rintro rfl
        rw [if_neg hdone] at heq
        exact hne (by rw [heq]; rfl)
      refine ⟨old, hold, heq.trans (if_congr ?_ rfl rfl)⟩
      simp [hother]
  · rintro ⟨old, hold, rfl⟩
    by_cases hsame : old = order
    · left
      rw [hsame, if_pos List.mem_cons_self]
    · right
      have hiff : old ∈ order :: done ↔ old ∈ done := by simp [hsame]
      refine ⟨(h.orders _).mpr ⟨old, hold, if_congr hiff rfl rfl⟩, ?_⟩
      intro hpk
      have hid : old.id = order.id := by
        split at hpk <;> exact hpk
      exact hsame (Table.pk_inj hold horder hid)

variable {item : PackageSkuItem}

theorem packageSku_sent {shop shop' : OrderDb} (hitem : item ∈ shop.packageSkuItems)
    (hshop : shop'.packageSkuItems = shop.packageSkuItems.save item.toSent) (order : SaleOrder) :
    (order.packageSku shop').map PackageSkuItem.skuId =
      (order.packageSku shop).map PackageSkuItem.skuId := by
  unfold SaleOrder.packageSku
  rw [hshop, Table.first_save hitem (by rfl) (by rfl), Option.map_map]
  refine Option.map_congr fun row hrow => ?_
  have hmem := Table.mem_of_first hrow
  simp only [Function.comp_apply]
  split
  · next hpk => rw [Table.pk_inj hmem hitem hpk, PackageSkuItem.toSent]
  · rfl

theorem stock_saved {stock : SkuStock} (stock' : SkuStock) (hstock : stock ∈ s.skuStocks)
    (hid : stock'.id = stock.id) (hsku : stock'.skuId = stock.skuId) (skuId : Nat) :
    ((s.skuStocks.save stock').first fun stock => stock.skuId = skuId).isSome =
      (s.skuStocks.first fun stock => stock.skuId = skuId).isSome := by
  have hsame : decide (stock'.skuId = skuId) = decide (stock.skuId = skuId) := by rw [hsku]
  rw [Table.first_save hstock hid.symm hsame, Option.isSome_map]

def finishItem (item : PackageSkuItem) (stock : SkuStock) (t : SigningDb) : SigningDb where
  shop := { t.shop with packageSkuItems := t.shop.packageSkuItems.save item.toSent }
  psiStatus := Function.update t.psiStatus item.id .finish
  skuStocks := t.skuStocks.save { stock with
    psiFinishNum := stock.psiFinishNum + item.num
    psiSentNum := stock.psiSentNum - item.num }

theorem setPsiFinish_run {skuId : Nat} {stock : SkuStock}
    (hstock : (t.skuStocks.first fun stock => stock.skuId = skuId) = some stock) (num : Int) :
    (SkuStock.setPsiFinish skuId num).run t = (.ok (), { t with
      skuStocks := t.skuStocks.save { stock with
        psiFinishNum := stock.psiFinishNum + num
        psiSentNum := stock.psiSentNum - num } }) := by
  unfold SkuStock.setPsiFinish
  rw [getOr_bind_run, hstock]
  rfl

theorem setStatusFinish_run {stock : SkuStock}
    (hstock : (t.skuStocks.first fun stock => stock.skuId = item.skuId) = some stock) :
    item.setStatusFinish.run t = (.ok (), finishItem item stock t) :=
  setPsiFinish_run (t := { finishItem item stock t with skuStocks := t.skuStocks }) hstock item.num

theorem setStatusFinish_ok {t' : SigningDb} (h : item.setStatusFinish.run t = (.ok (), t')) :
    (t.skuStocks.first fun stock => stock.skuId = item.skuId).isSome = true := by
  obtain ⟨⟨⟩, t₁, hstatus, h⟩ := bind_eq_ok.mp h
  obtain ⟨⟨⟩, t₂, hitem, h⟩ := bind_eq_ok.mp h
  obtain ⟨stock, t₃, hstock, -⟩ := bind_eq_ok.mp h
  cases hstatus
  cases hitem
  have hfound : (t.skuStocks.first fun stock => stock.skuId = item.skuId) = some stock :=
    (getOr_eq_ok.mp hstock).1
  rw [hfound]
  rfl

theorem Reached.finish (h : Reached now done s t) (horder : order ∈ s.shop.orders)
    (hdone : order ∉ done) {shop : OrderDb}
    (hshop : Hooked { t.shop with orders := t.shop.orders.save (order.toSigned now) } shop)
    (hitem : order.packageSku t.shop = some item) {stock : SkuStock}
    (hstock : (t.skuStocks.first fun stock => stock.skuId = item.skuId) = some stock) :
    Reached now (order :: done) s (finishItem item stock (t.withShop shop)) := by
  have hitems : shop.packageSkuItems = t.shop.packageSkuItems := hshop.items
  have hmem : item ∈ shop.packageSkuItems := by
    rw [hitems]
    exact Table.mem_of_first hitem
  have hfirst : (t.shop.packageSkuItems.first fun item => item.saleOrderId = order.id) =
      some item := hitem
  have hid : item.saleOrderId = order.id := by simpa using Table.first_spec hfirst
  constructor
  · intro row
    change row ∈ shop.orders ↔ _
    rw [hshop.orders]
    exact mem_orders_signed h horder hdone row
  · intro other
    refine (packageSku_sent hmem rfl other).trans ?_
    unfold SaleOrder.packageSku
    rw [hitems]
    exact h.items other
  · intro skuId
    rw [← h.stocks skuId]
    exact stock_saved _ (s := t) (Table.mem_of_first hstock) (by rfl) (by rfl) skuId
  · intro other hother
    have hsaved : item.toSent ∈ shop.packageSkuItems.save item.toSent :=
      Table.mem_save_self hmem rfl
    rcases List.mem_cons.mp hother with rfl | hother
    · exact ⟨item.toSent, hsaved, hid, rfl, Function.update_self ..⟩
    · obtain ⟨old, hold, holdId, hsent, hfinish⟩ := h.finished other hother
      by_cases hsame : old.id = item.id
      · have heq : old = item := Table.pk_inj hold (Table.mem_of_first hitem) hsame
        refine ⟨item.toSent, hsaved, ?_, rfl, Function.update_self ..⟩
        rw [← heq]
        exact holdId
      · refine ⟨old, ?_, holdId, hsent, (Function.update_of_ne hsame ..).trans hfinish⟩
        refine (Table.mem_save_iff hmem (by rfl)).mpr (Or.inr ⟨?_, hsame⟩)
        rw [hitems]
        exact hold
  · exact fun id => (hshop.trades id).trans (h.trades id)

theorem Reached.saveTrade (h : Reached now done s t) (status : TradeStatus) (trade : Nat) :
    Reached now done s (t.withShop ((SaleTrade.setStatus status trade).run t.shop).2) where
  orders := h.orders
  items := h.items
  stocks := h.stocks
  finished := h.finished
  trades id := ((setStatus_hooked status trade t.shop).trades id).trans (h.trades id)

theorem confirmSignOrder_signs (h : Reached now done s t) (horder : order ∈ s.shop.orders)
    (hdone : order ∉ done) (hsignable : Signable s order) :
    ∃ t', (order.confirmSignOrder (.ok ()) now).run t = (.ok (), t') ∧
      Reached now (order :: done) s t' := by
  obtain ⟨shop, hsave, hshop⟩ := saveSigned_run now (h.mem horder hdone)
  obtain ⟨item₀, hitem₀, hstock₀⟩ := hsignable.item
  have hsku := h.items order
  rw [hitem₀, Option.map_some] at hsku
  obtain ⟨item, hitem, hitemSku⟩ := Option.map_eq_some_iff.mp hsku
  have hstocks := h.stocks item.skuId
  rw [hitemSku, hstock₀, ← hitemSku] at hstocks
  obtain ⟨stock, hstock⟩ := Option.isSome_iff_exists.mp hstocks
  have hfound : order.packageSku (t.withShop shop).shop = some item := by
    unfold SaleOrder.packageSku at hitem ⊢
    change shop.packageSkuItems.first _ = _
    rw [hshop.items]
    exact hitem
  have hfinish := h.finish horder hdone hshop hitem hstock
  have hwaiting : order.status ≠ .tradeBuyerSigned := by
    rw [hsignable.sent]
    exact TradeStatus.noConfusion
  unfold SaleOrder.confirmSignOrder
  rw [if_neg hwaiting, raiseIf_bind_run, if_neg (not_not.mpr hsignable.sent), bind_ok hsave,
    getOr_bind_run, hfound]
  dsimp only
  rw [bind_ok (setStatusFinish_run (t := t.withShop shop) hstock), gets_bind_run]
  split
  · exact ⟨_, saveTrade_run _ _ _, hfinish.saveTrade _ _⟩
  · exact ⟨_, rfl, hfinish⟩

theorem signable_of_ok (h : Reached now done s t) (horder : order ∈ s.shop.orders)
    (hdone : order ∉ done) (hnot : order.status ≠ .tradeBuyerSigned) {t' : SigningDb}
    (hrun : (order.confirmSignOrder teambuy now).run t = (.ok (), t')) : Signable s order := by
  obtain ⟨shop, hsave, hshop⟩ := saveSigned_run now (h.mem horder hdone)
  unfold SaleOrder.confirmSignOrder at hrun
  rw [if_neg hnot] at hrun
  obtain ⟨⟨⟩, t₁, hstatus, hrun⟩ := bind_eq_ok.mp hrun
  obtain ⟨hsent, rfl⟩ := raiseIf_eq_ok.mp hstatus
  rw [bind_ok hsave] at hrun
  obtain ⟨item, t₂, hget, hrun⟩ := bind_eq_ok.mp hrun
  obtain ⟨hitem, rfl⟩ := getOr_eq_ok.mp hget
  obtain ⟨⟨⟩, t₃, hfinish, -⟩ := bind_eq_ok.mp hrun
  have hstock := setStatusFinish_ok hfinish
  have hfound : order.packageSku t.shop = some item := by
    unfold SaleOrder.packageSku at hitem ⊢
    change shop.packageSkuItems.first _ = _ at hitem
    rw [hshop.items] at hitem
    exact hitem
  have hsku := h.items order
  rw [hfound, Option.map_some] at hsku
  obtain ⟨item₀, hitem₀, hitemSku⟩ := Option.map_eq_some_iff.mp hsku.symm
  refine ⟨not_not.mp hsent, item₀, hitem₀, ?_⟩
  rw [hitemSku, ← h.stocks]
  exact hstock

theorem confirmSignOrder_signed (hsigned : order.status = .tradeBuyerSigned) :
    (order.confirmSignOrder teambuy now).run t = (.ok (), t) := by
  unfold SaleOrder.confirmSignOrder
  rw [if_pos hsigned]
  rfl

end One

/-! ## The loop -/

section Loop

variable {teambuy : Except Exn Unit} {now trade : Nat} {s t t' : SigningDb} {order : SaleOrder}
  {done : List SaleOrder}

/-- Every order that is still to be signed is one of `left`. -/
structure Left (left done : List SaleOrder) (s : SigningDb) : Prop where
  orders : ∀ order ∈ left, order ∈ s.shop.orders
  nodup : left.Nodup
  apart : ∀ order ∈ left, order ∉ done

theorem Left.tail {left : List SaleOrder} (h : Left (order :: left) done s) : Left left done s where
  orders other hother := h.orders other (List.mem_cons_of_mem order hother)
  nodup := (List.nodup_cons.mp h.nodup).2
  apart other hother := h.apart other (List.mem_cons_of_mem order hother)

theorem Left.next {left : List SaleOrder} (h : Left (order :: left) done s) :
    Left left (order :: done) s where
  orders := h.tail.orders
  nodup := h.tail.nodup
  apart other hother := by
    rintro (_ | ⟨_, hmem⟩)
    · exact (List.nodup_cons.mp h.nodup).1 hother
    · exact h.tail.apart other hother hmem

theorem loop_signs : ∀ (left : List SaleOrder) {done : List SaleOrder} {t : SigningDb},
    Reached now done s t → Left left done s →
    (∀ order ∈ left, order.status = .tradeBuyerSigned ∨ Signable s order) →
    ∃ t' done', (forEach left (SaleOrder.confirmSignOrder (.ok ()) now)).run t = (.ok (), t') ∧
      Reached now done' s t' ∧ ∀ order, order ∈ done' ↔
        order ∈ done ∨ (order ∈ left ∧ order.status ≠ .tradeBuyerSigned) := by
  intro left
  induction left with
  | nil => exact fun {done t} h _ _ => ⟨t, done, rfl, h, fun order => by simp⟩
  | cons order left ih =>
    intro done t h hleft hall
    have hrest := fun other hother => hall other (List.mem_cons_of_mem order hother)
    by_cases hsigned : order.status = .tradeBuyerSigned
    · obtain ⟨t', done', hrun, hreached, hiff⟩ := ih h hleft.tail hrest
      refine ⟨t', done', ?_, hreached, fun other => (hiff other).trans ?_⟩
      · rw [forEach_cons, bind_ok (confirmSignOrder_signed hsigned)]
        exact hrun
      · refine or_congr_right (and_congr_left fun hne => ?_)
        rw [List.mem_cons]
        refine ⟨Or.inr, fun hor => hor.resolve_left ?_⟩
        rintro rfl
        exact hne hsigned
    · have hsignable := (hall order List.mem_cons_self).resolve_left hsigned
      obtain ⟨t₁, hrun₁, hreached₁⟩ := confirmSignOrder_signs h
        (hleft.orders order List.mem_cons_self) (hleft.apart order List.mem_cons_self) hsignable
      obtain ⟨t', done', hrun, hreached, hiff⟩ := ih hreached₁ hleft.next hrest
      refine ⟨t', done', ?_, hreached, fun other => (hiff other).trans ?_⟩
      · rw [forEach_cons, bind_ok hrun₁]
        exact hrun
      · rw [List.mem_cons, List.mem_cons]
        constructor
        · rintro ((rfl | hmem) | ⟨hmem, hne⟩)
          · exact Or.inr ⟨Or.inl rfl, hsigned⟩
          · exact Or.inl hmem
          · exact Or.inr ⟨Or.inr hmem, hne⟩
        · rintro (hmem | ⟨rfl | hmem, hne⟩)
          · exact Or.inl (Or.inr hmem)
          · exact Or.inl (Or.inl rfl)
          · exact Or.inr ⟨hmem, hne⟩

theorem signable_of_loop_ok : ∀ (left : List SaleOrder) {done : List SaleOrder} {t : SigningDb},
    Reached now done s t → Left left done s →
    (forEach left (SaleOrder.confirmSignOrder (.ok ()) now)).run t = (.ok (), t') →
    ∀ order ∈ left, order.status = .tradeBuyerSigned ∨ Signable s order := by
  intro left
  induction left with
  | nil => exact fun _ _ _ order horder => absurd horder List.not_mem_nil
  | cons order left ih =>
    intro done t h hleft hrun
    rw [forEach_cons] at hrun
    obtain ⟨⟨⟩, t₁, hfirst, hrest⟩ := bind_eq_ok.mp hrun
    by_cases hsigned : order.status = .tradeBuyerSigned
    · rw [confirmSignOrder_signed hsigned] at hfirst
      cases hfirst
      exact List.forall_mem_cons.mpr ⟨Or.inl hsigned, ih h hleft.tail hrest⟩
    · have horder := hleft.orders order List.mem_cons_self
      have hapart := hleft.apart order List.mem_cons_self
      have hsignable := signable_of_ok h horder hapart hsigned hfirst
      obtain ⟨t₂, hrun₂, hreached⟩ := confirmSignOrder_signs h horder hapart hsignable
      rw [hrun₂] at hfirst
      cases hfirst
      exact List.forall_mem_cons.mpr ⟨Or.inr hsignable, ih hreached hleft.next hrest⟩

theorem loop_skip (teambuy : Except Exn Unit) (now : Nat) (s : SigningDb) {first : SaleOrder}
    {rest : List SaleOrder} :
    ∀ (left : List SaleOrder), (left.filter fun order => order.status ≠ .tradeBuyerSigned) =
        first :: rest →
      ∃ later, (forEach left (SaleOrder.confirmSignOrder teambuy now)).run s =
        (forEach (first :: later) (SaleOrder.confirmSignOrder teambuy now)).run s := by
  intro left
  induction left with
  | nil => exact fun h => absurd h (List.cons_ne_nil _ _).symm
  | cons order left ih =>
    intro h
    by_cases hsigned : order.status = .tradeBuyerSigned
    · rw [List.filter_cons_of_neg (by simpa using hsigned)] at h
      obtain ⟨later, hlater⟩ := ih h
      refine ⟨later, ?_⟩
      rw [forEach_cons, bind_ok (confirmSignOrder_signed hsigned)]
      exact hlater
    · rw [List.filter_cons_of_pos (by simpa using hsigned)] at h
      obtain ⟨rfl, -⟩ := List.cons_eq_cons.mp h
      exact ⟨left, rfl⟩

theorem loop_passes : ∀ (left : List SaleOrder),
    (left.filter fun order => order.status ≠ .tradeBuyerSigned) = [] →
      (forEach left (SaleOrder.confirmSignOrder teambuy now)).run s = (.ok (), s) := by
  intro left
  induction left with
  | nil => exact fun _ => rfl
  | cons order left ih =>
    intro h
    rw [List.filter_eq_nil_iff] at h
    have hsigned : order.status = .tradeBuyerSigned := by
      simpa using h order List.mem_cons_self
    rw [forEach_cons, bind_ok (confirmSignOrder_signed hsigned)]
    refine ih (List.filter_eq_nil_iff.mpr fun other hother => ?_)
    exact h other (List.mem_cons_of_mem order hother)

theorem confirmSignOrder_refused (teambuy : Except Exn Unit) (now : Nat) (s : SigningDb)
    (hstatus : order.status = .waitSellerSendGoods) :
    ∃ e, (order.confirmSignOrder teambuy now).run s = (.error e, s) := by
  have hnot : order.status ≠ .tradeBuyerSigned := by
    rw [hstatus]
    exact TradeStatus.noConfusion
  have hwaits : order.status ≠ .waitBuyerConfirmGoods := by
    rw [hstatus]
    exact TradeStatus.noConfusion
  unfold SaleOrder.confirmSignOrder
  rw [if_neg hnot, raiseIf_bind_run, if_pos hwaits]
  exact ⟨_, rfl⟩

def SignedIn (id : Nat) (s : SigningDb) : Prop :=
  ∃ row ∈ s.shop.orders, row.id = id ∧ row.status = .tradeBuyerSigned

theorem signedIn_saveSigned (id : Nat) (order : SaleOrder) :
    Preserves (SignedIn id) (inShop (order.saveSigned now)) := by
  rintro s ⟨row, hrow, hid, hstatus⟩
  have hmem := Table.mem_update_of_mem (p := fun row => row.id = order.id)
    (f := SaleOrder.toSigned now) hrow
  have hhook := updateSaletradeStatus_hooked (order.toSigned now) { s.shop with
    orders := s.shop.orders.update (fun row => row.id = order.id) (SaleOrder.toSigned now) }
  have horders := hhook.orders
  dsimp only at horders
  rw [← horders] at hmem
  refine ⟨_, hmem, ?_, ?_⟩
  · split <;> exact hid
  · split
    · rfl
    · exact hstatus

theorem signedIn_saveTrade (id : Nat) (status : TradeStatus) (trade : Nat) :
    Preserves (SignedIn id) (saveTrade teambuy status trade) := by
  refine Preserves.bind (fun s hs => hs) fun _ => ?_
  cases teambuy with
  | ok u => exact Preserves.pure u
  | error e => exact Preserves.raise e

theorem signedIn_setStatusFinish (id : Nat) (item : PackageSkuItem) :
    Preserves (SignedIn id) item.setStatusFinish := by
  refine Preserves.bind (fun s hs => hs) fun _ => Preserves.bind (fun s hs => hs) fun _ => ?_
  exact Preserves.getOr_bind fun s stock hs _ => hs

theorem signedIn_confirmSignOrder (id : Nat) (order : SaleOrder) :
    Preserves (SignedIn id) (order.confirmSignOrder teambuy now) := by
  refine Preserves.ite (fun _ => Preserves.pure ()) fun _ => Preserves.raiseIf_bind fun _ => ?_
  refine Preserves.bind (signedIn_saveSigned id order) fun _ => Preserves.getOr_bind ?_
  intro s item hs _
  refine Preserves.bind (signedIn_setStatusFinish id item) (fun _ => ?_) s hs
  refine Preserves.gets_bind fun s hs => ?_
  exact Preserves.ite (fun _ => signedIn_saveTrade id _ _) (fun _ => Preserves.pure ()) s hs

theorem signedIn_of_sent (horder : order ∈ s.shop.orders)
    (hsent : order.status = .waitBuyerConfirmGoods) :
    SignedIn order.id ((order.confirmSignOrder teambuy now).run s).2 := by
  obtain ⟨shop, hsave, hshop⟩ := saveSigned_run now horder
  have hnot : order.status ≠ .tradeBuyerSigned := by
    rw [hsent]
    exact TradeStatus.noConfusion
  have hsigned : SignedIn order.id (s.withShop shop) := by
    refine ⟨order.toSigned now, ?_, rfl, rfl⟩
    change _ ∈ shop.orders
    rw [hshop.orders]
    exact Table.mem_save_self horder rfl
  unfold SaleOrder.confirmSignOrder
  rw [if_neg hnot, raiseIf_bind_run, if_neg (not_not.mpr hsent), bind_ok hsave]
  refine Preserves.getOr_bind ?_ _ hsigned
  intro s item hs _
  refine Preserves.bind (signedIn_setStatusFinish order.id item) (fun _ => ?_) s hs
  refine Preserves.gets_bind fun s hs => ?_
  exact Preserves.ite (fun _ => signedIn_saveTrade order.id _ _) (fun _ => Preserves.pure ()) s hs

end Loop

/-! ## The trade -/

section Trade

variable {teambuy : Except Exn Unit} {now trade : Nat} {s t : SigningDb} {order : SaleOrder}

theorem confirmSignTrade_missing (h : s.shop.trades.get? trade = none) :
    (SaleTrade.confirmSignTrade teambuy now trade).run s = (.error .doesNotExist, s) := by
  have hnone : (SaleTrade.get trade).run s.shop = (.error .doesNotExist, s.shop) := getOr_none h
  have hget : (inShop (SaleTrade.get trade)).run s = (.error .doesNotExist, s) := by
    unfold inShop zoom
    dsimp only
    rw [hnone]
    rfl
  unfold SaleTrade.confirmSignTrade
  exact bind_error hget

variable {row : SaleTrade}

theorem confirmSignTrade_run (h : s.shop.trades.get? trade = some row) :
    (SaleTrade.confirmSignTrade teambuy now trade).run s = (do
      forEach (SaleTrade.unsignOrders trade s) (SaleOrder.confirmSignOrder teambuy now)
      saveTrade teambuy .tradeFinished trade : SigningTx Unit).run s := by
  have hsome : (SaleTrade.get trade).run s.shop = (.ok row, s.shop) := getOr_some h
  have hget : (inShop (SaleTrade.get trade)).run s = (.ok row, s) := by
    unfold inShop zoom
    dsimp only
    rw [hsome]
    rfl
  unfold SaleTrade.confirmSignTrade
  rw [bind_ok hget]
  rfl

theorem pending_eq (trade : Nat) (s : SigningDb) :
    ((SaleTrade.unsignOrders trade s).filter fun order => order.status ≠ .tradeBuyerSigned) =
      pending trade s := by
  unfold SaleTrade.unsignOrders pending
  rw [List.filter_filter]
  refine List.filter_congr fun order _ => ?_
  cases order.status <;> rfl

theorem left_unsignOrders (trade : Nat) (s : SigningDb) :
    Left (SaleTrade.unsignOrders trade s) [] s where
  orders _ horder := (List.mem_filter.mp (List.mem_of_mem_filter horder)).1
  nodup := ((s.shop.orders.nodup_rows.filter _).filter _)
  apart _ _ := List.not_mem_nil

theorem saveTrade_error {e : Exn} (status : TradeStatus) (trade : Nat) (s : SigningDb) :
    (saveTrade (.error e) status trade).run s =
      (.error e, s.withShop ((SaleTrade.setStatus status trade).run s.shop).2) := rfl

theorem mem_saleOrders_reached {done : List SaleOrder} (h : Reached now done s t)
    {row : SaleOrder} (hrow : row ∈ t.shop.saleOrders trade) :
    ∃ old ∈ s.shop.saleOrders trade, row = if old ∈ done then old.toSigned now else old := by
  obtain ⟨hmem, htrade⟩ := List.mem_filter.mp hrow
  obtain ⟨old, hold, heq⟩ := (h.orders row).mp hmem
  refine ⟨old, List.mem_filter.mpr ⟨hold, ?_⟩, heq⟩
  rw [heq] at htrade
  split at htrade <;> exact htrade

theorem sent_done {done : List SaleOrder}
    (hdone : ∀ order, order ∈ done ↔ order ∈ [] ∨
      (order ∈ SaleTrade.unsignOrders trade s ∧ order.status ≠ .tradeBuyerSigned))
    (horder : order ∈ s.shop.saleOrders trade) (hsent : order.status = .waitBuyerConfirmGoods) :
    order ∈ done := by
  refine (hdone order).mpr (Or.inr ⟨List.mem_filter.mpr ⟨horder, ?_⟩, ?_⟩)
  · rw [hsent]
    rfl
  · rw [hsent]
    exact TradeStatus.noConfusion

theorem signs_of_ready (hrow : s.shop.trades.get? trade = some row) (h : Ready teambuy trade s) :
    ∃ t, (SaleTrade.confirmSignTrade teambuy now trade).run s = (.ok (), t) ∧ Signs trade s t := by
  obtain ⟨hteam, hsignable, hpaid⟩ := h
  subst hteam
  have hall : ∀ order ∈ SaleTrade.unsignOrders trade s,
      order.status = .tradeBuyerSigned ∨ Signable s order := by
    intro order horder
    refine or_iff_not_imp_left.mpr fun hnot => hsignable order ?_
    rw [← pending_eq]
    exact List.mem_filter.mpr ⟨horder, by simpa using hnot⟩
  obtain ⟨t, done, hrun, hreached, hdone⟩ :=
    loop_signs _ (Reached.refl now s) (left_unsignOrders trade s) hall
  refine ⟨t.withShop ((SaleTrade.setStatus .tradeFinished trade).run t.shop).2, ?_, ?_⟩
  · rw [confirmSignTrade_run hrow, bind_ok hrun]
    rfl
  · constructor
    · intro order horder hsent
      refine ⟨order.toSigned now, (hreached.orders _).mpr ⟨order, ?_, ?_⟩, rfl, rfl⟩
      · exact (List.mem_filter.mp horder).1
      · rw [if_pos (sent_done hdone horder hsent)]
    · intro order horder hsent
      exact hreached.finished order (sent_done hdone horder hsent)
    · intro row hrow
      obtain ⟨old, hold, rfl⟩ := mem_saleOrders_reached hreached hrow
      by_cases hmem : old ∈ done
      · rw [if_pos hmem]
        rfl
      · rw [if_neg hmem]
        have hnot := fun h => hmem ((hdone old).mpr (Or.inr h))
        have hpaidOld := hpaid old hold
        have hunsign : old.status = .waitSellerSendGoods ∨ old.status = .waitBuyerConfirmGoods →
            False := by
          intro hstatus
          refine hnot ⟨List.mem_filter.mpr ⟨hold, ?_⟩, ?_⟩
          · rcases hstatus with h | h <;> rw [h] <;> rfl
          · rcases hstatus with h | h <;> rw [h] <;> exact TradeStatus.noConfusion
        cases hstatus : old.status <;> simp_all [isSigned]
    · have hthere := hreached.trades trade
      rw [hrow] at hthere
      obtain ⟨row', hrow'⟩ := Option.isSome_iff_exists.mp hthere
      obtain ⟨hmem, hid⟩ := Table.get?_eq_some.mp hrow'
      refine ⟨_, Table.mem_update.mpr (Or.inl ⟨row', hmem, decide_eq_true hid, rfl⟩), hid, rfl⟩

theorem ready_of_signs (hrun : (SaleTrade.confirmSignTrade teambuy now trade).run s = (.ok (), t))
    (h : Signs trade s t) : Ready teambuy trade s := by
  cases hrow : s.shop.trades.get? trade with
  | none =>
    rw [confirmSignTrade_missing hrow] at hrun
    cases hrun
  | some row =>
    rw [confirmSignTrade_run hrow] at hrun
    obtain ⟨⟨⟩, t₁, hloop, hsave⟩ := bind_eq_ok.mp hrun
    cases teambuy with
    | error e => cases hsave
    | ok u =>
      cases hsave
      have hall := signable_of_loop_ok _ (Reached.refl now s) (left_unsignOrders trade s) hloop
      obtain ⟨t₂, done, hrun₂, hreached, hdone⟩ :=
        loop_signs _ (Reached.refl now s) (left_unsignOrders trade s) hall
      rw [hrun₂] at hloop
      cases hloop
      refine ⟨rfl, ?_, ?_⟩
      · intro order horder
        rw [← pending_eq] at horder
        obtain ⟨hmem, hnot⟩ := List.mem_filter.mp horder
        exact (hall order hmem).resolve_left (by simpa using hnot)
      · intro order horder
        have hkept : order.status = .noCreatePay ∨ order.status = .waitBuyerPay →
            order ∈ t₁.shop.saleOrders trade := by
          intro hstatus
          obtain ⟨hmem, htrade⟩ := List.mem_filter.mp horder
          refine List.mem_filter.mpr ⟨(hreached.orders order).mpr ⟨order, hmem, ?_⟩, htrade⟩
          rw [if_neg]
          intro hin
          rcases (hdone order).mp hin with hnil | ⟨hunsign, -⟩
          · cases hnil
          · have hstatuses := (List.mem_filter.mp hunsign).2
            rcases hstatus with h | h <;> rw [h] at hstatuses <;> cases hstatuses
        constructor
        · intro hstatus
          have hover := h.allSigned order (hkept (Or.inl hstatus))
          rw [hstatus] at hover
          cases hover
        · intro hstatus
          have hover := h.allSigned order (hkept (Or.inr hstatus))
          rw [hstatus] at hover
          cases hover

theorem untouched_of_refused (teambuy : Except Exn Unit) (now : Nat)
    (hrow : s.shop.trades.get? trade = some row)
    {orders : List SaleOrder} (hpending : pending trade s = order :: orders)
    (hstatus : order.status = .waitSellerSendGoods) :
    ∃ e, (SaleTrade.confirmSignTrade teambuy now trade).run s = (.error e, s) := by
  rw [← pending_eq] at hpending
  obtain ⟨later, hskip⟩ := loop_skip teambuy now s _ hpending
  obtain ⟨e, hrefused⟩ := confirmSignOrder_refused teambuy now s hstatus
  refine ⟨e, ?_⟩
  rw [confirmSignTrade_run hrow]
  refine bind_error ?_
  rw [hskip, forEach_cons]
  exact bind_error hrefused

theorem touched_of_sent (teambuy : Except Exn Unit) (now : Nat)
    (hrow : s.shop.trades.get? trade = some row)
    {orders : List SaleOrder} (hpending : pending trade s = order :: orders)
    (hsent : order.status = .waitBuyerConfirmGoods) :
    ¬ Untouched s ((SaleTrade.confirmSignTrade teambuy now trade).run s).2 := by
  intro huntouched
  have hfirst : order ∈ pending trade s := by
    rw [hpending]
    exact List.mem_cons_self
  have horder : order ∈ s.shop.orders := (List.mem_filter.mp (List.mem_of_mem_filter hfirst)).1
  rw [← pending_eq] at hpending
  obtain ⟨later, hskip⟩ := loop_skip teambuy now s _ hpending
  have hloop : SignedIn order.id
      ((forEach (SaleTrade.unsignOrders trade s) (SaleOrder.confirmSignOrder teambuy now)).run s).2 := by
    rw [hskip, forEach_cons]
    refine Preserves.after (signedIn_of_sent horder hsent) fun _ => ?_
    exact Preserves.forEach fun other _ => signedIn_confirmSignOrder order.id other
  have hsigned : SignedIn order.id ((SaleTrade.confirmSignTrade teambuy now trade).run s).2 := by
    rw [confirmSignTrade_run hrow]
    exact Preserves.after hloop fun _ => signedIn_saveTrade order.id _ _
  obtain ⟨signed, hmem, hid, hstatus⟩ := hsigned
  rw [huntouched.orders] at hmem
  rw [Table.pk_inj hmem horder hid, hsent] at hstatus
  cases hstatus

theorem setStatus_again (hrow : s.shop.trades.get? trade = some row) (status : TradeStatus) :
    ((SaleTrade.setStatus status trade).run s.shop).2.trades = s.shop.trades ↔
      row.status = status := by
  obtain ⟨hmem, hid⟩ := Table.get?_eq_some.mp hrow
  have hsave : ((SaleTrade.setStatus status trade).run s.shop).2.trades =
      s.shop.trades.save { row with status := status } := by
    rw [← hid]
    exact Table.update_eq_save hmem _
  rw [hsave]
  constructor
  · intro hsame
    have hnew : { row with status := status } ∈ s.shop.trades.save { row with status := status } :=
      Table.mem_save_self hmem rfl
    rw [hsame] at hnew
    have heq := Table.pk_inj hmem hnew rfl
    exact (congrArg SaleTrade.status heq)
  · rintro rfl
    exact Table.save_of_mem hmem

/-- Signing a trade is atomic exactly where it signs cleanly. -/
theorem signs_atomically_iff (teambuy : Except Exn Unit) (now trade : Nat) (s : SigningDb) :
    SignsAtomically teambuy now trade s ↔ SignsCleanly teambuy trade s := by
  constructor
  · rintro (⟨t, hrun, hsigns⟩ | ⟨e, t, hrun, huntouched⟩)
    · exact .ready (ready_of_signs hrun hsigns)
    · cases hrow : s.shop.trades.get? trade with
      | none => exact .missing hrow
      | some row =>
          cases hpending : pending trade s with
          | cons order orders =>
              have hfirst : order ∈ pending trade s := by
                rw [hpending]
                exact List.mem_cons_self
              have hstatus := (List.mem_filter.mp hfirst).2
              simp only [decide_eq_true_eq, List.mem_cons, List.not_mem_nil, or_false] at hstatus
              rcases hstatus with hwaits | hsent
              · exact .refused order orders hpending hwaits
              · refine absurd ?_ (touched_of_sent teambuy now hrow hpending hsent)
                rw [hrun]
                exact huntouched
          | nil =>
              rw [confirmSignTrade_run hrow] at hrun
              rw [← pending_eq] at hpending
              rw [bind_ok (loop_passes _ hpending)] at hrun
              cases teambuy with
              | ok u => cases hrun
              | error e' =>
                  rw [saveTrade_error] at hrun
                  cases hrun
                  rw [pending_eq] at hpending
                  refine .finished row hrow ?_ (fun h => nomatch h) hpending
                  exact (setStatus_again hrow .tradeFinished).mp huntouched.trades
  · rintro (hready | ⟨order, orders, hpending, hstatus⟩ | hrow | ⟨row, hrow, hstatus, hteam, hpending⟩)
    · cases hrow : s.shop.trades.get? trade with
      | none => exact Or.inr ⟨_, _, confirmSignTrade_missing hrow, rfl, rfl, rfl, rfl⟩
      | some row => exact Or.inl (signs_of_ready hrow hready)
    · cases hrow : s.shop.trades.get? trade with
      | none => exact Or.inr ⟨_, _, confirmSignTrade_missing hrow, rfl, rfl, rfl, rfl⟩
      | some row =>
          obtain ⟨e, hrun⟩ := untouched_of_refused teambuy now hrow hpending hstatus
          exact Or.inr ⟨e, s, hrun, rfl, rfl, rfl, rfl⟩
    · exact Or.inr ⟨_, _, confirmSignTrade_missing hrow, rfl, rfl, rfl, rfl⟩
    · cases teambuy with
      | ok u => exact absurd rfl hteam
      | error e =>
          refine Or.inr ⟨e, s.withShop ((SaleTrade.setStatus .tradeFinished trade).run s.shop).2, ?_, ?_⟩
          · rw [confirmSignTrade_run hrow, bind_ok (loop_passes _ ?_)]
            · rfl
            · rw [pending_eq]
              exact hpending
          · exact ⟨rfl, rfl, rfl, (setStatus_again hrow .tradeFinished).mpr hstatus⟩

end Trade

def halfSent : SigningDb where
  shop :=
    { paidShop with
      orders := (Table.empty.insert
        { signedOrder with
          oid := String.ofList ['x', 'o', '1']
          signTime := none
          status := .waitBuyerConfirmGoods }).insert
        { signedOrder with
          oid := String.ofList ['x', 'o', '2']
          signTime := none
          status := .waitSellerSendGoods }
      packageSkuItems := Table.empty.insert ⟨0, 1, String.ofList ['x', 'o', '1'], 2, 1, .finished⟩ }
  psiStatus _ := .sent
  skuStocks := Table.empty.insert ⟨0, 2, 1, 0⟩

theorem signs_atomically_fails : ¬ SignsAtomically (.ok ()) 10 1 halfSent := by
  have hrefused : ((SaleTrade.confirmSignTrade (.ok ()) 10 1).run halfSent).1 ≠ .ok () := by
    decide +kernel
  have hsigned : ((SaleTrade.confirmSignTrade (.ok ()) 10 1).run halfSent).2.shop.orders.rows ≠
      halfSent.shop.orders.rows := by
    decide +kernel
  rintro (⟨t, hrun, -⟩ | ⟨e, t, hrun, huntouched⟩)
  · rw [hrun] at hrefused
    exact hrefused rfl
  · rw [hrun] at hsigned
    exact hsigned (congrArg Table.rows huntouched.orders)

end ShopManager.Pay.Order
