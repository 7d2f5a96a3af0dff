import ShopManager.Pay.Trade.Model
import ShopManager.Warehouse.SetAside

/-!
# Shipping a package

The weighed package is sent item by item.  Each item is saved as sent before the order
behind it is told, and the detail of a return to a supplier cannot be told.
-/

namespace ShopManager.Warehouse

open Library Library.Tx
open Pay.Trade (TradeStatus)

inductive SysStatus where
  | pkgNewCreated | waitPrepareSend | waitCheckBarcode | waitScanWeight | waitCustomerReceive
  | finished | delete
  deriving DecidableEq, Repr

structure PackageRow where
  sysStatus : SysStatus
  logisticsCompany : Option Nat
  deriving DecidableEq, Repr

/-- The counters of a SKU that are no statistics. -/
structure ProductSku where
  quantity : Int
  waitPostNum : Int
  deriving DecidableEq, Repr

/-- `relatedOrders` has the order behind an item: the sale order of a normal one, the
order at the other mall of a `tianmao` one. -/
structure ShippingDb where
  warehouse : WarehouseDb
  packages : Nat → PackageRow
  relatedOrders : Nat → Option TradeStatus
  productSkus : Nat → ProductSku

abbrev ShippingTx (α : Type) := Tx ShippingDb Exn α

namespace Shipping

def inWarehouse {α : Type} (m : WarehouseTx α) : ShippingTx α :=
  zoom ShippingDb.warehouse (fun warehouse s => { s with warehouse := warehouse }) m

/-- `get_relate_order().finish_sent()`; the detail of a return has no such method. -/
def finishSent (item : PackageSkuItem) : ShippingTx Unit :=
  match item.type with
  | .normal | .tianmao => do
      let _ ← getOr .doesNotExist fun s => s.relatedOrders item.id
      modify fun s => { s with
        relatedOrders := Function.update s.relatedOrders item.id (some .waitBuyerConfirmGoods) }
  | _ => raise .attributeError

def ProductSku.dec (num : Nat) (sku : ProductSku) : ProductSku where
  quantity := sku.quantity - num
  waitPostNum := sku.waitPostNum - num

/-- One round of the loop of `finish_scan_weight`. -/
def sendItem (logisticsCompany : Option Nat) (item : PackageSkuItem) : ShippingTx Unit := do
  raiseIf (logisticsCompany = none) .attributeError
  inWarehouse item.setStatusSent
  if item.type ≠ .byhand then finishSent item else pure ()
  modify fun s => { s with
    productSkus := Function.update s.productSkus item.skuId
      (ProductSku.dec item.num (s.productSkus item.skuId)) }

def assignedItems (s : ShippingDb) (package : Nat) : List PackageSkuItem :=
  s.warehouse.packageSkuItems.filter fun item =>
    item.packageOrderId = some package ∧ item.assignStatus = .assigned

def PackageRow.toWaitCustomerReceive (row : PackageRow) : PackageRow :=
  { row with sysStatus := .waitCustomerReceive }

def weighed (package : Nat) (s : ShippingDb) : ShippingDb :=
  { s with
    packages := Function.update s.packages package
      (PackageRow.toWaitCustomerReceive (s.packages package)) }

/-- `subscribed` is the answer of the parcel service. -/
def finishScanWeight (subscribed : Except Exn Unit) (package : Nat) : ShippingTx Unit := do
  modify (weighed package)
  let logisticsCompany ← gets fun s => (s.packages package).logisticsCompany
  let items ← gets fun s => assignedItems s package
  forEach items (sendItem logisticsCompany)
  raiseIf (logisticsCompany = none) .attributeError
  ofExcept subscribed

/-! ## What a package needs -/

/-- The items are sent, once each; the orders behind them know, and the counters of
their SKUs drop by them. -/
structure Shipped (items : List PackageSkuItem) (s s' : ShippingDb) : Prop where
  sent : s'.warehouse.packageSkuItems.rows = s.warehouse.packageSkuItems.rows.map fun item =>
    if item ∈ items then item.toSent else item
  once : s'.warehouse.shipments = s.warehouse.shipments ++ items.map PackageSkuItem.id
  notified : ∀ item ∈ items, item.type ≠ .byhand →
    s'.relatedOrders item.id = some .waitBuyerConfirmGoods
  others : ∀ id ∉ items.map PackageSkuItem.id, s'.relatedOrders id = s.relatedOrders id
  skus : ∀ sku, s'.productSkus sku = ⟨
    (s.productSkus sku).quantity -
      ((items.filter fun item => item.skuId = sku).map fun item => (item.num : Int)).sum,
    (s.productSkus sku).waitPostNum -
      ((items.filter fun item => item.skuId = sku).map fun item => (item.num : Int)).sum⟩

def Completes (subscribed : Except Exn Unit) (s : ShippingDb) (package : Nat) : Prop :=
  ∃ s', (finishScanWeight subscribed package).run s = (.ok (), s') ∧
    Shipped (assignedItems s package) s s'

def CanNotify (s : ShippingDb) (item : PackageSkuItem) : Prop :=
  item.type = .byhand ∨
    (item.type ∈ [PsiType.normal, .tianmao] ∧ (s.relatedOrders item.id).isSome)

instance (s : ShippingDb) (item : PackageSkuItem) : Decidable (CanNotify s item) :=
  inferInstanceAs (Decidable (_ ∨ _))

structure CanShip (subscribed : Except Exn Unit) (s : ShippingDb) (package : Nat) : Prop where
  company : (s.packages package).logisticsCompany ≠ none
  subscribed : subscribed = .ok ()
  notify : ∀ item ∈ assignedItems s package, CanNotify s item

structure Sent (item : PackageSkuItem) (s s' : ShippingDb) : Prop where
  items : s'.warehouse.packageSkuItems = s.warehouse.packageSkuItems.save item.toSent
  shipments : s'.warehouse.shipments = s.warehouse.shipments ++ [item.id]
  relatedOrders : s'.relatedOrders =
    if item.type ≠ .byhand then
      Function.update s.relatedOrders item.id (some .waitBuyerConfirmGoods)
    else s.relatedOrders
  productSkus : s'.productSkus = Function.update s.productSkus item.skuId
    (ProductSku.dec item.num (s.productSkus item.skuId))

section Item

variable {s s' : ShippingDb} {item : PackageSkuItem} {logisticsCompany : Option Nat}

theorem setStatusSent_run (item : PackageSkuItem) (s : WarehouseDb) :
    ∃ stocks, item.setStatusSent.run s = (.ok (), { s with
      packageSkuItems := s.packageSkuItems.save item.toSent
      shipments := s.shipments ++ [item.id]
      skuStocks := stocks }) := by
  obtain ⟨stock, hrun, -⟩ := setPsi_run
    [(.psi .waitpost, -1), (.psi .sent, 1), (.postNum, 1), (.assignNum, -1)] item.skuId item.num
    { s with
      packageSkuItems := s.packageSkuItems.save item.toSent
      shipments := s.shipments ++ [item.id] }
  exact ⟨Function.update s.skuStocks item.skuId stock, hrun⟩

theorem finishSent_run (h : CanNotify s item) (htype : item.type ≠ .byhand) :
    (finishSent item).run s = (.ok (), { s with
      relatedOrders :=
        Function.update s.relatedOrders item.id (some .waitBuyerConfirmGoods) }) := by
  obtain ⟨hmall, hsome⟩ := h.resolve_left htype
  obtain ⟨status, hstatus⟩ := Option.isSome_iff_exists.mp hsome
  have hget := getOr_some (e := Exn.doesNotExist)
    (f := fun s : ShippingDb => s.relatedOrders item.id) hstatus
  unfold finishSent
  rcases List.mem_cons.mp hmall with hnormal | hmall
  · rw [hnormal]
    exact bind_ok hget
  · rw [List.mem_singleton.mp hmall]
    exact bind_ok hget

theorem canNotify_of_finishSent {u : Unit} (h : (finishSent item).run s = (.ok u, s')) :
    CanNotify s item := by
  have hget : (getOr Exn.doesNotExist (fun s : ShippingDb => s.relatedOrders item.id) >>=
      fun _ => modify fun s : ShippingDb => { s with
        relatedOrders :=
          Function.update s.relatedOrders item.id (some .waitBuyerConfirmGoods) }).run s =
      (.ok u, s') → (s.relatedOrders item.id).isSome := by
    intro hrun
    obtain ⟨status, t, hstatus, -⟩ := bind_eq_ok.mp hrun
    rw [(getOr_eq_ok.mp hstatus).1]
    rfl
  unfold finishSent at h
  cases htype : item.type with
  | byhand => exact .inl htype
  | normal =>
    rw [htype] at h
    exact .inr ⟨by rw [htype]; decide, hget h⟩
  | tianmao =>
    rw [htype] at h
    exact .inr ⟨by rw [htype]; decide, hget h⟩
  | returnGoods =>
    rw [htype] at h
    cases (Prod.mk.inj h).1
  | returnOutOrder =>
    rw [htype] at h
    cases (Prod.mk.inj h).1
  | returnInferior =>
    rw [htype] at h
    cases (Prod.mk.inj h).1

theorem sendItem_run (hcompany : logisticsCompany ≠ none) (h : CanNotify s item) :
    ∃ s', (sendItem logisticsCompany item).run s = (.ok (), s') ∧ Sent item s s' := by
  obtain ⟨stocks, hsent⟩ := setStatusSent_run item s.warehouse
  unfold sendItem inWarehouse
  rw [raiseIf_bind_run, if_neg hcompany, zoom_bind_run, hsent]
  dsimp only
  by_cases htype : item.type ≠ .byhand
  · rw [if_pos htype]
    exact ⟨_, bind_ok (finishSent_run h htype), rfl, rfl, (if_pos htype).symm, rfl⟩
  · rw [if_neg htype, modify_run]
    exact ⟨_, rfl, rfl, rfl, (if_neg htype).symm, rfl⟩

theorem canNotify_of_sendItem {u : Unit}
    (h : (sendItem logisticsCompany item).run s = (.ok u, s')) :
    logisticsCompany ≠ none ∧ CanNotify s item := by
  unfold sendItem at h
  obtain ⟨_, t, hcompany, h⟩ := bind_eq_ok.mp h
  obtain ⟨hsome, rfl⟩ := raiseIf_eq_ok.mp hcompany
  refine ⟨hsome, ?_⟩
  obtain ⟨_, t, hsent, h⟩ := bind_eq_ok.mp h
  by_cases htype : item.type ≠ .byhand
  · rw [if_pos htype] at h
    obtain ⟨_, u, hfinish, -⟩ := bind_eq_ok.mp h
    have hnotify := canNotify_of_finishSent hfinish
    obtain ⟨_, _, rfl⟩ := zoom_eq_ok.mp hsent
    exact hnotify
  · exact .inl (not_not.mp htype)

theorem Sent.canNotify_iff (h : Sent item s s') (hitem : CanNotify s item)
    (other : PackageSkuItem) : CanNotify s' other ↔ CanNotify s other := by
  unfold CanNotify at *
  rw [h.relatedOrders]
  split
  · next htype =>
    by_cases hid : other.id = item.id
    · have hsome := (hitem.resolve_left htype).2
      rw [hid, Function.update_self]
      simp [hsome]
    · rw [Function.update_of_ne hid]
  · rfl

/-! ## The loop -/

theorem Shipped.none (s : ShippingDb) : Shipped [] s s where
  sent := by simp
  once := by simp
  notified := by simp
  others _ _ := rfl
  skus sku := by simp

theorem Shipped.cons {items : List PackageSkuItem} {s'' : ShippingDb}
    (hitem : item ∈ s.warehouse.packageSkuItems)
    (hitems : ∀ other ∈ items, other ∈ s.warehouse.packageSkuItems)
    (hfirst : Sent item s s') (hnot : item.id ∉ items.map PackageSkuItem.id)
    (hrest : Shipped items s' s'') : Shipped (item :: items) s s'' := by
  constructor
  · -- the later rounds leave the row of the first alone
    rw [hrest.sent, hfirst.items]
    unfold Table.save Table.update
    refine List.map_map.trans (List.map_congr_left fun r hr => ?_)
    have hout : item.toSent ∉ items := fun hmem =>
      hnot (List.mem_map.mpr ⟨item.toSent, hmem, rfl⟩)
    rw [Function.comp_apply]
    by_cases hid : r.id = item.id
    · obtain rfl := Table.pk_inj hr hitem hid
      have hsaved : (if decide (Row.pk r = Row.pk r.toSent) = true then
          Row.withPk (Row.pk r) r.toSent else r) = r.toSent := if_pos (decide_eq_true rfl)
      refine (congrArg (fun row => if row ∈ items then row.toSent else row) hsaved).trans ?_
      exact (if_neg hout).trans (if_pos List.mem_cons_self).symm
    · have hne : r ≠ item := fun heq => hid (heq ▸ rfl)
      have hsaved : (if decide (Row.pk r = Row.pk item.toSent) = true then
          Row.withPk (Row.pk r) item.toSent else r) = r := if_neg fun heq =>
            hid (of_decide_eq_true heq)
      refine (congrArg (fun row => if row ∈ items then row.toSent else row) hsaved).trans ?_
      simp only [List.mem_cons, hne, false_or]
  · rw [hrest.once, hfirst.shipments, List.map_cons, List.append_assoc, List.singleton_append]
  · intro other hother htype
    rcases List.mem_cons.mp hother with rfl | hother
    · rw [hrest.others _ hnot, hfirst.relatedOrders, if_pos htype, Function.update_self]
    · exact hrest.notified other hother htype
  · intro id hid
    rw [List.map_cons, List.mem_cons, not_or] at hid
    rw [hrest.others id hid.2, hfirst.relatedOrders]
    split
    · exact Function.update_of_ne hid.1 _ _
    · rfl
  · intro sku
    rw [hrest.skus, hfirst.productSkus, List.filter_cons]
    by_cases hsku : item.skuId = sku
    · rw [if_pos (decide_eq_true hsku), List.map_cons, List.sum_cons, ← hsku,
        Function.update_self]
      unfold ProductSku.dec
      rw [sub_sub, sub_sub]
    · rw [if_neg (by simpa using hsku), Function.update_of_ne (Ne.symm hsku)]

theorem forEach_sendItem (hcompany : logisticsCompany ≠ none) (items : List PackageSkuItem) :
    ∀ s : ShippingDb, (∀ item ∈ items, item ∈ s.warehouse.packageSkuItems) →
      (items.map PackageSkuItem.id).Nodup → (∀ item ∈ items, CanNotify s item) →
      ∃ s', (forEach items (sendItem logisticsCompany)).run s = (.ok (), s') ∧
        Shipped items s s' := by
  induction items with
  | nil => exact fun s _ _ _ => ⟨s, rfl, Shipped.none s⟩
  | cons item items ih =>
    intro s hitems hnodup hnotify
    obtain ⟨hnot, hnodup⟩ := List.nodup_cons.mp hnodup
    have hitem := hnotify item List.mem_cons_self
    obtain ⟨t, hrun, hsent⟩ := sendItem_run hcompany hitem
    have hstay : ∀ other ∈ items, other ∈ t.warehouse.packageSkuItems := by
      intro other hother
      have hin := hitems other (List.mem_cons_of_mem item hother)
      have hself := hitems item List.mem_cons_self
      rw [hsent.items, Table.mem_save_iff hself (by rfl)]
      exact .inr ⟨hin, fun heq => hnot (List.mem_map.mpr ⟨other, hother, heq⟩)⟩
    have hrest : ∀ other ∈ items, CanNotify t other := fun other hother =>
      (hsent.canNotify_iff hitem other).mpr (hnotify other (List.mem_cons_of_mem item hother))
    obtain ⟨s', hruns, hshipped⟩ := ih t hstay hnodup hrest
    refine ⟨s', ?_, hshipped.cons (hitems item List.mem_cons_self) (fun other hother =>
      hitems other (List.mem_cons_of_mem item hother)) hsent hnot⟩
    rw [forEach_cons, bind_ok hrun]
    exact hruns

theorem canNotify_of_forEach {items : List PackageSkuItem} :
    ∀ {s s' : ShippingDb} {u : Unit},
      (forEach items (sendItem logisticsCompany)).run s = (.ok u, s') →
      ∀ item ∈ items, CanNotify s item := by
  induction items with
  | nil => simp
  | cons item items ih =>
    intro s s' u hrun
    rw [forEach_cons] at hrun
    obtain ⟨_, t, hfirst, hrest⟩ := bind_eq_ok.mp hrun
    obtain ⟨hcompany, hitem⟩ := canNotify_of_sendItem hfirst
    intro other hother
    rcases List.mem_cons.mp hother with rfl | hother
    · exact hitem
    · obtain ⟨t', hrun', hsent⟩ := sendItem_run hcompany hitem
      rw [hrun'] at hfirst
      obtain ⟨-, rfl⟩ := Prod.mk.inj hfirst
      exact (hsent.canNotify_iff hitem other).mp (ih hrest other hother)

/-- A package is shipped whole if and only if it has a parcel service and no item of it
goes back to a supplier. -/
theorem finish_scan_weight_completes (subscribed : Except Exn Unit) (s : ShippingDb)
    (package : Nat) : Completes subscribed s package ↔ CanShip subscribed s package := by
  have hcompany : ((weighed package s).packages package).logisticsCompany =
      (s.packages package).logisticsCompany := by
    unfold weighed
    dsimp only
    rw [Function.update_self]
    rfl
  have hitems : assignedItems (weighed package s) package = assignedItems s package := rfl
  have hnodup : ((assignedItems s package).map PackageSkuItem.id).Nodup :=
    s.warehouse.packageSkuItems.nodup_pk_filter _
  unfold Completes finishScanWeight
  rw [modify_bind_run, gets_bind_run, gets_bind_run, hcompany, hitems]
  constructor
  · rintro ⟨s', hrun, -⟩
    obtain ⟨_, t, hloop, hrun⟩ := bind_eq_ok.mp hrun
    obtain ⟨_, t', hraised, hrun⟩ := bind_eq_ok.mp hrun
    obtain ⟨hsome, -⟩ := raiseIf_eq_ok.mp hraised
    obtain ⟨hsubscribed, -⟩ := ofExcept_eq_ok.mp hrun
    have hnotify : ∀ item ∈ assignedItems s package, CanNotify (weighed package s) item :=
      canNotify_of_forEach hloop
    exact ⟨hsome, hsubscribed, hnotify⟩
  · rintro ⟨hsome, rfl, hnotify⟩
    obtain ⟨s', hrun, hshipped⟩ := forEach_sendItem hsome (assignedItems s package)
      (weighed package s) (fun item hitem => (List.mem_filter.mp hitem).1) hnodup hnotify
    refine ⟨s', ?_, hshipped.sent, hshipped.once, hshipped.notified, hshipped.others,
      hshipped.skus⟩
    rw [bind_ok hrun, raiseIf_bind_run, if_neg hsome]
    rfl

end Item

def packedItem (type : PsiType) (skuId : Nat) : PackageSkuItem :=
  ⟨0, skuId, 1, type, .waitpost, .assigned, some 1, none, 20170101000000, 1, true⟩

/-- An order of a customer and a return to a supplier in one package. -/
def mixedDb : ShippingDb where
  warehouse :=
    { packageSkuItems := (Table.empty.insert (packedItem .normal 1)).insert
        (packedItem .returnGoods 2)
      skuStocks := fun _ _ => 0
      totals := fun _ => ⟨0, 0, 0, 0⟩
      suppliers := fun _ => none
      purchaseOrders := Table.empty
      purchaseDetails := Table.empty
      purchaseArrangements := Table.empty
      shipments := [] }
  packages := fun _ => ⟨.waitScanWeight, some 1⟩
  relatedOrders := fun id => if id = 1 then some .waitSellerSendGoods else none
  productSkus := fun _ => ⟨5, 5⟩

/-- The return is saved as sent and its SKU keeps the piece. -/
theorem finish_scan_weight_fails : ¬ Completes (.ok ()) mixedDb 1 := by
  rintro ⟨s', hrun, -⟩
  have hraised : ((finishScanWeight (.ok ()) 1).run mixedDb).1 = .error .attributeError := by
    decide +kernel
  rw [hrun] at hraised
  cases hraised

end Shipping

end ShopManager.Warehouse
