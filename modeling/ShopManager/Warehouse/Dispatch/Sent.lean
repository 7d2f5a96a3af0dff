import Mathlib.Tactic.Ring
import ShopManager.Warehouse.Dispatch.Model

/-!
# When an order is sent

An order is to be sent with its last piece.  The third party's way counts the pieces, the own
one does not, and under a unique `sale_order_id` there is only one item to count.
-/

namespace ShopManager.Warehouse.Dispatch

open Library Library.Tx Library.Execution
open Pay.Trade (TradeStatus)
open Shipping (ProductSku.dec setStatusSent_run)

/-! ## The law -/

def Law (id n : Nat) (s : DispatchDb) : Prop :=
  ∃ order, s.saleOrders id = some order ∧ order.num = n ∧
    (order.status = .waitBuyerConfirmGoods ↔ s.hasSentNum id = n) ∧
    s.needSendNum id order = n - s.hasSentNum id

def total (s : DispatchDb) (id : Nat) : Int := s.pieces id fun _ => true

structure Packed (id n : Nat) (s : DispatchDb) : Prop where
  total : total s id = n
  normal : ∀ item ∈ s.warehouse.packageSkuItems, s.saleOrderIds item.id = some id →
    item.type = .normal

structure Waiting (id n : Nat) (s : DispatchDb) : Prop extends Packed id n s where
  order : s.saleOrders id = some ⟨n, .waitSellerSendGoods⟩
  unsent : s.hasSentNum id < n

/-- The column `sale_order_id` is unique. -/
def Unique (id : Nat) (s : DispatchDb) : Prop :=
  ∀ item ∈ s.warehouse.packageSkuItems, ∀ other ∈ s.warehouse.packageSkuItems,
    s.saleOrderIds item.id = some id → s.saleOrderIds other.id = some id → item.id = other.id

def canTell (s : DispatchDb) (item : PackageSkuItem) : Bool :=
  match item.type with
  | .byhand => true
  | .normal => (s.saleOrder item).isSome
  | .tianmao => (s.tmallOrders item.id).isSome
  | _ => false

def passes (s : DispatchDb) (item : PackageSkuItem) : Bool :=
  canTell s item && (s.productSkus item.skuId).isSome

def reached (s : DispatchDb) : List PackageSkuItem → List PackageSkuItem
  | [] => []
  | item :: items => if passes s item then item :: reached s items else [item]

def scanned (s : DispatchDb) (package : Nat) : List PackageSkuItem :=
  if (s.packages package).logisticsCompany = none then []
  else reached s (assignedItems s package [.assigned])

def own (s : DispatchDb) (id : Nat) (items : List PackageSkuItem) : List PackageSkuItem :=
  items.filter fun item => s.saleOrderIds item.id = some id

def count (items : List PackageSkuItem) : Int :=
  (items.map fun item => (item.num : Int)).sum

def Fits (id n : Nat) (s : DispatchDb) : DispatchOp → Prop
  | .finishScanWeight _ package =>
      own s id (scanned s package) = [] ∨
        s.hasSentNum id + count (own s id (scanned s package)) = n
  | .finishThirdPackage .. => True

instance (id n : Nat) (s : DispatchDb) (op : DispatchOp) : Decidable (Fits id n s op) := by
  cases op <;> unfold Fits <;> infer_instance

variable {id n : Nat} {s s' : DispatchDb} {item : PackageSkuItem}

structure Dispatched (item : PackageSkuItem) (s s' : DispatchDb) : Prop where
  items : s'.warehouse.packageSkuItems = s.warehouse.packageSkuItems.save item.toSent
  saleOrderIds : s'.saleOrderIds = s.saleOrderIds

theorem Dispatched.pieces (h : Dispatched item s s')
    (hitem : item ∈ s.warehouse.packageSkuItems) (counted : AssignStatus → Bool) :
    s'.pieces id counted = s.pieces id counted +
      if s.saleOrderIds item.id = some id then
        (if counted .finished then (item.num : Int) else 0) -
          if counted item.assignStatus then (item.num : Int) else 0
      else 0 := by
  unfold DispatchDb.pieces
  rw [h.items, h.saleOrderIds, Table.sum_save (a := item.toSent) hitem rfl]
  change _ - _ + (if s.saleOrderIds item.id = some id ∧ counted .finished then
    (item.num : Int) else 0) = _
  by_cases hid : s.saleOrderIds item.id = some id
  · simp only [hid, true_and, if_true]
    ring
  · simp only [hid, false_and, if_false]
    ring

theorem Dispatched.total (h : Dispatched item s s')
    (hitem : item ∈ s.warehouse.packageSkuItems) : total s' id = total s id := by
  unfold Dispatch.total
  rw [h.pieces hitem]
  simp

theorem Dispatched.hasSentNum (h : Dispatched item s s')
    (hitem : item ∈ s.warehouse.packageSkuItems) (hstatus : item.assignStatus ≠ .finished) :
    s'.hasSentNum id =
      s.hasSentNum id + if s.saleOrderIds item.id = some id then (item.num : Int) else 0 := by
  unfold DispatchDb.hasSentNum
  rw [h.pieces hitem]
  simp [hstatus]

theorem Dispatched.packed (h : Dispatched item s s')
    (hitem : item ∈ s.warehouse.packageSkuItems) (hpacked : Packed id n s) : Packed id n s' where
  total := (h.total hitem).trans hpacked.total
  normal := by
    rw [h.items, h.saleOrderIds]
    intro other hother
    rcases (Table.mem_save_iff (a := item.toSent) hitem rfl).mp hother with rfl | ⟨hother, -⟩
    · exact hpacked.normal item hitem
    · exact hpacked.normal other hother

theorem Dispatched.unique (h : Dispatched item s s')
    (hitem : item ∈ s.warehouse.packageSkuItems) (hunique : Unique id s) : Unique id s' := by
  have hrow : ∀ other ∈ s'.warehouse.packageSkuItems,
      ∃ row ∈ s.warehouse.packageSkuItems, row.id = other.id := by
    rw [h.items]
    intro other hother
    rcases (Table.mem_save_iff (a := item.toSent) hitem rfl).mp hother with rfl | ⟨hother, -⟩
    · exact ⟨item, hitem, rfl⟩
    · exact ⟨other, hother, rfl⟩
  intro first hfirst second hsecond
  obtain ⟨row, hrow', hid⟩ := hrow first hfirst
  obtain ⟨row', hrow'', hid'⟩ := hrow second hsecond
  rw [h.saleOrderIds, ← hid, ← hid']
  exact hunique row hrow' row' hrow''

theorem Dispatched.mem_of_ne (h : Dispatched item s s')
    (hitem : item ∈ s.warehouse.packageSkuItems) {other : PackageSkuItem}
    (hother : other ∈ s.warehouse.packageSkuItems) (hne : other.id ≠ item.id) :
    other ∈ s'.warehouse.packageSkuItems := by
  rw [h.items]
  exact (Table.mem_save_iff (a := item.toSent) hitem rfl).mpr (.inr ⟨hother, hne⟩)

theorem hasSentNum_le_total (s : DispatchDb) (id : Nat) : s.hasSentNum id ≤ total s id := by
  unfold DispatchDb.hasSentNum total DispatchDb.pieces
  refine Table.sum_le_sum fun item _ => ?_
  by_cases hid : s.saleOrderIds item.id = some id
  · by_cases hfinished : item.assignStatus = .finished
    · simp [hid, hfinished]
    · simp [hid, hfinished]
  · simp [hid]

/-! ## One item from the own warehouse -/

def told (s : DispatchDb) (item : PackageSkuItem) : DispatchDb :=
  match item.type with
  | .normal =>
      match s.saleOrder item with
      | some order => s.setSaleOrder order.1 order.2.toSent
      | none => s
  | .tianmao =>
      match s.tmallOrders item.id with
      | some _ => { s with
          tmallOrders := Function.update s.tmallOrders item.id (some .waitBuyerConfirmGoods) }
      | none => s
  | _ => s

theorem tellOrder_run (s : DispatchDb) (item : PackageSkuItem) :
    ∃ r, (tellOrder item).run s = (r, told s item) ∧
      (r = .ok () ↔ canTell s item = true) := by
  unfold tellOrder finishSent told canTell
  cases htype : item.type with
  | byhand => exact ⟨.ok (), rfl, by simp⟩
  | normal =>
    simp only [ne_eq, reduceCtorEq, not_false_eq_true, if_true]
    cases horder : s.saleOrder item with
    | none =>
      exact ⟨.error .doesNotExist, by simp only [getOr_bind_run, horder], by simp⟩
    | some order => exact ⟨.ok (), by simp only [getOr_bind_run, horder, modify_run], by simp⟩
  | tianmao =>
    simp only [ne_eq, reduceCtorEq, not_false_eq_true, if_true]
    cases horder : s.tmallOrders item.id with
    | none =>
      exact ⟨.error .doesNotExist, by simp only [getOr_bind_run, horder], by simp⟩
    | some order => exact ⟨.ok (), by simp only [getOr_bind_run, horder, modify_run], by simp⟩
  | returnGoods => exact ⟨.error .attributeError, rfl, by simp⟩
  | returnOutOrder => exact ⟨.error .attributeError, rfl, by simp⟩
  | returnInferior => exact ⟨.error .attributeError, rfl, by simp⟩

theorem told_saleOrders (s : DispatchDb) (item : PackageSkuItem) (id : Nat) :
    (told s item).saleOrders id =
      if item.type = .normal ∧ s.saleOrderIds item.id = some id then
        (s.saleOrders id).map SaleOrder.toSent
      else s.saleOrders id := by
  unfold told DispatchDb.saleOrder
  cases htype : item.type with
  | normal =>
    simp only [true_and]
    cases hid : s.saleOrderIds item.id with
    | none => simp
    | some other =>
      simp only [Option.bind_some, Option.some.injEq]
      cases horder : s.saleOrders other with
      | none =>
        simp only [Option.map_none]
        split
        · next heq => rw [← heq, horder, Option.map_none]
        · rfl
      | some order =>
        simp only [Option.map_some, DispatchDb.setSaleOrder]
        split
        · next heq => rw [← heq, Function.update_self, horder, Option.map_some]
        · next hne => exact Function.update_of_ne (Ne.symm hne) _ _
  | tianmao => cases s.tmallOrders item.id <;> simp
  | _ => simp

theorem canTell_told (s : DispatchDb) (item other : PackageSkuItem) :
    canTell (told s item) other = canTell s other := by
  have horders : ∀ id, ((told s item).saleOrders id).isSome = (s.saleOrders id).isSome := by
    intro id
    rw [told_saleOrders]
    split
    · exact Option.isSome_map
    · rfl
  have hids : (told s item).saleOrderIds = s.saleOrderIds := by
    unfold told
    cases item.type with
    | normal => cases s.saleOrder item <;> rfl
    | tianmao => cases s.tmallOrders item.id <;> rfl
    | _ => rfl
  have htmall : ∀ id, ((told s item).tmallOrders id).isSome = (s.tmallOrders id).isSome := by
    intro id
    unfold told
    cases item.type with
    | normal => cases s.saleOrder item <;> rfl
    | tianmao =>
      cases horder : s.tmallOrders item.id with
      | none => rfl
      | some order =>
        dsimp only
        by_cases hid : id = item.id
        · rw [hid, Function.update_self, horder]
          rfl
        · rw [Function.update_of_ne hid]
    | _ => rfl
  unfold canTell DispatchDb.saleOrder
  rw [hids]
  cases other.type with
  | normal =>
    cases s.saleOrderIds other.id with
    | none => rfl
    | some id => simpa using horders id
  | tianmao => exact htmall other.id
  | _ => rfl

theorem decProductSku_run (s : DispatchDb) (item : PackageSkuItem) :
    ∃ r skus, (decProductSku item).run s = (r, { s with productSkus := skus }) ∧
      (r = .ok () ↔ (s.productSkus item.skuId).isSome = true) ∧
      ∀ id, (skus id).isSome = (s.productSkus id).isSome := by
  unfold decProductSku
  cases hsku : s.productSkus item.skuId with
  | none =>
    refine ⟨.error .doesNotExist, s.productSkus, ?_, by simp, fun _ => rfl⟩
    simp only [getOr_bind_run, hsku]
  | some sku =>
    refine ⟨.ok (), Function.update s.productSkus item.skuId
      (some (ProductSku.dec item.num sku)), ?_, by simp, ?_⟩
    · simp only [getOr_bind_run, hsku, modify_run]
    · intro id
      by_cases hid : id = item.skuId
      · rw [hid, Function.update_self, hsku]
        rfl
      · rw [Function.update_of_ne hid]

structure SentOne (item : PackageSkuItem) (s s' : DispatchDb) : Prop
    extends Dispatched item s s' where
  orders : ∀ id, s'.saleOrders id =
    if item.type = .normal ∧ s.saleOrderIds item.id = some id then
      (s.saleOrders id).map SaleOrder.toSent
    else s.saleOrders id
  passes : ∀ other, passes s' other = passes s other

theorem sendItem_spec (company : Nat) (item : PackageSkuItem) (s : DispatchDb) :
    ∃ r s', (sendItem (some company) item).run s = (r, s') ∧ SentOne item s s' ∧
      (r = .ok () ↔ passes s item = true) := by
  obtain ⟨stocks, hsent⟩ := setStatusSent_run item s.warehouse
  unfold sendItem inWarehouse
  rw [raiseIf_bind_run, if_neg (Option.some_ne_none company), zoom_bind_run, hsent]
  dsimp only
  generalize hmid : ({ s with warehouse := { s.warehouse with
    packageSkuItems := s.warehouse.packageSkuItems.save item.toSent
    shipments := s.warehouse.shipments ++ [item.id]
    skuStocks := stocks } } : DispatchDb) = mid
  have hitems : mid.warehouse.packageSkuItems =
      s.warehouse.packageSkuItems.save item.toSent := by rw [← hmid]
  have hids : mid.saleOrderIds = s.saleOrderIds := by rw [← hmid]
  have hmidOrders : mid.saleOrders = s.saleOrders := by rw [← hmid]
  have hcan : ∀ other, canTell mid other = canTell s other := by
    intro other
    rw [← hmid]
    rfl
  have hskus : mid.productSkus = s.productSkus := by rw [← hmid]
  have htold : (told mid item).warehouse = mid.warehouse ∧
      (told mid item).saleOrderIds = mid.saleOrderIds ∧
      (told mid item).productSkus = mid.productSkus := by
    unfold told
    cases item.type with
    | normal => cases mid.saleOrder item <;> exact ⟨rfl, rfl, rfl⟩
    | tianmao => cases mid.tmallOrders item.id <;> exact ⟨rfl, rfl, rfl⟩
    | _ => exact ⟨rfl, rfl, rfl⟩
  have horders : ∀ id, (told mid item).saleOrders id =
      if item.type = .normal ∧ s.saleOrderIds item.id = some id then
        (s.saleOrders id).map SaleOrder.toSent
      else s.saleOrders id := by
    intro id
    rw [told_saleOrders, hids, hmidOrders]
  obtain ⟨r, hrun, htell⟩ := tellOrder_run mid item
  rw [hcan] at htell
  rw [bind_run, hrun]
  cases r with
  | error e =>
    refine ⟨.error e, told mid item, rfl, ⟨⟨?_, ?_⟩, horders, ?_⟩, ?_⟩
    · rw [htold.1, hitems]
    · rw [htold.2.1, hids]
    · intro other
      unfold Dispatch.passes
      rw [canTell_told, hcan, htold.2.2, hskus]
    · unfold Dispatch.passes
      rw [Bool.and_eq_true]
      exact ⟨fun h => (nomatch h), fun h => (nomatch htell.mpr h.1)⟩
  | ok u =>
    obtain ⟨r, skus, hdec, hr, hsome⟩ := decProductSku_run (told mid item) item
    refine ⟨r, _, hdec, ⟨⟨?_, ?_⟩, horders, ?_⟩, ?_⟩
    · exact htold.1.symm ▸ hitems
    · exact htold.2.1.trans hids
    · intro other
      unfold Dispatch.passes
      dsimp only
      rw [hsome, htold.2.2, hskus, ← hcan, ← canTell_told mid item]
      rfl
    · unfold Dispatch.passes
      rw [Bool.and_eq_true, hr, htold.2.2, hskus]
      exact (and_iff_right (htell.mp rfl)).symm

/-! ## The loop of the own warehouse -/

theorem own_cons (s : DispatchDb) (id : Nat) (item : PackageSkuItem)
    (items : List PackageSkuItem) :
    own s id (item :: items) =
      if s.saleOrderIds item.id = some id then item :: own s id items else own s id items := by
  unfold own
  rw [List.filter_cons]
  simp only [decide_eq_true_eq]

theorem own_congr {s s' : DispatchDb} (h : s'.saleOrderIds = s.saleOrderIds) (id : Nat)
    (items : List PackageSkuItem) : own s' id items = own s id items := by
  unfold own
  rw [h]

theorem reached_congr (s s' : DispatchDb) (h : ∀ item, passes s' item = passes s item)
    (items : List PackageSkuItem) : reached s' items = reached s items := by
  induction items with
  | nil => rfl
  | cons item items ih =>
    unfold reached
    rw [h, ih]

structure Scanned (id n : Nat) (items : List PackageSkuItem) (s s' : DispatchDb) : Prop where
  packed : Packed id n s'
  unique : Unique id s → Unique id s'
  sent : s'.hasSentNum id = s.hasSentNum id + count (own s id items)
  order : s'.saleOrders id =
    if own s id items = [] then s.saleOrders id else (s.saleOrders id).map SaleOrder.toSent

theorem Scanned.one (hpacked : Packed id n s) (hitem : item ∈ s.warehouse.packageSkuItems)
    (hstatus : item.assignStatus ≠ .finished) (h : SentOne item s s') :
    Scanned id n [item] s s' where
  packed := h.packed hitem hpacked
  unique := h.unique hitem
  sent := by
    rw [h.hasSentNum hitem hstatus, own_cons]
    by_cases hid : s.saleOrderIds item.id = some id
    · rw [if_pos hid, if_pos hid]
      simp [count, own]
    · rw [if_neg hid, if_neg hid]
      simp [count, own]
  order := by
    rw [h.orders, own_cons]
    by_cases hid : s.saleOrderIds item.id = some id
    · rw [if_pos ⟨hpacked.normal item hitem hid, hid⟩, if_pos hid,
        if_neg (List.cons_ne_nil _ _)]
    · rw [if_neg fun h => hid h.2, if_neg hid]
      rfl

theorem Scanned.cons {s'' : DispatchDb} {items : List PackageSkuItem}
    (hfirst : Scanned id n [item] s s') (hids : s'.saleOrderIds = s.saleOrderIds)
    (hrest : Scanned id n items s' s'') : Scanned id n (item :: items) s s'' where
  packed := hrest.packed
  unique hunique := hrest.unique (hfirst.unique hunique)
  sent := by
    rw [hrest.sent, hfirst.sent, own_congr hids, own_cons, own_cons]
    split
    · simp only [count, own, List.filter_nil, List.map_cons, List.map_nil, List.sum_cons,
        List.sum_nil]
      ring
    · simp [count, own]
  order := by
    rw [hrest.order, hfirst.order, own_congr hids, own_cons, own_cons]
    have hnone : own s id [] = [] := rfl
    rw [hnone]
    by_cases hid : s.saleOrderIds item.id = some id
    · simp only [if_pos hid, if_neg (List.cons_ne_nil _ _), Option.map_map]
      split
      · rfl
      · rfl
    · simp only [if_neg hid, if_true]

theorem forEach_sendItem (company : Nat) :
    ∀ (items : List PackageSkuItem) (s : DispatchDb), Packed id n s →
      (∀ item ∈ items, item ∈ s.warehouse.packageSkuItems ∧ item.assignStatus ≠ .finished) →
      (items.map PackageSkuItem.id).Nodup →
      Scanned id n (reached s items) s ((forEach items (sendItem (some company))).run s).2 := by
  intro items
  induction items with
  | nil =>
    intro s hpacked _ _
    exact ⟨hpacked, fun h => h, by simp [reached, own, count], by simp [reached, own]⟩
  | cons item items ih =>
    intro s hpacked hitems hnodup
    obtain ⟨hnot, hnodup⟩ := List.nodup_cons.mp hnodup
    obtain ⟨hitem, hstatus⟩ := hitems item List.mem_cons_self
    obtain ⟨r, t, hrun, hone, hok⟩ := sendItem_spec company item s
    have hfirst : Scanned id n [item] s t := Scanned.one hpacked hitem hstatus hone
    unfold reached
    rw [forEach_cons, bind_run, hrun]
    cases r with
    | error e =>
      rw [if_neg fun h => nomatch hok.mpr h]
      exact hfirst
    | ok u =>
      rw [if_pos (hok.mp rfl)]
      refine hfirst.cons hone.saleOrderIds ?_
      rw [← reached_congr s t hone.passes]
      refine ih t hfirst.packed ?_ hnodup
      intro other hother
      obtain ⟨hmem, hunsent⟩ := hitems other (List.mem_cons_of_mem item hother)
      refine ⟨hone.mem_of_ne hitem hmem fun heq => hnot ?_, hunsent⟩
      exact List.mem_map.mpr ⟨other, hother, heq⟩

theorem finishScanWeight_snd (subscribed : Except Exn Unit) (package : Nat) (s : DispatchDb) :
    ((finishScanWeight subscribed package).run s).2 =
      ((forEach (assignedItems s package [.assigned])
        (sendItem (s.packages package).logisticsCompany)).run
          (saved package { s.packages package with sysStatus := .waitCustomerReceive } s)).2 := by
  unfold finishScanWeight
  rw [gets_bind_run, modify_bind_run, gets_bind_run]
  change ((forEach (assignedItems s package [.assigned]) _ >>= _).run _).2 = _
  rw [bind_run]
  cases hloop : (forEach (assignedItems s package [.assigned])
      (sendItem (s.packages package).logisticsCompany)).run
        (saved package { s.packages package with sysStatus := .waitCustomerReceive } s) with
  | mk r t =>
    cases r with
    | error e => rfl
    | ok u =>
      dsimp only
      rw [raiseIf_bind_run]
      split
      · rfl
      · cases subscribed <;> rfl

theorem forEach_sendItem_none (items : List PackageSkuItem) (s : DispatchDb) :
    ((forEach items (sendItem none)).run s).2 = s := by
  cases items with
  | nil => rfl
  | cons item items =>
    rw [forEach_cons]
    unfold sendItem
    rfl

theorem nodup_assignedItems (s : DispatchDb) (package : Nat) (statuses : List AssignStatus) :
    ((assignedItems s package statuses).map PackageSkuItem.id).Nodup :=
  s.warehouse.packageSkuItems.nodup_pk_filter _

theorem mem_assignedItems {package : Nat} {statuses : List AssignStatus}
    (h : item ∈ assignedItems s package statuses) :
    item ∈ s.warehouse.packageSkuItems ∧ item.assignStatus ∈ statuses := by
  obtain ⟨hmem, hitem⟩ := List.mem_filter.mp h
  exact ⟨hmem, (of_decide_eq_true hitem).2⟩

theorem finishScanWeight_scanned (subscribed : Except Exn Unit) (package : Nat)
    (hpacked : Packed id n s) :
    Scanned id n (scanned s package) s ((finishScanWeight subscribed package).run s).2 := by
  rw [finishScanWeight_snd]
  generalize hrow : ({ s.packages package with
    sysStatus := .waitCustomerReceive } : PackageRow) = row
  have hsaved : Packed id n (saved package row s) := ⟨hpacked.total, hpacked.normal⟩
  unfold scanned
  cases hcompany : (s.packages package).logisticsCompany with
  | none =>
    rw [if_pos rfl, forEach_sendItem_none]
    exact ⟨hsaved, fun hunique => hunique, (add_zero _).symm, rfl⟩
  | some company =>
    rw [if_neg (Option.some_ne_none company)]
    have hloop := forEach_sendItem company (assignedItems s package [.assigned])
      (saved package row s) hsaved (by
        intro item hitem
        obtain ⟨hmem, hstatus⟩ := mem_assignedItems hitem
        rw [List.mem_singleton] at hstatus
        exact ⟨hmem, by rw [hstatus]; decide⟩) (nodup_assignedItems s package _)
    have hreached : reached (saved package row s) (assignedItems s package [.assigned]) =
        reached s (assignedItems s package [.assigned]) :=
      reached_congr s (saved package row s) (fun _ => rfl) _
    rw [hreached] at hloop
    exact ⟨hloop.packed, hloop.unique, hloop.sent, hloop.order⟩

theorem Packed.sent_le (h : Packed id n s) : s.hasSentNum id ≤ n :=
  (hasSentNum_le_total s id).trans_eq h.total

theorem law_iff {order : SaleOrder} (horder : s.saleOrders id = some order)
    (hpacked : Packed id n s) :
    Law id n s ↔ order.num = n ∧
      ((order.status = .waitSellerSendGoods ∧ s.hasSentNum id < n) ∨
        (order.status = .waitBuyerConfirmGoods ∧ s.hasSentNum id = n)) := by
  have hle := hpacked.sent_le
  unfold Law DispatchDb.needSendNum
  constructor
  · rintro ⟨order', horder', hnum, hstatus, hneed⟩
    obtain rfl : order = order' := Option.some.inj (horder.symm.trans horder')
    refine ⟨hnum, ?_⟩
    by_cases hsent : s.hasSentNum id = n
    · exact .inr ⟨hstatus.mpr hsent, hsent⟩
    · refine .inl ⟨?_, by omega⟩
      by_contra hwaiting
      rw [if_neg hwaiting] at hneed
      omega
  · rintro ⟨hnum, hcases⟩
    refine ⟨order, horder, hnum, ?_⟩
    rcases hcases with ⟨hstatus, hsent⟩ | ⟨hstatus, hsent⟩
    · rw [hstatus, if_pos rfl, hnum]
      exact ⟨⟨fun h => (nomatch h), fun h => by omega⟩, rfl⟩
    · rw [hstatus, if_neg (by decide)]
      exact ⟨⟨fun _ => hsent, fun _ => rfl⟩, by omega⟩

theorem law_told {order : SaleOrder} (horder : s.saleOrders id = some order)
    (hlaw : Law id n s) (hpacked : Packed id n s) (hpacked' : Packed id n s')
    (htold : s'.saleOrders id = some order.toSent) :
    Law id n s' ↔ s'.hasSentNum id = n := by
  rw [law_iff htold hpacked']
  have hnum := ((law_iff horder hpacked).mp hlaw).1
  constructor
  · rintro ⟨-, ⟨hstatus, -⟩ | ⟨-, hsent⟩⟩
    · cases hstatus
    · exact hsent
  · intro hsent
    exact ⟨hnum, .inr ⟨rfl, hsent⟩⟩

theorem Scanned.law_iff {items : List PackageSkuItem} (h : Scanned id n items s s')
    (hpacked : Packed id n s) (hlaw : Law id n s) :
    Law id n s' ↔ own s id items = [] ∨ s.hasSentNum id + count (own s id items) = n := by
  have horders := hlaw
  obtain ⟨order, horder, -⟩ := horders
  by_cases hnone : own s id items = []
  · have hsame := h.order
    rw [if_pos hnone, horder] at hsame
    have hsent : s'.hasSentNum id = s.hasSentNum id := by
      rw [h.sent, hnone]
      exact add_zero _
    rw [Dispatch.law_iff hsame h.packed, hsent, ← Dispatch.law_iff horder hpacked]
    exact ⟨fun _ => .inl hnone, fun _ => hlaw⟩
  · have htold := h.order
    rw [if_neg hnone, horder, Option.map_some] at htold
    rw [law_told horder hlaw hpacked h.packed htold, h.sent]
    exact (or_iff_right hnone).symm

/-! ## A third party -/

theorem finishThirdSend_run {warehouse : WarehouseDb}
    (hitem : item ∈ warehouse.packageSkuItems)
    (hstatus : item.assignStatus ∈ [AssignStatus.assigned, .virtualAssigned]) :
    ∃ stocks, (finishThirdSend item).run warehouse = (.ok (), { warehouse with
      packageSkuItems := warehouse.packageSkuItems.save item.toSent
      skuStocks := stocks }) := by
  have hassigned : item.assignStatus ∈ [AssignStatus.virtualAssigned, .assigned] :=
    (List.Perm.swap _ _ _).mem_iff.mp hstatus
  have hrow := Table.update_eq_save hitem fun row : PackageSkuItem =>
    { row with assignStatus := .finished, status := .sent }
  unfold finishThirdSend
  rw [if_pos hassigned, modify_run]
  refine ⟨Function.update warehouse.skuStocks item.skuId
    (Function.update (warehouse.skuStocks item.skuId) .postNum
      (warehouse.skuStocks item.skuId .postNum + item.num)), ?_⟩
  change _ = (Except.ok (), { warehouse with
    packageSkuItems := warehouse.packageSkuItems.save (Row.withPk (Row.pk item)
      { item with assignStatus := .finished, status := .sent })
    skuStocks := _ })
  rw [← hrow]
  rfl

/-- An item that a third party has sent, with its order told if it was all that was left. -/
structure ThirdSent (item : PackageSkuItem) (s s' : DispatchDb) : Prop
    extends Dispatched item s s' where
  orders : ∀ id order, s.saleOrders id = some order → s'.saleOrders id =
    if s.saleOrderIds item.id = some id ∧ s.needSendNum id order = item.num then
      some order.toSent
    else some order

theorem thirdSendItem_spec (hitem : item ∈ s.warehouse.packageSkuItems)
    (hstatus : item.assignStatus ∈ [AssignStatus.assigned, .virtualAssigned]) :
    ∃ r s', (thirdSendItem item).run s = (r, s') ∧
      ((s' = s ∧ r ≠ .ok ()) ∨ ThirdSent item s s') := by
  unfold thirdSendItem
  cases horder : s.saleOrder item with
  | none =>
    refine ⟨.error .doesNotExist, s, ?_, .inl ⟨rfl, fun h => (nomatch h)⟩⟩
    simp only [getOr_bind_run, horder]
  | some found =>
    obtain ⟨other, order⟩ := found
    obtain ⟨hid, hfound⟩ : s.saleOrderIds item.id = some other ∧
        s.saleOrders other = some order := by
      unfold DispatchDb.saleOrder at horder
      obtain ⟨id, hid, hmap⟩ := Option.bind_eq_some_iff.mp horder
      obtain ⟨order', hfound, heq⟩ := Option.map_eq_some_iff.mp hmap
      obtain ⟨rfl, rfl⟩ := Prod.mk.inj heq
      exact ⟨hid, hfound⟩
    obtain ⟨stocks, hsent⟩ := finishThirdSend_run hitem hstatus
    simp only [getOr_bind_run, horder, gets_bind_run]
    unfold inWarehouse
    rw [zoom_bind_run, hsent]
    dsimp only
    by_cases hall : s.needSendNum other order = item.num
    · rw [if_pos (decide_eq_true hall), modify_bind_run]
      obtain ⟨r, skus, hdec, -, -⟩ := decProductSku_run (DispatchDb.setSaleOrder
        { s with warehouse := { s.warehouse with
            packageSkuItems := s.warehouse.packageSkuItems.save item.toSent
            skuStocks := stocks } } other order.toSent) item
      refine ⟨r, _, hdec, .inr ⟨⟨rfl, rfl⟩, ?_⟩⟩
      intro id order' horder'
      change Function.update s.saleOrders other (some order.toSent) id = _
      by_cases heq : id = other
      · subst heq
        obtain rfl : order = order' := Option.some.inj (hfound.symm.trans horder')
        rw [Function.update_self, if_pos ⟨hid, hall⟩]
      · rw [Function.update_of_ne heq, if_neg fun h => heq ?_, horder']
        exact Option.some.inj (h.1.symm.trans hid)
    · rw [if_neg fun h => hall (of_decide_eq_true h)]
      obtain ⟨r, skus, hdec, -, -⟩ := decProductSku_run
        { s with warehouse := { s.warehouse with
            packageSkuItems := s.warehouse.packageSkuItems.save item.toSent
            skuStocks := stocks } } item
      refine ⟨r, _, hdec, .inr ⟨⟨rfl, rfl⟩, ?_⟩⟩
      intro id order' horder'
      change s.saleOrders id = _
      rw [horder', if_neg]
      rintro ⟨hown, hneed⟩
      obtain rfl : other = id := Option.some.inj (hid.symm.trans hown)
      obtain rfl : order = order' := Option.some.inj (hfound.symm.trans horder')
      exact hall hneed

theorem ThirdSent.law (h : ThirdSent item s s') (hpacked : Packed id n s) (hlaw : Law id n s)
    (hitem : item ∈ s.warehouse.packageSkuItems) (hstatus : item.assignStatus ≠ .finished) :
    Law id n s' := by
  have hlaw' := hlaw
  obtain ⟨order, horder, -⟩ := hlaw'
  have hpacked' := h.packed hitem hpacked
  have hle := hpacked'.sent_le
  have hsent : s'.hasSentNum id = s.hasSentNum id +
      if s.saleOrderIds item.id = some id then (item.num : Int) else 0 :=
    h.hasSentNum hitem hstatus
  have horder' := h.orders id order horder
  obtain ⟨hnum, hcases⟩ := (law_iff horder hpacked).mp hlaw
  by_cases hown : s.saleOrderIds item.id = some id
  · rw [if_pos hown] at hsent
    by_cases hall : s.needSendNum id order = item.num
    · rw [if_pos ⟨hown, hall⟩] at horder'
      rw [law_told horder hlaw hpacked hpacked' horder']
      unfold DispatchDb.needSendNum at hall
      rcases hcases with ⟨hwaiting, hless⟩ | ⟨hstatus, hfull⟩
      · rw [if_pos hwaiting] at hall
        omega
      · omega
    · rw [if_neg fun h => hall h.2] at horder'
      rw [law_iff horder' hpacked']
      refine ⟨hnum, ?_⟩
      unfold DispatchDb.needSendNum at hall
      rcases hcases with ⟨hwaiting, hless⟩ | ⟨hstatus, hfull⟩
      · rw [if_pos hwaiting] at hall
        exact .inl ⟨hwaiting, by omega⟩
      · exact .inr ⟨hstatus, by omega⟩
  · rw [if_neg hown, add_zero] at hsent
    rw [if_neg fun h => hown h.1] at horder'
    rw [law_iff horder' hpacked', hsent]
    exact ⟨hnum, hcases⟩

theorem forEach_thirdSendItem :
    ∀ (items : List PackageSkuItem) (s : DispatchDb), Packed id n s →
      (∀ item ∈ items, item ∈ s.warehouse.packageSkuItems ∧
        item.assignStatus ∈ [AssignStatus.assigned, .virtualAssigned]) →
      (items.map PackageSkuItem.id).Nodup →
      Packed id n ((forEach items thirdSendItem).run s).2 ∧
        (Law id n s → Law id n ((forEach items thirdSendItem).run s).2) ∧
        (Unique id s → Unique id ((forEach items thirdSendItem).run s).2) := by
  intro items
  induction items with
  | nil => exact fun s hpacked _ _ => ⟨hpacked, fun hlaw => hlaw, fun hunique => hunique⟩
  | cons item items ih =>
    intro s hpacked hitems hnodup
    obtain ⟨hnot, hnodup⟩ := List.nodup_cons.mp hnodup
    obtain ⟨hitem, hstatus⟩ := hitems item List.mem_cons_self
    have hunsent : item.assignStatus ≠ .finished := by
      rintro heq
      rw [heq] at hstatus
      exact absurd hstatus (by decide)
    obtain ⟨r, t, hrun, hresult⟩ := thirdSendItem_spec hitem hstatus
    rw [forEach_cons, bind_run, hrun]
    rcases hresult with ⟨rfl, hraised⟩ | hsent
    · cases r with
      | error e => exact ⟨hpacked, fun hlaw => hlaw, fun hunique => hunique⟩
      | ok u => exact absurd rfl hraised
    · have hpacked' := hsent.packed hitem hpacked
      have hlaw' : Law id n s → Law id n t := fun hlaw =>
        hsent.law hpacked hlaw hitem hunsent
      cases r with
      | error e => exact ⟨hpacked', hlaw', hsent.unique hitem⟩
      | ok u =>
        have hstay : ∀ other ∈ items, other ∈ t.warehouse.packageSkuItems ∧
            other.assignStatus ∈ [AssignStatus.assigned, .virtualAssigned] := by
          intro other hother
          obtain ⟨hmem, hother'⟩ := hitems other (List.mem_cons_of_mem item hother)
          refine ⟨hsent.mem_of_ne hitem hmem fun heq => hnot ?_, hother'⟩
          exact List.mem_map.mpr ⟨other, hother, heq⟩
        obtain ⟨hend, hlawEnd, hunique⟩ := ih t hpacked' hstay hnodup
        exact ⟨hend, fun h => hlawEnd (hlaw' h), fun h => hunique (hsent.unique hitem h)⟩

theorem finishThirdPackage_law (subscribed : Except Exn Unit) (company package : Nat)
    (hpacked : Packed id n s) :
    Packed id n ((finishThirdPackage subscribed company package).run s).2 ∧
      (Law id n s → Law id n ((finishThirdPackage subscribed company package).run s).2) ∧
      (Unique id s → Unique id ((finishThirdPackage subscribed company package).run s).2) := by
  have hloop := @forEach_thirdSendItem id n
    (assignedItems s package [.assigned, .virtualAssigned])
    (saved package ⟨.waitCustomerReceive, some company⟩ s)
    ⟨hpacked.total, hpacked.normal⟩ (fun item hitem => mem_assignedItems hitem)
    (nodup_assignedItems s package _)
  have hend : ((finishThirdPackage subscribed company package).run s).2 =
      ((forEach (assignedItems s package [.assigned, .virtualAssigned]) thirdSendItem).run
        (saved package ⟨.waitCustomerReceive, some company⟩ s)).2 := by
    unfold finishThirdPackage
    rw [modify_bind_run, gets_bind_run]
    change ((forEach (assignedItems s package _) _ >>= _).run _).2 = _
    rw [bind_run]
    split
    · next hrun =>
        rw [hrun]
        cases subscribed <;> rfl
    · next hrun => rw [hrun]
  rw [hend]
  exact hloop

theorem reached_sublist (s : DispatchDb) (items : List PackageSkuItem) :
    (reached s items).Sublist items := by
  induction items with
  | nil => exact List.Sublist.refl []
  | cons item items ih =>
    unfold reached
    split
    · exact ih.cons_cons item
    · exact (List.nil_sublist items).cons_cons item

theorem fits_of_unique (hpacked : Packed id n s) (hunique : Unique id s) (op : DispatchOp) :
    Fits id n s op := by
  cases op with
  | finishThirdPackage => trivial
  | finishScanWeight subscribed package =>
    change own s id (scanned s package) = [] ∨
      s.hasSentNum id + count (own s id (scanned s package)) = n
    unfold scanned
    split
    · exact .inl rfl
    have hsub : (own s id (reached s (assignedItems s package [.assigned]))).Sublist
        (assignedItems s package [.assigned]) :=
      List.filter_sublist.trans (reached_sublist s _)
    have hmem : ∀ item ∈ own s id (reached s (assignedItems s package [.assigned])),
        s.saleOrderIds item.id = some id := fun item hitem =>
      of_decide_eq_true (List.mem_filter.mp hitem).2
    have hids := (hsub.map PackageSkuItem.id).nodup (nodup_assignedItems s package _)
    cases hown : own s id (reached s (assignedItems s package [.assigned])) with
    | nil => exact .inl rfl
    | cons item items =>
      right
      rw [hown] at hsub hmem hids
      have hitem := hmem item List.mem_cons_self
      obtain ⟨hrow, hstatus⟩ := mem_assignedItems (hsub.subset List.mem_cons_self)
      have hnone : items = [] := by
        refine List.eq_nil_iff_forall_not_mem.mpr fun other hother => ?_
        have hmore := List.mem_cons_of_mem item hother
        obtain ⟨hrow', -⟩ := mem_assignedItems (hsub.subset hmore)
        have heq := hunique other hrow' item hrow (hmem other hmore) hitem
        exact (List.nodup_cons.mp hids).1 (List.mem_map.mpr ⟨other, hother, heq⟩)
      have hall : ∀ row ∈ s.warehouse.packageSkuItems, s.saleOrderIds row.id = some id →
          row = item := fun row hmem' hid =>
        Table.pk_inj hmem' hrow (hunique row hmem' item hrow hid hitem)
      have hsent : s.hasSentNum id = 0 := by
        refine Table.sum_eq_zero fun row hmem' => if_neg ?_
        rintro ⟨hid, hfinished⟩
        rw [hall row hmem' hid, List.mem_singleton.mp hstatus] at hfinished
        cases hfinished
      have htotal : total s id = item.num := by
        rw [← Table.sum_single hrow (item.num : Int)]
        refine Table.sum_congr fun row hmem' => ?_
        by_cases hid : s.saleOrderIds row.id = some id
        · rw [hall row hmem' hid, if_pos ⟨hitem, rfl⟩, if_pos rfl]
        · rw [if_neg fun h => hid h.1, if_neg fun h => hid ?_]
          exact (congrArg s.saleOrderIds h).trans hitem
      rw [hnone, hsent, ← hpacked.total, htotal, zero_add]
      exact (add_zero _)

theorem exec_packed (op : DispatchOp) (hpacked : Packed id n s) :
    Packed id n (op.exec s) ∧ (Unique id s → Unique id (op.exec s)) := by
  cases op with
  | finishScanWeight subscribed package =>
    have hscanned := finishScanWeight_scanned subscribed package hpacked
    exact ⟨hscanned.packed, hscanned.unique⟩
  | finishThirdPackage subscribed company package =>
    have hthird := finishThirdPackage_law subscribed company package hpacked
    exact ⟨hthird.1, hthird.2.2⟩

theorem exec_law_iff (op : DispatchOp) (hpacked : Packed id n s) (hlaw : Law id n s) :
    Law id n (op.exec s) ↔ Fits id n s op := by
  cases op with
  | finishScanWeight subscribed package =>
    exact (finishScanWeight_scanned subscribed package hpacked).law_iff hpacked hlaw
  | finishThirdPackage subscribed company package =>
    exact iff_of_true ((finishThirdPackage_law subscribed company package hpacked).2.1 hlaw)
      trivial

theorem Waiting.law (h : Waiting id n s) : Law id n s :=
  (law_iff h.order h.toPacked).mpr ⟨rfl, .inl ⟨rfl, h.unsent⟩⟩

def piece (packageOrderId : Nat) : PackageSkuItem :=
  ⟨0, 1, 1, .normal, .waitpost, .assigned, some packageOrderId, none, 20170101000000, 1, true⟩

def piecesDb (packages : List Nat) : DispatchDb where
  warehouse :=
    { packageSkuItems := packages.foldl (fun items package => items.insert (piece package))
        Table.empty
      skuStocks := fun _ _ => 0
      totals := fun _ => ⟨0, 0, 0, 0⟩
      suppliers := fun _ => none
      purchaseOrders := Table.empty
      purchaseDetails := Table.empty
      purchaseArrangements := Table.empty
      shipments := [] }
  packages := fun _ => ⟨.waitScanWeight, some 1⟩
  saleOrderIds := fun _ => some 7
  saleOrders := fun id => if id = 7 then some ⟨packages.length, .waitSellerSendGoods⟩ else none
  tmallOrders := fun _ => none
  productSkus := fun _ => some ⟨5, 5⟩

theorem waiting_piecesDb : Waiting 7 2 (piecesDb [1, 2]) where
  total := by decide +kernel
  normal := by decide +kernel
  order := rfl
  unsent := by decide +kernel

end ShopManager.Warehouse.Dispatch
