import ShopManager.Warehouse.Model

/-!
# The life of a package item

The status methods of an item and the package methods that call them for the
items of a package.  Each status method saves the item first and the counters
after that; none but the cancellation looks at the status before.
-/

namespace ShopManager.Warehouse

open Library Library.Tx

namespace PackageSkuItem

def wareThird : Nat := 9
def wareSh : Nat := 1

def canMergeOrderWhsIds : List Nat := [1, 2, 3, 4, 5, 10]

/-! ## What the status methods write -/

def toBooked (key : PurchaseKey) (item : PackageSkuItem) : PackageSkuItem :=
  { item with status := .booked, purchaseOrderUnikey := some key }

/-- A virtual booking packs the item at once. -/
def toVirtualBooked (key : PurchaseKey) (package : Option Nat) (item : PackageSkuItem) :
    PackageSkuItem :=
  { item with
    status := .booked
    assignStatus := .virtualAssigned
    purchaseOrderUnikey := some key
    packageOrderId := package }

def toAssigned (item : PackageSkuItem) : PackageSkuItem :=
  { item with status := .assigned, assignStatus := .assigned }

def toNotAssigned (item : PackageSkuItem) : PackageSkuItem :=
  { item with status := .paid, assignStatus := .notAssigned, packageOrderId := none }

def toMerged (package : Nat) (item : PackageSkuItem) : PackageSkuItem :=
  { item with status := .merged, packageOrderId := some package }

def toWaitscan (item : PackageSkuItem) : PackageSkuItem := { item with status := .waitscan }

def toWaitpost (item : PackageSkuItem) : PackageSkuItem :=
  { item with status := .waitpost, assignStatus := .assigned }

def toSent (item : PackageSkuItem) : PackageSkuItem :=
  { item with status := .sent, assignStatus := .finished }

def toFinish (item : PackageSkuItem) : PackageSkuItem :=
  { item with status := .finish, assignStatus := .finished }

def toCancel (item : PackageSkuItem) : PackageSkuItem :=
  { item with status := .cancel, assignStatus := .canceled, packageOrderId := none }

def toReset (item : PackageSkuItem) : PackageSkuItem :=
  { item with status := .assigned, packageOrderId := none }

/-- What `PackageOrder.cancel` writes; the item stays in the package. -/
def toCanceledInPackage (item : PackageSkuItem) : PackageSkuItem :=
  { item with status := .cancel, assignStatus := .canceled }

def setStatusBooked (key : PurchaseKey) (item : PackageSkuItem) : WarehouseTx Unit := do
  save (item.toBooked key)
  SkuStock.setPsiBooked item.skuId item.num

/-- `package` is the one that `gen_package` finds or makes; only a normal order
gets one. -/
def setStatusVirtualBooked (key : PurchaseKey) (package : Nat) (item : PackageSkuItem) :
    WarehouseTx Unit := do
  save (item.toVirtualBooked key
    (if item.type = .normal then some package else item.packageOrderId))
  SkuStock.setPsiBooked item.skuId item.num

/-- With `save=True`; the purchase of the item is cancelled if it is not booked. -/
def setStatusBooked2Assigned (item : PackageSkuItem) : WarehouseTx Unit := do
  save item.toAssigned
  SkuStock.setPsiBooked2Assigned item.skuId item.num
  let pa ← gets fun s => PurchaseArrangement.ofItem s item
  match pa with
  | none => pure ()
  | some pa => if pa.initialBook then pure () else pa.cancel

def batchSetStatusAssigned (oids : List Nat) : WarehouseTx Unit := do
  modify fun s => { s with
    packageSkuItems := s.packageSkuItems.update (fun item => item.id ∈ oids) toAssigned }
  let pas ← gets fun s => s.purchaseArrangements.filter fun pa =>
    pa.oid ∈ oids ∧ pa.initialBook = false
  forEach pas PurchaseArrangement.cancel

/-- An item that is set aside no more is bought again. -/
def rebook (item : PackageSkuItem) : WarehouseTx Unit := do
  let pa ← gets fun s => PurchaseArrangement.ofItem s item
  match pa with
  | none => PurchaseArrangement.create item
  | some pa =>
      if pa.initialBook = false ∧ pa.effect = false then do
        let pa := { pa with effect := true }
        pa.save
        pa.generateOrder true
      else pure ()

def setStatusNotAssigned (item : PackageSkuItem) : WarehouseTx Unit := do
  save item.toNotAssigned
  SkuStock.setPsiNotAssigned item.skuId item.num
  rebook item.toNotAssigned

def setStatusWaitscan (item : PackageSkuItem) : WarehouseTx Unit := do
  save item.toWaitscan
  SkuStock.setPsiWaitscan item.skuId item.num

def setStatusWaitpost (item : PackageSkuItem) : WarehouseTx Unit := do
  save item.toWaitpost
  SkuStock.setPsiWaitpost item.skuId item.num

def ship (id : Nat) : WarehouseTx Unit :=
  modify fun s => { s with shipments := s.shipments ++ [id] }

def setStatusSent (item : PackageSkuItem) : WarehouseTx Unit := do
  save item.toSent
  ship item.id
  SkuStock.setPsiSent item.skuId item.num

def setStatusFinish (item : PackageSkuItem) : WarehouseTx Unit := do
  save item.toFinish
  SkuStock.setPsiFinish item.skuId item.num

def setStatusCancel (item : PackageSkuItem) : WarehouseTx Unit := do
  raiseIf (item.assignStatus = .canceled) (.exception "已取消的包裹商品不能再次取消")
  raiseIf (item.assignStatus = .finished) (.exception "已发货的包裹商品不能取消")
  let pa ← gets fun s => PurchaseArrangement.ofItem s item
  match pa with
  | none => pure ()
  | some pa => if pa.initialBook then pure () else pa.cancel
  save item.toCancel
  SkuStock.setPsiCancel item.skuId item.status

/-- What the item of a paid order is made of. -/
structure NewOrder where
  skuId : Nat
  num : Nat
  payTime : Nat
  wareBy : Nat
  deriving DecidableEq, Repr

def ofOrder (order : NewOrder) : PackageSkuItem where
  id := 0
  skuId := order.skuId
  num := order.num
  type := .normal
  status := .paid
  assignStatus := .notAssigned
  packageOrderId := none
  purchaseOrderUnikey := none
  payTime := order.payTime
  wareBy := order.wareBy
  initAssigned := false

def toInitAssigned (item : PackageSkuItem) : PackageSkuItem :=
  { item with
    status := .assigned
    assignStatus := .assigned
    initAssigned := true
    wareBy := if item.wareBy = wareThird then wareSh else item.wareBy }

def canAssign (stock : SkuStock) (num : Nat) : Bool :=
  (num : Int) ≤ stock.realtimeQuantity - stock .assignNum

/-- A `save` of a new item. -/
def insert (item : PackageSkuItem) : WarehouseTx PackageSkuItem := do
  let stored ← gets fun s => s.packageSkuItems.stored item
  modify fun s => { s with packageSkuItems := s.packageSkuItems.insert item }
  pure stored

def create (order : NewOrder) : WarehouseTx Unit := do
  let skuItem := ofOrder order
  let skuStock ← SkuStock.get order.skuId
  if canAssign skuStock order.num then do
    let stored ← insert skuItem.toInitAssigned
    SkuStock.setPsiInitAssigned stored.skuId stored.num
  else do
    let stored ← insert skuItem
    SkuStock.setPsiInitPaid stored.skuId stored.num
    PurchaseArrangement.create stored

/-- `package` is the one that `gen_new_package_id` finds.  The counters follow for
orders of customers, not for what goes back to a supplier; a parcel made by hand
is not merged. -/
def merge (package : Nat) (item : PackageSkuItem) : WarehouseTx Unit :=
  if item.packageOrderId.isSome then pure ()
  else
    match item.type with
    | .normal | .tianmao => do
        save (item.toMerged package)
        SkuStock.setPsiMerged item.skuId item.num
    | .returnGoods | .returnOutOrder | .returnInferior => save (item.toMerged package)
    | .byhand => pure ()

/-- The types that one run of `batch_merge` merges. -/
def mergeTypes (type : PsiType) : List PsiType :=
  if type ∈ [PsiType.normal, .tianmao] then [type]
  else [.returnGoods, .returnOutOrder, .returnInferior]

def batchMerge (type : PsiType) (packageOf : Nat → Nat) : WarehouseTx Unit := do
  let psiIds ← gets fun s => (s.packageSkuItems.filter fun item =>
    item.status = .assigned ∧ item.type ∈ mergeTypes type ∧
      item.wareBy ∈ canMergeOrderWhsIds).map PackageSkuItem.id
  forEach psiIds fun psiId => do
    let psi ← gets fun s => (s.packageSkuItems.get? psiId).filter fun item =>
      item.status = .assigned
    match psi with
    | none => pure ()
    | some psi => psi.merge (packageOf psiId)

/-- A sent item cannot change its address; the others are merged again. -/
def resetAssignPackage (item : PackageSkuItem) : WarehouseTx Unit := do
  raiseIf (item.assignStatus = .finished) (.exception "已发货单无法修改地址")
  if item.packageOrderId.isNone then pure ()
  else do
    save item.toReset
    let stock ← SkuStock.get item.skuId
    let stock ← gets fun s => SkuStock.restat s item.skuId SkuStock.statColumns stock
    SkuStock.save item.skuId none stock

/-- What a supplier sends himself; the whole is one transaction. -/
def finishThirdSend (item : PackageSkuItem) : WarehouseTx Unit :=
  if item.assignStatus ∈ [AssignStatus.virtualAssigned, .assigned] then
    modify fun s => { s with
      packageSkuItems := s.packageSkuItems.update (fun r => r.id = item.id) toSent
      shipments := s.shipments ++ [item.id]
      skuStocks := Function.update s.skuStocks item.skuId fun column =>
        if column = .postNum then s.skuStocks item.skuId column + item.num
        else s.skuStocks item.skuId column }
  else pure ()

end PackageSkuItem

namespace PackageOrder

open PackageSkuItem

def packageSkuItems (s : WarehouseDb) (package : Nat) : List PackageSkuItem :=
  s.packageSkuItems.filter fun item => item.packageOrderId = some package

def forItems (package : Nat) (p : PackageSkuItem → Bool)
    (method : PackageSkuItem → WarehouseTx Unit) : WarehouseTx Unit := do
  let items ← gets fun s => (packageSkuItems s package).filter p
  forEach items method

def printPicking (package : Nat) : WarehouseTx Unit :=
  forItems package (fun _ => true) setStatusWaitscan

def scancheck (package : Nat) : WarehouseTx Unit :=
  forItems package (fun _ => true) setStatusWaitpost

def scanweight (package : Nat) : WarehouseTx Unit :=
  forItems package (fun item => item.assignStatus = .assigned) setStatusSent

/-- The order behind an item is marked as sent; the detail of a return has no
method for that. -/
def finishScanWeight (package : Nat) : WarehouseTx Unit :=
  forItems package (fun item => item.assignStatus = .assigned) fun item => do
    setStatusSent item
    raiseIf (item.type ∈ [PsiType.returnGoods, .returnOutOrder, .returnInferior])
      .attributeError

def finish (package : Nat) : WarehouseTx Unit :=
  forItems package (fun item => item.assignStatus = .finished) setStatusFinish

def cancel (package : Nat) : WarehouseTx Unit :=
  modify fun s => { s with
    packageSkuItems := s.packageSkuItems.update
      (fun item => item.packageOrderId = some package ∧
        item.assignStatus ∈ [AssignStatus.notAssigned, .assigned]) toCanceledInPackage }

end PackageOrder

namespace PurchaseOrder

open PackageSkuItem

/-- The items that are bought with a purchase order; `third` says that the
supplier sends them himself. -/
def book (key : PurchaseKey) (third : Option Nat) : WarehouseTx Unit :=
  atomic do
    modify fun s => { s with
      purchaseOrders := s.purchaseOrders.update (fun order => order.uniKey = key)
        fun order => { order with status := .booked }
      purchaseDetails := s.purchaseDetails.update
        (fun detail => detail.purchaseOrderUnikey = key)
        fun detail => { detail with status := .booked }
      purchaseArrangements := s.purchaseArrangements.update
        (fun pa => pa.purchaseOrderUnikey = some key ∧ pa.effect = true)
        fun pa => { pa with initialBook := true } }
    let oids ← gets fun s => (s.purchaseArrangements.filter fun pa =>
      pa.purchaseOrderUnikey = some key ∧ pa.effect = true).map PurchaseArrangement.oid
    let items ← gets fun s => s.packageSkuItems.filter fun item => item.id ∈ oids
    forEach items fun item =>
      match third with
      | none => item.setStatusBooked key
      | some package => item.setStatusVirtualBooked key package

end PurchaseOrder

end ShopManager.Warehouse
