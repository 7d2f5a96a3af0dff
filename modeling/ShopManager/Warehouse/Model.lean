import Mathlib.Data.List.Sort
import ShopManager.Basic
import ShopManager.Library.Table
import ShopManager.Library.Transaction

/-!
# Package items and the stock of a SKU

A paid order becomes an item that is bought, set aside, packed and sent.  The
row of its SKU holds what is in the warehouse, what of it is set aside, and a
counter for each status of the items; most writes of an item recompute the
counters that they name.
-/

namespace ShopManager.Warehouse

open Library Library.Tx

/-- `PSI_STATUS`. -/
inductive PsiStatus where
  | paid | prepareBook | booked | ready | thirdSend | assigned | merged | waitscan
  | waitpost | sent | finish | cancel | holding
  deriving DecidableEq, Repr

/-- `PSI_TYPE`. -/
inductive PsiType where
  | normal | byhand | returnGoods | returnOutOrder | returnInferior | tianmao
  deriving DecidableEq, Repr

inductive AssignStatus where
  | notAssigned | assigned | finished | canceled | virtualAssigned
  deriving DecidableEq, Repr

/-- The key of a purchase order, `supplier-number`. -/
structure PurchaseKey where
  supplierId : Nat
  number : Nat
  deriving DecidableEq, Repr

/-- An item and the package it is in.  Orders number their items one to one, so
the id stands for `oid` as well. -/
structure PackageSkuItem where
  id : Nat
  skuId : Nat
  num : Nat
  type : PsiType
  status : PsiStatus
  assignStatus : AssignStatus
  packageOrderId : Option Nat
  purchaseOrderUnikey : Option PurchaseKey
  payTime : Nat
  wareBy : Nat
  initAssigned : Bool
  deriving DecidableEq, Repr

instance : Row PackageSkuItem where
  pk := PackageSkuItem.id
  withPk n item := { item with id := n }

/-- The columns of a stock row that the item code reads or writes.  No row has
columns for `cancel` and `holding`. -/
inductive Column where
  | psi (status : PsiStatus)
  | assignNum
  | postNum
  | soldNum
  | adjustQuantity
  | historyQuantity
  | inboundQuantity
  | returnQuantity
  | rgQuantity
  deriving DecidableEq, Repr

abbrev SkuStock := Column → Int

inductive PurchaseStatus where
  | opened | booked | finished | canceled
  deriving DecidableEq, Repr

structure PurchaseOrder where
  id : Nat
  uniKey : PurchaseKey
  status : PurchaseStatus
  deriving DecidableEq, Repr

instance : Row PurchaseOrder where
  pk := PurchaseOrder.id
  withPk n order := { order with id := n }

/-- The purchase of one SKU in a purchase order. -/
structure PurchaseDetail where
  id : Nat
  skuId : Nat
  purchaseOrderUnikey : PurchaseKey
  status : PurchaseStatus
  deriving DecidableEq, Repr

instance : Row PurchaseDetail where
  pk := PurchaseDetail.id
  withPk n detail := { detail with id := n }

/-- The purchase of one item; `effect` is `EFFECT` or `CANCEL`.  A SKU without
supplier has the key `s0`, here `none`. -/
structure PurchaseArrangement where
  id : Nat
  oid : Nat
  skuId : Nat
  purchaseOrderUnikey : Option PurchaseKey
  effect : Bool
  initialBook : Bool
  genOrder : Bool
  deriving DecidableEq, Repr

instance : Row PurchaseArrangement where
  pk := PurchaseArrangement.id
  withPk n pa := { pa with id := n }

/-- What the tables of deliveries, returns and adjustments add up to for a SKU. -/
structure Totals where
  adjustQuantity : Int
  inboundQuantity : Int
  returnQuantity : Int
  rgQuantity : Int
  deriving DecidableEq, Repr

/-- The tables of the warehouse code.  Every SKU has its stock row.  `shipments`
is no table: it lists the items as they are sent. -/
structure WarehouseDb where
  packageSkuItems : Table PackageSkuItem
  skuStocks : Nat → SkuStock
  totals : Nat → Totals
  suppliers : Nat → Option Nat
  purchaseOrders : Table PurchaseOrder
  purchaseDetails : Table PurchaseDetail
  purchaseArrangements : Table PurchaseArrangement
  shipments : List Nat

abbrev WarehouseTx (α : Type) := Tx WarehouseDb Exn α

/-! ## The stock row -/

/-- `PRODUCT_SKU_STATS_COMMIT_TIME`, in digits from the year to the second. -/
def commitTime : Nat := 20160420010000

def statSign : Bool := true

namespace SkuStock

def realtimeQuantity (stock : SkuStock) : Int :=
  stock .historyQuantity + stock .inboundQuantity + stock .adjustQuantity +
    stock .returnQuantity - stock .postNum - stock .rgQuantity

/-- The counters of the items that `restat` knows. -/
def itemColumns : List Column :=
  [.psi .paid, .psi .prepareBook, .psi .booked, .psi .thirdSend, .psi .assigned,
    .psi .merged, .psi .waitscan, .psi .waitpost, .psi .sent, .psi .finish, .assignNum,
    .postNum, .soldNum]

/-- What `restat` recomputes when it is not told what. -/
def statColumns : List Column :=
  itemColumns ++ [.adjustQuantity, .inboundQuantity, .returnQuantity, .rgQuantity]

def stockTypes : List PsiType := [.normal, .byhand, .returnGoods, .tianmao]

/-- The filter of a counter.  The `sold_num` is that of a product with stock;
that of a virtual one comes from its orders, which have no items. -/
def counts (column : Column) (item : PackageSkuItem) : Bool :=
  match column with
  | .psi status =>
      commitTime < item.payTime ∧ item.status = status ∧
        item.type ∉ [PsiType.returnInferior, PsiType.returnOutOrder] ∧
        item.status ≠ .cancel
  | .assignNum =>
      item.type ∈ stockTypes ∧ commitTime < item.payTime ∧ item.assignStatus = .assigned
  | .postNum =>
      item.type ∈ stockTypes ∧ commitTime < item.payTime ∧ item.assignStatus = .finished
  | .soldNum =>
      item.type = .normal ∧ commitTime < item.payTime ∧
        item.assignStatus ∈ [AssignStatus.finished, .notAssigned, .assigned, .virtualAssigned]
  | _ => false

def weight (column : Column) (item : PackageSkuItem) : Int :=
  if counts column item then item.num else 0

def statValue (s : WarehouseDb) (sku : Nat) : Column → Int
  | .adjustQuantity => (s.totals sku).adjustQuantity
  | .inboundQuantity => (s.totals sku).inboundQuantity
  | .returnQuantity => (s.totals sku).returnQuantity
  | .rgQuantity => (s.totals sku).rgQuantity
  | column =>
      s.packageSkuItems.sum fun item => if item.skuId = sku then weight column item else 0

def restat (s : WarehouseDb) (sku : Nat) (needStat : List Column) (stock : SkuStock) :
    SkuStock := fun column =>
  if column ∈ needStat ∧ column ∈ statColumns then statValue s sku column else stock column

/-- `save(update_fields=…)`, or a save of the whole row. -/
def save (sku : Nat) (updateFields : Option (List Column)) (stock : SkuStock) :
    WarehouseTx Unit :=
  modify fun s => { s with
    skuStocks := Function.update s.skuStocks sku fun column =>
      if updateFields.all fun fields => column ∈ fields then stock column
      else s.skuStocks sku column }

def get (sku : Nat) : WarehouseTx SkuStock := gets fun s => s.skuStocks sku

def statSave (sku : Nat) (updateFields : List Column) (stock : SkuStock) :
    WarehouseTx Unit := do
  let stock ← gets fun s => if statSign then restat s sku updateFields stock else stock
  save sku (some updateFields) stock

/-- The `set_psi_*` methods: some counters go up or down by the number of pieces. -/
def setPsi (moves : List (Column × Int)) (sku num : Nat) : WarehouseTx Unit := do
  let stock ← get sku
  let moved : SkuStock := fun column =>
    stock column + ((moves.filter fun move => move.1 = column).map fun move =>
      move.2 * (num : Int)).sum
  statSave sku (moves.map Prod.fst) moved

def setPsiInitPaid : Nat → Nat → WarehouseTx Unit :=
  setPsi [(.soldNum, 1), (.psi .paid, 1)]

def setPsiPrepareBook : Nat → Nat → WarehouseTx Unit :=
  setPsi [(.psi .paid, -1), (.psi .prepareBook, 1)]

def setPsiBooked : Nat → Nat → WarehouseTx Unit :=
  setPsi [(.psi .booked, 1), (.psi .prepareBook, -1)]

def setPsiInitAssigned : Nat → Nat → WarehouseTx Unit :=
  setPsi [(.soldNum, 1), (.psi .assigned, 1), (.assignNum, 1)]

def setPsiBooked2Assigned : Nat → Nat → WarehouseTx Unit :=
  setPsi [(.assignNum, 1), (.psi .booked, -1), (.psi .assigned, 1)]

def setPsiNotAssigned : Nat → Nat → WarehouseTx Unit :=
  setPsi [(.assignNum, -1), (.psi .paid, 1), (.psi .assigned, -1)]

def setPsiMerged : Nat → Nat → WarehouseTx Unit :=
  setPsi [(.psi .merged, 1), (.psi .assigned, -1)]

def setPsiWaitscan : Nat → Nat → WarehouseTx Unit :=
  setPsi [(.psi .merged, -1), (.psi .waitscan, 1)]

def setPsiWaitpost : Nat → Nat → WarehouseTx Unit :=
  setPsi [(.psi .waitscan, -1), (.psi .waitpost, 1)]

def setPsiSent : Nat → Nat → WarehouseTx Unit :=
  setPsi [(.psi .waitpost, -1), (.psi .sent, 1), (.postNum, 1), (.assignNum, -1)]

def setPsiFinish : Nat → Nat → WarehouseTx Unit :=
  setPsi [(.psi .finish, 1), (.psi .sent, -1)]

/-- The counter of the old status is looked up on the flag `stat`, which has no
such attribute, and so is never among the fields. -/
def setPsiCancel (sku : Nat) (status : PsiStatus) : WarehouseTx Unit :=
  if status = .cancel then pure ()
  else do
    let stock ← get sku
    statSave sku [.assignNum, .soldNum] stock

end SkuStock

namespace PurchaseOrder

def genPurchaseOrderUnikey (s : WarehouseDb) (sku : Nat) : Option PurchaseKey :=
  (s.suppliers sku).map fun supplier =>
    ⟨supplier, (s.purchaseOrders.filter fun order =>
      order.uniKey.supplierId = supplier ∧ order.status ≠ .opened).length + 1⟩

/-- The order of a key is there after a `restat`; its totals are left out. -/
def restat (key : PurchaseKey) : WarehouseTx Unit :=
  modify fun s =>
    if (s.purchaseOrders.first fun order => order.uniKey = key).isSome then s
    else { s with purchaseOrders := s.purchaseOrders.insert ⟨0, key, .opened⟩ }

end PurchaseOrder

namespace PurchaseDetail

def find (s : WarehouseDb) (sku : Nat) (key : PurchaseKey) : Option PurchaseDetail :=
  s.purchaseDetails.first fun detail => detail.skuId = sku ∧ detail.purchaseOrderUnikey = key

def create (sku : Nat) (key : PurchaseKey) : WarehouseTx Unit := do
  modify fun s => { s with purchaseDetails := s.purchaseDetails.insert ⟨0, sku, key, .opened⟩ }
  PurchaseOrder.restat key

end PurchaseDetail

namespace PackageSkuItem

def get (id : Nat) : WarehouseTx PackageSkuItem :=
  getOr .doesNotExist fun s => s.packageSkuItems.get? id

/-- `save` of an item that was read before. -/
def save (item : PackageSkuItem) : WarehouseTx Unit :=
  modify fun s => { s with packageSkuItems := s.packageSkuItems.save item }

def toPrepareBook (item : PackageSkuItem) : PackageSkuItem :=
  { item with status := .prepareBook }

def setStatusPrepareBook (item : PackageSkuItem) : WarehouseTx Unit := do
  save item.toPrepareBook
  SkuStock.setPsiPrepareBook item.skuId item.num

end PackageSkuItem

namespace PurchaseArrangement

/-- An `uni_key` is made of the purchase order and the item. -/
def create (item : PackageSkuItem) : WarehouseTx Unit := do
  let key ← gets fun s => PurchaseOrder.genPurchaseOrderUnikey s item.skuId
  let taken ← gets fun s => (s.purchaseArrangements.first fun pa =>
    pa.purchaseOrderUnikey = key ∧ pa.oid = item.id).isSome
  raiseIf (taken = true) .integrityError
  modify fun s => { s with
    purchaseArrangements := s.purchaseArrangements.insert
      ⟨0, item.id, item.skuId, key, item.assignStatus = .notAssigned, false, false⟩ }

def ofItem (s : WarehouseDb) (item : PackageSkuItem) : Option PurchaseArrangement :=
  (s.purchaseArrangements.filter fun pa => pa.oid = item.id).getLast?

def save (pa : PurchaseArrangement) : WarehouseTx Unit :=
  modify fun s => { s with purchaseArrangements := s.purchaseArrangements.save pa }

/-- The part of `generate_order` that both rounds share; `closed` is what happens
where the purchase of the SKU is not open any more. -/
def generateOrderWith (closed : PurchaseArrangement → WarehouseTx Unit)
    (pa : PurchaseArrangement) : WarehouseTx Unit :=
  match pa.purchaseOrderUnikey with
  | none => pure ()
  | some key => do
      modify fun s => { s with
        purchaseArrangements := s.purchaseArrangements.update (fun r => r.id = pa.id)
          fun r => { r with genOrder := true } }
      let detail ← gets fun s => PurchaseDetail.find s pa.skuId key
      match detail with
      | none => PurchaseDetail.create pa.skuId key
      | some detail =>
          if detail.status = .opened then PurchaseOrder.restat key else closed pa
      let skuitem ← PackageSkuItem.get pa.oid
      skuitem.setStatusPrepareBook

def raiseClosed (_ : PurchaseArrangement) : WarehouseTx Unit :=
  raise (.exception "PA对应的订货单已订货无法再订")

/-- The arrangement moves to an open purchase order, if it is not booked. -/
def resetPurchaseOrder (pa : PurchaseArrangement) : WarehouseTx PurchaseArrangement :=
  if pa.initialBook then pure pa
  else do
    let item ← PackageSkuItem.get pa.oid
    let key ← gets fun s => PurchaseOrder.genPurchaseOrderUnikey s item.skuId
    pure { pa with purchaseOrderUnikey := key, effect := true }

/-- Another arrangement has the purchase order and the item. -/
def uniKeyTaken (s : WarehouseDb) (pa : PurchaseArrangement) : Bool :=
  (s.purchaseArrangements.first fun r =>
    r.purchaseOrderUnikey = pa.purchaseOrderUnikey ∧ r.oid = pa.oid ∧ r.id ≠ pa.id).isSome

def retryOrder (pa : PurchaseArrangement) : WarehouseTx Unit := do
  let moved ← resetPurchaseOrder pa
  let taken ← gets fun s => uniKeyTaken s moved
  raiseIf (taken = true) .integrityError
  modify fun s => { s with
    purchaseArrangements := s.purchaseArrangements.update (fun r => r.id = pa.id)
      fun r => { r with
        purchaseOrderUnikey := moved.purchaseOrderUnikey, effect := moved.effect } }
  let pa ← getOr .doesNotExist fun s => s.purchaseArrangements.get? pa.id
  generateOrderWith raiseClosed pa

def generateOrder (pa : PurchaseArrangement) (retry : Bool) : WarehouseTx Unit :=
  generateOrderWith (if retry then retryOrder else raiseClosed) pa

/-- Only an arrangement that is not booked is cancelled. -/
def cancel (pa : PurchaseArrangement) : WarehouseTx Unit :=
  if pa.initialBook then pure ()
  else do
    save { pa with effect := false }
    match pa.purchaseOrderUnikey with
    | none => pure ()
    | some key => do
        let detail ← gets fun s => PurchaseDetail.find s pa.skuId key
        if detail.any fun detail => detail.status = .opened then PurchaseOrder.restat key
        else pure ()

end PurchaseArrangement

end ShopManager.Warehouse
