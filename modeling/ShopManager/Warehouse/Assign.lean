import ShopManager.Warehouse.Packet

/-!
# Setting stock aside

`assign` gives what is free of a SKU to items that wait for it, from the row as
it was read; `relase_assign` takes one item back where more is set aside than
there is.  The bulk branches count on the row in memory and save it whole.
-/

namespace ShopManager.Warehouse.SkuStock

open Library Library.Tx PackageSkuItem

/-- Whom `assign` and `relase_assign` are called for. -/
inductive Target where
  | psi (id : Nat)
  | orderlist (key : PurchaseKey)
  | all
  deriving DecidableEq, Repr

def free (stock : SkuStock) : Int := stock.realtimeQuantity - stock .assignNum

def fitting : Int → List PackageSkuItem → List PackageSkuItem
  | _, [] => []
  | nowNum, psi :: psis =>
      if (psi.num : Int) ≤ nowNum then psi :: fitting (nowNum - psi.num) psis
      else fitting nowNum psis

def fittingFirst : Int → List PackageSkuItem → List PackageSkuItem
  | _, [] => []
  | nowNum, psi :: psis =>
      if (psi.num : Int) ≤ nowNum then psi :: fittingFirst (nowNum - psi.num) psis
      else []

def pieces (psis : List PackageSkuItem) : Int := (psis.map fun psi => (psi.num : Int)).sum

def assigned (newAssignNum : Int) (stock : SkuStock) : SkuStock := fun column =>
  match column with
  | .assignNum => stock .assignNum + newAssignNum
  | .psi .assigned => stock (.psi .assigned) + newAssignNum
  | .psi .booked => stock (.psi .booked) - newAssignNum
  | column => stock column

def saveAssigned (sku : Nat) (stock : SkuStock) (psis : List PackageSkuItem) :
    WarehouseTx SkuStock := do
  let stock := stock.assigned (pieces psis)
  save sku none stock
  batchSetStatusAssigned (psis.map PackageSkuItem.id)
  pure stock

def waiting (s : WarehouseDb) (sku : Nat) : List PackageSkuItem :=
  (s.packageSkuItems.filter fun psi =>
    psi.skuId = sku ∧ psi.type = .normal ∧ psi.assignStatus = .notAssigned).insertionSort
      fun a b => a.payTime ≤ b.payTime

def waitingOf (s : WarehouseDb) (sku : Nat) (key : PurchaseKey) : List PackageSkuItem :=
  s.packageSkuItems.filter fun psi =>
    psi.skuId = sku ∧ psi.type = .normal ∧ psi.purchaseOrderUnikey = some key ∧
      psi.assignStatus = .notAssigned

/-- The item that `relase_assign` takes back; for an item it is that one, of
whatever SKU and status. -/
def released (s : WarehouseDb) (sku : Nat) : Target → Option PackageSkuItem
  | .psi psiId => s.packageSkuItems.get? psiId
  | .orderlist key =>
      s.packageSkuItems.first fun psi =>
        psi.skuId = sku ∧ psi.type = .normal ∧ psi.purchaseOrderUnikey = some key ∧
          psi.assignStatus = .assigned
  | .all =>
      ((s.packageSkuItems.filter fun psi =>
        psi.skuId = sku ∧ psi.type = .normal ∧ psi.assignStatus = .assigned).insertionSort
          fun a b => b.payTime ≤ a.payTime).head?

def relaseAssign (sku : Nat) (stock : SkuStock) (target : Target) : WarehouseTx Unit :=
  if stock .assignNum ≤ 0 then pure ()
  else if stock.free > 0 then pure ()
  else do
    let psi ← gets fun s => released s sku target
    match psi with
    | some psi => psi.setStatusNotAssigned
    | none => setPsiNotAssigned sku 0

/-- `assign()`: the waiting items in turn. -/
def assignAll (sku : Nat) (stock : SkuStock) : WarehouseTx Unit :=
  if stock.free = 0 then pure ()
  else if stock.free < 0 then relaseAssign sku stock .all
  else do
    let psis ← gets fun s => fittingFirst stock.free (waiting s sku)
    let _ ← saveAssigned sku stock psis

/-- `assign` on a row in memory.  The round after that starts from the same row;
the orders' branch has counted on it, the branch of one item has not. -/
def assign (sku : Nat) (stock : SkuStock) (target : Target) (again : Bool) :
    WarehouseTx Unit :=
  if stock.free = 0 then pure ()
  else if stock.free < 0 then relaseAssign sku stock target
  else
    match target with
    | .psi psiId => do
        let psi ← gets fun s => (s.packageSkuItems.get? psiId).filter fun psi =>
          psi.skuId = sku ∧ psi.assignStatus = .notAssigned
        match psi.filter fun psi => (psi.num : Int) ≤ stock.free with
        | some psi => psi.setStatusBooked2Assigned
        | none => pure ()
        if again then assignAll sku stock else pure ()
    | .orderlist key => do
        let psis ← gets fun s => fitting stock.free (waitingOf s sku key)
        let stock ← saveAssigned sku stock psis
        if again then assignAll sku stock else pure ()
    | .all => assignAll sku stock

/-- `OrderDetail.reset_sku_stock`: what arrived of the SKU is counted anew; `key` is the
purchase order that the list of the line was made for. -/
def resetSkuStock (sku : Nat) (key : PurchaseKey) : WarehouseTx Unit := do
  let total ← gets fun s => (s.totals sku).inboundQuantity
  let stat ← get sku
  let counted : SkuStock := Function.update stat .inboundQuantity total
  if stat .inboundQuantity < total then do
    save sku (some [.inboundQuantity]) counted
    assign sku counted (.orderlist key) true
  else if stat .inboundQuantity > total then do
    save sku (some [.inboundQuantity]) counted
    relaseAssign sku counted (.orderlist key)
  else pure ()

end ShopManager.Warehouse.SkuStock
