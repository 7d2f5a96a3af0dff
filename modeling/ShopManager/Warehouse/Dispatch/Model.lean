import ShopManager.Library.Execution
import ShopManager.Warehouse.Shipping

/-!
# Orders and their packages

A package is sent from the own warehouse or by a third party.  The first way tells the order
of each item that it is sent; the second asks the order what it has still to send.
-/

namespace ShopManager.Warehouse.Dispatch

open Library Library.Tx
open Pay.Trade (TradeStatus)
open Shipping (ProductSku.dec)

structure SaleOrder where
  num : Nat
  status : TradeStatus
  deriving DecidableEq, Repr

/-- `saleOrderIds` is the column `sale_order_id` of the items, and `tmallOrders` has the order
at the other mall behind an item. -/
structure DispatchDb where
  warehouse : WarehouseDb
  packages : Nat → PackageRow
  saleOrderIds : Nat → Option Nat
  saleOrders : Nat → Option SaleOrder
  tmallOrders : Nat → Option TradeStatus
  productSkus : Nat → Option ProductSku

abbrev DispatchTx (α : Type) := Tx DispatchDb Exn α

namespace DispatchDb

def saleOrder (s : DispatchDb) (item : PackageSkuItem) : Option (Nat × SaleOrder) :=
  (s.saleOrderIds item.id).bind fun id => (s.saleOrders id).map fun order => (id, order)

def setSaleOrder (s : DispatchDb) (id : Nat) (order : SaleOrder) : DispatchDb :=
  { s with saleOrders := Function.update s.saleOrders id (some order) }

/-- Pieces of the items of an order that have an assign status. -/
def pieces (s : DispatchDb) (id : Nat) (counted : AssignStatus → Bool) : Int :=
  s.warehouse.packageSkuItems.sum fun item =>
    if s.saleOrderIds item.id = some id ∧ counted item.assignStatus then item.num else 0

/-- `has_sent_num`, which is zero without finished items. -/
def hasSentNum (s : DispatchDb) (id : Nat) : Int :=
  s.pieces id fun status => status = .finished

def needSendNum (s : DispatchDb) (id : Nat) (order : SaleOrder) : Int :=
  if order.status = .waitSellerSendGoods then order.num - s.hasSentNum id else 0

end DispatchDb

def inWarehouse {α : Type} (m : WarehouseTx α) : DispatchTx α :=
  zoom DispatchDb.warehouse (fun warehouse s => { s with warehouse := warehouse }) m

def SaleOrder.toSent (order : SaleOrder) : SaleOrder :=
  { order with status := .waitBuyerConfirmGoods }

/-- `get_relate_order().finish_sent()`; the detail of a return has no such method. -/
def finishSent (item : PackageSkuItem) : DispatchTx Unit :=
  match item.type with
  | .normal => do
      let order ← getOr .doesNotExist fun s => s.saleOrder item
      modify fun s => s.setSaleOrder order.1 order.2.toSent
  | .tianmao => do
      let _ ← getOr .doesNotExist fun s => s.tmallOrders item.id
      modify fun s => { s with
        tmallOrders := Function.update s.tmallOrders item.id (some .waitBuyerConfirmGoods) }
  | _ => raise .attributeError

def tellOrder (item : PackageSkuItem) : DispatchTx Unit :=
  if item.type ≠ .byhand then finishSent item else pure ()

/-- Both counters of the SKU of an item go down. -/
def decProductSku (item : PackageSkuItem) : DispatchTx Unit := do
  let sku ← getOr .doesNotExist fun s => s.productSkus item.skuId
  modify fun s => { s with
    productSkus := Function.update s.productSkus item.skuId (some (ProductSku.dec item.num sku)) }

/-! ## The own warehouse -/

def sendItem (logisticsCompany : Option Nat) (item : PackageSkuItem) : DispatchTx Unit := do
  raiseIf (logisticsCompany = none) .attributeError
  inWarehouse item.setStatusSent
  tellOrder item
  decProductSku item

def assignedItems (s : DispatchDb) (package : Nat) (statuses : List AssignStatus) :
    List PackageSkuItem :=
  s.warehouse.packageSkuItems.filter fun item =>
    item.packageOrderId = some package ∧ item.assignStatus ∈ statuses

def saved (package : Nat) (row : PackageRow) (s : DispatchDb) : DispatchDb :=
  { s with packages := Function.update s.packages package row }

/-- `subscribed` is the answer of the parcel service. -/
def finishScanWeight (subscribed : Except Exn Unit) (package : Nat) : DispatchTx Unit := do
  let row ← gets fun s => s.packages package
  modify (saved package { row with sysStatus := .waitCustomerReceive })
  let items ← gets fun s => assignedItems s package [.assigned]
  forEach items (sendItem row.logisticsCompany)
  raiseIf (row.logisticsCompany = none) .attributeError
  ofExcept subscribed

def finishThirdSend (item : PackageSkuItem) : WarehouseTx Unit :=
  if item.assignStatus ∈ [AssignStatus.virtualAssigned, .assigned] then
    modify fun s => { s with
      packageSkuItems := s.packageSkuItems.update (fun row => row.id = item.id) fun row =>
        { row with assignStatus := .finished, status := .sent }
      skuStocks := Function.update s.skuStocks item.skuId
        (Function.update (s.skuStocks item.skuId) .postNum
          (s.skuStocks item.skuId .postNum + item.num)) }
  else pure ()

/-- Whether the item is all that its order has still to send is asked before it is sent. -/
def thirdSendItem (item : PackageSkuItem) : DispatchTx Unit := do
  let order ← getOr .doesNotExist fun s => s.saleOrder item
  let allSend ← gets fun s => decide (s.needSendNum order.1 order.2 = item.num)
  inWarehouse (finishThirdSend item)
  if allSend then modify fun s => s.setSaleOrder order.1 order.2.toSent else pure ()
  decProductSku item

def finishThirdPackage (subscribed : Except Exn Unit) (logisticsCompany package : Nat) :
    DispatchTx Unit := do
  modify (saved package ⟨.waitCustomerReceive, some logisticsCompany⟩)
  let items ← gets fun s => assignedItems s package [.assigned, .virtualAssigned]
  forEach items thirdSendItem
  ofExcept subscribed

inductive DispatchOp where
  | finishScanWeight (subscribed : Except Exn Unit) (package : Nat)
  | finishThirdPackage (subscribed : Except Exn Unit) (logisticsCompany package : Nat)

namespace DispatchOp

def call : DispatchOp → DispatchTx Unit
  | finishScanWeight subscribed package => Dispatch.finishScanWeight subscribed package
  | finishThirdPackage subscribed logisticsCompany package =>
      Dispatch.finishThirdPackage subscribed logisticsCompany package

def exec (op : DispatchOp) (s : DispatchDb) : DispatchDb := (op.call.run s).2

end DispatchOp

end ShopManager.Warehouse.Dispatch
