import ShopManager.Basic
import ShopManager.Library.Table
import ShopManager.Library.Transaction

/-!
# Adjustments of stock

An adjustment adds pieces to the stock of a SKU, or takes some away, for good and for inferior
pieces apart.  The warehouse outside reports its own stock, and what differs is adjusted.
-/

namespace ShopManager.Warehouse.Adjust

open Library Library.Tx

/-! ## Data -/

inductive AdjustStatus where
  | initial | processed | obsolete
  deriving DecidableEq, Repr

structure StockAdjust where
  id : Nat
  wareBy : Nat
  sku : Nat
  num : Int
  inferior : Bool
  status : AdjustStatus
  deriving DecidableEq, Repr

instance : Row StockAdjust where
  pk := StockAdjust.id
  withPk n a := { a with id := n }

/-- The columns of the stock that make the realtime quantity. -/
structure SkuStock where
  adjustQuantity : Int
  historyQuantity : Int
  inboundQuantity : Int
  returnQuantity : Int
  rgQuantity : Int
  postNum : Int
  deriving DecidableEq, Repr

def SkuStock.realtimeQuantity (stock : SkuStock) : Int :=
  stock.historyQuantity + stock.inboundQuantity + stock.adjustQuantity + stock.returnQuantity -
    stock.postNum - stock.rgQuantity

structure InferiorSkuStats where
  historyQuantity : Int
  inboundQuantity : Int
  returnQuantity : Int
  rgQuantity : Int
  adjustNum : Int
  deriving DecidableEq, Repr

def InferiorSkuStats.realtimeQuantity (stat : InferiorSkuStats) : Int :=
  stat.historyQuantity + stat.inboundQuantity + stat.returnQuantity + stat.adjustNum -
    stat.rgQuantity

structure ProductSku where
  id : Nat
  outerId : String
  quantity : Int
  deriving DecidableEq, Repr

instance : Row ProductSku where
  pk := ProductSku.id
  withPk n sku := { sku with id := n }

structure OutwareSkuStock where
  id : Nat
  skuCode : String
  pullGoodAvailableQty : Int
  pullGoodLockQty : Int
  pullBadQty : Int
  lastPullTime : Nat
  deriving DecidableEq, Repr

instance : Row OutwareSkuStock where
  pk := OutwareSkuStock.id
  withPk n stock := { stock with id := n }

/-- What the other tables count as inferior pieces of a SKU. -/
structure InferiorTotals where
  inbound : Int
  returned : Int
  rg : Int
  deriving DecidableEq, Repr

/-- A SKU has at most one row of stock of each kind. -/
structure AdjustDb where
  adjusts : Table StockAdjust
  productSkus : Table ProductSku
  stocks : Nat → Option SkuStock
  inferiors : Nat → Option InferiorSkuStats
  inferiorTotals : Nat → InferiorTotals
  outwareStocks : Table OutwareSkuStock

abbrev AdjustTx (α : Type) := Tx AdjustDb Exn α

namespace SkuStock

/-- `filter(sku_id=sku).update(adjust_quantity=F('adjust_quantity') + num)` -/
def addAdjustNum (sku : Nat) (num : Int) : AdjustTx Unit :=
  modify fun s => { s with
    stocks := Function.update s.stocks sku ((s.stocks sku).map fun stock =>
      { stock with adjustQuantity := stock.adjustQuantity + num }) }

def getBySku (sku : Nat) : AdjustTx SkuStock := do
  match ← gets fun s => s.stocks sku with
  | some stock => pure stock
  | none => do
      let _ ← getOr .doesNotExist fun s => s.productSkus.get? sku
      let stock : SkuStock := ⟨0, 0, 0, 0, 0, 0⟩
      modify fun s => { s with stocks := Function.update s.stocks sku (some stock) }
      pure stock

/-- `restat` sums up the processed adjustments, and other tables for the other columns. -/
def restat (sku : Nat) (inboundQuantity returnQuantity rgQuantity postNum : Int) :
    AdjustTx Unit := do
  let stock ← getOr .doesNotExist fun s => s.stocks sku
  let adjustQuantity ← gets fun s =>
    ((s.adjusts.filter fun a => a.sku = sku ∧ a.status = .processed).map StockAdjust.num).sum
  modify fun s => { s with
    stocks := Function.update s.stocks sku (some {
      adjustQuantity := adjustQuantity
      historyQuantity := stock.historyQuantity
      inboundQuantity := inboundQuantity
      returnQuantity := returnQuantity
      rgQuantity := rgQuantity
      postNum := postNum }) }

end SkuStock

namespace InferiorSkuStats

def updateAdjustNum (sku : Nat) (adjustQuantity : Int) : AdjustTx Unit :=
  modify fun s => { s with
    inferiors := Function.update s.inferiors sku ((s.inferiors sku).map fun stat =>
      { stat with adjustNum := adjustQuantity }) }

def getBySku (sku : Nat) : AdjustTx InferiorSkuStats := do
  match ← gets fun s => s.inferiors sku with
  | some stat => pure stat
  | none => do
      let _ ← getOr .doesNotExist fun s => s.productSkus.get? sku
      let totals ← gets fun s => s.inferiorTotals sku
      let stat : InferiorSkuStats := ⟨0, totals.inbound, totals.returned, totals.rg, 0⟩
      modify fun s => { s with inferiors := Function.update s.inferiors sku (some stat) }
      pure stat

end InferiorSkuStats

namespace StockAdjust

/-- The number of good pieces is added, and the inferior pieces are summed up. -/
def count (a : StockAdjust) : AdjustTx Unit :=
  if a.inferior = false then SkuStock.addAdjustNum a.sku a.num
  else do
    let adjustQuantity ← gets fun s =>
      ((s.adjusts.filter fun b => b.sku = a.sku ∧ b.inferior = true).map StockAdjust.num).sum
    InferiorSkuStats.updateAdjustNum a.sku adjustQuantity

/-- The stock is assigned to orders, or taken back from them, after that, which leaves these
columns alone. -/
def updateProductskustatsAdjustNum (a : StockAdjust) : AdjustTx Unit :=
  if a.status = .initial then do
    a.count
    modify fun s => { s with
      adjusts := s.adjusts.update (fun b => b.id = a.id) fun b => { b with status := .processed } }
    let stat ← SkuStock.getBySku a.sku
    modify fun s => { s with
      productSkus := s.productSkus.update (fun sku => sku.id = a.sku) fun sku =>
        { sku with quantity := stat.realtimeQuantity } }
  else pure ()

/-- `save` of an instance whose row exists. -/
def save (a : StockAdjust) : AdjustTx Unit := do
  let _ ← getOr .doesNotExist fun s => s.adjusts.get? a.id
  let _ ← getOr .integrityError fun s => s.productSkus.get? a.sku
  modify fun s => { s with adjusts := s.adjusts.save a }
  a.updateProductskustatsAdjustNum

def create (sku : Nat) (num : Int) (wareBy : Nat) (inferior : Bool) : AdjustTx Unit := do
  let _ ← getOr .integrityError fun s => s.productSkus.get? sku
  let a : StockAdjust := ⟨0, wareBy, sku, num, inferior, .initial⟩
  let stored ← gets fun s => s.adjusts.stored a
  modify fun s => { s with adjusts := s.adjusts.insert a }
  stored.updateProductskustatsAdjustNum

end StockAdjust

/-- What the warehouse reports of a SKU. -/
structure StockData where
  badQty : Int
  goodAvailableQty : Int
  goodLockQty : Int
  deriving DecidableEq, Repr

def ProductSku.getByOuterId (outerSkuId : String) : AdjustTx ProductSku := do
  match ← gets fun s => s.productSkus.filter fun sku => sku.outerId = outerSkuId with
  | [sku] => pure sku
  | [] => raise .doesNotExist
  | _ => raise .multipleObjectsReturned

def OutwareSkuStock.pull (data : StockData) (now : Nat) (stock : OutwareSkuStock) :
    OutwareSkuStock :=
  { stock with
    pullBadQty := data.badQty
    pullGoodAvailableQty := data.goodAvailableQty
    pullGoodLockQty := data.goodLockQty
    lastPullTime := now }

/-- The difference in good pieces is adjusted, or else the one in inferior pieces. -/
def adjustDifference (nowQuantity nowBadQuantity : Int) (sku : Nat) (stock : SkuStock)
    (inferior : InferiorSkuStats) : AdjustTx Unit :=
  if nowQuantity ≠ stock.realtimeQuantity then
    StockAdjust.create sku (nowQuantity - stock.realtimeQuantity) 0 false
  else if nowBadQuantity ≠ inferior.realtimeQuantity then
    StockAdjust.create sku (nowBadQuantity - inferior.realtimeQuantity) 0 true
  else pure ()

def OutwareSkuStock.syncStockByAdjust (skuCode : String) (data : StockData) (now : Nat) :
    AdjustTx Unit := do
  let stored ← getOr .doesNotExist fun s => s.outwareStocks.first fun o => o.skuCode = skuCode
  let outware := stored.pull data now
  modify fun s => { s with outwareStocks := s.outwareStocks.save outware }
  let sku ← ProductSku.getByOuterId outware.skuCode
  let stock ← SkuStock.getBySku sku.id
  let inferior ← InferiorSkuStats.getBySku sku.id
  adjustDifference outware.pullGoodAvailableQty outware.pullBadQty sku.id stock inferior

end ShopManager.Warehouse.Adjust
