import Mathlib.Data.List.Sort
import ShopManager.Basic
import ShopManager.Library.Table
import ShopManager.Library.Transaction

/-!
# Goods that come in on purchases

An inbound counts the pieces of each SKU in its details.  Its records give pieces of a detail
to the details of order lists; the quality check fixes what is good, and then the order lists
and the stocks are brought up to date.
-/

namespace ShopManager.Purchase.Inbound

open Library Library.Tx

inductive OrderListStage where
  | draft | checked | pay | receive | state | completed | deleted
  deriving DecidableEq, Repr

inductive ArrivalProcess where
  | arrivalNot | needProcess | pressed | finished
  deriving DecidableEq, Repr

structure OrderList where
  id : Nat
  supplierId : Option Nat
  stage : OrderListStage
  status : String
  lack : Option Bool
  inferior : Bool
  arrivalProcess : ArrivalProcess
  completedTime : Option Nat
  deriving DecidableEq, Repr

instance : Row OrderList where
  pk := OrderList.id
  withPk n ol := { ol with id := n }

/-- A detail of an order list; `chichuId` is the id of a SKU, kept as a text. -/
structure OrderDetail where
  id : Nat
  orderlist : Option Nat
  chichuId : Nat
  buyQuantity : Int
  arrivalQuantity : Int
  inferiorQuantity : Int
  nonArrivalQuantity : Int
  arrivalTime : Option Nat
  deriving DecidableEq, Repr

instance : Row OrderDetail where
  pk := OrderDetail.id
  withPk n od := { od with id := n }

inductive InBoundStatus where
  | invalid | pending | waitCheck | completed | completeReturn
  deriving DecidableEq, Repr

/-- The id of the order list that the goods came for is kept as a text; `none` is a text that is
no number. -/
structure InBound where
  id : Nat
  supplierId : Option Nat
  oriOrderlistId : Option Nat
  status : InBoundStatus
  checked : Bool
  checkTime : Option Nat
  outStock : Bool
  wrong : Bool
  inferior : Bool
  deriving DecidableEq, Repr

instance : Row InBound where
  pk := InBound.id
  withPk n inbound := { inbound with id := n }

inductive DetailStatus where
  | normal | problem
  deriving DecidableEq, Repr

/-- A detail without a SKU holds goods that nobody could name. -/
structure InBoundDetail where
  id : Nat
  inbound : Nat
  sku : Option Nat
  arrivalQuantity : Int
  inferiorQuantity : Int
  checked : Bool
  checkTime : Option Nat
  wrong : Bool
  outStock : Bool
  status : DetailStatus
  deriving DecidableEq, Repr

instance : Row InBoundDetail where
  pk := InBoundDetail.id
  withPk n detail := { detail with id := n }

/-- `OrderDetailInBoundDetail` -/
structure Record where
  id : Nat
  orderdetail : Nat
  inbounddetail : Nat
  arrivalQuantity : Int
  inferiorQuantity : Int
  created : Nat
  deriving DecidableEq, Repr

instance : Row Record where
  pk := Record.id
  withPk n record := { record with id := n }

structure ProductSku where
  id : Nat
  quantity : Int
  deriving DecidableEq, Repr

instance : Row ProductSku where
  pk := ProductSku.id
  withPk n sku := { sku with id := n }

/-- What of the stock of a SKU came in on purchases. -/
structure SkuStock where
  id : Nat
  skuId : Nat
  inboundQuantity : Int
  deriving DecidableEq, Repr

instance : Row SkuStock where
  pk := SkuStock.id
  withPk n stock := { stock with id := n }

/-- The tables of an inbound; `mall` is the rest of the stocks and what is set aside there for
customers. -/
structure InboundDb (μ : Type) where
  inbounds : Table InBound
  details : Table InBoundDetail
  records : Table Record
  orderLists : Table OrderList
  orderDetails : Table OrderDetail
  productSkus : Table ProductSku
  skuStocks : Table SkuStock
  mall : μ

variable {μ : Type}

abbrev InboundTx (μ α : Type) := Tx (InboundDb μ) Exn α

/-- The time of a call, the time from which arrivals are counted, what `assign_sku` of an inbound
sets aside of the stocks, and the order in which a dictionary has its keys. -/
structure Surroundings (μ : Type) where
  now : Nat
  commitTime : Nat
  assignSku : Nat → Tx μ Exn Unit
  keys : List (Option Nat) → List (Option Nat)
  keys_perm : ∀ skus, (keys skus).Perm skus

def inMall (m : Tx μ Exn Unit) : InboundTx μ Unit :=
  zoom InboundDb.mall (fun t s => { s with mall := t }) m

/-! ## Order lists and their details -/

namespace OrderDetail

def needArrivalQuantity (od : OrderDetail) : Int := max (od.buyQuantity - od.arrivalQuantity) 0

def records (s : InboundDb μ) (od : Nat) : List Record := s.records.filter fun r => r.orderdetail = od

def checkedRecords (s : InboundDb μ) (od : Nat) : List Record :=
  (records s od).filter fun r => s.details.rows.any fun d => d.id = r.inbounddetail ∧ d.checked = true

/-- What the checked records say, at the time of the last record. -/
def recount (s : InboundDb μ) (arrivalTime : Nat) (od : OrderDetail) : OrderDetail :=
  let arrival := ((checkedRecords s od.id).map Record.arrivalQuantity).sum
  let inferior := ((checkedRecords s od.id).map Record.inferiorQuantity).sum
  { od with
    arrivalQuantity := arrival
    inferiorQuantity := inferior
    nonArrivalQuantity := od.buyQuantity - arrival - inferior
    arrivalTime := some arrivalTime }

def orderlistOf (od : OrderDetail) : InboundTx μ OrderList := do
  let id ← getOr .attributeError fun _ => od.orderlist
  getOr .doesNotExist fun s => s.orderLists.get? id

end OrderDetail

namespace OrderList

def orderList (s : InboundDb μ) (ol : Nat) : List OrderDetail :=
  s.orderDetails.filter fun od => od.orderlist = some ol

def save (ol : OrderList) : InboundTx μ Unit :=
  modify fun s => { s with orderLists := s.orderLists.save ol }

def setStageComplete (now : Nat) (ol : OrderList) : InboundTx μ Unit :=
  save { ol with
    stage := .completed
    status := "完成"
    completedTime := some now }

/-- What `set_stat` makes of the list, and whether that is a change to be saved. -/
def setStat (ods : List OrderDetail) (ol : OrderList) : OrderList × Bool :=
  if ol.stage = .draft ∨ ol.stage = .checked ∨ ol.stage = .deleted then
    ({ ol with lack := none }, false)
  else
    let total := (ods.map fun od => od.arrivalQuantity + od.inferiorQuantity).sum
    let lack := if total = 0 then none
      else some (ods.any fun od => od.needArrivalQuantity > 0)
    let inferior := ods.any fun od => od.inferiorQuantity > 0
    let arrivalProcess := match lack with
      | some false => ArrivalProcess.finished
      | none => .arrivalNot
      | some true =>
          if ol.arrivalProcess = .arrivalNot ∨ ol.arrivalProcess = .finished then .needProcess
          else ol.arrivalProcess
    -- `ARRIVAL_NOT` is zero, and a zero is no state to change to
    let arrivalProcess := if arrivalProcess = .arrivalNot then ol.arrivalProcess else arrivalProcess
    let new := { ol with
      lack := lack
      inferior := inferior
      arrivalProcess := arrivalProcess }
    (new, decide (new ≠ ol))

def setArrivalProcessStatus (id : Nat) : InboundTx μ Unit := do
  let ol ← getOr .doesNotExist fun s => s.orderLists.get? id
  let stat ← gets fun s => setStat (orderList s id) ol
  if stat.2 then save stat.1 else pure ()

end OrderList

namespace OrderDetail

/-- A list whose details have all come in is complete. -/
def checkIfFinished (now : Nat) (od : OrderDetail) : InboundTx μ Unit := do
  let ol ← od.orderlistOf
  let ods ← gets fun s => OrderList.orderList s ol.id
  if ∀ od ∈ ods, od.arrivalQuantity = od.buyQuantity then ol.setStageComplete now else pure ()

def setArrivalQuantity (now id : Nat) : InboundTx μ Unit := do
  let od ← getOr .doesNotExist fun s => s.orderDetails.get? id
  let arrivalTime ← getOr .attributeError fun s => ((records s id).map Record.created).max?
  let od ← gets fun s => recount s arrivalTime od
  modify fun s => { s with orderDetails := s.orderDetails.save od }
  od.checkIfFinished now

end OrderDetail

namespace InBoundDetail

def get (id : Nat) : InboundTx μ InBoundDetail :=
  getOr .doesNotExist fun s => s.details.get? id

def records (s : InboundDb μ) (detail : Nat) : List Record :=
  s.records.filter fun r => r.inbounddetail = detail

def allAllocateQuantity (s : InboundDb μ) (detail : Nat) : Int :=
  ((records s detail).map Record.arrivalQuantity).sum

def outStockNum (s : InboundDb μ) (detail : InBoundDetail) : Int :=
  detail.arrivalQuantity - allAllocateQuantity s detail.id

def save (detail : InBoundDetail) : InboundTx μ Unit :=
  modify fun s => { s with details := s.details.save detail }

/-- What came in of an order detail on other, checked details. -/
def lastInStock (s : InboundDb μ) (detail od : Nat) : Int :=
  (((OrderDetail.checkedRecords s od).filter fun r => r.inbounddetail ≠ detail).map
    Record.arrivalQuantity).sum

/-- The order lists that get more than they ordered, record by record. -/
def overloadOf (detail : Nat) : List Record → InboundTx μ (List Nat)
  | [] => pure []
  | r :: rs => do
      let od ← getOr .doesNotExist fun s => s.orderDetails.get? r.orderdetail
      let last ← gets fun s => lastInStock s detail od.id
      if od.buyQuantity < last + r.arrivalQuantity then do
        let ol ← od.orderlistOf
        let errs ← overloadOf detail rs
        pure (ol.id :: errs)
      else overloadOf detail rs

def getOverloadOrderlistIds (detail : Nat) : InboundTx μ (List Nat) := do
  let rs ← gets fun s => records s detail
  overloadOf detail rs

/-- The records lose `changeTotal` pieces, the last record first.  A record that has fewer is
emptied before its pieces are taken off what is left to lose. -/
def loseRecords : List Record → Int → InboundTx μ Unit
  | [], _ => pure ()
  | r :: rs, changeTotal =>
      if r.arrivalQuantity ≥ changeTotal then
        modify fun s => { s with
          records := s.records.save { r with arrivalQuantity := r.arrivalQuantity - changeTotal } }
      else do
        let r := { r with arrivalQuantity := 0 }
        modify fun s => { s with records := s.records.save r }
        loseRecords rs (changeTotal - r.arrivalQuantity)

def changeRecordsQuantity (detail : InBoundDetail) (changeTotal : Int) (updateOldStock : Bool) :
    InboundTx μ Unit := do
  let rs ← gets fun s => records s detail.id
  loseRecords (rs.insertionSort fun r r' => r'.id ≤ r.id) changeTotal
  if updateOldStock then
    modify fun s => { s with
      productSkus := s.productSkus.update (fun sku => some sku.id = detail.sku) fun sku =>
        { sku with quantity := sku.quantity - changeTotal } }
  else pure ()

def withOutStock (s : InboundDb μ) (detail : InBoundDetail) : InBoundDetail :=
  { detail with outStock := outStockNum s detail > 0 }

/-- The new quantities of a detail, not yet saved; its records and the product are. -/
def setQuantity (detail : InBoundDetail) (arrivalQuantity inferiorQuantity : Int)
    (updateStock : Bool) : InboundTx μ InBoundDetail :=
  if detail.arrivalQuantity = arrivalQuantity ∧ detail.inferiorQuantity = inferiorQuantity then
    gets fun s => withOutStock s detail
  else do
    raiseIf (arrivalQuantity + inferiorQuantity ≠ detail.arrivalQuantity + detail.inferiorQuantity)
      (.exception "改变次品时总数量不能发生变化")
    let detail := { detail with
      arrivalQuantity := arrivalQuantity
      inferiorQuantity := inferiorQuantity }
    let total ← gets fun s => allAllocateQuantity s detail.id
    let rs ← gets fun s => records s detail.id
    if rs ≠ [] ∧ arrivalQuantity < total then
      detail.changeRecordsQuantity (total - arrivalQuantity) updateStock
    else pure ()
    gets fun s => withOutStock s detail

end InBoundDetail

namespace SkuStock

def find (s : InboundDb μ) (sku : Option Nat) : Option SkuStock :=
  s.skuStocks.first fun stock => some stock.skuId = sku

def getBySku (sku : Option Nat) : InboundTx μ SkuStock := do
  match ← gets fun s => find s sku with
  | some stock => pure stock
  | none => do
      let sku ← getOr .doesNotExist fun s => sku.bind s.productSkus.get?
      let stock : SkuStock := ⟨0, sku.id, 0⟩
      let stored ← gets fun s => s.skuStocks.stored stock
      modify fun s => { s with skuStocks := s.skuStocks.insert stock }
      pure stored

/-- The statistic of `inbound_quantity`. -/
def statInbound (commitTime : Nat) (s : InboundDb μ) (sku : Nat) : Int :=
  ((s.orderDetails.filter fun od => od.chichuId = sku ∧
    od.arrivalTime.any (commitTime < ·) = true).map OrderDetail.arrivalQuantity).sum

/-- The statistic replaces the sum before it is saved. -/
def statSave (commitTime : Nat) (stock : SkuStock) : InboundTx μ Unit :=
  modify fun s => { s with
    skuStocks := s.skuStocks.save { stock with
      inboundQuantity := statInbound commitTime s stock.skuId } }

def addInboundQuantity (commitTime : Nat) (sku : Option Nat) (num : Int) : InboundTx μ Unit := do
  let stock ← getOr .doesNotExist fun s => find s sku
  statSave commitTime { stock with inboundQuantity := stock.inboundQuantity + num }

end SkuStock

/-- What a check says of a detail. -/
structure CheckEntry where
  inbounddetail : Nat
  arrivalQuantity : Int
  inferiorQuantity : Int
  deriving DecidableEq, Repr

/-- The data of a check, a dictionary with its entries in the order of its keys. -/
structure CheckData where
  entries : List CheckEntry
  nodup : (entries.map CheckEntry.inbounddetail).Nodup

namespace InBound

def details (s : InboundDb μ) (inbound : Nat) : List InBoundDetail :=
  s.details.filter fun d => d.inbound = inbound

def records (s : InboundDb μ) (inbound : Nat) : List Record :=
  (details s inbound).flatMap fun d => InBoundDetail.records s d.id

def allArrivalQuantity (s : InboundDb μ) (inbound : Nat) : Int :=
  (((details s inbound).filter fun d => d.wrong = false).map InBoundDetail.arrivalQuantity).sum

def allInferiorQuantity (s : InboundDb μ) (inbound : Nat) : Int :=
  (((details s inbound).filter fun d => d.wrong = false).map InBoundDetail.inferiorQuantity).sum

def allAllocateQuantity (s : InboundDb μ) (inbound : Nat) : Int :=
  ((records s inbound).map Record.arrivalQuantity).sum

def setStat (s : InboundDb μ) (inbound : InBound) : InBound :=
  { inbound with
    outStock := allArrivalQuantity s inbound.id > allAllocateQuantity s inbound.id
    wrong := (details s inbound.id).any fun d => d.wrong
    inferior := allInferiorQuantity s inbound.id > 0 }

/-- A save after `set_stat`. -/
def saveStat (inbound : InBound) : InboundTx μ Unit :=
  modify fun s => { s with inbounds := s.inbounds.save (setStat s inbound) }

def orderDetails (s : InboundDb μ) (inbound : Nat) : List OrderDetail :=
  s.orderDetails.filter fun od => od.id ∈ (records s inbound).map Record.orderdetail

def orderListIds (s : InboundDb μ) (inbound : Nat) : List (Option Nat) :=
  (((orderDetails s inbound).filter fun od => 0 < od.arrivalQuantity).map OrderDetail.orderlist).dedup

def updateOrderlistArrivalProcess (inbound : Nat) : InboundTx μ Unit := do
  let ids ← gets fun s => orderListIds s inbound
  forEach ids fun id => do
    let id ← getOr .doesNotExist fun _ => id
    OrderList.setArrivalProcessStatus id

/-- The skus of the details whose order lists would get more than they ordered. -/
def overloaded : List CheckEntry → InboundTx μ (List (Option Nat))
  | [] => pure []
  | entry :: entries => do
      let detail ← InBoundDetail.get entry.inbounddetail
      let ids ← InBoundDetail.getOverloadOrderlistIds detail.id
      let errSkuIds ← overloaded entries
      pure (if ids = [] then errSkuIds else detail.sku :: errSkuIds)

def printSkus (skus : List (Option Nat)) : String :=
  "[" ++ ", ".intercalate (skus.map fun sku => (sku.map toString).getD "None") ++ "]"

def checkDetail (now : Nat) (entry : CheckEntry) : InboundTx μ Unit := do
  let detail ← InBoundDetail.get entry.inbounddetail
  if detail.checked then do
    let detail ← detail.setQuantity entry.arrivalQuantity entry.inferiorQuantity true
    detail.save
  else do
    let detail ← detail.setQuantity entry.arrivalQuantity entry.inferiorQuantity false
    InBoundDetail.save { detail with
      checked := true
      checkTime := some now
      status := .normal }

def checkAll (now inbound : Nat) : InboundTx μ Unit :=
  modify fun s => { s with
    details := s.details.update (fun d => d.inbound = inbound) fun d => { d with
      checked := true
      checkTime := some now
      status := .normal } }

def checkEntries (now : Nat) (entries : List CheckEntry) : InboundTx μ Unit := do
  let errSkuIds ← overloaded entries
  raiseIf (errSkuIds ≠ [])
    (.exception ("分配的SKU数量超过了订货数，请重新分配:" ++ printSkus errSkuIds))
  forEach entries (checkDetail now)

/-- `sync_order_detail(sync_stock=False)` of every detail. -/
def syncOrderDetails (now inbound : Nat) : InboundTx μ Unit := do
  let rs ← gets fun s => records s inbound
  forEach rs fun r => OrderDetail.setArrivalQuantity now r.orderdetail

/-- Of two details of a SKU the later one stays. -/
def getSkuInstockDict (s : InboundDb μ) (inbound : Nat) (sku : Option Nat) : Int :=
  ((((details s inbound).filter fun d => d.sku = sku).getLast?).map fun d =>
    InBoundDetail.allAllocateQuantity s d.id).getD 0

def skuKeys (around : Surroundings μ) (s : InboundDb μ) (inbound : Nat) : List (Option Nat) :=
  around.keys ((details s inbound).map InBoundDetail.sku).dedup

def setStockInbound (around : Surroundings μ) (inbound : Nat) : InboundTx μ Unit := do
  let skus ← gets fun s => skuKeys around s inbound
  let dict ← gets fun s => getSkuInstockDict s inbound
  forEach skus fun sku => do
    let _ ← SkuStock.getBySku sku
    SkuStock.addInboundQuantity around.commitTime sku (dict sku)

def finishCheck (around : Surroundings μ) (data : Option CheckData) (syncStock : Bool)
    (inbound : InBound) : InboundTx μ Unit := do
  match data with
  | none => checkAll around.now inbound.id
  | some data => checkEntries around.now data.entries
  saveStat { inbound with
    status := .completed
    checked := true
    checkTime := some around.now }
  updateOrderlistArrivalProcess inbound.id
  syncOrderDetails around.now inbound.id
  if syncStock then do
    setStockInbound around inbound.id
    inMall (around.assignSku inbound.id)
  else pure ()

def keyError : Exn := .exception "KeyError"

/-- `int()` of the id of the order list. -/
def oriOrderlist (inbound : InBound) : InboundTx μ Nat :=
  getOr (.valueError "invalid literal for int() with base 10") fun _ => inbound.oriOrderlistId

/-- Of two details of a SKU the later one stays. -/
def skuData (s : InboundDb μ) (inbound sku : Nat) : Option Int :=
  (((details s inbound).filter fun d => d.sku = some sku).getLast?).map fun d =>
    d.arrivalQuantity + d.inferiorQuantity

/-- The order lists of the supplier that receive goods and ask for a SKU of the inbound. -/
def getMayAllocateOrderListIds (s : InboundDb μ) (inbound : InBound) : List Nat :=
  ((s.orderDetails.filter fun od =>
    some od.chichuId ∈ (details s inbound.id).map InBoundDetail.sku ∧
      (od.orderlist.bind s.orderLists.get?).any (fun ol =>
        ol.supplierId = inbound.supplierId ∧ ol.stage = .receive) = true).filterMap
    OrderDetail.orderlist).dedup

/-- The lists in the order in which they are served: the one that the goods came for, and then
the others by their ids. -/
def allocateLists (s : InboundDb μ) (own : Nat) (ids : List Nat) : List OrderList :=
  let orderlists := (s.orderLists.filter fun ol => ol.id ∈ ids).insertionSort fun ol ol' =>
    ol.id ≤ ol'.id
  match (s.orderLists.get? own).filter fun ol => ol.stage ≠ .draft ∧ ol.id ∈ ids with
  | some first => first :: orderlists.filter fun ol => ol.id ≠ first.id
  | none => orderlists

/-- The loop over the order details, with what the lists before have left. -/
def allocateDetails : List OrderDetail → (Nat → Int) → List (Nat × Int)
  | [], _ => []
  | od :: ods, left =>
      if od.needArrivalQuantity > 0 ∧ left od.chichuId > 0 then
        let num := min od.needArrivalQuantity (left od.chichuId)
        (od.id, num) :: allocateDetails ods
          (Function.update left od.chichuId (left od.chichuId - num))
      else allocateDetails ods left

def allocateCandidates (s : InboundDb μ) (inbound : Nat) (orderlists : List OrderList) :
    List OrderDetail :=
  orderlists.flatMap fun ol => (OrderList.orderList s ol.id).filter fun od =>
    some od.chichuId ∈ (details s inbound).map InBoundDetail.sku

def getOptimizedAllocateDict (inbound : InBound) : InboundTx μ (List (Nat × Int)) := do
  let ids ← gets fun s => getMayAllocateOrderListIds s inbound
  let own ← oriOrderlist inbound
  let ods ← gets fun s => allocateCandidates s inbound.id (allocateLists s own ids)
  gets fun s => allocateDetails ods fun sku => (skuData s inbound.id sku).getD 0

/-- The pieces that are asked for of a SKU. -/
def requestAllSku (s : InboundDb μ) (data : List (Nat × Int)) (sku : Nat) : Int :=
  ((data.filter fun entry => (s.orderDetails.get? entry.1).any (fun od =>
    od.chichuId = sku) = true).map Prod.snd).sum

/-- `details.get(sku_id=..)` -/
def detailOf (inbound sku : Nat) : InboundTx μ InBoundDetail := do
  match ← gets fun s => (details s inbound).filter fun d => d.sku = some sku with
  | [d] => pure d
  | [] => raise .doesNotExist
  | _ => raise .multipleObjectsReturned

/-- `OrderDetailInBoundDetail.create` -/
def createRecord (now inbound : Nat) (entry : Nat × Int) : InboundTx μ Unit := do
  let od ← getOr .doesNotExist fun s => s.orderDetails.get? entry.1
  let d ← detailOf inbound od.chichuId
  modify fun s => { s with
    records := s.records.insert {
      id := 0
      orderdetail := od.id
      inbounddetail := d.id
      arrivalQuantity := entry.2
      inferiorQuantity := 0
      created := now } }

def skusOf (s : InboundDb μ) (data : List (Nat × Int)) : List Nat :=
  (data.filterMap fun entry => (s.orderDetails.get? entry.1).map OrderDetail.chichuId).dedup

/-- The order details of the list that the goods came for, with the good pieces of each SKU. -/
def defaultData (inbound : InBound) : List (Option Nat) → InboundTx μ (List (Nat × Int))
  | [] => pure []
  | sku :: skus => do
      let own ← oriOrderlist inbound
      let ol ← getOr .attributeError fun s => s.orderLists.get? own
      let od ← getOr .attributeError fun s =>
        s.orderDetails.first fun od => od.orderlist = some ol.id ∧ some od.chichuId = sku
      let num ← gets fun s => ((((details s inbound.id).filter fun d => d.sku = sku).getLast?).map
        InBoundDetail.arrivalQuantity).getD 0
      let data ← defaultData inbound skus
      pure ((od.id, num) :: data)

/-- The forecasts are brought up to date after that; an error of theirs is swallowed, and they are
left out. -/
def allocate (around : Surroundings μ) (data : Option (List (Nat × Int))) (inbound : InBound) :
    InboundTx μ Unit := do
  let skus ← gets fun s => skuKeys around s inbound.id
  let data ← match data with
    | none => defaultData inbound skus
    | some data => pure data
  forEach data fun entry => do
    let _ ← getOr .doesNotExist fun s => s.orderDetails.get? entry.1
  let skus ← gets fun s => skusOf s data
  forEach skus fun sku => do
    let total ← getOr keyError fun s => skuData s inbound.id sku
    let requested ← gets fun s => requestAllSku s data sku
    raiseIf (requested > total) (.exception "分配数不能超出总数")
  forEach data (createRecord around.now inbound.id)
  saveStat { inbound with status := .waitCheck }

end InBound

end ShopManager.Purchase.Inbound
