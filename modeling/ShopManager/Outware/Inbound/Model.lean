import ShopManager.Basic
import ShopManager.Library.Table
import ShopManager.Library.Transaction

/-!
# Goods that the outside warehouse received

The warehouse confirms an inbound with the goods that it counted.  The inbound is marked
as arrived and the stock of each SKU grows; then the mall books the goods, as a purchase
that came in or as goods that a customer sent back.
-/

namespace ShopManager.Outware.Inbound

open Library Library.Tx

inductive InboundStatus where
  | normal
  | received
  | arrived
  | cancel
  deriving DecidableEq, Repr

/-- `ORDER_PURCHASE` and `ORDER_REFUND`. -/
inductive OrderType where
  | purchase
  | refund
  deriving DecidableEq, Repr

structure OutwareInboundOrder where
  id : Nat
  inboundCode : String
  orderType : OrderType
  storeCode : String
  status : InboundStatus
  deriving DecidableEq, Repr

instance : Row OutwareInboundOrder where
  pk := OutwareInboundOrder.id
  withPk n order := { order with id := n }

structure OutwareInboundSku where
  id : Nat
  outwareInbound : Nat
  skuCode : String
  batchNo : String
  pullGoodQty : Int
  pullBadQty : Int
  uniKey : String
  deriving DecidableEq, Repr

instance : Row OutwareInboundSku where
  pk := OutwareInboundSku.id
  withPk n sku := { sku with id := n }

structure OutwareSkuStock where
  id : Nat
  skuCode : String
  pushSkuGoodQty : Int
  pushSkuBadQty : Int
  pullGoodAvailableQty : Int
  pullBadQty : Int
  deriving DecidableEq, Repr

instance : Row OutwareSkuStock where
  pk := OutwareSkuStock.id
  withPk n stock := { stock with id := n }

structure ProductSku where
  id : Nat
  outerId : String
  deriving DecidableEq, Repr

instance : Row ProductSku where
  pk := ProductSku.id
  withPk n sku := { sku with id := n }

/-- A forecast, with the order lists of its relation. -/
structure ForecastInbound where
  id : Nat
  forecastNo : String
  relateOrderSet : List Nat
  deriving DecidableEq, Repr

instance : Row ForecastInbound where
  pk := ForecastInbound.id
  withPk n forecast := { forecast with id := n }

structure OrderDetail where
  id : Nat
  orderlist : Nat
  chichuId : Nat
  arrivalQuantity : Int
  deriving DecidableEq, Repr

instance : Row OrderDetail where
  pk := OrderDetail.id
  withPk n detail := { detail with id := n }

inductive InBoundStatus where
  | pending
  | waitCheck
  | completed
  deriving DecidableEq, Repr

structure InBound where
  id : Nat
  expressNo : String
  forecastInbound : Nat
  oriOrderlist : Nat
  status : InBoundStatus
  checked : Bool
  outStock : Bool
  inferior : Bool
  deriving DecidableEq, Repr

instance : Row InBound where
  pk := InBound.id
  withPk n inbound := { inbound with id := n }

structure InBoundDetail where
  id : Nat
  inbound : Nat
  sku : Nat
  arrivalQuantity : Int
  inferiorQuantity : Int
  checked : Bool
  deriving DecidableEq, Repr

instance : Row InBoundDetail where
  pk := InBoundDetail.id
  withPk n detail := { detail with id := n }

/-- `OrderDetailInBoundDetail`, what of an inbound detail an order detail gets. -/
structure Record where
  id : Nat
  orderdetail : Nat
  inbounddetail : Nat
  arrivalQuantity : Int
  deriving DecidableEq, Repr

instance : Row Record where
  pk := Record.id
  withPk n record := { record with id := n }

inductive RefundStatus where
  | waitSellerAgree
  | waitReturnGoods
  | confirmGoods
  | refuseBuyer
  | success
  | other
  deriving DecidableEq, Repr

structure SaleRefund where
  id : Nat
  refundNo : String
  refundNum : Int
  status : RefundStatus
  feedback : String
  deriving DecidableEq, Repr

instance : Row SaleRefund where
  pk := SaleRefund.id
  withPk n refund := { refund with id := n }

/-- The tables of the warehouse and of the mall; `mall` is what else the mall has. -/
structure InboundDb (μ : Type) where
  inboundOrders : Table OutwareInboundOrder
  inboundSkus : Table OutwareInboundSku
  skuStocks : Table OutwareSkuStock
  productSkus : Table ProductSku
  forecasts : Table ForecastInbound
  orderDetails : Table OrderDetail
  inbounds : Table InBound
  inboundDetails : Table InBoundDetail
  records : Table Record
  saleRefunds : Table SaleRefund
  mall : μ

variable {μ : Type}

abbrev InboundTx (μ α : Type) := Tx (InboundDb μ) Exn α

/-- The pieces of a SKU that came in for an order list. -/
structure Arrival where
  sku : Nat
  num : Int
  orderlist : Nat
  deriving DecidableEq, Repr

/-- What the mall does behind the tables: `sync_stock` adds what came in to the stock and
sets it aside for customers, and a confirmed refund closes its order. -/
structure Mall (μ : Type) where
  syncStock : List Arrival → Tx μ Exn Unit
  closeOrder : SaleRefund → Tx μ Exn Unit

def inMall (m : Tx μ Exn Unit) : InboundTx μ Unit :=
  zoom InboundDb.mall (fun t s => { s with mall := t }) m

/-! ## The notification -/

/-- A line of a notification. -/
structure Line where
  skuCode : String
  batchNo : String
  pullGoodQty : Int
  pullBadQty : Int
  deriving DecidableEq, Repr

structure Notice where
  orderCode : String
  orderType : OrderType
  storeCode : String
  inboundSkus : List Line
  deriving DecidableEq, Repr

namespace OutwareInboundSku

def generateUnikey (inbound : Nat) (line : Line) : String :=
  line.batchNo ++ "-" ++ line.skuCode ++ "-" ++ toString inbound

/-- The row is the one that `get_or_create` looks for. -/
def Matches (inbound : Nat) (line : Line) (row : OutwareInboundSku) : Prop :=
  row.outwareInbound = inbound ∧ row.skuCode = line.skuCode ∧ row.batchNo = line.batchNo ∧
    row.uniKey = generateUnikey inbound line

instance (inbound : Nat) (line : Line) (row : OutwareInboundSku) :
    Decidable (Matches inbound line row) := inferInstanceAs (Decidable (_ ∧ _ ∧ _ ∧ _))

def pull (inbound : Nat) (line : Line) : InboundTx μ Unit := do
  match ← gets fun s => s.inboundSkus.first fun row => Matches inbound line row with
  | some row =>
      modify fun s => { s with
        inboundSkus := s.inboundSkus.save { row with
          pullGoodQty := line.pullGoodQty
          pullBadQty := line.pullBadQty } }
  | none => do
      let taken ← gets fun s =>
        s.inboundSkus.rows.any fun row => row.uniKey = generateUnikey inbound line
      raiseIf (taken = true) .integrityError
      modify fun s => { s with
        inboundSkus := s.inboundSkus.insert {
          id := 0
          outwareInbound := inbound
          skuCode := line.skuCode
          batchNo := line.batchNo
          pullGoodQty := line.pullGoodQty
          pullBadQty := line.pullBadQty
          uniKey := generateUnikey inbound line } }

end OutwareInboundSku

namespace OutwareSkuStock

def find (skuCode : String) (s : InboundDb μ) : Option OutwareSkuStock :=
  s.skuStocks.first fun stock => stock.skuCode = skuCode

/-- A stock that is new takes what can be sent from the line, too. -/
def push (line : Line) : InboundTx μ Unit := do
  match ← gets (find line.skuCode) with
  | some stock =>
      modify fun s => { s with
        skuStocks := s.skuStocks.save { stock with
          pushSkuGoodQty := stock.pushSkuGoodQty + line.pullGoodQty
          pushSkuBadQty := stock.pushSkuBadQty + line.pullBadQty } }
  | none =>
      modify fun s => { s with
        skuStocks := s.skuStocks.insert {
          id := 0
          skuCode := line.skuCode
          pushSkuGoodQty := line.pullGoodQty
          pushSkuBadQty := line.pullBadQty
          pullGoodAvailableQty := line.pullGoodQty
          pullBadQty := line.pullBadQty } }

end OutwareSkuStock

/-! ## A purchase that came in -/

/-- `ProductSku.objects.filter(outer_id=..).first()` -/
def skuOf (s : InboundDb μ) (skuCode : String) : Option ProductSku :=
  s.productSkus.first fun sku => sku.outerId = skuCode

namespace InBoundDetail

/-- A detail of a line, not yet stored; without a SKU it has no product. -/
def create (line : Line) : InboundTx μ InBoundDetail := do
  let sku ← getOr .attributeError fun s => skuOf s line.skuCode
  pure {
    id := 0
    inbound := 0
    sku := sku.id
    arrivalQuantity := line.pullGoodQty
    inferiorQuantity := line.pullBadQty
    checked := false }

def createAll : List Line → InboundTx μ (List InBoundDetail)
  | [] => pure []
  | line :: lines => do
      let ibd ← create line
      let ibds ← createAll lines
      pure (ibd :: ibds)

end InBoundDetail

namespace OrderDetail

/-- `set_arrival_quantity` without the stock: what of the checked details it gets. -/
def setArrivalQuantity (id : Nat) : InboundTx μ Unit :=
  modify fun s => { s with
    orderDetails := s.orderDetails.update (fun od => od.id = id) fun od =>
      { od with
        arrivalQuantity := s.records.sum fun r =>
          if r.orderdetail = id ∧ s.inboundDetails.rows.any (fun d =>
            d.id = r.inbounddetail && d.checked) = true then r.arrivalQuantity else 0 } }

end OrderDetail

namespace InBound

def details (inbound : Nat) (s : InboundDb μ) : List InBoundDetail :=
  s.inboundDetails.filter fun d => d.inbound = inbound

/-- A comprehension over rows: of equal keys the last one stays. -/
def skuDict (value : InBoundDetail → Int) (ds : List InBoundDetail) : List (Nat × Int) :=
  (ds.map InBoundDetail.sku).dedup.map fun sku =>
    (sku, (((ds.filter fun d => d.sku = sku).getLast?).map value).getD 0)

/-- `details.get(sku_id=..)` -/
def detailOf (inbound sku : Nat) : InboundTx μ InBoundDetail := do
  match ← gets fun s => (details inbound s).filter fun d => d.sku = sku with
  | [d] => pure d
  | [] => raise .doesNotExist
  | _ => raise .multipleObjectsReturned

def orderDetailOf (s : InboundDb μ) (orderlist sku : Nat) : Option OrderDetail :=
  s.orderDetails.first fun od => od.orderlist = orderlist ∧ od.chichuId = sku

/-- The order details of the list that get the goods, by SKU. -/
def dataOf (orderlist : Nat) : List (Nat × Int) → InboundTx μ (List (OrderDetail × Int))
  | [] => pure []
  | (sku, num) :: dict => do
      let od ← getOr .attributeError fun s => orderDetailOf s orderlist sku
      let data ← dataOf orderlist dict
      pure ((od, num) :: data)

def createRecord (inbound : Nat) (entry : OrderDetail × Int) : InboundTx μ Unit := do
  let d ← detailOf inbound entry.1.chichuId
  modify fun s => { s with
    records := s.records.insert {
      id := 0
      orderdetail := entry.1.id
      inbounddetail := d.id
      arrivalQuantity := entry.2 } }

def setStat (s : InboundDb μ) (inbound : InBound) : InBound :=
  { inbound with
    outStock := ((details inbound.id s).map InBoundDetail.arrivalQuantity).sum >
      s.records.sum fun r => if s.inboundDetails.rows.any (fun d =>
        d.id = r.inbounddetail && d.inbound = inbound.id) = true then r.arrivalQuantity else 0
    inferior := ((details inbound.id s).map InBoundDetail.inferiorQuantity).sum > 0 }

def save (inbound : InBound) : InboundTx μ Unit :=
  modify fun s => { s with inbounds := s.inbounds.save (setStat s inbound) }

/-- No SKU is asked for more than came in of it. -/
def checkRequest (ds : List InBoundDetail) (data : List (OrderDetail × Int)) : InboundTx μ Unit :=
  raiseIf (∃ entry ∈ data,
      ((data.filter fun e => e.1.chichuId = entry.1.chichuId).map Prod.snd).sum >
        ((skuDict (fun d => d.arrivalQuantity + d.inferiorQuantity) ds).lookup
          entry.1.chichuId).getD 0)
    (.exception "分配数不能超出总数")

/-- `allocate()`; an error of the forecasts is swallowed, and these are left out. -/
def allocate (inbound : InBound) : InboundTx μ Unit := do
  let ds ← gets (details inbound.id)
  let data ← dataOf inbound.oriOrderlist (skuDict InBoundDetail.arrivalQuantity ds)
  checkRequest ds data
  forEach data (createRecord inbound.id)
  save { inbound with status := .waitCheck }

def arrivals (inbound : Nat) (s : InboundDb μ) : List Arrival :=
  (details inbound s).flatMap fun d =>
    (s.records.filter fun r => r.inbounddetail = d.id).filterMap fun r =>
      (s.orderDetails.get? r.orderdetail).map fun od =>
        ⟨d.sku, r.arrivalQuantity, od.orderlist⟩

/-- `finish_check()` without data: the details stay as they are. -/
def finishCheck (mall : Mall μ) (inbound : InBound) : InboundTx μ Unit := do
  modify fun s => { s with
    inboundDetails := s.inboundDetails.update (fun d => d.inbound = inbound.id) fun d =>
      { d with checked := true } }
  save { inbound with
    status := .completed
    checked := true }
  let orderdetails ← gets fun s => (details inbound.id s).flatMap fun d =>
    (s.records.filter fun r => r.inbounddetail = d.id).map Record.orderdetail
  forEach orderdetails OrderDetail.setArrivalQuantity
  let moved ← gets (arrivals inbound.id)
  inMall (mall.syncStock moved)

def addDetail (inbound : Nat) (ibd : InBoundDetail) : InboundTx μ Unit :=
  modify fun s => { s with
    inboundDetails := s.inboundDetails.insert { ibd with inbound := inbound } }

def forecastOf (s : InboundDb μ) (forecastNo : String) : Option ForecastInbound :=
  s.forecasts.first fun f => f.forecastNo = forecastNo

def create (mall : Mall μ) (ibds : List InBoundDetail) (forecastNo expressNo : String) :
    InboundTx μ Unit := do
  let forecast ← getOr .doesNotExist fun s => forecastOf s forecastNo
  let orderlist ← getOr .attributeError fun _ => forecast.relateOrderSet.head?
  let inbound : InBound := {
    id := 0
    expressNo := expressNo
    forecastInbound := forecast.id
    oriOrderlist := orderlist
    status := .pending
    checked := false
    outStock := false
    inferior := false }
  let stored ← gets fun s => s.inbounds.stored inbound
  modify fun s => { s with inbounds := s.inbounds.insert inbound }
  forEach ibds (addDetail stored.id)
  stored.allocate
  finishCheck mall { stored with status := .waitCheck }

end InBound

def updateForecastInboundByOutwareInbound (mall : Mall μ) (orderCode : String)
    (lines : List Line) : InboundTx μ Unit := do
  let ibds ← InBoundDetail.createAll lines
  InBound.create mall ibds orderCode "fengchao"

namespace SaleRefund

def save (refund : SaleRefund) : InboundTx μ Unit :=
  modify fun s => { s with saleRefunds := s.saleRefunds.save refund }

def refundConfirm (mall : Mall μ) (refund : SaleRefund) : InboundTx μ Unit :=
  if refund.status = .success then pure ()
  else do
    let refund := { refund with status := .success }
    refund.save
    inMall (mall.closeOrder refund)

def refundRefuse (feedback : String) (refund : SaleRefund) : InboundTx μ Unit :=
  if refund.status ∈ [RefundStatus.waitSellerAgree, .waitReturnGoods, .confirmGoods] then
    save { refund with
      status := .refuseBuyer
      feedback := feedback }
  else pure ()

end SaleRefund

/-- The text of a refusal has three places, and its values stand in one list: `format`
finds no second one. -/
def formatFeedback (_values : List Int) : Except Exn String :=
  .error (.exception "tuple index out of range")

def updateRefundproductByOutwareInbound (mall : Mall μ) (orderCode : String)
    (lines : List Line) : InboundTx μ Unit := do
  let line ← getOr (.exception "list index out of range") fun _ => lines.head?
  let refund ← getOr .doesNotExist fun s => s.saleRefunds.first fun r => r.refundNo = orderCode
  if refund.refundNum = line.pullGoodQty then refund.refundConfirm mall
  else do
    let feedback ← ofExcept (formatFeedback [line.pullGoodQty, line.pullBadQty, refund.refundNum])
    refund.refundRefuse feedback

def book (mall : Mall μ) (notice : Notice) : InboundTx μ Unit :=
  match notice.orderType with
  | .purchase => updateForecastInboundByOutwareInbound mall notice.orderCode notice.inboundSkus
  | .refund => updateRefundproductByOutwareInbound mall notice.orderCode notice.inboundSkus

def receive (inbound : OutwareInboundOrder) (notice : Notice) : InboundTx μ Unit := do
  modify fun s => { s with
    inboundOrders := s.inboundOrders.save { inbound with
      storeCode := if inbound.storeCode = "" then notice.storeCode else inbound.storeCode
      status := .arrived } }
  forEach notice.inboundSkus (OutwareInboundSku.pull inbound.id)
  forEach notice.inboundSkus OutwareSkuStock.push

def find (notice : Notice) (s : InboundDb μ) : Option OutwareInboundOrder :=
  s.inboundOrders.first fun order =>
    order.inboundCode = notice.orderCode ∧ order.orderType = notice.orderType

/-- Whether the mall has booked the goods; its errors stay within the transaction. -/
def updateOutwareInboundByPoConfirm (mall : Mall μ) (notice : Notice) : InboundTx μ Bool :=
  atomic do
    let inbound ← getOr .doesNotExist (find notice)
    raiseIf (inbound.status ≠ .normal ∧ inbound.status ≠ .received)
      (.exception "外仓通知单对应内部外仓入仓单状态异常")
    receive inbound notice
    tryCatch (do
      book mall notice
      pure true) fun _ => pure false

/-- `po_confirm`: the code of the answer.  An exception is answered like a success. -/
def poConfirm (mall : Mall μ) (notice : Notice) (s : InboundDb μ) : Nat × InboundDb μ :=
  match (updateOutwareInboundByPoConfirm mall notice).run s with
  | (.ok true, s') => (0, s')
  | (.ok false, s') => (1, s')
  | (.error _, s') => (0, s')

end ShopManager.Outware.Inbound
