import Mathlib.Data.List.Sort
import Mathlib.Data.String.Basic
import ShopManager.Basic
import ShopManager.Library.Table
import ShopManager.Library.Text
import ShopManager.Library.Transaction

/-!
# Forecasts of arrivals

What is to arrive for some order lists is forecast, SKU by SKU, and what does arrive is recorded
against the forecasts.  A forecast can be stripped of what is still missing, and the order lists
that share forecasts or arrivals are grouped.
-/

namespace ShopManager.Forecast

open Library Library.Tx Library.Text

/-! ## Data -/

inductive ForecastStatus where
  | draft | approved | arrived | timeout | finished | closed | canceled
  deriving DecidableEq, Repr

/-- `relateOrderSet` has the ids of the order lists that the goods are for. -/
structure ForecastInbound where
  id : Nat
  forecastNo : String
  supplierId : Option Nat
  relateOrderSet : List Nat
  wareHouse : Nat
  expressCode : String
  expressNo : String
  forecastArriveTime : Option Nat
  purchaser : String
  status : ForecastStatus
  deriving DecidableEq, Repr

instance : Row ForecastInbound where
  pk := ForecastInbound.id
  withPk n forecast := { forecast with id := n }

inductive ForecastDetailStatus where
  | normal | delete
  deriving DecidableEq, Repr

structure ForecastInboundDetail where
  id : Nat
  forecastInbound : Nat
  productId : Nat
  skuId : Nat
  forecastArriveNum : Int
  productName : String
  productImg : String
  status : ForecastDetailStatus
  deriving DecidableEq, Repr

instance : Row ForecastInboundDetail where
  pk := ForecastInboundDetail.id
  withPk n detail := { detail with id := n }

inductive RealInboundStatus where
  | staging | completed | canceled
  deriving DecidableEq, Repr

structure RealInbound where
  id : Nat
  forecastInbound : Option Nat
  relateOrderSet : List Nat
  status : RealInboundStatus
  deriving DecidableEq, Repr

instance : Row RealInbound where
  pk := RealInbound.id
  withPk n inbound := { inbound with id := n }

inductive RealDetailStatus where
  | normal | invalid
  deriving DecidableEq, Repr

structure RealInboundDetail where
  id : Nat
  inbound : Nat
  skuId : Nat
  arrivalQuantity : Int
  status : RealDetailStatus
  deriving DecidableEq, Repr

instance : Row RealInboundDetail where
  pk := RealInboundDetail.id
  withPk n detail := { detail with id := n }

structure OrderList where
  id : Nat
  orderGroupKey : String
  deriving DecidableEq, Repr

instance : Row OrderList where
  pk := OrderList.id
  withPk n ol := { ol with id := n }

structure SaleSupplier where
  id : Nat
  wareBy : Nat
  deltaArriveDays : Nat
  deriving DecidableEq, Repr

instance : Row SaleSupplier where
  pk := SaleSupplier.id
  withPk n supplier := { supplier with id := n }

structure ForecastDb where
  forecasts : Table ForecastInbound
  details : Table ForecastInboundDetail
  realInbounds : Table RealInbound
  realDetails : Table RealInboundDetail
  orderLists : Table OrderList
  suppliers : Table SaleSupplier

abbrev ForecastTx (α : Type) := Tx ForecastDb Exn α

/-- A column of texts of some width; the database cuts a text that is too long, or refuses it. -/
structure CharColumn (width : Nat) where
  store : String → Option String
  keeps : ∀ text, text.length ≤ width → store text = some text
  bounded : ∀ text kept, store text = some kept → kept.length ≤ width

namespace ForecastInbound

def create (forecast : ForecastInbound) : ForecastTx ForecastInbound := do
  let taken ← gets fun s => s.forecasts.rows.any fun f => f.forecastNo = forecast.forecastNo
  raiseIf (taken = true) .integrityError
  let stored ← gets fun s => s.forecasts.stored forecast
  modify fun s => { s with forecasts := s.forecasts.insert forecast }
  pure stored

/-- `relate_order_set.add` of each of the order lists, which are distinct. -/
def relate (forecast : Nat) (orders : List Nat) : ForecastTx Unit :=
  modify fun s => { s with
    forecasts := s.forecasts.update (fun f => f.id = forecast) fun f =>
      { f with relateOrderSet := orders } }

def normalDetails (s : ForecastDb) (forecast : Nat) : List ForecastInboundDetail :=
  s.details.filter fun d => d.forecastInbound = forecast ∧ d.status = .normal

def totalDetailNum (s : ForecastDb) (forecast : Nat) : Int :=
  ((normalDetails s forecast).map ForecastInboundDetail.forecastArriveNum).sum

end ForecastInbound

def ForecastInboundDetail.create (detail : ForecastInboundDetail) : ForecastTx Unit := do
  let taken ← gets fun s => s.details.rows.any fun d =>
    d.skuId = detail.skuId ∧ d.forecastInbound = detail.forecastInbound
  raiseIf (taken = true) .integrityError
  modify fun s => { s with details := s.details.insert detail }

/-- The number that follows the last one, in the order of texts, of those that begin with the
number of the parent up to its first `-`. -/
def genSubforecastInboundNo (s : ForecastDb) (parentId : String) : String :=
  let forecastId := (split '-' parentId).headD ""
  let forecasts := (s.forecasts.filter fun f =>
    forecastId.toList <+: f.forecastNo.toList).insertionSort fun f g => g.forecastNo ≤ f.forecastNo
  match forecasts.head? with
  | none => forecastId ++ "-1"
  | some forecast =>
      match split '-' forecast.forecastNo with
      | _ :: n :: _ =>
          if isDigits n = true then forecastId ++ "-" ++ toString (number n + 1)
          else forecastId ++ "-1"
      | _ => forecastId ++ "-1"

/-- What arrived of a SKU, over all inbounds of the forecast. -/
def realArriveNum (s : ForecastDb) (forecast sku : Nat) : Int :=
  ((s.realDetails.filter fun d => d.skuId = sku ∧ d.status = .normal ∧
    (s.realInbounds.get? d.inbound).any (fun r => r.forecastInbound = some forecast) = true).map
      RealInboundDetail.arrivalQuantity).sum

/-- `sku_delta_dict`: the SKUs that arrived short, with what is missing. -/
def skuDeltaDict (s : ForecastDb) (forecast : Nat) : List (Nat × Int) :=
  ((ForecastInbound.normalDetails s forecast).map fun d =>
    (d.skuId, d.forecastArriveNum - realArriveNum s forecast d.skuId)).filter fun entry =>
      0 < entry.2

/-- `sku_delta_dict.get(sku, 0)`; the last entry of a SKU counts. -/
def delta (dict : List (Nat × Int)) (sku : Nat) : Int :=
  ((dict.reverse.find? fun entry => entry.1 = sku).map Prod.snd).getD 0

def stripForecastInbound (forecastInboundId : Nat) : ForecastTx (Option ForecastInbound) :=
  atomic do
    let forecastInbound ← getOr .doesNotExist fun s => s.forecasts.get? forecastInboundId
    let dict ← gets fun s => skuDeltaDict s forecastInbound.id
    if dict = [] then pure none
    else do
      let no ← gets fun s => genSubforecastInboundNo s forecastInbound.forecastNo
      let newForecast ← ForecastInbound.create {
        id := 0
        forecastNo := no
        supplierId := forecastInbound.supplierId
        relateOrderSet := []
        wareHouse := forecastInbound.wareHouse
        expressCode := forecastInbound.expressCode
        expressNo := forecastInbound.expressNo
        forecastArriveTime := none
        purchaser := ""
        status := .draft }
      ForecastInbound.relate newForecast.id forecastInbound.relateOrderSet
      let details ← gets fun s => ForecastInbound.normalDetails s forecastInbound.id
      forEach details fun detail =>
        if 0 < delta dict detail.skuId then
          ForecastInboundDetail.create {
            id := 0
            forecastInbound := newForecast.id
            productId := detail.productId
            skuId := detail.skuId
            forecastArriveNum := delta dict detail.skuId
            productName := detail.productName
            productImg := detail.productImg
            status := .normal }
        else pure ()
      pure (some newForecast)

def getNormalForecastInboundByOrderid (s : ForecastDb) (ids : List Nat) : List ForecastInbound :=
  s.forecasts.filter fun f => (∃ id ∈ f.relateOrderSet, id ∈ ids) ∧ f.status ≠ .canceled

def getNormalRealinboundByOrderid (s : ForecastDb) (ids : List Nat) : List RealInbound :=
  s.realInbounds.filter fun r => (∃ id ∈ r.relateOrderSet, id ∈ ids) ∧
    (r.status = .staging ∨ r.status = .completed)

def unorderIds : List Nat → List Nat → List Nat
  | [], _ => []
  | id :: ids, aggregateSet =>
      if id ∈ aggregateSet then unorderIds ids aggregateSet
      else id :: unorderIds ids (id :: aggregateSet)

/-- The calls go no deeper than `depth`. -/
def recursiveAggragateOrders (s : ForecastDb) : Nat → List Nat → List Nat → Option (List Nat)
  | 0, _, _ => none
  | depth + 1, orderIds, aggregateSet =>
      let new := unorderIds orderIds aggregateSet
      if new = [] then some aggregateSet
      else do
        let forecasts := getNormalForecastInboundByOrderid s new
        let aggregateSet ← recursiveAggragateOrders s depth
          (forecasts.flatMap ForecastInbound.relateOrderSet) (aggregateSet ++ new)
        let inbounds := getNormalRealinboundByOrderid s new
        recursiveAggragateOrders s depth (inbounds.flatMap RealInbound.relateOrderSet) aggregateSet

def genPurchaseOrderGroupKey (orderIds : List Nat) : String :=
  "-" ++ join '-' ((orderIds.insertionSort fun m n => m ≤ n).map toString) ++ "-"

def groupKeyIds (orderGroupKey : String) : List Nat := numbers (split '-' orderGroupKey)

def taskUpdateOrderGroupKey (column : CharColumn 128) (depth : Nat) (orderIds : List Nat) :
    ForecastTx Unit := do
  let orderIdSet ← getOr (.exception "maximum recursion depth exceeded") fun s =>
    recursiveAggragateOrders s depth orderIds []
  let orderGroupKey := genPurchaseOrderGroupKey orderIdSet
  let found ← gets fun s => s.orderLists.rows.any fun ol => ol.id ∈ orderIdSet
  if found = true then do
    let stored ← getOr (.exception "DataError") fun _ => column.store orderGroupKey
    modify fun s => { s with
      orderLists := s.orderLists.update (fun ol => ol.id ∈ orderIdSet) fun ol =>
        { ol with orderGroupKey := stored } }
  else pure ()

end ShopManager.Forecast
