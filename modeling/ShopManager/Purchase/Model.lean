import ShopManager.Warehouse.Packet

/-!
# Purchases from suppliers

What a supplier has to deliver is collected in a purchase order.  Each paid item
that is not in stock gets an arrangement under the key of the order; a task then
adds it to the detail of its SKU, whose numbers go on to the order and to the
order list that the buyers see.
-/

namespace ShopManager.Purchase

open Library Library.Tx
open Warehouse (PurchaseKey PurchaseStatus PackageSkuItem)

/-- The cost of a SKU in fen: `int(cost * 100)`, and `int(cost * 100 * n)`, which
need not be `n` times as much. -/
structure SkuCost where
  unit : Int
  total : Int → Int
  total_zero : total 0 = 0

/-- A cost of `num / den` yuan. -/
def SkuCost.ofFraction (num den : Nat) : SkuCost where
  unit := (100 * num : Int) / den
  total n := (100 * num * n : Int) / den
  total_zero := by simp

structure PurchaseOrder where
  id : Nat
  uniKey : PurchaseKey
  supplierId : Nat
  bookNum : Int
  needNum : Int
  arrivalNum : Int
  totalPrice : Int
  status : PurchaseStatus
  deriving DecidableEq, Repr

instance : Row PurchaseOrder where
  pk := PurchaseOrder.id
  withPk n order := { order with id := n }

/-- The purchase of one SKU in a purchase order.  Its `uni_key` is made of the two. -/
structure PurchaseDetail where
  id : Nat
  skuId : Nat
  purchaseOrderUnikey : PurchaseKey
  bookNum : Int
  needNum : Int
  arrivalNum : Int
  status : PurchaseStatus
  unitPrice : Int
  totalPrice : Int
  deriving DecidableEq, Repr

instance : Row PurchaseDetail where
  pk := PurchaseDetail.id
  withPk n detail := { detail with id := n }

inductive ArrangementStatus where
  | effect | cancel
  deriving DecidableEq, Repr

/-- The purchase of one item.  Its `uni_key` is made of the purchase order and the
item; the key `s0` of a SKU without supplier is `none`. -/
structure PurchaseArrangement where
  id : Nat
  oid : Nat
  skuId : Nat
  purchaseOrderUnikey : Option PurchaseKey
  num : Nat
  status : ArrangementStatus
  purchaseOrderStatus : PurchaseStatus
  initialBook : Bool
  genOrder : Bool
  deriving DecidableEq, Repr

instance : Row PurchaseArrangement where
  pk := PurchaseArrangement.id
  withPk n pa := { pa with id := n }

inductive OrderListStage where
  | draft | checked | pay | receive | state | completed | deleted
  deriving DecidableEq, Repr

/-- The order that buyers handle; amounts are in fen. -/
structure OrderList where
  id : Nat
  purchaseOrderUnikey : PurchaseKey
  orderAmount : Int
  purchaseTotalNum : Int
  supplierId : Nat
  stage : OrderListStage
  deriving DecidableEq, Repr

instance : Row OrderList where
  pk := OrderList.id
  withPk n ol := { ol with id := n }

structure OrderDetail where
  id : Nat
  skuId : Nat
  purchaseOrderUnikey : PurchaseKey
  buyQuantity : Int
  buyUnitprice : Int
  totalPrice : Int
  orderlistId : Option Nat
  deriving DecidableEq, Repr

instance : Row OrderDetail where
  pk := OrderDetail.id
  withPk n od := { od with id := n }

/-- The tables of the purchasing code; `suppliers` is the supplier of the product
of a SKU. -/
structure PurchaseDb where
  purchaseOrders : Table PurchaseOrder
  purchaseDetails : Table PurchaseDetail
  purchaseArrangements : Table PurchaseArrangement
  orderLists : Table OrderList
  orderDetails : Table OrderDetail
  packageSkuItems : Table PackageSkuItem
  suppliers : Nat → Option Nat
  costs : Nat → SkuCost

abbrev PurchaseTx (α : Type) := Tx PurchaseDb Exn α

/-! ## Order lists -/

def OrderList.isOpen (ol : OrderList) : Bool := ol.stage = .draft

namespace PurchaseOrder

/-- A list is made with the amount alone.  Afterwards its amount in yuan is compared
with the price in fen. -/
def syncOrderList (po : PurchaseOrder) (s : PurchaseDb) : PurchaseDb :=
  match s.orderLists.first fun ol =>
    ol.purchaseOrderUnikey = po.uniKey ∧ ol.stage ≠ .deleted with
  | none =>
      let ol : OrderList :=
        { id := 0
          purchaseOrderUnikey := po.uniKey
          orderAmount := po.totalPrice
          purchaseTotalNum := 0
          supplierId := po.uniKey.supplierId
          stage := .draft }
      { s with
        orderLists := s.orderLists.insert ol
        orderDetails := s.orderDetails.update (fun od => od.purchaseOrderUnikey = po.uniKey)
          fun od => { od with orderlistId := some s.orderLists.nextId } }
  | some ol =>
      if (ol.orderAmount ≠ 100 * po.totalPrice ∨ ol.purchaseTotalNum ≠ po.bookNum) ∧
          ol.isOpen then
        { s with
          orderLists := s.orderLists.update (fun r => r.id = ol.id) fun r =>
            { r with orderAmount := po.totalPrice, purchaseTotalNum := po.bookNum } }
      else s

/-- The number after those of the orders that are not open any more. -/
def genPurchaseOrderUnikey (s : PurchaseDb) (sku : Nat) : Option PurchaseKey :=
  (s.suppliers sku).map fun supplier =>
    ⟨supplier, (s.purchaseOrders.filter fun order =>
      order.supplierId = supplier ∧ order.status ≠ .opened).length + 1⟩

def detailSum (s : PurchaseDb) (key : PurchaseKey) (column : PurchaseDetail → Int) : Int :=
  s.purchaseDetails.sum fun pd => if pd.purchaseOrderUnikey = key then column pd else 0

def create (s : PurchaseDb) (key : PurchaseKey) : PurchaseOrder where
  id := s.purchaseOrders.nextId
  uniKey := key
  supplierId := key.supplierId
  bookNum := detailSum s key PurchaseDetail.bookNum
  needNum := detailSum s key PurchaseDetail.needNum
  arrivalNum := detailSum s key PurchaseDetail.arrivalNum
  totalPrice := detailSum s key PurchaseDetail.totalPrice
  status := .opened

/-- The object after its columns were compared with the details. -/
def recount (s : PurchaseDb) (po : PurchaseOrder) : PurchaseOrder :=
  let key := po.uniKey
  if po.status = .opened ∧
      (po.bookNum ≠ detailSum s key PurchaseDetail.bookNum ∨
        po.needNum ≠ detailSum s key PurchaseDetail.needNum ∨
          po.arrivalNum ≠ detailSum s key PurchaseDetail.arrivalNum) then
    { po with
      bookNum := detailSum s key PurchaseDetail.bookNum
      needNum := detailSum s key PurchaseDetail.needNum
      arrivalNum := detailSum s key PurchaseDetail.arrivalNum
      totalPrice := detailSum s key PurchaseDetail.totalPrice }
  else po

@[simp] theorem recount_id (s : PurchaseDb) (po : PurchaseOrder) :
    (po.recount s).id = po.id := by
  unfold recount
  dsimp only
  split <;> rfl

def restat (key : PurchaseKey) (s : PurchaseDb) : PurchaseDb :=
  match s.purchaseOrders.first fun po => po.uniKey = key with
  | none =>
      let po := create s key
      po.syncOrderList { s with purchaseOrders := s.purchaseOrders.insert po }
  | some po =>
      let po := po.recount s
      po.syncOrderList { s with purchaseOrders := s.purchaseOrders.save po }

end PurchaseOrder

namespace PurchaseArrangement

/-- The numbers of the arrangements in effect, for a SKU in an order. -/
def effectNum (s : PurchaseDb) (key : PurchaseKey) (sku : Nat) : Int :=
  s.purchaseArrangements.sum fun pa =>
    if pa.purchaseOrderUnikey = some key ∧ pa.skuId = sku ∧ pa.status = .effect then
      (pa.num : Int)
    else 0

end PurchaseArrangement

namespace PurchaseDetail

open PurchaseArrangement

def isOpen (pd : PurchaseDetail) : Bool := pd.status = .opened

def find (s : PurchaseDb) (sku : Nat) (key : PurchaseKey) : Option PurchaseDetail :=
  s.purchaseDetails.first fun pd => pd.skuId = sku ∧ pd.purchaseOrderUnikey = key

theorem find_spec {s : PurchaseDb} {sku : Nat} {key : PurchaseKey} {pd : PurchaseDetail}
    (h : find s sku key = some pd) :
    pd ∈ s.purchaseDetails ∧ pd.skuId = sku ∧ pd.purchaseOrderUnikey = key := by
  have hspec := Table.first_spec h
  exact ⟨Table.mem_of_first h, of_decide_eq_true hspec⟩

/-- A list past its draft keeps its details.  The price in yuan is compared with the
price in fen here as well. -/
def syncOrderDetail (pd : PurchaseDetail) (s : PurchaseDb) : PurchaseDb :=
  let price := pd.unitPrice * pd.bookNum
  match s.orderDetails.first fun od =>
    od.skuId = pd.skuId ∧ od.purchaseOrderUnikey = pd.purchaseOrderUnikey with
  | none =>
      let od : OrderDetail :=
        { id := 0
          skuId := pd.skuId
          purchaseOrderUnikey := pd.purchaseOrderUnikey
          buyQuantity := pd.bookNum
          buyUnitprice := pd.unitPrice
          totalPrice := price
          orderlistId := (s.orderLists.first fun ol =>
            ol.purchaseOrderUnikey = pd.purchaseOrderUnikey).map OrderList.id }
      { s with orderDetails := s.orderDetails.insert od }
  | some od =>
      if ((od.orderlistId.bind s.orderLists.get?).any fun ol => !ol.isOpen) then s
      else if od.totalPrice ≠ 100 * pd.totalPrice ∨ od.buyQuantity ≠ pd.bookNum then
        { s with
          orderDetails := s.orderDetails.update (fun r => r.id = od.id) fun r =>
            { r with
              buyQuantity := pd.bookNum
              buyUnitprice := pd.unitPrice
              totalPrice := price } }
      else s

def ofArrangement (s : PurchaseDb) (sku : Nat) (key : PurchaseKey) : PurchaseDetail :=
  let total := effectNum s key sku
  { id := s.purchaseDetails.nextId
    skuId := sku
    purchaseOrderUnikey := key
    bookNum := total
    needNum := total
    arrivalNum := 0
    status := .opened
    unitPrice := (s.costs sku).unit
    totalPrice := (s.costs sku).total total }

def create (sku : Nat) (key : PurchaseKey) (s : PurchaseDb) : PurchaseDb :=
  let pd := ofArrangement s sku key
  PurchaseOrder.restat key
    (pd.syncOrderDetail { s with purchaseDetails := s.purchaseDetails.insert pd })

/-- Whether the object disagrees with the arrangements. -/
def outdated (s : PurchaseDb) (pd : PurchaseDetail) : Bool :=
  let total := effectNum s pd.purchaseOrderUnikey pd.skuId
  pd.bookNum ≠ total ∨ pd.totalPrice ≠ (s.costs pd.skuId).total total

/-- The object after `restat` compared it with the arrangements. -/
def recount (s : PurchaseDb) (pd : PurchaseDetail) : PurchaseDetail :=
  let total := effectNum s pd.purchaseOrderUnikey pd.skuId
  let unitPrice := (s.costs pd.skuId).unit
  if pd.outdated s then
    { pd with
      bookNum := total
      needNum := total
      unitPrice := unitPrice
      totalPrice := unitPrice * total }
  else pd

@[simp] theorem recount_id (s : PurchaseDb) (pd : PurchaseDetail) :
    (pd.recount s).id = pd.id := by
  unfold recount
  dsimp only
  split <;> rfl

/-- The columns that `restat` saves. -/
def setTotals (pd : PurchaseDetail) (r : PurchaseDetail) : PurchaseDetail :=
  { r with
    bookNum := pd.bookNum
    needNum := pd.needNum
    unitPrice := pd.unitPrice
    totalPrice := pd.totalPrice }

def saveTotals (pd : PurchaseDetail) (s : PurchaseDb) : PurchaseDb :=
  { s with purchaseDetails := s.purchaseDetails.update (fun r => r.id = pd.id) pd.setTotals }

def restat (pd : PurchaseDetail) (s : PurchaseDb) : PurchaseDb :=
  let pd' := pd.recount s
  PurchaseOrder.restat pd.purchaseOrderUnikey
    (pd'.syncOrderDetail (if pd.outdated s then pd'.saveTotals s else s))

end PurchaseDetail

namespace PurchaseArrangement

def save (pa : PurchaseArrangement) (s : PurchaseDb) : PurchaseDb :=
  { s with purchaseArrangements := s.purchaseArrangements.save pa }

def get (id : Nat) : PurchaseTx PurchaseArrangement :=
  getOr .doesNotExist fun s => s.purchaseArrangements.get? id

def skuitem (oid : Nat) : PurchaseTx PackageSkuItem :=
  getOr .doesNotExist fun s => s.packageSkuItems.get? oid

/-- Another arrangement has the purchase order and the item. -/
def uniKeyTaken (s : PurchaseDb) (pa : PurchaseArrangement) : Bool :=
  (s.purchaseArrangements.first fun r =>
    r.purchaseOrderUnikey = pa.purchaseOrderUnikey ∧ r.oid = pa.oid ∧ r.id ≠ pa.id).isSome

def ofItem (s : PurchaseDb) (psi : PackageSkuItem) : PurchaseArrangement where
  id := s.purchaseArrangements.nextId
  oid := psi.id
  skuId := psi.skuId
  purchaseOrderUnikey := PurchaseOrder.genPurchaseOrderUnikey s psi.skuId
  num := psi.num
  status := if psi.assignStatus = .notAssigned then .effect else .cancel
  purchaseOrderStatus := .opened
  initialBook := false
  genOrder := false

def create (psi : PackageSkuItem) : PurchaseTx Unit := do
  let taken ← gets fun s => uniKeyTaken s (ofItem s psi)
  raiseIf (taken = true) .integrityError
  modify fun s => { s with purchaseArrangements := s.purchaseArrangements.insert (ofItem s psi) }

/-- The object under the key that a new arrangement of its item would get. -/
def resetPurchaseOrder (s : PurchaseDb) (psi : PackageSkuItem) (pa : PurchaseArrangement) :
    PurchaseArrangement :=
  if pa.initialBook then pa
  else { pa with
    purchaseOrderUnikey := PurchaseOrder.genPurchaseOrderUnikey s psi.skuId
    status := .effect }

def setGenOrder (id : Nat) (s : PurchaseDb) : PurchaseDb :=
  { s with
    purchaseArrangements := s.purchaseArrangements.update (fun r => r.id = id)
      fun r => { r with genOrder := true } }

def moveTo (moved r : PurchaseArrangement) : PurchaseArrangement :=
  { r with purchaseOrderUnikey := moved.purchaseOrderUnikey, status := moved.status }

/-- The detail of the SKU; `closed` is what happens where it is not open any more. -/
def orderDetail (closed : PurchaseTx Unit) (sku : Nat) (key : PurchaseKey) :
    PurchaseTx Unit := do
  let detail ← gets fun s => PurchaseDetail.find s sku key
  match detail with
  | none => modify (PurchaseDetail.create sku key)
  | some pd => if pd.isOpen then modify pd.restat else closed

/-- The status of the item; the counters of its stock row are not read here. -/
def setStatusPrepareBook (oid : Nat) : PurchaseTx Unit := do
  let psi ← skuitem oid
  modify fun s => { s with packageSkuItems := s.packageSkuItems.save psi.toPrepareBook }

/-- The part of `generate_order` that both rounds share. -/
def generateOrderWith (closed : PurchaseArrangement → PurchaseTx Unit)
    (pa : PurchaseArrangement) : PurchaseTx Unit :=
  match pa.purchaseOrderUnikey with
  | none => pure ()
  | some key => do
      modify (setGenOrder pa.id)
      orderDetail (closed pa) pa.skuId key
      setStatusPrepareBook pa.oid

def raiseClosed (_ : PurchaseArrangement) : PurchaseTx Unit :=
  raise (.exception "PA对应的订货单已订货无法再订")

/-- A booked arrangement is not moved, so that the second round finds the detail of the
first. -/
def retryOrder (pa : PurchaseArrangement) : PurchaseTx Unit :=
  if pa.initialBook then raiseClosed pa
  else do
    let psi ← skuitem pa.oid
    let taken ← gets fun s => uniKeyTaken s (resetPurchaseOrder s psi pa)
    raiseIf (taken = true) .integrityError
    modify fun s => { s with
      purchaseArrangements := s.purchaseArrangements.update (fun r => r.id = pa.id)
        (moveTo (resetPurchaseOrder s psi pa)) }
    let pa ← get pa.id
    generateOrderWith raiseClosed pa

def generateOrder (pa : PurchaseArrangement) (retry : Bool) : PurchaseTx Unit :=
  generateOrderWith (if retry then retryOrder else raiseClosed) pa

/-- The task that the save of a new arrangement queues. -/
def taskUpdatePurchasedetail (id : Nat) : PurchaseTx Unit :=
  atomic do
    let pa ← get id
    generateOrder pa false

/-- An open detail is counted again and then saved as it is in memory. -/
def cancelDetail (sku : Nat) (key : PurchaseKey) : PurchaseTx Unit := do
  let detail ← gets fun s => PurchaseDetail.find s sku key
  match detail.filter PurchaseDetail.isOpen with
  | none => pure ()
  | some pd =>
      let pd' ← gets pd.recount
      modify pd.restat
      modify fun s => { s with purchaseDetails := s.purchaseDetails.save pd' }

/-- Only an arrangement that is not booked is cancelled. -/
def cancel (pa : PurchaseArrangement) : PurchaseTx Unit :=
  if pa.initialBook then pure ()
  else do
    modify { pa with status := .cancel }.save
    match pa.purchaseOrderUnikey with
    | none => pure ()
    | some key => cancelDetail pa.skuId key

end PurchaseArrangement

namespace PurchaseOrder

def setBooked (key : PurchaseKey) (r : PurchaseArrangement) : PurchaseArrangement :=
  if r.purchaseOrderUnikey = some key ∧ r.status = .effect then
    { r with purchaseOrderStatus := .booked, initialBook := true }
  else r

/-- The item behind a booked arrangement.  A supplier who sends it himself has it packed,
in a package that no purchase reads. -/
def bookItem (key : PurchaseKey) (thirdPackage : Bool) (psi : PackageSkuItem) :
    PackageSkuItem :=
  if thirdPackage then psi.toVirtualBooked key psi.packageOrderId else psi.toBooked key

def book (po : PurchaseOrder) (thirdPackage : Bool) (s : PurchaseDb) : PurchaseDb :=
  let arrangements := s.purchaseArrangements.update (fun _ => true) (setBooked po.uniKey)
  let oids := (arrangements.filter fun pa =>
    pa.purchaseOrderUnikey = some po.uniKey ∧ pa.status = .effect).map PurchaseArrangement.oid
  { s with
    purchaseOrders := s.purchaseOrders.save { po with status := .booked }
    purchaseDetails := s.purchaseDetails.update
      (fun pd => pd.purchaseOrderUnikey = po.uniKey) fun pd => { pd with status := .booked }
    purchaseArrangements := arrangements
    packageSkuItems := s.packageSkuItems.update (fun psi => psi.id ∈ oids)
      (bookItem po.uniKey thirdPackage) }

open PurchaseArrangement in
/-- A round of `repurchase`: the arrangement goes to the open order of its supplier. -/
def repurchaseOne (pa : PurchaseArrangement) : PurchaseTx Unit := do
  let pa ← if pa.initialBook then pure pa else do
    let psi ← skuitem pa.oid
    gets fun s => pa.resetPurchaseOrder s psi
  let taken ← gets fun s => uniKeyTaken s pa
  raiseIf (taken = true) .integrityError
  modify pa.save
  pa.generateOrder false

def arrangementsOf (s : PurchaseDb) (pd : PurchaseDetail) : List PurchaseArrangement :=
  s.purchaseArrangements.filter fun pa =>
    pa.purchaseOrderUnikey = some pd.purchaseOrderUnikey ∧ pa.skuId = pd.skuId ∧
      pa.status = .effect ∧ 0 < pa.num

/-- The open detail of a SKU that `repurchase` takes. -/
def repurchased (s : PurchaseDb) (sku : Nat) : Option PurchaseDetail :=
  s.purchaseDetails.first fun pd => pd.status = .opened ∧ pd.skuId = sku

def repurchase (sku : Nat) : PurchaseTx Unit := do
  let pd ← gets fun s => repurchased s sku
  match pd with
  | none => pure ()
  | some pd => do
      let _ ← getOr .doesNotExist fun s =>
        s.purchaseOrders.first fun po => po.uniKey = pd.purchaseOrderUnikey
      let arrangements ← gets fun s => arrangementsOf s pd
      forEach arrangements repurchaseOne
      modify pd.restat

end PurchaseOrder

end ShopManager.Purchase
