import ShopManager.Basic
import ShopManager.Library.Execution
import ShopManager.Library.Shares
import ShopManager.Library.Table
import ShopManager.Library.Transaction

/-!
# Payments to suppliers

A payment is applied for against one purchase or some storages, its amount is split over their
items, and at its confirmation every item's part is split once more over the purchase items
that the goods were ordered with.  Save handlers carry the columns of the items up to the
storages and the purchases.  Amounts are in units of the fourth decimal, which every one of
them is rounded to but for prices, fees of purchase items and what the client asks to pay.
-/

namespace ShopManager.Supplier

open Library Library.Tx Library.Shares

inductive PayType where
  | cod
  | prepaid
  | pod
  | other
  deriving DecidableEq, Repr

inductive DocStatus where
  | draft
  | approval
  | finish
  | invalid
  deriving DecidableEq, Repr

inductive ArrivalStatus where
  | unarrival
  | partarrival
  | fullarrival
  deriving DecidableEq, Repr

inductive PaymentStatus where
  | waitApply
  | waitPayment
  | hasPayment
  | invalid
  deriving DecidableEq, Repr

structure Purchase where
  id : Nat
  originNo : String
  supplier : Option Nat
  status : DocStatus
  arrivalStatus : ArrivalStatus
  purchaseNum : Int
  storageNum : Int
  totalFee : ℚ
  prepay : Int
  payment : Int
  deriving DecidableEq, Repr

instance : Row Purchase where
  pk := Purchase.id
  withPk n purchase := { purchase with id := n }

/-- `normal` is the status of a line that is not deleted. -/
structure PurchaseItem where
  id : Nat
  purchaseId : Nat
  productId : Option Nat
  skuId : Option Nat
  purchaseNum : Int
  storageNum : Int
  price : ℚ
  totalFee : ℚ
  prepay : Int
  payment : Int
  normal : Bool
  deriving DecidableEq, Repr

instance : Row PurchaseItem where
  pk := PurchaseItem.id
  withPk n item := { item with id := n }

structure PurchaseStorage where
  id : Nat
  originNo : String
  supplier : Option Nat
  status : DocStatus
  storageNum : Int
  totalFee : Int
  prepay : Int
  payment : Int
  deriving DecidableEq, Repr

instance : Row PurchaseStorage where
  pk := PurchaseStorage.id
  withPk n storage := { storage with id := n }

structure PurchaseStorageItem where
  id : Nat
  purchaseStorageId : Nat
  productId : Option Nat
  skuId : Option Nat
  storageNum : Int
  totalFee : Int
  prepay : Int
  payment : Int
  normal : Bool
  deriving DecidableEq, Repr

instance : Row PurchaseStorageItem where
  pk := PurchaseStorageItem.id
  withPk n item := { item with id := n }

structure PurchaseStorageRelationship where
  id : Nat
  purchaseId : Nat
  purchaseItemId : Nat
  storageId : Nat
  storageItemId : Nat
  isAddon : Bool
  storageNum : Int
  totalFee : Int
  prepay : Int
  payment : Int
  deriving DecidableEq, Repr

instance : Row PurchaseStorageRelationship where
  pk := PurchaseStorageRelationship.id
  withPk n ship := { ship with id := n }

structure PurchasePayment where
  id : Nat
  payType : PayType
  payment : ℚ
  status : PaymentStatus
  deriving DecidableEq, Repr

instance : Row PurchasePayment where
  pk := PurchasePayment.id
  withPk n payment := { payment with id := n }

structure PurchasePaymentItem where
  id : Nat
  purchasePaymentId : Nat
  purchaseId : Option Nat
  purchaseItemId : Option Nat
  storageId : Option Nat
  storageItemId : Option Nat
  payment : Int
  deriving DecidableEq, Repr

instance : Row PurchasePaymentItem where
  pk := PurchasePaymentItem.id
  withPk n item := { item with id := n }

structure SupplierDb where
  purchases : Table Purchase
  items : Table PurchaseItem
  storages : Table PurchaseStorage
  storageItems : Table PurchaseStorageItem
  ships : Table PurchaseStorageRelationship
  payments : Table PurchasePayment
  paymentItems : Table PurchasePaymentItem

abbrev SupplierTx (α : Type) := Tx SupplierDb Exn α

def zeroDivisionError : Exn := .exception "ZeroDivisionError"

def divide (a b : ℚ) : SupplierTx ℚ := do
  raiseIf (b = 0) zeroDivisionError
  pure (a / b)

/-- A quotient of two integers, which is rounded down. -/
def divideInt (a b : Int) : SupplierTx Int := do
  raiseIf (b = 0) zeroDivisionError
  pure (Int.fdiv a b)

/-! ## Columns and save handlers -/

def effectItem (purchaseId : Nat) (item : PurchaseItem) : Bool :=
  item.purchaseId = purchaseId ∧ item.normal

def SupplierDb.effectPurchaseItems (s : SupplierDb) (purchaseId : Nat) : List PurchaseItem :=
  s.items.filter (effectItem purchaseId)

/-- The total of a column over the items of a purchase. -/
def SupplierDb.purchaseSum {M : Type} [AddCommGroup M] (s : SupplierDb) (purchaseId : Nat)
    (column : PurchaseItem → M) : M :=
  s.items.sum fun item => if effectItem purchaseId item then column item else 0

def normalItem (storageId : Nat) (item : PurchaseStorageItem) : Bool :=
  item.purchaseStorageId = storageId ∧ item.normal

def SupplierDb.normalStorageItems (s : SupplierDb) (storageId : Nat) :
    List PurchaseStorageItem :=
  s.storageItems.filter (normalItem storageId)

def SupplierDb.storageSum (s : SupplierDb) (storageId : Nat)
    (column : PurchaseStorageItem → Int) : Int :=
  s.storageItems.sum fun item => if normalItem storageId item then column item else 0

def ofStorageItem (storageId storageItemId : Nat) (ship : PurchaseStorageRelationship) : Bool :=
  ship.storageId = storageId ∧ ship.storageItemId = storageItemId

def SupplierDb.shipsOf (s : SupplierDb) (item : PurchaseStorageItem) :
    List PurchaseStorageRelationship :=
  s.ships.filter (ofStorageItem item.purchaseStorageId item.id)

def SupplierDb.shipSum (s : SupplierDb) (storageId storageItemId : Nat)
    (column : PurchaseStorageRelationship → Int) : Int :=
  s.ships.sum fun ship => if ofStorageItem storageId storageItemId ship then column ship else 0

/-- The arrival status of a purchase with items. -/
def arrivalStatusOf (purchase : Purchase) (purchaseNum storageNum : Int) : ArrivalStatus :=
  if storageNum = 0 then .unarrival
  else if storageNum < purchaseNum then .partarrival
  else if purchaseNum = storageNum then .fullarrival
  else purchase.arrivalStatus

/-- `update_purchase_info`.  The items that it looks at are normal, so that none of them is
closed. -/
def updatePurchaseInfo (s : SupplierDb) (purchase : Purchase) : Purchase :=
  { purchase with
    totalFee := s.purchaseSum purchase.id PurchaseItem.totalFee
    payment := s.purchaseSum purchase.id PurchaseItem.payment
    prepay := s.purchaseSum purchase.id PurchaseItem.prepay
    purchaseNum := s.purchaseSum purchase.id PurchaseItem.purchaseNum
    storageNum := s.purchaseSum purchase.id PurchaseItem.storageNum
    arrivalStatus :=
      if s.effectPurchaseItems purchase.id = [] then purchase.arrivalStatus
      else arrivalStatusOf purchase (s.purchaseSum purchase.id PurchaseItem.purchaseNum)
        (s.purchaseSum purchase.id PurchaseItem.storageNum) }

def putItem (item : PurchaseItem) (s : SupplierDb) : SupplierDb :=
  let saved := { s with items := s.items.save item }
  { saved with
    purchases := saved.purchases.update (fun purchase => purchase.id = item.purchaseId)
      (updatePurchaseInfo saved) }

def PurchaseItem.save (item : PurchaseItem) : SupplierTx Unit := modify (putItem item)

def updateStorageInfo (s : SupplierDb) (storage : PurchaseStorage) : PurchaseStorage :=
  { storage with
    totalFee := s.storageSum storage.id PurchaseStorageItem.totalFee
    prepay := s.storageSum storage.id PurchaseStorageItem.prepay
    payment := s.storageSum storage.id PurchaseStorageItem.payment
    storageNum := s.storageSum storage.id PurchaseStorageItem.storageNum }

def putStorageItem (item : PurchaseStorageItem) (s : SupplierDb) : SupplierDb :=
  let saved := { s with storageItems := s.storageItems.save item }
  { saved with
    storages := saved.storages.update (fun storage => storage.id = item.purchaseStorageId)
      (updateStorageInfo saved) }

def PurchaseStorageItem.save (item : PurchaseStorageItem) : SupplierTx Unit :=
  modify (putStorageItem item)

/-- The pieces of a purchase item that have been taken into stock. -/
def SupplierDb.addonNum (s : SupplierDb) (purchaseId purchaseItemId : Nat) : Int :=
  s.ships.sum fun ship =>
    if ship.purchaseId = purchaseId ∧ ship.purchaseItemId = purchaseItemId ∧ ship.isAddon then
      ship.storageNum
    else 0

/-- A storage item with the totals of the relations that a relation is one of. -/
def refreshed (s : SupplierDb) (ship : PurchaseStorageRelationship)
    (storageItem : PurchaseStorageItem) : PurchaseStorageItem :=
  { storageItem with
    totalFee := s.shipSum ship.storageId ship.storageItemId PurchaseStorageRelationship.totalFee
    prepay := s.shipSum ship.storageId ship.storageItemId PurchaseStorageRelationship.prepay
    payment := s.shipSum ship.storageId ship.storageItemId PurchaseStorageRelationship.payment }

/-- What the handler of a relation does to its purchase item. -/
def updateAddonNum (ship : PurchaseStorageRelationship) : SupplierTx Unit := do
  let purchaseItem ← getOr .doesNotExist fun s => s.items.get? ship.purchaseItemId
  let s ← gets id
  PurchaseItem.save { purchaseItem with
    storageNum := s.addonNum ship.purchaseId ship.purchaseItemId }

def updatePurchaseitemStorageAndFee (ship : PurchaseStorageRelationship) : SupplierTx Unit := do
  let storageItem ← getOr .doesNotExist fun s => s.storageItems.get? ship.storageItemId
  let s ← gets id
  PurchaseStorageItem.save (refreshed s ship storageItem)
  if ship.isAddon then updateAddonNum ship else pure ()

def PurchaseStorageRelationship.save (ship : PurchaseStorageRelationship) : SupplierTx Unit := do
  modify fun s => { s with ships := s.ships.save ship }
  updatePurchaseitemStorageAndFee ship

def PurchaseStorageRelationship.create (ship : PurchaseStorageRelationship) :
    SupplierTx PurchaseStorageRelationship := do
  let stored ← gets fun s => s.ships.stored ship
  modify fun s => { s with ships := s.ships.insert ship }
  updatePurchaseitemStorageAndFee stored
  pure stored

def PurchaseItem.unpayFee (item : PurchaseItem) : Int :=
  let fee := item.totalFee - item.payment
  if fee < 0 then 0 else halfAway fee

def SupplierDb.purchaseUnpayFee (s : SupplierDb) (purchaseId : Nat) : Int :=
  let fee := ((s.effectPurchaseItems purchaseId).map PurchaseItem.unpayFee).sum
  if fee < 0 then 0 else fee

def PurchaseStorageItem.unpayFee (item : PurchaseStorageItem) : Int :=
  let fee := item.totalFee - item.prepay - item.payment
  if fee < 0 then 0 else fee

def SupplierDb.storageUnpayFee (s : SupplierDb) (storageId : Nat) : Int :=
  let fee := ((s.normalStorageItems storageId).map PurchaseStorageItem.unpayFee).sum
  if fee < 0 then 0 else fee

def PurchaseStorageRelationship.unpayFee (ship : PurchaseStorageRelationship) : Int :=
  let fee := ship.totalFee - ship.prepay - ship.payment
  if fee < 0 then 0 else fee

/-- By what an amount is split: what is unpaid, the quantities, or the fees. -/
inductive CalBy where
  | unpay
  | num
  | fee
  deriving DecidableEq, Repr

/-- The share of an item, before it is rounded. -/
def itemShare (calBy : CalBy) (unpay num : Int) (fee : ℚ) (totalUnpay totalNum : Int)
    (totalFee payment : ℚ) : SupplierTx ℚ :=
  match calBy with
  | .num => do
      let perCostAvg ← divide payment totalNum
      pure (num * perCostAvg)
  | .fee => do
      let part ← divide fee totalFee
      pure (part * payment)
  | .unpay => do
      raiseIf (totalUnpay ≤ 0) (.exception "待付款金额不能为零")
      let part ← divide unpay totalUnpay
      pure (part * payment)

/-- `get_or_create` of a payment item and the save of its amount. -/
def putPaymentItem (same : PurchasePaymentItem → Bool) (new : PurchasePaymentItem)
    (amount : Int) : SupplierTx Unit := do
  let found ← gets fun s => s.paymentItems.first same
  match found with
  | some item =>
      modify fun s => { s with
        paymentItems := s.paymentItems.save { item with payment := amount } }
  | none =>
      modify fun s => { s with
        paymentItems := s.paymentItems.insert { new with payment := amount } }

def putPurchasePayment (paymentId purchaseId itemId : Nat) (amount : Int) : SupplierTx Unit :=
  putPaymentItem
    (fun item => item.purchasePaymentId = paymentId ∧ item.purchaseId = some purchaseId ∧
      item.purchaseItemId = some itemId)
    ⟨0, paymentId, some purchaseId, some itemId, none, none, 0⟩ amount

def putStoragePayment (paymentId storageId itemId : Nat) (amount : Int) : SupplierTx Unit :=
  putPaymentItem
    (fun item => item.purchasePaymentId = paymentId ∧ item.storageId = some storageId ∧
      item.storageItemId = some itemId)
    ⟨0, paymentId, none, none, some storageId, some itemId, 0⟩ amount

def calPurchasePayment (paymentId : Nat) (purchase : Purchase) (payment : ℚ) (calBy : CalBy) :
    SupplierTx Unit := do
  let totalUnpayFee ← gets fun s => s.purchaseUnpayFee purchase.id
  let items ← gets fun s => s.effectPurchaseItems purchase.id
  forEach items fun item => do
    let share ← itemShare calBy item.unpayFee item.purchaseNum item.totalFee totalUnpayFee
      purchase.purchaseNum purchase.totalFee payment
    putPurchasePayment paymentId purchase.id item.id (halfAway share)

def calStoragePayment (paymentId : Nat) (storage : PurchaseStorage) (payment : ℚ)
    (calBy : CalBy) : SupplierTx Unit := do
  let totalUnpayFee ← gets fun s => s.storageUnpayFee storage.id
  let items ← gets fun s => s.normalStorageItems storage.id
  forEach items fun item => do
    let share ← itemShare calBy item.unpayFee item.storageNum item.totalFee totalUnpayFee
      storage.storageNum storage.totalFee payment
    putStoragePayment paymentId storage.id item.id (halfAway share)

def applyForPrepay (paymentId : Nat) (purchase : Purchase) (payment : ℚ) : SupplierTx Unit :=
  calPurchasePayment paymentId purchase payment .unpay

def applyForPodpay (paymentId : Nat) (storage : PurchaseStorage) (payment : ℚ) :
    SupplierTx Unit :=
  calStoragePayment paymentId storage payment .unpay

def applyForCodpay (paymentId : Nat) (storage : PurchaseStorage) (payment : ℚ) :
    SupplierTx Unit :=
  calStoragePayment paymentId storage payment .unpay

/-- The part of a storage is a quotient of two integers. -/
def applyForOtherpay (paymentId : Nat) (purchase : Option Purchase)
    (storages : List PurchaseStorage) (payment : ℚ) : SupplierTx Unit := do
  match purchase with
  | some purchase => calPurchasePayment paymentId purchase payment .num
  | none => pure ()
  let totalStorageNum := (storages.map PurchaseStorage.storageNum).sum
  forEach storages fun storage => do
    let part ← divideInt storage.storageNum totalStorageNum
    calStoragePayment paymentId storage (part * payment) .num

/-- The shares that the view gives to several storages. -/
def applyForCodpays (paymentId : Nat) (storages : List PurchaseStorage) (payment : ℚ) :
    SupplierTx Unit := do
  let s ← gets id
  let totalUnpayFee := (storages.map fun storage => s.storageUnpayFee storage.id).sum
  raiseIf (totalUnpayFee ≤ 0) (.exception "没有找到待付款项")
  forEach storages fun storage => do
    let unpayFee ← gets fun s => s.storageUnpayFee storage.id
    let part ← divide unpayFee totalUnpayFee
    applyForCodpay paymentId storage (part * payment)

def newShip (storage : PurchaseStorage) (storageItem : PurchaseStorageItem)
    (purchaseItem : PurchaseItem) : PurchaseStorageRelationship :=
  ⟨0, purchaseItem.purchaseId, purchaseItem.id, storage.id, storageItem.id, false, 0, 0, 0, 0⟩

/-- One purchase item takes what it still waits for.  What is left to distribute is given
back. -/
def distributeTo (storage : PurchaseStorage) (storageItem : PurchaseStorageItem)
    (purchaseItem : PurchaseItem) (undistNum : Int) : SupplierTx Int := do
  let diffNum := purchaseItem.purchaseNum - purchaseItem.storageNum
  if 0 < diffNum then do
    let found ← gets fun s => s.ships.first fun ship =>
      ship.purchaseId = purchaseItem.purchaseId ∧ ship.purchaseItemId = purchaseItem.id ∧
        ship.storageId = storage.id ∧ ship.storageItemId = storageItem.id
    let ship ← match found with
      | some ship => pure ship
      | none => PurchaseStorageRelationship.create (newShip storage storageItem purchaseItem)
    let taken := min diffNum undistNum
    let num := taken + ship.storageNum
    let perPrepay ← divide purchaseItem.prepay purchaseItem.purchaseNum
    PurchaseStorageRelationship.save { ship with
      storageNum := num
      totalFee := halfAway (num * purchaseItem.price)
      prepay := halfAway (num * perPrepay) }
    pure (undistNum - taken)
  else pure (undistNum - diffNum)

def distributeOver (storage : PurchaseStorage) (storageItem : PurchaseStorageItem) :
    List PurchaseItem → Int → SupplierTx Int
  | [], undistNum => pure undistNum
  | purchaseItem :: rest, undistNum => do
      let left ← distributeTo storage storageItem purchaseItem undistNum
      if left ≤ 0 then pure left else distributeOver storage storageItem rest left

/-- The item of a purchase for the goods, which are unique in it. -/
def purchaseItemsFor (s : SupplierDb) (purchases : List Purchase)
    (storageItem : PurchaseStorageItem) : List PurchaseItem :=
  purchases.filterMap fun purchase => s.items.first fun item =>
    item.purchaseId = purchase.id ∧ item.productId = storageItem.productId ∧
      item.skuId = storageItem.skuId

/-- One storage item; whether something of it stays undistributed. -/
def distributeItem (storage : PurchaseStorage) (purchases : List Purchase)
    (storageItem : PurchaseStorageItem) : SupplierTx Bool := do
  let s ← gets id
  let undistNum := storageItem.storageNum -
    ((s.shipsOf storageItem).map PurchaseStorageRelationship.storageNum).sum
  if 0 < undistNum then do
    let left ← distributeOver storage storageItem (purchaseItemsFor s purchases storageItem)
      undistNum
    pure (decide (0 < left))
  else pure false

def distributeItems (storage : PurchaseStorage) (purchases : List Purchase) :
    List PurchaseStorageItem → SupplierTx Bool
  | [] => pure false
  | storageItem :: rest => do
      let unmatched ← distributeItem storage purchases storageItem
      let others ← distributeItems storage purchases rest
      pure (unmatched || others)

/-- `distribute_storage_num`: whether some item is not matched. -/
def distributeStorageNum (storage : PurchaseStorage) : SupplierTx Bool :=
  if storage.status ≠ .draft then pure false
  else do
    let s ← gets id
    let uncompletePurchase := s.purchases.filter fun purchase =>
      purchase.originNo = storage.originNo ∧ purchase.supplier = storage.supplier ∧
        purchase.arrivalStatus ∈ [.unarrival, .partarrival] ∧ purchase.status = .approval
    distributeItems storage uncompletePurchase (s.normalStorageItems storage.id)

/-- What the client posts to `PurchasePaymentView`. -/
structure PaymentRequest where
  payType : PayType
  purchase : Option Nat
  storages : List Nat
  payment : ℚ

def getStorages : List Nat → SupplierTx (List PurchaseStorage)
  | [] => pure []
  | storageId :: rest => do
      let storage ← getOr .doesNotExist fun s => s.storages.first fun storage =>
        storage.id = storageId ∧ storage.status ∈ [.draft, .approval]
      let others ← getStorages rest
      pure (storage :: others)

def getPurchase (purchaseId : Nat) : SupplierTx Purchase :=
  getOr .doesNotExist fun s => s.purchases.first fun purchase =>
    purchase.id = purchaseId ∧ purchase.status = .approval

/-- The checks of the view, with the purchase or the storages they find. -/
def acceptRequest (request : PaymentRequest) :
    SupplierTx (Option Purchase × List PurchaseStorage) := do
  raiseIf (request.payment = 0) (.exception "付款金额不能为空")
  match request.payType with
  | .prepaid => do
      let purchaseId ← getOr (.exception "请选择采购单") fun _ => request.purchase
      let purchase ← getPurchase purchaseId
      pure (some purchase, [])
  | .pod => do
      let storages ← getStorages request.storages
      match storages with
      | [storage] => do
          let unmatched ← distributeStorageNum storage
          raiseIf (unmatched = true) (.exception "入库项未完全关联采购单")
          pure (none, [storage])
      | _ => raise (.exception "请只选择一个入库单")
  | .cod => do
      let storages ← getStorages request.storages
      raiseIf (storages = []) (.exception "请至少选择一个入库单")
      pure (none, storages)
  | .other =>
      match request.purchase, request.storages with
      | some purchaseId, [] => do
          let purchase ← getPurchase purchaseId
          pure (some purchase, [])
      | none, _ :: _ => do
          let storages ← getStorages request.storages
          pure (none, storages)
      | _, _ => raise (.exception "请选择采购单或物流单之一")

def newPayment (request : PaymentRequest) : PurchasePayment :=
  ⟨0, request.payType, request.payment, .waitApply⟩

def createPayment (request : PaymentRequest) : SupplierTx PurchasePayment := do
  let payment ← gets fun s => s.payments.stored (newPayment request)
  modify fun s => { s with payments := s.payments.insert (newPayment request) }
  pure payment

/-- The part of the view that splits the amount. -/
def applyRequest (request : PaymentRequest) (paymentId : Nat) (purchase : Option Purchase)
    (storages : List PurchaseStorage) : SupplierTx Unit :=
  match request.payType, purchase, storages with
  | .prepaid, some purchase, _ => applyForPrepay paymentId purchase request.payment
  | .pod, _, storage :: _ => applyForPodpay paymentId storage request.payment
  | .cod, _, storages => applyForCodpays paymentId storages request.payment
  | .other, purchase, storages => applyForOtherpay paymentId purchase storages request.payment
  | _, _, _ => pure ()

/-- `PurchasePaymentView.post`.  A payment whose application fails is marked invalid. -/
def postPayment (request : PaymentRequest) : SupplierTx Unit := do
  let (purchase, storages) ← acceptRequest request
  let payment ← createPayment request
  tryCatch (applyRequest request payment.id purchase storages) fun _ =>
    modify fun s => { s with payments := s.payments.save { payment with status := .invalid } }

/-- What the client posts to `PaymentDistributeView`: an amount with its parts for the purchase,
or one for every storage. -/
structure Distribution where
  purchase : Option (Int × List (Nat × Int))
  storages : List (Int × List (Nat × Int))

def roundTenth (amount : ℚ) : Int := halfAway (amount / 1000)

def partsSum (parts : List (Nat × Int)) : Int := (parts.map Prod.snd).sum

def validParams (distribution : Distribution) (globalPayment : ℚ) : SupplierTx Unit := do
  match distribution.purchase with
  | some (payment, parts) => do
      raiseIf (roundTenth payment ≠ roundTenth (partsSum parts))
        (.exception "采购项目分配金额与采购单分配总金额不等")
      raiseIf (roundTenth globalPayment ≠ roundTenth payment) (.exception "总付款金额与分配金额不等")
  | none => do
      forEach distribution.storages fun storage =>
        raiseIf (roundTenth storage.1 ≠ roundTenth (partsSum storage.2))
          (.exception "入库项目分配金额与入库单分配总金额不等")
      raiseIf (roundTenth globalPayment ≠
          roundTenth ((distribution.storages.map fun storage => partsSum storage.2).sum : Int))
        (.exception "总付款金额与分配金额不等")

def fillPart (part : Nat × Int) : SupplierTx Unit := do
  let item ← getOr .doesNotExist fun s => s.paymentItems.get? part.1
  modify fun s => { s with paymentItems := s.paymentItems.save { item with payment := part.2 } }

def fillPayment (distribution : Distribution) : SupplierTx Unit :=
  match distribution.purchase with
  | some (_, parts) => forEach parts fillPart
  | none => forEach distribution.storages fun storage => forEach storage.2 fillPart

/-- `PaymentDistributeView.post`. -/
def distributePayment (paymentId : Nat) (distribution : Distribution) : SupplierTx Unit := do
  let payment ← getOr .doesNotExist fun s => s.payments.first fun payment =>
    payment.id = paymentId ∧ payment.status ∈ [.waitApply, .waitPayment]
  validParams distribution payment.payment
  fillPayment distribution
  modify fun s => { s with payments := s.payments.save { payment with status := .waitPayment } }

def addPayment (itemId : Nat) (amount prepay : Int) : SupplierTx Unit := do
  let item ← getOr .doesNotExist fun s => s.items.get? itemId
  PurchaseItem.save { item with
    payment := item.payment + amount
    prepay := item.prepay + prepay }

/-- The part of a relation goes to the relation and to its purchase item. -/
def payShip (amount : Int) (ship : PurchaseStorageRelationship) : SupplierTx Unit := do
  PurchaseStorageRelationship.save { ship with payment := ship.payment + amount }
  addPayment ship.purchaseItemId amount 0

def confirmPrepay (item : PurchasePaymentItem) : SupplierTx Unit := do
  let itemId ← getOr .doesNotExist fun _ => item.purchaseItemId
  addPayment itemId item.payment item.payment

def getStorageItem (item : PurchasePaymentItem) : SupplierTx PurchaseStorageItem := do
  let itemId ← getOr .doesNotExist fun _ => item.storageItemId
  getOr .doesNotExist fun s => s.storageItems.get? itemId

/-- In proportion to what the relations have unpaid. -/
def confirmStorage (item : PurchasePaymentItem) : SupplierTx Unit := do
  let storageItem ← getStorageItem item
  let ships ← gets fun s => s.shipsOf storageItem
  raiseIf (storageItem.unpayFee ≤ 0 ∧ 0 < item.payment) (.exception "付款项有异常")
  if storageItem.unpayFee ≤ 0 then pure ()
  else forEach ships fun ship => do
    let part ← divide ship.unpayFee storageItem.unpayFee
    payShip (halfAway (part * item.payment)) ship

/-- In proportion to the quantities of the relations, by a quotient of two integers. -/
def confirmOther (item : PurchasePaymentItem) : SupplierTx Unit := do
  if item.purchaseId.isSome then do
    let itemId ← getOr .doesNotExist fun _ => item.purchaseItemId
    addPayment itemId item.payment 0
  else pure ()
  if item.storageId.isSome then do
    let storageItem ← getStorageItem item
    let ships ← gets fun s => s.shipsOf storageItem
    forEach ships fun ship => do
      let part ← divideInt ship.storageNum storageItem.storageNum
      payShip (halfAway ((part * item.payment : Int) : ℚ)) ship
  else pure ()

def confirmItem : PayType → PurchasePaymentItem → SupplierTx Unit
  | .prepaid => confirmPrepay
  | .cod => confirmStorage
  | .pod => confirmStorage
  | .other => confirmOther

def SupplierDb.itemsOf (s : SupplierDb) (paymentId : Nat) : List PurchasePaymentItem :=
  s.paymentItems.filter fun item => item.purchasePaymentId = paymentId

def confirmPay (payment : PurchasePayment) : SupplierTx Unit := do
  let items ← gets fun s => s.itemsOf payment.id
  forEach items (confirmItem payment.payType)
  modify fun s => { s with payments := s.payments.save { payment with status := .hasPayment } }

def confirmPaymentAmount (paymentId : Nat) (permitted : Bool) : SupplierTx Unit :=
  atomic do
    let payment ← getOr .doesNotExist fun s => s.payments.first fun payment =>
      payment.id = paymentId ∧ payment.status = .waitPayment
    raiseIf (permitted = false) .doesNotExist
    confirmPay payment

inductive SupplierOp where
  | post (request : PaymentRequest)
  | distribute (paymentId : Nat) (distribution : Distribution)
  | confirm (paymentId : Nat) (permitted : Bool)

def SupplierOp.tx : SupplierOp → SupplierTx Unit
  | .post request => postPayment request
  | .distribute paymentId distribution => distributePayment paymentId distribution
  | .confirm paymentId permitted => confirmPaymentAmount paymentId permitted

def SupplierOp.exec (op : SupplierOp) (s : SupplierDb) : SupplierDb := (op.tx.run s).2

end ShopManager.Supplier
