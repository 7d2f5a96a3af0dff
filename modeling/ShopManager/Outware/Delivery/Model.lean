import ShopManager.Outware.Model
import ShopManager.Warehouse.Model

/-!
# Deliveries of the outside warehouse

A notification names an order and the packages that were sent for it.  The order is marked
as sent, the packages that are new are stored, and a runner divides the mall's package by
what each of them contains and ships the part.
-/

namespace ShopManager.Outware.Delivery

open Library Library.Tx
open Warehouse (PsiType PsiStatus AssignStatus)

/-- `ORDER_RETURN`, the code of a return to a supplier; `orderSale` is the other one. -/
def orderReturn : Nat := 301

/-- `PO_STATUS`. -/
inductive PoStatus where
  | pkgNewCreated | waitPrepareSend | waitCheckBarcode | waitScanWeight
  | waitOutwareSendCallback | waitCustomerReceive | finished | delete
  deriving DecidableEq, Repr

/-- A package of the mall; `id` is its text code. -/
structure PackageOrder where
  pid : Nat
  id : String
  sysStatus : PoStatus
  isPickingPrint : Bool
  outSid : String
  logisticsCompany : Option Nat
  deriving DecidableEq, Repr

instance : Row PackageOrder where
  pk := PackageOrder.pid
  withPk n package := { package with pid := n }

structure PackageSkuItem where
  id : Nat
  skuId : String
  num : Int
  type : PsiType
  status : PsiStatus
  assignStatus : AssignStatus
  packageOrderId : Option String
  packageOrderPid : Option Nat
  outSid : String
  logisticsCompanyCode : String
  saleOrder : Nat
  deriving DecidableEq, Repr

instance : Row PackageSkuItem where
  pk := PackageSkuItem.id
  withPk n item := { item with id := n }

/-- An order of the mall with the buyer and the address of its trade; `waitSend` is the
status in which it waits for the seller. -/
structure SaleOrder where
  id : Nat
  num : Int
  waitSend : Bool
  buyerId : Nat
  userAddressId : Nat
  deriving DecidableEq, Repr

instance : Row SaleOrder where
  pk := SaleOrder.id
  withPk n order := { order with id := n }

/-- A SKU with its counters; `postNum` stands in the row of its stock. -/
structure ProductSku where
  id : Nat
  outerId : String
  wareBy : Nat
  quantity : Int
  waitPostNum : Int
  postNum : Int
  deriving DecidableEq, Repr

instance : Row ProductSku where
  pk := ProductSku.id
  withPk n sku := { sku with id := n }

structure LogisticsCompany where
  id : Nat
  code : String
  kd100ExpressKey : String
  deriving DecidableEq, Repr

instance : Row LogisticsCompany where
  pk := LogisticsCompany.id
  withPk n company := { company with id := n }

/-- A package as the warehouse sent it. -/
structure OutwarePackage where
  id : Nat
  packageType : Nat
  packageOrderCode : String
  storeCode : String
  logisticsNo : String
  carrierCode : String
  uniKey : String
  deriving DecidableEq, Repr

instance : Row OutwarePackage where
  pk := OutwarePackage.id
  withPk n package := { package with id := n }

structure OutwarePackageSku where
  id : Nat
  package : Nat
  skuCode : String
  batchNo : String
  skuQty : Int
  uniKey : String
  deriving DecidableEq, Repr

instance : Row OutwarePackageSku where
  pk := OutwarePackageSku.id
  withPk n sku := { sku with id := n }

/-- The tables of the warehouse orders, of the packages that were sent and of the mall.
`shipped` is what the runner has been through, oldest first. -/
structure DeliveryDb where
  outware : OutwareDb
  packages : Table OutwarePackage
  packageSkus : Table OutwarePackageSku
  packageOrders : Table PackageOrder
  packageSkuItems : Table PackageSkuItem
  saleOrders : Table SaleOrder
  productSkus : Table ProductSku
  logisticsCompanies : Table LogisticsCompany
  shipped : List Nat

abbrev DeliveryTx (α : Type) := Tx DeliveryDb Exn α

/-- What lies outside: the order in which Python goes through a set, and the service that
follows a package. -/
structure Outside where
  setOrder : List String → List String
  kd100Subscription : String → String → Except Exn Unit

/-! ## Notifications -/

structure PackageItem where
  skuCode : String
  batchNo : String
  skuQty : Int
  deriving DecidableEq, Repr

structure Package where
  storeCode : String
  logisticsNo : String
  carrierCode : String
  packageItems : List PackageItem
  deriving DecidableEq, Repr

structure Notice where
  orderCode : String
  userPack : Bool
  packages : List Package
  deriving DecidableEq, Repr

def Notice.orderType (notice : Notice) : Nat :=
  if notice.userPack = true then orderSale else orderReturn

abbrev Dict := List (String × Int)

namespace Dict

def set (key : String) (value : Int) : Dict → Dict
  | [] => [(key, value)]
  | (k, v) :: dict => if k = key then (k, value) :: dict else (k, v) :: set key value dict

def ofPairs (pairs : List (String × Int)) : Dict :=
  pairs.foldl (fun dict pair => set pair.1 pair.2 dict) []

def get (dict : Dict) (key : String) : Int := (dict.lookup key).getD 0

def keys (dict : Dict) : List String := dict.map Prod.fst

end Dict

/-! ## Packages of the mall -/

namespace PackageOrder

def wareThird : Nat := 9

def contains (text part : String) : Bool :=
  text.toList.tails.any fun tail => part.toList.isPrefixOf tail

def startsWith (text part : String) : Bool := part.toList.isPrefixOf text.toList

def getPackageNum (key : String) (s : DeliveryDb) : Nat :=
  (s.packageOrders.filter fun package =>
    contains package.id (key ++ "-") && package.sysStatus ≠ .pkgNewCreated).length

def getSendedPackageNum (key : String) (s : DeliveryDb) : Nat :=
  (s.packageOrders.filter fun package =>
    startsWith package.id (key ++ "-") &&
      package.sysStatus ∈ [PoStatus.waitCustomerReceive, .finished, .delete]).length

def sysStatusIns (merge : Bool) : List PoStatus :=
  [.finished, .waitCustomerReceive, .waitOutwareSendCallback] ++
    if merge = true then [] else [.waitPrepareSend, .waitCheckBarcode, .waitScanWeight, .delete]

/-- The first number from `nowNum` on whose package is not closed.  There are fewer
packages than tries. -/
def nextNum (key : String) (merge : Bool) (s : DeliveryDb) : Nat → Nat → Nat
  | 0, nowNum => nowNum
  | tries + 1, nowNum =>
      if (s.packageOrders.rows.any fun package => package.id = key ++ "-" ++ toString nowNum &&
          package.sysStatus ∈ sysStatusIns merge) = true then
        nextNum key merge s tries (nowNum + 1)
      else nowNum

def genNewPackageId (buyer address wareBy : Nat) (directVendorCode : String) (merge : Bool)
    (s : DeliveryDb) : String :=
  let key := toString buyer ++ "-" ++ toString address ++ "-" ++ toString wareBy
  let key := if directVendorCode = "" then key else key ++ "-" ++ directVendorCode
  let nowNum := (if wareBy = wareThird then getPackageNum key s else getSendedPackageNum key s) + 1
  key ++ "-" ++ toString (nextNum key merge s (s.packageOrders.rows.length + 1) nowNum)

def save (package : PackageOrder) : DeliveryTx Unit :=
  modify fun s => { s with packageOrders := s.packageOrders.save package }

def get (pid : Nat) : DeliveryTx PackageOrder :=
  getOr .doesNotExist fun s => s.packageOrders.get? pid

def create (id : String) : DeliveryTx PackageOrder := do
  let package : PackageOrder := {
    pid := 0
    id := id
    sysStatus := .waitPrepareSend
    isPickingPrint := false
    outSid := ""
    logisticsCompany := none }
  let stored ← gets fun s => s.packageOrders.stored package
  modify fun s => { s with packageOrders := s.packageOrders.insert package }
  pure stored

/-- `set_redo_sign(save_data=False)`, of which only the status is read again. -/
def setRedoSign (package : PackageOrder) : PackageOrder :=
  if package.sysStatus = .pkgNewCreated then { package with sysStatus := .waitPrepareSend }
  else if package.sysStatus = .waitScanWeight ∧ package.isPickingPrint = true then
    { package with sysStatus := .waitCheckBarcode }
  else package

def packageSkuItems (package : PackageOrder) (s : DeliveryDb) : List PackageSkuItem :=
  s.packageSkuItems.filter fun item => item.packageOrderId = some package.id

end PackageOrder

namespace PackageSkuItem

def save (item : PackageSkuItem) : DeliveryTx Unit :=
  modify fun s => { s with packageSkuItems := s.packageSkuItems.save item }

/-- An item that was sent stays where it is. -/
def clearOrderInfo (item : PackageSkuItem) : DeliveryTx PackageSkuItem :=
  if item.assignStatus = .finished then pure item
  else do
    let item := { item with
      status := .assigned
      packageOrderId := none
      packageOrderPid := none
      logisticsCompanyCode := ""
      outSid := "" }
    item.save
    pure item

/-- `gen_package(merge=False)`: the flag lands in the place of the vendor's code, where
`False` reads as no vendor, and the packages are merged. -/
def genPackage (item : PackageSkuItem) : DeliveryTx (Option PackageOrder) :=
  if item.type ≠ .normal then pure none
  else do
    let order ← getOr .doesNotExist fun s => s.saleOrders.get? item.saleOrder
    let sku ← getOr .doesNotExist fun s => s.productSkus.first fun sku =>
      toString sku.id = item.skuId
    raiseIf (order.buyerId = 0 ∨ order.userAddressId = 0 ∨ sku.wareBy = 0)
      (.exception "packagize_sku_item error: sale_trade loss some info")
    let id ← gets (PackageOrder.genNewPackageId order.buyerId order.userAddressId sku.wareBy "" true)
    let found ← gets fun s => s.packageOrders.first fun package => package.id = id
    let package ← match found with
      | some package => do
          let package := package.setRedoSign
          package.save
          pure package
      | none => PackageOrder.create id
    modify fun s => { s with
      packageSkuItems := s.packageSkuItems.update (fun r => r.id = item.id) fun r =>
        { r with
          packageOrderId := some id
          packageOrderPid := some package.pid } }
    pure (some package)

/-- The item leaves for the new package, of which it needs the number. -/
def attach (package : Option PackageOrder) (item : PackageSkuItem) : DeliveryTx Unit :=
  match package with
  | none => raise .attributeError
  | some package => save { item with
      packageOrderPid := some package.pid
      packageOrderId := some package.id }

def needSendNum (order : SaleOrder) (s : DeliveryDb) : Int :=
  if order.waitSend = true then
    order.num - ((s.packageSkuItems.filter fun item =>
      item.saleOrder = order.id && item.assignStatus = .finished).map PackageSkuItem.num).sum
  else 0

def finishThirdSend (outSid : String) (company : LogisticsCompany) (item : PackageSkuItem) :
    DeliveryTx Unit :=
  if item.assignStatus ∈ [AssignStatus.virtualAssigned, .assigned] then
    modify fun s => { s with
      packageSkuItems := s.packageSkuItems.update (fun r => r.id = item.id) fun r =>
        { r with
          assignStatus := .finished
          status := .sent
          outSid := outSid
          logisticsCompanyCode := company.code }
      productSkus := s.productSkus.update (fun sku => toString sku.id = item.skuId) fun sku =>
        { sku with postNum := sku.postNum + item.num } }
  else pure ()

end PackageSkuItem

namespace PackageOrder

variable (outside : Outside)

def firstOf (package : PackageOrder) (skuId : String) : DeliveryTx PackageSkuItem :=
  getOr .attributeError fun s =>
    (packageSkuItems package s).find? fun item => item.skuId = skuId

/-- What is left of each SKU of the package; too much of one ends in a missing key of the
text of its error. -/
def leave (skuDict : Dict) : Dict → Except Exn Dict
  | [] => .ok []
  | (skuId, num) :: dict =>
      if num - skuDict.get skuId < 0 then .error (.exception "num")
      else match leave skuDict dict with
        | .ok rest => .ok ((skuId, num - skuDict.get skuId) :: rest)
        | .error e => .error e

/-- The quantity of the first SKU is what each of the other ones is divided by. -/
def divide (skuDict : Dict) (package : PackageOrder) : DeliveryTx (Option PackageOrder) := do
  let items ← gets (packageSkuItems package)
  let oriSkuDict := Dict.ofPairs (items.map fun item => (item.skuId, item.num))
  let newDict ← ofExcept (leave skuDict oriSkuDict)
  if newDict = [] ∨ newDict = oriSkuDict then pure none
  else if newDict.length + skuDict.length = oriSkuDict.length then raise .attributeError
  else
    match outside.setOrder (newDict.keys.filter fun key => key ∈ skuDict.keys) with
    | [] => raise .attributeError
    | skuId :: skuIds => do
        let psi ← firstOf package skuId
        let psi ← psi.clearOrderInfo
        let newPackage ← psi.genPackage
        forEach skuIds fun other => do
          let psi ← firstOf package other
          PackageSkuItem.save { psi with num := psi.num - skuDict.get skuId }
          let newPsi ← PackageSkuItem.clearOrderInfo { psi with num := skuDict.get skuId }
          newPsi.attach newPackage
        forEach (outside.setOrder (skuDict.keys.filter fun key => key ∉ newDict.keys)) fun other => do
          let psi ← firstOf package other
          let psi ← psi.clearOrderInfo
          psi.attach newPackage
        pure newPackage

def finishThirdPackage (outSid : String) (company : Option LogisticsCompany)
    (package : PackageOrder) : DeliveryTx Unit :=
  match company with
  | none => raise .attributeError
  | some company => do
      save { package with
        outSid := outSid
        logisticsCompany := some company.id
        sysStatus := .waitCustomerReceive }
      let items ← gets fun s => (packageSkuItems package s).filter fun item =>
        item.assignStatus ∈ [AssignStatus.assigned, .virtualAssigned]
      forEach items fun item => do
        let order ← getOr .doesNotExist fun s => s.saleOrders.get? item.saleOrder
        let allSend ← gets fun s => decide (PackageSkuItem.needSendNum order s = item.num)
        item.finishThirdSend outSid company
        if allSend = true then
          modify fun s => { s with
            saleOrders := s.saleOrders.save { order with waitSend := false } }
        else pure ()
        let sku ← getOr .doesNotExist fun s => s.productSkus.first fun sku =>
          toString sku.id = item.skuId
        modify fun s => { s with
          productSkus := s.productSkus.update (fun r => r.id = sku.id) fun r =>
            { r with
              quantity := r.quantity - item.num
              waitPostNum := r.waitPostNum - item.num } }
      ofExcept (outside.kd100Subscription company.kd100ExpressKey outSid)

end PackageOrder

/-! ## Packages of the warehouse -/

def LogisticsCompany.getByFengchaoCode (carrierCode : String) (s : DeliveryDb) :
    Option LogisticsCompany :=
  let codes : List (String × String) := [("OTHER", "OTHER"), ("EMS", "EMS"), ("ZTO", "ZTO"),
    ("SF", "SF"), ("STO", "STO"), ("CBWL", "CBWL"), ("ZKWL", "ZKWL"), ("TTK", "TTKDEX"),
    ("POSTB", "POSTB"), ("YUNDA", "YUNDA_QR"), ("YTO", "YTO")]
  match codes.lookup carrierCode with
  | none => none
  | some code => s.logisticsCompanies.first fun company => company.code = code

/-- `lstrip(prefix)` takes off every leading character that the prefix contains. -/
def parseOrderCode (account : Account) (orderCode : String) : String :=
  String.ofList (orderCode.toList.dropWhile fun c => account.orderPrefix.toList.contains c)

namespace OutwarePackage

def generateUnikey (logisticsNo carrierCode : String) : String :=
  logisticsNo ++ "-" ++ carrierCode

/-- The row of the package, and whether it is new. -/
def getOrCreate (packageType : Nat) (package : Package) : DeliveryTx (OutwarePackage × Bool) := do
  let uniKey := generateUnikey package.logisticsNo package.carrierCode
  match ← gets fun s => s.packages.first fun p =>
      p.carrierCode = package.carrierCode ∧ p.logisticsNo = package.logisticsNo ∧
        p.packageType = packageType ∧ p.uniKey = uniKey with
  | some p => pure (p, false)
  | none => do
      let taken ← gets fun s => s.packages.rows.any fun p => p.uniKey = uniKey
      raiseIf (taken = true) .integrityError
      let p : OutwarePackage := {
        id := 0
        packageType := packageType
        packageOrderCode := ""
        storeCode := ""
        logisticsNo := package.logisticsNo
        carrierCode := package.carrierCode
        uniKey := uniKey }
      let stored ← gets fun s => s.packages.stored p
      modify fun s => { s with packages := s.packages.insert p }
      pure (stored, true)

def addSku (package : OutwarePackage) (item : PackageItem) : DeliveryTx Unit := do
  let uniKey := item.skuCode ++ "-" ++ toString package.id ++ "-" ++ item.batchNo
  let taken ← gets fun s => s.packageSkus.rows.any fun sku => sku.uniKey = uniKey
  raiseIf (taken = true) .integrityError
  modify fun s => { s with
    packageSkus := s.packageSkus.insert {
      id := 0
      package := package.id
      skuCode := item.skuCode
      batchNo := item.batchNo
      skuQty := item.skuQty
      uniKey := uniKey } }

/-- The packages of a notification that are new are stored; the other ones are passed by. -/
def storeAll (notice : Notice) : List Package → DeliveryTx (List OutwarePackage)
  | [] => pure []
  | package :: packages => do
      let found ← getOrCreate notice.orderType package
      if found.2 = false then storeAll notice packages
      else do
        let stored := { found.1 with
          packageOrderCode := notice.orderCode
          storeCode := package.storeCode }
        modify fun s => { s with packages := s.packages.save stored }
        forEach package.packageItems stored.addSku
        let rest ← storeAll notice packages
        pure (stored :: rest)

/-- Batches of one SKU share a key, of which the last one stays. -/
def getSkuDict (package : OutwarePackage) (s : DeliveryDb) : Dict :=
  Dict.ofPairs ((s.packageSkus.filter fun sku => sku.package = package.id).map fun sku =>
    (sku.skuCode, sku.skuQty))

variable (account : Account) (outside : Outside)

/-- `PackageOrder.objects.get(pid=package.mall_order_code)` -/
def mallPackage (package : OutwarePackage) : DeliveryTx PackageOrder :=
  match (parseOrderCode account package.packageOrderCode).toNat? with
  | none => raise (.valueError "invalid literal for int() with base 10")
  | some pid => PackageOrder.get pid

/-- The keys of the dictionary become the numbers of the SKUs. -/
def mallSkuDict : Dict → DeliveryTx Dict
  | [] => pure []
  | (skuCode, qty) :: dict => do
      match ← gets fun s => s.productSkus.filter fun sku => sku.outerId = skuCode with
      | [sku] => do
          let rest ← mallSkuDict dict
          pure ((toString sku.id, qty) :: rest)
      | [] => raise .doesNotExist
      | _ => raise .multipleObjectsReturned

def shipPart (package : OutwarePackage) (packageOrder : PackageOrder) (skuDict : Dict) :
    DeliveryTx Unit := do
  let newPackage ← packageOrder.divide outside skuDict
  let company ← gets (LogisticsCompany.getByFengchaoCode package.carrierCode)
  (newPackage.getD packageOrder).finishThirdPackage outside package.logisticsNo company
  modify fun s => { s with shipped := s.shipped ++ [package.id] }

/-- `SaleOutRunner.execute` -/
def saleOut (package : OutwarePackage) : DeliveryTx Unit := do
  let packageOrder ← package.mallPackage account
  let skuOriDict ← gets package.getSkuDict
  let skuDict ← mallSkuDict skuOriDict
  package.shipPart outside packageOrder skuDict

/-- `ReturnStoreRunner.execute`, which calls a method that a package does not have. -/
def returnStore (package : OutwarePackage) : DeliveryTx Unit := do
  let packageOrder ← package.mallPackage account
  let skuDict ← gets package.getSkuDict
  let _ ← packageOrder.divide outside skuDict
  raise .attributeError

def runner (notice : Notice) : OutwarePackage → DeliveryTx Unit :=
  if notice.userPack = true then saleOut account outside else returnStore account outside

/-- The order is marked outside of the transaction of the packages, and the runner works
outside of it as well. -/
def createByPushInfo (notice : Notice) : DeliveryTx (List OutwarePackage) := do
  zoom DeliveryDb.outware (fun t s => { s with outware := t }) (markSended notice.orderCode)
  let owPackages ← atomic (storeAll notice notice.packages)
  forEach owPackages (runner account outside notice)
  pure owPackages

end OutwarePackage

/-- `order_delivery`: the code of the answer to a notification. -/
def orderDelivery (account : Account) (outside : Outside) (notice : Notice) (s : DeliveryDb) :
    Nat × DeliveryDb :=
  match (OutwarePackage.createByPushInfo account outside notice).run s with
  | (.ok _, s') => (0, s')
  | (.error _, s') => (3, s')

end ShopManager.Outware.Delivery
