import ShopManager.Basic
import ShopManager.Library.Table
import ShopManager.Library.Transaction

/-!
# Returns to suppliers

Goods that go back to a supplier stand on a bill, good and inferior pieces apart.  The bill is
verified, sent and, if the supplier does not take the goods, marked as failed; each of these
writes to the stock of the SKUs.
-/

namespace ShopManager.Purchase.Return

open Library Library.Tx

/-! ## Data -/

inductive ReturnStatus where
  | create | verify | obsolete | deliver | refund | succeed | failed
  deriving DecidableEq, Repr

inductive DetailType where
  | refund | change
  deriving DecidableEq, Repr

structure ReturnGoods where
  id : Nat
  productId : Nat
  status : ReturnStatus
  checkedTime : Option Nat
  transactorId : Option Nat
  consigner : String
  consignTime : Option Nat
  sid : Option String
  logisticsCompanyId : Option Nat
  deriving DecidableEq, Repr

instance : Row ReturnGoods where
  pk := ReturnGoods.id
  withPk n rg := { rg with id := n }

structure RGDetail where
  id : Nat
  skuid : Nat
  returnGoods : Nat
  num : Int
  inferiorNum : Int
  type : DetailType
  deriving DecidableEq, Repr

instance : Row RGDetail where
  pk := RGDetail.id
  withPk n rgd := { rgd with id := n }

structure Product where
  id : Nat
  collectNum : Int
  deriving DecidableEq, Repr

instance : Row Product where
  pk := Product.id
  withPk n product := { product with id := n }

structure ProductSku where
  id : Nat
  quantity : Int
  skuInferiorNum : Int
  deriving DecidableEq, Repr

instance : Row ProductSku where
  pk := ProductSku.id
  withPk n psk := { psk with id := n }

structure LogisticsCompany where
  id : Nat
  name : String
  deriving DecidableEq, Repr

instance : Row LogisticsCompany where
  pk := LogisticsCompany.id
  withPk n company := { company with id := n }

structure ReturnDb where
  returnGoods : Table ReturnGoods
  rgDetails : Table RGDetail
  products : Table Product
  productSkus : Table ProductSku
  logisticsCompanies : Table LogisticsCompany

abbrev ReturnTx (α : Type) := Tx ReturnDb Exn α

namespace ReturnGoods

def rgDetails (s : ReturnDb) (id : Nat) : List RGDetail :=
  s.rgDetails.filter fun rgd => rgd.returnGoods = id

def save (rg : ReturnGoods) : ReturnTx Unit :=
  modify fun s => { s with returnGoods := s.returnGoods.save rg }

end ReturnGoods

/-- `ProductSku.objects.filter(id=skuid).update(..)` -/
def updateSku (skuid : Nat) (f : ProductSku → ProductSku) : ReturnTx Unit :=
  modify fun s => { s with productSkus := s.productSkus.update (fun psk => psk.id = skuid) f }

def reduced (stock num : Int) : Int := if num ≤ stock then stock - num else 0

/-- The stock of the SKU and of the product is reduced. -/
def acrionInvenctoryNum (product : Product) (psk : ProductSku) (rd : RGDetail) : ReturnTx Unit := do
  updateSku psk.id fun k => { k with quantity := reduced k.quantity rd.num }
  modify fun s => { s with
    products := s.products.update (fun p => p.id = product.id) fun p =>
      { p with collectNum := reduced p.collectNum rd.num } }
  updateSku psk.id fun k => { k with skuInferiorNum := reduced k.skuInferiorNum rd.inferiorNum }

/-- The details after one of an unknown SKU are left out. -/
def reduceEach (product : Product) : List RGDetail → ReturnTx Unit
  | [] => pure ()
  | rd :: rds => do
      match ← gets fun s => s.productSkus.get? rd.skuid with
      | none => pure ()
      | some psk => do
          acrionInvenctoryNum product psk rd
          reduceEach product rds

def changeProductInventory (rg : ReturnGoods) (actioner : String) : ReturnTx Unit := do
  modify fun s => { s with
    returnGoods := s.returnGoods.update (fun r => r.id = rg.id) fun r =>
      { r with consigner := actioner } }
  let rgDetails ← gets fun s => ReturnGoods.rgDetails s rg.id
  match ← gets fun s => s.products.get? rg.productId with
  | none => pure ()
  | some product => reduceEach product rgDetails

def ReturnGoods.verify (rg : ReturnGoods) (userId now : Nat) : ReturnTx Unit :=
  ReturnGoods.save { rg with
    status := .verify
    transactorId := some userId
    checkedTime := some now }

/-- `change_duihuo_status` with `act_str` `ok`. -/
def changeDuihuoStatusOk (id userId now : Nat) (username : String) : ReturnTx Unit := do
  let rg ← getOr .doesNotExist fun s => s.returnGoods.get? id
  rg.verify userId now
  changeProductInventory rg username

/-- The pieces that are to be paid back are taken.  The bill for the refund is left out. -/
def ReturnGoods.deliveryBy (rg : ReturnGoods) (logisticsNo : String) (logisticsCompanyId : Nat)
    (consigner : String) (now : Nat) : ReturnTx Unit := do
  ReturnGoods.save { rg with
    sid := some logisticsNo
    logisticsCompanyId := some logisticsCompanyId
    consigner := consigner
    consignTime := some now
    status := .deliver }
  let details ← gets fun s => (ReturnGoods.rgDetails s rg.id).filter fun d => d.type = .refund
  forEach details fun d => updateSku d.skuid fun k => { k with quantity := k.quantity - d.num }

/-- The answer of a view. -/
inductive Answer where
  | done
  | refused (msg : String)
  deriving DecidableEq, Repr

def setReturnGoodsSkuSend (id : Nat) (logisticCompanyName logisticNo consigner : String)
    (now : Nat) : ReturnTx Answer := do
  let company ← getOr .doesNotExist fun s =>
    s.logisticsCompanies.first fun c => c.name = logisticCompanyName
  let rg ← getOr .doesNotExist fun s => s.returnGoods.get? id
  if rg.transactorId.getD 0 = 0 then pure (.refused "请选择负责人")
  else if rg.status = .verify then do
    rg.deliveryBy logisticNo company.id consigner now
    pure .done
  else pure (.refused "只有已审核的退货可以执行发货")

/-- The bill itself is saved once for each detail. -/
def ReturnGoods.setFailed (rg : ReturnGoods) : ReturnTx Unit := do
  let rd ← gets fun s => ReturnGoods.rgDetails s rg.id
  forEach rd fun item => do
    updateSku item.skuid fun k => { k with
      quantity := k.quantity + item.num
      skuInferiorNum := k.skuInferiorNum + item.inferiorNum }
    ReturnGoods.save { rg with status := .failed }

/-- The refusal itself fails, since `json.dump` is called without a file. -/
def setReturnGoodsFailed (id : Nat) : ReturnTx Unit := do
  let rg ← getOr .doesNotExist fun s => s.returnGoods.get? id
  if rg.status = .deliver then rg.setFailed
  else raise (.exception "dump() takes at least 2 arguments (1 given)")

end ShopManager.Purchase.Return
