import ShopManager.Basic
import ShopManager.Library.Table
import ShopManager.Library.Transaction

/-!
# Returned products

A product that a customer sends back is recorded when its parcel is opened.  If it can be sold
again it belongs to the stock of its SKU, which keeps the number of such pieces in a column.
-/

namespace ShopManager.Refunds

open Library Library.Tx

/-- `skuId` is empty until the SKU is found by the codes of the product. -/
structure RefundProduct where
  id : Nat
  outerId : String
  outerSkuId : String
  skuId : Option Nat
  num : Int
  title : String
  property : String
  canReuse : Bool
  created : Nat
  inStock : Bool
  deriving DecidableEq, Repr

instance : Row RefundProduct where
  pk := RefundProduct.id
  withPk n product := { product with id := n }

/-- `productOuterId` is the code of the product that the SKU is of. -/
structure ProductSku where
  id : Nat
  outerId : String
  productOuterId : String
  deriving DecidableEq, Repr

instance : Row ProductSku where
  pk := ProductSku.id
  withPk n sku := { sku with id := n }

/-- A SKU has at most one row of stock; `stocks` has the `return_quantity` of the rows. -/
structure RefundDb where
  products : Table RefundProduct
  productSkus : Table ProductSku
  stocks : Nat → Option Int

abbrev RefundTx (α : Type) := Tx RefundDb Exn α

def commitTime : Nat := 1461085200

/-! ## Stock -/

namespace SkuStock

def isCounted (sku : Nat) (product : RefundProduct) : Bool :=
  product.skuId = some sku ∧ commitTime < product.created ∧ product.canReuse = true

def returnTotal (s : RefundDb) (sku : Nat) : Int :=
  ((s.products.filter (isCounted sku)).map RefundProduct.num).sum

/-- The value that `restat` leaves in the column. -/
def restat (s : RefundDb) (sku : Nat) (returnQuantity : Int) : Int :=
  if returnQuantity ≠ returnTotal s sku then returnTotal s sku else returnQuantity

def put (sku : Nat) (returnQuantity : Int) (s : RefundDb) : RefundDb :=
  { s with stocks := Function.update s.stocks sku (some returnQuantity) }

def getBySku (sku : Nat) : RefundTx Int := do
  match ← gets fun s => s.stocks sku with
  | some returnQuantity => pure returnQuantity
  | none => do
      let _ ← getOr .doesNotExist fun s => s.productSkus.get? sku
      modify (put sku 0)
      pure 0

/-- With `stat=True`: the sum replaces the incremented number. -/
def addReturnQuantity (sku : Nat) (num : Int) : RefundTx Unit := do
  let returnQuantity ← getOr .doesNotExist fun s => s.stocks sku
  let counted ← gets fun s => restat s sku (returnQuantity + num)
  modify (put sku counted)

end SkuStock

/-- The stock is assigned to orders after that, which leaves the column alone. -/
def taskRefundproductUpdateProductskustatsReturnQuantity (sku : Nat) : RefundTx Unit := do
  let total ← gets fun s => SkuStock.returnTotal s sku
  let returnQuantity ← SkuStock.getBySku sku
  if returnQuantity ≠ total then modify (SkuStock.put sku total) else pure ()

/-- A task that fails is not seen by the one who queued it. -/
def delay (task : RefundTx Unit) : RefundTx Unit := tryCatch task fun _ => pure ()

def ProductSku.getByOuterId (outerSkuId outerId : String) : RefundTx ProductSku := do
  match ← gets fun s => s.productSkus.filter fun sku =>
    sku.outerId = outerSkuId ∧ sku.productOuterId = outerId with
  | [sku] => pure sku
  | [] => raise .doesNotExist
  | _ => raise .multipleObjectsReturned

namespace RefundProduct

/-- The stock is assigned to orders after that, which leaves the column alone. -/
def addIntoStock (product : RefundProduct) : RefundTx Unit :=
  match product.skuId with
  | none => pure ()
  | some sku =>
      if product.canReuse = false then pure () else SkuStock.addReturnQuantity sku product.num

/-- The handler finds the SKU where it is missing, and writes to the row behind the instance. -/
def updateProductskustatsRefundQuantity (product : RefundProduct) : RefundTx Unit :=
  if product.created < commitTime then pure ()
  else do
    let sku ← match product.skuId with
      | some sku => pure sku
      | none => do
          let sku ← ProductSku.getByOuterId product.outerSkuId product.outerId
          modify fun s => { s with
            products := s.products.update (fun p => p.id = product.id) fun p =>
              { p with skuId := some sku.id } }
          pure sku.id
    addIntoStock { product with skuId := some sku }
    modify fun s => { s with
      products := s.products.update (fun p => p.id = product.id) fun p => { p with inStock := true } }

def create (product : RefundProduct) : RefundTx Unit := do
  let stored ← gets fun s => s.products.stored product
  modify fun s => { s with products := s.products.insert product }
  stored.updateProductskustatsRefundQuantity

def save (product : RefundProduct) : RefundTx Unit := do
  modify fun s => { s with products := s.products.save product }
  product.updateProductskustatsRefundQuantity

/-- The number and the reusability of a row are edited. -/
def edit (id : Nat) (num : Int) (canReuse : Bool) : RefundTx Unit := do
  let product ← getOr .doesNotExist fun s => s.products.get? id
  save { product with
    num := num
    canReuse := canReuse }

/-- An instance that was created before may not have seen that its row is in stock. -/
def addIntoStockSave (id : Nat) (inStock : Bool) : RefundTx Unit := do
  let product ← getOr .doesNotExist fun s => s.products.get? id
  if inStock = false then do
    addIntoStock product
    save { product with inStock := true }
  else pure ()

/-- The new SKU of the products of another one. -/
structure Change where
  skuId : Nat
  outerId : String
  outerSkuId : String
  title : String
  property : String
  deriving DecidableEq, Repr

def refundChange (originSkuId : Nat) (change : Change) (refused : Bool) : RefundTx String := do
  let found ← gets fun s => s.products.rows.any fun p => p.skuId = some originSkuId
  if found = false then pure "sku_id is not exist"
  else if refused = true then pure "db update wrong"
  else do
    modify fun s => { s with
      products := s.products.update (fun p => p.skuId = some originSkuId) fun p =>
        { p with
          skuId := some change.skuId
          outerId := change.outerId
          outerSkuId := change.outerSkuId
          title := change.title
          property := change.property } }
    delay (taskRefundproductUpdateProductskustatsReturnQuantity originSkuId)
    delay (taskRefundproductUpdateProductskustatsReturnQuantity change.skuId)
    pure "success"

end RefundProduct

end ShopManager.Refunds
