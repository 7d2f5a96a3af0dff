import Mathlib.Data.List.MinMax
import Mathlib.Data.String.Basic
import ShopManager.Basic
import ShopManager.Library.Table
import ShopManager.Library.Text
import ShopManager.Library.Transaction

/-!
# Stock flows of batches

A post out of a batch, or a return into one, is recorded under the order it is for.  The record's
key is made of the order and the type; where an order is served from several batches, a counter
behind the key tells the records apart.
-/

namespace ShopManager.Purchase.StockFlow

open Library Library.Tx Library.Text

inductive RecordType where
  | saleOrder | saleRefund
  deriving DecidableEq, Repr

def RecordType.value : RecordType → String
  | saleOrder => "sorder"
  | saleRefund => "srefund"

structure StockBatchFlowRecord where
  id : Nat
  modelId : Nat
  skuId : Nat
  recordNum : Int
  recordType : RecordType
  batchNo : String
  referalId : String
  uniKey : String
  status : Bool
  finishTime : Option Nat
  deriving DecidableEq, Repr

instance : Row StockBatchFlowRecord where
  pk := StockBatchFlowRecord.id
  withPk n record := { record with id := n }

/-- `modelId` is the one of the SKU's product. -/
structure ProductSku where
  id : Nat
  modelId : Nat
  deriving DecidableEq, Repr

instance : Row ProductSku where
  pk := ProductSku.id
  withPk n sku := { sku with id := n }

structure FlowDb where
  productSkus : Table ProductSku
  records : Table StockBatchFlowRecord

abbrev FlowTx (α : Type) := Tx FlowDb Exn α

def uniKeyOf (referalId : String) (recordType : RecordType) : String :=
  referalId ++ ("-" ++ recordType.value)

/-- `int` of a text: blanks around the digits and a plus sign are let through. -/
def int (text : String) : Option Nat :=
  let blank : Char → Bool := Char.isWhitespace
  let stripped := ((text.toList.dropWhile blank).reverse.dropWhile blank).reverse
  let digits := String.ofList (if stripped.head? = some '+' then stripped.tail else stripped)
  if isDigits digits = true then some (number digits) else none

/-- The first record whose key begins with the text, in the order of keys. -/
def firstRecord (s : FlowDb) (uniKey : String) : Option StockBatchFlowRecord :=
  (s.records.filter fun record => uniKey.toList <+: record.uniKey.toList).argmin
    StockBatchFlowRecord.uniKey

/-- The counter that follows the third field of a key. -/
def nextCounter (uniKey : String) : Option Nat :=
  match split '-' uniKey with
  | _ :: _ :: counter :: _ => (int counter).map Nat.succ
  | _ => some 1

def splitKey (uniKey : String) : FlowTx String := do
  match ← gets fun s => firstRecord s uniKey with
  | none => pure uniKey
  | some record => do
      let n ← getOr (.valueError "invalid literal for int() with base 10") fun _ =>
        nextCounter record.uniKey
      pure (uniKey ++ ("-" ++ toString n))

def StockBatchFlowRecord.create (record : StockBatchFlowRecord) : FlowTx StockBatchFlowRecord := do
  let taken ← gets fun s => s.records.rows.any fun r => r.uniKey = record.uniKey
  raiseIf (taken = true) .integrityError
  let stored ← gets fun s => s.records.stored record
  modify fun s => { s with records := s.records.insert record }
  pure stored

/-- The arguments of a call. -/
structure Flow where
  skuId : Nat
  recordNum : Int
  batchNo : String
  referalId : String
  recordType : RecordType
  rowSplit : Bool
  deriving DecidableEq, Repr

def Flow.record (flow : Flow) (modelId : Nat) (uniKey : String) : StockBatchFlowRecord where
  id := 0
  modelId := modelId
  skuId := flow.skuId
  recordNum := flow.recordNum
  recordType := flow.recordType
  batchNo := flow.batchNo
  referalId := flow.referalId
  uniKey := uniKey
  status := false
  finishTime := none

def createOrGet (record : StockBatchFlowRecord) : FlowTx StockBatchFlowRecord :=
  tryCatch record.create fun e =>
    if e = .integrityError then
      getOr .doesNotExist fun s => s.records.first fun r => r.uniKey = record.uniKey
    else raise e

def Flow.uniKey (flow : Flow) : FlowTx String :=
  if flow.rowSplit = true then splitKey (uniKeyOf flow.referalId flow.recordType)
  else pure (uniKeyOf flow.referalId flow.recordType)

def getOrCreateStockBatchRecord (flow : Flow) : FlowTx StockBatchFlowRecord := do
  let psku ← getOr .doesNotExist fun s => s.productSkus.get? flow.skuId
  let uniKey ← flow.uniKey
  createOrGet (flow.record psku.modelId uniKey)

def pushSaleorderPostBatchRecord (skuId : Nat) (recordNum : Int) (batchNo referalId : String)
    (rowSplit : Bool) : FlowTx StockBatchFlowRecord :=
  getOrCreateStockBatchRecord ⟨skuId, recordNum, batchNo, referalId, .saleOrder, rowSplit⟩

def pushSalerefundPostBatchRecord (skuId : Nat) (recordNum : Int) (batchNo referalId : String) :
    FlowTx StockBatchFlowRecord :=
  getOrCreateStockBatchRecord ⟨skuId, recordNum, batchNo, referalId, .saleRefund, false⟩

def StockBatchFlowRecord.asFinished (now : Nat) (record : StockBatchFlowRecord) :
    StockBatchFlowRecord :=
  { record with
    status := true
    finishTime := some now }

/-- Each of the records is finished and saved. -/
def setStockBatchFlowRecordFinished (now : Nat) (referalId : String) (recordType : RecordType) :
    FlowTx Unit :=
  modify fun s => { s with
    records := s.records.update (fun record =>
      (uniKeyOf referalId recordType).toList <+: record.uniKey.toList ∧ record.status = false)
      (StockBatchFlowRecord.asFinished now) }

end ShopManager.Purchase.StockFlow
