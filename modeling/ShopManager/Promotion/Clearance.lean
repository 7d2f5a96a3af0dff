import ShopManager.Basic
import ShopManager.Library.Execution
import ShopManager.Library.Table
import ShopManager.Library.Transaction

/-!
# Clearance batches

The surplus stock of a day is listed product by product in a batch, and activities are carved
out of the batch.
-/

namespace ShopManager.Promotion.Clearance

open Library Library.Tx Library.Execution

structure SkuStock where
  skuId : Nat
  productId : Nat
  saleProduct : Nat
  normal : Bool
  categoryId : Nat
  outerId : String
  location : String
  historyQuantity : Int
  inboundQuantity : Int
  adjustQuantity : Int
  returnQuantity : Int
  postNum : Int
  rgQuantity : Int
  soldNum : Int

def SkuStock.realtimeQuantity (stat : SkuStock) : Int :=
  stat.historyQuantity + stat.inboundQuantity + stat.adjustQuantity + stat.returnQuantity -
    stat.postNum - stat.rgQuantity

def SkuStock.autoSale (pid : Nat) (stat : SkuStock) : Bool :=
  stat.normal && stat.returnQuantity > stat.soldNum + stat.rgQuantity - stat.historyQuantity -
      stat.adjustQuantity - stat.inboundQuantity && stat.categoryId ≠ pid &&
    !stat.outerId.startsWith "RMB"

structure BatchStockSale where
  id : Nat
  status : Nat
  total : Nat
  productTotal : Nat
  skuTotal : Nat
  stockTotal : Int

instance : Row BatchStockSale where
  pk := BatchStockSale.id
  withPk n batch := { batch with id := n }

structure ActivityStockSale where
  id : Nat
  batch : Nat
  dayBatchNum : Nat
  total : Nat
  productTotal : Nat
  skuTotal : Nat
  stockTotal : Int
  status : Nat

instance : Row ActivityStockSale where
  pk := ActivityStockSale.id
  withPk n activity := { activity with id := n }

/-- What a row gets as its JSON column. -/
inductive SkuDetail where
  | dict (quantities : List (Nat × Int))
  | set (elements : List Int)
  deriving DecidableEq

/-- `json.dumps` knows no sets. -/
def SkuDetail.dumps : SkuDetail → Bool
  | dict _ => true
  | set _ => false

structure StockSale where
  id : Nat
  saleProduct : Option Nat
  product : Nat
  quantity : Int
  skuNum : Nat
  batch : Nat
  dayBatchNum : Nat
  activity : Option Nat
  status : Nat
  stockSafe : Nat
  skuDetail : SkuDetail
  location : String

instance : Row StockSale where
  pk := StockSale.id
  withPk n sale := { sale with id := n }

/-- `unex` is the category that is never cleared; `strict` is the SQL mode in which a null
is refused by an update too. -/
structure ClearanceDb where
  stocks : List SkuStock
  unex : Option Nat
  strict : Bool
  batches : Table BatchStockSale
  activities : Table ActivityStockSale
  stockSales : Table StockSale

abbrev ClearanceTx (α : Type) := Tx ClearanceDb Exn α

def getAutoSaleStock : ClearanceTx (List SkuStock) := do
  let pid ← getOr .doesNotExist fun s => s.unex
  gets fun s => s.stocks.filter (SkuStock.autoSale pid)

def stockTotal (stats : List SkuStock) : Option Int :=
  stats.head?.map fun first =>
    (stats.map fun stat => stat.realtimeQuantity + stat.rgQuantity).sum - first.rgQuantity

/-- The dictionary of unsaved rows; a second SKU of a product asks it for an attribute that
stocks do not have. -/
def collect (batch : Nat) : List SkuStock → List StockSale → ClearanceTx (List StockSale)
  | [], res => pure res
  | stat :: stats, res =>
      if res.any fun sale => sale.product = stat.productId then raise .attributeError
      else collect batch stats (res ++ [{
        id := 0
        saleProduct := if stat.saleProduct = 0 then none else some stat.saleProduct
        product := stat.productId
        quantity := stat.realtimeQuantity
        skuNum := 1
        batch := batch
        dayBatchNum := 0
        activity := none
        status := 0
        stockSafe := 0
        skuDetail := .set [stat.skuId, stat.realtimeQuantity]
        location := stat.location }])

/-- `gen_new_stock_sale`, once its batch is stored. -/
def fillBatch (batch : BatchStockSale) : ClearanceTx Unit := do
  let stats ← getAutoSaleStock
  let res ← collect batch.id stats []
  raiseIf (res.any (fun sale => !sale.skuDetail.dumps) = true) .typeError
  modify fun s => { s with stockSales := res.foldl Table.insert s.stockSales }
  let products := res.map StockSale.product
  let stats := stats.filter fun stat => stat.productId ∈ products
  let strict ← gets ClearanceDb.strict
  raiseIf (strict = true ∧ stockTotal stats = none) .integrityError
  let total ← gets fun s => ((s.stockSales.filter fun sale =>
    sale.batch = batch.id).filterMap StockSale.saleProduct).dedup.length
  modify fun s => { s with
    batches := s.batches.save { batch with
      status := 1
      total := total
      productTotal := products.length
      skuTotal := stats.length
      stockTotal := (stockTotal stats).getD 0 } }

def genNewStockSale : ClearanceTx Unit := do
  modify fun s => { s with
    batches := s.batches.update (fun batch => batch.status < 2) fun batch =>
      { batch with status := 2 } }
  let batch ← gets fun s => s.batches.stored ⟨0, 0, 0, 0, 0, 0⟩
  modify fun s => { s with batches := s.batches.insert batch }
  fillBatch batch

def genNewActivity (cnt : Int) : ClearanceTx Unit := do
  let batch ← getOr .attributeError fun s => s.batches.rows.getLast?
  let old ← gets fun s => (s.activities.filter fun activity => activity.batch = batch.id).getLast?
  let dayBatchNum := (old.map ActivityStockSale.dayBatchNum).getD 0 + 1
  raiseIf (cnt < 0) (.assertion "Negative indexing is not supported.")
  let ids ← gets fun s => ((s.stockSales.filter fun sale =>
    sale.batch = batch.id ∧ sale.dayBatchNum = 0).map StockSale.saleProduct).dedup.take cnt.toNat
  -- a row without a sale product is in no list of ids
  let chosen ← gets fun s => s.stockSales.filter fun sale =>
    sale.batch = batch.id ∧ ids.contains sale.saleProduct ∧ sale.saleProduct ≠ none
  let products := chosen.map StockSale.product
  let stats ← getAutoSaleStock
  let stats := stats.filter fun stat => stat.productId ∈ products
  let total ← getOr .integrityError fun _ => stockTotal stats
  let activity ← gets fun s => s.activities.stored
    ⟨0, batch.id, dayBatchNum, ids.length, chosen.length, stats.length, total, 0⟩
  modify fun s => { s with
    activities := s.activities.insert activity
    stockSales := s.stockSales.update (fun sale => sale.batch = batch.id ∧
        ids.contains sale.saleProduct ∧ sale.saleProduct ≠ none ∧ sale.dayBatchNum = 0) fun sale =>
      { sale with
        dayBatchNum := dayBatchNum
        activity := some activity.id } }

/-- A stored row is saved; the handler calls a method that activities do not have. -/
def saveStockSale (id status stockSafe : Nat) : ClearanceTx Unit := do
  let sale ← gets fun s => s.stockSales.get? id
  match sale with
  | none => pure ()
  | some sale => do
      modify fun s => { s with
        stockSales := s.stockSales.save { sale with
          status := status
          stockSafe := stockSafe } }
      raiseIf (sale.activity.isSome = true) .attributeError

inductive ClearanceOp where
  | genNewStockSale
  | genNewActivity (cnt : Int)
  | saveStockSale (id status stockSafe : Nat)

def ClearanceOp.program : ClearanceOp → ClearanceTx Unit
  | genNewStockSale => Clearance.genNewStockSale
  | genNewActivity cnt => Clearance.genNewActivity cnt
  | saveStockSale id status stockSafe => Clearance.saveStockSale id status stockSafe

def ClearanceOp.exec (op : ClearanceOp) (s : ClearanceDb) : ClearanceDb := (op.program.run s).2

def ClearanceDb.surplus (s : ClearanceDb) : List SkuStock :=
  match s.unex with
  | none => []
  | some pid => s.stocks.filter (SkuStock.autoSale pid)

/-! ## The law of a step -/

def salesOf (s : ClearanceDb) (activity : Nat) : List StockSale :=
  s.stockSales.filter fun sale => sale.activity = some activity

def listed (stats : List SkuStock) (product : Nat) : Nat × Nat × Int × SkuDetail :=
  let own := stats.filter fun stat => stat.productId = product
  (product, own.length, (own.map SkuStock.realtimeQuantity).sum,
    .dict (own.map fun stat => (stat.skuId, stat.realtimeQuantity)))

structure Partitioned (s : ClearanceDb) : Prop where
  together : ∀ sale ∈ s.stockSales, ∀ sale' ∈ s.stockSales, sale.batch = sale'.batch →
    sale.saleProduct = sale'.saleProduct → sale.saleProduct ≠ none →
    sale.activity = sale'.activity
  counted : ∀ activity ∈ s.activities, activity.productTotal = (salesOf s activity.id).length
  advanced : ∀ activity ∈ s.activities, activity.status = 2 ↔
    ∀ sale ∈ salesOf s activity.id, sale.status ≠ 0 ∧ (sale.status = 1 → sale.stockSafe ≠ 0)

/-- A call returns, a new batch lists each product with surplus stock once, and the rows stay
partitioned. -/
structure Law (s : ClearanceDb) (op : ClearanceOp) : Prop where
  returns : (op.program.run s).1 = .ok ()
  batch : op = .genNewStockSale → ((((op.exec s).stockSales.filter fun sale =>
      sale.batch = s.batches.nextId).map fun sale =>
        (sale.product, sale.skuNum, sale.quantity, sale.skuDetail)).Perm
    ((s.surplus.map SkuStock.productId).dedup.map (listed s.surplus)))
  partitioned : Partitioned (op.exec s)

/-- There is nothing to clear, in the lax SQL mode, and no activity is asked for. -/
def Fits (s : ClearanceDb) : ClearanceOp → Prop
  | .genNewStockSale => s.unex.isSome = true ∧ s.surplus = [] ∧ s.strict = false
  | .genNewActivity _ => False
  | .saveStockSale _ _ _ => True

def Blank (s : ClearanceDb) : Prop := s.stockSales.rows = [] ∧ s.activities.rows = []

variable {s : ClearanceDb}

theorem Blank.partitioned (hs : Blank s) : Partitioned s where
  together sale hsale := by
    rw [Table.mem_def, hs.1] at hsale
    simp at hsale
  counted activity hactivity := by
    rw [Table.mem_def, hs.2] at hactivity
    simp at hactivity
  advanced activity hactivity := by
    rw [Table.mem_def, hs.2] at hactivity
    simp at hactivity

theorem collect_run (batch : Nat) (s : ClearanceDb) {stats : List SkuStock} {res : List StockSale}
    (hres : stats ≠ [] ∨ res.any (fun sale => !sale.skuDetail.dumps) = true) :
    (collect batch stats res).run s = (.error .attributeError, s) ∨
      ∃ res', (collect batch stats res).run s = (.ok res', s) ∧
        res'.any (fun sale => !sale.skuDetail.dumps) = true := by
  induction stats generalizing res with
  | nil => exact Or.inr ⟨res, rfl, hres.resolve_left (by simp)⟩
  | cons stat stats ih =>
    unfold collect
    split
    · exact Or.inl rfl
    · apply ih
      right
      rw [List.any_append, Bool.or_eq_true]
      exact Or.inr rfl

theorem autoSale_run (h : s.unex.isSome = true) : getAutoSaleStock.run s = (.ok s.surplus, s) := by
  obtain ⟨pid, hpid⟩ := Option.isSome_iff_exists.1 h
  unfold getAutoSaleStock ClearanceDb.surplus
  rw [getOr_bind_run, hpid]
  rfl

theorem autoSale_missing (h : ¬ s.unex.isSome = true) :
    getAutoSaleStock.run s = (.error .doesNotExist, s) := by
  unfold getAutoSaleStock
  rw [getOr_bind_run, Option.not_isSome_iff_eq_none.1 h]

theorem fillBatch_run (batch : BatchStockSale) (s : ClearanceDb) :
    (∃ t, (fillBatch batch).run s = (.ok (), t) ∧ t.stockSales = s.stockSales ∧
        t.activities = s.activities ∧ Fits s .genNewStockSale) ∨
      (¬ Fits s .genNewStockSale ∧ ∃ e t, (fillBatch batch).run s = (.error e, t)) := by
  unfold fillBatch Fits
  by_cases hunex : s.unex.isSome = true
  · rw [bind_ok (autoSale_run hunex)]
    by_cases hsurplus : s.surplus = []
    · rw [hsurplus, show collect batch.id [] [] = pure [] from rfl, pure_bind_run,
        raiseIf_bind_run, if_neg (by simp), modify_bind_run, gets_bind_run, raiseIf_bind_run]
      cases hstrict : s.strict with
      | false =>
        rw [if_neg (by simp), gets_bind_run]
        exact Or.inl ⟨_, rfl, rfl, rfl, hunex, rfl, rfl⟩
      | true =>
        rw [if_pos ⟨rfl, rfl⟩]
        exact Or.inr ⟨by simp, _, _, rfl⟩
    · right
      refine ⟨fun h => hsurplus h.2.1, ?_⟩
      rcases collect_run batch.id s (Or.inl hsurplus) with hrun | ⟨res, hrun, hset⟩
      · rw [bind_error hrun]
        exact ⟨_, _, rfl⟩
      · rw [bind_ok hrun, raiseIf_bind_run, if_pos hset]
        exact ⟨_, _, rfl⟩
  · right
    refine ⟨fun h => hunex h.1, ?_⟩
    rw [bind_error (autoSale_missing hunex)]
    exact ⟨_, _, rfl⟩

theorem genNewStockSale_run (s : ClearanceDb) :
    (∃ t, genNewStockSale.run s = (.ok (), t) ∧ t.stockSales = s.stockSales ∧
        t.activities = s.activities ∧ Fits s .genNewStockSale) ∨
      (¬ Fits s .genNewStockSale ∧ ∃ e t, genNewStockSale.run s = (.error e, t)) := by
  unfold genNewStockSale
  rw [modify_bind_run, gets_bind_run, modify_bind_run]
  exact fillBatch_run _ _

theorem genNewActivity_run (hs : Blank s) (cnt : Int) :
    ∃ e, (genNewActivity cnt).run s = (.error e, s) := by
  unfold genNewActivity
  rw [getOr_bind_run]
  cases s.batches.rows.getLast? with
  | none => exact ⟨_, rfl⟩
  | some batch =>
    simp only [gets_bind_run, raiseIf_bind_run]
    split
    · exact ⟨_, rfl⟩
    · by_cases hunex : s.unex.isSome = true
      · rw [bind_ok (autoSale_run hunex)]
        simp only [Table.filter, hs.1, List.filter_nil, List.map_nil, List.not_mem_nil,
          decide_false, List.filter_false]
        exact ⟨_, rfl⟩
      · rw [bind_error (autoSale_missing hunex)]
        exact ⟨_, rfl⟩

theorem saveStockSale_run (hs : Blank s) (id status stockSafe : Nat) :
    (saveStockSale id status stockSafe).run s = (.ok (), s) := by
  have hnone : s.stockSales.get? id = none := by
    simp [Table.get?, Table.first, hs.1]
  unfold saveStockSale
  rw [gets_bind_run, hnone]
  rfl

theorem law_of_blank (hs : Blank s) {op : ClearanceOp} {t : ClearanceDb}
    (hrun : op.program.run s = (.ok (), t)) (hsales : t.stockSales = s.stockSales)
    (hactivities : t.activities = s.activities)
    (hbatch : op = .genNewStockSale → s.surplus = []) : Law s op ∧ Blank (op.exec s) := by
  have hexec : op.exec s = t := congrArg Prod.snd hrun
  have hblank : Blank (op.exec s) := by
    rw [hexec, Blank, hsales, hactivities]
    exact hs
  refine ⟨⟨congrArg Prod.fst hrun, fun hop => ?_, hblank.partitioned⟩, hblank⟩
  simp [hbatch hop, Table.filter, hblank.1]

theorem law_of_fits (hs : Blank s) (op : ClearanceOp) (h : Fits s op) :
    Law s op ∧ Blank (op.exec s) := by
  cases op with
  | genNewStockSale =>
    rcases genNewStockSale_run s with ⟨t, hrun, hsales, hactivities, _⟩ | ⟨hnot, _⟩
    · exact law_of_blank hs hrun hsales hactivities fun _ => h.2.1
    · exact absurd h hnot
  | genNewActivity cnt => exact h.elim
  | saveStockSale id status stockSafe =>
    exact law_of_blank hs (saveStockSale_run hs id status stockSafe) rfl rfl (by simp)

theorem law_iff_fits (hs : Blank s) (op : ClearanceOp) : Law s op ↔ Fits s op := by
  refine ⟨fun h => ?_, fun h => (law_of_fits hs op h).1⟩
  have hreturns := h.returns
  cases op with
  | genNewStockSale =>
    rcases genNewStockSale_run s with ⟨t, _, _, _, hfits⟩ | ⟨_, e, t, hrun⟩
    · exact hfits
    · rw [ClearanceOp.program, hrun] at hreturns
      simp at hreturns
  | genNewActivity cnt =>
    obtain ⟨e, hrun⟩ := genNewActivity_run hs cnt
    rw [ClearanceOp.program, hrun] at hreturns
    simp at hreturns
  | saveStockSale id status stockSafe => trivial

def ClearanceDb.start (stocks : List SkuStock) (unex : Option Nat) (strict : Bool) : ClearanceDb :=
  ⟨stocks, unex, strict, Table.empty, Table.empty, Table.empty⟩

/-- Runs are lawful exactly as long as nothing is cleared. -/
theorem clearance_iff (stocks : List SkuStock) (unex : Option Nat) (strict : Bool)
    (ops : List ClearanceOp) :
    Guarded ClearanceOp.exec Law ops (.start stocks unex strict) ↔
      Guarded ClearanceOp.exec Fits ops (.start stocks unex strict) := by
  have hstep : ∀ s op, Blank s → (Law s op ↔ Fits s op) := fun _ op hs => law_iff_fits hs op
  have hkeeps : ∀ s op, Blank s → Fits s op → Blank (ClearanceOp.exec op s) :=
    fun _ op hs h => (law_of_fits hs op h).2
  exact guarded_iff_guarded hstep hkeeps ops _ ⟨rfl, rfl⟩

def surplusStock : SkuStock := ⟨1, 1, 7, true, 2, "A1", "", 0, 5, 0, 0, 0, 0, 0⟩

theorem clearance_fails :
    ¬ Guarded ClearanceOp.exec Law [.genNewStockSale] (.start [surplusStock] (some 1) false) := by
  rintro ⟨hlaw, -⟩
  exact absurd hlaw.returns (by decide +kernel)

end ShopManager.Promotion.Clearance
