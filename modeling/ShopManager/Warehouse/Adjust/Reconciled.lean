import ShopManager.Library.Execution
import ShopManager.Warehouse.Adjust.Model

/-!
# Adjusted stock

The counters of the stock are the sums of the adjustments, and the stock is that of the warehouse
outside once it was synced.
-/

namespace ShopManager.Warehouse.Adjust

open Library Library.Tx Library.Execution

/-! ## What the counters should be -/

def weight (inferior : Bool) (sku : Nat) (a : StockAdjust) : Int :=
  if a.sku = sku ∧ a.inferior = inferior then a.num else 0

def total (s : AdjustDb) (inferior : Bool) (sku : Nat) : Int := s.adjusts.sum (weight inferior sku)

structure Counted (s : AdjustDb) : Prop where
  good : ∀ sku stock, s.stocks sku = some stock → stock.adjustQuantity = total s false sku
  inferior : ∀ sku stat, s.inferiors sku = some stat → stat.adjustNum = total s true sku

def skuOf (s : AdjustDb) (skuCode : String) : Option Nat :=
  match s.productSkus.filter fun sku => sku.outerId = skuCode with
  | [sku] => some sku.id
  | _ => none

def SyncsWell (s : AdjustDb) (skuCode : String) (data : StockData) (now : Nat) : Prop :=
  ∀ t, (OutwareSkuStock.syncStockByAdjust skuCode data now).run s = (.ok (), t) →
    ∃ sku stock stat, skuOf s skuCode = some sku ∧
      t.stocks sku = some stock ∧ stock.realtimeQuantity = data.goodAvailableQty ∧
      t.inferiors sku = some stat ∧ stat.realtimeQuantity = data.badQty ∧
      ∀ later, ((OutwareSkuStock.syncStockByAdjust skuCode data later).run t).2.adjusts = t.adjusts

inductive AdjustOp where
  | create (sku : Nat) (num : Int) (wareBy : Nat) (inferior : Bool)
  | save (a : StockAdjust)
  | restat (sku : Nat) (inboundQuantity returnQuantity rgQuantity postNum : Int)
  | sync (skuCode : String) (data : StockData) (now : Nat)

def AdjustOp.exec : AdjustOp → AdjustDb → AdjustDb
  | create sku num wareBy inferior, s => ((StockAdjust.create sku num wareBy inferior).run s).2
  | save a, s => (a.save.run s).2
  | restat sku inboundQuantity returnQuantity rgQuantity postNum, s =>
      ((SkuStock.restat sku inboundQuantity returnQuantity rgQuantity postNum).run s).2
  | sync skuCode data now, s =>
      ((OutwareSkuStock.syncStockByAdjust skuCode data now).run s).2

def AdjustOp.Reconciles (s : AdjustDb) (op : AdjustOp) : Prop :=
  Counted (op.exec s) ∧ match op with
    | sync skuCode data now => SyncsWell s skuCode data now
    | _ => True

def freshStock : SkuStock := ⟨0, 0, 0, 0, 0, 0⟩

def freshStats (totals : InferiorTotals) : InferiorSkuStats :=
  ⟨0, totals.inbound, totals.returned, totals.rg, 0⟩

def stockOf (s : AdjustDb) (sku : Nat) : SkuStock := (s.stocks sku).getD freshStock

def statsOf (s : AdjustDb) (sku : Nat) : InferiorSkuStats :=
  (s.inferiors sku).getD (freshStats (s.inferiorTotals sku))

def sumOf (s : AdjustDb) (sku : Nat) (p : StockAdjust → Bool) : Int :=
  s.adjusts.sum fun a => if a.sku = sku ∧ p a = true then a.num else 0

/-- The row that is saved: an adjustment in its first state has not counted yet, and another one
counts as it did. -/
structure SaveFits (s : AdjustDb) (old a : StockAdjust) : Prop where
  good : ∀ sku, s.stocks sku ≠ none →
    if a.status = .initial then weight false sku old = 0
    else weight false sku a = weight false sku old
  inferior : ∀ sku, s.inferiors sku ≠ none →
    (a.status = .initial ∧ a.inferior = true ∧ a.sku = sku) ∨
      weight true sku a = weight true sku old
  first : a.status = .initial → s.stocks a.sku = none →
    total s false a.sku - weight false a.sku old + weight false a.sku a = 0

/-- Rows of stock that are made have nothing to count yet, and the stock differs from that
outside in one kind of pieces at most. -/
structure SyncFits (s : AdjustDb) (sku : Nat) (data : StockData) : Prop where
  good : s.stocks sku = none → total s false sku = 0
  inferior : s.inferiors sku = none → total s true sku = 0
  differs : (stockOf s sku).realtimeQuantity = data.goodAvailableQty ∨
    (statsOf s sku).realtimeQuantity = data.badQty

def AdjustOp.Fits (s : AdjustDb) : AdjustOp → Prop
  | create sku num _ inferior => s.productSkus.get? sku ≠ none → s.stocks sku = none →
      total s false sku + (if inferior = false then num else 0) = 0
  | save a => s.productSkus.get? a.sku ≠ none → ∀ old ∈ s.adjusts, old.id = a.id → SaveFits s old a
  | restat sku _ _ _ _ => s.stocks sku ≠ none →
      sumOf s sku (fun a => a.inferior = true ∧ a.status = .processed) =
        sumOf s sku fun a => a.inferior = false ∧ a.status ≠ .processed
  | sync skuCode data _ => (∃ o ∈ s.outwareStocks, o.skuCode = skuCode) →
      ∀ sku, skuOf s skuCode = some sku → SyncFits s sku data

variable {s t : AdjustDb} {a old : StockAdjust} {sku : Nat}

structure Frame (s t : AdjustDb) : Prop where
  totals : ∀ inferior sku, total t inferior sku = total s inferior sku
  outware : t.outwareStocks = s.outwareStocks
  inferiorTotals : t.inferiorTotals = s.inferiorTotals
  skus : t.productSkus.rows.map (fun sku => (sku.id, sku.outerId)) =
    s.productSkus.rows.map fun sku => (sku.id, sku.outerId)

theorem inferior_sum (s : AdjustDb) (sku : Nat) :
    ((s.adjusts.filter fun b => b.sku = sku ∧ b.inferior = true).map StockAdjust.num).sum =
      total s true sku := by
  rw [Table.sum_filter]
  refine Table.sum_congr fun b _ => ?_
  unfold weight
  exact if_congr decide_eq_true_iff rfl rfl

theorem getBySku_run (s : AdjustDb) {sku : Nat} (hsku : s.productSkus.get? sku ≠ none) :
    (SkuStock.getBySku sku).run s = (.ok (stockOf s sku),
      { s with stocks := Function.update s.stocks sku (some (stockOf s sku)) }) := by
  unfold SkuStock.getBySku stockOf
  rw [gets_bind_run]
  cases hstock : s.stocks sku with
  | some stock =>
    have hsame : Function.update s.stocks sku (some stock) = s.stocks := by
      rw [← hstock, Function.update_eq_self]
    rw [Option.getD_some, hsame]
    rfl
  | none =>
    obtain ⟨psku, hget⟩ := Option.ne_none_iff_exists'.mp hsku
    dsimp only
    simp only [getOr_bind_run, hget]
    rfl

theorem getBySku_inferior_run (s : AdjustDb) {sku : Nat} (hsku : s.productSkus.get? sku ≠ none) :
    (InferiorSkuStats.getBySku sku).run s = (.ok (statsOf s sku),
      { s with inferiors := Function.update s.inferiors sku (some (statsOf s sku)) }) := by
  unfold InferiorSkuStats.getBySku statsOf
  rw [gets_bind_run]
  cases hstat : s.inferiors sku with
  | some stat =>
    have hsame : Function.update s.inferiors sku (some stat) = s.inferiors := by
      rw [← hstat, Function.update_eq_self]
    rw [Option.getD_some, hsame]
    rfl
  | none =>
    obtain ⟨psku, hget⟩ := Option.ne_none_iff_exists'.mp hsku
    dsimp only
    simp only [getOr_bind_run, hget]
    rfl

def adjusted (a : StockAdjust) (stock : SkuStock) : SkuStock :=
  if a.inferior = false then { stock with adjustQuantity := stock.adjustQuantity + a.num }
  else stock

def recounted (s : AdjustDb) (a : StockAdjust) (stat : InferiorSkuStats) : InferiorSkuStats :=
  if a.inferior = false then stat else { stat with adjustNum := total s true a.sku }

theorem count_run (s : AdjustDb) (a : StockAdjust) :
    a.count.run s = (.ok (), { s with
      stocks := Function.update s.stocks a.sku ((s.stocks a.sku).map (adjusted a))
      inferiors := Function.update s.inferiors a.sku
        ((s.inferiors a.sku).map (recounted s a)) }) := by
  unfold StockAdjust.count adjusted recounted
  by_cases hinferior : a.inferior = false
  · have hid : ∀ stat : InferiorSkuStats, (if a.inferior = false then stat
        else { stat with adjustNum := total s true a.sku }) = stat := fun _ => if_pos hinferior
    have hsame : (s.inferiors a.sku).map (fun stat => if a.inferior = false then stat
        else { stat with adjustNum := total s true a.sku }) = s.inferiors a.sku := by
      rw [funext hid]
      exact congrFun Option.map_id _
    rw [if_pos hinferior, hsame, Function.update_eq_self]
    unfold SkuStock.addAdjustNum
    rw [modify_run]
    simp only [if_pos hinferior]
  · have hid : ∀ stock : SkuStock, (if a.inferior = false then
        { stock with adjustQuantity := stock.adjustQuantity + a.num } else stock) = stock :=
      fun _ => if_neg hinferior
    have hsame : (s.stocks a.sku).map (fun stock => if a.inferior = false then
        { stock with adjustQuantity := stock.adjustQuantity + a.num } else stock) =
          s.stocks a.sku := by
      rw [funext hid]
      exact congrFun Option.map_id _
    rw [if_neg hinferior, hsame, Function.update_eq_self, gets_bind_run, inferior_sum]
    unfold InferiorSkuStats.updateAdjustNum
    rw [modify_run]
    simp only [if_neg hinferior]

structure Handled (s t : AdjustDb) (a : StockAdjust) : Prop extends Frame s t where
  stocks : t.stocks = Function.update s.stocks a.sku
    (some (((s.stocks a.sku).map (adjusted a)).getD freshStock))
  inferiors : t.inferiors = Function.update s.inferiors a.sku
    ((s.inferiors a.sku).map (recounted s a))

theorem handler_run (hstatus : a.status = .initial) (hsku : s.productSkus.get? a.sku ≠ none) :
    ∃ t, a.updateProductskustatsAdjustNum.run s = (.ok (), t) ∧ Handled s t a := by
  unfold StockAdjust.updateProductskustatsAdjustNum
  rw [if_pos hstatus, bind_ok (count_run s a), modify_bind_run]
  generalize hcounted : ({ s with
    adjusts := s.adjusts.update (fun b => b.id = a.id) fun b => { b with status := .processed }
    stocks := Function.update s.stocks a.sku ((s.stocks a.sku).map (adjusted a))
    inferiors := Function.update s.inferiors a.sku
      ((s.inferiors a.sku).map (recounted s a)) } : AdjustDb) = counted
  have hcountedSku : counted.productSkus.get? a.sku ≠ none := by
    rw [← hcounted]
    exact hsku
  rw [bind_ok (getBySku_run counted hcountedSku), modify_run]
  subst hcounted
  refine ⟨_, rfl, ⟨fun inferior sku => ?_, rfl, rfl, ?_⟩, ?_, rfl⟩
  · unfold total
    rw [Table.sum_update]
    refine Table.sum_congr fun b _ => ?_
    split
    · rfl
    · rfl
  · exact Table.map_rows_update fun _ _ _ => rfl
  · unfold stockOf
    dsimp only
    rw [Function.update_self, Function.update_idem]

theorem handler_done (hstatus : a.status ≠ .initial) :
    a.updateProductskustatsAdjustNum.run s = (.ok (), s) := by
  unfold StockAdjust.updateProductskustatsAdjustNum
  rw [if_neg hstatus]
  rfl

/-! ## Writes of adjustments -/

theorem weight_other {inferior : Bool} (h : a.sku ≠ sku) : weight inferior sku a = 0 :=
  if_neg fun hsku => h hsku.1

theorem weight_own (inferior : Bool) :
    weight inferior a.sku a = if a.inferior = inferior then a.num else 0 :=
  if_congr (and_iff_right rfl) rfl rfl

theorem counted_written_iff {w : AdjustDb} (hcounted : Counted s) (h : Handled w t a)
    (hstocks : w.stocks = s.stocks) (hinferiors : w.inferiors = s.inferiors) :
    Counted t ↔
      (∀ sku, s.stocks sku ≠ none →
        total w false sku = total s false sku + weight false sku a) ∧
      (∀ sku, s.inferiors sku ≠ none → (a.inferior = true ∧ a.sku = sku) ∨
        total w true sku = total s true sku) ∧
      (s.stocks a.sku = none → total w false a.sku = 0) := by
  have hstock : ∀ sku, t.stocks sku = if sku = a.sku then
      some (((s.stocks a.sku).map (adjusted a)).getD freshStock) else s.stocks sku := by
    intro sku
    rw [h.stocks, hstocks, Function.update_apply]
  have hstat : ∀ sku, t.inferiors sku = if sku = a.sku then
      (s.inferiors a.sku).map (recounted w a) else s.inferiors sku := by
    intro sku
    rw [h.inferiors, hinferiors, Function.update_apply]
  constructor
  · intro hafter
    refine ⟨fun sku hsome => ?_, fun sku hsome => ?_, fun hnone => ?_⟩
    · obtain ⟨stock, hbefore⟩ := Option.ne_none_iff_exists'.mp hsome
      have htotal := hcounted.good sku stock hbefore
      by_cases hsku : sku = a.sku
      · subst hsku
        have hnow := hafter.good a.sku (adjusted a stock) (by
          rw [hstock, if_pos rfl, hbefore]
          rfl)
        rw [h.totals] at hnow
        rw [← hnow, ← htotal, weight_own]
        unfold adjusted
        split
        · rfl
        · exact (add_zero _).symm
      · have hnow := hafter.good sku stock (by rw [hstock, if_neg hsku, hbefore])
        rw [h.totals] at hnow
        rw [← hnow, ← htotal, weight_other (Ne.symm hsku), add_zero]
    · obtain ⟨stat, hbefore⟩ := Option.ne_none_iff_exists'.mp hsome
      have htotal := hcounted.inferior sku stat hbefore
      by_cases hsku : sku = a.sku
      · subst hsku
        by_cases hinferior : a.inferior = true
        · exact .inl ⟨hinferior, rfl⟩
        · have hnow := hafter.inferior a.sku stat (by
            rw [hstat, if_pos rfl, hbefore]
            exact congrArg some (if_pos (Bool.eq_false_of_not_eq_true hinferior)))
          rw [h.totals] at hnow
          exact .inr (hnow.symm.trans htotal)
      · have hnow := hafter.inferior sku stat (by rw [hstat, if_neg hsku, hbefore])
        rw [h.totals] at hnow
        exact .inr (hnow.symm.trans htotal)
    · have hnow := hafter.good a.sku freshStock (by
        rw [hstock, if_pos rfl, hnone]
        rfl)
      rw [h.totals] at hnow
      exact hnow.symm
  · rintro ⟨hgood, hinferior, hnew⟩
    refine ⟨fun sku stock hafter => ?_, fun sku stat hafter => ?_⟩
    · rw [h.totals]
      rw [hstock] at hafter
      split at hafter
      · next hsku =>
          subst hsku
          cases hbefore : s.stocks a.sku with
          | none =>
            rw [hbefore] at hafter
            rw [← Option.some.inj hafter, hnew hbefore]
            rfl
          | some before =>
            have htotal := hcounted.good a.sku before hbefore
            rw [hbefore] at hafter
            rw [← Option.some.inj hafter, hgood a.sku (hbefore ▸ Option.some_ne_none _), ← htotal,
              weight_own]
            change (adjusted a before).adjustQuantity = _
            unfold adjusted
            split
            · rfl
            · exact (add_zero _).symm
      · next hsku =>
          rw [hgood sku (hafter ▸ Option.some_ne_none _), weight_other (Ne.symm hsku), add_zero]
          exact hcounted.good sku stock hafter
    · rw [h.totals]
      rw [hstat] at hafter
      split at hafter
      · next hsku =>
          subst hsku
          obtain ⟨before, hbefore, rfl⟩ := Option.map_eq_some_iff.mp hafter
          unfold recounted
          split
          · next hgoodPieces =>
              have hsame := (hinferior a.sku (hbefore ▸ Option.some_ne_none _)).resolve_left fun h =>
                Bool.false_ne_true (hgoodPieces.symm.trans h.1)
              rw [hsame]
              exact hcounted.inferior a.sku before hbefore
          · rfl
      · next hsku =>
          have hsame := (hinferior sku (hafter ▸ Option.some_ne_none _)).resolve_left fun h =>
            hsku h.2.symm
          rw [hsame]
          exact hcounted.inferior sku stat hafter

def createdRow (s : AdjustDb) (sku : Nat) (num : Int) (wareBy : Nat) (inferior : Bool) :
    StockAdjust :=
  s.adjusts.stored ⟨0, wareBy, sku, num, inferior, .initial⟩

def inserted (s : AdjustDb) (sku : Nat) (num : Int) (wareBy : Nat) (inferior : Bool) : AdjustDb :=
  { s with adjusts := s.adjusts.insert ⟨0, wareBy, sku, num, inferior, .initial⟩ }

theorem total_inserted (s : AdjustDb) (sku : Nat) (num : Int) (wareBy : Nat) (inferior kind : Bool)
    (sku' : Nat) : total (inserted s sku num wareBy inferior) kind sku' =
      total s kind sku' + weight kind sku' (createdRow s sku num wareBy inferior) :=
  Table.sum_insert _ _ _

theorem create_run (num : Int) (wareBy : Nat) (inferior : Bool)
    (hsku : s.productSkus.get? sku ≠ none) :
    ∃ t, (StockAdjust.create sku num wareBy inferior).run s = (.ok (), t) ∧
      Handled (inserted s sku num wareBy inferior) t (createdRow s sku num wareBy inferior) := by
  obtain ⟨psku, hget⟩ := Option.ne_none_iff_exists'.mp hsku
  unfold StockAdjust.create
  simp only [getOr_bind_run, hget, gets_bind_run, modify_bind_run]
  exact handler_run (a := createdRow s sku num wareBy inferior)
    (s := inserted s sku num wareBy inferior) rfl hsku

theorem create_counted_iff (hcounted : Counted s) (sku : Nat) (num : Int) (wareBy : Nat)
    (inferior : Bool) :
    Counted ((AdjustOp.create sku num wareBy inferior).exec s) ↔
      (AdjustOp.create sku num wareBy inferior).Fits s := by
  change Counted ((StockAdjust.create sku num wareBy inferior).run s).2 ↔
    (s.productSkus.get? sku ≠ none → _)
  by_cases hsku : s.productSkus.get? sku = none
  · unfold StockAdjust.create
    simp only [getOr_bind_run, hsku]
    exact iff_of_true hcounted fun h => absurd rfl h
  · obtain ⟨t, hrun, hhandled⟩ := create_run num wareBy inferior hsku
    have htotals := total_inserted s sku num wareBy inferior
    rw [hrun, imp_iff_right hsku, counted_written_iff hcounted hhandled rfl rfl]
    have hown : weight false sku (createdRow s sku num wareBy inferior) =
        if inferior = false then num else 0 :=
      weight_own (a := createdRow s sku num wareBy inferior) false
    constructor
    · rintro ⟨-, -, hnew⟩ hnone
      rw [← hown, ← htotals]
      exact hnew hnone
    · intro hnew
      refine ⟨fun sku' _ => htotals false sku', fun sku' _ => ?_, fun hnone => ?_⟩
      · by_cases hcounts : inferior = true ∧ sku = sku'
        · exact .inl hcounts
        · refine .inr ?_
          rw [htotals, show weight true sku' (createdRow s sku num wareBy inferior) = 0 from
            if_neg fun h => hcounts ⟨h.2, h.1⟩, add_zero]
      · rw [htotals]
        change total s false sku + weight false sku (createdRow s sku num wareBy inferior) = 0
        rw [hown]
        exact hnew hnone

theorem save_counted_iff (hcounted : Counted s) (a : StockAdjust) :
    Counted ((AdjustOp.save a).exec s) ↔ (AdjustOp.save a).Fits s := by
  change Counted (a.save.run s).2 ↔ (s.productSkus.get? a.sku ≠ none →
    ∀ old ∈ s.adjusts, old.id = a.id → SaveFits s old a)
  unfold StockAdjust.save
  cases hget : s.adjusts.get? a.id with
  | none =>
    simp only [getOr_bind_run, hget]
    refine iff_of_true hcounted fun _ old hold hid => ?_
    exact absurd hid (of_decide_eq_false (Table.first_eq_none.mp hget old hold))
  | some old =>
    obtain ⟨hold, hid⟩ := Table.get?_eq_some.mp hget
    have hunique : (∀ old' ∈ s.adjusts, old'.id = a.id → SaveFits s old' a) ↔ SaveFits s old a := by
      refine ⟨fun h => h old hold hid, fun h old' hold' hid' => ?_⟩
      obtain rfl := Table.pk_inj hold' hold (hid'.trans hid.symm)
      exact h
    rw [hunique]
    have htotals : ∀ kind sku, total { s with adjusts := s.adjusts.save a } kind sku =
        total s kind sku - weight kind sku old + weight kind sku a := fun kind sku =>
      Table.sum_save hold hid _
    cases hsku : s.productSkus.get? a.sku with
    | none =>
      simp only [getOr_bind_run, hget, hsku]
      exact iff_of_true hcounted fun h => absurd rfl h
    | some psku =>
      simp only [getOr_bind_run, hget, hsku, modify_bind_run]
      rw [imp_iff_right (Option.some_ne_none psku)]
      by_cases hstatus : a.status = .initial
      · obtain ⟨t, hrun, hhandled⟩ := handler_run (s := { s with adjusts := s.adjusts.save a })
          hstatus (hsku ▸ Option.some_ne_none psku)
        rw [hrun, counted_written_iff hcounted hhandled rfl rfl]
        constructor
        · rintro ⟨hgood, hinferior, hnew⟩
          refine ⟨fun sku hsome => ?_, fun sku hsome => ?_, fun _ hnone => ?_⟩
          · rw [if_pos hstatus]
            have htotal := hgood sku hsome
            rw [htotals] at htotal
            exact sub_eq_self.mp (add_right_cancel htotal)
          · refine (hinferior sku hsome).imp (fun h => ⟨hstatus, h⟩) fun htotal => ?_
            rw [htotals, sub_add_eq_add_sub, add_sub_assoc, add_eq_left, sub_eq_zero] at htotal
            exact htotal
          · rw [← htotals]
            exact hnew hnone
        · intro hfits
          refine ⟨fun sku hsome => ?_, fun sku hsome => ?_, fun hnone => ?_⟩
          · have hweight := hfits.good sku hsome
            rw [if_pos hstatus] at hweight
            rw [htotals, hweight, sub_zero]
          · refine (hfits.inferior sku hsome).imp (fun h => h.2) fun hweight => ?_
            rw [htotals, hweight, sub_add_cancel]
          · rw [htotals]
            exact hfits.first hstatus hnone
      · rw [handler_done hstatus]
        constructor
        · intro hafter
          refine ⟨fun sku hsome => ?_, fun sku hsome => .inr ?_, fun h => absurd h hstatus⟩
          · obtain ⟨stock, hstock⟩ := Option.ne_none_iff_exists'.mp hsome
            rw [if_neg hstatus]
            have hnow := hafter.good sku stock hstock
            rw [htotals, hcounted.good sku stock hstock, sub_add_eq_add_sub, add_sub_assoc,
              left_eq_add, sub_eq_zero] at hnow
            exact hnow
          · obtain ⟨stat, hstat⟩ := Option.ne_none_iff_exists'.mp hsome
            have hnow := hafter.inferior sku stat hstat
            rw [htotals, hcounted.inferior sku stat hstat, sub_add_eq_add_sub, add_sub_assoc,
              left_eq_add, sub_eq_zero] at hnow
            exact hnow
        · intro hfits
          refine ⟨fun sku stock hstock => ?_, fun sku stat hstat => ?_⟩
          · have hsome : s.stocks sku ≠ none := by
              change s.stocks sku = some stock at hstock
              exact hstock ▸ Option.some_ne_none _
            have hweight := hfits.good sku hsome
            rw [if_neg hstatus] at hweight
            rw [htotals, hweight, sub_add_cancel]
            exact hcounted.good sku stock hstock
          · have hsome : s.inferiors sku ≠ none := by
              change s.inferiors sku = some stat at hstat
              exact hstat ▸ Option.some_ne_none _
            have hweight := (hfits.inferior sku hsome).resolve_left fun h => hstatus h.1
            rw [htotals, hweight, sub_add_cancel]
            exact hcounted.inferior sku stat hstat

theorem processed_sum (s : AdjustDb) (sku : Nat) :
    ((s.adjusts.filter fun a => a.sku = sku ∧ a.status = .processed).map StockAdjust.num).sum =
      total s false sku + (sumOf s sku (fun a => a.inferior = true ∧ a.status = .processed) -
        sumOf s sku fun a => a.inferior = false ∧ a.status ≠ .processed) := by
  rw [Table.sum_filter]
  unfold total sumOf
  rw [← add_sub_assoc, eq_sub_iff_add_eq, ← Table.sum_add, ← Table.sum_add]
  refine Table.sum_congr fun a _ => ?_
  unfold weight
  by_cases hsku : a.sku = sku
  · cases hinferior : a.inferior with
    | false =>
      by_cases hstatus : a.status = .processed
      · simp [hsku, hinferior, hstatus]
      · simp [hsku, hinferior, hstatus]
    | true =>
      by_cases hstatus : a.status = .processed
      · simp [hsku, hinferior, hstatus]
      · simp [hsku, hinferior, hstatus]
  · simp [hsku]

theorem restat_counted_iff (hcounted : Counted s) (sku : Nat)
    (inboundQuantity returnQuantity rgQuantity postNum : Int) :
    Counted ((AdjustOp.restat sku inboundQuantity returnQuantity rgQuantity postNum).exec s) ↔
      (AdjustOp.restat sku inboundQuantity returnQuantity rgQuantity postNum).Fits s := by
  change Counted ((SkuStock.restat sku _ _ _ _).run s).2 ↔ (s.stocks sku ≠ none → _)
  unfold SkuStock.restat
  cases hstock : s.stocks sku with
  | none =>
    simp only [getOr_bind_run, hstock]
    exact iff_of_true hcounted fun h => absurd rfl h
  | some stock =>
    simp only [getOr_bind_run, hstock, gets_bind_run, modify_run]
    rw [imp_iff_right (Option.some_ne_none stock), processed_sum, ← sub_eq_zero]
    constructor
    · intro hafter
      have hnow := hafter.good sku _ (Function.update_self _ _ _)
      exact add_eq_left.mp hnow
    · intro hsums
      refine ⟨fun sku' stock' hstock' => ?_, fun sku' stat hstat => hcounted.inferior sku' stat hstat⟩
      dsimp only at hstock'
      by_cases hsku : sku' = sku
      · subst hsku
        rw [Function.update_self] at hstock'
        rw [← Option.some.inj hstock']
        exact add_eq_left.mpr hsums
      · rw [Function.update_of_ne hsku] at hstock'
        exact hcounted.good sku' stock' hstock'

/-! ## Syncs -/

theorem skuOf_eq (s : AdjustDb) (skuCode : String) : skuOf s skuCode =
    match ((s.productSkus.rows.map fun sku => (sku.id, sku.outerId)).filter fun key =>
      key.2 = skuCode).map Prod.fst with
    | [sku] => some sku
    | _ => none := by
  have hmap : ((s.productSkus.rows.map fun sku => (sku.id, sku.outerId)).filter fun key =>
      key.2 = skuCode).map Prod.fst =
        (s.productSkus.filter fun sku => sku.outerId = skuCode).map ProductSku.id := by
    unfold Table.filter
    rw [List.filter_map, List.map_map]
    rfl
  rw [hmap]
  unfold skuOf
  match s.productSkus.filter fun sku => sku.outerId = skuCode with
  | [] => rfl
  | [_] => rfl
  | _ :: _ :: _ => rfl

theorem Frame.skuOf (h : Frame s t) (skuCode : String) : skuOf t skuCode = skuOf s skuCode := by
  rw [skuOf_eq, skuOf_eq, h.skus]

theorem getByOuterId_some {skuCode : String} (h : skuOf s skuCode = some sku) :
    s.productSkus.get? sku ≠ none ∧
      ∃ psku : ProductSku, psku.id = sku ∧
        (ProductSku.getByOuterId skuCode).run s = (.ok psku, s) := by
  unfold skuOf at h
  unfold ProductSku.getByOuterId
  rw [gets_bind_run]
  match hfilter : s.productSkus.filter fun sku => sku.outerId = skuCode with
  | [psku] =>
    rw [hfilter] at h
    obtain rfl := Option.some.inj h
    have hmem : psku ∈ s.productSkus.filter fun sku => sku.outerId = skuCode := by
      rw [hfilter]
      exact List.mem_singleton_self psku
    have hget := Table.get?_eq_some.mpr ⟨(List.mem_filter.mp hmem).1, rfl⟩
    exact ⟨hget ▸ Option.some_ne_none psku, psku, rfl, rfl⟩
  | [] =>
    rw [hfilter] at h
    exact nomatch h
  | _ :: _ :: _ =>
    rw [hfilter] at h
    exact nomatch h

theorem getByOuterId_none {skuCode : String} (h : skuOf s skuCode = none) :
    ∃ e, (ProductSku.getByOuterId skuCode).run s = (.error e, s) := by
  unfold skuOf at h
  unfold ProductSku.getByOuterId
  rw [gets_bind_run]
  match hfilter : s.productSkus.filter fun sku => sku.outerId = skuCode with
  | [psku] =>
    rw [hfilter] at h
    exact nomatch h
  | [] => exact ⟨_, rfl⟩
  | _ :: _ :: _ => exact ⟨_, rfl⟩

def pulled (s : AdjustDb) (stored : OutwareSkuStock) (data : StockData) (now sku : Nat) :
    AdjustDb :=
  { s with
    outwareStocks := s.outwareStocks.save (stored.pull data now)
    stocks := Function.update s.stocks sku (some (stockOf s sku))
    inferiors := Function.update s.inferiors sku (some (statsOf s sku)) }

theorem sync_run {skuCode : String} (data : StockData) (now : Nat) {stored : OutwareSkuStock}
    (hstored : (s.outwareStocks.first fun o => o.skuCode = skuCode) = some stored)
    (hsku : skuOf s skuCode = some sku) :
    (OutwareSkuStock.syncStockByAdjust skuCode data now).run s =
      (adjustDifference data.goodAvailableQty data.badQty sku (stockOf s sku) (statsOf s sku)).run
        (pulled s stored data now sku) := by
  have hcode : stored.skuCode = skuCode := by
    have hspec := Table.first_spec hstored
    exact of_decide_eq_true hspec
  obtain ⟨hget, psku, hid, hrun⟩ := getByOuterId_some (s := { s with
    outwareStocks := s.outwareStocks.save (stored.pull data now) }) hsku
  subst hid
  unfold OutwareSkuStock.syncStockByAdjust
  simp only [getOr_bind_run, hstored, modify_bind_run]
  have hpull : (stored.pull data now).skuCode = skuCode := hcode
  rw [hpull, bind_ok hrun, bind_ok (getBySku_run _ hget)]
  exact bind_ok (getBySku_inferior_run _ hget)

structure Synced (s t : AdjustDb) (skuCode : String) (sku : Nat) (stock : SkuStock)
    (stat : InferiorSkuStats) : Prop where
  outware : ∃ stored, (t.outwareStocks.first fun o => o.skuCode = skuCode) = some stored
  keySku : skuOf t skuCode = some sku
  stocks : t.stocks = Function.update s.stocks sku (some stock)
  inferiors : t.inferiors = Function.update s.inferiors sku (some stat)
  others : ∀ kind k, k ≠ sku → total t kind k = total s kind k

namespace Synced

variable {skuCode : String} {stock : SkuStock} {stat : InferiorSkuStats}

theorem counters_iff (h : Synced s t skuCode sku stock stat) (hcounted : Counted s) :
    Counted t ↔ stock.adjustQuantity = total t false sku ∧ stat.adjustNum = total t true sku := by
  constructor
  · intro hafter
    refine ⟨hafter.good sku stock ?_, hafter.inferior sku stat ?_⟩
    · rw [h.stocks, Function.update_self]
    · rw [h.inferiors, Function.update_self]
  · rintro ⟨hgood, hinferior⟩
    refine ⟨fun k stock' hstock => ?_, fun k stat' hstat => ?_⟩
    · rw [h.stocks] at hstock
      by_cases hk : k = sku
      · subst hk
        rw [Function.update_self] at hstock
        rw [← Option.some.inj hstock]
        exact hgood
      · rw [Function.update_of_ne hk] at hstock
        rw [h.others false k hk]
        exact hcounted.good k stock' hstock
    · rw [h.inferiors] at hstat
      by_cases hk : k = sku
      · subst hk
        rw [Function.update_self] at hstat
        rw [← Option.some.inj hstat]
        exact hinferior
      · rw [Function.update_of_ne hk] at hstat
        rw [h.others true k hk]
        exact hcounted.inferior k stat' hstat

theorem again (h : Synced s t skuCode sku stock stat) {data : StockData}
    (hgood : stock.realtimeQuantity = data.goodAvailableQty)
    (hbad : stat.realtimeQuantity = data.badQty) (later : Nat) :
    ((OutwareSkuStock.syncStockByAdjust skuCode data later).run t).2.adjusts = t.adjusts := by
  obtain ⟨stored, hstored⟩ := h.outware
  have hstock : stockOf t sku = stock := by
    unfold stockOf
    rw [h.stocks, Function.update_self]
    rfl
  have hstat : statsOf t sku = stat := by
    unfold statsOf
    rw [h.inferiors, Function.update_self]
    rfl
  rw [sync_run data later hstored h.keySku, hstock, hstat]
  unfold adjustDifference
  rw [if_neg (not_ne_iff.mpr hgood.symm), if_neg (not_ne_iff.mpr hbad.symm)]
  rfl

theorem syncsWell_iff (h : Synced s t skuCode sku stock stat) {data : StockData} {now : Nat}
    (hrun : (OutwareSkuStock.syncStockByAdjust skuCode data now).run s = (.ok (), t))
    (hsku : skuOf s skuCode = some sku) :
    SyncsWell s skuCode data now ↔
      stock.realtimeQuantity = data.goodAvailableQty ∧ stat.realtimeQuantity = data.badQty := by
  have hstock : t.stocks sku = some stock := by rw [h.stocks, Function.update_self]
  have hstat : t.inferiors sku = some stat := by rw [h.inferiors, Function.update_self]
  constructor
  · intro hwell
    obtain ⟨sku', stock', stat', hsku', hstock', hgood, hstat', hbad, -⟩ := hwell t hrun
    obtain rfl := Option.some.inj (hsku.symm.trans hsku')
    obtain rfl := Option.some.inj (hstock.symm.trans hstock')
    obtain rfl := Option.some.inj (hstat.symm.trans hstat')
    exact ⟨hgood, hbad⟩
  · rintro ⟨hgood, hbad⟩ t' hrun'
    obtain rfl : t = t' := congrArg Prod.snd (hrun.symm.trans hrun')
    exact ⟨sku, stock, stat, hsku, hstock, hgood, hstat, hbad, h.again hgood hbad⟩

end Synced

theorem stockOf_counted_iff (hcounted : Counted s) (sku : Nat) :
    (stockOf s sku).adjustQuantity = total s false sku ↔
      (s.stocks sku = none → total s false sku = 0) := by
  unfold stockOf
  cases hstock : s.stocks sku with
  | none =>
    rw [imp_iff_right rfl]
    exact eq_comm
  | some stock => exact iff_of_true (hcounted.good sku stock hstock) fun h => nomatch h

theorem statsOf_counted_iff (hcounted : Counted s) (sku : Nat) :
    (statsOf s sku).adjustNum = total s true sku ↔
      (s.inferiors sku = none → total s true sku = 0) := by
  unfold statsOf
  cases hstat : s.inferiors sku with
  | none =>
    rw [imp_iff_right rfl]
    exact eq_comm
  | some stat => exact iff_of_true (hcounted.inferior sku stat hstat) fun h => nomatch h

section Sync

variable {skuCode : String} {data : StockData} {now : Nat} {stored : OutwareSkuStock}

theorem pulled_outware (data : StockData) (now sku : Nat)
    (hstored : (s.outwareStocks.first fun o => o.skuCode = skuCode) = some stored) :
    ((pulled s stored data now sku).outwareStocks.first fun o => o.skuCode = skuCode) =
      some (stored.pull data now) := by
  have hcode : stored.skuCode = skuCode := by
    have hspec := Table.first_spec hstored
    exact of_decide_eq_true hspec
  exact Table.first_save_self (a := stored.pull data now) (b := stored) rfl (decide_eq_true hcode)
    hstored

theorem synced_pulled (data : StockData) (now : Nat)
    (hstored : (s.outwareStocks.first fun o => o.skuCode = skuCode) = some stored)
    (hsku : skuOf s skuCode = some sku) :
    Synced s (pulled s stored data now sku) skuCode sku (stockOf s sku) (statsOf s sku) where
  outware := ⟨_, pulled_outware data now sku hstored⟩
  keySku := hsku
  stocks := rfl
  inferiors := rfl
  others _ _ _ := rfl

theorem synced_created (data : StockData) (now : Nat) (delta : Int) (inferior : Bool)
    (hstored : (s.outwareStocks.first fun o => o.skuCode = skuCode) = some stored)
    (hsku : skuOf s skuCode = some sku) :
    ∃ t, (StockAdjust.create sku delta 0 inferior).run (pulled s stored data now sku) =
        (.ok (), t) ∧
      (∀ kind, total t kind sku = total s kind sku + if inferior = kind then delta else 0) ∧
      Synced s t skuCode sku
        (if inferior = false then
          { stockOf s sku with adjustQuantity := (stockOf s sku).adjustQuantity + delta }
        else stockOf s sku)
        (if inferior = false then statsOf s sku
        else { statsOf s sku with adjustNum := total s true sku + delta }) := by
  have hget : (pulled s stored data now sku).productSkus.get? sku ≠ none :=
    (getByOuterId_some hsku).1
  obtain ⟨t, hrun, hhandled⟩ := create_run delta 0 inferior hget
  have htotals : ∀ kind k, total t kind k = total s kind k +
      weight kind k (createdRow (pulled s stored data now sku) sku delta 0 inferior) :=
    fun kind k => (hhandled.totals kind k).trans (total_inserted _ _ _ _ _ _ _)
  have hown : ∀ kind, total t kind sku = total s kind sku + if inferior = kind then delta else 0 :=
    fun kind => (htotals kind sku).trans (congrArg (total s kind sku + ·)
      (weight_own (a := createdRow (pulled s stored data now sku) sku delta 0 inferior) kind))
  refine ⟨t, hrun, hown, ⟨?_, ?_, ?_, ?_, fun kind k hk => ?_⟩⟩
  · rw [hhandled.outware]
    exact ⟨_, pulled_outware data now sku hstored⟩
  · exact (hhandled.toFrame.skuOf skuCode).trans hsku
  · rw [hhandled.stocks]
    change Function.update (Function.update s.stocks sku _) sku (some (((Function.update
      s.stocks sku (some (stockOf s sku)) sku).map _).getD freshStock)) = _
    rw [Function.update_idem, Function.update_self]
    rfl
  · rw [hhandled.inferiors]
    change Function.update (Function.update s.inferiors sku _) sku ((Function.update
      s.inferiors sku (some (statsOf s sku)) sku).map _) = _
    rw [Function.update_idem, Function.update_self, Option.map_some]
    unfold recounted
    change Function.update s.inferiors sku (some (if inferior = false then _ else _)) = _
    split
    · rfl
    · next hinferior =>
        have htotal := (hhandled.totals true sku).symm.trans (hown true)
        rw [if_pos (Bool.eq_true_of_not_eq_false hinferior)] at htotal
        rw [← htotal]
        rfl
  · have hother : weight kind k
        (createdRow (pulled s stored data now sku) sku delta 0 inferior) = 0 :=
      weight_other (Ne.symm hk)
    rw [htotals, hother, add_zero]

theorem realtimeQuantity_added (stock : SkuStock) (quantity : Int) :
    ({ stock with adjustQuantity := stock.adjustQuantity + (quantity - stock.realtimeQuantity) } :
      SkuStock).realtimeQuantity = quantity := by
  unfold SkuStock.realtimeQuantity
  dsimp only
  omega

theorem realtimeQuantity_recounted (stat : InferiorSkuStats) (quantity sum : Int) :
    ({ stat with adjustNum := sum + (quantity - stat.realtimeQuantity) } :
      InferiorSkuStats).realtimeQuantity = quantity ↔ stat.adjustNum = sum := by
  unfold InferiorSkuStats.realtimeQuantity
  dsimp only
  omega

theorem syncFits_iff (hcounted : Counted s) :
    SyncFits s sku data ↔
      ((stockOf s sku).adjustQuantity = total s false sku ∧
        (statsOf s sku).adjustNum = total s true sku) ∧
      ((stockOf s sku).realtimeQuantity = data.goodAvailableQty ∨
        (statsOf s sku).realtimeQuantity = data.badQty) := by
  rw [stockOf_counted_iff hcounted, statsOf_counted_iff hcounted]
  exact ⟨fun h => ⟨⟨h.good, h.inferior⟩, h.differs⟩, fun h => ⟨h.1.1, h.1.2, h.2⟩⟩

theorem sync_found_iff (hcounted : Counted s)
    (hstored : (s.outwareStocks.first fun o => o.skuCode = skuCode) = some stored)
    (hsku : skuOf s skuCode = some sku) :
    (AdjustOp.sync skuCode data now).Reconciles s ↔ SyncFits s sku data := by
  change Counted ((OutwareSkuStock.syncStockByAdjust skuCode data now).run s).2 ∧
    SyncsWell s skuCode data now ↔ _
  have hrun := sync_run data now hstored hsku
  rw [syncFits_iff hcounted]
  by_cases hgood : data.goodAvailableQty ≠ (stockOf s sku).realtimeQuantity
  · obtain ⟨t, hcreate, htotals, hsynced⟩ := synced_created data now
      (data.goodAvailableQty - (stockOf s sku).realtimeQuantity) false hstored hsku
    rw [adjustDifference, if_pos hgood, hcreate] at hrun
    rw [hsynced.syncsWell_iff hrun hsku, hrun, hsynced.counters_iff hcounted, htotals, htotals]
    simp only [if_true, Bool.false_eq_true, if_false, add_zero, add_left_inj]
    refine and_congr Iff.rfl ⟨fun h => .inr h.2, fun h => ⟨?_, ?_⟩⟩
    · exact realtimeQuantity_added _ _
    · exact h.resolve_left fun hequal => hgood hequal.symm
  by_cases hbad : data.badQty ≠ (statsOf s sku).realtimeQuantity
  · obtain ⟨t, hcreate, htotals, hsynced⟩ := synced_created data now
      (data.badQty - (statsOf s sku).realtimeQuantity) true hstored hsku
    rw [adjustDifference, if_neg hgood, if_pos hbad, hcreate] at hrun
    rw [hsynced.syncsWell_iff hrun hsku, hrun, hsynced.counters_iff hcounted, htotals, htotals]
    simp only [if_true, Bool.true_eq_false, if_false, add_zero]
    have hequal := (not_ne_iff.mp hgood).symm
    rw [realtimeQuantity_recounted]
    constructor
    · rintro ⟨⟨hstock, -⟩, -, hstat⟩
      exact ⟨⟨hstock, hstat⟩, .inl hequal⟩
    · rintro ⟨⟨hstock, hstat⟩, -⟩
      exact ⟨⟨hstock, trivial⟩, hequal, hstat⟩
  · have hsynced := synced_pulled data now hstored hsku
    rw [adjustDifference, if_neg hgood, if_neg hbad] at hrun
    have hpure : (pure () : AdjustTx Unit).run (pulled s stored data now sku) =
      (.ok (), pulled s stored data now sku) := rfl
    rw [hpure] at hrun
    rw [hsynced.syncsWell_iff hrun hsku, hrun, hsynced.counters_iff hcounted]
    have hequal := (not_ne_iff.mp hgood).symm
    exact and_congr Iff.rfl ⟨fun _ => .inl hequal, fun _ => ⟨hequal, (not_ne_iff.mp hbad).symm⟩⟩

theorem sync_missing (data : StockData) (now : Nat)
    (hmissing : ¬ ((∃ o ∈ s.outwareStocks, o.skuCode = skuCode) ∧ skuOf s skuCode ≠ none)) :
    ∃ e outwareStocks, (OutwareSkuStock.syncStockByAdjust skuCode data now).run s =
      (.error e, { s with outwareStocks := outwareStocks }) := by
  unfold OutwareSkuStock.syncStockByAdjust
  cases hstored : s.outwareStocks.first fun o => o.skuCode = skuCode with
  | none =>
    simp only [getOr_bind_run, hstored]
    exact ⟨_, _, rfl⟩
  | some stored =>
    have hcode : stored.skuCode = skuCode := by
      have hspec := Table.first_spec hstored
      exact of_decide_eq_true hspec
    have hsku : skuOf s skuCode = none := by
      by_contra hsome
      exact hmissing ⟨⟨stored, Table.mem_of_first hstored, hcode⟩, hsome⟩
    obtain ⟨e, hrun⟩ := getByOuterId_none (s := { s with
      outwareStocks := s.outwareStocks.save (stored.pull data now) }) hsku
    simp only [getOr_bind_run, hstored, modify_bind_run]
    have hpull : (stored.pull data now).skuCode = skuCode := hcode
    rw [hpull]
    exact ⟨e, _, bind_error hrun⟩

theorem sync_reconciles_iff (hcounted : Counted s) (skuCode : String) (data : StockData)
    (now : Nat) :
    (AdjustOp.sync skuCode data now).Reconciles s ↔ (AdjustOp.sync skuCode data now).Fits s := by
  by_cases hmissing : (∃ o ∈ s.outwareStocks, o.skuCode = skuCode) ∧ skuOf s skuCode ≠ none
  · obtain ⟨⟨o, ho, hcode⟩, hsome⟩ := hmissing
    obtain ⟨sku, hsku⟩ := Option.ne_none_iff_exists'.mp hsome
    cases hstored : s.outwareStocks.first fun o => o.skuCode = skuCode with
    | none => exact absurd hcode (of_decide_eq_false (Table.first_eq_none.mp hstored o ho))
    | some stored =>
      rw [sync_found_iff hcounted hstored hsku]
      constructor
      · intro hfits _ sku' hsku'
        obtain rfl := Option.some.inj (hsku.symm.trans hsku')
        exact hfits
      · intro hfits
        exact hfits ⟨o, ho, hcode⟩ sku hsku
  · obtain ⟨e, outwareStocks, hrun⟩ := sync_missing data now hmissing
    refine iff_of_true ⟨?_, fun t hok => ?_⟩ fun hstored sku hsku => ?_
    · change Counted ((OutwareSkuStock.syncStockByAdjust skuCode data now).run s).2
      rw [hrun]
      exact ⟨hcounted.good, hcounted.inferior⟩
    · exact nomatch hrun.symm.trans hok
    · exact absurd ⟨hstored, hsku ▸ Option.some_ne_none sku⟩ hmissing

end Sync

theorem step_reconciles_iff (hcounted : Counted s) (op : AdjustOp) :
    op.Reconciles s ↔ op.Fits s := by
  cases op with
  | create sku num wareBy inferior =>
    exact (and_iff_left trivial).trans (create_counted_iff hcounted sku num wareBy inferior)
  | save a => exact (and_iff_left trivial).trans (save_counted_iff hcounted a)
  | restat sku inboundQuantity returnQuantity rgQuantity postNum =>
    exact (and_iff_left trivial).trans
      (restat_counted_iff hcounted sku inboundQuantity returnQuantity rgQuantity postNum)
  | sync skuCode data now => exact sync_reconciles_iff hcounted skuCode data now

theorem reconciles_iff (ops : List AdjustOp) (s : AdjustDb) (hcounted : Counted s) :
    Guarded AdjustOp.exec AdjustOp.Reconciles ops s ↔
      Guarded AdjustOp.exec AdjustOp.Fits ops s :=
  guarded_iff_guarded (fun _ op hs => step_reconciles_iff hs op)
    (fun _ op hs hfits => ((step_reconciles_iff hs op).mpr hfits).1) ops s hcounted

/-- SKU 1 has its rows of stock, without any pieces, and one in the warehouse outside. -/
def openingDb : AdjustDb where
  adjusts := Table.empty
  productSkus := Table.empty.insert ⟨0, "s1", 0⟩
  stocks sku := if sku = 1 then some freshStock else none
  inferiors sku := if sku = 1 then some (freshStats ⟨0, 0, 0⟩) else none
  inferiorTotals _ := ⟨0, 0, 0⟩
  outwareStocks := Table.empty.insert ⟨0, "s1", 0, 0, 0, 0⟩

theorem counted_openingDb : Counted openingDb where
  good sku stock hstock := by
    change (if sku = 1 then some freshStock else none) = some stock at hstock
    split at hstock
    · rw [← Option.some.inj hstock]
      rfl
    · exact nomatch hstock
  inferior sku stat hstat := by
    change (if sku = 1 then some (freshStats ⟨0, 0, 0⟩) else none) = some stat at hstat
    split at hstat
    · rw [← Option.some.inj hstat]
      rfl
    · exact nomatch hstat

theorem reconciles_two_syncs :
    Guarded AdjustOp.exec AdjustOp.Reconciles
      [.create 1 5 0 false, .restat 1 0 0 0 0, .sync "s1" ⟨0, 7, 0⟩ 1, .sync "s1" ⟨2, 7, 0⟩ 2]
      openingDb := by
  refine (reconciles_iff _ openingDb counted_openingDb).mpr ⟨?_, ?_, ?_, ?_, trivial⟩
  · exact fun _ hnone => absurd hnone (by decide)
  · exact fun _ => by decide
  · intro _ sku hsku
    obtain rfl : 1 = sku := Option.some.inj (Eq.trans (by decide) hsku)
    exact ⟨fun h => absurd h (by decide), fun h => absurd h (by decide), .inr (by decide)⟩
  · intro _ sku hsku
    obtain rfl : 1 = sku := Option.some.inj (Eq.trans (by decide) hsku)
    exact ⟨fun h => absurd h (by decide), fun h => absurd h (by decide), .inl (by decide)⟩

theorem reconciles_fails :
    ¬ Guarded AdjustOp.exec AdjustOp.Reconciles [.create 1 2 0 true, .restat 1 0 0 0 0]
      openingDb := by
  rintro ⟨-, ⟨hcounted, -⟩, -⟩
  have hgood := hcounted.good 1 ⟨2, 0, 0, 0, 0, 0⟩ (by decide)
  exact absurd hgood (by decide)

end ShopManager.Warehouse.Adjust
