import ShopManager.Trades.Model

/-!
# What a refund closes

The handler asks a trade for `first`, which only queries have, so it ends before it closes
anything.  What it has done by then is to lengthen the list of statuses that `getMergeQueryset`
offers by.
-/

namespace ShopManager.Trades

open Library Library.Tx Library.Execution

/-! ## The rule -/

/-- An effective order of the refund, in a trade that is not weighed or is merged into another. -/
def ToClose (db : TradesDb) (obj : SaleRefund) (order : MergeOrder) : Prop :=
  db.saleOrders obj.orderId = some order.oid ∧ order.sysStatus = .normal ∧
    ∃ trade ∈ db.trades.rows, trade.id = order.mergeTrade ∧
      (trade.sysStatus ∈ waitWeightStatus ∨ trade.sysStatus = .onTheFly)

instance (db : TradesDb) (obj : SaleRefund) (order : MergeOrder) :
    Decidable (ToClose db obj order) :=
  inferInstanceAs (Decidable (_ ∧ _ ∧ _))

def ToPost (db : TradesDb) (obj : SaleRefund) (order : MergeOrder) : Prop :=
  ToClose db obj order ∧
    ∀ trade ∈ db.trades.rows, trade.id = order.mergeTrade → trade.sysStatus ≠ .onTheFly

instance (db : TradesDb) (obj : SaleRefund) (order : MergeOrder) :
    Decidable (ToPost db obj order) :=
  inferInstanceAs (Decidable (_ ∧ _))

/-- What the orders to post that `p` selects add up to. -/
def returned (db : TradesDb) (obj : SaleRefund) (p : MergeOrder → Bool) : Int :=
  ((db.orders.filter fun order => ToPost db obj order ∧ p order).map MergeOrder.num).sum

def Touched (db : TradesDb) (obj : SaleRefund) (trade : MergeTrade) : Prop :=
  ∃ order ∈ db.orders, ToClose db obj order ∧ order.mergeTrade = trade.id

def Offered (s : Shop) (q : MergeQuery) (tradeId : Nat) : Prop :=
  ∃ trade ∈ getMergeQueryset s q, trade.id = tradeId

/-- What one signal does: it closes the orders of the refund and no others, gives the numbers of
those that were to be posted back, and leaves what is offered for merging. -/
structure Closes (s : Shop) (obj : SaleRefund) (s' : Shop) : Prop where
  orders : s'.db.orders.rows.map (fun order => (order.id, order.sysStatus)) =
    s.db.orders.rows.map fun order =>
      (order.id, if ToClose s.db obj order then .delete else order.sysStatus)
  products : s'.db.products.rows = s.db.products.rows.map fun product =>
    { product with
      waitPostNum := product.waitPostNum -
        returned s.db obj (fun order => order.outerSkuId = "" ∧ order.outerId = product.outerId) }
  skus : s'.db.skus.rows = s.db.skus.rows.map fun sku =>
    { sku with
      waitPostNum := sku.waitPostNum -
        returned s.db obj (fun order => order.outerSkuId ≠ "" ∧
          s.db.postSku order.outerId order.outerSkuId sku)
      lockNum := sku.lockNum -
        returned s.db obj (fun order => s.db.lockSku order.outerId order.outerSkuId sku) }
  offered : ∀ q, ∀ trade ∈ s.db.trades, ¬ Touched s.db obj trade →
    (Offered s' q trade.id ↔ Offered s q trade.id)
  merged : ∀ q, ∀ trade ∈ getMergeQueryset s' q, trade.sysStatus ≠ .onTheFly

def Readable (db : TradesDb) (obj : SaleRefund) : Prop :=
  (db.saleTrades obj.tradeId).isSome ∧ (db.saleOrders obj.orderId).isSome

instance (db : TradesDb) (obj : SaleRefund) : Decidable (Readable db obj) :=
  inferInstanceAs (Decidable (_ ∧ _))

theorem signal_eq (obj : SaleRefund) (s : Shop) :
    signal obj s =
      if Readable s.db obj then { s with waitWeight := s.waitWeight ++ [.onTheFly] } else s := by
  have hrun : ((closeRefunded obj).run s).2 =
      if Readable s.db obj then { s with waitWeight := s.waitWeight ++ [.onTheFly] } else s := by
    unfold closeRefunded SaleRefund.getTid SaleRefund.getOid
    by_cases hread : Readable s.db obj
    · obtain ⟨tid, htid⟩ := Option.isSome_iff_exists.mp hread.1
      obtain ⟨oid, hoid⟩ := Option.isSome_iff_exists.mp hread.2
      rw [if_pos hread]
      simp only [getOr_bind_run, htid, hoid, appendNormalStatus, modify_bind_run, gets_bind_run,
        id_eq, ofExcept_bind_run]
      cases theOnly (s.db.trades.filter fun t => t.tid = tid) with
      | error e => rfl
      | ok found => rfl
    · rw [if_neg hread, getOr_bind_run]
      cases htid : s.db.saleTrades obj.tradeId with
      | none => rfl
      | some tid =>
        dsimp only
        rw [getOr_bind_run]
        cases hoid : s.db.saleOrders obj.orderId with
        | none => rfl
        | some oid => exact absurd ⟨by rw [htid]; rfl, by rw [hoid]; rfl⟩ hread
  rw [← hrun]
  unfold signal refundUpdateOrderInfo
  cases hclose : (closeRefunded obj).run s with
  | mk result s' =>
    cases result with
    | ok u => rw [tryCatch_ok hclose]
    | error e => rw [tryCatch_error hclose]; rfl

@[simp] theorem signal_db (obj : SaleRefund) (s : Shop) : (signal obj s).db = s.db := by
  rw [signal_eq]
  split <;> rfl

theorem signal_waitWeight (obj : SaleRefund) (s : Shop) :
    (signal obj s).waitWeight =
      if Readable s.db obj then s.waitWeight ++ [.onTheFly] else s.waitWeight := by
  rw [signal_eq]
  split <;> rfl

/-! ## When the rule is met -/

def NoneMerged (db : TradesDb) : Prop :=
  ∀ trade ∈ db.trades.rows, trade.sysStatus = .onTheFly → trade.receiverMobile = ""

instance (db : TradesDb) : Decidable (NoneMerged db) :=
  inferInstanceAs (Decidable (∀ trade ∈ db.trades.rows, _))

def Fits (db : TradesDb) (obj : SaleRefund) : Prop :=
  (∀ order ∈ db.orders.rows, ¬ ToClose db obj order) ∧ (Readable db obj → NoneMerged db)

instance (db : TradesDb) (obj : SaleRefund) : Decidable (Fits db obj) :=
  inferInstanceAs (Decidable (_ ∧ _))

structure Kept (db : TradesDb) (s : Shop) : Prop where
  same : s.db = db
  list : ∀ status, status ∈ s.waitWeight ↔
    status ∈ waitWeightStatus ∨ (status = .onTheFly ∧ SysStatus.onTheFly ∈ s.waitWeight)
  merged : SysStatus.onTheFly ∈ s.waitWeight → NoneMerged db

theorem kept_load (db : TradesDb) : Kept db (.load db) where
  same := rfl
  list := by
    intro status
    change status ∈ waitWeightStatus ↔
      status ∈ waitWeightStatus ∨ (status = .onTheFly ∧ .onTheFly ∈ waitWeightStatus)
    constructor
    · exact Or.inl
    · rintro (h | ⟨rfl, h⟩)
      · exact h
      · exact h
  merged h := absurd (show SysStatus.onTheFly ∈ waitWeightStatus from h) (by decide)

variable {db : TradesDb} {s : Shop} {obj : SaleRefund}

theorem kept_signal (h : Kept db s) (hfits : Fits db obj) : Kept db (signal obj s) where
  same := by rw [signal_db, h.same]
  list := by
    intro status
    rw [signal_waitWeight]
    split
    · simp only [List.mem_append, List.mem_singleton, or_true, and_true]
      rw [h.list]
      tauto
    · exact h.list status
  merged := by
    intro hmem
    rw [signal_waitWeight] at hmem
    split at hmem
    · next hread => exact hfits.2 (h.same ▸ hread)
    · exact h.merged hmem

def MergeQuery.byMobile (receiverMobile : String) : MergeQuery where
  receiverMobile := receiverMobile
  state := ""
  city := ""
  wareBy := none
  latestPaytime := none

theorem byMobile_passes {waitWeight : List SysStatus} {trade : MergeTrade}
    (h : trade.sysStatus ∈ waitWeight) :
    (MergeQuery.byMobile trade.receiverMobile).passes waitWeight trade = true := by
  simp [MergeQuery.byMobile, MergeQuery.passes, h]

theorem mem_getMergeQueryset {q : MergeQuery} {trade : MergeTrade} :
    trade ∈ getMergeQueryset s q ↔
      q.receiverMobile ≠ "" ∧ trade ∈ s.db.trades ∧ q.passes s.waitWeight trade = true := by
  unfold getMergeQueryset
  split
  · next h => simp [h]
  · next h =>
      rw [Table.filter, List.mem_filter]
      exact ⟨fun hmem => ⟨h, hmem⟩, fun hmem => hmem.2⟩

theorem passes_iff {s' : Shop} {q : MergeQuery} {trade : MergeTrade}
    (h : trade.sysStatus ∈ s'.waitWeight ↔ trade.sysStatus ∈ s.waitWeight) :
    q.passes s'.waitWeight trade = q.passes s.waitWeight trade := by
  unfold MergeQuery.passes
  simp only [h]

theorem returned_eq_zero (h : ∀ order ∈ db.orders.rows,
    ¬ ToClose db obj order) (p : MergeOrder → Bool) : returned db obj p = 0 := by
  have hnil : (db.orders.filter fun order => ToPost db obj order ∧ p order) = [] := by
    refine List.filter_eq_nil_iff.mpr ?_
    intro order horder hpost
    exact h order horder (of_decide_eq_true hpost).1.1
  unfold returned
  rw [hnil]
  rfl

theorem Kept.not_merged (h : Kept db s) {q : MergeQuery}
    {trade : MergeTrade} (hmem : trade ∈ getMergeQueryset s q) : trade.sysStatus ≠ .onTheFly := by
  obtain ⟨hmobile, htrade, hpass⟩ := mem_getMergeQueryset.mp hmem
  obtain ⟨hsame, hstatus, _⟩ := of_decide_eq_true hpass
  intro hfly
  rw [hfly] at hstatus
  exact hmobile (hsame ▸ h.merged hstatus trade (h.same ▸ htrade) hfly)

theorem Kept.status_iff {s' : Shop} (h : Kept db s) (h' : Kept db s')
    {status : SysStatus} (hne : status ≠ .onTheFly) :
    status ∈ s'.waitWeight ↔ status ∈ s.waitWeight := by
  rw [h.list, h'.list]
  simp [hne]

theorem offered_of_kept {s' : Shop} (h : Kept db s) (h' : Kept db s')
    {q : MergeQuery} {tradeId : Nat} : Offered s q tradeId → Offered s' q tradeId := by
  rintro ⟨trade, hmem, hid⟩
  have hne := h.not_merged hmem
  obtain ⟨hmobile, htrade, hpass⟩ := mem_getMergeQueryset.mp hmem
  refine ⟨trade, mem_getMergeQueryset.mpr ⟨hmobile, ?_, ?_⟩, hid⟩
  · rw [h'.same, ← h.same]
    exact htrade
  · rw [passes_iff (h.status_iff h' hne)]
    exact hpass

theorem closes_of_fits (h : Kept db s) (hfits : Fits db obj) : Closes s obj (signal obj s) := by
  have h' := kept_signal h hfits
  have hnone := hfits.1
  rw [← h.same] at hnone
  exact {
    orders := by
      rw [signal_db]
      refine List.map_congr_left fun order horder => ?_
      rw [if_neg (hnone order horder)]
    products := by
      simp only [returned_eq_zero hnone, sub_zero, signal_db]
      exact (List.map_id' _).symm
    skus := by
      simp only [returned_eq_zero hnone, sub_zero, signal_db]
      exact (List.map_id' _).symm
    offered := fun q trade _ _ => ⟨offered_of_kept h' h, offered_of_kept h h'⟩
    merged := fun q trade hmem => h'.not_merged hmem }

theorem noneMerged_of_closes (h : Closes s obj (signal obj s))
    (hread : Readable s.db obj) : NoneMerged s.db := by
  intro trade htrade hfly
  by_contra hmobile
  refine h.merged (.byMobile trade.receiverMobile) trade ?_ hfly
  refine mem_getMergeQueryset.mpr ⟨hmobile, ?_, byMobile_passes ?_⟩
  · rw [signal_db]
    exact htrade
  · rw [signal_waitWeight, if_pos hread, hfly]
    exact List.mem_append_right _ List.mem_cons_self

theorem not_toClose_of_closes (h : Closes s obj (signal obj s)) :
    ∀ order ∈ s.db.orders.rows, ¬ ToClose s.db obj order := by
  intro order horder hclose
  have hrows := h.orders
  rw [signal_db, List.map_inj_left] at hrows
  have hstatus := (Prod.mk.inj (hrows order horder)).2
  rw [if_pos hclose, hclose.2.1] at hstatus
  exact absurd hstatus (by decide)

theorem closes_iff_fits (h : Kept db s) (obj : SaleRefund) :
    Closes s obj (signal obj s) ↔ Fits db obj := by
  constructor
  · intro hcloses
    rw [← h.same]
    exact ⟨not_toClose_of_closes hcloses, noneMerged_of_closes hcloses⟩
  · exact closes_of_fits h

/-- Every signal of a process closes what it is to close exactly if none has anything to close,
and none is read while a merged trade can be found. -/
theorem signals_iff (db : TradesDb) (refunds : List SaleRefund) :
    Guarded signal (fun s obj => Closes s obj (signal obj s)) refunds (.load db) ↔
      ∀ obj ∈ refunds, Fits db obj := by
  have hstep : ∀ s obj, Kept db s → (Closes s obj (signal obj s) ↔ Fits db obj) :=
    fun _ obj h => closes_iff_fits h obj
  have hkeeps : ∀ s obj, Kept db s → Fits db obj → Kept db (signal obj s) :=
    fun _ _ h hfits => kept_signal h hfits
  exact (guarded_iff_guarded hstep hkeeps refunds (.load db) (kept_load db)).trans guarded_const

def merging : TradesDb where
  trades := {
    rows := [
      { id := 1, tid := "xd1", user := 1, receiverMobile := "138", receiverState := "",
        receiverCity := "", wareBy := 1, payTime := none, outSid := "", reasonCode := [],
        canReview := false, sysStatus := .waitAudit },
      { id := 2, tid := "xd2", user := 1, receiverMobile := "138", receiverState := "",
        receiverCity := "", wareBy := 1, payTime := none, outSid := "", reasonCode := [],
        canReview := false, sysStatus := .onTheFly }]
    sorted := by decide }
  orders := {
    rows := [
      { id := 1, oid := "xo1", mergeTrade := 1, num := 1, outerId := "p", outerSkuId := "1",
        refundStatus := .noRefund, sysStatus := .normal }]
    sorted := by decide }
  products := .empty
  skus := .empty
  saleTrades := fun tradeId => if tradeId = 1 then some "xd1" else none
  saleOrders := fun orderId => if orderId = 1 then some "xo1" else none

theorem signals_fail :
    ¬ Guarded signal (fun s obj => Closes s obj (signal obj s)) [⟨1, 1⟩] (.load merging) := by
  rintro ⟨h, -⟩
  obtain ⟨order, horder, hclose⟩ :
      ∃ order ∈ merging.orders.rows, ToClose merging ⟨1, 1⟩ order := by decide
  exact not_toClose_of_closes h order horder hclose

end ShopManager.Trades
