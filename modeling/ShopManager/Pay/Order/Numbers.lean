import ShopManager.Library.Key
import ShopManager.Pay.Order.Units

/-!
# The numbers of derived orders

A change of the sku and the rest of a refund number the new order by the orders of its trade,
of which there are more each time.  Another delivery counts the orders whose number starts with
the old one, and comes upon numbers that are taken.
-/

namespace ShopManager.Pay.Order

open Library Library.Tx Library.Execution
open SaleOrder (oidBase)

/-! ## Operations -/

inductive Replacement where
  | redeliver
  | change (skuId : Nat) (num : Int)
  | reissue (num : Int)

namespace Replacement

def perform (around : Surroundings) (old : SaleOrder) : Replacement → OrderTx Unit
  | redeliver => SaleTrade.redeliverSkuItem around old
  | change skuId num => SaleTrade.changeSkuItem around skuId num old
  | reissue num => SaleTrade.reissueOrderByIncompleteRefund around num old

/-- The operation up to `new_sale_order`, which is not saved yet. -/
def newSaleOrder (around : Surroundings) (old : SaleOrder) : Replacement → OrderTx SaleOrder
  | redeliver => do
      raiseIf (around.productSku old.skuId = false) .doesNotExist
      (SaleTrade.closedBySys old).save
      SaleTrade.cancelWaiting around (SaleTrade.closedBySys old)
      let cnt ← gets fun s => SaleTrade.redeliveryCount s old
      pure (old.inPlaceOf (old.numbered cnt) old.skuId old.num)
  | change skuId num => do
      raiseIf (old.canChangeSku = false) (.exception "已发货或退款的商品不能执行换货")
      raiseIf (around.productSku skuId = false) .doesNotExist
      (SaleTrade.closedBySys old).save
      (SaleTrade.closedBySys old).setPsiCancel around
      let cnt ← gets fun s => (s.saleOrders old.saleTradeId).length
      pure (old.inPlaceOf (old.numbered cnt) skuId num)
  | reissue num => do
      let cnt ← gets fun s => (s.saleOrders old.saleTradeId).length
      pure (old.inPlaceOf (old.numbered cnt) old.skuId num)

theorem perform_eq (around : Surroundings) (old : SaleOrder) (replacement : Replacement) :
    replacement.perform around old =
      replacement.newSaleOrder around old >>= SaleTrade.placeOrder around := by
  cases replacement with
  | redeliver =>
    unfold perform newSaleOrder SaleTrade.redeliverSkuItem
    simp only [bind_bind]
    rfl
  | change skuId num =>
    unfold perform newSaleOrder SaleTrade.changeSkuItem
    simp only [bind_bind]
    rfl
  | reissue num =>
    unfold perform newSaleOrder SaleTrade.reissueOrderByIncompleteRefund
    simp only [bind_bind]
    rfl

end Replacement

structure Op where
  around : Surroundings
  order : Nat
  replacement : Replacement

namespace Op

def newSaleOrder (op : Op) : OrderTx SaleOrder := do
  let old ← SaleOrder.get op.order
  op.replacement.newSaleOrder op.around old

def perform (op : Op) : OrderTx Unit := do
  let old ← SaleOrder.get op.order
  op.replacement.perform op.around old

end Op

structure Entry where
  id : Nat
  trade : Nat
  oid : String
  deriving DecidableEq, Repr

def SaleOrder.entry (order : SaleOrder) : Entry := ⟨order.id, order.saleTradeId, order.oid⟩

@[simp] theorem SaleOrder.entry_oid (order : SaleOrder) : order.entry.oid = order.oid := rfl

def OrderDb.entries (s : OrderDb) : List Entry := s.orders.rows.map SaleOrder.entry

def size (entries : List Entry) (trade : Nat) : Nat :=
  entries.countP fun entry => entry.trade = trade

def numberedAs (oid : String) (n : Nat) : String := oidBase oid ++ "-" ++ toString n

theorem oidBase_numberedAs (oid : String) (n : Nat) : oidBase (numberedAs oid n) = oidBase oid :=
  oidBase_numbered ⟨0, 0, oid, 0, 0, 0, none, none, none, none, 0, .noRefund, .waitBuyerPay⟩ n

theorem dash_mem_numberedAs (oid : String) (n : Nat) : '-' ∈ (numberedAs oid n).toList :=
  dash_mem_numbered ⟨0, 0, oid, 0, 0, 0, none, none, none, none, 0, .noRefund, .waitBuyerPay⟩ n

structure Traced where
  db : OrderDb
  origin : Nat → String

def Op.exec (op : Op) (t : Traced) : Traced where
  db := (op.perform.run t.db).2
  origin id :=
    if id ∈ t.db.entries.map Entry.id then t.origin id else t.origin op.order

/-- Every order is an original one or has the number of one of the same trade, and a count
that the trade has grown beyond. -/
structure Genuine (entries : List Entry) (origin : Nat → String) : Prop where
  base : ∀ entry ∈ entries, oidBase entry.oid = origin entry.id
  trade : ∀ entry ∈ entries, ∀ other ∈ entries, oidBase entry.oid = oidBase other.oid →
    entry.trade = other.trade
  counted : ∀ entry ∈ entries, '-' ∉ entry.oid.toList ∨
    ∃ n, entry.oid = numberedAs entry.oid n ∧ n < size entries entry.trade

section Register

variable {entries : List Entry} {origin : Nat → String} {old : Entry}

theorem numberedAs_inj {oid oid' : String} {m n : Nat} (hbase : oidBase oid = oidBase oid')
    (h : numberedAs oid m = numberedAs oid' n) : m = n := by
  unfold numberedAs at h
  rw [hbase] at h
  exact Key.toString_inj.mp (String.append_right_inj _ |>.mp h)

theorem size_pos (hold : old ∈ entries) : 0 < size entries old.trade :=
  List.countP_pos_iff.mpr ⟨old, hold, decide_eq_true rfl⟩

theorem size_append (entry : Entry) (trade : Nat) :
    size (entries ++ [entry]) trade = size entries trade + if entry.trade = trade then 1 else 0 := by
  unfold size
  rw [List.countP_append, List.countP_singleton]
  simp

theorem Genuine.free (h : Genuine entries origin) (hold : old ∈ entries) :
    ∀ entry ∈ entries, entry.oid ≠ numberedAs old.oid (size entries old.trade) := by
  intro entry hentry heq
  have hbase : oidBase entry.oid = oidBase old.oid := by
    rw [heq]
    exact oidBase_numberedAs _ _
  rcases h.counted entry hentry with hplain | ⟨n, hn, hlt⟩
  · rw [heq] at hplain
    exact hplain (dash_mem_numberedAs _ _)
  · have htrade := h.trade entry hentry old hold hbase
    have hsame : n = size entries old.trade :=
      numberedAs_inj hbase (hn.symm.trans heq)
    rw [htrade] at hlt
    omega

theorem Genuine.add (h : Genuine entries origin) (hold : old ∈ entries) {n id : Nat}
    (hn : n ≤ size entries old.trade) (hid : id ∉ entries.map Entry.id) :
    Genuine (entries ++ [⟨id, old.trade, numberedAs old.oid n⟩]) fun id =>
      if id ∈ entries.map Entry.id then origin id else origin old.id := by
  have hderived : ∀ entry : Entry, entry ∈ entries ++ [⟨id, old.trade, numberedAs old.oid n⟩] →
      entry ∈ entries ∨ entry = ⟨id, old.trade, numberedAs old.oid n⟩ := by
    intro entry hentry
    exact (List.mem_append.mp hentry).imp_right List.mem_singleton.mp
  constructor
  · intro entry hentry
    rcases hderived entry hentry with hmem | rfl
    · rw [if_pos (List.mem_map_of_mem hmem)]
      exact h.base entry hmem
    · rw [if_neg hid, ← h.base old hold]
      exact oidBase_numberedAs _ _
  · intro entry hentry other hother hbase
    rcases hderived entry hentry with hmem | rfl <;> rcases hderived other hother with hmem' | rfl
    · exact h.trade entry hmem other hmem' hbase
    · exact h.trade entry hmem old hold (hbase.trans (oidBase_numberedAs _ _))
    · exact h.trade old hold other hmem' ((oidBase_numberedAs _ _).symm.trans hbase)
    · rfl
  · intro entry hentry
    rcases hderived entry hentry with hmem | rfl
    · refine (h.counted entry hmem).imp_right ?_
      rintro ⟨m, hm, hlt⟩
      refine ⟨m, hm, ?_⟩
      rw [size_append]
      omega
    · right
      refine ⟨n, ?_, ?_⟩
      · have hbase := oidBase_numberedAs old.oid n
        exact (congrArg (fun base => base ++ "-" ++ toString n) hbase).symm
      · rw [size_append, if_pos rfl]
        exact Nat.lt_succ_of_le hn

end Register

/-! ## What an operation does to the numbers -/

def continuing (entries : List Entry) (old : Entry) : Nat :=
  entries.countP fun entry =>
    entry.trade = old.trade && old.oid.toList.isPrefixOf entry.oid.toList

def Replacement.count (entries : List Entry) (old : Entry) : Replacement → Nat
  | redeliver => if '-' ∈ old.oid.toList then continuing entries old else 1
  | change .. | reissue .. => size entries old.trade

section Step

@[simp] theorem Replacement.count_change (entries : List Entry) (old : Entry) (skuId : Nat)
    (num : Int) : (Replacement.change skuId num).count entries old = size entries old.trade := rfl

@[simp] theorem Replacement.count_reissue (entries : List Entry) (old : Entry) (num : Int) :
    (Replacement.reissue num).count entries old = size entries old.trade := rfl

variable {s s' : OrderDb} {old order : SaleOrder} {entries : List Entry} {around : Surroundings}
  {replacement : Replacement}

theorem size_entries (s : OrderDb) (trade : Nat) :
    (s.saleOrders trade).length = size s.entries trade := by
  unfold size OrderDb.entries
  rw [List.countP_map, List.countP_eq_length_filter]
  rfl

theorem redeliveryCount_entries (s : OrderDb) (old : SaleOrder) :
    SaleTrade.redeliveryCount s old = Replacement.redeliver.count s.entries old.entry := by
  rw [redeliveryCount_eq]
  unfold Replacement.count continuing OrderDb.entries
  rw [List.countP_map, List.countP_map]
  rfl

theorem count_le (hold : old.entry ∈ entries) (replacement : Replacement) :
    replacement.count entries old.entry ≤ size entries old.saleTradeId := by
  cases replacement with
  | redeliver =>
    change (if '-' ∈ old.oid.toList then continuing entries old.entry else 1) ≤ _
    by_cases hdash : '-' ∈ old.oid.toList
    · rw [if_pos hdash]
      refine List.countP_mono_left fun entry _ hboth => ?_
      exact (Bool.and_eq_true_iff.mp hboth).1
    · rw [if_neg hdash]
      exact size_pos hold
  | change skuId num => exact le_rfl
  | reissue num => exact le_rfl

theorem entry_mem (h : old ∈ s.orders) : old.entry ∈ s.entries := List.mem_map_of_mem h

theorem entries_goods (h : SameGoods s s') : s'.entries = s.entries := by
  unfold OrderDb.entries
  rw [h.orders]

theorem preserves_closedBySys (hold : old.entry ∈ entries) :
    Preserves (fun s : OrderDb => s.entries = entries) (SaleTrade.closedBySys old).save := by
  rintro s rfl
  obtain ⟨row, hrow, hentry⟩ := List.mem_map.mp hold
  have hid : row.id = old.id := congrArg Entry.id hentry
  rw [entries_goods (save_goods _ s)]
  exact Table.map_rows_save (a := SaleTrade.closedBySys old) hrow hid hentry.symm

theorem preserves_setPsiCancel (order : SaleOrder) :
    Preserves (fun s : OrderDb => s.entries = entries) (order.setPsiCancel around) := by
  intro s hs
  rcases setPsiCancel_cases around order s with ⟨e, hrun⟩ | ⟨-, hrun⟩ | ⟨item, -, -, -, -, hrun⟩
  · rw [hrun]
    exact hs
  · rw [hrun]
    exact hs
  · rw [hrun]
    exact hs

theorem preserves_cancelWaiting (order : SaleOrder) :
    Preserves (fun s : OrderDb => s.entries = entries) (SaleTrade.cancelWaiting around order) := by
  unfold SaleTrade.cancelWaiting
  exact Preserves.ite (fun _ => preserves_setPsiCancel order) fun _ => Preserves.pure ()

theorem preserves_newSaleOrder (hold : old.entry ∈ entries) (replacement : Replacement) :
    Preserves (fun s : OrderDb => s.entries = entries) (replacement.newSaleOrder around old) := by
  cases replacement with
  | redeliver =>
    refine Preserves.raiseIf_bind fun _ => Preserves.bind (preserves_closedBySys hold) fun _ => ?_
    refine Preserves.bind (preserves_cancelWaiting _) fun _ => ?_
    exact Preserves.gets_bind fun s hs => hs
  | change skuId num =>
    refine Preserves.raiseIf_bind fun _ => Preserves.raiseIf_bind fun _ => ?_
    refine Preserves.bind (preserves_closedBySys hold) fun _ => ?_
    refine Preserves.bind (preserves_setPsiCancel _) fun _ => ?_
    exact Preserves.gets_bind fun s hs => hs
  | reissue num => exact Preserves.gets_bind fun s hs => hs

theorem newSaleOrder_ok (hold : old.entry ∈ s.entries)
    (h : (replacement.newSaleOrder around old).run s = (.ok order, s')) :
    s'.entries = s.entries ∧ order.saleTradeId = old.saleTradeId ∧
      order.oid = numberedAs old.oid (replacement.count s.entries old.entry) := by
  have hentries : s'.entries = s.entries := (preserves_newSaleOrder hold replacement).of_run rfl h
  refine ⟨hentries, ?_⟩
  rw [← hentries]
  cases replacement with
  | redeliver =>
    obtain ⟨⟨⟩, s₁, -, h⟩ := bind_eq_ok.mp h
    obtain ⟨⟨⟩, s₂, -, h⟩ := bind_eq_ok.mp h
    obtain ⟨⟨⟩, s₃, -, h⟩ := bind_eq_ok.mp h
    rw [gets_bind_run, redeliveryCount_entries] at h
    cases h
    exact ⟨rfl, rfl⟩
  | change skuId num =>
    obtain ⟨⟨⟩, s₁, -, h⟩ := bind_eq_ok.mp h
    obtain ⟨⟨⟩, s₂, -, h⟩ := bind_eq_ok.mp h
    obtain ⟨⟨⟩, s₃, -, h⟩ := bind_eq_ok.mp h
    obtain ⟨⟨⟩, s₄, -, h⟩ := bind_eq_ok.mp h
    rw [gets_bind_run, size_entries] at h
    cases h
    exact ⟨rfl, rfl⟩
  | reissue num =>
    unfold Replacement.newSaleOrder at h
    rw [gets_bind_run, size_entries] at h
    cases h
    exact ⟨rfl, rfl⟩

theorem redeliver_makes (hsku : around.productSku old.skuId = true) (s : OrderDb) :
    ∃ order s', (Replacement.redeliver.newSaleOrder around old).run s = (.ok order, s') := by
  have hsave : (SaleTrade.closedBySys old).save.run s =
      (.ok (), ((SaleTrade.closedBySys old).save.run s).2) := Prod.ext (save_ok _ _) rfl
  have hthere : ¬ around.productSku old.skuId = false := by
    rw [hsku]
    decide
  unfold Replacement.newSaleOrder
  rw [raiseIf_bind_run, if_neg hthere, bind_ok hsave]
  exact ⟨_, _, rfl⟩

theorem setPsiPaid_orders (around : Surroundings) (order : SaleOrder) (s : OrderDb) :
    ((order.setPsiPaid around).run s).2.orders = s.orders := by
  rcases setPsiPaid_cases around order s with hsame | ⟨-, item, -, -, -, hrun⟩
  · rw [hsame]
  · rw [hrun]

theorem placeOrder_entries (around : Surroundings) (order : SaleOrder) (s : OrderDb) :
    ((SaleTrade.placeOrder around order).run s).2.entries = s.entries ∨
      ∃ id, id ∉ s.entries.map Entry.id ∧
        ((SaleTrade.placeOrder around order).run s).2.entries =
          s.entries ++ [⟨id, order.saleTradeId, order.oid⟩] := by
  rw [placeOrder_run]
  by_cases htaken : (s.orders.first fun row => row.oid = order.oid).isSome = true
  · left
    rw [if_pos htaken]
  · right
    rw [if_neg htaken]
    refine ⟨s.orders.nextId, ?_, ?_⟩
    · intro hmem
      obtain ⟨entry, hentry, hid⟩ := List.mem_map.mp hmem
      obtain ⟨row, hrow, rfl⟩ := List.mem_map.mp hentry
      have hlt : row.id < s.orders.nextId := Table.pk_lt_nextId hrow
      exact absurd hid (ne_of_lt hlt)
    · have hgoods := updateSaletradeStatus_goods (s.orders.stored order)
        { s with orders := s.orders.insert order }
      unfold OrderDb.entries
      rw [setPsiPaid_orders, hgoods.orders]
      exact Table.map_rows_insert s.orders order SaleOrder.entry

theorem perform_entries (op : Op) (s : OrderDb) :
    (op.perform.run s).2.entries = s.entries ∨
      ∃ old ∈ s.orders, old.id = op.order ∧ ∃ id, id ∉ s.entries.map Entry.id ∧
        (op.perform.run s).2.entries = s.entries ++ [⟨id, old.saleTradeId,
          numberedAs old.oid (op.replacement.count s.entries old.entry)⟩] := by
  unfold Op.perform SaleOrder.get
  cases hget : s.orders.get? op.order with
  | none =>
    left
    rw [getOr_bind_run, hget]
  | some old =>
    obtain ⟨hold, hid⟩ := Table.get?_eq_some.mp hget
    rw [getOr_bind_run, hget]
    dsimp only
    rw [Replacement.perform_eq, bind_run]
    have hkeeps : ((op.replacement.newSaleOrder op.around old).run s).2.entries = s.entries :=
      preserves_newSaleOrder (entry_mem hold) op.replacement s rfl
    cases hrun : (op.replacement.newSaleOrder op.around old).run s with
    | mk res s₁ =>
      cases res with
      | error e =>
        left
        rw [hrun] at hkeeps
        exact hkeeps
      | ok order =>
        obtain ⟨hentries, htrade, hoid⟩ := newSaleOrder_ok (entry_mem hold) hrun
        have hplaced := placeOrder_entries op.around order s₁
        rw [htrade, hoid, hentries] at hplaced
        refine hplaced.imp_right ?_
        rintro ⟨id, hnew, hadded⟩
        exact ⟨old, hold, hid, id, hnew, hadded⟩

end Step

/-! ## Fresh numbers -/

/-- The number that the operation gives is no order's at that moment, and its part before the
dash is that of the original order. -/
def Fresh (t : Traced) (op : Op) : Prop :=
  ∀ order s', op.newSaleOrder.run t.db = (.ok order, s') →
    FreeOid s' order.oid ∧ oidBase order.oid = t.origin op.order

def Unnumbered (s : OrderDb) (old : SaleOrder) (n : Nat) : Prop :=
  ∀ order ∈ s.orders, order.oid ≠ old.numbered n

/-- Another delivery needs number 1, or, of a derived order, the number of the orders that go
on from its own. -/
def Unused (t : Traced) (op : Op) : Prop :=
  match op.replacement with
  | .redeliver => ∀ old ∈ t.db.orders, old.id = op.order →
      op.around.productSku old.skuId = true →
        if '-' ∈ old.oid.toList then Unnumbered t.db old (continuing t.db.entries old.entry)
        else Unnumbered t.db old 1
  | .change .. | .reissue .. => True

section Fresh

variable {t : Traced} {op : Op} {s s' : OrderDb} {old order : SaleOrder}

theorem freeOid_iff {oid : String} : FreeOid s oid ↔ ∀ entry ∈ s.entries, entry.oid ≠ oid := by
  constructor
  · intro h entry hentry
    obtain ⟨row, hrow, rfl⟩ := List.mem_map.mp hentry
    exact h row hrow
  · exact fun h row hrow => h row.entry (entry_mem hrow)

theorem Genuine.exec (h : Genuine t.db.entries t.origin) (op : Op) :
    Genuine (op.exec t).db.entries (op.exec t).origin := by
  rcases perform_entries op t.db with hsame | ⟨old, hold, hid, id, hnew, hadded⟩
  · have hbase : ∀ entry ∈ t.db.entries, oidBase entry.oid = (op.exec t).origin entry.id := by
      intro entry hentry
      unfold Op.exec
      dsimp only
      rw [if_pos (List.mem_map_of_mem hentry)]
      exact h.base entry hentry
    change Genuine (op.perform.run t.db).2.entries _
    rw [hsame]
    exact ⟨hbase, h.trade, h.counted⟩
  · change Genuine (op.perform.run t.db).2.entries _
    rw [hadded]
    have hadd := h.add (entry_mem hold) (count_le (entry_mem hold) op.replacement) hnew
    unfold Op.exec
    rw [← hid]
    exact hadd

theorem op_newSaleOrder_ok (h : op.newSaleOrder.run s = (.ok order, s')) :
    ∃ old ∈ s.orders, old.id = op.order ∧
      (op.replacement.newSaleOrder op.around old).run s = (.ok order, s') := by
  obtain ⟨old, s₁, hget, hrest⟩ := bind_eq_ok.mp h
  obtain ⟨hfound, rfl⟩ := getOr_eq_ok.mp hget
  obtain ⟨hold, hid⟩ := Table.get?_eq_some.mp hfound
  exact ⟨old, hold, hid, hrest⟩

theorem unnumbered_iff {n : Nat} :
    Unnumbered s old n ↔ ∀ entry ∈ s.entries, entry.oid ≠ numberedAs old.oid n :=
  freeOid_iff

theorem unused_redeliver (hop : op.replacement = .redeliver) : Unused t op ↔
    ∀ old ∈ t.db.orders, old.id = op.order → op.around.productSku old.skuId = true →
      Unnumbered t.db old (Replacement.redeliver.count t.db.entries old.entry) := by
  unfold Unused
  rw [hop]
  dsimp only
  refine forall₂_congr fun old hold => forall₂_congr fun hid hsku => ?_
  unfold Replacement.count
  change (if '-' ∈ old.oid.toList then _ else _) ↔
    Unnumbered t.db old (if '-' ∈ old.oid.toList then _ else _)
  split <;> exact Iff.rfl

theorem unused_of_fresh (hop : op.replacement = .redeliver) (h : Fresh t op) : Unused t op := by
  rw [unused_redeliver hop]
  intro old hold hid hsku
  obtain ⟨order, s', hrun⟩ := redeliver_makes hsku t.db
  obtain ⟨hentries, -, hoid⟩ := newSaleOrder_ok (entry_mem hold) hrun
  have hget : t.db.orders.get? op.order = some old := Table.get?_eq_some.mpr ⟨hold, hid⟩
  have hmake : op.newSaleOrder.run t.db = (.ok order, s') := by
    unfold Op.newSaleOrder SaleOrder.get
    rw [getOr_bind_run, hget, hop]
    exact hrun
  have hfree := freeOid_iff.mp (h order s' hmake).1
  rw [hentries, hoid] at hfree
  exact unnumbered_iff.mpr hfree

theorem count_free (h : Genuine t.db.entries t.origin) (hunused : Unused t op)
    (hold : old ∈ t.db.orders) (hid : old.id = op.order)
    (hrun : (op.replacement.newSaleOrder op.around old).run t.db = (.ok order, s')) :
    ∀ entry ∈ t.db.entries,
      entry.oid ≠ numberedAs old.oid (op.replacement.count t.db.entries old.entry) := by
  have hcounted := h.free (entry_mem hold)
  rw [SaleOrder.entry_oid] at hcounted
  cases hop : op.replacement with
  | redeliver =>
    rw [hop] at hrun
    obtain ⟨⟨⟩, s₁, hsku, -⟩ := bind_eq_ok.mp hrun
    have hthere : op.around.productSku old.skuId = true := by
      simpa using (raiseIf_eq_ok.mp hsku).1
    exact unnumbered_iff.mp ((unused_redeliver hop).mp hunused old hold hid hthere)
  | change skuId num =>
    rw [Replacement.count_change]
    exact hcounted
  | reissue num =>
    rw [Replacement.count_reissue]
    exact hcounted

theorem fresh_of_unused (h : Genuine t.db.entries t.origin) (hunused : Unused t op) :
    Fresh t op := by
  intro order s' hmake
  obtain ⟨old, hold, hid, hrun⟩ := op_newSaleOrder_ok hmake
  obtain ⟨hentries, -, hoid⟩ := newSaleOrder_ok (entry_mem hold) hrun
  have hbase := h.base old.entry (entry_mem hold)
  rw [SaleOrder.entry_oid] at hbase
  rw [freeOid_iff, hentries, hoid, oidBase_numberedAs, ← hid]
  exact ⟨count_free h hunused hold hid hrun, hbase⟩

theorem fresh_iff_unused (h : Genuine t.db.entries t.origin) : Fresh t op ↔ Unused t op := by
  refine ⟨fun hfresh => ?_, fresh_of_unused h⟩
  cases hop : op.replacement with
  | redeliver => exact unused_of_fresh hop hfresh
  | change skuId num =>
    unfold Unused
    rw [hop]
    trivial
  | reissue num =>
    unfold Unused
    rw [hop]
    trivial

end Fresh

structure Originals (s : OrderDb) : Prop where
  unique : ∀ order ∈ s.orders, ∀ other ∈ s.orders, order.oid = other.oid → order = other
  plain : ∀ order ∈ s.orders, '-' ∉ order.oid.toList

def Traced.start (s : OrderDb) : Traced where
  db := s
  origin id := ((s.orders.get? id).map SaleOrder.oid).getD ""

theorem genuine_start {s : OrderDb} (h : Originals s) :
    Genuine (Traced.start s).db.entries (Traced.start s).origin := by
  constructor
  · intro entry hentry
    obtain ⟨order, horder, rfl⟩ := List.mem_map.mp hentry
    have hget : s.orders.get? order.id = some order := Table.get?_eq_some.mpr ⟨horder, rfl⟩
    unfold Traced.start
    change oidBase order.oid = ((s.orders.get? order.id).map SaleOrder.oid).getD ""
    rw [hget]
    exact oidBase_plain (h.plain order horder)
  · intro entry hentry other hother hbase
    obtain ⟨order, horder, rfl⟩ := List.mem_map.mp hentry
    obtain ⟨order', horder', rfl⟩ := List.mem_map.mp hother
    have hoid : order.oid = order'.oid := by
      rw [← oidBase_plain (h.plain order horder), ← oidBase_plain (h.plain order' horder')]
      exact hbase
    rw [h.unique order horder order' horder' hoid]
  · intro entry hentry
    obtain ⟨order, horder, rfl⟩ := List.mem_map.mp hentry
    exact Or.inl (h.plain order horder)

theorem genuine_throughout (s : OrderDb) (h : Originals s) (ops : List Op) :
    Throughout Op.exec (fun t => Genuine t.db.entries t.origin) ops (Traced.start s) :=
  throughout_of_step (fun _ op hgenuine => hgenuine.exec op) ops _ (genuine_start h)

/-- The only order of the shop is delivered again, and then what came of that changed. -/
def deliveredAndChanged : List Op :=
  [⟨plainSurroundings, 1, .redeliver⟩, ⟨plainSurroundings, 2, .change 5 1⟩]

theorem originals_paidShop : Originals paidShop := by
  constructor
  · change ∀ order ∈ paidShop.orders.rows, ∀ other ∈ paidShop.orders.rows,
      order.oid = other.oid → order = other
    decide
  · change ∀ order ∈ paidShop.orders.rows, '-' ∉ order.oid.toList
    decide

theorem genuine_changed : Throughout Op.exec (fun t => Genuine t.db.entries t.origin)
    deliveredAndChanged (Traced.start paidShop) :=
  genuine_throughout paidShop originals_paidShop deliveredAndChanged

def deliveredTwice : List Op :=
  [⟨plainSurroundings, 1, .redeliver⟩, ⟨plainSurroundings, 2, .redeliver⟩]

def Op.clashes (op : Op) (s : OrderDb) : Bool :=
  match op.newSaleOrder.run s with
  | (.ok order, s') => s'.orders.rows.any fun row => row.oid = order.oid
  | (.error _, _) => false

end ShopManager.Pay.Order
