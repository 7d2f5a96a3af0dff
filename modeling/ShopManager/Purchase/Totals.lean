import ShopManager.Purchase.Booked

/-!
# Purchase totals

The numbers of the arrangements go on to the detail of their SKU, to the purchase
order and to the order list.  Each of these writes compares before it stores, and the
comparisons miss an order list that was just made, an order that is closed and an
arrangement that leaves a closed detail.
-/

namespace ShopManager.Purchase

open Library Library.Tx Library.Execution
open Warehouse (PurchaseKey PurchaseStatus PackageSkuItem)
open PurchaseOrder (genPurchaseOrderUnikey detailSum)
open PurchaseArrangement (effectNum uniKeyTaken)

abbrev Slot := PurchaseKey × Nat

def PurchaseDetail.slot (pd : PurchaseDetail) : Slot := (pd.purchaseOrderUnikey, pd.skuId)

def OrderDetail.slot (od : OrderDetail) : Slot := (od.purchaseOrderUnikey, od.skuId)

def OrderDetail.view (od : OrderDetail) : Slot × Int := (od.slot, od.buyQuantity)

namespace PurchaseDb

def OrderAgrees (s : PurchaseDb) (po : PurchaseOrder) : Prop :=
  po.bookNum = detailSum s po.uniKey PurchaseDetail.bookNum ∧
    po.totalPrice = detailSum s po.uniKey PurchaseDetail.totalPrice

def ListAgrees (s : PurchaseDb) (po : PurchaseOrder) : Prop :=
  po.status = .opened → ∀ ol ∈ s.orderLists, ol.purchaseOrderUnikey = po.uniKey →
    ol.stage ≠ .deleted → ol.purchaseTotalNum = po.bookNum

/-- The totals follow the arrangements, but for the details of the slots in `off`. -/
structure AgreesOff (off : Slot → Prop) (s : PurchaseDb) : Prop where
  detail : ∀ pd ∈ s.purchaseDetails, ¬ off pd.slot →
    pd.bookNum = effectNum s pd.purchaseOrderUnikey pd.skuId
  price : ∀ pd ∈ s.purchaseDetails, pd.totalPrice = pd.bookNum * pd.unitPrice
  order : ∀ po ∈ s.purchaseOrders, s.OrderAgrees po
  list : ∀ po ∈ s.purchaseOrders, s.ListAgrees po
  quantity : ∀ po ∈ s.purchaseOrders, po.status = .opened →
    ∀ pd ∈ s.purchaseDetails, pd.purchaseOrderUnikey = po.uniKey →
      ∀ od ∈ s.orderDetails, od.slot = pd.slot → od.buyQuantity = pd.bookNum

def Agrees (s : PurchaseDb) : Prop := AgreesOff (fun _ => False) s

/-- What the tables look like after whatever run: keys are unique, no list is past its
draft, and a detail has an order, an order a list and a detail an order detail. -/
structure Tidy (s : PurchaseDb) : Prop where
  orders : (s.purchaseOrders.rows.map PurchaseOrder.uniKey).Nodup
  details : (s.purchaseDetails.rows.map PurchaseDetail.slot).Nodup
  lists : (s.orderLists.rows.map OrderList.purchaseOrderUnikey).Nodup
  orderDetails : (s.orderDetails.rows.map OrderDetail.slot).Nodup
  draft : ∀ ol ∈ s.orderLists, ol.stage = .draft
  ordered : ∀ pd ∈ s.purchaseDetails, ∃ po ∈ s.purchaseOrders,
    po.uniKey = pd.purchaseOrderUnikey
  listed : ∀ po ∈ s.purchaseOrders, ∃ ol ∈ s.orderLists, ol.purchaseOrderUnikey = po.uniKey
  mirrored : ∀ slot, (∃ pd ∈ s.purchaseDetails, pd.slot = slot) ↔
    ∃ od ∈ s.orderDetails, od.slot = slot
  unit : ∀ pd ∈ s.purchaseDetails, pd.unitPrice = (s.costs pd.skuId).unit
  items : ∀ pa ∈ s.purchaseArrangements, ∃ psi ∈ s.packageSkuItems, psi.id = pa.oid
  uniKeys : ∀ pa ∈ s.purchaseArrangements, ∀ pa' ∈ s.purchaseArrangements,
    pa.purchaseOrderUnikey = pa'.purchaseOrderUnikey → pa.oid = pa'.oid → pa = pa'

variable {s : PurchaseDb} {off : Slot → Prop}

/-! ## The order list -/

section OrderList

theorem nodup_append_key {κ : Type} {keys : List κ} {key : κ} (hkeys : keys.Nodup)
    (hnew : key ∉ keys) : (keys ++ [key]).Nodup := by
  rw [List.nodup_append]
  refine ⟨hkeys, List.nodup_singleton _, ?_⟩
  intro k hk k' hk' heq
  rw [List.mem_singleton.1 hk'] at heq
  exact hnew (heq ▸ hk)

/-- The order lists after a sync: the one of the order has its number, or it was made
just now and has none. -/
structure ListSynced (s s' : PurchaseDb) (po : PurchaseOrder) : Prop where
  lists : (s'.orderLists.rows.map OrderList.purchaseOrderUnikey).Nodup
  draft : ∀ ol ∈ s'.orderLists, ol.stage = .draft
  listed : ∃ ol ∈ s'.orderLists, ol.purchaseOrderUnikey = po.uniKey
  kept : ∀ ol ∈ s.orderLists, ∃ ol' ∈ s'.orderLists,
    ol'.purchaseOrderUnikey = ol.purchaseOrderUnikey
  other : ∀ ol ∈ s'.orderLists, ol.purchaseOrderUnikey ≠ po.uniKey → ol ∈ s.orderLists
  synced : ∀ ol ∈ s'.orderLists, ol.purchaseOrderUnikey = po.uniKey →
    ol.purchaseTotalNum = po.bookNum ∨
      ol.purchaseTotalNum = 0 ∧ ∀ r ∈ s.orderLists, r.purchaseOrderUnikey ≠ po.uniKey
  view : s'.orderDetails.rows.map OrderDetail.view = s.orderDetails.rows.map OrderDetail.view

theorem syncOrderList_synced
    (hlists : (s.orderLists.rows.map OrderList.purchaseOrderUnikey).Nodup)
    (hdraft : ∀ ol ∈ s.orderLists, ol.stage = .draft) (po : PurchaseOrder) :
    ListSynced s (po.syncOrderList s) po := by
  unfold PurchaseOrder.syncOrderList
  split
  · rename_i hfirst
    have hnone : ∀ r ∈ s.orderLists, r.purchaseOrderUnikey ≠ po.uniKey := by
      intro r hr hkey
      have hno := of_decide_eq_false (Table.first_eq_none.1 hfirst r hr)
      exact hno ⟨hkey, by rw [hdraft r hr]; decide⟩
    dsimp only
    refine ⟨?_, ?_, ?_, ?_, ?_, ?_, ?_⟩
    · rw [Table.map_rows_insert]
      apply nodup_append_key hlists
      intro hmem
      obtain ⟨r, hr, heq⟩ := List.mem_map.1 hmem
      exact hnone r hr heq
    · intro ol hol
      rcases Table.mem_insert.1 hol with hol | rfl
      · exact hdraft ol hol
      · rfl
    · exact ⟨_, Table.mem_insert.2 (Or.inr rfl), rfl⟩
    · intro ol hol
      exact ⟨ol, Table.mem_insert.2 (Or.inl hol), rfl⟩
    · intro ol hol hne
      rcases Table.mem_insert.1 hol with hol | rfl
      · exact hol
      · exact absurd rfl hne
    · intro ol hol hkey
      rcases Table.mem_insert.1 hol with hol | rfl
      · exact absurd hkey (hnone ol hol)
      · exact Or.inr ⟨rfl, hnone⟩
    · exact Table.map_rows_update fun r _ _ => rfl
  · rename_i ol hfirst
    have hol := Table.mem_of_first hfirst
    have hspec := Table.first_spec hfirst
    have hkey := (of_decide_eq_true hspec).1
    have honly : ∀ r ∈ s.orderLists, r.purchaseOrderUnikey = po.uniKey → r = ol := fun r hr h =>
      List.inj_on_of_nodup_map hlists hr hol (h.trans hkey.symm)
    split
    · refine ⟨?_, ?_, ?_, ?_, ?_, ?_, rfl⟩
      · rw [Table.map_rows_update fun r _ _ => rfl]
        exact hlists
      · intro r hr
        rcases Table.mem_update.1 hr with ⟨old, hold, _, rfl⟩ | ⟨hr, _⟩
        · exact hdraft old hold
        · exact hdraft r hr
      · exact ⟨_, Table.mem_update.2 (Or.inl ⟨ol, hol, decide_eq_true rfl, rfl⟩), hkey⟩
      · intro r hr
        by_cases hid : r.id = ol.id
        · exact ⟨_, Table.mem_update.2 (Or.inl ⟨r, hr, decide_eq_true hid, rfl⟩), rfl⟩
        · exact ⟨r, Table.mem_update.2 (Or.inr ⟨hr, decide_eq_false hid⟩), rfl⟩
      · intro r hr hne
        rcases Table.mem_update.1 hr with ⟨old, hold, hid, rfl⟩ | ⟨hr, _⟩
        · rw [Table.pk_inj hold hol (of_decide_eq_true hid)] at hne
          exact absurd hkey hne
        · exact hr
      · intro r hr hsame
        rcases Table.mem_update.1 hr with ⟨old, _, _, rfl⟩ | ⟨hr, hid⟩
        · exact Or.inl rfl
        · rw [honly r hr hsame] at hid
          exact absurd rfl (of_decide_eq_false hid)
    · rename_i hcond
      refine ⟨hlists, hdraft, ⟨ol, hol, hkey⟩, fun r hr => ⟨r, hr, rfl⟩, fun r hr _ => hr, ?_, rfl⟩
      intro r hr hsame
      left
      rw [honly r hr hsame]
      by_contra hne
      exact hcond ⟨Or.inr hne, decide_eq_true (hdraft ol hol)⟩

end OrderList

/-! ## The purchase order -/

variable {key : PurchaseKey}

section Restat

theorem detailSum_congr {s' : PurchaseDb} (h : s'.purchaseDetails = s.purchaseDetails)
    (key : PurchaseKey) (column : PurchaseDetail → Int) :
    detailSum s' key column = detailSum s key column := by
  unfold PurchaseOrder.detailSum
  rw [h]

@[simp] theorem recount_uniKey (po : PurchaseOrder) : (po.recount s).uniKey = po.uniKey := by
  unfold PurchaseOrder.recount
  dsimp only
  split <;> rfl

@[simp] theorem recount_status (po : PurchaseOrder) : (po.recount s).status = po.status := by
  unfold PurchaseOrder.recount
  dsimp only
  split <;> rfl

structure Countable (s : PurchaseDb) (key : PurchaseKey) : Prop where
  opened : ∀ po ∈ s.purchaseOrders, po.uniKey = key → po.status = .opened →
    po.bookNum = detailSum s key PurchaseDetail.bookNum →
      po.totalPrice = detailSum s key PurchaseDetail.totalPrice
  closed : ∀ po ∈ s.purchaseOrders, po.uniKey = key → po.status ≠ .opened → s.OrderAgrees po
  new : (∀ po ∈ s.purchaseOrders, po.uniKey ≠ key) →
    detailSum s key PurchaseDetail.bookNum = 0
  listed : ∀ po ∈ s.purchaseOrders, po.uniKey = key →
    ∃ ol ∈ s.orderLists, ol.purchaseOrderUnikey = key

theorem recount_agrees {po : PurchaseOrder} (hc : s.Countable key)
    (hpo : po ∈ s.purchaseOrders) (hkey : po.uniKey = key) :
    s.OrderAgrees (po.recount s) := by
  unfold PurchaseOrder.recount
  dsimp only
  by_cases hopen : po.status = .opened
  · split
    · exact ⟨rfl, rfl⟩
    · rename_i hcond
      have hbook : po.bookNum = detailSum s po.uniKey PurchaseDetail.bookNum := by
        by_contra hne
        exact hcond ⟨hopen, Or.inl hne⟩
      have hprice := hc.opened po hpo hkey hopen (hkey ▸ hbook)
      rw [← hkey] at hprice
      exact ⟨hbook, hprice⟩
  · rw [if_neg (fun h => hopen h.1)]
    exact hc.closed po hpo hkey hopen

structure Restated (s s' : PurchaseDb) (key : PurchaseKey) : Prop where
  details : s'.purchaseDetails = s.purchaseDetails
  arrangements : s'.purchaseArrangements = s.purchaseArrangements
  items : s'.packageSkuItems = s.packageSkuItems
  costs : s'.costs = s.costs
  suppliers : s'.suppliers = s.suppliers
  orders : (s'.purchaseOrders.rows.map PurchaseOrder.uniKey).Nodup
  present : ∃ po ∈ s'.purchaseOrders, po.uniKey = key
  kept : ∀ po ∈ s.purchaseOrders, ∃ po' ∈ s'.purchaseOrders,
    po'.uniKey = po.uniKey ∧ po'.status = po.status
  other : ∀ po ∈ s'.purchaseOrders, po.uniKey ≠ key → po ∈ s.purchaseOrders
  counted : ∀ po ∈ s'.purchaseOrders, po.uniKey = key → s'.OrderAgrees po ∧ s'.ListAgrees po
  lists : (s'.orderLists.rows.map OrderList.purchaseOrderUnikey).Nodup
  draft : ∀ ol ∈ s'.orderLists, ol.stage = .draft
  listed : ∃ ol ∈ s'.orderLists, ol.purchaseOrderUnikey = key
  listsKept : ∀ ol ∈ s.orderLists, ∃ ol' ∈ s'.orderLists,
    ol'.purchaseOrderUnikey = ol.purchaseOrderUnikey
  otherLists : ∀ ol ∈ s'.orderLists, ol.purchaseOrderUnikey ≠ key → ol ∈ s.orderLists
  view : s'.orderDetails.rows.map OrderDetail.view = s.orderDetails.rows.map OrderDetail.view

theorem syncOrderList_rest (po : PurchaseOrder) (s : PurchaseDb) :
    (po.syncOrderList s).packageSkuItems = s.packageSkuItems ∧
      (po.syncOrderList s).costs = s.costs ∧ (po.syncOrderList s).suppliers = s.suppliers := by
  unfold PurchaseOrder.syncOrderList
  split
  · exact ⟨rfl, rfl, rfl⟩
  · split <;> exact ⟨rfl, rfl, rfl⟩

theorem restated_of_sync {s₁ : PurchaseDb} {po : PurchaseOrder}
    (hlists : (s.orderLists.rows.map OrderList.purchaseOrderUnikey).Nodup)
    (hdraft : ∀ ol ∈ s.orderLists, ol.stage = .draft)
    (hs₁ : s₁ = { s with purchaseOrders := s₁.purchaseOrders })
    (horders : (s₁.purchaseOrders.rows.map PurchaseOrder.uniKey).Nodup)
    (hpo : po ∈ s₁.purchaseOrders)
    (hkept : ∀ r ∈ s.purchaseOrders, ∃ r' ∈ s₁.purchaseOrders,
      r'.uniKey = r.uniKey ∧ r'.status = r.status)
    (hother : ∀ r ∈ s₁.purchaseOrders, r.uniKey ≠ po.uniKey → r ∈ s.purchaseOrders)
    (hagrees : s.OrderAgrees po)
    (hnew : (∀ ol ∈ s.orderLists, ol.purchaseOrderUnikey ≠ po.uniKey) → po.bookNum = 0) :
    Restated s (po.syncOrderList s₁) po.uniKey := by
  have hsame : s₁.orderLists = s.orderLists := by rw [hs₁]
  have hsync : ListSynced s₁ (po.syncOrderList s₁) po := by
    apply syncOrderList_synced
    · rw [hsame]
      exact hlists
    · rw [hsame]
      exact hdraft
  obtain ⟨hitems, hcosts, hsuppliers⟩ := syncOrderList_rest po s₁
  have honly : ∀ r ∈ s₁.purchaseOrders, r.uniKey = po.uniKey → r = po := fun r hr h =>
    List.inj_on_of_nodup_map horders hr hpo h
  have hdetails : (po.syncOrderList s₁).purchaseDetails = s.purchaseDetails := by
    rw [syncOrderList_purchaseDetails, hs₁]
  refine
    { details := hdetails
      arrangements := by rw [syncOrderList_purchaseArrangements, hs₁]
      items := by rw [hitems, hs₁]
      costs := by rw [hcosts, hs₁]
      suppliers := by rw [hsuppliers, hs₁]
      orders := by rw [syncOrderList_purchaseOrders]; exact horders
      present := by rw [syncOrderList_purchaseOrders]; exact ⟨po, hpo, rfl⟩
      kept := by rw [syncOrderList_purchaseOrders]; exact hkept
      other := by rw [syncOrderList_purchaseOrders]; exact hother
      counted := ?_
      lists := hsync.lists
      draft := hsync.draft
      listed := hsync.listed
      listsKept := by rw [← hsame]; exact hsync.kept
      otherLists := by rw [← hsame]; exact hsync.other
      view := by rw [hsync.view, hs₁] }
  intro r hr hkey
  rw [syncOrderList_purchaseOrders] at hr
  rw [honly r hr hkey]
  refine ⟨?_, ?_⟩
  · unfold OrderAgrees
    rw [detailSum_congr hdetails, detailSum_congr hdetails]
    exact hagrees
  · intro _ ol hol hkey _
    rcases hsync.synced ol hol hkey with heq | ⟨hzero, hnone⟩
    · exact heq
    · rw [hsame] at hnone
      rw [hzero, hnew hnone]

theorem restat_restated (horders : (s.purchaseOrders.rows.map PurchaseOrder.uniKey).Nodup)
    (hlists : (s.orderLists.rows.map OrderList.purchaseOrderUnikey).Nodup)
    (hdraft : ∀ ol ∈ s.orderLists, ol.stage = .draft) (hc : s.Countable key) :
    Restated s (PurchaseOrder.restat key s) key := by
  unfold PurchaseOrder.restat
  split
  · rename_i hfirst
    have hnone : ∀ po ∈ s.purchaseOrders, po.uniKey ≠ key := fun po hpo =>
      of_decide_eq_false (Table.first_eq_none.1 hfirst po hpo)
    have hstored : s.purchaseOrders.stored (PurchaseOrder.create s key) =
        PurchaseOrder.create s key := rfl
    refine restated_of_sync hlists hdraft rfl ?_ ?_ ?_ ?_ ⟨rfl, rfl⟩ ?_
    · rw [Table.map_rows_insert]
      apply nodup_append_key horders
      intro hmem
      obtain ⟨po, hpo, heq⟩ := List.mem_map.1 hmem
      exact hnone po hpo heq
    · exact Table.mem_insert.2 (Or.inr hstored.symm)
    · intro r hr
      exact ⟨r, Table.mem_insert.2 (Or.inl hr), rfl, rfl⟩
    · intro r hr hne
      rcases Table.mem_insert.1 hr with hr | rfl
      · exact hr
      · exact absurd rfl hne
    · intro _
      exact hc.new hnone
  · rename_i po hfirst
    have hpo := Table.mem_of_first hfirst
    have hspec := Table.first_spec hfirst
    have hkey : po.uniKey = key := of_decide_eq_true hspec
    have hid : (po.recount s).id = po.id := po.recount_id s
    have hrow : ∀ r ∈ s.purchaseOrders, r.id = po.id → r = po := fun r hr h =>
      Table.pk_inj hr hpo h
    have hsaved : po.recount s ∈ s.purchaseOrders.save (po.recount s) := by
      refine Table.mem_update.2 (Or.inl ⟨po, hpo, decide_eq_true hid.symm, ?_⟩)
      have hpk : Row.pk po = Row.pk (po.recount s) := hid.symm
      rw [hpk, Row.withPk_pk]
    have hrestated : Restated s ((po.recount s).syncOrderList
        { s with purchaseOrders := s.purchaseOrders.save (po.recount s) })
          (po.recount s).uniKey := by
      refine restated_of_sync hlists hdraft rfl ?_ hsaved ?_ ?_ (recount_agrees hc hpo hkey) ?_
      · dsimp only
        unfold Table.save
        rw [Table.map_rows_update]
        · exact horders
        · intro r hr hpk
          have heq := hrow r hr ((of_decide_eq_true hpk).trans hid)
          subst heq
          exact recount_uniKey r
      · intro r hr
        by_cases heq : r.id = po.id
        · rw [hrow r hr heq]
          exact ⟨_, hsaved, recount_uniKey po, recount_status po⟩
        · refine ⟨r, Table.mem_update.2 (Or.inr ⟨hr, decide_eq_false ?_⟩), rfl, rfl⟩
          exact fun h => heq (h.trans hid)
      · intro r hr hne
        rcases Table.mem_save hr with rfl | ⟨hr, _⟩
        · exact absurd rfl hne
        · exact hr
      · intro hnone
        obtain ⟨ol, hol, heq⟩ := hc.listed po hpo hkey
        exact absurd (heq.trans (hkey.symm.trans (recount_uniKey po).symm)) (hnone ol hol)
    rw [recount_uniKey, hkey] at hrestated
    exact hrestated

end Restat

/-! ## The order detail -/

variable {row : PurchaseDetail}

section Place

structure DetailSynced (s s' : PurchaseDb) (pd : PurchaseDetail) : Prop where
  rest : s' = { s with orderDetails := s'.orderDetails }
  orderDetails : (s'.orderDetails.rows.map OrderDetail.slot).Nodup
  present : ∃ od ∈ s'.orderDetails, od.slot = pd.slot
  kept : ∀ od ∈ s.orderDetails, ∃ od' ∈ s'.orderDetails, od'.slot = od.slot
  other : ∀ od ∈ s'.orderDetails, od.slot ≠ pd.slot → od ∈ s.orderDetails
  synced : ∀ od ∈ s'.orderDetails, od.slot = pd.slot → od.buyQuantity = pd.bookNum

theorem syncOrderDetail_synced
    (horderDetails : (s.orderDetails.rows.map OrderDetail.slot).Nodup)
    (hdraft : ∀ ol ∈ s.orderLists, ol.stage = .draft) (pd : PurchaseDetail) :
    DetailSynced s (pd.syncOrderDetail s) pd := by
  unfold PurchaseDetail.syncOrderDetail
  dsimp only
  split
  · rename_i hfirst
    have hnone : ∀ od ∈ s.orderDetails, od.slot ≠ pd.slot := by
      intro od hod hslot
      obtain ⟨hkey, hsku⟩ := Prod.mk.injEq .. ▸ hslot
      exact of_decide_eq_false (Table.first_eq_none.1 hfirst od hod) ⟨hsku, hkey⟩
    refine ⟨rfl, ?_, ?_, ?_, ?_, ?_⟩
    · rw [Table.map_rows_insert]
      apply nodup_append_key horderDetails
      intro hmem
      obtain ⟨od, hod, heq⟩ := List.mem_map.1 hmem
      exact hnone od hod heq
    · exact ⟨_, Table.mem_insert.2 (Or.inr rfl), rfl⟩
    · intro od hod
      exact ⟨od, Table.mem_insert.2 (Or.inl hod), rfl⟩
    · intro od hod hne
      rcases Table.mem_insert.1 hod with hod | rfl
      · exact hod
      · exact absurd rfl hne
    · intro od hod hslot
      rcases Table.mem_insert.1 hod with hod | rfl
      · exact absurd hslot (hnone od hod)
      · rfl
  · rename_i od hfirst
    have hod := Table.mem_of_first hfirst
    have hspec := Table.first_spec hfirst
    obtain ⟨hsku, hkey⟩ := of_decide_eq_true hspec
    have hslot : od.slot = pd.slot := Prod.ext hkey hsku
    have honly : ∀ r ∈ s.orderDetails, r.slot = pd.slot → r = od := fun r hr h =>
      List.inj_on_of_nodup_map horderDetails hr hod (h.trans hslot.symm)
    have hopen : ¬ ((od.orderlistId.bind s.orderLists.get?).any fun ol => !ol.isOpen) = true := by
      intro hany
      obtain ⟨ol, hol, hclosed⟩ := (Option.any_eq_true _ _).1 hany
      obtain ⟨id, _, hget⟩ := Option.bind_eq_some_iff.1 hol
      have hstage := hdraft ol (Table.get?_eq_some.1 hget).1
      unfold OrderList.isOpen at hclosed
      rw [hstage] at hclosed
      cases hclosed
    rw [if_neg hopen]
    split
    · refine ⟨rfl, ?_, ?_, ?_, ?_, ?_⟩
      · rw [Table.map_rows_update fun r _ _ => rfl]
        exact horderDetails
      · exact ⟨_, Table.mem_update.2 (Or.inl ⟨od, hod, decide_eq_true rfl, rfl⟩), hslot⟩
      · intro r hr
        by_cases hid : r.id = od.id
        · exact ⟨_, Table.mem_update.2 (Or.inl ⟨r, hr, decide_eq_true hid, rfl⟩), rfl⟩
        · exact ⟨r, Table.mem_update.2 (Or.inr ⟨hr, decide_eq_false hid⟩), rfl⟩
      · intro r hr hne
        rcases Table.mem_update.1 hr with ⟨old, hold, hid, rfl⟩ | ⟨hr, _⟩
        · rw [Table.pk_inj hold hod (of_decide_eq_true hid)] at hne
          exact absurd hslot hne
        · exact hr
      · intro r hr hsame
        rcases Table.mem_update.1 hr with ⟨old, _, _, rfl⟩ | ⟨hr, hid⟩
        · rfl
        · rw [honly r hr hsame] at hid
          exact absurd rfl (of_decide_eq_false hid)
    · rename_i hcond
      refine ⟨rfl, horderDetails, ⟨od, hod, hslot⟩, fun r hr => ⟨r, hr, rfl⟩,
        fun r hr _ => hr, ?_⟩
      intro r hr hsame
      rw [honly r hr hsame]
      by_contra hne
      exact hcond (Or.inr hne)

/-- One detail is written, where one with the number `b` stood before. -/
structure Rewritten (s s' : PurchaseDb) (pd : PurchaseDetail) (b : Int) : Prop where
  rest : s' = { s with purchaseDetails := s'.purchaseDetails }
  details : (s'.purchaseDetails.rows.map PurchaseDetail.slot).Nodup
  mem : ∀ r, r ∈ s'.purchaseDetails ↔ r = pd ∨ r ∈ s.purchaseDetails ∧ r.slot ≠ pd.slot
  book : ∀ key, detailSum s' key PurchaseDetail.bookNum =
    detailSum s key PurchaseDetail.bookNum +
      if key = pd.purchaseOrderUnikey then pd.bookNum - b else 0
  total : ∀ key, detailSum s' key PurchaseDetail.totalPrice =
    detailSum s key PurchaseDetail.totalPrice +
      if key = pd.purchaseOrderUnikey then pd.totalPrice - b * pd.unitPrice else 0

def OrderOpen (s : PurchaseDb) (key : PurchaseKey) : Prop :=
  ∃ po ∈ s.purchaseOrders, po.uniKey = key ∧ po.status = .opened

structure Placed (off : Slot → Prop) (s s' : PurchaseDb) (pd : PurchaseDetail) : Prop where
  tidy : s'.Tidy
  agrees : AgreesOff (fun slot => off slot ∧ slot ≠ pd.slot) s'
  arrangements : s'.purchaseArrangements = s.purchaseArrangements
  items : s'.packageSkuItems = s.packageSkuItems
  suppliers : s'.suppliers = s.suppliers
  costs : s'.costs = s.costs
  mem : ∀ r, r ∈ s'.purchaseDetails ↔ r = pd ∨ r ∈ s.purchaseDetails ∧ r.slot ≠ pd.slot
  kept : ∀ po ∈ s.purchaseOrders, ∃ po' ∈ s'.purchaseOrders,
    po'.uniKey = po.uniKey ∧ po'.status = po.status

theorem Rewritten.countable {s' : PurchaseDb} {pd : PurchaseDetail} {b : Int} (hs : s.Tidy)
    (ha : AgreesOff off s) (hr : Rewritten s s' pd b)
    (hprice : pd.totalPrice = pd.bookNum * pd.unitPrice)
    (hcond : pd.bookNum = b ∨ s.OrderOpen pd.purchaseOrderUnikey) :
    Countable s' pd.purchaseOrderUnikey := by
  have hbook := hr.book pd.purchaseOrderUnikey
  have htotal := hr.total pd.purchaseOrderUnikey
  rw [if_pos rfl] at hbook htotal
  have horders : s'.purchaseOrders = s.purchaseOrders := by rw [hr.rest]
  have hlists : s'.orderLists = s.orderLists := by rw [hr.rest]
  have hsame : pd.bookNum = b →
      detailSum s' pd.purchaseOrderUnikey PurchaseDetail.bookNum =
        detailSum s pd.purchaseOrderUnikey PurchaseDetail.bookNum ∧
      detailSum s' pd.purchaseOrderUnikey PurchaseDetail.totalPrice =
        detailSum s pd.purchaseOrderUnikey PurchaseDetail.totalPrice := by
    intro heq
    rw [hbook, htotal, hprice, heq]
    simp
  refine ⟨?_, ?_, ?_, ?_⟩
  · intro po hpo hkey _ heq
    rw [horders] at hpo
    obtain ⟨hpb, hpt⟩ := ha.order po hpo
    rw [hkey] at hpb hpt
    have hb : pd.bookNum = b := by omega
    rw [hpt, (hsame hb).2]
  · intro po hpo hkey hclosed
    rw [horders] at hpo
    have hb : pd.bookNum = b := by
      rcases hcond with hb | ⟨o, ho, hokey, hopen⟩
      · exact hb
      · have heq : po = o := List.inj_on_of_nodup_map hs.orders hpo ho (hkey.trans hokey.symm)
        rw [heq] at hclosed
        exact absurd hopen hclosed
    obtain ⟨hpb, hpt⟩ := ha.order po hpo
    rw [hkey] at hpb hpt
    unfold OrderAgrees
    rw [hkey, (hsame hb).1, (hsame hb).2]
    exact ⟨hpb, hpt⟩
  · intro hnone
    rw [horders] at hnone
    have hb : pd.bookNum = b := by
      rcases hcond with hb | ⟨o, ho, hokey, _⟩
      · exact hb
      · exact absurd hokey (hnone o ho)
    rw [(hsame hb).1]
    unfold PurchaseOrder.detailSum
    apply Table.sum_eq_zero
    intro r hrow
    rw [if_neg]
    intro hkey
    obtain ⟨po, hpo, heq⟩ := hs.ordered r hrow
    exact hnone po hpo (heq.trans hkey)
  · intro po hpo hkey
    rw [horders] at hpo
    rw [hlists]
    obtain ⟨ol, hol, heq⟩ := hs.listed po hpo
    exact ⟨ol, hol, heq.trans hkey⟩

theorem Rewritten.placed {s₁ : PurchaseDb} {pd : PurchaseDetail} {b : Int} (hs : s.Tidy)
    (ha : AgreesOff off s) (hr : Rewritten s s₁ pd b)
    (heffect : pd.bookNum = effectNum s pd.purchaseOrderUnikey pd.skuId)
    (hprice : pd.totalPrice = pd.bookNum * pd.unitPrice)
    (hunit : pd.unitPrice = (s.costs pd.skuId).unit)
    (hcond : pd.bookNum = b ∨ s.OrderOpen pd.purchaseOrderUnikey) :
    Placed off s (PurchaseOrder.restat pd.purchaseOrderUnikey (pd.syncOrderDetail s₁)) pd := by
  have horders₁ : s₁.purchaseOrders = s.purchaseOrders := by rw [hr.rest]
  have hlists₁ : s₁.orderLists = s.orderLists := by rw [hr.rest]
  have hods₁ : s₁.orderDetails = s.orderDetails := by rw [hr.rest]
  have hsync : DetailSynced s₁ (pd.syncOrderDetail s₁) pd := by
    apply syncOrderDetail_synced
    · rw [hods₁]
      exact hs.orderDetails
    · rw [hlists₁]
      exact hs.draft
  generalize pd.syncOrderDetail s₁ = s₂ at hsync ⊢
  have hdetails₂ : s₂.purchaseDetails = s₁.purchaseDetails := by rw [hsync.rest]
  have horders₂ : s₂.purchaseOrders = s.purchaseOrders := by rw [hsync.rest, ← horders₁]
  have hlists₂ : s₂.orderLists = s.orderLists := by rw [hsync.rest, ← hlists₁]
  have hcountable : Countable s₂ pd.purchaseOrderUnikey := by
    obtain ⟨hopened, hclosed, hnew, hlisted⟩ := hr.countable hs ha hprice hcond
    refine ⟨?_, ?_, ?_, ?_⟩
    · rw [horders₂, ← horders₁, detailSum_congr hdetails₂, detailSum_congr hdetails₂]
      exact hopened
    · intro po hpo hkey hstatus
      rw [horders₂, ← horders₁] at hpo
      unfold OrderAgrees
      rw [detailSum_congr hdetails₂, detailSum_congr hdetails₂]
      exact hclosed po hpo hkey hstatus
    · rw [horders₂, ← horders₁, detailSum_congr hdetails₂]
      exact hnew
    · rw [horders₂, ← horders₁, hlists₂, ← hlists₁]
      exact hlisted
  have hrestat : Restated s₂ (PurchaseOrder.restat pd.purchaseOrderUnikey s₂)
      pd.purchaseOrderUnikey := by
    apply restat_restated _ _ _ hcountable
    · rw [horders₂]
      exact hs.orders
    · rw [hlists₂]
      exact hs.lists
    · rw [hlists₂]
      exact hs.draft
  generalize PurchaseOrder.restat pd.purchaseOrderUnikey s₂ = s₃ at hrestat ⊢
  have hdetails₃ : s₃.purchaseDetails = s₁.purchaseDetails := hrestat.details.trans hdetails₂
  have harr : s₃.purchaseArrangements = s.purchaseArrangements := by
    rw [hrestat.arrangements, hsync.rest, hr.rest]
  have hitems : s₃.packageSkuItems = s.packageSkuItems := by
    rw [hrestat.items, hsync.rest, hr.rest]
  have hcosts : s₃.costs = s.costs := by rw [hrestat.costs, hsync.rest, hr.rest]
  have hmem : ∀ r, r ∈ s₃.purchaseDetails ↔ r = pd ∨ r ∈ s.purchaseDetails ∧ r.slot ≠ pd.slot := by
    rw [hdetails₃]
    exact hr.mem
  have hkept : ∀ po ∈ s.purchaseOrders, ∃ po' ∈ s₃.purchaseOrders,
      po'.uniKey = po.uniKey ∧ po'.status = po.status := by
    rw [← horders₂]
    exact hrestat.kept
  have hother : ∀ po ∈ s₃.purchaseOrders, po.uniKey ≠ pd.purchaseOrderUnikey →
      po ∈ s.purchaseOrders := by
    rw [← horders₂]
    exact hrestat.other
  have hslots : s₃.orderDetails.rows.map OrderDetail.slot =
      s₂.orderDetails.rows.map OrderDetail.slot := by
    have hview := congrArg (List.map Prod.fst) hrestat.view
    rw [List.map_map, List.map_map] at hview
    exact hview
  -- an order detail of the last state by one of the middle state
  have hod : ∀ od ∈ s₃.orderDetails, ∃ od' ∈ s₂.orderDetails,
      od'.slot = od.slot ∧ od'.buyQuantity = od.buyQuantity := by
    intro od hmem
    have hin : od.view ∈ s₂.orderDetails.rows.map OrderDetail.view := by
      rw [← hrestat.view]
      exact List.mem_map_of_mem hmem
    obtain ⟨od', hod', hview⟩ := List.mem_map.1 hin
    exact ⟨od', hod', congrArg Prod.fst hview, congrArg Prod.snd hview⟩
  have hod' : ∀ od' ∈ s₂.orderDetails, ∃ od ∈ s₃.orderDetails, od.slot = od'.slot := by
    intro od' hmem
    have hin : od'.slot ∈ s₃.orderDetails.rows.map OrderDetail.slot := by
      rw [hslots]
      exact List.mem_map_of_mem hmem
    obtain ⟨od, hod, heq⟩ := List.mem_map.1 hin
    exact ⟨od, hod, heq⟩
  refine ⟨?_, ?_, harr, hitems, ?_, hcosts, hmem, hkept⟩
  · refine
      { orders := hrestat.orders
        details := by rw [hdetails₃]; exact hr.details
        lists := hrestat.lists
        orderDetails := by rw [hslots]; exact hsync.orderDetails
        draft := hrestat.draft
        ordered := ?_
        listed := ?_
        mirrored := ?_
        unit := ?_
        items := by rw [harr, hitems]; exact hs.items
        uniKeys := by rw [harr]; exact hs.uniKeys }
    · intro r hrow
      rcases (hmem r).1 hrow with rfl | ⟨hold, _⟩
      · exact hrestat.present
      · obtain ⟨po, hpo, heq⟩ := hs.ordered r hold
        obtain ⟨po', hpo', heq', _⟩ := hkept po hpo
        exact ⟨po', hpo', heq'.trans heq⟩
    · intro po hpo
      by_cases hkey : po.uniKey = pd.purchaseOrderUnikey
      · rw [hkey]
        exact hrestat.listed
      · obtain ⟨ol, hol, heq⟩ := hs.listed po (hother po hpo hkey)
        rw [← hlists₂] at hol
        obtain ⟨ol', hol', heq'⟩ := hrestat.listsKept ol hol
        exact ⟨ol', hol', heq'.trans heq⟩
    · intro slot
      constructor
      · rintro ⟨r, hrow, rfl⟩
        have hsome : ∃ od' ∈ s₂.orderDetails, od'.slot = r.slot := by
          rcases (hmem r).1 hrow with rfl | ⟨hold, _⟩
          · exact hsync.present
          · obtain ⟨od, hod, heq⟩ := (hs.mirrored r.slot).1 ⟨r, hold, rfl⟩
            rw [← hods₁] at hod
            obtain ⟨od', hod', heq'⟩ := hsync.kept od hod
            exact ⟨od', hod', heq'.trans heq⟩
        obtain ⟨od', hmem', heq⟩ := hsome
        obtain ⟨od, hmem, heq'⟩ := hod' od' hmem'
        exact ⟨od, hmem, heq'.trans heq⟩
      · rintro ⟨od, hmemod, rfl⟩
        obtain ⟨od', hmem', hslot, _⟩ := hod od hmemod
        by_cases hpd : od'.slot = pd.slot
        · exact ⟨pd, (hmem pd).2 (Or.inl rfl), hpd.symm.trans hslot⟩
        · have hold := hsync.other od' hmem' hpd
          rw [hods₁] at hold
          obtain ⟨r, hrow, heq⟩ := (hs.mirrored od'.slot).2 ⟨od', hold, rfl⟩
          exact ⟨r, (hmem r).2 (Or.inr ⟨hrow, heq ▸ hpd⟩), heq.trans hslot⟩
    · intro r hrow
      rw [hcosts]
      rcases (hmem r).1 hrow with rfl | ⟨hold, _⟩
      · exact hunit
      · exact hs.unit r hold
  · refine ⟨?_, ?_, ?_, ?_, ?_⟩
    · intro r hrow hoff
      have hnum : effectNum s₃ r.purchaseOrderUnikey r.skuId =
          effectNum s r.purchaseOrderUnikey r.skuId := effectNum_congr harr _ _
      rw [hnum]
      rcases (hmem r).1 hrow with rfl | ⟨hold, hne⟩
      · exact heffect
      · exact ha.detail r hold fun h => hoff ⟨h, hne⟩
    · intro r hrow
      rcases (hmem r).1 hrow with rfl | ⟨hold, _⟩
      · exact hprice
      · exact ha.price r hold
    · intro po hpo
      by_cases hkey : po.uniKey = pd.purchaseOrderUnikey
      · exact (hrestat.counted po hpo hkey).1
      · obtain ⟨hb, ht⟩ := ha.order po (hother po hpo hkey)
        unfold OrderAgrees
        rw [detailSum_congr hdetails₃, detailSum_congr hdetails₃, hr.book, hr.total,
          if_neg hkey, if_neg hkey, add_zero, add_zero]
        exact ⟨hb, ht⟩
    · intro po hpo
      by_cases hkey : po.uniKey = pd.purchaseOrderUnikey
      · exact (hrestat.counted po hpo hkey).2
      · intro hopen ol hol heq
        have hold := hrestat.otherLists ol hol (heq ▸ hkey)
        rw [hlists₂] at hold
        exact ha.list po (hother po hpo hkey) hopen ol hold heq
    · intro po hpo hopen r hrow hkey od hmemod hslot
      obtain ⟨od', hmem', hslot', hquantity⟩ := hod od hmemod
      rw [← hquantity]
      rcases (hmem r).1 hrow with rfl | ⟨hold, hne⟩
      · exact hsync.synced od' hmem' (hslot'.trans hslot)
      · have hmem₁ := hsync.other od' hmem' fun h => hne (hslot.symm.trans (hslot'.symm.trans h))
        rw [hods₁] at hmem₁
        -- the order was there before, with the same status
        obtain ⟨o, ho, hokey⟩ := hs.ordered r hold
        obtain ⟨o', ho', hokey', hstatus⟩ := hkept o ho
        have heq : o' = po := List.inj_on_of_nodup_map hrestat.orders ho' hpo
          (hokey'.trans (hokey.trans hkey))
        rw [heq] at hstatus
        exact ha.quantity o ho (hstatus.symm.trans hopen) r hold hokey.symm od' hmem₁
          (hslot'.trans hslot)
  · rw [hrestat.suppliers, hsync.rest, hr.rest]

/-! ### The detail that a method writes -/

/-- Which arrangements an order may take at a SKU, `total` pieces in all: a new list has
no number, an order that is not open is not counted again, and a new detail has a price
that need not be the sum of its pieces. -/
def Placeable (s : PurchaseDb) (key : PurchaseKey) (sku : Nat) (total : Int) : Prop :=
  match PurchaseDetail.find s sku key with
  | none =>
      total = 0 ∨
        s.OrderOpen key ∧ (s.costs sku).total total = total * (s.costs sku).unit
  | some pd => pd.isOpen = true ∧ (total = pd.bookNum ∨ s.OrderOpen key)

theorem rewritten_insert (hs : s.Tidy) {sku : Nat} (hnone : PurchaseDetail.find s sku key = none) :
    Rewritten s { s with
        purchaseDetails := s.purchaseDetails.insert (PurchaseDetail.ofArrangement s sku key) }
      (PurchaseDetail.ofArrangement s sku key) 0 := by
  have hstored : s.purchaseDetails.stored (PurchaseDetail.ofArrangement s sku key) =
      PurchaseDetail.ofArrangement s sku key := rfl
  have hkey : (PurchaseDetail.ofArrangement s sku key).purchaseOrderUnikey = key := rfl
  have hnew : ∀ r ∈ s.purchaseDetails, r.slot ≠ (key, sku) := by
    intro r hr hslot
    have hrkey : r.purchaseOrderUnikey = key := congrArg Prod.fst hslot
    have hrsku : r.skuId = sku := congrArg Prod.snd hslot
    exact of_decide_eq_false (Table.first_eq_none.1 hnone r hr) ⟨hrsku, hrkey⟩
  refine ⟨rfl, ?_, ?_, ?_, ?_⟩
  · rw [Table.map_rows_insert]
    apply nodup_append_key hs.details
    intro hmem
    obtain ⟨r, hr, heq⟩ := List.mem_map.1 hmem
    exact hnew r hr heq
  · intro r
    rw [Table.mem_insert, hstored]
    constructor
    · rintro (hr | rfl)
      · exact Or.inr ⟨hr, hnew r hr⟩
      · exact Or.inl rfl
    · rintro (rfl | ⟨hr, _⟩)
      · exact Or.inr rfl
      · exact Or.inl hr
  · intro k
    unfold PurchaseOrder.detailSum
    rw [Table.sum_insert, hstored, hkey]
    congr 1
    by_cases hk : k = key
    · subst hk
      rw [if_pos rfl, if_pos rfl, sub_zero]
    · rw [if_neg (fun h => hk h.symm), if_neg hk]
  · intro k
    unfold PurchaseOrder.detailSum
    rw [Table.sum_insert, hstored, hkey]
    congr 1
    by_cases hk : k = key
    · subst hk
      rw [if_pos rfl, if_pos rfl, zero_mul, sub_zero]
    · rw [if_neg (fun h => hk h.symm), if_neg hk]

theorem rewritten_self (hs : s.Tidy) (hrow : row ∈ s.purchaseDetails)
    (hprice : row.totalPrice = row.bookNum * row.unitPrice) :
    Rewritten s s row row.bookNum := by
  refine ⟨rfl, hs.details, ?_, ?_, ?_⟩
  · intro r
    constructor
    · intro hr
      by_cases heq : r.slot = row.slot
      · exact Or.inl (List.inj_on_of_nodup_map hs.details hr hrow heq)
      · exact Or.inr ⟨hr, heq⟩
    · rintro (rfl | ⟨hr, _⟩)
      · exact hrow
      · exact hr
  · intro k
    rw [sub_self, ite_self, add_zero]
  · intro k
    rw [← hprice, sub_self, ite_self, add_zero]

theorem rewritten_save (hs : s.Tidy) {new : PurchaseDetail} (hrow : row ∈ s.purchaseDetails)
    (hid : new.id = row.id) (hslot : new.slot = row.slot) (hunit : new.unitPrice = row.unitPrice)
    (hprice : row.totalPrice = row.bookNum * row.unitPrice) :
    Rewritten s { s with purchaseDetails := s.purchaseDetails.save new } new row.bookNum := by
  have hpk : Row.pk row = Row.pk new := hid.symm
  have hkey : new.purchaseOrderUnikey = row.purchaseOrderUnikey := congrArg Prod.fst hslot
  have honly : ∀ r ∈ s.purchaseDetails, r.slot = row.slot → r = row := fun r hr h =>
    List.inj_on_of_nodup_map hs.details hr hrow h
  refine ⟨rfl, ?_, ?_, ?_, ?_⟩
  · dsimp only
    unfold Table.save
    rw [Table.map_rows_update]
    · exact hs.details
    · intro r hr hsame
      have heq : r = row := Table.pk_inj hr hrow ((of_decide_eq_true hsame).trans hpk.symm)
      rw [heq, hpk, Row.withPk_pk]
      exact hslot
  · intro r
    constructor
    · intro hr
      rcases Table.mem_save hr with rfl | ⟨hr, hne⟩
      · exact Or.inl rfl
      · refine Or.inr ⟨hr, fun h => hne ?_⟩
        rw [honly r hr (h.trans hslot), hpk]
    · rintro (rfl | ⟨hr, hne⟩)
      · refine Table.mem_update.2 (Or.inl ⟨row, hrow, decide_eq_true hpk, ?_⟩)
        rw [hpk, Row.withPk_pk]
      · refine Table.mem_update.2 (Or.inr ⟨hr, decide_eq_false fun h => hne ?_⟩)
        rw [Table.pk_inj hr hrow (h.trans hpk.symm), hslot]
  · intro k
    unfold PurchaseOrder.detailSum
    dsimp only
    rw [Table.sum_save hrow hpk, hkey]
    by_cases hk : row.purchaseOrderUnikey = k
    · rw [if_pos hk, if_pos hk, if_pos hk.symm]
      omega
    · rw [if_neg hk, if_neg hk, if_neg (fun h => hk h.symm)]
      omega
  · intro k
    unfold PurchaseOrder.detailSum
    dsimp only
    rw [Table.sum_save hrow hpk, hkey, hunit, ← hprice]
    by_cases hk : row.purchaseOrderUnikey = k
    · rw [if_pos hk, if_pos hk, if_pos hk.symm]
      omega
    · rw [if_neg hk, if_neg hk, if_neg (fun h => hk h.symm)]
      omega

theorem syncOrderDetail_congr {pd pd' : PurchaseDetail} (hslot : pd.slot = pd'.slot)
    (hbook : pd.bookNum = pd'.bookNum) (hunit : pd.unitPrice = pd'.unitPrice)
    (htotal : pd.totalPrice = pd'.totalPrice) (s : PurchaseDb) :
    pd.syncOrderDetail s = pd'.syncOrderDetail s := by
  have hkey : pd.purchaseOrderUnikey = pd'.purchaseOrderUnikey := congrArg Prod.fst hslot
  have hsku : pd.skuId = pd'.skuId := congrArg Prod.snd hslot
  unfold PurchaseDetail.syncOrderDetail
  rw [hkey, hsku, hbook, hunit, htotal]

theorem restatDetail_placed (hs : s.Tidy) (ha : AgreesOff off s) {pd : PurchaseDetail}
    (hrow : row ∈ s.purchaseDetails) (hid : pd.id = row.id) (hslot : pd.slot = row.slot)
    (hunit : pd.unitPrice = row.unitPrice) (hprice : pd.totalPrice = pd.bookNum * pd.unitPrice)
    (hold : pd.bookNum = effectNum s row.purchaseOrderUnikey row.skuId → row.bookNum = pd.bookNum)
    (hcond : effectNum s row.purchaseOrderUnikey row.skuId = row.bookNum ∨
      s.OrderOpen row.purchaseOrderUnikey) :
    ∃ new, Placed off s (pd.restat s) new ∧ new.slot = row.slot ∧ new.id = row.id ∧
      new.status = row.status := by
  have hkey : pd.purchaseOrderUnikey = row.purchaseOrderUnikey := congrArg Prod.fst hslot
  have hsku : pd.skuId = row.skuId := congrArg Prod.snd hslot
  have hrowprice := ha.price row hrow
  have hrowunit := hs.unit row hrow
  unfold PurchaseDetail.restat
  dsimp only
  by_cases hout : pd.outdated s = true
  · have hrecount : pd.recount s = { pd with
        bookNum := effectNum s row.purchaseOrderUnikey row.skuId
        needNum := effectNum s row.purchaseOrderUnikey row.skuId
        unitPrice := (s.costs row.skuId).unit
        totalPrice := (s.costs row.skuId).unit *
          effectNum s row.purchaseOrderUnikey row.skuId } := by
      unfold PurchaseDetail.recount
      dsimp only
      rw [if_pos hout, hkey, hsku]
    have hsaved : (pd.recount s).saveTotals s =
        { s with purchaseDetails := s.purchaseDetails.save ((pd.recount s).setTotals row) } := by
      unfold PurchaseDetail.saveTotals
      rw [PurchaseDetail.recount_id, hid]
      congr 1
      exact Table.update_eq_save hrow _
    have hrewritten : Rewritten s
        { s with purchaseDetails := s.purchaseDetails.save ((pd.recount s).setTotals row) }
          ((pd.recount s).setTotals row) row.bookNum := by
      refine rewritten_save hs hrow ?_ ?_ ?_ hrowprice
      · rfl
      · rfl
      · rw [hrecount]
        exact hrowunit.symm
    have hplaced := hrewritten.placed hs ha (by rw [hrecount]; rfl)
      (by rw [hrecount]; exact mul_comm ..) (by rw [hrecount]; rfl)
      (by rw [hrecount]; exact hcond)
    have hsync : ∀ s₁, ((pd.recount s).setTotals row).syncOrderDetail s₁ =
        (pd.recount s).syncOrderDetail s₁ :=
      syncOrderDetail_congr (by rw [hrecount]; exact hslot.symm) rfl rfl rfl
    refine ⟨(pd.recount s).setTotals row, ?_, rfl, rfl, rfl⟩
    rw [hsync] at hplaced
    rw [if_pos hout, hsaved, hkey]
    exact hplaced
  · have hrecount : pd.recount s = pd := by
      unfold PurchaseDetail.recount
      dsimp only
      rw [if_neg hout]
    rw [if_neg hout, hrecount]
    unfold PurchaseDetail.outdated at hout
    have hagrees : pd.bookNum = effectNum s row.purchaseOrderUnikey row.skuId := by
      rw [← hkey, ← hsku]
      by_contra hne
      exact hout (decide_eq_true (Or.inl hne))
    have hbook := hold hagrees
    refine ⟨row, ?_, rfl, rfl, rfl⟩
    have htotal : pd.totalPrice = row.totalPrice := by
      rw [hprice, hrowprice, hbook, hunit]
    rw [syncOrderDetail_congr hslot hbook.symm hunit htotal, hkey]
    exact (rewritten_self hs hrow hrowprice).placed hs ha (hbook.trans hagrees) hrowprice
      hrowunit (Or.inl rfl)

theorem orderDetail_placed (closed : PurchaseTx Unit) (hs : s.Tidy) (ha : AgreesOff off s)
    {sku : Nat} (hp : s.Placeable key sku (effectNum s key sku)) :
    ∃ s' new, (PurchaseArrangement.orderDetail closed sku key).run s = (.ok (), s') ∧
      Placed off s s' new ∧ new.slot = (key, sku) ∧ new.status = .opened ∧
        ∀ pd, PurchaseDetail.find s sku key = some pd → new.id = pd.id := by
  unfold PurchaseArrangement.orderDetail
  rw [gets_bind_run]
  unfold Placeable at hp
  cases hfind : PurchaseDetail.find s sku key with
  | none =>
    rw [hfind] at hp
    refine ⟨_, PurchaseDetail.ofArrangement s sku key, rfl, ?_, rfl, rfl,
      fun _ h => by cases h⟩
    refine (rewritten_insert hs hfind).placed hs ha rfl ?_ rfl ?_
    · rcases hp with hzero | ⟨_, hprice⟩
      · show (s.costs sku).total (effectNum s key sku) =
          effectNum s key sku * (s.costs sku).unit
        rw [hzero, (s.costs sku).total_zero, zero_mul]
      · exact hprice
    · exact hp.imp_right And.left
  | some pd =>
    rw [hfind] at hp
    obtain ⟨hopen, hcond⟩ := hp
    obtain ⟨hpd, hsku, hkey⟩ := PurchaseDetail.find_spec hfind
    dsimp only
    rw [if_pos hopen]
    have hcond' : effectNum s pd.purchaseOrderUnikey pd.skuId = pd.bookNum ∨
        s.OrderOpen pd.purchaseOrderUnikey := by
      rw [hsku, hkey]
      exact hcond
    obtain ⟨new, hplaced, hslot, hid, hstatus⟩ :=
      restatDetail_placed hs ha hpd rfl rfl rfl (ha.price pd hpd) (fun _ => rfl) hcond'
    refine ⟨_, new, rfl, hplaced, ?_, ?_, ?_⟩
    · rw [hslot, ← hkey, ← hsku]
      rfl
    · rw [hstatus]
      exact of_decide_eq_true hopen
    · intro r hr
      rw [hid, Option.some.inj hr]

end Place

/-! ## The arrangements -/

variable {new old : PurchaseArrangement}

section Arrangements

theorem AgreesOff.mono {off' : Slot → Prop} (ha : AgreesOff off s)
    (h : ∀ pd ∈ s.purchaseDetails, off pd.slot → off' pd.slot) : AgreesOff off' s where
  detail pd hpd hoff := ha.detail pd hpd fun hslot => hoff (h pd hpd hslot)
  price := ha.price
  order := ha.order
  list := ha.list
  quantity := ha.quantity

theorem AgreesOff.withArrangements {off' : Slot → Prop} (ha : AgreesOff off s)
    {t : Table PurchaseArrangement}
    (hnum : ∀ pd ∈ s.purchaseDetails, ¬ off' pd.slot → ¬ off pd.slot ∧
      effectNum { s with purchaseArrangements := t } pd.purchaseOrderUnikey pd.skuId =
        effectNum s pd.purchaseOrderUnikey pd.skuId) :
    AgreesOff off' { s with purchaseArrangements := t } where
  detail pd hpd hoff := by
    obtain ⟨hon, heq⟩ := hnum pd hpd hoff
    rw [heq]
    exact ha.detail pd hpd hon
  price := ha.price
  order := ha.order
  list := ha.list
  quantity := ha.quantity

theorem Tidy.withArrangements (hs : s.Tidy) {t : Table PurchaseArrangement}
    (hitems : ∀ pa ∈ t, ∃ psi ∈ s.packageSkuItems, psi.id = pa.oid)
    (hkeys : ∀ pa ∈ t, ∀ pa' ∈ t, pa.purchaseOrderUnikey = pa'.purchaseOrderUnikey →
      pa.oid = pa'.oid → pa = pa') : Tidy { s with purchaseArrangements := t } :=
  { hs with items := hitems, uniKeys := hkeys }

theorem Tidy.withItems (hs : s.Tidy) {t : Table PackageSkuItem}
    (h : ∀ psi ∈ s.packageSkuItems, ∃ psi' ∈ t, psi'.id = psi.id) :
    Tidy { s with packageSkuItems := t } where
  __ := hs
  items pa hpa := by
    obtain ⟨psi, hpsi, hid⟩ := hs.items pa hpa
    obtain ⟨psi', hpsi', hid'⟩ := h psi hpsi
    exact ⟨psi', hpsi', hid'.trans hid⟩

theorem AgreesOff.withItems (ha : AgreesOff off s) (t : Table PackageSkuItem) :
    AgreesOff off { s with packageSkuItems := t } where
  detail := ha.detail
  price := ha.price
  order := ha.order
  list := ha.list
  quantity := ha.quantity

theorem Tidy.updateArrangements (hs : s.Tidy) {p : PurchaseArrangement → Bool}
    {f : PurchaseArrangement → PurchaseArrangement}
    (hkey : ∀ r, (f r).purchaseOrderUnikey = r.purchaseOrderUnikey)
    (hoid : ∀ r, (f r).oid = r.oid) :
    Tidy { s with purchaseArrangements := s.purchaseArrangements.update p f } := by
  have himage : ∀ r : PurchaseArrangement,
      (if p r then Row.withPk (Row.pk r) (f r) else r).purchaseOrderUnikey =
        r.purchaseOrderUnikey ∧
      (if p r then Row.withPk (Row.pk r) (f r) else r).oid = r.oid := by
    intro r
    split
    · exact ⟨hkey r, hoid r⟩
    · exact ⟨rfl, rfl⟩
  apply hs.withArrangements
  · intro pa hpa
    obtain ⟨r, hr, rfl⟩ := Table.exists_of_mem_update hpa
    rw [(himage r).2]
    exact hs.items r hr
  · intro pa hpa pa' hpa' hk ho
    obtain ⟨r, hr, rfl⟩ := Table.exists_of_mem_update hpa
    obtain ⟨r', hr', rfl⟩ := Table.exists_of_mem_update hpa'
    rw [(himage r).1, (himage r').1] at hk
    rw [(himage r).2, (himage r').2] at ho
    rw [hs.uniKeys r hr r' hr' hk ho]

theorem effectNum_setGenOrder (id : Nat) (key : PurchaseKey) (sku : Nat) :
    effectNum (PurchaseArrangement.setGenOrder id s) key sku = effectNum s key sku := by
  unfold PurchaseArrangement.setGenOrder PurchaseArrangement.effectNum
  dsimp only
  rw [Table.sum_update]
  apply Table.sum_congr
  intro r _
  split <;> rfl

theorem Tidy.setGenOrder (hs : s.Tidy) (id : Nat) :
    (PurchaseArrangement.setGenOrder id s).Tidy :=
  hs.updateArrangements (fun _ => rfl) fun _ => rfl

theorem AgreesOff.setGenOrder (ha : AgreesOff off s) (id : Nat) :
    AgreesOff off (PurchaseArrangement.setGenOrder id s) :=
  ha.withArrangements fun _ _ hoff => ⟨hoff, effectNum_setGenOrder id _ _⟩

theorem skuitem_of_mem {oid : Nat} (h : ∃ psi ∈ s.packageSkuItems, psi.id = oid) :
    ∃ psi, s.packageSkuItems.get? oid = some psi := by
  obtain ⟨psi, hpsi, hid⟩ := h
  exact ⟨psi, Table.get?_eq_some.2 ⟨hpsi, hid⟩⟩

/-- What `generate_order` does where the order takes the arrangement. -/
structure Generated (off : Slot → Prop) (s s' : PurchaseDb) (pa : PurchaseArrangement)
    (new : PurchaseDetail) : Prop where
  tidy : s'.Tidy
  agrees : AgreesOff (fun slot => off slot ∧ slot ≠ new.slot) s'
  arrangements : s'.purchaseArrangements =
    (PurchaseArrangement.setGenOrder pa.id s).purchaseArrangements
  suppliers : s'.suppliers = s.suppliers
  costs : s'.costs = s.costs
  mem : ∀ r, r ∈ s'.purchaseDetails ↔ r = new ∨ r ∈ s.purchaseDetails ∧ r.slot ≠ new.slot
  kept : ∀ po ∈ s.purchaseOrders, ∃ po' ∈ s'.purchaseOrders,
    po'.uniKey = po.uniKey ∧ po'.status = po.status

theorem generateOrderWith_generated (closed : PurchaseArrangement → PurchaseTx Unit)
    (hs : s.Tidy) (ha : AgreesOff off s) {pa : PurchaseArrangement}
    (hitem : ∃ psi ∈ s.packageSkuItems, psi.id = pa.oid) (hkey : pa.purchaseOrderUnikey = some key)
    (hp : s.Placeable key pa.skuId (effectNum s key pa.skuId)) :
    ∃ s' new, (PurchaseArrangement.generateOrderWith closed pa).run s = (.ok (), s') ∧
      Generated off s s' pa new ∧ new.slot = (key, pa.skuId) ∧ new.status = .opened ∧
        ∀ pd, PurchaseDetail.find s pa.skuId key = some pd → new.id = pd.id := by
  unfold PurchaseArrangement.generateOrderWith
  rw [hkey]
  dsimp only
  rw [modify_bind_run]
  have hp' : (PurchaseArrangement.setGenOrder pa.id s).Placeable key pa.skuId
      (effectNum (PurchaseArrangement.setGenOrder pa.id s) key pa.skuId) := by
    rw [effectNum_setGenOrder]
    exact hp
  obtain ⟨s₁, new, hrun, hplaced, hslot, hstatus, hid⟩ :=
    orderDetail_placed (closed pa) (hs.setGenOrder pa.id) (ha.setGenOrder pa.id) hp'
  rw [bind_ok hrun]
  obtain ⟨psi, hpsi⟩ : ∃ psi, s₁.packageSkuItems.get? pa.oid = some psi := by
    rw [hplaced.items]
    exact skuitem_of_mem hitem
  unfold PurchaseArrangement.setStatusPrepareBook PurchaseArrangement.skuitem
  rw [getOr_bind_run, hpsi]
  have hids : ∀ r ∈ s₁.packageSkuItems,
      ∃ r' ∈ s₁.packageSkuItems.save psi.toPrepareBook, r'.id = r.id := by
    intro r hr
    refine ⟨_, Table.mem_update_of_mem hr, ?_⟩
    split <;> rfl
  exact ⟨_, new, rfl,
    { tidy := hplaced.tidy.withItems hids
      agrees := hplaced.agrees.withItems _
      arrangements := hplaced.arrangements
      suppliers := hplaced.suppliers
      costs := hplaced.costs
      mem := hplaced.mem
      kept := hplaced.kept }, hslot, hstatus, hid⟩

def weight (key : PurchaseKey) (sku : Nat) (pa : PurchaseArrangement) : Int :=
  if pa.purchaseOrderUnikey = some key ∧ pa.skuId = sku ∧ pa.status = .effect then (pa.num : Int)
  else 0

theorem effectNum_save (hold : old ∈ s.purchaseArrangements)
    (hid : new.id = old.id) (key : PurchaseKey) (sku : Nat) :
    effectNum (PurchaseArrangement.save new s) key sku =
      effectNum s key sku - weight key sku old + weight key sku new := by
  have hpk : Row.pk old = Row.pk new := hid.symm
  exact Table.sum_save hold hpk (weight key sku)

theorem uniKeyTaken_eq_false {pa : PurchaseArrangement} :
    uniKeyTaken s pa = false ↔ ∀ r ∈ s.purchaseArrangements,
      r.purchaseOrderUnikey = pa.purchaseOrderUnikey → r.oid = pa.oid → r.id = pa.id := by
  unfold PurchaseArrangement.uniKeyTaken
  rw [Option.isSome_eq_false_iff, Option.isNone_iff_eq_none, Table.first_eq_none]
  constructor
  · intro h r hr hkey hoid
    by_contra hne
    exact of_decide_eq_false (h r hr) ⟨hkey, hoid, hne⟩
  · intro h r hr
    exact decide_eq_false fun ⟨hkey, hoid, hne⟩ => hne (h r hr hkey hoid)

theorem Tidy.saveArrangement (hs : s.Tidy)
    (hold : old ∈ s.purchaseArrangements) (hid : new.id = old.id) (hoid : new.oid = old.oid)
    (hfree : uniKeyTaken s new = false) : (PurchaseArrangement.save new s).Tidy := by
  rw [uniKeyTaken_eq_false] at hfree
  have hcross : ∀ r ∈ s.purchaseArrangements, Row.pk r ≠ Row.pk new →
      ¬ (r.purchaseOrderUnikey = new.purchaseOrderUnikey ∧ r.oid = new.oid) :=
    fun r hr hne h => hne (hfree r hr h.1 h.2)
  apply hs.withArrangements
  · intro pa hpa
    rcases Table.mem_save hpa with rfl | ⟨hpa, _⟩
    · rw [hoid]
      exact hs.items old hold
    · exact hs.items pa hpa
  · intro pa hpa pa' hpa' hkey ho
    rcases Table.mem_save hpa with rfl | ⟨hin, hne⟩
    · rcases Table.mem_save hpa' with rfl | ⟨hin', hne'⟩
      · rfl
      · exact absurd ⟨hkey.symm, ho.symm⟩ (hcross pa' hin' hne')
    · rcases Table.mem_save hpa' with rfl | ⟨hin', _⟩
      · exact absurd ⟨hkey, ho⟩ (hcross pa hin hne)
      · exact hs.uniKeys pa hin pa' hin' hkey ho

theorem Tidy.insertArrangement (hs : s.Tidy) {pa : PurchaseArrangement}
    (hitem : ∃ psi ∈ s.packageSkuItems, psi.id = pa.oid)
    (hid : pa.id = s.purchaseArrangements.nextId) (hfree : uniKeyTaken s pa = false) :
    Tidy { s with purchaseArrangements := s.purchaseArrangements.insert pa } := by
  rw [uniKeyTaken_eq_false] at hfree
  have hstored : s.purchaseArrangements.stored pa = pa := by
    unfold Table.stored
    rw [← hid]
    exact Row.withPk_pk pa
  have hcross : ∀ r ∈ s.purchaseArrangements,
      ¬ (r.purchaseOrderUnikey = pa.purchaseOrderUnikey ∧ r.oid = pa.oid) := by
    intro r hr h
    have hlt := Table.pk_lt_nextId hr
    have heq : Row.pk r = pa.id := hfree r hr h.1 h.2
    rw [heq, hid] at hlt
    exact lt_irrefl _ hlt
  apply hs.withArrangements
  · intro r hr
    rcases Table.mem_insert.1 hr with hr | rfl
    · exact hs.items r hr
    · rw [hstored]
      exact hitem
  · intro r hr r' hr' hkey ho
    rw [Table.mem_insert, hstored] at hr hr'
    rcases hr with hr | rfl
    · rcases hr' with hr' | rfl
      · exact hs.uniKeys r hr r' hr' hkey ho
      · exact absurd ⟨hkey, ho⟩ (hcross r hr)
    · rcases hr' with hr' | rfl
      · exact absurd ⟨hkey.symm, ho.symm⟩ (hcross r' hr')
      · rfl

theorem AgreesOff.saveArrangement (ha : AgreesOff off s)
    (hold : old ∈ s.purchaseArrangements) (hid : new.id = old.id) :
    AgreesOff (fun slot => off slot ∨ weight slot.1 slot.2 new ≠ weight slot.1 slot.2 old)
      (PurchaseArrangement.save new s) := by
  apply ha.withArrangements
  intro pd _ hnot
  refine ⟨fun h => hnot (Or.inl h), ?_⟩
  have hweight : weight pd.purchaseOrderUnikey pd.skuId new =
      weight pd.purchaseOrderUnikey pd.skuId old := by
    by_contra hne
    exact hnot (Or.inr hne)
  have hsum := effectNum_save hold hid pd.purchaseOrderUnikey pd.skuId
  rw [hweight, sub_add_cancel] at hsum
  exact hsum

theorem weight_ne_zero {sku : Nat} {pa : PurchaseArrangement} (h : weight key sku pa ≠ 0) :
    pa.purchaseOrderUnikey = some key ∧ pa.skuId = sku ∧ pa.status = .effect ∧ pa.num ≠ 0 := by
  unfold weight at h
  split at h
  · rename_i hcond
    exact ⟨hcond.1, hcond.2.1, hcond.2.2, fun hz => h (by rw [hz]; rfl)⟩
  · exact absurd rfl h

end Arrangements

/-! ## One operation -/

structure Settled (s : PurchaseDb) : Prop where
  tidy : s.Tidy
  agrees : s.Agrees

theorem AgreesOff.agrees (ha : AgreesOff off s) (h : ∀ pd ∈ s.purchaseDetails, ¬ off pd.slot) :
    s.Agrees :=
  ha.mono fun pd hpd hoff => h pd hpd hoff

theorem Generated.settled {s' : PurchaseDb} {pa : PurchaseArrangement} {new : PurchaseDetail}
    (hg : Generated off s s' pa new) (hoff : ∀ slot, off slot → slot = new.slot) : s'.Settled where
  tidy := hg.tidy
  agrees := hg.agrees.agrees fun _ _ h => h.2 (hoff _ h.1)

def Joins (s : PurchaseDb) (psi : PackageSkuItem) : Prop :=
  psi.assignStatus = .notAssigned → psi.num ≠ 0 →
    uniKeyTaken s (PurchaseArrangement.ofItem s psi) = false →
      ∀ key, genPurchaseOrderUnikey s psi.skuId = some key →
        PurchaseDetail.find s psi.skuId key = none

theorem find_ne_none {pd : PurchaseDetail} (hpd : pd ∈ s.purchaseDetails) :
    PurchaseDetail.find s pd.skuId pd.purchaseOrderUnikey ≠ none := by
  intro hnone
  exact of_decide_eq_false (Table.first_eq_none.1 hnone pd hpd) ⟨rfl, rfl⟩

theorem Settled.create (h : s.Settled) {psi : PackageSkuItem} (hpsi : psi ∈ s.packageSkuItems)
    (hjoins : s.Joins psi) : ((PurchaseArrangement.create psi).run s).2.Settled := by
  unfold PurchaseArrangement.create
  rw [gets_bind_run, raiseIf_bind_run]
  split
  · exact h
  · rename_i hfree
    have hfree' := Bool.eq_false_iff.2 hfree
    refine ⟨h.tidy.insertArrangement ⟨psi, hpsi, rfl⟩ rfl hfree', ?_⟩
    apply AgreesOff.withArrangements h.agrees
    intro pd hpd _
    refine ⟨id, ?_⟩
    unfold PurchaseArrangement.effectNum
    dsimp only
    rw [Table.sum_insert]
    show _ + weight pd.purchaseOrderUnikey pd.skuId (PurchaseArrangement.ofItem s psi) = _
    rw [add_eq_left]
    by_contra hweight
    obtain ⟨hkey, hsku, heffect, hnum⟩ := weight_ne_zero hweight
    have hkey' : genPurchaseOrderUnikey s psi.skuId = some pd.purchaseOrderUnikey := hkey
    have hsku' : psi.skuId = pd.skuId := hsku
    have hnotAssigned : psi.assignStatus = .notAssigned := by
      by_contra hne
      have hstatus : (PurchaseArrangement.ofItem s psi).status = .cancel := if_neg hne
      rw [hstatus] at heffect
      cases heffect
    have hnone := hjoins hnotAssigned hnum hfree' _ hkey'
    rw [hsku'] at hnone
    exact find_ne_none hpd hnone

def Leaves (s : PurchaseDb) (pa : PurchaseArrangement) : Prop :=
  pa.initialBook = false → pa.status = .effect → pa.num ≠ 0 →
    ∀ key, pa.purchaseOrderUnikey = some key →
      ∀ pd, PurchaseDetail.find s pa.skuId key = some pd →
        pd.isOpen = true ∧ s.OrderOpen key

theorem weight_canceled (key : PurchaseKey) (sku : Nat) (pa : PurchaseArrangement) :
    weight key sku { pa with status := .cancel } = 0 :=
  if_neg fun hcond => by cases hcond.2.2

theorem Settled.cancel (h : s.Settled) {pa : PurchaseArrangement}
    (hpa : pa ∈ s.purchaseArrangements) (hleaves : s.Leaves pa) :
    ((PurchaseArrangement.cancel pa).run s).2.Settled := by
  unfold PurchaseArrangement.cancel
  split
  · exact h
  · rename_i hbook
    rw [modify_bind_run]
    have htidy : (PurchaseArrangement.save { pa with status := .cancel } s).Tidy := by
      refine h.tidy.saveArrangement hpa ?_ ?_ ?_
      · rfl
      · rfl
      · rw [uniKeyTaken_eq_false]
        intro r hr hkey hoid
        rw [h.tidy.uniKeys r hr pa hpa hkey hoid]
    have hagrees : AgreesOff (fun slot => weight slot.1 slot.2 pa ≠ 0)
        (PurchaseArrangement.save { pa with status := .cancel } s) := by
      have hsaved : AgreesOff (fun slot => False ∨
          weight slot.1 slot.2 { pa with status := .cancel } ≠ weight slot.1 slot.2 pa)
            (PurchaseArrangement.save { pa with status := .cancel } s) :=
        AgreesOff.saveArrangement h.agrees hpa rfl
      refine hsaved.mono fun pd _ hoff => ?_
      rcases hoff with hoff | hoff
      · exact hoff.elim
      · rw [weight_canceled] at hoff
        exact hoff.symm
    split
    · rename_i hnone
      refine ⟨htidy, hagrees.agrees ?_⟩
      intro pd _ hweight
      obtain ⟨hkey, _⟩ := weight_ne_zero hweight
      rw [hnone] at hkey
      cases hkey
    · rename_i key hkey
      -- only the detail of the order and the SKU may be off
      have hslot : ∀ slot : Slot, weight slot.1 slot.2 pa ≠ 0 →
          slot = (key, pa.skuId) ∧ pa.status = .effect ∧ pa.num ≠ 0 := by
        intro slot hweight
        obtain ⟨hk, hsku, heffect, hnum⟩ := weight_ne_zero hweight
        exact ⟨Prod.ext (Option.some.inj (hk.symm.trans hkey)) hsku.symm, heffect, hnum⟩
      unfold PurchaseArrangement.cancelDetail
      rw [gets_bind_run]
      have hsame : PurchaseDetail.find (PurchaseArrangement.save { pa with status := .cancel } s)
          pa.skuId key = PurchaseDetail.find s pa.skuId key := rfl
      rw [hsame]
      cases hfind : (PurchaseDetail.find s pa.skuId key).filter PurchaseDetail.isOpen with
      | none =>
        refine ⟨htidy, hagrees.agrees ?_⟩
        intro pd hpd hweight
        obtain ⟨heq, heffect, hnum⟩ := hslot _ hweight
        have hpdkey : pd.purchaseOrderUnikey = key := congrArg Prod.fst heq
        have hpdsku : pd.skuId = pa.skuId := congrArg Prod.snd heq
        obtain ⟨r, hr⟩ := Option.ne_none_iff_exists'.1 (find_ne_none hpd)
        rw [hpdsku, hpdkey] at hr
        have hr' : PurchaseDetail.find s pa.skuId key = some r := hr
        have hopen := (hleaves (Bool.eq_false_iff.2 hbook) heffect hnum key hkey r hr').1
        rw [hr', Option.filter_some, if_pos hopen] at hfind
        cases hfind
      | some pd =>
        obtain ⟨hfound, hopen⟩ := Option.filter_eq_some_iff.1 hfind
        obtain ⟨hpd, hsku, hpdkey⟩ := PurchaseDetail.find_spec hfound
        dsimp only
        rw [gets_bind_run, modify_bind_run, modify_run]
        dsimp only
        have hmem : pd.recount (PurchaseArrangement.save { pa with status := .cancel } s) ∈
            (pd.restat (PurchaseArrangement.save { pa with status := .cancel } s)).purchaseDetails :=
          recount_mem _ hpd
        rw [Table.save_of_mem hmem]
        have hcond : effectNum (PurchaseArrangement.save { pa with status := .cancel } s)
            pd.purchaseOrderUnikey pd.skuId = pd.bookNum ∨
              OrderOpen (PurchaseArrangement.save { pa with status := .cancel } s)
                pd.purchaseOrderUnikey := by
          by_cases hweight : weight pd.purchaseOrderUnikey pd.skuId pa = 0
          · left
            exact (hagrees.detail pd hpd fun hoff => hoff hweight).symm
          · right
            obtain ⟨_, heffect, hnum⟩ := hslot (pd.purchaseOrderUnikey, pd.skuId) hweight
            rw [hpdkey]
            exact (hleaves (Bool.eq_false_iff.2 hbook) heffect hnum key hkey pd hfound).2
        obtain ⟨new, hplaced, hnew, _, _⟩ :=
          restatDetail_placed htidy hagrees hpd rfl rfl rfl (h.agrees.price pd hpd)
            (fun _ => rfl) hcond
        refine ⟨hplaced.tidy, hplaced.agrees.agrees ?_⟩
        rintro r _ ⟨hweight, hne⟩
        apply hne
        rw [(hslot _ hweight).1, hnew, ← hpdkey, ← hsku]
        rfl

/-- An arrangement that leaves a closed detail has to count for nothing there, and the
order it goes to has to take it. -/
def Moves (s : PurchaseDb) (pa : PurchaseArrangement) : Prop :=
  ∀ psi, s.packageSkuItems.get? pa.oid = some psi →
    uniKeyTaken s (pa.resetPurchaseOrder s psi) = false →
      (pa.status = .cancel ∨ pa.num = 0) ∧
        ∀ key, genPurchaseOrderUnikey s psi.skuId = some key →
          s.Placeable key pa.skuId (effectNum s key pa.skuId + pa.num)

def Ordered (s : PurchaseDb) (pa : PurchaseArrangement) (retry : Bool) : Prop :=
  ∀ key, pa.purchaseOrderUnikey = some key →
    match PurchaseDetail.find s pa.skuId key with
    | none => s.Placeable key pa.skuId (effectNum s key pa.skuId)
    | some pd => pd.isOpen = false → retry = true → pa.initialBook = false → s.Moves pa

theorem Settled.setGenOrder (h : s.Settled) (id : Nat) :
    (PurchaseArrangement.setGenOrder id s).Settled :=
  ⟨h.tidy.setGenOrder id, AgreesOff.setGenOrder h.agrees id⟩

theorem setStatusPrepareBook_settled (oid : Nat) :
    Preserves Settled (PurchaseArrangement.setStatusPrepareBook oid) := by
  apply Preserves.getOr_bind
  intro s psi h _
  refine ⟨h.tidy.withItems ?_, AgreesOff.withItems h.agrees _⟩
  intro r hr
  refine ⟨_, Table.mem_update_of_mem hr, ?_⟩
  split <;> rfl

theorem uniKeyTaken_setGenOrder {id : Nat} {pa : PurchaseArrangement}
    (h : uniKeyTaken (PurchaseArrangement.setGenOrder id s) pa = false) :
    uniKeyTaken s pa = false := by
  rw [uniKeyTaken_eq_false] at h ⊢
  intro r hr hkey hoid
  have hmem := Table.mem_update_of_mem (p := fun r : PurchaseArrangement => r.id = id)
    (f := fun r => { r with genOrder := true }) hr
  have hid := h _ hmem
  by_cases heq : r.id = id
  · rw [if_pos (decide_eq_true heq)] at hid
    exact hid hkey hoid
  · rw [if_neg (by simpa using heq)] at hid
    exact hid hkey hoid

theorem Settled.saveOrdered (h : s.Settled)
    (hold : old ∈ s.purchaseArrangements) (hid : new.id = old.id) (hoid : new.oid = old.oid)
    (heffect : new.status = .effect) (hfree : uniKeyTaken s new = false)
    (hzero : ∀ key sku, weight key sku old = 0) (hp : ∀ key, new.purchaseOrderUnikey = some key →
      s.Placeable key new.skuId (effectNum s key new.skuId + new.num)) :
    ((PurchaseArrangement.get new.id >>= fun pa =>
      PurchaseArrangement.generateOrderWith PurchaseArrangement.raiseClosed pa).run
        (PurchaseArrangement.save new s)).2.Settled := by
  have htidy := h.tidy.saveArrangement hold hid hoid hfree
  have hagrees : AgreesOff (fun slot => weight slot.1 slot.2 new ≠ 0)
      (PurchaseArrangement.save new s) := by
    refine (AgreesOff.saveArrangement h.agrees hold hid).mono fun pd _ hoff => ?_
    rcases hoff with hoff | hoff
    · exact hoff.elim
    · rw [hzero] at hoff
      exact hoff
  have hmem : new ∈ (PurchaseArrangement.save new s).purchaseArrangements := by
    have hpk : Row.pk old = Row.pk new := hid.symm
    refine Table.mem_update.2 (Or.inl ⟨old, hold, decide_eq_true hpk, ?_⟩)
    rw [hpk, Row.withPk_pk]
  have hget : (PurchaseArrangement.save new s).purchaseArrangements.get? new.id = some new :=
    Table.get?_eq_some.2 ⟨hmem, rfl⟩
  unfold PurchaseArrangement.get
  rw [getOr_bind_run, hget]
  dsimp only
  cases hkey : new.purchaseOrderUnikey with
  | none =>
    have hnothing : (PurchaseArrangement.generateOrderWith PurchaseArrangement.raiseClosed
        new).run (PurchaseArrangement.save new s) =
          (.ok (), PurchaseArrangement.save new s) := by
      unfold PurchaseArrangement.generateOrderWith
      rw [hkey]
      rfl
    rw [hnothing]
    refine ⟨htidy, hagrees.agrees ?_⟩
    intro pd _ hweight
    obtain ⟨hsome, _⟩ := weight_ne_zero hweight
    rw [hkey] at hsome
    cases hsome
  | some key =>
    have hnum : effectNum (PurchaseArrangement.save new s) key new.skuId =
        effectNum s key new.skuId + new.num := by
      rw [effectNum_save hold hid, hzero, sub_zero]
      congr 1
      exact if_pos ⟨hkey, rfl, heffect⟩
    have hplaceable : (PurchaseArrangement.save new s).Placeable key new.skuId
        (effectNum (PurchaseArrangement.save new s) key new.skuId) := by
      rw [hnum]
      exact hp key hkey
    obtain ⟨s', detail, hrun, hgenerated, hslot, _⟩ :=
      generateOrderWith_generated PurchaseArrangement.raiseClosed htidy hagrees
        (htidy.items new hmem) hkey hplaceable
    rw [hrun]
    apply hgenerated.settled
    intro slot hweight
    obtain ⟨hsome, hsku, _⟩ := weight_ne_zero hweight
    rw [hslot]
    exact Prod.ext (Option.some.inj (hsome.symm.trans hkey)) hsku.symm

theorem Settled.retryOrder (h : s.Settled) {pa row : PurchaseArrangement}
    (hrow : row ∈ s.purchaseArrangements) (hid : row.id = pa.id) (hoid : row.oid = pa.oid)
    (hsku : row.skuId = pa.skuId) (hnum : row.num = pa.num) (hstatus : row.status = pa.status)
    (hmoves : pa.initialBook = false → s.Moves pa) :
    ((PurchaseArrangement.retryOrder pa).run s).2.Settled := by
  unfold PurchaseArrangement.retryOrder
  split
  · exact h
  · rename_i hbook
    have hbook' := Bool.eq_false_iff.2 hbook
    unfold PurchaseArrangement.skuitem
    rw [getOr_bind_run]
    split
    · rename_i psi hpsi
      rw [gets_bind_run, raiseIf_bind_run]
      split
      · exact h
      · rename_i hfree
        obtain ⟨hnothing, hplaceable⟩ := hmoves hbook' psi hpsi (Bool.eq_false_iff.2 hfree)
        rw [modify_bind_run]
        have hreset : pa.resetPurchaseOrder s psi =
            { pa with
              purchaseOrderUnikey := genPurchaseOrderUnikey s psi.skuId
              status := .effect } := if_neg hbook
        rw [hreset] at hfree ⊢
        have hsaved : { s with
            purchaseArrangements := s.purchaseArrangements.update (fun r => r.id = pa.id)
              (PurchaseArrangement.moveTo { pa with
                purchaseOrderUnikey := genPurchaseOrderUnikey s psi.skuId
                status := .effect }) } =
            PurchaseArrangement.save { row with
              purchaseOrderUnikey := genPurchaseOrderUnikey s psi.skuId
              status := .effect } s := by
          unfold PurchaseArrangement.save
          congr 1
          rw [← hid]
          exact Table.update_eq_save hrow _
        rw [hsaved]
        have hzero : ∀ key sku, weight key sku row = 0 := by
          intro key sku
          by_contra hweight
          obtain ⟨_, _, heffect, hne⟩ := weight_ne_zero hweight
          rcases hnothing with hcancel | hz
          · rw [hstatus, hcancel] at heffect
            cases heffect
          · exact hne (hnum.trans hz)
        have hfree' : uniKeyTaken s { row with
            purchaseOrderUnikey := genPurchaseOrderUnikey s psi.skuId
            status := .effect } = false := by
          have hfalse := Bool.eq_false_iff.2 hfree
          rw [uniKeyTaken_eq_false] at hfalse ⊢
          intro r hr hkey ho
          exact (hfalse r hr hkey (ho.trans hoid)).trans hid.symm
        rw [← hid]
        refine h.saveOrdered hrow ?_ ?_ ?_ hfree' hzero ?_
        · rfl
        · rfl
        · rfl
        · intro key hkey
          dsimp only
          rw [hsku, hnum]
          exact hplaceable key hkey
    · exact h

theorem Settled.placeable_find (h : s.Settled) {pd : PurchaseDetail}
    {sku : Nat} (hfind : PurchaseDetail.find s sku key = some pd) (hopen : pd.isOpen = true) :
    s.Placeable key sku (effectNum s key sku) := by
  obtain ⟨hpd, hsku, hkey⟩ := PurchaseDetail.find_spec hfind
  unfold Placeable
  rw [hfind]
  refine ⟨hopen, Or.inl ?_⟩
  rw [← hsku, ← hkey]
  exact (h.agrees.detail pd hpd id).symm

theorem Settled.generateOrder (h : s.Settled) {pa : PurchaseArrangement}
    (hpa : pa ∈ s.purchaseArrangements) {retry : Bool} (hordered : s.Ordered pa retry) :
    ((PurchaseArrangement.generateOrder pa retry).run s).2.Settled := by
  unfold PurchaseArrangement.generateOrder
  cases hkey : pa.purchaseOrderUnikey with
  | none =>
    unfold PurchaseArrangement.generateOrderWith
    rw [hkey]
    exact h
  | some key =>
    have hcase := hordered key hkey
    have hplaced : s.Placeable key pa.skuId (effectNum s key pa.skuId) →
        ((PurchaseArrangement.generateOrderWith
          (if retry then PurchaseArrangement.retryOrder else PurchaseArrangement.raiseClosed)
            pa).run s).2.Settled := by
      intro hp
      obtain ⟨s', new, hrun, hgenerated, _⟩ :=
        generateOrderWith_generated _ h.tidy h.agrees (h.tidy.items pa hpa) hkey hp
      rw [hrun]
      exact hgenerated.settled fun _ hoff => hoff.elim
    cases hfind : PurchaseDetail.find s pa.skuId key with
    | none =>
      rw [hfind] at hcase
      exact hplaced hcase
    | some pd =>
      rw [hfind] at hcase
      by_cases hopen : pd.isOpen = true
      · exact hplaced (h.placeable_find hfind hopen)
      · have hclosed : pd.isOpen = false := Bool.eq_false_iff.2 hopen
        unfold PurchaseArrangement.generateOrderWith
        rw [hkey]
        dsimp only
        rw [modify_bind_run]
        refine Preserves.after ?_ fun _ => setStatusPrepareBook_settled pa.oid
        unfold PurchaseArrangement.orderDetail
        rw [gets_bind_run]
        have hsame : PurchaseDetail.find (PurchaseArrangement.setGenOrder pa.id s) pa.skuId
            key = some pd := hfind
        rw [hsame]
        dsimp only
        rw [if_neg hopen]
        cases retry with
        | false => exact h.setGenOrder pa.id
        | true =>
          have hmem := Table.mem_update_of_mem (p := fun r : PurchaseArrangement =>
            r.id = pa.id) (f := fun r => { r with genOrder := true }) hpa
          rw [if_pos (decide_eq_true rfl)] at hmem
          refine (h.setGenOrder pa.id).retryOrder hmem rfl rfl rfl rfl rfl ?_
          intro hbook psi hpsi hfree
          obtain ⟨hnothing, hplaceable⟩ :=
            hcase hclosed rfl hbook psi hpsi (uniKeyTaken_setGenOrder hfree)
          refine ⟨hnothing, ?_⟩
          intro key' hkey'
          rw [effectNum_setGenOrder]
          exact hplaceable key' hkey'

/-! ### Booking -/

section Booking

variable {po : PurchaseOrder} (thirdPackage : Bool)

theorem exists_of_mem_book_details {pd : PurchaseDetail}
    (h : pd ∈ (po.book thirdPackage s).purchaseDetails) :
    ∃ r ∈ s.purchaseDetails, pd.slot = r.slot ∧ pd.bookNum = r.bookNum ∧
      pd.unitPrice = r.unitPrice ∧ pd.totalPrice = r.totalPrice := by
  obtain ⟨r, hr, rfl⟩ := Table.exists_of_mem_update h
  refine ⟨r, hr, ?_⟩
  split <;> exact ⟨rfl, rfl, rfl, rfl⟩

theorem mem_book_details {r : PurchaseDetail} (h : r ∈ s.purchaseDetails) :
    ∃ pd ∈ (po.book thirdPackage s).purchaseDetails, pd.slot = r.slot := by
  refine ⟨_, Table.mem_update_of_mem h, ?_⟩
  split <;> rfl

theorem exists_of_mem_book_orders {o : PurchaseOrder} (hpo : po ∈ s.purchaseOrders)
    (h : o ∈ (po.book thirdPackage s).purchaseOrders) :
    ∃ o' ∈ s.purchaseOrders, o.uniKey = o'.uniKey ∧ o.bookNum = o'.bookNum ∧
      o.totalPrice = o'.totalPrice ∧ (o.status = .opened → o = o') := by
  rcases Table.mem_save h with rfl | ⟨ho, _⟩
  · exact ⟨po, hpo, rfl, rfl, rfl, fun hopen => by cases hopen⟩
  · exact ⟨o, ho, rfl, rfl, rfl, fun _ => rfl⟩

theorem mem_book_orders (hpo : po ∈ s.purchaseOrders) {o : PurchaseOrder}
    (h : o ∈ s.purchaseOrders) :
    ∃ o' ∈ (po.book thirdPackage s).purchaseOrders, o'.uniKey = o.uniKey := by
  refine ⟨_, Table.mem_update_of_mem h, ?_⟩
  split
  · rename_i hid
    rw [Table.pk_inj h hpo (of_decide_eq_true hid)]
    rfl
  · rfl

theorem book_detailSum (key : PurchaseKey) {column : PurchaseDetail → Int}
    (hcolumn : ∀ pd : PurchaseDetail, column { pd with status := .booked } = column pd) :
    detailSum (po.book thirdPackage s) key column = detailSum s key column := by
  unfold PurchaseOrder.book PurchaseOrder.detailSum
  dsimp only
  rw [Table.sum_update]
  apply Table.sum_congr
  intro r _
  by_cases hr : r.purchaseOrderUnikey = po.uniKey
  · rw [if_pos (decide_eq_true hr)]
    show (if r.purchaseOrderUnikey = key then column { r with status := .booked } else 0) = _
    rw [hcolumn]
  · rw [if_neg (by simpa using hr)]

theorem Tidy.book (hs : s.Tidy) (hpo : po ∈ s.purchaseOrders) :
    (po.book thirdPackage s).Tidy where
  orders := by
    have hmap : (po.book thirdPackage s).purchaseOrders.rows.map PurchaseOrder.uniKey =
        s.purchaseOrders.rows.map PurchaseOrder.uniKey := by
      apply Table.map_rows_update
      intro r hr hid
      rw [Table.pk_inj hr hpo (of_decide_eq_true hid)]
      rfl
    rw [hmap]
    exact hs.orders
  details := by
    have hmap : (po.book thirdPackage s).purchaseDetails.rows.map PurchaseDetail.slot =
        s.purchaseDetails.rows.map PurchaseDetail.slot :=
      Table.map_rows_update fun _ _ _ => rfl
    rw [hmap]
    exact hs.details
  lists := hs.lists
  orderDetails := hs.orderDetails
  draft := hs.draft
  ordered pd hpd := by
    obtain ⟨r, hr, hslot, _⟩ := exists_of_mem_book_details thirdPackage hpd
    obtain ⟨o, ho, hkey⟩ := hs.ordered r hr
    obtain ⟨o', ho', hkey'⟩ := mem_book_orders thirdPackage hpo ho
    exact ⟨o', ho', hkey'.trans (hkey.trans (congrArg Prod.fst hslot).symm)⟩
  listed o ho := by
    obtain ⟨o', ho', hkey, _⟩ := exists_of_mem_book_orders thirdPackage hpo ho
    rw [hkey]
    exact hs.listed o' ho'
  mirrored slot := by
    refine Iff.trans ?_ (hs.mirrored slot)
    constructor
    · rintro ⟨pd, hpd, rfl⟩
      obtain ⟨r, hr, hslot, _⟩ := exists_of_mem_book_details thirdPackage hpd
      exact ⟨r, hr, hslot.symm⟩
    · rintro ⟨r, hr, rfl⟩
      exact mem_book_details thirdPackage hr
  unit pd hpd := by
    obtain ⟨r, hr, hslot, _, hunit, _⟩ := exists_of_mem_book_details thirdPackage hpd
    have hsku : pd.skuId = r.skuId := congrArg Prod.snd hslot
    rw [hunit, hsku]
    exact hs.unit r hr
  items pa hpa := by
    obtain ⟨r, hr, rfl⟩ := (mem_book thirdPackage).1 hpa
    obtain ⟨psi, hpsi, hid⟩ := hs.items r hr
    refine ⟨_, Table.mem_update_of_mem hpsi, ?_⟩
    have hoid : (PurchaseOrder.setBooked po.uniKey r).oid = r.oid := by
      unfold PurchaseOrder.setBooked
      split <;> rfl
    show _ = (PurchaseOrder.setBooked po.uniKey r).oid
    rw [hoid, ← hid]
    split <;> rfl
  uniKeys := by
    have hoid : ∀ r, (PurchaseOrder.setBooked po.uniKey r).oid = r.oid := by
      intro r
      unfold PurchaseOrder.setBooked
      split <;> rfl
    exact (hs.updateArrangements (setBooked_purchaseOrderUnikey po.uniKey) hoid).uniKeys

theorem Settled.book (h : s.Settled) (hpo : po ∈ s.purchaseOrders) :
    (po.book thirdPackage s).Settled where
  tidy := h.tidy.book thirdPackage hpo
  agrees :=
    { detail := by
        intro pd hpd _
        obtain ⟨r, hr, hslot, hbook, _⟩ := exists_of_mem_book_details thirdPackage hpd
        have hkey : pd.purchaseOrderUnikey = r.purchaseOrderUnikey := congrArg Prod.fst hslot
        have hsku : pd.skuId = r.skuId := congrArg Prod.snd hslot
        rw [book_effectNum, hbook, hkey, hsku]
        exact h.agrees.detail r hr id
      price := by
        intro pd hpd
        obtain ⟨r, hr, _, hbook, hunit, htotal⟩ := exists_of_mem_book_details thirdPackage hpd
        rw [htotal, hbook, hunit]
        exact h.agrees.price r hr
      order := by
        intro o ho
        obtain ⟨o', ho', hkey, hbook, htotal, _⟩ :=
          exists_of_mem_book_orders thirdPackage hpo ho
        unfold OrderAgrees
        rw [book_detailSum thirdPackage _ fun _ => rfl,
          book_detailSum thirdPackage _ fun _ => rfl, hkey, hbook, htotal]
        exact h.agrees.order o' ho'
      list := by
        intro o ho hopen
        obtain ⟨o', ho', _, _, _, hsame⟩ := exists_of_mem_book_orders thirdPackage hpo ho
        rw [hsame hopen]
        rw [hsame hopen] at hopen
        exact h.agrees.list o' ho' hopen
      quantity := by
        intro o ho hopen pd hpd hkey od hod hslot
        obtain ⟨o', ho', _, _, _, hsame⟩ := exists_of_mem_book_orders thirdPackage hpo ho
        obtain ⟨r, hr, hslot', hbook, _⟩ := exists_of_mem_book_details thirdPackage hpd
        have heq := hsame hopen
        rw [heq] at hopen hkey
        rw [hbook]
        exact h.agrees.quantity o' ho' hopen r hr
          ((congrArg Prod.fst hslot').symm.trans hkey) od hod (hslot.trans hslot') }

end Booking

theorem Settled.countable (h : s.Settled) (key : PurchaseKey) : Countable s key where
  opened po hpo hkey _ _ := by
    rw [← hkey]
    exact (h.agrees.order po hpo).2
  closed po hpo _ _ := h.agrees.order po hpo
  new hnone := by
    unfold PurchaseOrder.detailSum
    apply Table.sum_eq_zero
    intro pd hpd
    rw [if_neg]
    intro hkey
    obtain ⟨po, hpo, heq⟩ := h.tidy.ordered pd hpd
    exact hnone po hpo (heq.trans hkey)
  listed po hpo hkey := by
    obtain ⟨ol, hol, heq⟩ := h.tidy.listed po hpo
    exact ⟨ol, hol, heq.trans hkey⟩

theorem Settled.restat (h : s.Settled) (key : PurchaseKey) :
    (PurchaseOrder.restat key s).Settled := by
  have hr := restat_restated h.tidy.orders h.tidy.lists h.tidy.draft (h.countable key)
  generalize PurchaseOrder.restat key s = s' at hr ⊢
  have hslots : s'.orderDetails.rows.map OrderDetail.slot =
      s.orderDetails.rows.map OrderDetail.slot := by
    have hview := congrArg (List.map Prod.fst) hr.view
    rw [List.map_map, List.map_map] at hview
    exact hview
  have hviews : ∀ {t t' : PurchaseDb}, t'.orderDetails.rows.map OrderDetail.view =
      t.orderDetails.rows.map OrderDetail.view → ∀ od ∈ t'.orderDetails,
        ∃ od' ∈ t.orderDetails, od'.slot = od.slot ∧ od'.buyQuantity = od.buyQuantity := by
    intro t t' hview od hod
    have hin : od.view ∈ t.orderDetails.rows.map OrderDetail.view := by
      rw [← hview]
      exact List.mem_map_of_mem hod
    obtain ⟨od', hod', heq⟩ := List.mem_map.1 hin
    exact ⟨od', hod', congrArg Prod.fst heq, congrArg Prod.snd heq⟩
  refine ⟨?_, ?_⟩
  · refine
      { orders := hr.orders
        details := by rw [hr.details]; exact h.tidy.details
        lists := hr.lists
        orderDetails := by rw [hslots]; exact h.tidy.orderDetails
        draft := hr.draft
        ordered := ?_
        listed := ?_
        mirrored := ?_
        unit := by rw [hr.details, hr.costs]; exact h.tidy.unit
        items := by rw [hr.arrangements, hr.items]; exact h.tidy.items
        uniKeys := by rw [hr.arrangements]; exact h.tidy.uniKeys }
    · intro pd hpd
      rw [hr.details] at hpd
      obtain ⟨po, hpo, heq⟩ := h.tidy.ordered pd hpd
      obtain ⟨po', hpo', heq', _⟩ := hr.kept po hpo
      exact ⟨po', hpo', heq'.trans heq⟩
    · intro po hpo
      by_cases hkey : po.uniKey = key
      · rw [hkey]
        exact hr.listed
      · obtain ⟨ol, hol, heq⟩ := h.tidy.listed po (hr.other po hpo hkey)
        obtain ⟨ol', hol', heq'⟩ := hr.listsKept ol hol
        exact ⟨ol', hol', heq'.trans heq⟩
    · intro slot
      rw [hr.details]
      refine (h.tidy.mirrored slot).trans ?_
      constructor
      · rintro ⟨od, hod, rfl⟩
        obtain ⟨od', hod', heq, _⟩ := hviews hr.view.symm od hod
        exact ⟨od', hod', heq⟩
      · rintro ⟨od, hod, rfl⟩
        obtain ⟨od', hod', heq, _⟩ := hviews hr.view od hod
        exact ⟨od', hod', heq⟩
  · refine ⟨?_, ?_, ?_, ?_, ?_⟩
    · intro pd hpd hoff
      rw [hr.details] at hpd
      have hnum : effectNum s' pd.purchaseOrderUnikey pd.skuId =
          effectNum s pd.purchaseOrderUnikey pd.skuId := effectNum_congr hr.arrangements _ _
      rw [hnum]
      exact h.agrees.detail pd hpd hoff
    · rw [hr.details]
      exact h.agrees.price
    · intro po hpo
      by_cases hkey : po.uniKey = key
      · exact (hr.counted po hpo hkey).1
      · unfold OrderAgrees
        rw [detailSum_congr hr.details, detailSum_congr hr.details]
        exact h.agrees.order po (hr.other po hpo hkey)
    · intro po hpo
      by_cases hkey : po.uniKey = key
      · exact (hr.counted po hpo hkey).2
      · intro hopen ol hol heq
        exact h.agrees.list po (hr.other po hpo hkey) hopen ol
          (hr.otherLists ol hol (heq ▸ hkey)) heq
    · intro po hpo hopen pd hpd hkey od hod hslot
      rw [hr.details] at hpd
      obtain ⟨od', hod', hslot', hquantity⟩ := hviews hr.view od hod
      obtain ⟨o, ho, hokey⟩ := h.tidy.ordered pd hpd
      obtain ⟨o', ho', hokey', hstatus⟩ := hr.kept o ho
      have heq : o' = po := List.inj_on_of_nodup_map hr.orders ho' hpo
        (hokey'.trans (hokey.trans hkey))
      rw [heq] at hstatus
      rw [← hquantity]
      exact h.agrees.quantity o ho (hstatus.symm.trans hopen) pd hpd hokey.symm od' hod'
        (hslot'.trans hslot)

/-! ### Purchasing again -/

section Repurchase

/-- Another order of the supplier takes an arrangement that is not booked, while the order
it leaves can still be counted. -/
def RoundOk (s : PurchaseDb) (pa : PurchaseArrangement) : Prop :=
  pa.initialBook = false → ∀ psi, s.packageSkuItems.get? pa.oid = some psi →
    ∀ key, pa.purchaseOrderUnikey = some key → genPurchaseOrderUnikey s psi.skuId ≠ some key →
      s.OrderOpen key ∧ uniKeyTaken s (pa.resetPurchaseOrder s psi) = false ∧
        ∀ key', genPurchaseOrderUnikey s psi.skuId = some key' →
          s.Placeable key' pa.skuId (effectNum s key' pa.skuId + pa.num)

structure Between (pd : PurchaseDetail) (s : PurchaseDb) : Prop where
  tidy : s.Tidy
  agrees : AgreesOff (fun slot => slot = pd.slot) s
  row : ∃ row ∈ s.purchaseDetails, row.id = pd.id ∧ row.slot = pd.slot ∧
    row.unitPrice = pd.unitPrice ∧ row.status = .opened ∧ effectNum s pd.purchaseOrderUnikey pd.skuId ≤ row.bookNum ∧
      row.bookNum ≤ pd.bookNum
  counted : s.OrderOpen pd.purchaseOrderUnikey ∨ s.Agrees

variable {pd : PurchaseDetail} {pa : PurchaseArrangement}

theorem find_of_mem (hs : s.Tidy) (hrow : row ∈ s.purchaseDetails) :
    PurchaseDetail.find s row.skuId row.purchaseOrderUnikey = some row := by
  obtain ⟨r, hr⟩ := Option.ne_none_iff_exists'.1 (find_ne_none hrow)
  obtain ⟨hmem, hsku, hkey⟩ := PurchaseDetail.find_spec hr
  rw [hr, List.inj_on_of_nodup_map hs.details hmem hrow (Prod.ext hkey hsku)]

theorem Between.stay (h : Between pd s) (hpa : pa ∈ s.purchaseArrangements)
    (hkey : pa.purchaseOrderUnikey = some pd.purchaseOrderUnikey) (hsku : pa.skuId = pd.skuId) :
    ∃ s', (PurchaseArrangement.generateOrder pa false).run s = (.ok (), s') ∧
      Between pd s' ∧ s'.purchaseArrangements =
        (PurchaseArrangement.setGenOrder pa.id s).purchaseArrangements := by
  obtain ⟨row, hrow, hid, hslot, hunit, hstatus, hle, hle'⟩ := h.row
  have hrkey : row.purchaseOrderUnikey = pd.purchaseOrderUnikey := congrArg Prod.fst hslot
  have hrsku : row.skuId = pd.skuId := congrArg Prod.snd hslot
  have hfind := find_of_mem h.tidy hrow
  rw [hrkey, hrsku, ← hsku] at hfind
  have hplaceable : s.Placeable pd.purchaseOrderUnikey pa.skuId
      (effectNum s pd.purchaseOrderUnikey pa.skuId) := by
    unfold Placeable
    rw [hfind]
    refine ⟨decide_eq_true hstatus, ?_⟩
    rcases h.counted with hopen | hagrees
    · exact Or.inr hopen
    · left
      have hnum := hagrees.detail row hrow id
      rw [hrkey, hrsku] at hnum
      rw [hsku, hnum]
  obtain ⟨s', new, hrun, hg, hnew, hopen, hnid⟩ :=
    generateOrderWith_generated PurchaseArrangement.raiseClosed h.tidy h.agrees
      (h.tidy.items pa hpa) hkey hplaceable
  have hnslot : new.slot = pd.slot := by
    rw [hnew, hsku]
    rfl
  have hsettled : s'.Settled := hg.settled fun slot heq => heq.trans hnslot.symm
  have hnmem : new ∈ s'.purchaseDetails := (hg.mem new).2 (Or.inl rfl)
  have hnum : effectNum s' pd.purchaseOrderUnikey pd.skuId =
      effectNum s pd.purchaseOrderUnikey pd.skuId := by
    have hset := effectNum_congr hg.arrangements pd.purchaseOrderUnikey pd.skuId
    rw [hset, effectNum_setGenOrder]
  have hnsku : new.skuId = pd.skuId := congrArg Prod.snd hnslot
  have hnbook : new.bookNum = effectNum s' pd.purchaseOrderUnikey pd.skuId := by
    have hnkey : new.purchaseOrderUnikey = pd.purchaseOrderUnikey := congrArg Prod.fst hnslot
    rw [← hnkey, ← hnsku]
    exact hsettled.agrees.detail new hnmem id
  have hnunit : new.unitPrice = pd.unitPrice := by
    rw [hg.tidy.unit new hnmem, hg.costs, hnsku, ← hunit, h.tidy.unit row hrow, hrsku]
  refine ⟨s', hrun, ⟨hg.tidy, hsettled.agrees.mono fun _ _ hoff => hoff.elim, ?_,
    Or.inr hsettled.agrees⟩, hg.arrangements⟩
  refine ⟨new, hnmem, (hnid row hfind).trans hid, hnslot, hnunit, hopen, hnbook.ge, ?_⟩
  rw [hnbook, hnum]
  exact hle.trans hle'

theorem Between.leave (h : Between pd s) (hpa : pa ∈ s.purchaseArrangements)
    (hkey : pa.purchaseOrderUnikey = some pd.purchaseOrderUnikey) (hsku : pa.skuId = pd.skuId)
    (hopen : s.OrderOpen pd.purchaseOrderUnikey) (moved : PurchaseArrangement)
    (hid : moved.id = pa.id) (hoid : moved.oid = pa.oid) (hmsku : moved.skuId = pa.skuId)
    (hnum : moved.num = pa.num) (heffect : moved.status = .effect)
    (hne : moved.purchaseOrderUnikey ≠ some pd.purchaseOrderUnikey)
    (hfree : uniKeyTaken s moved = false)
    (hp : ∀ key', moved.purchaseOrderUnikey = some key' →
      s.Placeable key' pa.skuId (effectNum s key' pa.skuId + pa.num)) :
    ∃ s', (PurchaseArrangement.generateOrder moved false).run
        (PurchaseArrangement.save moved s) = (.ok (), s') ∧ Between pd s' ∧
      (s'.purchaseArrangements = (PurchaseArrangement.save moved s).purchaseArrangements ∨
        s'.purchaseArrangements = (PurchaseArrangement.setGenOrder moved.id
          (PurchaseArrangement.save moved s)).purchaseArrangements) := by
  obtain ⟨row, hrow, hrid, hslot, hunit, hstatus, hle, hle'⟩ := h.row
  have htidy := h.tidy.saveArrangement hpa hid hoid hfree
  have hpaslot : ∀ slot : Slot, weight slot.1 slot.2 pa ≠ 0 → slot = pd.slot := by
    intro slot hweight
    obtain ⟨hk, hs', _⟩ := weight_ne_zero hweight
    exact Prod.ext (Option.some.inj (hk.symm.trans hkey)) (hs'.symm.trans hsku)
  have hagrees : AgreesOff (fun slot => slot = pd.slot ∨ weight slot.1 slot.2 moved ≠ 0)
      (PurchaseArrangement.save moved s) := by
    refine (h.agrees.saveArrangement hpa hid).mono fun r _ hoff => ?_
    rcases hoff with hoff | hoff
    · exact Or.inl hoff
    · by_cases hzero : weight r.slot.1 r.slot.2 moved = 0
      · rw [hzero] at hoff
        exact Or.inl (hpaslot _ hoff.symm)
      · exact Or.inr hzero
  have hleaves : effectNum (PurchaseArrangement.save moved s) pd.purchaseOrderUnikey pd.skuId ≤
      effectNum s pd.purchaseOrderUnikey pd.skuId := by
    have hzero : weight pd.purchaseOrderUnikey pd.skuId moved = 0 :=
      if_neg fun hcond => hne hcond.1
    have hpos : 0 ≤ weight pd.purchaseOrderUnikey pd.skuId pa := by
      unfold weight
      split
      · exact Int.natCast_nonneg _
      · exact le_refl _
    rw [effectNum_save hpa hid, hzero]
    omega
  cases hmkey : moved.purchaseOrderUnikey with
  | none =>
    refine ⟨_, ?_, ⟨htidy, ?_, ⟨row, hrow, hrid, hslot, hunit, hstatus, hleaves.trans hle, hle'⟩,
      Or.inl hopen⟩, Or.inl rfl⟩
    · unfold PurchaseArrangement.generateOrder PurchaseArrangement.generateOrderWith
      rw [hmkey]
      rfl
    · refine hagrees.mono fun r _ hoff => hoff.resolve_right ?_
      intro hweight
      obtain ⟨hk, _⟩ := weight_ne_zero hweight
      rw [hmkey] at hk
      cases hk
  | some key' =>
    have hne' : key' ≠ pd.purchaseOrderUnikey := fun heq => hne (by rw [hmkey, heq])
    have hjoins : effectNum (PurchaseArrangement.save moved s) key' moved.skuId =
        effectNum s key' pa.skuId + pa.num := by
      have hzero : weight key' moved.skuId pa = 0 := by
        by_contra hweight
        obtain ⟨hk, _⟩ := weight_ne_zero hweight
        exact hne' (Option.some.inj (hk.symm.trans hkey))
      have hcounts : weight key' moved.skuId moved = moved.num :=
        if_pos ⟨hmkey, rfl, heffect⟩
      rw [effectNum_save hpa hid, hzero, hcounts, sub_zero, hmsku, hnum]
    have hplaceable : (PurchaseArrangement.save moved s).Placeable key' moved.skuId
        (effectNum (PurchaseArrangement.save moved s) key' moved.skuId) := by
      rw [hjoins, hmsku]
      exact hp key' hmkey
    have hitem : ∃ psi ∈ (PurchaseArrangement.save moved s).packageSkuItems,
        psi.id = moved.oid := by
      rw [hoid]
      exact h.tidy.items pa hpa
    obtain ⟨s', new, hrun, hg, hnew, _, _⟩ :=
      generateOrderWith_generated PurchaseArrangement.raiseClosed htidy hagrees hitem hmkey
        hplaceable
    have hnum' : effectNum s' pd.purchaseOrderUnikey pd.skuId =
        effectNum (PurchaseArrangement.save moved s) pd.purchaseOrderUnikey pd.skuId := by
      have hset := effectNum_congr hg.arrangements pd.purchaseOrderUnikey pd.skuId
      rw [hset, effectNum_setGenOrder]
    have hkeep : row.slot ≠ new.slot := by
      rw [hslot, hnew]
      exact fun heq => hne' (congrArg Prod.fst heq).symm
    refine ⟨s', hrun, ⟨hg.tidy, ?_, ?_, Or.inl ?_⟩, Or.inr hg.arrangements⟩
    · refine hg.agrees.mono fun r _ hoff => hoff.1.resolve_right ?_
      intro hweight
      obtain ⟨hk, hs', _⟩ := weight_ne_zero hweight
      apply hoff.2
      rw [hnew]
      exact Prod.ext (Option.some.inj (hk.symm.trans hmkey)) hs'.symm
    · refine ⟨row, (hg.mem row).2 (Or.inr ⟨hrow, hkeep⟩), hrid, hslot, hunit, hstatus, ?_, hle'⟩
      rw [hnum']
      exact hleaves.trans hle
    · obtain ⟨po, hpo, hpokey, hpostatus⟩ := hopen
      obtain ⟨po', hpo', heq, hsame⟩ := hg.kept po hpo
      exact ⟨po', hpo', heq.trans hpokey, hsame.trans hpostatus⟩

theorem repurchaseOne_between (h : Between pd s) (hpa : pa ∈ s.purchaseArrangements)
    (hkey : pa.purchaseOrderUnikey = some pd.purchaseOrderUnikey) (hsku : pa.skuId = pd.skuId)
    (heffect : pa.status = .effect) (hround : s.RoundOk pa) :
    ∃ s', (PurchaseOrder.repurchaseOne pa).run s = (.ok (), s') ∧ Between pd s' ∧
      ∀ r ∈ s.purchaseArrangements, r.id ≠ pa.id → r ∈ s'.purchaseArrangements := by
  have hset : ∀ {t : PurchaseDb} {r : PurchaseArrangement}, r ∈ t.purchaseArrangements →
      r.id ≠ pa.id → r ∈ (PurchaseArrangement.setGenOrder pa.id t).purchaseArrangements :=
    fun hr hne => Table.mem_update.2 (Or.inr ⟨hr, decide_eq_false hne⟩)
  -- the arrangement is saved as it is
  have hstay : ∃ s', (do
      let taken ← gets fun s => uniKeyTaken s pa
      raiseIf (taken = true) Exn.integrityError
      modify pa.save
      pa.generateOrder false : PurchaseTx Unit).run s = (.ok (), s') ∧ Between pd s' ∧
        ∀ r ∈ s.purchaseArrangements, r.id ≠ pa.id → r ∈ s'.purchaseArrangements := by
    have hfree : uniKeyTaken s pa = false := by
      rw [uniKeyTaken_eq_false]
      intro r hr hk ho
      rw [h.tidy.uniKeys r hr pa hpa hk ho]
    have hsaved : PurchaseArrangement.save pa s = s := by
      unfold PurchaseArrangement.save
      rw [Table.save_of_mem hpa]
    obtain ⟨s', hrun, hbetween, harr⟩ := h.stay hpa hkey hsku
    refine ⟨s', ?_, hbetween, ?_⟩
    · rw [gets_bind_run, hfree, raiseIf_bind_run, if_neg (by decide), modify_bind_run, hsaved]
      exact hrun
    · intro r hr hne
      rw [harr]
      exact hset hr hne
  unfold PurchaseOrder.repurchaseOne
  by_cases hbook : pa.initialBook = true
  · rw [if_pos hbook, pure_bind_run]
    exact hstay
  · have hbook' := Bool.eq_false_iff.2 hbook
    obtain ⟨psi, hpsi⟩ := skuitem_of_mem (h.tidy.items pa hpa)
    rw [if_neg hbook]
    unfold PurchaseArrangement.skuitem
    rw [getOr_bind_run, hpsi]
    dsimp only
    rw [gets_bind_run]
    have hreset : pa.resetPurchaseOrder s psi = { pa with
        purchaseOrderUnikey := genPurchaseOrderUnikey s psi.skuId, status := .effect } :=
      if_neg hbook
    by_cases hsame : genPurchaseOrderUnikey s psi.skuId = some pd.purchaseOrderUnikey
    · have heq : pa.resetPurchaseOrder s psi = pa := by
        rw [hreset, hsame, ← hkey, ← heffect]
      rw [heq]
      exact hstay
    · obtain ⟨hopen, hfree, hp⟩ := hround hbook' psi hpsi _ hkey hsame
      rw [gets_bind_run, hfree, raiseIf_bind_run, if_neg (by decide), modify_bind_run]
      rw [hreset] at hfree ⊢
      obtain ⟨s', hrun, hbetween, harr⟩ :=
        h.leave hpa hkey hsku hopen { pa with
          purchaseOrderUnikey := genPurchaseOrderUnikey s psi.skuId
          status := .effect } rfl rfl rfl rfl rfl hsame hfree hp
      refine ⟨s', hrun, hbetween, ?_⟩
      intro r hr hne
      have hother : r ∈ (PurchaseArrangement.save { pa with
          purchaseOrderUnikey := genPurchaseOrderUnikey s psi.skuId
          status := .effect } s).purchaseArrangements :=
        Table.mem_update.2 (Or.inr ⟨hr, decide_eq_false hne⟩)
      rcases harr with harr | harr
      · rw [harr]
        exact hother
      · rw [harr]
        exact hset hother hne

/-- The rounds of `repurchase`. -/
def round (pa : PurchaseArrangement) (s : PurchaseDb) : PurchaseDb :=
  ((PurchaseOrder.repurchaseOne pa).run s).2

theorem rounds_between :
    ∀ (arrangements : List PurchaseArrangement) (s : PurchaseDb), Between pd s →
      (arrangements.map PurchaseArrangement.id).Nodup →
      (∀ pa ∈ arrangements, pa ∈ s.purchaseArrangements ∧
        pa.purchaseOrderUnikey = some pd.purchaseOrderUnikey ∧ pa.skuId = pd.skuId ∧
          pa.status = .effect) →
      Guarded round RoundOk arrangements s →
      ∃ s', (forEach arrangements PurchaseOrder.repurchaseOne).run s = (.ok (), s') ∧
        Between pd s' := by
  intro arrangements
  induction arrangements with
  | nil =>
    intro s h _ _ _
    exact ⟨s, rfl, h⟩
  | cons pa arrangements ih =>
    rintro s h hnodup hall ⟨hround, hrest⟩
    rw [List.map_cons, List.nodup_cons] at hnodup
    obtain ⟨hpa, hkey, hsku, heffect⟩ := hall pa (List.mem_cons_self ..)
    obtain ⟨s₁, hrun, hbetween, hothers⟩ :=
      repurchaseOne_between h hpa hkey hsku heffect hround
    have hstate : round pa s = s₁ := by
      unfold round
      rw [hrun]
    rw [hstate] at hrest
    rw [forEach_cons, bind_ok hrun]
    apply ih s₁ hbetween hnodup.2 _ hrest
    intro r hr
    obtain ⟨hmem, hfacts⟩ := hall r (List.mem_cons_of_mem _ hr)
    refine ⟨hothers r hmem ?_, hfacts⟩
    intro hid
    exact hnodup.1 (hid ▸ List.mem_map_of_mem hr)

theorem Settled.repurchase (h : s.Settled) (sku : Nat)
    (hrounds : ∀ pd, PurchaseOrder.repurchased s sku = some pd →
      Guarded round RoundOk (PurchaseOrder.arrangementsOf s pd) s) :
    ((PurchaseOrder.repurchase sku).run s).2.Settled := by
  unfold PurchaseOrder.repurchase
  rw [gets_bind_run]
  cases hfirst : PurchaseOrder.repurchased s sku with
  | none => exact h
  | some pd =>
    have hpd := Table.mem_of_first hfirst
    have hspec := Table.first_spec hfirst
    have hopen : pd.status = .opened := (of_decide_eq_true hspec).1
    obtain ⟨po, hpo⟩ : ∃ po, (s.purchaseOrders.first fun po =>
        po.uniKey = pd.purchaseOrderUnikey) = some po := by
      obtain ⟨o, ho, hkey⟩ := h.tidy.ordered pd hpd
      apply Option.ne_none_iff_exists'.1
      intro hnone
      exact of_decide_eq_false (Table.first_eq_none.1 hnone o ho) hkey
    have hagrees := h.agrees.detail pd hpd id
    have hstart : Between pd s :=
      ⟨h.tidy, h.agrees.mono fun _ _ hoff => hoff.elim,
        ⟨pd, hpd, rfl, rfl, rfl, hopen, hagrees.ge, le_refl _⟩, Or.inr h.agrees⟩
    have hnodup : ((PurchaseOrder.arrangementsOf s pd).map PurchaseArrangement.id).Nodup := by
      have hall : (s.purchaseArrangements.rows.map PurchaseArrangement.id).Nodup :=
        s.purchaseArrangements.sorted.imp ne_of_lt
      exact hall.sublist (List.filter_sublist.map _)
    have hall : ∀ pa ∈ PurchaseOrder.arrangementsOf s pd, pa ∈ s.purchaseArrangements ∧
        pa.purchaseOrderUnikey = some pd.purchaseOrderUnikey ∧ pa.skuId = pd.skuId ∧
          pa.status = .effect := by
      intro pa hpa
      obtain ⟨hmem, hcond⟩ := List.mem_filter.1 hpa
      obtain ⟨hkey, hsku, heffect, _⟩ := of_decide_eq_true hcond
      exact ⟨hmem, hkey, hsku, heffect⟩
    obtain ⟨s', hrun, hend⟩ := rounds_between _ s hstart hnodup hall (hrounds pd hfirst)
    dsimp only
    rw [getOr_bind_run, hpo]
    dsimp only
    rw [gets_bind_run, bind_ok hrun, modify_run]
    obtain ⟨row, hrow, hid, hslot, hunit, _, hle, hle'⟩ := hend.row
    have hrkey : row.purchaseOrderUnikey = pd.purchaseOrderUnikey := congrArg Prod.fst hslot
    have hrsku : row.skuId = pd.skuId := congrArg Prod.snd hslot
    have hcond : effectNum s' row.purchaseOrderUnikey row.skuId = row.bookNum ∨
        s'.OrderOpen row.purchaseOrderUnikey := by
      rw [hrkey]
      rcases hend.counted with hcounted | hcounted
      · exact Or.inr hcounted
      · left
        have hnum := hcounted.detail row hrow id
        rw [hrkey] at hnum
        exact hnum.symm
    have hold : pd.bookNum = effectNum s' row.purchaseOrderUnikey row.skuId →
        row.bookNum = pd.bookNum := by
      intro heq
      rw [hrkey, hrsku] at heq
      omega
    obtain ⟨new, hplaced, hnew, _, _⟩ :=
      restatDetail_placed hend.tidy hend.agrees hrow hid.symm hslot.symm hunit.symm
        (h.agrees.price pd hpd) hold hcond
    refine ⟨hplaced.tidy, hplaced.agrees.agrees ?_⟩
    rintro r _ ⟨hoff, hne⟩
    exact hne (hoff.trans (hslot.symm.trans hnew.symm))

end Repurchase

end PurchaseDb

/-! ## Runs -/

/-- The operations on purchases, with the recount of an order and a second purchase of a
SKU among them. -/
inductive TotalsOp where
  | purchase (op : PurchaseOp)
  | restat (key : PurchaseKey)
  | repurchase (sku : Nat)
  deriving DecidableEq, Repr

namespace TotalsOp

def exec (op : TotalsOp) (s : PurchaseDb) : PurchaseDb :=
  match op with
  | purchase op => op.exec s
  | restat key => PurchaseOrder.restat key s
  | repurchase sku => ((PurchaseOrder.repurchase sku).run s).2

def Followed (s : PurchaseDb) (op : TotalsOp) : Prop :=
  match op with
  | purchase (.create psi) => ∀ row, s.packageSkuItems.get? psi = some row → s.Joins row
  | purchase (.task pa) => ∀ row, s.purchaseArrangements.get? pa = some row →
      s.Ordered row false
  | purchase (.generateOrder pa retry) => ∀ row, s.purchaseArrangements.get? pa = some row →
      s.Ordered row retry
  | purchase (.book _ _) => True
  | purchase (.cancel pa) => ∀ row, s.purchaseArrangements.get? pa = some row → s.Leaves row
  | restat _ => True
  | repurchase sku => ∀ pd, PurchaseOrder.repurchased s sku = some pd →
      Guarded PurchaseDb.round PurchaseDb.RoundOk (PurchaseOrder.arrangementsOf s pd) s

variable {s : PurchaseDb}

theorem atomic_settled {m : PurchaseTx Unit} (h : s.Settled) (hm : (m.run s).2.Settled) :
    ((atomic m).run s).2.Settled := by
  rcases atomic_cases m s with ⟨_, s', hrun, hatomic⟩ | hrolled
  · rw [hatomic]
    rw [hrun] at hm
    exact hm
  · rw [hrolled]
    exact h

theorem get_settled {id : Nat} {method : PurchaseArrangement → PurchaseTx Unit} (h : s.Settled)
    (hmethod : ∀ pa, s.purchaseArrangements.get? id = some pa →
      ((method pa).run s).2.Settled) :
    ((PurchaseArrangement.get id >>= method).run s).2.Settled := by
  unfold PurchaseArrangement.get
  rw [getOr_bind_run]
  split
  · rename_i pa hget
    exact hmethod pa hget
  · exact h

theorem exec_settled (op : TotalsOp) (h : s.Settled) (hop : op.Followed s) :
    (op.exec s).Settled := by
  cases op with
  | purchase op =>
    cases op with
    | create psi =>
      unfold exec PurchaseOp.exec PurchaseArrangement.skuitem
      dsimp only
      rw [getOr_bind_run]
      split
      · rename_i row hget
        exact h.create (Table.get?_eq_some.1 hget).1 (hop row hget)
      · exact h
    | task pa =>
      apply atomic_settled h
      apply get_settled h
      intro row hget
      exact h.generateOrder (Table.get?_eq_some.1 hget).1 (hop row hget)
    | generateOrder pa retry =>
      apply get_settled h
      intro row hget
      exact h.generateOrder (Table.get?_eq_some.1 hget).1 (hop row hget)
    | book order thirdPackage =>
      unfold exec PurchaseOp.exec
      dsimp only
      split
      · rename_i po hpo
        obtain ⟨hget, _⟩ := Option.filter_eq_some_iff.1 hpo
        exact h.book thirdPackage (Table.get?_eq_some.1 hget).1
      · exact h
    | cancel pa =>
      apply get_settled h
      intro row hget
      exact h.cancel (Table.get?_eq_some.1 hget).1 (hop row hget)
  | restat key => exact h.restat key
  | repurchase sku => exact h.repurchase sku hop

end TotalsOp

/-- In every run whose steps the totals can follow, the details, the orders, the order lists
and their details agree with the arrangements throughout. -/
theorem purchase_totals_follow (ops : List TotalsOp) (s : PurchaseDb) (hs : s.Tidy)
    (ha : s.Agrees) (hops : Guarded TotalsOp.exec (fun s op => op.Followed s) ops s) :
    Throughout TotalsOp.exec PurchaseDb.Agrees ops s := by
  have hstep : ∀ (s : PurchaseDb) (op : TotalsOp), s.Settled → op.Followed s →
      (op.exec s).Settled := fun _ op h hop => op.exec_settled h hop
  have hsettled := throughout_of_guarded hstep ops s ⟨hs, ha⟩ hops
  exact fun done hdone => (hsettled done hdone).agrees

/-- Three items: of the SKUs 31, at ten yuan, and 32, at an eighth of a yuan, two pieces
each, and of the SKU 33, which is in stock. -/
def beforeTotals : PurchaseDb :=
  { beforePurchases with
    packageSkuItems := ((Table.empty.insert (paidItem 1 31 2)).insert (paidItem 2 32 2)).insert
      { paidItem 3 33 1 with assignStatus := .assigned } }

theorem beforeTotals_settled : beforeTotals.Settled where
  tidy :=
    { orders := List.nodup_nil
      details := List.nodup_nil
      lists := List.nodup_nil
      orderDetails := List.nodup_nil
      draft := fun ol hol => by cases hol
      ordered := fun pd hpd => by cases hpd
      listed := fun po hpo => by cases hpo
      mirrored := fun slot => by
        constructor
        · rintro ⟨pd, hpd, _⟩
          cases hpd
        · rintro ⟨od, hod, _⟩
          cases hod
      unit := fun pd hpd => by cases hpd
      items := fun pa hpa => by cases hpa
      uniKeys := fun pa hpa => by cases hpa }
  agrees :=
    { detail := fun pd hpd => by cases hpd
      price := fun pd hpd => by cases hpd
      order := fun po hpo => by cases hpo
      list := fun po hpo => by cases hpo
      quantity := fun po hpo => by cases hpo }

/-- The item in stock makes an empty order, to which the pieces of SKU 31 go before they are
cancelled and the order is booked. -/
theorem purchase_totals_sample :
    Throughout TotalsOp.exec PurchaseDb.Agrees
      [.purchase (.create 3), .purchase (.task 1), .purchase (.create 1), .purchase (.task 2),
        .purchase (.cancel 2), .restat ⟨7, 1⟩, .purchase (.book 1 false)] beforeTotals := by
  refine purchase_totals_follow _ _ beforeTotals_settled.tidy beforeTotals_settled.agrees
    ⟨?_, ?_, ?_, ?_, ?_, trivial, trivial, trivial⟩
  · rintro row hget hassigned
    obtain rfl := Option.some.inj hget
    cases hassigned
  · rintro row hget key hkey
    obtain rfl := Option.some.inj hget
    obtain rfl := Option.some.inj hkey
    exact Or.inl rfl
  · rintro row hget _ _ _ key hkey
    obtain rfl := Option.some.inj hget
    obtain rfl := Option.some.inj hkey
    rfl
  · rintro row hget key hkey
    obtain rfl := Option.some.inj hget
    obtain rfl := Option.some.inj hkey
    exact Or.inr ⟨⟨_, List.mem_singleton.2 rfl, rfl, rfl⟩, rfl⟩
  · rintro row hget _ _ _ key hkey pd hfind
    obtain rfl := Option.some.inj hget
    obtain rfl := Option.some.inj hkey
    obtain rfl := Option.some.inj hfind
    exact ⟨rfl, _, List.mem_singleton.2 rfl, rfl, rfl⟩

/-- The list that the first detail makes has no number; a new detail of two pieces at an
eighth of a yuan costs 25 fen at 12 fen apiece; and a task that runs after the booking makes a
detail that the booked order does not count. -/
theorem purchase_totals_fail :
    ¬ Throughout TotalsOp.exec PurchaseDb.Agrees
        [.purchase (.create 1), .purchase (.task 1)] beforeTotals ∧
      ¬ Throughout TotalsOp.exec PurchaseDb.Agrees
          [.purchase (.create 3), .purchase (.task 1), .purchase (.create 2),
            .purchase (.task 2)] beforeTotals ∧
        ¬ Throughout TotalsOp.exec PurchaseDb.Agrees
            [.purchase (.create 3), .purchase (.task 1), .purchase (.create 1),
              .purchase (.book 1 false), .purchase (.task 2)] beforeTotals := by
  refine ⟨?_, ?_, ?_⟩
  · intro h
    have hlist := h.last.list
      { id := 1, uniKey := ⟨7, 1⟩, supplierId := 7, bookNum := 2, needNum := 2, arrivalNum := 0
        totalPrice := 2000, status := .opened } (Table.mem_def.2 (by decide)) rfl
      { id := 1, purchaseOrderUnikey := ⟨7, 1⟩, orderAmount := 2000, purchaseTotalNum := 0
        supplierId := 7, stage := .draft } (Table.mem_def.2 (by decide)) rfl (by decide)
    exact absurd hlist (by decide)
  · intro h
    have hprice := h.last.price
      { id := 2, skuId := 32, purchaseOrderUnikey := ⟨7, 1⟩, bookNum := 2, needNum := 2
        arrivalNum := 0, status := .opened, unitPrice := 12, totalPrice := 25 }
      (Table.mem_def.2 (by decide))
    exact absurd hprice (by decide)
  · intro h
    have horder := h.last.order
      { id := 1, uniKey := ⟨7, 1⟩, supplierId := 7, bookNum := 0, needNum := 0, arrivalNum := 0
        totalPrice := 0, status := .booked } (Table.mem_def.2 (by decide))
    exact absurd horder.1 (by decide)

end ShopManager.Purchase
