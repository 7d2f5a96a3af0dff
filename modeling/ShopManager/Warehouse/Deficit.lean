import ShopManager.Library.Execution
import ShopManager.Warehouse.FirstCome

/-!
# More set aside than there is

When less is in stock than is set aside, `assign` and `relase_assign` take items back, one
a call.  A released item is bought again, which may raise when it is off the list already.
-/

namespace ShopManager.Warehouse.SkuStock

open Library Library.Tx Library.Execution PackageSkuItem

/-! ## A released item -/

def assignedTotal (s : WarehouseDb) (sku : Nat) : Int := statValue s sku .assignNum

/-- `psi` is set aside no more and may be bought again; of the row of its SKU only counters
of items changed, and what is set aside was counted. -/
structure Freed (psi : PackageSkuItem) (s s' : WarehouseDb) : Prop where
  items : s'.packageSkuItems = s.packageSkuItems.save psi.toNotAssigned ∨
    s'.packageSkuItems = s.packageSkuItems.save psi.toNotAssigned.toPrepareBook
  columns : ∀ column, column ≠ .assignNum → (∀ status, column ≠ .psi status) →
    s'.skuStocks psi.skuId column = s.skuStocks psi.skuId column
  counted : s'.skuStocks psi.skuId .assignNum = assignedTotal s' psi.skuId

section Release

variable {psi item : PackageSkuItem} {s s' : WarehouseDb} {paId : Nat}

theorem mem_of_freed (hpsi : psi ∈ s.packageSkuItems) (h : Freed psi s s')
    (hitem : item ∈ s'.packageSkuItems) :
    item = psi.toNotAssigned ∨ item = psi.toNotAssigned.toPrepareBook ∨
      (item ∈ s.packageSkuItems ∧ item.id ≠ psi.id) := by
  rcases h.items with hitems | hitems
  · rw [hitems, Table.mem_save_iff hpsi (by rfl)] at hitem
    rcases hitem with hitem | hitem
    · exact .inl hitem
    · exact .inr (.inr hitem)
  · rw [hitems, Table.mem_save_iff hpsi (by rfl)] at hitem
    exact .inr hitem

def Owned (psi : PackageSkuItem) (paId : Nat) (s : WarehouseDb) : Prop :=
  ∀ pa ∈ s.purchaseArrangements, pa.id = paId → pa.oid = psi.id

theorem assignedTotal_prepareBook (hitem : item ∈ s.packageSkuItems) (sku : Nat)
    {stocks : Nat → SkuStock} :
    assignedTotal { s with
      packageSkuItems := s.packageSkuItems.save item.toPrepareBook
      skuStocks := stocks } sku = assignedTotal s sku := by
  exact Table.sum_save_of_eq hitem (by rfl) rfl

def Rebooking (psi : PackageSkuItem) (paId : Nat) (s s' : WarehouseDb) : Prop :=
  Freed psi s s' ∧ Owned psi paId s'

theorem rebooking_setStatusPrepareBook (hpsi : psi ∈ s.packageSkuItems)
    (hrebooking : Rebooking psi paId s s') (hitem : item ∈ s'.packageSkuItems)
    (hid : item.id = psi.id) :
    Rebooking psi paId s (item.setStatusPrepareBook.run s').2 := by
  obtain ⟨h, howned⟩ := hrebooking
  have hsku : item.skuId = psi.skuId := by
    rcases mem_of_freed hpsi h hitem with rfl | rfl | hother
    · rfl
    · rfl
    · exact absurd hid hother.2
  have hsaved : item.toPrepareBook = psi.toNotAssigned.toPrepareBook := by
    rcases mem_of_freed hpsi h hitem with rfl | rfl | hother
    · rfl
    · rfl
    · exact absurd hid hother.2
  unfold setStatusPrepareBook PackageSkuItem.save
  rw [modify_bind_run]
  obtain ⟨stock, hrun, hother, -⟩ := setPsi_run [(.psi .paid, -1), (.psi .prepareBook, 1)]
    item.skuId item.num { s' with
      packageSkuItems := s'.packageSkuItems.save item.toPrepareBook }
  have hstock : ∀ column, (∀ status, column ≠ .psi status) →
      stock column = s'.skuStocks psi.skuId column := by
    intro column hpsi
    rw [← hsku]
    refine hother column fun hmem => ?_
    rcases List.mem_cons.mp hmem with hpaid | hmem
    · exact hpsi _ hpaid
    · exact hpsi _ (List.mem_singleton.mp hmem)
  unfold setPsiPrepareBook
  rw [hrun]
  refine ⟨⟨?_, ?_, ?_⟩, howned⟩
  · right
    dsimp only
    rw [hsaved]
    rcases h.items with hitems | hitems
    · rw [hitems, Table.save_save (by rfl)]
    · rw [hitems, Table.save_save (by rfl)]
  · intro column hassign hstatus
    dsimp only
    rw [hsku, Function.update_self, hstock column hstatus]
    exact h.columns column hassign hstatus
  · rw [assignedTotal_prepareBook hitem, ← h.counted]
    dsimp only
    rw [hsku, Function.update_self]
    exact hstock _ (by simp)

theorem Freed.of_purchases {t : WarehouseDb} (h : Freed psi s s')
    (hitems : t.packageSkuItems = s'.packageSkuItems) (hstocks : t.skuStocks = s'.skuStocks) :
    Freed psi s t := by
  refine ⟨?_, ?_, ?_⟩
  · rw [hitems]
    exact h.items
  · rw [hstocks]
    exact h.columns
  · unfold assignedTotal statValue
    rw [hstocks, hitems]
    exact h.counted

theorem owned_update {t : WarehouseDb} {p : PurchaseArrangement → Bool}
    {f : PurchaseArrangement → PurchaseArrangement} (howned : Owned psi paId t)
    (hf : ∀ pa, (f pa).oid = pa.oid) :
    ∀ pa ∈ t.purchaseArrangements.update p f, pa.id = paId → pa.oid = psi.id := by
  intro pa hpa hid
  obtain ⟨b, hb, rfl⟩ := Table.exists_of_mem_update hpa
  split at hid
  · rw [if_pos (by assumption)]
    exact (hf b).trans (howned b hb hid)
  · rw [if_neg (by assumption)]
    exact howned b hb hid

theorem rebooking_restat (key : PurchaseKey) :
    Preserves (Rebooking psi paId s) (PurchaseOrder.restat key) := by
  refine Preserves.modify fun t ht => ?_
  split
  · exact ht
  · exact ⟨ht.1.of_purchases rfl rfl, ht.2⟩

theorem rebooking_generateOrderWith (hpsi : psi ∈ s.packageSkuItems)
    {closed : PurchaseArrangement → WarehouseTx Unit} {pa : PurchaseArrangement}
    (hoid : pa.oid = psi.id)
    (hclosed : Preserves (Rebooking psi paId s) (closed pa)) :
    Preserves (Rebooking psi paId s) (PurchaseArrangement.generateOrderWith closed pa) := by
  have hbuy : Preserves (Rebooking psi paId s)
      (do let skuitem ← PackageSkuItem.get pa.oid; skuitem.setStatusPrepareBook) := by
    apply Preserves.getOr_bind
    intro t item ht hget
    obtain ⟨hitem, hid⟩ := Table.get?_eq_some.mp hget
    exact rebooking_setStatusPrepareBook hpsi ht hitem (hid.trans hoid)
  unfold PurchaseArrangement.generateOrderWith
  cases pa.purchaseOrderUnikey with
  | none => exact Preserves.pure ()
  | some key =>
    dsimp only
    refine Preserves.bind (Preserves.modify fun t ht => ?_) fun _ =>
      Preserves.gets_bind fun t ht => ?_
    · exact ⟨ht.1.of_purchases rfl rfl, owned_update ht.2 fun _ => rfl⟩
    · have hcreate : Preserves (Rebooking psi paId s) (PurchaseDetail.create pa.skuId key) :=
        Preserves.bind (Preserves.modify fun t ht => ⟨ht.1.of_purchases rfl rfl, ht.2⟩)
          fun _ => rebooking_restat key
      cases PurchaseDetail.find t pa.skuId key with
      | none => exact Preserves.bind hcreate (fun _ => hbuy) t ht
      | some detail =>
        refine Preserves.ite (fun _ => ?_) (fun _ => ?_) t ht
        · exact Preserves.bind (rebooking_restat key) fun _ => hbuy
        · exact Preserves.bind hclosed fun _ => hbuy

theorem rebooking_retryOrder (hpsi : psi ∈ s.packageSkuItems) {pa : PurchaseArrangement}
    (hpa : pa.id = paId) :
    Preserves (Rebooking psi paId s) (PurchaseArrangement.retryOrder pa) := by
  unfold PurchaseArrangement.retryOrder
  refine Preserves.bind ?_ fun moved => Preserves.gets_bind fun t ht => ?_
  · unfold PurchaseArrangement.resetPurchaseOrder
    refine Preserves.ite (fun _ => Preserves.pure pa) fun _ => ?_
    exact Preserves.getOr_bind fun t item ht _ => ht
  · refine Preserves.raiseIf_bind (fun _ => ?_) t ht
    refine Preserves.bind (Preserves.modify fun u hu => ?_) fun _ => ?_
    · exact ⟨hu.1.of_purchases rfl rfl, owned_update hu.2 fun _ => rfl⟩
    · apply Preserves.getOr_bind
      intro u found hu hget
      obtain ⟨hfound, hid⟩ := Table.get?_eq_some.mp hget
      exact rebooking_generateOrderWith hpsi (hu.2 found hfound (hid.trans hpa))
        (Preserves.raise _) u hu

theorem rebooking_generateOrder (hpsi : psi ∈ s.packageSkuItems) {pa : PurchaseArrangement}
    (hpa : pa.id = paId) (hoid : pa.oid = psi.id) :
    Preserves (Rebooking psi paId s) (PurchaseArrangement.generateOrder pa true) :=
  rebooking_generateOrderWith hpsi hoid (rebooking_retryOrder hpsi hpa)

theorem freed_setStatusNotAssigned (hpsi : psi ∈ s.packageSkuItems) :
    Freed psi s (psi.setStatusNotAssigned.run s).2 := by
  obtain ⟨stock, hrun, hother, hstat⟩ := setPsi_run
    [(.assignNum, -1), (.psi .paid, 1), (.psi .assigned, -1)] psi.skuId psi.num { s with
      packageSkuItems := s.packageSkuItems.save psi.toNotAssigned }
  have hfreed : Freed psi s { s with
      packageSkuItems := s.packageSkuItems.save psi.toNotAssigned
      skuStocks := Function.update s.skuStocks psi.skuId stock } := by
    refine ⟨.inl rfl, fun column hassign hstatus => ?_, ?_⟩
    · dsimp only
      rw [Function.update_self]
      exact hother column (by simp [hassign, hstatus])
    · dsimp only
      rw [Function.update_self]
      exact hstat _ (by simp) (by decide)
  unfold setStatusNotAssigned PackageSkuItem.save
  rw [modify_bind_run]
  unfold setPsiNotAssigned
  rw [bind_ok hrun]
  unfold rebook
  rw [gets_bind_run]
  split
  · -- an item without arrangement gets one
    refine Preserves.gets_bind (fun t ht => ?_) _ hfreed
    refine Preserves.gets_bind (fun u hu => ?_) t ht
    refine Preserves.raiseIf_bind (fun _ => ?_) u hu
    exact Preserves.modify fun v hv => hv.of_purchases rfl rfl
  · next pa hpa =>
    have hrow := List.mem_filter.mp (List.mem_of_getLast? hpa)
    have hoid : pa.oid = psi.id := of_decide_eq_true hrow.2
    split
    · have howned : Owned psi pa.id { s with
          packageSkuItems := s.packageSkuItems.save psi.toNotAssigned
          skuStocks := Function.update s.skuStocks psi.skuId stock } := by
        intro r hr hid
        rw [Table.pk_inj hr hrow.1 hid]
        exact hoid
      have hsave : Preserves (Rebooking psi pa.id s)
          (PurchaseArrangement.save { pa with effect := true }) := by
        refine Preserves.modify fun t ht => ⟨ht.1.of_purchases rfl rfl, ?_⟩
        intro r hr hid
        rcases Table.mem_save hr with rfl | hold
        · exact hoid
        · exact ht.2 r hold.1 hid
      have hbuy : Preserves (Rebooking psi pa.id s)
          (PurchaseArrangement.generateOrder { pa with effect := true } true) :=
        rebooking_generateOrder hpsi rfl hoid
      exact (Preserves.bind hsave (fun _ => hbuy) _ ⟨hfreed, howned⟩).1
    · exact hfreed

end Release

/-! ## The calls -/

inductive Call where
  | resetSkuStock (key : PurchaseKey)
  | assign (target : Target)
  | relaseAssign (target : Target)
  deriving DecidableEq, Repr

def exec (sku : Nat) (call : Call) (s : WarehouseDb) : WarehouseDb :=
  match call with
  | .resetSkuStock key => ((resetSkuStock sku key).run s).2
  | .assign target => ((assign sku (s.skuStocks sku) target true).run s).2
  | .relaseAssign target => ((relaseAssign sku (s.skuStocks sku) target).run s).2

def recounted (sku : Nat) (s : WarehouseDb) : WarehouseDb := { s with
  skuStocks := Function.update s.skuStocks sku
    (Function.update (s.skuStocks sku) .inboundQuantity (s.totals sku).inboundQuantity) }

def before (sku : Nat) (s : WarehouseDb) : Call → WarehouseDb
  | .resetSkuStock _ => recounted sku s
  | _ => s

def Short (sku : Nat) (s : WarehouseDb) : Prop :=
  (s.skuStocks sku).realtimeQuantity < assignedTotal s sku

def Released (s s' : WarehouseDb) (item : PackageSkuItem) : Prop :=
  item ∈ s.packageSkuItems ∧ item ∉ s'.packageSkuItems ∧
    ∃ row ∈ s'.packageSkuItems, row.id = item.id ∧ row.assignStatus = .notAssigned

/-- A step releases only items that are set aside of the SKU, and none where nothing is
lacking; apart from that items are only set aside. -/
structure Corrects (sku : Nat) (s s' : WarehouseDb) : Prop where
  own : ∀ item, Released s s' item → item.skuId = sku ∧ item.assignStatus = .assigned
  needed : 0 ≤ (s.skuStocks sku).free → ∀ item, ¬ Released s s' item
  others : ∀ item ∈ s.packageSkuItems, item ∈ s'.packageSkuItems ∨ Released s s' item ∨
    (item.assignStatus = .notAssigned ∧ item.toAssigned ∈ s'.packageSkuItems)

/-- What `relase_assign` would take back is set aside, and of the SKU. -/
def OwnReleased (sku : Nat) (s : WarehouseDb) (target : Target) : Prop :=
  ∀ psi ∈ released s sku target, psi.skuId = sku ∧ psi.assignStatus = .assigned

def CanRelease (sku : Nat) (s : WarehouseDb) (target : Target) : Prop :=
  Short sku s → 0 < s.skuStocks sku .assignNum ∧ released s sku target ≠ none

/-- `assign` in a deficit. -/
def AssignSound (sku : Nat) (s : WarehouseDb) (target : Target) : Prop :=
  ((s.skuStocks sku).free < 0 → 0 < s.skuStocks sku .assignNum →
    OwnReleased sku s target) ∧ CanRelease sku s target

/-- `relase_assign` is not called where nothing is lacking and nothing is left. -/
def ReleaseSound (sku : Nat) (s : WarehouseDb) (target : Target) : Prop :=
  AssignSound sku s target ∧
    ((s.skuStocks sku).free = 0 → 0 < s.skuStocks sku .assignNum →
      released s sku target = none)

def CallSound (sku : Nat) (s : WarehouseDb) : Call → Prop
  | .resetSkuStock key =>
      if s.skuStocks sku .inboundQuantity < (s.totals sku).inboundQuantity then
        AssignSound sku (recounted sku s) (.orderlist key)
      else if s.skuStocks sku .inboundQuantity > (s.totals sku).inboundQuantity then
        ReleaseSound sku (recounted sku s) (.orderlist key)
      else ¬ Short sku s
  | .assign target => AssignSound sku s target
  | .relaseAssign target => ReleaseSound sku s target

instance (sku : Nat) (s : WarehouseDb) : Decidable (Short sku s) :=
  inferInstanceAs (Decidable (_ < _))

instance (sku : Nat) (s : WarehouseDb) (target : Target) : Decidable (OwnReleased sku s target) :=
  inferInstanceAs (Decidable (∀ psi ∈ released s sku target, _ ∧ _))

instance (sku : Nat) (s : WarehouseDb) (target : Target) : Decidable (CanRelease sku s target) :=
  inferInstanceAs (Decidable (_ → _ ∧ _))

instance (sku : Nat) (s : WarehouseDb) (target : Target) : Decidable (AssignSound sku s target) :=
  inferInstanceAs (Decidable ((_ → _ → _) ∧ _))

instance (sku : Nat) (s : WarehouseDb) (target : Target) : Decidable (ReleaseSound sku s target) :=
  inferInstanceAs (Decidable (_ ∧ (_ → _ → _)))

instance (sku : Nat) (s : WarehouseDb) : (call : Call) → Decidable (CallSound sku s call)
  | .resetSkuStock key => inferInstanceAs (Decidable (
      if s.skuStocks sku .inboundQuantity < (s.totals sku).inboundQuantity then
        AssignSound sku (recounted sku s) (.orderlist key)
      else if s.skuStocks sku .inboundQuantity > (s.totals sku).inboundQuantity then
        ReleaseSound sku (recounted sku s) (.orderlist key)
      else ¬ Short sku s))
  | .assign target => inferInstanceAs (Decidable (AssignSound sku s target))
  | .relaseAssign target => inferInstanceAs (Decidable (ReleaseSound sku s target))

def heldItems (sku : Nat) (s : WarehouseDb) : Nat :=
  (s.packageSkuItems.filter fun item =>
    item.skuId = sku ∧ item.assignStatus = .assigned).length

section Calls

variable {s s' : WarehouseDb} {sku : Nat} {stock : SkuStock} {target : Target}
  {psi : PackageSkuItem}

theorem relaseAssign_stays (h : stock .assignNum ≤ 0 ∨ 0 < stock.free) (s : WarehouseDb) :
    (relaseAssign sku stock target).run s = (.ok (), s) := by
  unfold relaseAssign
  rcases h with hnum | hfree
  · rw [if_pos hnum]
    rfl
  · rw [if_pos hfree, ite_self]
    rfl

theorem mem_released (h : released s sku target = some psi) : psi ∈ s.packageSkuItems := by
  cases target with
  | psi psiId => exact (Table.get?_eq_some.mp h).1
  | orderlist key => exact Table.mem_of_first h
  | all =>
    have hmem := List.mem_of_head? h
    exact (List.mem_filter.mp (List.mem_insertionSort _ |>.mp hmem)).1

theorem relaseAssign_some (hnum : 0 < stock .assignNum) (hfree : stock.free ≤ 0)
    (h : released s sku target = some psi) :
    Freed psi s ((relaseAssign sku stock target).run s).2 := by
  unfold relaseAssign
  rw [if_neg hnum.not_ge, if_neg hfree.not_gt, gets_bind_run, h]
  exact freed_setStatusNotAssigned (mem_released h)

theorem relaseAssign_none (hnum : 0 < stock .assignNum) (hfree : stock.free ≤ 0)
    (h : released s sku target = none) :
    ((relaseAssign sku stock target).run s).2.packageSkuItems = s.packageSkuItems := by
  unfold relaseAssign
  rw [if_neg hnum.not_ge, if_neg hfree.not_gt, gets_bind_run, h]
  rfl

theorem corrects_of_items (h : s'.packageSkuItems = s.packageSkuItems) : Corrects sku s s' := by
  have hnone : ∀ item, ¬ Released s s' item := by
    rintro item ⟨hitem, hgone, -⟩
    rw [h] at hgone
    exact hgone hitem
  refine ⟨fun item hr => absurd hr (hnone item), fun _ => hnone, fun item hitem => ?_⟩
  rw [h]
  exact .inl hitem

theorem corrects_of_setAside {psis : List PackageSkuItem} (h : SetAside psis s s')
    (hpsis : ∀ psi ∈ psis, Unassigned s psi) : Corrects sku s s' := by
  have hrows := row_of_setAside h
  have hrow : ∀ item ∈ s.packageSkuItems,
      (if item.id ∈ psis.map PackageSkuItem.id then item.toAssigned else item) ∈
        s'.packageSkuItems := by
    intro item hitem
    rw [Table.mem_def, hrows]
    exact List.mem_map_of_mem
      (f := fun psi : PackageSkuItem =>
        if psi.id ∈ psis.map PackageSkuItem.id then psi.toAssigned else psi) hitem
  have hnone : ∀ item, ¬ Released s s' item := by
    rintro item ⟨hitem, hgone, row, hmem, hid, hstatus⟩
    rw [Table.mem_def, hrows] at hmem
    obtain ⟨r, hr, rfl⟩ := List.mem_map.mp hmem
    split at hid
    · next hin =>
      rw [if_pos hin] at hstatus
      exact absurd hstatus (by simp [toAssigned])
    · next hout =>
      obtain rfl := Table.pk_inj hr hitem hid
      have hstays := hrow r hr
      rw [if_neg hout] at hstays
      exact hgone hstays
  refine ⟨fun item hr => absurd hr (hnone item), fun _ => hnone, fun item hitem => ?_⟩
  have hmem := hrow item hitem
  split at hmem
  · next hin =>
    have hwaits := hpsis item ((id_mem_iff hpsis hitem).mp hin)
    exact .inr (.inr ⟨hwaits.2, hmem⟩)
  · exact .inl hmem

theorem Freed.row (h : Freed psi s s') :
    ∃ row, row.id = psi.id ∧ row.assignStatus = .notAssigned ∧
      s'.packageSkuItems = s.packageSkuItems.save row := by
  rcases h.items with hitems | hitems
  · exact ⟨psi.toNotAssigned, rfl, rfl, hitems⟩
  · exact ⟨psi.toNotAssigned.toPrepareBook, rfl, rfl, hitems⟩

theorem corrects_of_freed (hpsi : psi ∈ s.packageSkuItems) (h : Freed psi s s')
    (hsku : psi.skuId = sku) (hassigned : psi.assignStatus = .assigned)
    (hfree : (s.skuStocks sku).free < 0) : Corrects sku s s' := by
  obtain ⟨row, hid, hstatus, hitems⟩ := h.row
  have hmem : ∀ item, item ∈ s'.packageSkuItems ↔
      item = row ∨ (item ∈ s.packageSkuItems ∧ item.id ≠ row.id) := by
    intro item
    rw [hitems]
    exact Table.mem_save_iff hpsi hid.symm
  have hstays : ∀ item ∈ s.packageSkuItems, item.id ≠ psi.id → item ∈ s'.packageSkuItems :=
    fun item hitem hne => (hmem item).mpr (.inr ⟨hitem, hid ▸ hne⟩)
  refine ⟨fun item hreleased => ?_, fun hpos => absurd hpos hfree.not_ge, fun item hitem => ?_⟩
  · obtain ⟨hitem, hgone, -⟩ := hreleased
    have heq : item.id = psi.id := by
      by_contra hne
      exact hgone (hstays item hitem hne)
    rw [Table.pk_inj hitem hpsi heq]
    exact ⟨hsku, hassigned⟩
  · by_cases heq : item.id = psi.id
    · obtain rfl := Table.pk_inj hitem hpsi heq
      refine .inr (.inl ⟨hitem, fun hin => ?_, row, (hmem row).mpr (.inl rfl), hid, hstatus⟩)
      rcases (hmem item).mp hin with hrow | hother
      · rw [← hrow, hassigned] at hstatus
        exact absurd hstatus (by decide)
      · exact hother.2 hid.symm
    · exact .inl (hstays item hitem heq)

theorem corrects_relaseAssign
    (hown : (s.skuStocks sku).free < 0 → 0 < s.skuStocks sku .assignNum → OwnReleased sku s target)
    (hneeded : (s.skuStocks sku).free = 0 → 0 < s.skuStocks sku .assignNum →
      released s sku target = none) :
    Corrects sku s ((relaseAssign sku (s.skuStocks sku) target).run s).2 := by
  by_cases hnum : 0 < s.skuStocks sku .assignNum
  · rcases lt_trichotomy (s.skuStocks sku).free 0 with hfree | hfree | hfree
    · cases hrel : released s sku target with
      | none => exact corrects_of_items (relaseAssign_none hnum hfree.le hrel)
      | some psi =>
        obtain ⟨hsku, hassigned⟩ := hown hfree hnum psi hrel
        exact corrects_of_freed (mem_released hrel) (relaseAssign_some hnum hfree.le hrel)
          hsku hassigned hfree
    · exact corrects_of_items (relaseAssign_none hnum hfree.le (hneeded hfree hnum))
    · rw [relaseAssign_stays (.inr hfree)]
      exact corrects_of_items rfl
  · rw [relaseAssign_stays (.inl (not_lt.mp hnum))]
    exact corrects_of_items rfl

theorem assign_deficit (hfree : (s.skuStocks sku).free < 0) :
    assign sku (s.skuStocks sku) target true = relaseAssign sku (s.skuStocks sku) target := by
  unfold assign
  rw [if_neg hfree.ne, if_pos hfree]

theorem corrects_assign (h : AssignSound sku s target) :
    Corrects sku s ((assign sku (s.skuStocks sku) target true).run s).2 := by
  rcases lt_trichotomy (s.skuStocks sku).free 0 with hfree | hfree | hfree
  · rw [assign_deficit hfree]
    exact corrects_relaseAssign h.1 fun hzero => absurd hzero hfree.ne
  · rw [assign_balanced hfree]
    exact corrects_of_items rfl
  · obtain ⟨t, hrun, haside, -⟩ := assign_run hfree target
    rw [hrun]
    refine corrects_of_setAside haside fun psi hpsi => ?_
    rcases List.mem_append.mp hpsi with hfirst | hsecond
    · exact unassigned_firstRound hfirst
    · have hle := (firstRound_inTurn s sku target).total_le hfree.le (asked_nodup s sku target)
      exact unassigned_waitingBut ((secondRound_sublist _ hfree hle).subset hsecond)

theorem save_recounted (sku : Nat) (s : WarehouseDb) :
    (save sku (some [.inboundQuantity]) (Function.update (s.skuStocks sku) .inboundQuantity
      (s.totals sku).inboundQuantity)).run s = (.ok (), recounted sku s) := by
  have hrow : (fun column => if (some [Column.inboundQuantity]).all fun fields => column ∈ fields
      then Function.update (s.skuStocks sku) .inboundQuantity (s.totals sku).inboundQuantity column
      else s.skuStocks sku column) =
      Function.update (s.skuStocks sku) .inboundQuantity (s.totals sku).inboundQuantity := by
    funext column
    by_cases hcolumn : column = .inboundQuantity
    · simp [hcolumn]
    · simp [hcolumn]
  unfold save recounted
  rw [modify_run, hrow]

theorem exec_resetSkuStock (key : PurchaseKey) (s : WarehouseDb) :
    exec sku (.resetSkuStock key) s =
      if s.skuStocks sku .inboundQuantity < (s.totals sku).inboundQuantity then
        ((assign sku ((recounted sku s).skuStocks sku) (.orderlist key) true).run
          (recounted sku s)).2
      else if s.skuStocks sku .inboundQuantity > (s.totals sku).inboundQuantity then
        ((relaseAssign sku ((recounted sku s).skuStocks sku) (.orderlist key)).run
          (recounted sku s)).2
      else s := by
  have hstock : (recounted sku s).skuStocks sku =
      Function.update (s.skuStocks sku) .inboundQuantity (s.totals sku).inboundQuantity :=
    Function.update_self sku _ s.skuStocks
  unfold exec resetSkuStock SkuStock.get
  dsimp only
  rw [gets_bind_run, gets_bind_run, hstock]
  split
  · rw [bind_ok (save_recounted sku s)]
  · split
    · rw [bind_ok (save_recounted sku s)]
    · rfl

theorem recounted_of_eq (h : s.skuStocks sku .inboundQuantity = (s.totals sku).inboundQuantity) :
    recounted sku s = s := by
  unfold recounted
  rw [← h, Function.update_eq_self, Function.update_eq_self]

theorem corrects_exec (call : Call) (h : CallSound sku s call) :
    Corrects sku (before sku s call) (exec sku call s) := by
  cases call with
  | assign target => exact corrects_assign h
  | relaseAssign target => exact corrects_relaseAssign h.1.1 h.2
  | resetSkuStock key =>
    unfold CallSound at h
    rw [exec_resetSkuStock]
    unfold before
    dsimp only at h ⊢
    split
    · next hless =>
      rw [if_pos hless] at h
      exact corrects_assign h
    · next hless =>
      rw [if_neg hless] at h
      split
      · next hmore =>
        rw [if_pos hmore] at h
        exact corrects_relaseAssign h.1.1 h.2
      · next hmore =>
        rw [recounted_of_eq (by omega)]
        exact corrects_of_items rfl

/-! ## Every sound call comes nearer -/

theorem heldItems_eq_sum (sku : Nat) (s : WarehouseDb) :
    (heldItems sku s : ℤ) = s.packageSkuItems.sum fun item =>
      if item.skuId = sku ∧ item.assignStatus = .assigned then 1 else 0 := by
  have hsum := Table.sum_filter s.packageSkuItems
    (fun item => item.skuId = sku ∧ item.assignStatus = .assigned) fun _ => (1 : ℤ)
  rw [List.map_const', List.sum_replicate, nsmul_eq_mul, mul_one] at hsum
  unfold heldItems
  simpa using hsum

theorem heldItems_freed (hpsi : psi ∈ s.packageSkuItems) (h : Freed psi s s')
    (hsku : psi.skuId = sku) (hassigned : psi.assignStatus = .assigned) :
    heldItems sku s' < heldItems sku s := by
  obtain ⟨row, hid, hstatus, hitems⟩ := h.row
  have hsum := Table.sum_save hpsi hid.symm fun item : PackageSkuItem =>
    if item.skuId = sku ∧ item.assignStatus = .assigned then (1 : ℤ) else 0
  rw [← hitems, ← heldItems_eq_sum, ← heldItems_eq_sum, if_pos ⟨hsku, hassigned⟩,
    if_neg (by simp [hstatus])] at hsum
  omega

def Counted (sku : Nat) (s : WarehouseDb) : Prop :=
  s.skuStocks sku .assignNum = assignedTotal s sku

theorem Counted.free_neg (h : Counted sku s) : (s.skuStocks sku).free < 0 ↔ Short sku s := by
  unfold Counted at h
  unfold Short free
  omega

theorem relaseAssign_nearer (hcounted : Counted sku s) (hshort : Short sku s)
    (h : AssignSound sku s target) :
    Counted sku ((relaseAssign sku (s.skuStocks sku) target).run s).2 ∧
      heldItems sku ((relaseAssign sku (s.skuStocks sku) target).run s).2 < heldItems sku s := by
  have hfree := hcounted.free_neg.mpr hshort
  obtain ⟨hnum, hsome⟩ := h.2 hshort
  cases hrel : released s sku target with
  | none => exact absurd hrel hsome
  | some psi =>
    obtain ⟨hsku, hassigned⟩ := h.1 hfree hnum psi hrel
    have hfreed := relaseAssign_some hnum hfree.le hrel
    have hstat := hfreed.counted
    rw [hsku] at hstat
    exact ⟨hstat, heldItems_freed (mem_released hrel) hfreed hsku hassigned⟩

theorem assignedTotal_setAside {psis : List PackageSkuItem} (h : SetAside psis s s')
    (hpsis : ∀ psi ∈ psis, Unassigned s psi) (hnodup : psis.Nodup) (sku : Nat) :
    assignedTotal s' sku ≤ assignedTotal s sku + Greedy.total size psis := by
  let value := fun item : PackageSkuItem =>
    if item.skuId = sku then weight .assignNum item else 0
  let added := fun item : PackageSkuItem =>
    if item.id ∈ psis.map PackageSkuItem.id then size item else 0
  have hvalue : ∀ item, 0 ≤ value item ∧ value item ≤ size item := by
    intro item
    unfold value weight size
    split
    · split <;> omega
    · omega
  have hadded : s.packageSkuItems.sum added = Greedy.total size psis := by
    have hsum := Table.sum_filter s.packageSkuItems
      (fun item => item.id ∈ psis.map PackageSkuItem.id) size
    have hperm : (s.packageSkuItems.filter fun item =>
        item.id ∈ psis.map PackageSkuItem.id).Perm psis := by
      unfold Table.filter
      rw [List.perm_ext_iff_of_nodup (s.packageSkuItems.nodup_rows.filter _) hnodup]
      intro item
      rw [List.mem_filter, decide_eq_true_eq]
      constructor
      · rintro ⟨hitem, hid⟩
        exact (id_mem_iff hpsis hitem).mp hid
      · intro hmem
        exact ⟨(hpsis item hmem).1, List.mem_map_of_mem hmem⟩
    unfold Greedy.total
    rw [← (hperm.map size).sum_eq, hsum]
    unfold added
    simp
  calc assignedTotal s' sku
      = s.packageSkuItems.sum fun item =>
          if item.id ∈ psis.map PackageSkuItem.id then value item.toAssigned
          else value item := by
        unfold assignedTotal statValue
        rw [h.items]
        refine (Table.sum_update _ _ _ _).trans ?_
        simp only [decide_eq_true_eq]
        rfl
    _ ≤ s.packageSkuItems.sum fun item => value item + added item := by
        refine Table.sum_le_sum fun item _ => ?_
        unfold added
        split
        · have hnonneg := (hvalue item).1
          have hle : value item.toAssigned ≤ size item := (hvalue item.toAssigned).2
          omega
        · omega
    _ = assignedTotal s sku + Greedy.total size psis := by
        rw [Table.sum_add, hadded]
        rfl

theorem realtime_assign_orderlist (hfree : 0 < stock.free) (key : PurchaseKey)
    (s : WarehouseDb) :
    Ends (fun _ => False) (assign sku stock (.orderlist key) true) s fun _ s' =>
      (s'.skuStocks sku).realtimeQuantity = stock.realtimeQuantity := by
  unfold assign
  rw [if_neg hfree.ne', if_neg hfree.not_gt]
  refine Ends.gets_bind (Ends.bind (Ends.mono (ends_saveAssigned sku _ _ s) ?_))
  rintro left t ⟨rfl, -, hleft⟩
  rw [if_pos rfl]
  unfold assignAll
  refine Ends.ite (fun _ => ?_) fun _ => Ends.ite (fun hneg => ?_) fun _ => ?_
  · refine Ends.pure ?_
    rw [hleft]
    rfl
  · -- what was served fits, so nothing is lacking
    have hnodup : (waitingOf s sku key).Nodup := asked_nodup s sku (.orderlist key)
    have hle := (fitting_inTurn stock.free hnodup).total_le hfree.le hnodup
    have hpieces : pieces (fitting stock.free (waitingOf s sku key)) =
        Greedy.total size (fitting stock.free (waitingOf s sku key)) := rfl
    rw [free_assigned, hpieces] at hneg
    omega
  · refine Ends.gets_bind (Ends.bind (Ends.mono (ends_saveAssigned sku _ _ t) ?_))
    rintro _ u ⟨-, -, hu⟩
    refine Ends.pure ?_
    rw [hu]
    rfl

theorem not_short_assign_orderlist (hcounted : Counted sku s) (hshort : ¬ Short sku s)
    (key : PurchaseKey) :
    ¬ Short sku ((assign sku (s.skuStocks sku) (.orderlist key) true).run s).2 := by
  have hnonneg : 0 ≤ (s.skuStocks sku).free := not_lt.mp (mt hcounted.free_neg.mp hshort)
  rcases hnonneg.eq_or_lt with hfree | hfree
  · rw [assign_balanced hfree.symm]
    exact hshort
  · obtain ⟨t, hrun, haside, -⟩ := assign_run hfree (.orderlist key)
    have hreal := (realtime_assign_orderlist hfree key s).returns hrun
    have hturn := firstRound_inTurn s sku (.orderlist key)
    have hfirst := hturn.total_le hfree.le (asked_nodup s sku _)
    have hsub : (secondRound s sku (firstRound s sku (.orderlist key)) (.orderlist key)).Sublist
        (waitingBut s sku (firstRound s sku (.orderlist key))) :=
      secondRound_sublist _ hfree hfirst
    have hall : ∀ psi ∈ firstRound s sku (.orderlist key) ++
        secondRound s sku (firstRound s sku (.orderlist key)) (.orderlist key),
        Unassigned s psi := by
      intro psi hpsi
      rcases List.mem_append.mp hpsi with hfirst | hsecond
      · exact unassigned_firstRound hfirst
      · exact unassigned_waitingBut (hsub.subset hsecond)
    have hnodup : (firstRound s sku (.orderlist key) ++
        secondRound s sku (firstRound s sku (.orderlist key)) (.orderlist key)).Nodup := by
      refine List.nodup_append'.mpr ⟨hturn.sublist.nodup (asked_nodup s sku _),
        hsub.nodup (waitingBut_nodup s sku _), fun psi hpsi hmem => ?_⟩
      exact of_decide_eq_true (List.mem_filter.mp (hsub.subset hmem)).2 hpsi
    have hadded := assignedTotal_setAside haside hall hnodup sku
    have hsecond : Greedy.total size
        (secondRound s sku (firstRound s sku (.orderlist key)) (.orderlist key)) ≤
        (s.skuStocks sku).free - Greedy.total size (firstRound s sku (.orderlist key)) := by
      unfold secondRound
      dsimp only
      split
      · next hnone => exact hnone.ge
      · exact (fittingFirst_longest (sub_nonneg.mpr hfirst) _).covered
    rw [Greedy.total_append] at hadded
    rw [hrun]
    dsimp only
    unfold Short Counted free at *
    omega

theorem exec_nearer (call : Call) (hcounted : Counted sku s) (hshort : Short sku s)
    (h : CallSound sku s call) :
    ¬ Short sku (exec sku call s) ∨
      (Counted sku (exec sku call s) ∧ heldItems sku (exec sku call s) < heldItems sku s) := by
  cases call with
  | assign target =>
    right
    unfold exec
    dsimp only
    rw [assign_deficit (hcounted.free_neg.mpr hshort)]
    exact relaseAssign_nearer hcounted hshort h
  | relaseAssign target => exact .inr (relaseAssign_nearer hcounted hshort h.1)
  | resetSkuStock key =>
    have hstock : (recounted sku s).skuStocks sku = Function.update (s.skuStocks sku)
        .inboundQuantity (s.totals sku).inboundQuantity :=
      Function.update_self sku _ s.skuStocks
    have hrecounted : Counted sku (recounted sku s) := by
      unfold Counted
      rw [hstock, Function.update_of_ne (by decide)]
      exact hcounted
    unfold CallSound at h
    rw [exec_resetSkuStock]
    dsimp only at h
    split
    · next hless =>
      rw [if_pos hless] at h
      by_cases hstill : Short sku (recounted sku s)
      · right
        rw [assign_deficit (hrecounted.free_neg.mpr hstill)]
        exact relaseAssign_nearer hrecounted hstill h
      · exact .inl (not_short_assign_orderlist hrecounted hstill key)
    · next hless =>
      rw [if_neg hless] at h
      split
      · next hmore =>
        rw [if_pos hmore] at h
        have hstill : Short sku (recounted sku s) := by
          have hlower : ((recounted sku s).skuStocks sku).realtimeQuantity <
              (s.skuStocks sku).realtimeQuantity := by
            unfold realtimeQuantity
            rw [hstock]
            simp only [Function.update_self, Function.update_of_ne, ne_eq, reduceCtorEq,
              not_false_eq_true]
            omega
          exact hlower.trans hshort
        exact .inr (relaseAssign_nearer hrecounted hstill h.1)
      · next hmore =>
        rw [if_neg hmore] at h
        exact absurd hshort h

/-- Every call of a run corrects, and a run that is long enough gets to where no more is set
aside than there is. -/
def DeficitCorrected (sku : Nat) (calls : List Call) (s : WarehouseDb) : Prop :=
  Guarded (exec sku) (fun t call => Corrects sku (before sku t call) (exec sku call t)) calls s ∧
    (heldItems sku s < calls.length →
      ∃ done, done <+: calls ∧ ¬ Short sku (run (exec sku) done s))

/-- Calls that release what is lacking and nothing else end the deficit. -/
theorem deficit_corrected (sku : Nat) (calls : List Call) (s : WarehouseDb)
    (hcounted : Counted sku s) (h : Guarded (exec sku) (CallSound sku) calls s) :
    DeficitCorrected sku calls s := by
  refine ⟨h.mono fun t call => corrects_exec call, fun hlong => ?_⟩
  exact h.reaches (I := Counted sku) (fun t call ht hgoal hcall =>
    exec_nearer call ht (not_not.mp hgoal) hcall) hcounted hlong

end Calls

def key : PurchaseKey := ⟨1, 1⟩

def heldItem (payTime : Nat) : PackageSkuItem :=
  ⟨0, 1, 1, .normal, .assigned, .assigned, none, some key, payTime, 1, false⟩

/-- `arrived` pieces of a SKU are in stock, as many arrived as `total` says. -/
def heldDb (items : Table PackageSkuItem) (arrived total : Int) : WarehouseDb where
  packageSkuItems := items
  skuStocks := fun _ column =>
    if column = .inboundQuantity then arrived
    else if column = .assignNum then items.rows.length
    else 0
  totals := fun _ => ⟨0, total, 0, 0⟩
  suppliers := fun _ => none
  purchaseOrders := Table.empty
  purchaseDetails := Table.empty
  purchaseArrangements := Table.empty
  shipments := []

def oneHeld : Table PackageSkuItem := Table.empty.insert (heldItem 20170101000000)

def twoHeld : Table PackageSkuItem := oneHeld.insert (heldItem 20170101000001)

theorem deficit_corrected_sample :
    DeficitCorrected 1 [.assign .all, .assign .all, .resetSkuStock key] (heldDb twoHeld 1 1) :=
  deficit_corrected 1 _ _ (by unfold Counted; decide) (by decide +kernel)

/-- Two pieces were in stock, one of them set aside; the recount finds that one arrived, and
takes the item back. -/
theorem deficit_corrected_fails :
    ¬ DeficitCorrected 1 [.resetSkuStock key] (heldDb oneHeld 2 1) := by
  rintro ⟨⟨hcorrects, -⟩, -⟩
  let item := { heldItem 20170101000000 with
    id := 1 }
  let s' := exec 1 (.resetSkuStock key) (heldDb oneHeld 2 1)
  have hitem : item ∈ oneHeld.rows := by decide
  have hgone : item ∉ s'.packageSkuItems.rows := by decide +kernel
  have hrow : item.toNotAssigned ∈ s'.packageSkuItems.rows := by decide +kernel
  exact hcorrects.needed (by decide) item ⟨hitem, hgone, item.toNotAssigned, hrow, rfl, rfl⟩

end ShopManager.Warehouse.SkuStock
