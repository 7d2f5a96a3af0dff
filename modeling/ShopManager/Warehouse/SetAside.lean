import ShopManager.Library.Greedy
import ShopManager.Warehouse.Assign

/-!
# What is set aside

Items are set aside by a bulk update or by a save each; either way their purchases are
cancelled and nothing else in the two tables changes.  Who is served is a beginning of the
queue, or everyone of a list who fits in turn.
-/

namespace ShopManager.Warehouse

open Library Library.Tx Library.Greedy

/-- The items of `psis` are set aside; no other item changes, and no arrangement of
another item. -/
structure SetAside (psis : List PackageSkuItem) (s s' : WarehouseDb) : Prop where
  items : s'.packageSkuItems =
    s.packageSkuItems.update (fun item => item.id ∈ psis.map PackageSkuItem.id)
      PackageSkuItem.toAssigned
  arrangements : ∀ pa : PurchaseArrangement, pa.oid ∉ psis.map PackageSkuItem.id →
    (pa ∈ s'.purchaseArrangements ↔ pa ∈ s.purchaseArrangements)

/-! ## Cancelled purchases -/

/-- Only arrangements of the items of `oids` may have changed, and they stay theirs. -/
structure Bystanders (oids : List Nat) (s s' : WarehouseDb) : Prop where
  items : s'.packageSkuItems = s.packageSkuItems
  skuStocks : s'.skuStocks = s.skuStocks
  others : ∀ pa : PurchaseArrangement, pa.oid ∉ oids →
    (pa ∈ s'.purchaseArrangements ↔ pa ∈ s.purchaseArrangements)
  kept : ∀ pa ∈ s.purchaseArrangements,
    ∃ pa' ∈ s'.purchaseArrangements, pa'.id = pa.id ∧ pa'.oid = pa.oid

namespace Bystanders

variable {oids : List Nat} {s s' s'' : WarehouseDb}

theorem refl (oids : List Nat) (s : WarehouseDb) : Bystanders oids s s :=
  ⟨rfl, rfl, fun _ _ => Iff.rfl, fun pa hpa => ⟨pa, hpa, rfl, rfl⟩⟩

theorem trans (h : Bystanders oids s s') (h' : Bystanders oids s' s'') :
    Bystanders oids s s'' where
  items := h'.items.trans h.items
  skuStocks := h'.skuStocks.trans h.skuStocks
  others pa hpa := (h'.others pa hpa).trans (h.others pa hpa)
  kept pa hpa := by
    obtain ⟨pa', hpa', hid', hoid'⟩ := h.kept pa hpa
    obtain ⟨pa'', hpa'', hid'', hoid''⟩ := h'.kept pa' hpa'
    exact ⟨pa'', hpa'', hid''.trans hid', hoid''.trans hoid'⟩

theorem saveArrangement {pa b : PurchaseArrangement} (hb : b ∈ s.purchaseArrangements)
    (hid : b.id = pa.id) (hoid : b.oid = pa.oid) (hmem : pa.oid ∈ oids) :
    Bystanders oids s { s with
      purchaseArrangements := s.purchaseArrangements.save pa } where
  items := rfl
  skuStocks := rfl
  others r hr := by
    rw [Table.mem_save_iff hb hid]
    constructor
    · rintro (rfl | ⟨hold, _⟩)
      · exact absurd hmem hr
      · exact hold
    · intro hold
      refine .inr ⟨hold, fun heq => hr ?_⟩
      rw [Table.pk_inj hold hb (heq.trans hid.symm), hoid]
      exact hmem
  kept r hr := by
    by_cases heq : r.id = pa.id
    · obtain rfl : r = b := Table.pk_inj hr hb (heq.trans hid.symm)
      exact ⟨pa, Table.mem_save_self hr hid, hid.symm, hoid.symm⟩
    · exact ⟨r, (Table.mem_save_iff hb hid).mpr (.inr ⟨hr, heq⟩), rfl, rfl⟩

end Bystanders

theorem ends_cancel {E : Exn → Prop} {oids : List Nat} {s : WarehouseDb}
    {pa b : PurchaseArrangement} (hb : b ∈ s.purchaseArrangements) (hid : b.id = pa.id)
    (hoid : b.oid = pa.oid) (hmem : pa.oid ∈ oids) :
    Ends E pa.cancel s fun _ s' => Bystanders oids s s' := by
  unfold PurchaseArrangement.cancel
  apply Ends.ite
  · exact fun _ => Ends.pure (Bystanders.refl oids s)
  · intro _
    have hsaved : Bystanders oids s { s with
        purchaseArrangements := s.purchaseArrangements.save { pa with effect := false } } :=
      Bystanders.saveArrangement hb hid hoid hmem
    refine Ends.bind (Ends.mono (Q := fun _ t => Bystanders oids s t) (Ends.modify hsaved)
      fun _ t ht => ?_)
    cases pa.purchaseOrderUnikey with
    | none => exact Ends.pure ht
    | some key =>
      refine Ends.gets_bind (Ends.ite (fun _ => ?_) fun _ => Ends.pure ht)
      refine Ends.modify (ht.trans ?_)
      split
      · exact Bystanders.refl oids t
      · exact ⟨rfl, rfl, fun _ _ => Iff.rfl, fun r hr => ⟨r, hr, rfl, rfl⟩⟩

theorem ends_cancelEach {E : Exn → Prop} {oids : List Nat} {s : WarehouseDb}
    {pas : List PurchaseArrangement} (hpas : ∀ pa ∈ pas, pa ∈ s.purchaseArrangements)
    (hmem : ∀ pa ∈ pas, pa.oid ∈ oids) :
    Ends E (forEach pas PurchaseArrangement.cancel) s fun _ s' => Bystanders oids s s' := by
  let J := fun (left : List PurchaseArrangement) (t : WarehouseDb) =>
    Bystanders oids s t ∧ ∀ pa ∈ left, pa ∈ s.purchaseArrangements ∧ pa.oid ∈ oids
  have hloop : Ends E (forEach pas PurchaseArrangement.cancel) s fun _ s' => J [] s' := by
    refine Ends.forEach (J := J) ?_
      ⟨Bystanders.refl oids s, fun pa hpa => ⟨hpas pa hpa, hmem pa hpa⟩⟩
    rintro pa left t ⟨hso, hleft⟩
    obtain ⟨hpa, hoid⟩ := hleft pa List.mem_cons_self
    obtain ⟨b, hb, hbid, hboid⟩ := hso.kept pa hpa
    refine Ends.mono (ends_cancel hb hbid hboid hoid) ?_
    exact fun _ t' h => ⟨hso.trans h, fun r hr => hleft r (List.mem_cons_of_mem pa hr)⟩
  exact Ends.mono hloop fun _ _ h => h.1

namespace SetAside

variable {psis psis' : List PackageSkuItem} {s s' s'' : WarehouseDb} {item : PackageSkuItem}

theorem none (s : WarehouseDb) : SetAside [] s s where
  items := by
    apply Table.ext_rows
    unfold Table.update
    simp
  arrangements _ _ := Iff.rfl

theorem trans (h : SetAside psis s s') (h' : SetAside psis' s' s'') :
    SetAside (psis ++ psis') s s'' where
  items := by
    rw [h'.items, h.items]
    apply Table.ext_rows
    unfold Table.update
    refine List.map_map.trans (List.map_congr_left fun r _ => ?_)
    simp only [Function.comp_apply, List.map_append, List.mem_append, decide_eq_true_eq]
    by_cases hmem : r.id ∈ psis.map PackageSkuItem.id
    · rw [if_pos hmem, if_pos (Or.inl hmem)]
      split <;> rfl
    · rw [if_neg hmem]
      simp only [hmem, false_or]
  arrangements pa hpa := by
    rw [List.map_append, List.mem_append, not_or] at hpa
    exact (h'.arrangements pa hpa.2).trans (h.arrangements pa hpa.1)

end SetAside

theorem setPsi_run (moves : List (Column × Int)) (sku num : Nat) (s : WarehouseDb) :
    ∃ stock : SkuStock, (SkuStock.setPsi moves sku num).run s = (.ok (), { s with
        skuStocks := Function.update s.skuStocks sku stock }) ∧
      (∀ column ∉ moves.map Prod.fst, stock column = s.skuStocks sku column) ∧
      ∀ column ∈ moves.map Prod.fst, column ∈ SkuStock.statColumns →
        stock column = SkuStock.statValue s sku column := by
  refine ⟨_, rfl, fun column hcolumn => ?_, fun column hcolumn hstat => ?_⟩
  · simp only [Option.all_some, decide_eq_true_eq, if_neg hcolumn]
  · simp only [Option.all_some, decide_eq_true_eq, if_pos hcolumn]
    exact if_pos ⟨hcolumn, hstat⟩

theorem ends_batchSetStatusAssigned {E : Exn → Prop} (psis : List PackageSkuItem)
    (s : WarehouseDb) :
    Ends E (PackageSkuItem.batchSetStatusAssigned (psis.map PackageSkuItem.id)) s fun _ s' =>
      SetAside psis s s' ∧ s'.skuStocks = s.skuStocks := by
  unfold PackageSkuItem.batchSetStatusAssigned
  refine Ends.bind (Ends.modify (Ends.gets_bind ?_))
  refine Ends.mono (Q := fun _ t => Bystanders (psis.map PackageSkuItem.id) _ t)
    (ends_cancelEach ?_ ?_) fun _ s' h => ?_
  · exact fun pa hpa => (List.mem_filter.mp hpa).1
  · exact fun pa hpa => (of_decide_eq_true (List.mem_filter.mp hpa).2).1
  · exact ⟨⟨h.items, h.others⟩, h.skuStocks⟩

theorem ends_saveAssigned {E : Exn → Prop} (sku : Nat) (stock : SkuStock)
    (psis : List PackageSkuItem) (s : WarehouseDb) :
    Ends E (SkuStock.saveAssigned sku stock psis) s fun stock' s' =>
      stock' = stock.assigned (SkuStock.pieces psis) ∧ SetAside psis s s' ∧
        s'.skuStocks sku = stock.assigned (SkuStock.pieces psis) := by
  unfold SkuStock.saveAssigned SkuStock.save
  refine Ends.bind (Ends.modify (Ends.bind ?_))
  refine Ends.mono (ends_batchSetStatusAssigned psis _) ?_
  rintro _ s' ⟨haside, hstocks⟩
  refine Ends.pure ⟨rfl, ⟨haside.items, haside.arrangements⟩, ?_⟩
  rw [hstocks]
  exact Function.update_self sku _ s.skuStocks

theorem ends_setStatusBooked2Assigned {E : Exn → Prop} {psi : PackageSkuItem}
    {s : WarehouseDb} (hpsi : psi ∈ s.packageSkuItems) :
    Ends E psi.setStatusBooked2Assigned s fun _ s' => SetAside [psi] s s' := by
  have hitems : s.packageSkuItems.save psi.toAssigned =
      s.packageSkuItems.update (fun item => item.id ∈ [psi].map PackageSkuItem.id)
        PackageSkuItem.toAssigned := by
    have hsave := Table.update_eq_save hpsi PackageSkuItem.toAssigned
    have hone : (fun item : PackageSkuItem => decide (item.id ∈ [psi].map PackageSkuItem.id)) =
        fun item => decide (Row.pk item = Row.pk psi) := by
      funext item
      simp [Row.pk]
    rw [hone, hsave]
    rfl
  unfold PackageSkuItem.setStatusBooked2Assigned PackageSkuItem.save
  refine Ends.bind (Ends.modify ?_)
  obtain ⟨stock, hrun, -⟩ := setPsi_run [(.assignNum, 1), (.psi .booked, -1), (.psi .assigned, 1)]
    psi.skuId psi.num { s with
      packageSkuItems := s.packageSkuItems.save psi.toAssigned }
  refine Ends.bind_run hrun (Ends.gets_bind ?_)
  have hdone : ∀ t, Bystanders [psi.id] { s with
      packageSkuItems := s.packageSkuItems.save psi.toAssigned
      skuStocks := Function.update s.skuStocks psi.skuId stock } t → SetAside [psi] s t :=
    fun t ht => ⟨ht.items.trans hitems, ht.others⟩
  split
  · exact Ends.pure (hdone _ (Bystanders.refl _ _))
  · next pa hpa =>
    have hrow := List.mem_filter.mp (List.mem_of_getLast? hpa)
    refine Ends.ite (fun _ => Ends.pure (hdone _ (Bystanders.refl _ _))) fun _ => ?_
    have hoid : pa.oid ∈ [psi.id] := List.mem_singleton.mpr (of_decide_eq_true hrow.2)
    exact Ends.mono (ends_cancel hrow.1 rfl rfl hoid) fun _ t => hdone t

end ShopManager.Warehouse
