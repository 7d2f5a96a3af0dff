import Mathlib.Algebra.Order.Group.Int
import ShopManager.Library.Execution
import ShopManager.Purchase.Numbering

/-!
# Arrangements and booked orders

The key of an arrangement is fixed when it is made, and a task adds it to the
detail of its SKU later on.  A booking in between marks the arrangement as booked
although the supplier was asked for the detail alone, so an order has to be booked
when its details count all of its arrangements.
-/

namespace ShopManager.Purchase

open Library Library.Tx Library.Execution
open Warehouse (PurchaseKey PurchaseStatus PackageSkuItem)
open PurchaseOrder (genPurchaseOrderUnikey)
open PurchaseArrangement (effectNum)

/-! ## What the syncs leave alone -/

section Sync

variable (s : PurchaseDb)

@[simp] theorem syncOrderList_purchaseOrders (po : PurchaseOrder) :
    (po.syncOrderList s).purchaseOrders = s.purchaseOrders := by
  unfold PurchaseOrder.syncOrderList
  split
  · rfl
  · split <;> rfl

@[simp] theorem syncOrderList_purchaseDetails (po : PurchaseOrder) :
    (po.syncOrderList s).purchaseDetails = s.purchaseDetails := by
  unfold PurchaseOrder.syncOrderList
  split
  · rfl
  · split <;> rfl

@[simp] theorem syncOrderList_purchaseArrangements (po : PurchaseOrder) :
    (po.syncOrderList s).purchaseArrangements = s.purchaseArrangements := by
  unfold PurchaseOrder.syncOrderList
  split
  · rfl
  · split <;> rfl

@[simp] theorem syncOrderDetail_purchaseOrders (pd : PurchaseDetail) :
    (pd.syncOrderDetail s).purchaseOrders = s.purchaseOrders := by
  unfold PurchaseDetail.syncOrderDetail
  split
  · rfl
  · split
    · rfl
    · split <;> rfl

@[simp] theorem syncOrderDetail_purchaseDetails (pd : PurchaseDetail) :
    (pd.syncOrderDetail s).purchaseDetails = s.purchaseDetails := by
  unfold PurchaseDetail.syncOrderDetail
  split
  · rfl
  · split
    · rfl
    · split <;> rfl

@[simp] theorem syncOrderDetail_purchaseArrangements (pd : PurchaseDetail) :
    (pd.syncOrderDetail s).purchaseArrangements = s.purchaseArrangements := by
  unfold PurchaseDetail.syncOrderDetail
  split
  · rfl
  · split
    · rfl
    · split <;> rfl

@[simp] theorem restat_purchaseDetails (key : PurchaseKey) :
    (PurchaseOrder.restat key s).purchaseDetails = s.purchaseDetails := by
  unfold PurchaseOrder.restat
  split
  · rw [syncOrderList_purchaseDetails]
  · rw [syncOrderList_purchaseDetails]

theorem restatDetail_purchaseDetails (pd : PurchaseDetail) :
    (pd.restat s).purchaseDetails =
      if pd.outdated s then s.purchaseDetails.update (fun r => r.id = pd.id)
        (pd.recount s).setTotals
      else s.purchaseDetails := by
  unfold PurchaseDetail.restat
  rw [restat_purchaseDetails, syncOrderDetail_purchaseDetails]
  split
  · rw [PurchaseDetail.saveTotals, PurchaseDetail.recount_id]
  · rfl

theorem recount_mem {pd : PurchaseDetail} (hpd : pd ∈ s.purchaseDetails) :
    pd.recount s ∈ (pd.restat s).purchaseDetails := by
  rw [restatDetail_purchaseDetails]
  by_cases h : pd.outdated s = true
  · rw [if_pos h]
    refine Table.mem_update.2 (Or.inl ⟨pd, hpd, decide_eq_true rfl, ?_⟩)
    unfold PurchaseDetail.recount
    dsimp only
    rw [if_pos h]
    rfl
  · rw [if_neg h]
    unfold PurchaseDetail.recount
    dsimp only
    rw [if_neg h]
    exact hpd

@[simp] theorem restat_purchaseArrangements (key : PurchaseKey) :
    (PurchaseOrder.restat key s).purchaseArrangements = s.purchaseArrangements := by
  unfold PurchaseOrder.restat
  split
  · rw [syncOrderList_purchaseArrangements]
  · rw [syncOrderList_purchaseArrangements]

end Sync

namespace PurchaseDb

def heads (s : PurchaseDb) : List OrderHead := s.purchaseOrders.rows.map PurchaseOrder.head

def Booked (s : PurchaseDb) (key : PurchaseKey) : Prop :=
  ∃ h ∈ s.heads, h.uniKey = key ∧ h.status = .booked

def orderedNum (s : PurchaseDb) (key : PurchaseKey) (sku : Nat) : Int :=
  s.purchaseDetails.sum fun pd =>
    if pd.purchaseOrderUnikey = key ∧ pd.skuId = sku ∧ pd.status = .booked then pd.bookNum
    else 0

def detailNum (s : PurchaseDb) (key : PurchaseKey) (sku : Nat) : Int :=
  s.purchaseDetails.sum fun pd =>
    if pd.purchaseOrderUnikey = key ∧ pd.skuId = sku then pd.bookNum else 0

/-- Every arrangement of a booked order is marked and what was ordered covers it; a
supplier has one open order at most, under the key that the next arrangement gets. -/
structure Remembered (s : PurchaseDb) : Prop where
  booked : ∀ pa ∈ s.purchaseArrangements, pa.status = .effect →
    ∀ key, pa.purchaseOrderUnikey = some key → s.Booked key →
      pa.initialBook = true ∧ effectNum s key pa.skuId ≤ s.orderedNum key pa.skuId
  named : ∀ po ∈ s.purchaseOrders, po.status = .opened →
    ∀ sku, s.suppliers sku = some po.supplierId → genPurchaseOrderUnikey s sku = some po.uniKey
  one : ∀ po ∈ s.purchaseOrders, ∀ po' ∈ s.purchaseOrders, po.status = .opened →
    po'.status = .opened → po.supplierId = po'.supplierId → po = po'

/-- The orders are numbered in turn, the arrangements go to them, and those of booked
orders are marked. -/
structure Filed (s : PurchaseDb) : Prop where
  numbered : Numbered s.heads
  within : ∀ pa ∈ s.purchaseArrangements, ∀ key, pa.purchaseOrderUnikey = some key →
    Within s.heads key
  initialBook : ∀ pa ∈ s.purchaseArrangements, pa.status = .effect →
    ∀ key, pa.purchaseOrderUnikey = some key → s.Booked key → pa.initialBook = true

def Covered (s : PurchaseDb) : Prop :=
  ∀ pa ∈ s.purchaseArrangements, pa.status = .effect →
    ∀ key, pa.purchaseOrderUnikey = some key → s.Booked key →
      effectNum s key pa.skuId ≤ s.orderedNum key pa.skuId

variable {s s' : PurchaseDb}

theorem head_mem {po : PurchaseOrder} (h : po ∈ s.purchaseOrders) : po.head ∈ s.heads :=
  List.mem_map_of_mem h

theorem genPurchaseOrderUnikey_eq (s : PurchaseDb) (sku : Nat) :
    genPurchaseOrderUnikey s sku =
      (s.suppliers sku).map fun supplier => ⟨supplier, closedCount s.heads supplier + 1⟩ := by
  unfold genPurchaseOrderUnikey closedCount heads Table.filter
  simp only [List.filter_map, List.length_map]
  rfl

variable {key : PurchaseKey}

theorem Filed.closed_le (hs : s.Filed) (h : s.Booked key) :
    key.number ≤ closedCount s.heads key.supplierId := by
  obtain ⟨h, hmem, rfl, hstatus⟩ := h
  exact (hs.numbered.closed h hmem (by rw [hstatus]; decide)).2

theorem within_gen {sku : Nat}
    (h : genPurchaseOrderUnikey s sku = some key) : Within s.heads key := by
  rw [genPurchaseOrderUnikey_eq] at h
  obtain ⟨supplier, _, rfl⟩ := Option.map_eq_some_iff.1 h
  exact ⟨Nat.le_add_left .., le_refl _⟩

theorem Filed.not_booked_gen (hs : s.Filed) {sku : Nat}
    (h : genPurchaseOrderUnikey s sku = some key) : ¬ s.Booked key := by
  intro hbooked
  have hle := hs.closed_le hbooked
  rw [genPurchaseOrderUnikey_eq] at h
  obtain ⟨supplier, _, rfl⟩ := Option.map_eq_some_iff.1 h
  exact absurd hle (Nat.not_succ_le_self _)

theorem Filed.remembered_iff (hs : s.Filed) : s.Remembered ↔ s.Covered := by
  constructor
  · intro h pa hpa heffect key hkey hbooked
    exact (h.booked pa hpa heffect key hkey hbooked).2
  · intro h
    have hunique : ∀ po ∈ s.purchaseOrders, ∀ po' ∈ s.purchaseOrders, po.uniKey = po'.uniKey →
        po = po' := by
      have hnodup := hs.numbered.unique
      unfold heads at hnodup
      rw [List.map_map] at hnodup
      exact fun po hpo po' hpo' heq => List.inj_on_of_nodup_map hnodup hpo hpo' heq
    have hnumber : ∀ po ∈ s.purchaseOrders, po.status = .opened →
        po.uniKey = ⟨po.supplierId, closedCount s.heads po.supplierId + 1⟩ := by
      intro po hpo hopen
      have hsupplier : po.supplierId = po.uniKey.supplierId :=
        hs.numbered.supplier _ (head_mem hpo)
      have hnum : po.uniKey.number = closedCount s.heads po.uniKey.supplierId + 1 :=
        hs.numbered.opened _ (head_mem hpo) hopen
      rw [hsupplier, ← hnum]
    refine ⟨?_, ?_, ?_⟩
    · intro pa hpa heffect key hkey hbooked
      exact ⟨hs.initialBook pa hpa heffect key hkey hbooked,
        h pa hpa heffect key hkey hbooked⟩
    · intro po hpo hopen sku hsku
      rw [genPurchaseOrderUnikey_eq, hsku, hnumber po hpo hopen]
      rfl
    · intro po hpo po' hpo' hopen hopen' hsupplier
      apply hunique po hpo po' hpo'
      rw [hnumber po hpo hopen, hnumber po' hpo' hopen', hsupplier]

structure Quiet (s s' : PurchaseDb) : Prop where
  closedCount_eq : closedCount s'.heads = closedCount s.heads
  booked : ∀ key, s'.Booked key → s.Booked key
  arrangement : ∀ pa' ∈ s'.purchaseArrangements, pa'.status = .effect →
    ∀ key, pa'.purchaseOrderUnikey = some key → s'.Booked key →
      ∃ pa ∈ s.purchaseArrangements, pa.status = .effect ∧
        pa.purchaseOrderUnikey = some key ∧ pa.skuId = pa'.skuId ∧
          pa.initialBook = pa'.initialBook
  effectNum_le : ∀ key, s'.Booked key → ∀ sku, effectNum s' key sku ≤ effectNum s key sku
  orderedNum_eq : ∀ key sku, s'.orderedNum key sku = s.orderedNum key sku

theorem Quiet.refl (s : PurchaseDb) : Quiet s s where
  closedCount_eq := rfl
  booked _ h := h
  arrangement pa hpa heffect _ hkey _ := ⟨pa, hpa, heffect, hkey, rfl, rfl⟩
  effectNum_le _ _ _ := le_refl _
  orderedNum_eq _ _ := rfl

theorem Quiet.trans {s'' : PurchaseDb} (h : Quiet s s') (h' : Quiet s' s'') :
    Quiet s s'' where
  closedCount_eq := h'.closedCount_eq.trans h.closedCount_eq
  booked key hbooked := h.booked key (h'.booked key hbooked)
  arrangement pa'' hpa'' heffect'' key hkey'' hbooked := by
    obtain ⟨pa', hpa', heffect', hkey', hsku', hbook'⟩ :=
      h'.arrangement pa'' hpa'' heffect'' key hkey'' hbooked
    obtain ⟨pa, hpa, heffect, hkey, hsku, hbook⟩ :=
      h.arrangement pa' hpa' heffect' key hkey' (h'.booked key hbooked)
    exact ⟨pa, hpa, heffect, hkey, hsku.trans hsku', hbook.trans hbook'⟩
  effectNum_le key hbooked sku :=
    (h'.effectNum_le key hbooked sku).trans (h.effectNum_le key (h'.booked key hbooked) sku)
  orderedNum_eq key sku := (h'.orderedNum_eq key sku).trans (h.orderedNum_eq key sku)

theorem Quiet.covered (h : Quiet s s') (hs : s.Covered) : s'.Covered := by
  intro pa' hpa' heffect' key hkey' hbooked
  obtain ⟨pa, hpa, heffect, hkey, hsku, _⟩ :=
    h.arrangement pa' hpa' heffect' key hkey' hbooked
  rw [← hsku]
  calc effectNum s' key pa.skuId
      ≤ effectNum s key pa.skuId := h.effectNum_le key hbooked _
    _ ≤ s.orderedNum key pa.skuId := hs pa hpa heffect key hkey (h.booked key hbooked)
    _ = s'.orderedNum key pa.skuId := (h.orderedNum_eq key _).symm

theorem Quiet.initialBook (h : Quiet s s') (hs : s.Filed) :
    ∀ pa ∈ s'.purchaseArrangements, pa.status = .effect →
      ∀ key, pa.purchaseOrderUnikey = some key → s'.Booked key → pa.initialBook = true := by
  intro pa' hpa' heffect' key hkey' hbooked
  obtain ⟨pa, hpa, heffect, hkey, _, hbook⟩ :=
    h.arrangement pa' hpa' heffect' key hkey' hbooked
  rw [← hbook]
  exact hs.initialBook pa hpa heffect key hkey (h.booked key hbooked)

/-- A state reached from `s₀` by steps that book nothing. -/
structure Reached (s₀ s : PurchaseDb) : Prop where
  filed : s.Filed
  quiet : Quiet s₀ s

/-! ## One statement after the other -/

variable {pa : PurchaseArrangement}

section Statements

variable {s₀ : PurchaseDb}

theorem Reached.refl (hs : s.Filed) : Reached s s := ⟨hs, Quiet.refl s⟩

theorem Reached.within (h : Reached s₀ s) (hkey : Within s₀.heads key) :
    Within s.heads key := by
  unfold Within
  rw [h.quiet.closedCount_eq]
  exact hkey

theorem Reached.step (h : Reached s₀ s) (hq : Quiet s s') (hn : Numbered s'.heads)
    (hw : ∀ pa ∈ s'.purchaseArrangements, ∀ key, pa.purchaseOrderUnikey = some key →
      Within s'.heads key) : Reached s₀ s' where
  filed := ⟨hn, hw, hq.initialBook h.filed⟩
  quiet := h.quiet.trans hq

theorem effectNum_congr (h : s'.purchaseArrangements = s.purchaseArrangements)
    (key : PurchaseKey) (sku : Nat) : effectNum s' key sku = effectNum s key sku := by
  unfold effectNum
  rw [h]

theorem Quiet.of_heads (hheads : s'.heads = s.heads)
    (ha : s'.purchaseArrangements = s.purchaseArrangements)
    (hd : ∀ key sku, s'.orderedNum key sku = s.orderedNum key sku) : Quiet s s' where
  closedCount_eq := by rw [hheads]
  booked key h := by
    unfold Booked at h
    rw [hheads] at h
    exact h
  arrangement pa hpa heffect key hkey _ := ⟨pa, ha ▸ hpa, heffect, hkey, rfl, rfl⟩
  effectNum_le key _ sku := (effectNum_congr ha key sku).le
  orderedNum_eq := hd

theorem Reached.of_heads (h : Reached s₀ s) (hheads : s'.heads = s.heads)
    (ha : s'.purchaseArrangements = s.purchaseArrangements)
    (hd : ∀ key sku, s'.orderedNum key sku = s.orderedNum key sku) : Reached s₀ s' := by
  apply h.step (Quiet.of_heads hheads ha hd)
  · rw [hheads]
    exact h.filed.numbered
  · rw [hheads, ha]
    exact h.filed.within

theorem orderedNum_congr (h : s'.purchaseDetails = s.purchaseDetails) (key : PurchaseKey)
    (sku : Nat) : s'.orderedNum key sku = s.orderedNum key sku := by
  unfold orderedNum
  rw [h]

theorem Reached.of_opening (h : Reached s₀ s) (hkey : Within s₀.heads key)
    (hnew : ∀ o ∈ s.heads, o.uniKey ≠ key) (hheads : s'.heads = s.heads ++ [OrderHead.opening key])
    (ha : s'.purchaseArrangements = s.purchaseArrangements)
    (hd : s'.purchaseDetails = s.purchaseDetails) : Reached s₀ s' := by
  have hcount : closedCount s'.heads = closedCount s.heads := by
    rw [hheads]
    exact funext (closedCount_append_opening s.heads key)
  have hquiet : Quiet s s' :=
    { closedCount_eq := hcount
      booked := by
        rintro k ⟨o, hmem, hok, hstatus⟩
        rw [hheads] at hmem
        rcases List.mem_append.1 hmem with hmem | hmem
        · exact ⟨o, hmem, hok, hstatus⟩
        · rw [List.mem_singleton.1 hmem] at hstatus
          cases hstatus
      arrangement := fun pa hpa heffect k hk _ => ⟨pa, ha ▸ hpa, heffect, hk, rfl, rfl⟩
      effectNum_le := fun k _ sku => (effectNum_congr ha k sku).le
      orderedNum_eq := orderedNum_congr hd }
  apply h.step hquiet
  · rw [hheads]
    exact h.filed.numbered.append_opening (h.within hkey) hnew
  · unfold Within
    rw [hcount, ha]
    exact h.filed.within

theorem heads_save {po po' : PurchaseOrder} (hpo : po ∈ s.purchaseOrders)
    (hid : po'.id = po.id) (hhead : po'.head = po.head) :
    (s.purchaseOrders.save po').rows.map PurchaseOrder.head = s.heads := by
  unfold Table.save Table.update heads
  rw [List.map_map]
  apply List.map_congr_left
  intro r hr
  simp only [Function.comp_apply]
  split
  · rename_i h
    have hpk : r = po := Table.pk_inj hr hpo ((of_decide_eq_true h).trans hid)
    rw [hpk, ← hhead]
    rfl
  · rfl

theorem recount_head (po : PurchaseOrder) : (po.recount s).head = po.head := by
  unfold PurchaseOrder.recount
  dsimp only
  split <;> rfl

theorem Reached.restat (h : Reached s₀ s) (hkey : Within s₀.heads key) :
    Reached s₀ (PurchaseOrder.restat key s) := by
  have ha := restat_purchaseArrangements s key
  have hd := restat_purchaseDetails s key
  unfold PurchaseOrder.restat at ha hd ⊢
  cases hfirst : s.purchaseOrders.first fun po => po.uniKey = key with
  | none =>
    rw [hfirst] at ha hd
    refine h.of_opening hkey ?_ ?_ ha hd
    · intro o ho
      obtain ⟨po, hpo, rfl⟩ := List.mem_map.1 ho
      exact of_decide_eq_false (Table.first_eq_none.1 hfirst po hpo)
    · dsimp only
      unfold heads
      rw [syncOrderList_purchaseOrders]
      simp only [Table.insert, List.map_append, List.map_cons, List.map_nil]
      rfl
  | some po =>
    rw [hfirst] at ha hd
    refine h.of_heads ?_ ha (orderedNum_congr hd)
    dsimp only
    unfold heads
    rw [syncOrderList_purchaseOrders]
    exact heads_save (Table.mem_of_first hfirst) (po.recount_id s) (recount_head po)

theorem Reached.syncOrderDetail (h : Reached s₀ s) (pd : PurchaseDetail) :
    Reached s₀ (pd.syncOrderDetail s) := by
  apply h.of_heads
  · unfold heads
    rw [syncOrderDetail_purchaseOrders]
  · exact syncOrderDetail_purchaseArrangements s pd
  · exact orderedNum_congr (syncOrderDetail_purchaseDetails s pd)

theorem Reached.createDetail (h : Reached s₀ s) (hkey : Within s₀.heads key) (sku : Nat) :
    Reached s₀ (PurchaseDetail.create sku key s) := by
  unfold PurchaseDetail.create
  refine Reached.restat (Reached.syncOrderDetail ?_ _) hkey
  refine h.of_heads rfl rfl ?_
  intro k sku'
  unfold orderedNum
  rw [Table.sum_insert, if_neg (fun hbooked => by cases hbooked.2.2), add_zero]

theorem Reached.restatDetail (h : Reached s₀ s) {pd : PurchaseDetail}
    (hpd : pd ∈ s.purchaseDetails) (hopen : pd.isOpen = true)
    (hkey : Within s₀.heads pd.purchaseOrderUnikey) : Reached s₀ (pd.restat s) := by
  unfold PurchaseDetail.restat
  refine Reached.restat (Reached.syncOrderDetail ?_ _) hkey
  split
  · refine h.of_heads rfl rfl ?_
    intro k sku
    unfold orderedNum
    dsimp only [PurchaseDetail.saveTotals]
    rw [Table.sum_update]
    apply Table.sum_congr
    intro r hr
    split
    · rename_i hid
      rw [PurchaseDetail.recount_id] at hid
      have hrow : r = pd := Table.pk_inj hr hpd (of_decide_eq_true hid)
      have hstatus : r.status = .opened := by
        rw [hrow]
        exact of_decide_eq_true hopen
      have hne : r.status ≠ .booked := by
        rw [hstatus]
        decide
      rw [if_neg (fun hbooked => hne hbooked.2.2), if_neg (fun hbooked => hne hbooked.2.2)]
    · rfl
  · exact h

theorem Reached.of_update (h : Reached s₀ s) {p : PurchaseArrangement → Bool}
    {f : PurchaseArrangement → PurchaseArrangement}
    (hf : ∀ r ∈ s.purchaseArrangements, p r = true → (f r).status = .effect →
      ∀ key, (f r).purchaseOrderUnikey = some key → s.Booked key →
        r.status = .effect ∧ r.purchaseOrderUnikey = some key ∧ r.skuId = (f r).skuId ∧
          r.initialBook = (f r).initialBook ∧ r.num = (f r).num)
    (hw : ∀ r ∈ s.purchaseArrangements, p r = true → ∀ key,
      (f r).purchaseOrderUnikey = some key → Within s.heads key) :
    Reached s₀ { s with purchaseArrangements := s.purchaseArrangements.update p f } := by
  have hquiet : Quiet s { s with purchaseArrangements := s.purchaseArrangements.update p f } :=
    { closedCount_eq := rfl
      booked := fun key hbooked => hbooked
      arrangement := by
        intro pa' hpa' heffect key hkey hbooked
        rcases Table.mem_update.1 hpa' with ⟨r, hr, hp, rfl⟩ | ⟨hr, _⟩
        · obtain ⟨hre, hrk, hrs, hrb, _⟩ := hf r hr hp heffect key hkey hbooked
          exact ⟨r, hr, hre, hrk, hrs, hrb⟩
        · exact ⟨pa', hr, heffect, hkey, rfl, rfl⟩
      effectNum_le := by
        intro key hbooked sku
        unfold PurchaseArrangement.effectNum
        rw [Table.sum_update]
        apply Table.sum_le_sum
        intro r hr
        split
        · rename_i hp
          split
          · rename_i hcond
            obtain ⟨hrk, hrs, hre⟩ := hcond
            obtain ⟨hre', hrk', hrs', _, hrn⟩ := hf r hr hp hre key hrk hbooked
            rw [if_pos ⟨hrk', hrs'.trans hrs, hre'⟩, hrn]
            exact le_refl _
          · split
            · exact Int.natCast_nonneg _
            · exact le_refl _
        · exact le_refl _
      orderedNum_eq := fun _ _ => rfl }
  apply h.step hquiet h.filed.numbered
  intro pa' hpa' key hkey
  rcases Table.mem_update.1 hpa' with ⟨r, hr, hp, rfl⟩ | ⟨hr, _⟩
  · exact hw r hr hp key hkey
  · exact h.filed.within pa' hr key hkey

theorem Reached.setGenOrder (h : Reached s₀ s) (id : Nat) :
    Reached s₀ (PurchaseArrangement.setGenOrder id s) := by
  apply h.of_update
  · intro r _ _ heffect key hkey _
    exact ⟨heffect, hkey, rfl, rfl, rfl⟩
  · intro r hr _ key hkey
    exact h.filed.within r hr key hkey

theorem Reached.saveCanceled (h : Reached s₀ s)
    (hkey : ∀ key, pa.purchaseOrderUnikey = some key → Within s₀.heads key) :
    Reached s₀ (PurchaseArrangement.save { pa with status := .cancel } s) := by
  apply h.of_update
  · intro r _ _ heffect
    cases heffect
  · intro r _ _ key hsome
    exact h.within (hkey key hsome)

theorem Reached.move (h : Reached s₀ s) (psi : PackageSkuItem) (hfree : pa.initialBook = false) :
    Reached s₀ { s with
      purchaseArrangements := s.purchaseArrangements.update (fun r => r.id = pa.id)
        (PurchaseArrangement.moveTo (pa.resetPurchaseOrder s psi)) } := by
  have hkey : (pa.resetPurchaseOrder s psi).purchaseOrderUnikey =
      genPurchaseOrderUnikey s psi.skuId := by
    unfold PurchaseArrangement.resetPurchaseOrder
    rw [hfree]
    rfl
  apply h.of_update
  · intro r _ _ _ key hmoved hbooked
    exact absurd hbooked (h.filed.not_booked_gen (hkey.symm.trans hmoved))
  · intro r _ _ key hmoved
    exact within_gen (hkey.symm.trans hmoved)

theorem Reached.insert (h : Reached s₀ s) (psi : PackageSkuItem) :
    Reached s₀ { s with
      purchaseArrangements := s.purchaseArrangements.insert
        (PurchaseArrangement.ofItem s psi) } := by
  have hnew : ∀ pa' ∈ s.purchaseArrangements.insert (PurchaseArrangement.ofItem s psi),
      pa' ∈ s.purchaseArrangements ∨
        pa'.purchaseOrderUnikey = genPurchaseOrderUnikey s psi.skuId := by
    intro pa' hpa'
    rcases Table.mem_insert.1 hpa' with hpa' | rfl
    · exact Or.inl hpa'
    · exact Or.inr rfl
  have hquiet : Quiet s { s with
      purchaseArrangements := s.purchaseArrangements.insert
        (PurchaseArrangement.ofItem s psi) } :=
    { closedCount_eq := rfl
      booked := fun key hbooked => hbooked
      arrangement := by
        intro pa' hpa' heffect key hkey hbooked
        rcases hnew pa' hpa' with hold | hgen
        · exact ⟨pa', hold, heffect, hkey, rfl, rfl⟩
        · exact absurd hbooked (h.filed.not_booked_gen (hgen.symm.trans hkey))
      effectNum_le := by
        intro key hbooked sku
        unfold PurchaseArrangement.effectNum
        rw [Table.sum_insert, if_neg, add_zero]
        rintro ⟨hgen, _⟩
        exact h.filed.not_booked_gen hgen hbooked
      orderedNum_eq := fun _ _ => rfl }
  apply h.step hquiet h.filed.numbered
  intro pa' hpa' key hkey
  rcases hnew pa' hpa' with hold | hgen
  · exact h.filed.within pa' hold key hkey
  · exact within_gen (hgen.symm.trans hkey)

end Statements

/-! ## The methods of an arrangement -/

section Methods

variable {s₀ : PurchaseDb}

open PurchaseArrangement

theorem get_reached {method : PurchaseArrangement → PurchaseTx Unit} (id : Nat)
    (hmethod : ∀ pa : PurchaseArrangement,
      (∀ key, pa.purchaseOrderUnikey = some key → Within s₀.heads key) →
        Preserves (Reached s₀) (method pa)) :
    Preserves (Reached s₀) (PurchaseArrangement.get id >>= method) := by
  apply Preserves.getOr_bind
  intro s pa h hget
  refine hmethod pa ?_ s h
  intro key hkey
  have hwithin := h.filed.within pa (Table.get?_eq_some.1 hget).1 key hkey
  unfold Within at hwithin
  rw [h.quiet.closedCount_eq] at hwithin
  exact hwithin

theorem skuitem_reached {method : PackageSkuItem → PurchaseTx Unit} (oid : Nat)
    (hmethod : ∀ psi, Preserves (Reached s₀) (method psi)) :
    Preserves (Reached s₀) (skuitem oid >>= method) := by
  apply Preserves.getOr_bind
  intro s psi h _
  exact hmethod psi s h

theorem setStatusPrepareBook_reached (oid : Nat) :
    Preserves (Reached s₀) (setStatusPrepareBook oid) := by
  unfold setStatusPrepareBook skuitem
  apply Preserves.getOr_bind
  intro s psi h _
  exact h.of_heads rfl rfl fun _ _ => rfl

theorem orderDetail_reached {closed : PurchaseTx Unit}
    (hkey : Within s₀.heads key) (hclosed : Preserves (Reached s₀) closed) (sku : Nat) :
    Preserves (Reached s₀) (orderDetail closed sku key) := by
  unfold orderDetail
  apply Preserves.gets_bind
  intro s h
  cases hfind : PurchaseDetail.find s sku key with
  | none => exact h.createDetail hkey sku
  | some pd =>
    dsimp only
    by_cases hopen : pd.isOpen = true
    · rw [if_pos hopen]
      obtain ⟨hmem, _, hpd⟩ := PurchaseDetail.find_spec hfind
      refine h.restatDetail hmem hopen ?_
      rw [hpd]
      exact hkey
    · rw [if_neg hopen]
      exact hclosed s h

theorem generateOrderWith_reached {closed : PurchaseArrangement → PurchaseTx Unit}
    (hkey : ∀ key, pa.purchaseOrderUnikey = some key → Within s₀.heads key)
    (hclosed : Preserves (Reached s₀) (closed pa)) :
    Preserves (Reached s₀) (generateOrderWith closed pa) := by
  unfold generateOrderWith
  split
  · exact Preserves.pure ()
  · rename_i key hsome
    apply Preserves.bind
    · exact Preserves.modify fun s h => h.setGenOrder pa.id
    · intro _
      apply Preserves.bind
      · exact orderDetail_reached (hkey key hsome) hclosed pa.skuId
      · intro _
        exact setStatusPrepareBook_reached pa.oid

theorem retryOrder_reached (pa : PurchaseArrangement) :
    Preserves (Reached s₀) (retryOrder pa) := by
  unfold retryOrder
  apply Preserves.ite
  · intro _
    exact Preserves.raise _
  · intro hfree
    apply skuitem_reached
    intro psi
    apply Preserves.gets_bind
    intro s h
    rw [raiseIf_bind_run]
    split
    · exact h
    · rw [modify_bind_run]
      have hmoved := h.move psi (Bool.eq_false_iff.2 hfree)
      refine get_reached pa.id ?_ _ hmoved
      intro moved hkey
      exact generateOrderWith_reached hkey (Preserves.raise _)

theorem generateOrder_reached
    (hkey : ∀ key, pa.purchaseOrderUnikey = some key → Within s₀.heads key) (retry : Bool) :
    Preserves (Reached s₀) (pa.generateOrder retry) := by
  apply generateOrderWith_reached hkey
  cases retry with
  | true => exact retryOrder_reached pa
  | false => exact Preserves.raise _

theorem create_reached (psi : PackageSkuItem) :
    Preserves (Reached s₀) (PurchaseArrangement.create psi) := by
  apply Preserves.gets_bind
  intro s h
  rw [raiseIf_bind_run]
  split
  · exact h
  · exact h.insert psi

theorem cancelDetail_reached (hkey : Within s₀.heads key) (sku : Nat) :
    Preserves (Reached s₀) (cancelDetail sku key) := by
  unfold cancelDetail
  apply Preserves.gets_bind
  intro s h
  cases hfind : (PurchaseDetail.find s sku key).filter PurchaseDetail.isOpen with
  | none => exact h
  | some pd =>
    obtain ⟨hsome, hopen⟩ := Option.filter_eq_some_iff.1 hfind
    obtain ⟨hmem, _, hpd⟩ := PurchaseDetail.find_spec hsome
    dsimp only
    rw [gets_bind_run, modify_bind_run, modify_run]
    dsimp only
    rw [Table.save_of_mem (recount_mem s hmem)]
    refine h.restatDetail hmem hopen ?_
    rw [hpd]
    exact hkey

theorem cancel_reached (hkey : ∀ key, pa.purchaseOrderUnikey = some key → Within s₀.heads key) :
    Preserves (Reached s₀) (cancel pa) := by
  unfold cancel
  apply Preserves.ite
  · intro _
    exact Preserves.pure ()
  · intro _
    apply Preserves.bind
    · exact Preserves.modify fun s h => h.saveCanceled hkey
    · intro _
      split
      · exact Preserves.pure ()
      · rename_i key hsome
        exact cancelDetail_reached (hkey key hsome) pa.skuId

end Methods

/-! ## Booking -/

section Booking

variable {po : PurchaseOrder} (thirdPackage : Bool)

def Ready (s : PurchaseDb) (po : PurchaseOrder) : Prop :=
  ∀ pa ∈ s.purchaseArrangements, pa.status = .effect →
    pa.purchaseOrderUnikey = some po.uniKey →
      effectNum s po.uniKey pa.skuId ≤ s.detailNum po.uniKey pa.skuId

instance (s : PurchaseDb) (po : PurchaseOrder) : Decidable (s.Ready po) :=
  inferInstanceAs (Decidable (∀ pa ∈ s.purchaseArrangements.rows, pa.status = .effect →
    pa.purchaseOrderUnikey = some po.uniKey →
      effectNum s po.uniKey pa.skuId ≤ s.detailNum po.uniKey pa.skuId))

theorem book_heads (hs : s.Filed) (hpo : po ∈ s.purchaseOrders) :
    (po.book thirdPackage s).heads = s.heads.map (OrderHead.booking po.uniKey) := by
  unfold PurchaseOrder.book heads Table.save Table.update
  rw [List.map_map, List.map_map]
  apply List.map_congr_left
  intro r hr
  simp only [Function.comp_apply]
  split
  · rename_i hid
    have hrow : r = po := Table.pk_inj hr hpo (of_decide_eq_true hid)
    rw [hrow]
    exact (if_pos rfl).symm
  · rename_i hid
    rw [booking_of_ne]
    intro hkey
    have hunique := hs.numbered.unique
    unfold heads at hunique
    rw [List.map_map] at hunique
    have hrow : r = po := List.inj_on_of_nodup_map hunique hr hpo hkey
    rw [hrow] at hid
    exact hid (decide_eq_true rfl)

theorem book_booked (hs : s.Filed) (hpo : po ∈ s.purchaseOrders) (key : PurchaseKey) :
    (po.book thirdPackage s).Booked key ↔ s.Booked key ∨ key = po.uniKey := by
  unfold Booked
  rw [book_heads thirdPackage hs hpo]
  constructor
  · rintro ⟨h', hmem, rfl, hstatus⟩
    obtain ⟨h, hh, rfl⟩ := List.mem_map.1 hmem
    rw [booking_uniKey]
    by_cases heq : h.uniKey = po.uniKey
    · exact Or.inr heq
    · rw [booking_of_ne heq] at hstatus
      exact Or.inl ⟨h, hh, rfl, hstatus⟩
  · rintro (⟨h, hh, rfl, hstatus⟩ | rfl)
    · refine ⟨_, List.mem_map_of_mem hh, booking_uniKey h, ?_⟩
      by_cases heq : h.uniKey = po.uniKey
      · exact booking_self heq
      · rw [booking_of_ne heq]
        exact hstatus
    · exact ⟨_, List.mem_map_of_mem (head_mem hpo), booking_uniKey _, booking_self rfl⟩

@[simp] theorem setBooked_status (key : PurchaseKey) (r : PurchaseArrangement) :
    (PurchaseOrder.setBooked key r).status = r.status := by
  unfold PurchaseOrder.setBooked
  split <;> rfl

@[simp] theorem setBooked_purchaseOrderUnikey (key : PurchaseKey) (r : PurchaseArrangement) :
    (PurchaseOrder.setBooked key r).purchaseOrderUnikey = r.purchaseOrderUnikey := by
  unfold PurchaseOrder.setBooked
  split <;> rfl

@[simp] theorem setBooked_skuId (key : PurchaseKey) (r : PurchaseArrangement) :
    (PurchaseOrder.setBooked key r).skuId = r.skuId := by
  unfold PurchaseOrder.setBooked
  split <;> rfl

@[simp] theorem setBooked_num (key : PurchaseKey) (r : PurchaseArrangement) :
    (PurchaseOrder.setBooked key r).num = r.num := by
  unfold PurchaseOrder.setBooked
  split <;> rfl

theorem mem_book {pa' : PurchaseArrangement} :
    pa' ∈ (po.book thirdPackage s).purchaseArrangements ↔
      ∃ pa ∈ s.purchaseArrangements,
        pa' = Row.withPk (Row.pk pa) (PurchaseOrder.setBooked po.uniKey pa) := by
  unfold PurchaseOrder.book
  dsimp only
  rw [Table.mem_update]
  constructor
  · rintro (⟨r, hr, _, rfl⟩ | ⟨_, hfalse⟩)
    · exact ⟨r, hr, rfl⟩
    · cases hfalse
  · rintro ⟨r, hr, rfl⟩
    exact Or.inl ⟨r, hr, rfl, rfl⟩

theorem book_effectNum (key : PurchaseKey) (sku : Nat) :
    effectNum (po.book thirdPackage s) key sku = effectNum s key sku := by
  unfold PurchaseOrder.book PurchaseArrangement.effectNum
  dsimp only
  rw [Table.sum_update]
  apply Table.sum_congr
  intro r _
  rw [if_pos rfl]
  show (if (PurchaseOrder.setBooked po.uniKey r).purchaseOrderUnikey = some key ∧
      (PurchaseOrder.setBooked po.uniKey r).skuId = sku ∧
        (PurchaseOrder.setBooked po.uniKey r).status = .effect then
      ((PurchaseOrder.setBooked po.uniKey r).num : Int) else 0) = _
  rw [setBooked_purchaseOrderUnikey, setBooked_skuId, setBooked_status, setBooked_num]

theorem book_orderedNum (key : PurchaseKey) (sku : Nat) :
    (po.book thirdPackage s).orderedNum key sku =
      if key = po.uniKey then s.detailNum key sku else s.orderedNum key sku := by
  unfold PurchaseOrder.book orderedNum detailNum
  dsimp only
  rw [Table.sum_update]
  by_cases hkey : key = po.uniKey
  · rw [if_pos hkey]
    apply Table.sum_congr
    intro r _
    by_cases hr : r.purchaseOrderUnikey = po.uniKey
    · rw [if_pos (decide_eq_true hr)]
      show (if r.purchaseOrderUnikey = key ∧ r.skuId = sku ∧
        PurchaseStatus.booked = PurchaseStatus.booked then r.bookNum else 0) = _
      simp
    · rw [if_neg (by simpa using hr), if_neg, if_neg]
      · exact fun h => hr (h.1.trans hkey)
      · exact fun h => hr (h.1.trans hkey)
  · rw [if_neg hkey]
    apply Table.sum_congr
    intro r _
    by_cases hr : r.purchaseOrderUnikey = po.uniKey
    · have hne : r.purchaseOrderUnikey ≠ key := fun h => hkey (h.symm.trans hr)
      rw [if_pos (decide_eq_true hr), if_neg (fun h => hne h.1), if_neg (fun h => hne h.1)]
    · rw [if_neg (by simpa using hr)]

theorem Filed.book (hs : s.Filed) (hpo : po ∈ s.purchaseOrders) (hopen : po.status = .opened) :
    (po.book thirdPackage s).Filed where
  numbered := by
    rw [book_heads thirdPackage hs hpo]
    exact hs.numbered.booking (head_mem hpo) rfl hopen
  within := by
    intro pa' hpa' key hkey
    obtain ⟨pa, hpa, rfl⟩ := (mem_book thirdPackage).1 hpa'
    have hkey' : pa.purchaseOrderUnikey = some key :=
      (setBooked_purchaseOrderUnikey po.uniKey pa).symm.trans hkey
    obtain ⟨hpos, hle⟩ := hs.within pa hpa key hkey'
    have hcount : closedCount (s.heads.map (OrderHead.booking po.uniKey)) key.supplierId =
        closedCount s.heads key.supplierId + if po.uniKey.supplierId = key.supplierId then 1 else 0 :=
      closedCount_booking hs.numbered (head_mem hpo) rfl hopen key.supplierId
    refine ⟨hpos, ?_⟩
    rw [book_heads thirdPackage hs hpo, hcount]
    omega
  initialBook := by
    intro pa' hpa' heffect key hkey hbooked
    obtain ⟨pa, hpa, rfl⟩ := (mem_book thirdPackage).1 hpa'
    have hkey' : pa.purchaseOrderUnikey = some key :=
      (setBooked_purchaseOrderUnikey po.uniKey pa).symm.trans hkey
    have heffect' : pa.status = .effect := (setBooked_status po.uniKey pa).symm.trans heffect
    show (PurchaseOrder.setBooked po.uniKey pa).initialBook = true
    unfold PurchaseOrder.setBooked
    by_cases heq : key = po.uniKey
    · rw [if_pos ⟨by rw [hkey', heq], heffect'⟩]
    · rw [if_neg]
      · apply hs.initialBook pa hpa heffect' key hkey'
        exact ((book_booked thirdPackage hs hpo key).1 hbooked).resolve_right heq
      · rintro ⟨hsame, _⟩
        exact heq (Option.some.inj (hkey'.symm.trans hsame))

theorem book_covered_iff (hs : s.Filed) (hc : s.Covered) (hpo : po ∈ s.purchaseOrders) :
    (po.book thirdPackage s).Covered ↔ s.Ready po := by
  constructor
  · intro h pa hpa heffect hkey
    have hcovered := h _ ((mem_book thirdPackage).2 ⟨pa, hpa, rfl⟩)
      ((setBooked_status po.uniKey pa).trans heffect) po.uniKey
      ((setBooked_purchaseOrderUnikey po.uniKey pa).trans hkey)
      ((book_booked thirdPackage hs hpo _).2 (Or.inr rfl))
    rw [book_effectNum, book_orderedNum, if_pos rfl] at hcovered
    have hsku : (PurchaseOrder.setBooked po.uniKey pa).skuId = pa.skuId := setBooked_skuId ..
    rw [← hsku]
    exact hcovered
  · intro h pa' hpa' heffect key hkey hbooked
    obtain ⟨pa, hpa, rfl⟩ := (mem_book thirdPackage).1 hpa'
    have hkey' : pa.purchaseOrderUnikey = some key :=
      (setBooked_purchaseOrderUnikey po.uniKey pa).symm.trans hkey
    have heffect' : pa.status = .effect := (setBooked_status po.uniKey pa).symm.trans heffect
    rw [book_effectNum, book_orderedNum]
    show effectNum s key (PurchaseOrder.setBooked po.uniKey pa).skuId ≤
      if key = po.uniKey then s.detailNum key (PurchaseOrder.setBooked po.uniKey pa).skuId
      else s.orderedNum key (PurchaseOrder.setBooked po.uniKey pa).skuId
    rw [setBooked_skuId]
    by_cases heq : key = po.uniKey
    · rw [if_pos heq, heq]
      exact h pa hpa heffect' (hkey'.trans (congrArg some heq))
    · rw [if_neg heq]
      exact hc pa hpa heffect' key hkey'
        (((book_booked thirdPackage hs hpo key).1 hbooked).resolve_right heq)

end Booking

end PurchaseDb

/-! ## Runs -/

/-- What happens to the tables, in any order.  A task runs `generate_order` once; the
method is also called by hand, with a second round where an item lost its stock. -/
inductive PurchaseOp where
  | create (psi : Nat)
  | task (pa : Nat)
  | generateOrder (pa : Nat) (retry : Bool)
  | book (order : Nat) (thirdPackage : Bool)
  | cancel (pa : Nat)
  deriving DecidableEq, Repr

namespace PurchaseOp

open PurchaseArrangement (skuitem get taskUpdatePurchasedetail)

def exec (op : PurchaseOp) (s : PurchaseDb) : PurchaseDb :=
  match op with
  | create psi => ((skuitem psi >>= PurchaseArrangement.create).run s).2
  | task pa => ((taskUpdatePurchasedetail pa).run s).2
  | generateOrder pa retry =>
      ((get pa >>= fun pa => pa.generateOrder retry).run s).2
  | book order thirdPackage =>
      match (s.purchaseOrders.get? order).filter fun po => po.status = .opened with
      | some po => po.book thirdPackage s
      | none => s
  | cancel pa => ((get pa >>= PurchaseArrangement.cancel).run s).2

def isBooking : PurchaseOp → Bool
  | book _ _ => true
  | _ => false

def Counted (s : PurchaseDb) (op : PurchaseOp) : Prop :=
  match op with
  | book order _ =>
      ∀ po, s.purchaseOrders.get? order = some po → po.status = .opened → s.Ready po
  | _ => True

variable {s : PurchaseDb}

theorem exec_reached (op : PurchaseOp) (hs : s.Filed) (hop : op.isBooking = false) :
    PurchaseDb.Reached s (op.exec s) := by
  have hrefl := PurchaseDb.Reached.refl hs
  cases op with
  | create psi =>
    exact PurchaseDb.skuitem_reached psi PurchaseDb.create_reached s hrefl
  | task pa =>
    have hbody : Preserves (PurchaseDb.Reached s) (get pa >>= fun pa => pa.generateOrder false) :=
      PurchaseDb.get_reached pa fun _ hkey => PurchaseDb.generateOrder_reached hkey false
    exact Preserves.atomic hbody s hrefl
  | generateOrder pa retry =>
    exact PurchaseDb.get_reached pa
      (fun _ hkey => PurchaseDb.generateOrder_reached hkey retry) s hrefl
  | book _ _ => cases hop
  | cancel pa =>
    exact PurchaseDb.get_reached pa (fun _ hkey => PurchaseDb.cancel_reached hkey) s hrefl

theorem exec_filed (op : PurchaseOp) (hs : s.Filed) : (op.exec s).Filed := by
  cases hop : op.isBooking with
  | false => exact (exec_reached op hs hop).filed
  | true =>
    cases op with
    | book order thirdPackage =>
      unfold exec
      dsimp only
      split
      · rename_i po hpo
        obtain ⟨hget, hopen⟩ := Option.filter_eq_some_iff.1 hpo
        exact hs.book thirdPackage (Table.get?_eq_some.1 hget).1 (of_decide_eq_true hopen)
      · exact hs
    | _ => cases hop

theorem book_counted_iff (order : Nat) (thirdPackage : Bool) (hs : s.Filed) (hc : s.Covered) :
    ((book order thirdPackage).exec s).Covered ↔ (book order thirdPackage).Counted s := by
  unfold exec Counted
  dsimp only
  cases hget : s.purchaseOrders.get? order with
  | none =>
    constructor
    · rintro _ po hpo
      cases hpo
    · intro _
      exact hc
  | some po =>
    by_cases hopen : po.status = .opened
    · rw [Option.filter_some, if_pos (decide_eq_true hopen)]
      dsimp only
      rw [PurchaseDb.book_covered_iff thirdPackage hs hc (Table.get?_eq_some.1 hget).1]
      constructor
      · rintro hready po' hpo' _
        obtain rfl := Option.some.inj hpo'
        exact hready
      · intro h
        exact h po rfl hopen
    · rw [Option.filter_some, if_neg (by simpa using hopen)]
      constructor
      · rintro _ po' hpo' hopen'
        obtain rfl := Option.some.inj hpo'
        exact absurd hopen' hopen
      · intro _
        exact hc

theorem exec_covered_iff (op : PurchaseOp) (hs : s.Filed) (hc : s.Covered) :
    (op.exec s).Covered ↔ op.Counted s := by
  cases hop : op.isBooking with
  | false =>
    have hcounted : op.Counted s := by
      cases op with
      | book _ _ => cases hop
      | _ => trivial
    exact ⟨fun _ => hcounted, fun _ => (exec_reached op hs hop).quiet.covered hc⟩
  | true =>
    cases op with
    | book order thirdPackage => exact book_counted_iff order thirdPackage hs hc
    | _ => cases hop

end PurchaseOp

/-- Whatever is bought and in whatever order, every effective arrangement of a booked
order is marked and in what was ordered, and the open order of a supplier is the one that
the next key names, exactly when each order is booked with details that count all of its
arrangements. -/
theorem arrangements_remembered_iff (ops : List PurchaseOp) (s : PurchaseDb) (hs : s.Filed)
    (hr : s.Remembered) :
    Throughout PurchaseOp.exec PurchaseDb.Remembered ops s ↔
      Guarded PurchaseOp.exec (fun s op => op.Counted s) ops s := by
  have halways : ∀ (s : PurchaseDb) (op : PurchaseOp), s.Filed → (op.exec s).Filed :=
    fun _ op hs => op.exec_filed hs
  have hstep : ∀ (s : PurchaseDb) (op : PurchaseOp), s.Filed → s.Remembered →
      ((op.exec s).Remembered ↔ op.Counted s) := by
    intro s op hs hr
    rw [(op.exec_filed hs).remembered_iff]
    exact op.exec_covered_iff hs (hs.remembered_iff.1 hr)
  exact throughout_iff_guarded halways hstep ops s hs hr

theorem filed_throughout (ops : List PurchaseOp) (s : PurchaseDb) (hs : s.Filed) :
    Throughout PurchaseOp.exec PurchaseDb.Filed ops s :=
  throughout_of_step (fun _ op hs => op.exec_filed hs) ops s hs

def paidItem (id sku num : Nat) : PackageSkuItem where
  id := id
  skuId := sku
  num := num
  type := .normal
  status := .paid
  assignStatus := .notAssigned
  packageOrderId := none
  purchaseOrderUnikey := none
  payTime := 20170501000000
  wareBy := 1
  initAssigned := false

/-- Items of two SKUs that supplier 7 sells at ten yuan and at an eighth of a yuan. -/
def beforePurchases : PurchaseDb where
  purchaseOrders := .empty
  purchaseDetails := .empty
  purchaseArrangements := .empty
  orderLists := .empty
  orderDetails := .empty
  packageSkuItems := ((Table.empty.insert (paidItem 1 31 2)).insert (paidItem 2 32 1))
  suppliers := fun _ => some 7
  costs := fun sku => if sku = 31 then SkuCost.ofFraction 10 1 else SkuCost.ofFraction 1 8

theorem beforePurchases_filed : beforePurchases.Filed where
  numbered := numbered_nil
  within pa hpa := by cases hpa
  initialBook pa hpa := by cases hpa

theorem filed_booked : Throughout PurchaseOp.exec PurchaseDb.Filed
    [.create 1, .create 2, .task 1, .book 1 false] beforePurchases :=
  filed_throughout _ beforePurchases beforePurchases_filed

theorem beforePurchases_remembered : beforePurchases.Remembered := by
  rw [beforePurchases_filed.remembered_iff]
  intro pa hpa
  cases hpa

theorem arrangements_remembered_sample :
    Throughout PurchaseOp.exec PurchaseDb.Remembered
      [.create 1, .create 2, .task 1, .task 2, .book 1 false, .task 2] beforePurchases := by
  apply (arrangements_remembered_iff _ _ beforePurchases_filed beforePurchases_remembered).2
  refine ⟨trivial, trivial, trivial, trivial, ?_, trivial, trivial⟩
  intro po hpo _
  obtain rfl := Option.some.inj hpo
  decide

theorem arrangements_remembered_fail :
    ¬ Throughout PurchaseOp.exec PurchaseDb.Remembered
      [.create 1, .create 2, .task 1, .book 1 false] beforePurchases := by
  intro h
  have hbooked := h.last.booked
    { id := 2, oid := 2, skuId := 32, purchaseOrderUnikey := some ⟨7, 1⟩, num := 1
      status := .effect, purchaseOrderStatus := .booked, initialBook := true
      genOrder := false } (Table.mem_def.2 (by decide)) rfl ⟨7, 1⟩ rfl ⟨⟨⟨7, 1⟩, 7, .booked⟩, by decide, rfl, rfl⟩
  exact absurd hbooked.2 (by decide)

end ShopManager.Purchase
