import ShopManager.Purchase.Inbound.Model

/-!
# The steps after the details

Once the details are checked, the order lists, the order details and the stocks are brought up to
date one by one.  Each step can fail, and what the steps before have written stays.
-/

namespace ShopManager.Purchase.Inbound

open Library Library.Tx

variable {μ : Type}

/-! ## What the steps need -/

def listOf (s : InboundDb μ) (r : Record) : Option OrderList :=
  ((s.orderDetails.get? r.orderdetail).bind OrderDetail.orderlist).bind s.orderLists.get?

def InSync (s : InboundDb μ) (r : Record) : Prop :=
  ∀ od, s.orderDetails.get? r.orderdetail = some od →
    ∀ arrivalTime,
      ((OrderDetail.records s r.orderdetail).map Record.created).max? = some arrivalTime →
        OrderDetail.recount s arrivalTime od = od

def Known (s : InboundDb μ) (sku : Option Nat) : Prop :=
  (SkuStock.find s sku).isSome = true ∨ (sku.bind s.productSkus.get?).isSome = true

def Counted (commitTime : Nat) (s : InboundDb μ) (sku : Option Nat) : Prop :=
  ∃ stock, SkuStock.find s sku = some stock ∧
    stock.inboundQuantity = SkuStock.statInbound commitTime s stock.skuId

/-- A completed inbound on which there is nothing to do, up to a step that fails. -/
inductive FailsIdly (around : Surroundings μ) (syncStock : Bool) (inbound : Nat)
    (s : InboundDb μ) : Prop where
  | unlisted (od : OrderDetail) (hod : od ∈ InBound.orderDetails s inbound)
      (harrival : 0 < od.arrivalQuantity) (hlist : od.orderlist.bind s.orderLists.get? = none)
  | unsynced (pre : List Record) (r : Record) (post : List Record)
      (hrecords : InBound.records s inbound = pre ++ r :: post)
      (hsync : ∀ r' ∈ pre ++ [r], InSync s r') (hlist : listOf s r = none)
  | unstocked (hstock : syncStock = true) (hsync : ∀ r ∈ InBound.records s inbound, InSync s r)
      (pre : List (Option Nat)) (sku : Option Nat) (post : List (Option Nat))
      (hskus : InBound.skuKeys around s inbound = pre ++ sku :: post)
      (hcounted : ∀ sku' ∈ pre, Counted around.commitTime s sku') (hunknown : ¬ Known s sku)
  | unassigned (hstock : syncStock = true) (hsync : ∀ r ∈ InBound.records s inbound, InSync s r)
      (hcounted : ∀ sku ∈ InBound.skuKeys around s inbound, Counted around.commitTime s sku)
      (hassign : ∃ e, (around.assignSku inbound).run s.mall = (.error e, s.mall))

structure Finishes (around : Surroundings μ) (syncStock : Bool) (inbound : Nat)
    (s : InboundDb μ) : Prop where
  listed : ∀ r ∈ InBound.records s inbound, (listOf s r).isSome = true
  known : syncStock = true → ∀ d ∈ InBound.details s inbound, Known s d.sku
  assigns : syncStock = true → ∃ m, (around.assignSku inbound).run s.mall = (.ok (), m)

structure Spared (s t : InboundDb μ) : Prop where
  details : t.details = s.details
  records : t.records = s.records
  orderDetails : t.orderDetails = s.orderDetails
  productSkus : t.productSkus = s.productSkus
  skuStocks : t.skuStocks = s.skuStocks
  mall : t.mall = s.mall

/-! ## The order lists -/

def orderDetailKey (od : OrderDetail) : Nat × Option Nat := (od.id, od.orderlist)

/-- Only what order details and order lists say is written, and no list goes or comes. -/
structure Syncing (s t : InboundDb μ) : Prop where
  inbounds : t.inbounds = s.inbounds
  details : t.details = s.details
  records : t.records = s.records
  productSkus : t.productSkus = s.productSkus
  skuStocks : t.skuStocks = s.skuStocks
  mall : t.mall = s.mall
  lists : ∀ id, (t.orderLists.get? id).isSome = (s.orderLists.get? id).isSome
  keys : t.orderDetails.rows.map orderDetailKey = s.orderDetails.rows.map orderDetailKey

structure Listing (s t : InboundDb μ) : Prop extends Syncing s t where
  orderDetails : t.orderDetails = s.orderDetails

theorem Syncing.refl (s : InboundDb μ) : Syncing s s :=
  ⟨rfl, rfl, rfl, rfl, rfl, rfl, fun _ => rfl, rfl⟩

theorem Syncing.trans (s t u : InboundDb μ) (h : Syncing s t) (h' : Syncing t u) : Syncing s u where
  inbounds := h'.inbounds.trans h.inbounds
  details := h'.details.trans h.details
  records := h'.records.trans h.records
  productSkus := h'.productSkus.trans h.productSkus
  skuStocks := h'.skuStocks.trans h.skuStocks
  mall := h'.mall.trans h.mall
  lists id := (h'.lists id).trans (h.lists id)
  keys := h'.keys.trans h.keys

theorem Listing.refl (s : InboundDb μ) : Listing s s := ⟨Syncing.refl s, rfl⟩

theorem Listing.trans (s t u : InboundDb μ) (h : Listing s t) (h' : Listing t u) : Listing s u :=
  ⟨Syncing.trans s t u h.toSyncing h'.toSyncing, h'.orderDetails.trans h.orderDetails⟩

theorem isSome_get?_save {α : Type} [Row α] (t : Table α) (a : α) (id : Nat) :
    ((t.save a).get? id).isSome = (t.get? id).isSome := by
  rw [Table.get?_save]
  split
  · exact Option.isSome_map
  · rfl

theorem OrderList.save_listing (ol : OrderList) : Keeps Listing (ol.save : InboundTx μ Unit) :=
  Keeps.modify fun s =>
    ⟨{ Syncing.refl s with lists := fun id => isSome_get?_save s.orderLists ol id }, rfl⟩

theorem setArrivalProcessStatus_listing (id : Nat) :
    Keeps Listing (OrderList.setArrivalProcessStatus id : InboundTx μ Unit) := by
  unfold OrderList.setArrivalProcessStatus
  refine Keeps.bind Listing.trans (Keeps.getOr Listing.refl _ _) fun ol => ?_
  refine Keeps.bind Listing.trans (Keeps.gets Listing.refl _) fun stat => ?_
  exact Keeps.ite _ (OrderList.save_listing _) (Keeps.pure Listing.refl _)

theorem arrivalStatus_listing (id : Option Nat) :
    Keeps Listing (do
      let id ← getOr .doesNotExist fun _ => id
      OrderList.setArrivalProcessStatus id : InboundTx μ Unit) :=
  Keeps.bind Listing.trans (Keeps.getOr Listing.refl _ _) setArrivalProcessStatus_listing

theorem updateOrderlistArrivalProcess_listing (inbound : Nat) :
    Keeps Listing (InBound.updateOrderlistArrivalProcess inbound : InboundTx μ Unit) := by
  unfold InBound.updateOrderlistArrivalProcess
  refine Keeps.bind Listing.trans (Keeps.gets Listing.refl _) fun ids => ?_
  exact Keeps.forEach Listing.refl Listing.trans arrivalStatus_listing ids

theorem arrivalStatus_ok_iff {s : InboundDb μ} {id : Option Nat} :
    (∃ t, (do
      let id ← getOr .doesNotExist fun _ => id
      OrderList.setArrivalProcessStatus id : InboundTx μ Unit).run s = (.ok (), t)) ↔
      (id.bind s.orderLists.get?).isSome = true := by
  unfold OrderList.setArrivalProcessStatus
  constructor
  · rintro ⟨t, hrun⟩
    obtain ⟨n, t₁, hread, hrest⟩ := bind_eq_ok.mp hrun
    obtain ⟨hid, rfl⟩ := getOr_eq_ok.mp hread
    obtain ⟨ol, t₂, hget, -⟩ := bind_eq_ok.mp hrest
    obtain ⟨hol, -⟩ := getOr_eq_ok.mp hget
    exact Option.isSome_iff_exists.mpr ⟨ol, Option.bind_eq_some_iff.mpr ⟨n, hid, hol⟩⟩
  · intro h
    obtain ⟨ol, hol⟩ := Option.isSome_iff_exists.mp h
    obtain ⟨n, rfl, hget⟩ := Option.bind_eq_some_iff.mp hol
    simp only [getOr_bind_run, hget, gets_bind_run]
    split
    · exact ⟨_, rfl⟩
    · exact ⟨_, rfl⟩

theorem arrivalStatuses_ok_iff : ∀ {ids : List (Option Nat)} {s : InboundDb μ},
    (∃ t, (forEach ids fun id => do
      let id ← getOr .doesNotExist fun _ => id
      OrderList.setArrivalProcessStatus id : InboundTx μ Unit).run s = (.ok (), t)) ↔
      ∀ id ∈ ids, (id.bind s.orderLists.get?).isSome = true := by
  intro ids
  induction ids with
  | nil => exact fun {s} => ⟨fun _ _ h => (nomatch h), fun _ => ⟨s, rfl⟩⟩
  | cons id ids ih =>
    intro s
    rw [forEach_cons]
    by_cases hid : (id.bind s.orderLists.get?).isSome = true
    · obtain ⟨t, hrun⟩ := arrivalStatus_ok_iff.mpr hid
      have hlisting := Keeps.of_run (arrivalStatus_listing id) hrun
      rw [bind_ok hrun, ih, List.forall_mem_cons, and_iff_right hid]
      refine forall₂_congr fun id' _ => ?_
      cases id' with
      | none => exact Iff.rfl
      | some n => exact Bool.coe_iff_coe.mpr (hlisting.lists n)
    · constructor
      · rintro ⟨t, hloop⟩
        obtain ⟨⟨⟩, t₁, hrun, -⟩ := bind_eq_ok.mp hloop
        exact absurd (arrivalStatus_ok_iff.mp ⟨t₁, hrun⟩) hid
      · intro h
        exact absurd (h id List.mem_cons_self) hid

theorem orderListIds_mem {s : InboundDb μ} {inbound : Nat} {id : Option Nat} :
    id ∈ InBound.orderListIds s inbound ↔
      ∃ od ∈ InBound.orderDetails s inbound, 0 < od.arrivalQuantity ∧ od.orderlist = id := by
  unfold InBound.orderListIds
  rw [List.mem_dedup, List.mem_map]
  constructor
  · rintro ⟨od, hod, hid⟩
    obtain ⟨hmem, harrival⟩ := List.mem_filter.mp hod
    exact ⟨od, hmem, of_decide_eq_true harrival, hid⟩
  · rintro ⟨od, hmem, harrival, hid⟩
    exact ⟨od, List.mem_filter.mpr ⟨hmem, decide_eq_true harrival⟩, hid⟩

theorem updateOrderlistArrivalProcess_ok_iff {s : InboundDb μ} {inbound : Nat} :
    (∃ t, (InBound.updateOrderlistArrivalProcess inbound).run s = (.ok (), t)) ↔
      ∀ od ∈ InBound.orderDetails s inbound, 0 < od.arrivalQuantity →
        (od.orderlist.bind s.orderLists.get?).isSome = true := by
  unfold InBound.updateOrderlistArrivalProcess
  rw [gets_bind_run, arrivalStatuses_ok_iff]
  constructor
  · intro h od hod harrival
    exact h od.orderlist (orderListIds_mem.mpr ⟨od, hod, harrival, rfl⟩)
  · intro h id hid
    obtain ⟨od, hod, harrival, rfl⟩ := orderListIds_mem.mp hid
    exact h od hod harrival

/-! ## The order details -/

theorem orderlistOf_listing (od : OrderDetail) :
    Keeps Listing (od.orderlistOf : InboundTx μ OrderList) :=
  Keeps.bind Listing.trans (Keeps.getOr Listing.refl _ _) fun _ => Keeps.getOr Listing.refl _ _

theorem checkIfFinished_listing (now : Nat) (od : OrderDetail) :
    Keeps Listing (od.checkIfFinished now : InboundTx μ Unit) := by
  unfold OrderDetail.checkIfFinished
  refine Keeps.bind Listing.trans (orderlistOf_listing od) fun ol => ?_
  refine Keeps.bind Listing.trans (Keeps.gets Listing.refl _) fun ods => ?_
  exact Keeps.ite _ (OrderList.save_listing _) (Keeps.pure Listing.refl _)

variable {od : OrderDetail}

theorem orderlistOf_ok {s t : InboundDb μ} {ol : OrderList} :
    od.orderlistOf.run s = (.ok ol, t) ↔ od.orderlist.bind s.orderLists.get? = some ol ∧ s = t := by
  unfold OrderDetail.orderlistOf
  constructor
  · intro h
    obtain ⟨id, t₁, hread, hget⟩ := bind_eq_ok.mp h
    obtain ⟨hid, rfl⟩ := getOr_eq_ok.mp hread
    obtain ⟨hol, rfl⟩ := getOr_eq_ok.mp hget
    exact ⟨Option.bind_eq_some_iff.mpr ⟨id, hid, hol⟩, rfl⟩
  · rintro ⟨h, rfl⟩
    obtain ⟨id, hid, hget⟩ := Option.bind_eq_some_iff.mp h
    exact bind_eq_ok.mpr ⟨id, s, getOr_eq_ok.mpr ⟨hid, rfl⟩, getOr_eq_ok.mpr ⟨hget, rfl⟩⟩

theorem checkIfFinished_ok_iff (now : Nat) (od : OrderDetail) (s : InboundDb μ) :
    (∃ t, (od.checkIfFinished now).run s = (.ok (), t)) ↔
      (od.orderlist.bind s.orderLists.get?).isSome = true := by
  unfold OrderDetail.checkIfFinished
  constructor
  · rintro ⟨t, hrun⟩
    obtain ⟨ol, t₁, hlist, -⟩ := bind_eq_ok.mp hrun
    exact Option.isSome_iff_exists.mpr ⟨ol, (orderlistOf_ok.mp hlist).1⟩
  · intro h
    obtain ⟨ol, hol⟩ := Option.isSome_iff_exists.mp h
    rw [bind_ok (orderlistOf_ok.mpr ⟨hol, rfl⟩), gets_bind_run]
    split
    · exact ⟨_, rfl⟩
    · exact ⟨_, rfl⟩

def lastCreated (s : InboundDb μ) (od : Nat) : Option Nat :=
  ((OrderDetail.records s od).map Record.created).max?

variable {r : Record}

theorem lastCreated_some {s : InboundDb μ} (hr : r ∈ s.records) :
    ∃ arrivalTime, lastCreated s r.orderdetail = some arrivalTime := by
  have hmem : r.created ∈ (OrderDetail.records s r.orderdetail).map Record.created :=
    List.mem_map_of_mem (List.mem_filter.mpr ⟨hr, decide_eq_true rfl⟩)
  unfold lastCreated
  cases hmax : ((OrderDetail.records s r.orderdetail).map Record.created).max? with
  | none =>
    rw [List.max?_eq_none_iff.mp hmax] at hmem
    cases hmem
  | some arrivalTime => exact ⟨arrivalTime, rfl⟩

theorem recount_congr {s t : InboundDb μ} (hdetails : t.details = s.details)
    (hrecords : t.records = s.records) (arrivalTime : Nat) (od : OrderDetail) :
    OrderDetail.recount t arrivalTime od = OrderDetail.recount s arrivalTime od := by
  unfold OrderDetail.recount OrderDetail.checkedRecords OrderDetail.records
  rw [hdetails, hrecords]

theorem setArrivalQuantity_run (now : Nat) {s : InboundDb μ} {id arrivalTime : Nat}
    (hod : s.orderDetails.get? id = some od) (htime : lastCreated s id = some arrivalTime) :
    (OrderDetail.setArrivalQuantity now id).run s =
      ((OrderDetail.recount s arrivalTime od).checkIfFinished now).run
        { s with orderDetails := s.orderDetails.save (OrderDetail.recount s arrivalTime od) } := by
  unfold lastCreated at htime
  unfold OrderDetail.setArrivalQuantity
  simp only [getOr_bind_run, hod, htime, gets_bind_run, modify_bind_run]

theorem setArrivalQuantity_missing (now : Nat) {s : InboundDb μ} {id : Nat}
    (hod : s.orderDetails.get? id = none) :
    (OrderDetail.setArrivalQuantity now id).run s = (.error .doesNotExist, s) := by
  unfold OrderDetail.setArrivalQuantity
  exact bind_error (getOr_none hod)

theorem saveRecount_syncing {s : InboundDb μ} {id : Nat}
    (hod : s.orderDetails.get? id = some od) (arrivalTime : Nat) :
    Syncing s
      { s with orderDetails := s.orderDetails.save (OrderDetail.recount s arrivalTime od) } :=
  { Syncing.refl s with
    keys := Table.map_rows_save (a := OrderDetail.recount s arrivalTime od) (g := orderDetailKey)
      (Table.get?_eq_some.mp hod).1 rfl rfl }

theorem setArrivalQuantity_syncing (now id : Nat) :
    Keeps Syncing (OrderDetail.setArrivalQuantity now id : InboundTx μ Unit) := by
  intro s
  cases hod : s.orderDetails.get? id with
  | none =>
    rw [setArrivalQuantity_missing now hod]
    exact Syncing.refl s
  | some od =>
    cases htime : lastCreated s id with
    | none =>
      unfold lastCreated at htime
      unfold OrderDetail.setArrivalQuantity
      simp only [getOr_bind_run, hod, htime]
      exact Syncing.refl s
    | some arrivalTime =>
      rw [setArrivalQuantity_run now hod htime]
      exact Syncing.trans _ _ _ (saveRecount_syncing hod arrivalTime)
        (checkIfFinished_listing now _ _).toSyncing

theorem syncOrderDetails_syncing (now inbound : Nat) :
    Keeps Syncing (InBound.syncOrderDetails now inbound : InboundTx μ Unit) := by
  unfold InBound.syncOrderDetails
  refine Keeps.bind Syncing.trans (Keeps.gets Syncing.refl _) fun rs => ?_
  exact Keeps.forEach Syncing.refl Syncing.trans
    (fun r : Record => setArrivalQuantity_syncing now r.orderdetail) rs

theorem setArrivalQuantity_ok_iff (now : Nat) {s : InboundDb μ} (hr : r ∈ s.records) :
    (∃ t, (OrderDetail.setArrivalQuantity now r.orderdetail).run s = (.ok (), t)) ↔
      (listOf s r).isSome = true := by
  obtain ⟨arrivalTime, htime⟩ := lastCreated_some hr
  unfold listOf
  cases hod : s.orderDetails.get? r.orderdetail with
  | none =>
    rw [setArrivalQuantity_missing now hod]
    constructor
    · rintro ⟨t, h⟩
      cases h
    · intro h
      cases h
  | some od =>
    rw [setArrivalQuantity_run now hod htime, checkIfFinished_ok_iff]
    exact Iff.rfl

theorem Syncing.listOf_isSome {s t : InboundDb μ} (h : Syncing s t) (r : Record) :
    (listOf t r).isSome = (listOf s r).isSome := by
  have hkey := Table.map_get?_of_keys (f := Prod.fst) (fun _ => rfl) h.keys r.orderdetail
  unfold listOf
  cases hs : s.orderDetails.get? r.orderdetail with
  | none =>
    rw [hs, Option.map_none, Option.map_eq_none_iff] at hkey
    rw [hkey]
    rfl
  | some od =>
    rw [hs, Option.map_some] at hkey
    obtain ⟨od', hod', heq⟩ := Option.map_eq_some_iff.mp hkey
    have hlist : od'.orderlist = od.orderlist := congrArg Prod.snd heq
    rw [hod', Option.bind_some, Option.bind_some, hlist]
    cases od.orderlist with
    | none => rfl
    | some id => exact h.lists id

theorem Syncing.inSync_iff {s t : InboundDb μ} (h : Syncing s t)
    (hsame : t.orderDetails = s.orderDetails) (r : Record) : InSync t r ↔ InSync s r := by
  unfold InSync OrderDetail.records
  rw [hsame, h.records]
  simp only [recount_congr h.details h.records]

theorem counted_stays (now arrivalTime : Nat) {s : InboundDb μ} {id : Nat}
    (hod : s.orderDetails.get? id = some od) (htime : lastCreated s id = some arrivalTime)
    (hcounted : OrderDetail.recount s arrivalTime od = od) (rs : List Record) :
    ((forEach rs fun r => OrderDetail.setArrivalQuantity now r.orderdetail).run
      s).2.orderDetails.get? id = some od := by
  have hstays : Preserves (fun t : InboundDb μ => Syncing s t ∧ t.orderDetails.get? id = some od)
      (forEach rs fun r => OrderDetail.setArrivalQuantity now r.orderdetail) := by
    refine Preserves.forEach fun r _ t ht => ?_
    obtain ⟨hsyncing, hget⟩ := ht
    refine ⟨Syncing.trans _ _ _ hsyncing (setArrivalQuantity_syncing now r.orderdetail t), ?_⟩
    cases hother : t.orderDetails.get? r.orderdetail with
    | none =>
      rw [setArrivalQuantity_missing now hother]
      exact hget
    | some od' =>
      cases htime' : lastCreated t r.orderdetail with
      | none =>
        unfold lastCreated at htime'
        unfold OrderDetail.setArrivalQuantity
        simp only [getOr_bind_run, hother, htime']
        exact hget
      | some arrivalTime' =>
        rw [setArrivalQuantity_run now hother htime']
        have hlisting := checkIfFinished_listing now (OrderDetail.recount t arrivalTime' od')
          { t with orderDetails := t.orderDetails.save (OrderDetail.recount t arrivalTime' od') }
        rw [hlisting.orderDetails]
        change (t.orderDetails.save (OrderDetail.recount t arrivalTime' od')).get? id = some od
        have hpk : od'.id = r.orderdetail := (Table.get?_eq_some.mp hother).2
        rw [Table.get?_save]
        split
        · next hid =>
          have hsame : id = r.orderdetail := hid.trans hpk
          rw [← hsame, hget] at hother
          obtain rfl := Option.some.inj hother
          unfold lastCreated OrderDetail.records at htime htime'
          rw [← hsame, hsyncing.records, htime] at htime'
          obtain rfl := Option.some.inj htime'
          rw [hget, Option.map_some, recount_congr hsyncing.details hsyncing.records, hcounted]
        · exact hget
  exact (hstays s ⟨Syncing.refl s, hod⟩).2

theorem setArrivalQuantity_counts (now : Nat) {s : InboundDb μ}
    {arrivalTime : Nat} (hod : s.orderDetails.get? r.orderdetail = some od)
    (htime : lastCreated s r.orderdetail = some arrivalTime) :
    ((OrderDetail.setArrivalQuantity now r.orderdetail).run s).2.orderDetails =
      s.orderDetails.save (OrderDetail.recount s arrivalTime od) := by
  rw [setArrivalQuantity_run now hod htime]
  exact (checkIfFinished_listing now _ _).orderDetails

theorem setArrivalQuantity_inSync (now : Nat) {s : InboundDb μ} (hr : r ∈ s.records)
    (hsync : InSync s r) :
    ((OrderDetail.setArrivalQuantity now r.orderdetail).run s).2.orderDetails = s.orderDetails := by
  obtain ⟨arrivalTime, htime⟩ := lastCreated_some hr
  cases hod : s.orderDetails.get? r.orderdetail with
  | none => rw [setArrivalQuantity_missing now hod]
  | some od =>
    rw [setArrivalQuantity_counts now hod htime, hsync od hod arrivalTime htime]
    exact Table.save_of_mem (Table.get?_eq_some.mp hod).1

theorem syncing_unwritten (now : Nat) : ∀ (rs : List Record) {s : InboundDb μ},
    (∀ r ∈ rs, r ∈ s.records) →
    ((forEach rs fun r => OrderDetail.setArrivalQuantity now r.orderdetail).run
      s).2.orderDetails = s.orderDetails →
      (∀ r ∈ rs, InSync s r ∧ (listOf s r).isSome = true) ∨
        ∃ pre r post, rs = pre ++ r :: post ∧ (∀ r' ∈ pre ++ [r], InSync s r') ∧
          listOf s r = none := by
  intro rs
  induction rs with
  | nil => exact fun _ _ => Or.inl fun _ h => nomatch h
  | cons r rs ih =>
    intro s hrs hsame
    obtain ⟨hr, hrs⟩ := List.forall_mem_cons.mp hrs
    obtain ⟨arrivalTime, htime⟩ := lastCreated_some hr
    have hsync : InSync s r := by
      intro od hod arrivalTime' htime'
      obtain rfl : arrivalTime = arrivalTime' := Option.some.inj (htime.symm.trans htime')
      have hpk : od.id = r.orderdetail := (Table.get?_eq_some.mp hod).2
      have hcounts := setArrivalQuantity_counts now hod htime
      have hget : ((OrderDetail.setArrivalQuantity now r.orderdetail).run
          s).2.orderDetails.get? r.orderdetail = some (OrderDetail.recount s arrivalTime od) := by
        have hkey : r.orderdetail = Row.pk (OrderDetail.recount s arrivalTime od) := hpk.symm
        rw [hcounts, Table.get?_save, if_pos hkey, hod]
        rfl
      rw [forEach_cons] at hsame
      cases hrun : (OrderDetail.setArrivalQuantity now r.orderdetail).run s with
      | mk res t =>
        rw [hrun] at hget
        have hsyncing := Keeps.of_run (setArrivalQuantity_syncing now r.orderdetail) hrun
        have hfinal : s.orderDetails.get? r.orderdetail =
            some (OrderDetail.recount s arrivalTime od) := by
          cases res with
          | error e =>
            rw [bind_error hrun] at hsame
            rw [← hsame]
            exact hget
          | ok u =>
            rw [bind_ok hrun] at hsame
            rw [← hsame]
            refine counted_stays now arrivalTime hget ?_ ?_ rs
            · unfold lastCreated OrderDetail.records at htime ⊢
              rw [hsyncing.records]
              exact htime
            · rw [recount_congr hsyncing.details hsyncing.records]
              rfl
        rw [hod] at hfinal
        exact (Option.some.inj hfinal).symm
    cases hlist : listOf s r with
    | none =>
      right
      refine ⟨[], r, rs, rfl, ?_, hlist⟩
      intro r' hr'
      obtain rfl := List.mem_singleton.mp hr'
      exact hsync
    | some ol =>
      have hsome : (listOf s r).isSome = true := by
        rw [hlist]
        rfl
      obtain ⟨t, hrun⟩ := (setArrivalQuantity_ok_iff now hr).mpr hsome
      have hsyncing := Keeps.of_run (setArrivalQuantity_syncing now r.orderdetail) hrun
      have hunwritten := setArrivalQuantity_inSync now hr hsync
      rw [hrun] at hunwritten
      rw [forEach_cons, bind_ok hrun] at hsame
      have hrs' : ∀ r ∈ rs, r ∈ t.records := by
        rw [hsyncing.records]
        exact hrs
      rcases ih hrs' (hsame.trans hunwritten.symm) with hall | ⟨pre, stop, post, rfl, hpre, hstop⟩
      · refine Or.inl (List.forall_mem_cons.mpr ⟨⟨hsync, hsome⟩, fun r' hr' => ?_⟩)
        obtain ⟨hsync', hlist'⟩ := hall r' hr'
        refine ⟨(hsyncing.inSync_iff hunwritten r').mp hsync', ?_⟩
        rw [← hsyncing.listOf_isSome]
        exact hlist'
      · right
        refine ⟨r :: pre, stop, post, rfl, ?_, ?_⟩
        · rw [List.cons_append]
          refine List.forall_mem_cons.mpr ⟨hsync, fun r' hr' => ?_⟩
          exact (hsyncing.inSync_iff hunwritten r').mp (hpre r' hr')
        · have hstop' := hsyncing.listOf_isSome stop
          rw [hstop] at hstop'
          exact Option.not_isSome_iff_eq_none.mp (by rw [← hstop']; exact Bool.false_ne_true)

theorem syncing_ok_iff (now : Nat) : ∀ {rs : List Record} {s : InboundDb μ},
    (∀ r ∈ rs, r ∈ s.records) →
      ((∃ t, (forEach rs fun r => OrderDetail.setArrivalQuantity now r.orderdetail).run s =
        (.ok (), t)) ↔ ∀ r ∈ rs, (listOf s r).isSome = true) := by
  intro rs
  induction rs with
  | nil => exact fun _ => ⟨fun _ _ h => (nomatch h), fun _ => ⟨_, rfl⟩⟩
  | cons r rs ih =>
    intro s hrs
    obtain ⟨hr, hrs⟩ := List.forall_mem_cons.mp hrs
    have hnext : ∀ {t : InboundDb μ},
        (OrderDetail.setArrivalQuantity now r.orderdetail).run s = (.ok (), t) →
        ((∃ t', (forEach rs fun r => OrderDetail.setArrivalQuantity now r.orderdetail).run t =
          (.ok (), t')) ↔ ∀ r ∈ rs, (listOf s r).isSome = true) := by
      intro t hrun
      have hsyncing := Keeps.of_run (setArrivalQuantity_syncing now r.orderdetail) hrun
      rw [ih (by rw [hsyncing.records]; exact hrs)]
      simp only [hsyncing.listOf_isSome]
    rw [forEach_cons]
    constructor
    · rintro ⟨t, hloop⟩
      obtain ⟨⟨⟩, t₁, hrun, hrest⟩ := bind_eq_ok.mp hloop
      refine List.forall_mem_cons.mpr ⟨(setArrivalQuantity_ok_iff now hr).mp ⟨t₁, hrun⟩, ?_⟩
      exact (hnext hrun).mp ⟨t, hrest⟩
    · intro hall
      obtain ⟨hlist, hlists⟩ := List.forall_mem_cons.mp hall
      obtain ⟨t₁, hrun⟩ := (setArrivalQuantity_ok_iff now hr).mpr hlist
      rw [bind_ok hrun]
      exact (hnext hrun).mpr hlists

theorem syncing_inSync (now : Nat) : ∀ {rs : List Record} {s : InboundDb μ},
    (∀ r ∈ rs, r ∈ s.records) → (∀ r ∈ rs, InSync s r) →
      ((forEach rs fun r => OrderDetail.setArrivalQuantity now r.orderdetail).run
        s).2.orderDetails = s.orderDetails := by
  intro rs
  induction rs with
  | nil => exact fun _ _ => rfl
  | cons r rs ih =>
    intro s hrs hsync
    obtain ⟨hr, hrs⟩ := List.forall_mem_cons.mp hrs
    obtain ⟨hsync₁, hsyncs⟩ := List.forall_mem_cons.mp hsync
    have hunwritten := setArrivalQuantity_inSync now hr hsync₁
    rw [forEach_cons]
    cases hrun : (OrderDetail.setArrivalQuantity now r.orderdetail).run s with
    | mk res t =>
      rw [hrun] at hunwritten
      cases res with
      | error e =>
        rw [bind_error hrun]
        exact hunwritten
      | ok u =>
        have hsyncing := Keeps.of_run (setArrivalQuantity_syncing now r.orderdetail) hrun
        rw [bind_ok hrun, ih (by rw [hsyncing.records]; exact hrs) fun r' hr' =>
          (hsyncing.inSync_iff hunwritten r').mpr (hsyncs r' hr')]
        exact hunwritten

theorem syncing_ends_at (now : Nat) (post : List Record) :
    ∀ {pre : List Record} {s : InboundDb μ}, r ∈ s.records → listOf s r = none →
      (forEach (pre ++ r :: post) fun r => OrderDetail.setArrivalQuantity now r.orderdetail).run s =
        (forEach (pre ++ [r]) fun r => OrderDetail.setArrivalQuantity now r.orderdetail).run s := by
  intro pre
  induction pre with
  | nil =>
    intro s hr hlist
    have hfails : ¬ ∃ t, (OrderDetail.setArrivalQuantity now r.orderdetail).run s = (.ok (), t) := by
      rw [setArrivalQuantity_ok_iff now hr, hlist]
      exact Bool.false_ne_true
    rw [List.nil_append, List.nil_append, forEach_cons, forEach_cons, bind_run, bind_run]
    cases hrun : (OrderDetail.setArrivalQuantity now r.orderdetail).run s with
    | mk res t =>
      cases res with
      | error e => rfl
      | ok u => exact absurd ⟨t, hrun⟩ hfails
  | cons r' pre ih =>
    intro s hr hlist
    rw [List.cons_append, List.cons_append, forEach_cons, forEach_cons, bind_run, bind_run]
    cases hrun : (OrderDetail.setArrivalQuantity now r'.orderdetail).run s with
    | mk res t =>
      cases res with
      | error e => rfl
      | ok u =>
        have hsyncing := Keeps.of_run (setArrivalQuantity_syncing now r'.orderdetail) hrun
        have hlist' := hsyncing.listOf_isSome r
        rw [hlist, Option.isSome_none, Option.isSome_eq_false_iff, Option.isNone_iff_eq_none]
          at hlist'
        exact ih (by rw [hsyncing.records]; exact hr) hlist'

theorem syncing_stops (now : Nat) {pre post : List Record} {s : InboundDb μ}
    (hrs : ∀ r' ∈ pre ++ [r], r' ∈ s.records) (hsync : ∀ r' ∈ pre ++ [r], InSync s r')
    (hlist : listOf s r = none) :
    ((forEach (pre ++ r :: post) fun r => OrderDetail.setArrivalQuantity now r.orderdetail).run
      s).2.orderDetails = s.orderDetails := by
  have hr : r ∈ s.records := hrs r (List.mem_append_right pre List.mem_cons_self)
  rw [syncing_ends_at now post hr hlist]
  exact syncing_inSync now hrs hsync

/-! ## The stocks -/

structure Stocking (s t : InboundDb μ) : Prop where
  inbounds : t.inbounds = s.inbounds
  details : t.details = s.details
  records : t.records = s.records
  orderDetails : t.orderDetails = s.orderDetails
  productSkus : t.productSkus = s.productSkus
  mall : t.mall = s.mall

theorem Stocking.refl (s : InboundDb μ) : Stocking s s := ⟨rfl, rfl, rfl, rfl, rfl, rfl⟩

theorem Stocking.trans (s t u : InboundDb μ) (h : Stocking s t) (h' : Stocking t u) :
    Stocking s u where
  inbounds := h'.inbounds.trans h.inbounds
  details := h'.details.trans h.details
  records := h'.records.trans h.records
  orderDetails := h'.orderDetails.trans h.orderDetails
  productSkus := h'.productSkus.trans h.productSkus
  mall := h'.mall.trans h.mall

def stockSku (commitTime : Nat) (num : Option Nat → Int) (sku : Option Nat) : InboundTx μ Unit := do
  let _ ← SkuStock.getBySku sku
  SkuStock.addInboundQuantity commitTime sku (num sku)

def countedStock (commitTime : Nat) (s : InboundDb μ) (stock : SkuStock) : SkuStock :=
  { stock with inboundQuantity := SkuStock.statInbound commitTime s stock.skuId }

variable {sku : Option Nat}

theorem find_spec {s : InboundDb μ} {stock : SkuStock}
    (h : SkuStock.find s sku = some stock) : stock ∈ s.skuStocks ∧ some stock.skuId = sku := by
  unfold SkuStock.find at h
  have hspec := Table.first_spec h
  exact ⟨Table.mem_of_first h, of_decide_eq_true hspec⟩

theorem addInboundQuantity_run {commitTime : Nat} {num : Int} {s : InboundDb μ}
    {stock : SkuStock} (h : SkuStock.find s sku = some stock) :
    (SkuStock.addInboundQuantity commitTime sku num).run s =
      (.ok (), { s with skuStocks := s.skuStocks.save (countedStock commitTime s stock) }) := by
  unfold SkuStock.addInboundQuantity
  simp only [getOr_bind_run, h]
  rfl

theorem addInboundQuantity_counts (commitTime : Nat) (num : Int) {s : InboundDb μ}
    {stock : SkuStock} (h : SkuStock.find s sku = some stock) :
    ∃ t, (SkuStock.addInboundQuantity commitTime sku num).run s = (.ok (), t) ∧ Stocking s t ∧
      SkuStock.find t sku = some (countedStock commitTime s stock) ∧
      ∀ sku', sku' ≠ sku → SkuStock.find t sku' = SkuStock.find s sku' := by
  obtain ⟨hmem, hsku⟩ := find_spec h
  refine ⟨_, addInboundQuantity_run h, ⟨rfl, rfl, rfl, rfl, rfl, rfl⟩, ?_, fun sku' hne => ?_⟩
  · exact Table.first_save_self (a := countedStock commitTime s stock) (b := stock) rfl
      (decide_eq_true hsku) h
  · have hother : decide (some stock.skuId = sku') = false := by
      rw [hsku]
      exact decide_eq_false hne.symm
    exact Table.first_save_other (a := countedStock commitTime s stock) hmem rfl hother hother

theorem getBySku_found {s : InboundDb μ} {stock : SkuStock}
    (h : SkuStock.find s sku = some stock) : (SkuStock.getBySku sku).run s = (.ok stock, s) := by
  unfold SkuStock.getBySku
  simp only [gets_bind_run, h, pure_run]

theorem getBySku_made {s : InboundDb μ} {n : Nat} {product : ProductSku}
    (hfind : SkuStock.find s (some n) = none) (hproduct : s.productSkus.get? n = some product) :
    ∃ t stock, (SkuStock.getBySku (some n)).run s = (.ok stock, t) ∧ Stocking s t ∧
      SkuStock.find t (some n) = some stock ∧
      ∀ sku', sku' ≠ some n → SkuStock.find t sku' = SkuStock.find s sku' := by
  have hid : product.id = n := (Table.get?_eq_some.mp hproduct).2
  refine ⟨{ s with skuStocks := s.skuStocks.insert ⟨0, product.id, 0⟩ },
    s.skuStocks.stored ⟨0, product.id, 0⟩, ?_, ⟨rfl, rfl, rfl, rfl, rfl, rfl⟩, ?_,
    fun sku' hne => ?_⟩
  · unfold SkuStock.getBySku
    simp only [gets_bind_run, hfind, getOr_bind_run, Option.bind_some, hproduct, modify_bind_run,
      pure_run]
  · change (s.skuStocks.insert ⟨0, product.id, 0⟩).first _ = _
    rw [Table.first_insert]
    unfold SkuStock.find at hfind
    rw [hfind, Option.none_or, if_pos]
    exact decide_eq_true (congrArg some hid)
  · change (s.skuStocks.insert ⟨0, product.id, 0⟩).first _ = _
    rw [Table.first_insert, if_neg, Option.or_none]
    · rfl
    · rw [decide_eq_true_eq]
      intro heq
      refine hne (heq.symm.trans ?_)
      exact congrArg some hid

theorem getBySku_unknown {s : InboundDb μ} (h : ¬ Known s sku) :
    (SkuStock.getBySku sku).run s = (.error .doesNotExist, s) := by
  unfold Known at h
  push Not at h
  obtain ⟨hfind, hsku⟩ := h
  have hnone : SkuStock.find s sku = none := Option.not_isSome_iff_eq_none.mp hfind
  have hproduct : sku.bind s.productSkus.get? = none := Option.not_isSome_iff_eq_none.mp hsku
  unfold SkuStock.getBySku
  simp only [gets_bind_run, hnone, getOr_bind_run, hproduct]

theorem stockSku_known (commitTime : Nat) (num : Option Nat → Int) {s : InboundDb μ}
    (h : Known s sku) :
    ∃ t stock, (stockSku commitTime num sku).run s = (.ok (), t) ∧ Stocking s t ∧
      SkuStock.find t sku = some stock ∧
      stock.inboundQuantity = SkuStock.statInbound commitTime s stock.skuId ∧
      ∀ sku', sku' ≠ sku → SkuStock.find t sku' = SkuStock.find s sku' := by
  unfold stockSku
  cases hfind : SkuStock.find s sku with
  | some stock =>
    obtain ⟨t, hrun, hstocking, hcounted, hother⟩ :=
      addInboundQuantity_counts commitTime (num sku) hfind
    rw [bind_ok (getBySku_found hfind)]
    exact ⟨t, _, hrun, hstocking, hcounted, rfl, hother⟩
  | none =>
    rcases h with hsome | hsome
    · rw [hfind] at hsome
      cases hsome
    · obtain ⟨product, hproduct⟩ := Option.isSome_iff_exists.mp hsome
      obtain ⟨n, rfl, hget⟩ := Option.bind_eq_some_iff.mp hproduct
      obtain ⟨t₁, stock, hmade, hstocking₁, hfind₁, hother₁⟩ := getBySku_made hfind hget
      obtain ⟨t, hrun, hstocking, hcounted, hother⟩ :=
        addInboundQuantity_counts commitTime (num (some n)) hfind₁
      rw [bind_ok hmade]
      refine ⟨t, _, hrun, Stocking.trans _ _ _ hstocking₁ hstocking, hcounted, ?_, ?_⟩
      · unfold countedStock SkuStock.statInbound
        rw [hstocking₁.orderDetails]
      · exact fun sku' hne => (hother sku' hne).trans (hother₁ sku' hne)

theorem stockSku_unknown {commitTime : Nat} {num : Option Nat → Int} {s : InboundDb μ}
    (h : ¬ Known s sku) :
    (stockSku commitTime num sku).run s = (.error .doesNotExist, s) :=
  bind_error (getBySku_unknown h)

theorem stockSku_counted {commitTime : Nat} (num : Option Nat → Int) {s : InboundDb μ}
    (h : Counted commitTime s sku) :
    (stockSku commitTime num sku).run s = (.ok (), s) := by
  obtain ⟨stock, hfind, hcounted⟩ := h
  have hsame : countedStock commitTime s stock = stock := by
    unfold countedStock
    rw [← hcounted]
  unfold stockSku
  rw [bind_ok (getBySku_found hfind), addInboundQuantity_run hfind, hsame,
    Table.save_of_mem (find_spec hfind).1]

theorem stockSku_keeps (commitTime : Nat) (num : Option Nat → Int) (sku : Option Nat)
    (s : InboundDb μ) :
    Stocking s ((stockSku commitTime num sku).run s).2 ∧
      ∀ sku', sku' ≠ sku →
        SkuStock.find ((stockSku commitTime num sku).run s).2 sku' = SkuStock.find s sku' := by
  by_cases h : Known s sku
  · obtain ⟨t, stock, hrun, hstocking, -, -, hother⟩ := stockSku_known commitTime num h
    rw [hrun]
    exact ⟨hstocking, hother⟩
  · rw [stockSku_unknown h]
    exact ⟨Stocking.refl s, fun _ _ => rfl⟩

theorem stockSkus_keeps (commitTime : Nat) (num : Option Nat → Int) (skus : List (Option Nat)) :
    Keeps Stocking (forEach skus (stockSku commitTime num) : InboundTx μ Unit) :=
  Keeps.forEach Stocking.refl Stocking.trans
    (fun sku s => (stockSku_keeps commitTime num sku s).1) skus

theorem stockSkus_other (commitTime : Nat) (num : Option Nat → Int) {skus : List (Option Nat)}
    (h : sku ∉ skus) (s : InboundDb μ) :
    SkuStock.find ((forEach skus (stockSku commitTime num)).run s).2 sku = SkuStock.find s sku := by
  refine Preserves.forEach (I := fun t : InboundDb μ => SkuStock.find t sku = SkuStock.find s sku)
    (fun sku' hsku' t ht => ?_) s rfl
  rw [← ht]
  refine (stockSku_keeps commitTime num sku' t).2 sku ?_
  rintro rfl
  exact h hsku'

theorem known_congr {s t : InboundDb μ} (h : Stocking s t)
    (hfind : SkuStock.find t sku = SkuStock.find s sku) : Known t sku ↔ Known s sku := by
  unfold Known
  rw [hfind, h.productSkus]

theorem stockSkus_ok_iff (commitTime : Nat) (num : Option Nat → Int) :
    ∀ {skus : List (Option Nat)} {s : InboundDb μ}, skus.Nodup →
      ((∃ t, (forEach skus (stockSku commitTime num)).run s = (.ok (), t)) ↔
        ∀ sku ∈ skus, Known s sku) := by
  intro skus
  induction skus with
  | nil => exact fun _ => ⟨fun _ _ h => (nomatch h), fun _ => ⟨_, rfl⟩⟩
  | cons sku skus ih =>
    intro s hnodup
    obtain ⟨hnot, hnodup⟩ := List.nodup_cons.mp hnodup
    rw [forEach_cons]
    by_cases hknown : Known s sku
    · obtain ⟨t, stock, hrun, hstocking, -, -, hother⟩ :=
        stockSku_known commitTime num hknown
      rw [bind_ok hrun, ih hnodup, List.forall_mem_cons, and_iff_right hknown]
      refine forall₂_congr fun sku' hsku' => known_congr hstocking (hother sku' ?_)
      rintro rfl
      exact hnot hsku'
    · rw [bind_error (stockSku_unknown hknown)]
      constructor
      · rintro ⟨t, h⟩
        cases h
      · intro h
        exact absurd (h sku List.mem_cons_self) hknown

theorem stockSkus_unwritten (commitTime : Nat) (num : Option Nat → Int) :
    ∀ {skus : List (Option Nat)} {s : InboundDb μ}, skus.Nodup →
      ((forEach skus (stockSku commitTime num)).run s).2.skuStocks = s.skuStocks →
        (∀ sku ∈ skus, Counted commitTime s sku) ∨
          ∃ pre sku post, skus = pre ++ sku :: post ∧
            (∀ sku' ∈ pre, Counted commitTime s sku') ∧ ¬ Known s sku := by
  intro skus
  induction skus with
  | nil => exact fun _ _ => Or.inl fun _ h => nomatch h
  | cons sku skus ih =>
    intro s hnodup hsame
    obtain ⟨hnot, hnodup⟩ := List.nodup_cons.mp hnodup
    by_cases hknown : Known s sku
    · obtain ⟨t, stock, hrun, hstocking, hfind, hstat, hother⟩ :=
        stockSku_known commitTime num hknown
      rw [forEach_cons, bind_ok hrun] at hsame
      have hlater := stockSkus_other commitTime num hnot t
      have hstill : SkuStock.find s sku = some stock := by
        rw [← hfind, ← hlater]
        unfold SkuStock.find
        rw [hsame]
      have hcounted : Counted commitTime s sku := ⟨stock, hstill, hstat⟩
      obtain rfl : s = t := by
        have hrun' := stockSku_counted num hcounted
        rw [hrun] at hrun'
        exact (congrArg Prod.snd hrun').symm
      rcases ih hnodup hsame with hall | ⟨pre, stop, post, rfl, hpre, hstop⟩
      · exact Or.inl (List.forall_mem_cons.mpr ⟨hcounted, hall⟩)
      · right
        exact ⟨sku :: pre, stop, post, rfl, List.forall_mem_cons.mpr ⟨hcounted, hpre⟩, hstop⟩
    · exact Or.inr ⟨[], sku, skus, rfl, fun _ h => (nomatch h), hknown⟩

theorem stockSkus_counted (commitTime : Nat) (num : Option Nat → Int) {s : InboundDb μ}
    {pre : List (Option Nat)} (h : ∀ sku ∈ pre, Counted commitTime s sku)
    (rest : List (Option Nat)) :
    (forEach (pre ++ rest) (stockSku commitTime num)).run s =
      (forEach rest (stockSku commitTime num)).run s := by
  induction pre with
  | nil => rfl
  | cons sku pre ih =>
    obtain ⟨hsku, hpre⟩ := List.forall_mem_cons.mp h
    rw [List.cons_append, forEach_cons, bind_ok (stockSku_counted num hsku)]
    exact ih hpre

/-! ## The steps after the details -/

/-- The last step of `finish_check`. -/
def stockUp (around : Surroundings μ) (syncStock : Bool) (inbound : Nat) : InboundTx μ Unit :=
  if syncStock then do
    InBound.setStockInbound around inbound
    inMall (around.assignSku inbound)
  else pure ()

/-- `finish_check` after the save of the inbound. -/
def settle (around : Surroundings μ) (syncStock : Bool) (inbound : Nat) : InboundTx μ Unit := do
  InBound.updateOrderlistArrivalProcess inbound
  InBound.syncOrderDetails around.now inbound
  stockUp around syncStock inbound

theorem records_eq {s t : InboundDb μ} (hdetails : t.details = s.details)
    (hrecords : t.records = s.records) (inbound : Nat) :
    InBound.records t inbound = InBound.records s inbound := by
  unfold InBound.records InBound.details InBoundDetail.records
  rw [hdetails, hrecords]

theorem mem_records {s : InboundDb μ} {inbound : Nat}
    (h : r ∈ InBound.records s inbound) : r ∈ s.records := by
  obtain ⟨d, -, hr⟩ := List.mem_flatMap.mp h
  exact (List.mem_filter.mp hr).1

theorem skuKeys_eq {s t : InboundDb μ} (around : Surroundings μ)
    (hdetails : t.details = s.details) (inbound : Nat) :
    InBound.skuKeys around t inbound = InBound.skuKeys around s inbound := by
  unfold InBound.skuKeys InBound.details
  rw [hdetails]

theorem nodup_skuKeys (around : Surroundings μ) (s : InboundDb μ) (inbound : Nat) :
    (InBound.skuKeys around s inbound).Nodup :=
  (around.keys_perm _).nodup_iff.mpr (List.nodup_dedup _)

theorem mem_skuKeys {around : Surroundings μ} {s : InboundDb μ} {inbound : Nat} :
    sku ∈ InBound.skuKeys around s inbound ↔ ∃ d ∈ InBound.details s inbound, d.sku = sku := by
  unfold InBound.skuKeys
  rw [(around.keys_perm _).mem_iff, List.mem_dedup, List.mem_map]

theorem known_eq {s t : InboundDb μ} (hskus : t.productSkus = s.productSkus)
    (hstocks : t.skuStocks = s.skuStocks) (sku : Option Nat) : Known t sku ↔ Known s sku := by
  unfold Known SkuStock.find
  rw [hskus, hstocks]

theorem counted_eq {s t : InboundDb μ} (hods : t.orderDetails = s.orderDetails)
    (hstocks : t.skuStocks = s.skuStocks) (commitTime : Nat) (sku : Option Nat) :
    Counted commitTime t sku ↔ Counted commitTime s sku := by
  unfold Counted SkuStock.find SkuStock.statInbound
  rw [hods, hstocks]

section Settle

variable {around : Surroundings μ} {syncStock : Bool} {inbound : Nat} {s t : InboundDb μ}

theorem Finishes.lists (h : Finishes around syncStock inbound s) :
    ∀ od ∈ InBound.orderDetails s inbound, (od.orderlist.bind s.orderLists.get?).isSome = true := by
  intro od hod
  obtain ⟨hmem, hrecord⟩ := List.mem_filter.mp hod
  obtain ⟨r, hr, hid⟩ := List.mem_map.mp (of_decide_eq_true hrecord)
  have hlisted := h.listed r hr
  unfold listOf at hlisted
  rw [Table.get?_eq_some.mpr ⟨hmem, hid.symm⟩] at hlisted
  exact hlisted

theorem stockUp_ok_iff :
    (∃ t, (stockUp around syncStock inbound).run s = (.ok (), t)) ↔
      (syncStock = true → ∀ d ∈ InBound.details s inbound, Known s d.sku) ∧
        (syncStock = true → ∃ m, (around.assignSku inbound).run s.mall = (.ok (), m)) := by
  unfold stockUp
  cases syncStock with
  | false => exact ⟨fun _ => ⟨fun h => (nomatch h), fun h => (nomatch h)⟩, fun _ => ⟨s, rfl⟩⟩
  | true =>
    rw [if_pos rfl]
    constructor
    · rintro ⟨t, hrun⟩
      obtain ⟨⟨⟩, t₁, hstocks, hassign⟩ := bind_eq_ok.mp hrun
      have h₁ := Keeps.of_run (stockSkus_keeps around.commitTime _ _) hstocks
      have hknown := (stockSkus_ok_iff around.commitTime _ (nodup_skuKeys around s inbound)).mp
        ⟨t₁, hstocks⟩
      refine ⟨fun _ d hd => hknown d.sku (mem_skuKeys.mpr ⟨d, hd, rfl⟩), fun _ => ?_⟩
      obtain ⟨m, hrun, -⟩ := zoom_eq_ok.mp hassign
      rw [h₁.mall] at hrun
      exact ⟨m, hrun⟩
    · rintro ⟨hknown, hassigns⟩
      obtain ⟨t₁, hstocks⟩ := (stockSkus_ok_iff around.commitTime
        (InBound.getSkuInstockDict s inbound) (nodup_skuKeys around s inbound)).mpr fun sku hsku => by
          obtain ⟨d, hd, rfl⟩ := mem_skuKeys.mp hsku
          exact hknown rfl d hd
      have hstocks' : (InBound.setStockInbound around inbound).run s = (.ok (), t₁) := hstocks
      have h₁ := Keeps.of_run (stockSkus_keeps around.commitTime _ _) hstocks
      obtain ⟨m, hassign⟩ := hassigns rfl
      rw [← h₁.mall] at hassign
      rw [bind_ok hstocks']
      exact ⟨_, zoom_eq_ok.mpr ⟨m, hassign, rfl⟩⟩

theorem stockUp_keeps (around : Surroundings μ) (syncStock : Bool) (inbound : Nat) :
    Keeps (fun s t : InboundDb μ => t.inbounds = s.inbounds ∧ t.details = s.details ∧
      t.orderDetails = s.orderDetails) (stockUp around syncStock inbound) := by
  unfold stockUp
  refine Keeps.ite _ (Keeps.bind ?_ (fun s => ?_) fun _ s => ⟨rfl, rfl, rfl⟩)
    (Keeps.pure (fun s => ⟨rfl, rfl, rfl⟩) ())
  · rintro s t u ⟨h, h', h''⟩ ⟨k, k', k''⟩
    exact ⟨k.trans h, k'.trans h', k''.trans h''⟩
  · have h := stockSkus_keeps around.commitTime (InBound.getSkuInstockDict s inbound)
      (InBound.skuKeys around s inbound) s
    exact ⟨h.inbounds, h.details, h.orderDetails⟩

theorem stockUp_unwritten {e : Exn} (hrun : (stockUp around syncStock inbound).run s = (.error e, t))
    (hstocks : t.skuStocks = s.skuStocks) (hmall : t.mall = s.mall) :
    syncStock = true ∧
      ((∃ pre sku post, InBound.skuKeys around s inbound = pre ++ sku :: post ∧
        (∀ sku' ∈ pre, Counted around.commitTime s sku') ∧ ¬ Known s sku) ∨
      ((∀ sku ∈ InBound.skuKeys around s inbound, Counted around.commitTime s sku) ∧
        ∃ e, (around.assignSku inbound).run s.mall = (.error e, s.mall))) := by
  unfold stockUp at hrun
  cases syncStock with
  | false => cases hrun
  | true =>
    refine ⟨rfl, ?_⟩
    rw [if_pos rfl, bind_run] at hrun
    have hloop : InBound.setStockInbound around inbound =
      (gets fun s => InBound.skuKeys around s inbound) >>= fun skus =>
        (gets fun s => InBound.getSkuInstockDict s inbound) >>= fun dict =>
          forEach skus (stockSku around.commitTime dict) := rfl
    cases hset : (InBound.setStockInbound around inbound).run s with
    | mk res t₁ =>
      rw [hset] at hrun
      rw [hloop, gets_bind_run, gets_bind_run] at hset
      have h₁ := Keeps.of_run (stockSkus_keeps around.commitTime _ _) hset
      have hunwritten := stockSkus_unwritten around.commitTime
        (InBound.getSkuInstockDict s inbound) (s := s) (nodup_skuKeys around s inbound)
      rw [hset] at hunwritten
      cases res with
      | error e' =>
        cases hrun
        rcases hunwritten hstocks with hall | hstops
        · rw [← List.append_nil (InBound.skuKeys around s inbound),
            stockSkus_counted _ _ hall] at hset
          cases hset
        · exact Or.inl hstops
      | ok u =>
        change ((inMall (around.assignSku inbound)).run t₁) = _ at hrun
        have hput : { t₁ with mall := ((around.assignSku inbound).run t₁.mall).2 } = t :=
          congrArg Prod.snd hrun
        have hres : ((around.assignSku inbound).run t₁.mall).1 = .error e :=
          congrArg Prod.fst hrun
        subst hput
        rcases hunwritten hstocks with hall | hstops
        · refine Or.inr ⟨hall, e, ?_⟩
          rw [h₁.mall] at hres hmall
          exact Prod.ext hres hmall
        · exact Or.inl hstops

theorem stockUp_stops {pre post : List (Option Nat)}
    (hskus : InBound.skuKeys around s inbound = pre ++ sku :: post)
    (hcounted : ∀ sku' ∈ pre, Counted around.commitTime s sku') (hunknown : ¬ Known s sku) :
    (stockUp around true inbound).run s = (.error .doesNotExist, s) := by
  unfold stockUp
  rw [if_pos rfl]
  refine bind_error ?_
  change (forEach (InBound.skuKeys around s inbound) (stockSku around.commitTime
    (InBound.getSkuInstockDict s inbound))).run s = _
  rw [hskus, stockSkus_counted _ _ hcounted, forEach_cons]
  exact bind_error (stockSku_unknown hunknown)

theorem stockUp_counted
    (hcounted : ∀ sku ∈ InBound.skuKeys around s inbound, Counted around.commitTime s sku) :
    (stockUp around true inbound).run s = (inMall (around.assignSku inbound)).run s := by
  unfold stockUp
  have hpasses : (InBound.setStockInbound around inbound).run s = (.ok (), s) := by
    change (forEach (InBound.skuKeys around s inbound) (stockSku around.commitTime
      (InBound.getSkuInstockDict s inbound))).run s = _
    rw [← List.append_nil (InBound.skuKeys around s inbound), stockSkus_counted _ _ hcounted]
    rfl
  rw [if_pos rfl, bind_ok hpasses]

theorem syncOrderDetails_ok_iff (around : Surroundings μ) (s : InboundDb μ) (inbound : Nat) :
    (∃ t, (InBound.syncOrderDetails around.now inbound).run s = (.ok (), t)) ↔
      ∀ r ∈ InBound.records s inbound, (listOf s r).isSome = true :=
  syncing_ok_iff around.now fun _ => mem_records

theorem settle_ok_iff :
    (∃ t, (settle around syncStock inbound).run s = (.ok (), t)) ↔
      Finishes around syncStock inbound s := by
  unfold settle
  constructor
  · rintro ⟨t, hsettle⟩
    obtain ⟨⟨⟩, t₁, hlists, hrest⟩ := bind_eq_ok.mp hsettle
    obtain ⟨⟨⟩, t₂, hsync, hstock⟩ := bind_eq_ok.mp hrest
    have h₁ := (Keeps.of_run (updateOrderlistArrivalProcess_listing inbound) hlists).toSyncing
    have h₂ := Syncing.trans _ _ _ h₁ (Keeps.of_run (syncOrderDetails_syncing around.now inbound)
      hsync)
    have hlisted := (syncOrderDetails_ok_iff around _ inbound).mp ⟨t₂, hsync⟩
    obtain ⟨hknown, hassigns⟩ := stockUp_ok_iff.mp ⟨t, hstock⟩
    rw [records_eq h₁.details h₁.records] at hlisted
    rw [h₂.mall] at hassigns
    refine ⟨fun r hr => ?_, fun h d hd => ?_, hassigns⟩
    · rw [← h₁.listOf_isSome]
      exact hlisted r hr
    · rw [← known_eq h₂.productSkus h₂.skuStocks]
      refine hknown h d ?_
      unfold InBound.details
      rw [h₂.details]
      exact hd
  · intro h
    obtain ⟨t₁, hlists⟩ := updateOrderlistArrivalProcess_ok_iff.mpr fun od hod _ => h.lists od hod
    have h₁ := (Keeps.of_run (updateOrderlistArrivalProcess_listing inbound) hlists).toSyncing
    obtain ⟨t₂, hsync⟩ := (syncOrderDetails_ok_iff around t₁ inbound).mpr fun r hr => by
      rw [records_eq h₁.details h₁.records] at hr
      rw [h₁.listOf_isSome]
      exact h.listed r hr
    have h₂ := Syncing.trans _ _ _ h₁ (Keeps.of_run (syncOrderDetails_syncing around.now inbound)
      hsync)
    rw [bind_ok hlists, bind_ok hsync, stockUp_ok_iff, h₂.mall]
    refine ⟨fun hstock d hd => ?_, h.assigns⟩
    rw [known_eq h₂.productSkus h₂.skuStocks]
    unfold InBound.details at hd
    rw [h₂.details] at hd
    exact h.known hstock d hd

theorem settle_keeps :
    Keeps (fun s t : InboundDb μ => t.inbounds = s.inbounds ∧ t.details = s.details)
      (settle around syncStock inbound) := by
  have htrans : ∀ s t u : InboundDb μ, t.inbounds = s.inbounds ∧ t.details = s.details →
      u.inbounds = t.inbounds ∧ u.details = t.details →
        u.inbounds = s.inbounds ∧ u.details = s.details :=
    fun s t u h h' => ⟨h'.1.trans h.1, h'.2.trans h.2⟩
  unfold settle
  refine Keeps.bind htrans (fun s => ?_) fun _ => Keeps.bind htrans (fun s => ?_) fun _ s => ?_
  · have h := updateOrderlistArrivalProcess_listing inbound s
    exact ⟨h.inbounds, h.details⟩
  · have h := syncOrderDetails_syncing around.now inbound s
    exact ⟨h.inbounds, h.details⟩
  · have h := stockUp_keeps around syncStock inbound s
    exact ⟨h.1, h.2.1⟩

theorem Syncing.spared (h : Syncing s t) (hods : t.orderDetails = s.orderDetails) : Spared s t :=
  ⟨h.details, h.records, hods, h.productSkus, h.skuStocks, h.mall⟩

theorem inSync_of_listing {s t : InboundDb μ} (h : Listing s t) {rs : List Record}
    (hsync : ∀ r ∈ rs, InSync s r) : ∀ r ∈ rs, InSync t r :=
  fun r hr => (h.inSync_iff h.orderDetails r).mpr (hsync r hr)

theorem syncOrderDetails_idle (h : FailsIdly around syncStock inbound s) (hlisting : Listing s t)
    (hlists : ∀ od ∈ InBound.orderDetails s inbound, 0 < od.arrivalQuantity →
      (od.orderlist.bind s.orderLists.get?).isSome = true) :
    ((InBound.syncOrderDetails around.now inbound).run t).2.orderDetails = s.orderDetails := by
  have hrecords := records_eq hlisting.details hlisting.records inbound
  have hmem : ∀ r ∈ InBound.records s inbound, r ∈ t.records := by
    intro r hr
    rw [hlisting.records]
    exact mem_records hr
  rw [← hlisting.orderDetails]
  unfold InBound.syncOrderDetails
  rw [gets_bind_run, hrecords]
  rcases h with ⟨od, hod, harrival, hlist⟩ | ⟨pre, r, post, hpre, hsync, hlist⟩ |
    ⟨-, hsync, -⟩ | ⟨-, hsync, -⟩
  · have hsome := hlists od hod harrival
    rw [hlist] at hsome
    cases hsome
  · rw [hpre] at hmem ⊢
    have hlist' := hlisting.listOf_isSome r
    rw [hlist, Option.isSome_none, Option.isSome_eq_false_iff, Option.isNone_iff_eq_none] at hlist'
    refine syncing_stops around.now (fun r' hr' => hmem r' ?_) (inSync_of_listing hlisting hsync)
      hlist'
    rw [← List.singleton_append, ← List.append_assoc]
    exact List.mem_append_left post hr'
  · exact syncing_inSync around.now hmem (inSync_of_listing hlisting hsync)
  · exact syncing_inSync around.now hmem (inSync_of_listing hlisting hsync)

theorem settle_idle (h : FailsIdly around syncStock inbound s) :
    Spared s ((settle around syncStock inbound).run s).2 := by
  unfold settle
  cases hlists : (InBound.updateOrderlistArrivalProcess inbound).run s with
  | mk res t₁ =>
    have h₁ := Keeps.of_run (updateOrderlistArrivalProcess_listing inbound) hlists
    cases res with
    | error e =>
      rw [bind_error hlists]
      exact h₁.spared h₁.orderDetails
    | ok u =>
      have hall := updateOrderlistArrivalProcess_ok_iff.mp ⟨t₁, hlists⟩
      have hods := syncOrderDetails_idle h h₁ hall
      rw [bind_ok hlists]
      cases hsync : (InBound.syncOrderDetails around.now inbound).run t₁ with
      | mk res t₂ =>
        rw [hsync] at hods
        have h₂ := Syncing.trans _ _ _ h₁.toSyncing
          (Keeps.of_run (syncOrderDetails_syncing around.now inbound) hsync)
        cases res with
        | error e =>
          rw [bind_error hsync]
          exact h₂.spared hods
        | ok u =>
          have hlisted := (syncOrderDetails_ok_iff around _ inbound).mp ⟨t₂, hsync⟩
          rw [records_eq h₁.details h₁.records] at hlisted
          rw [bind_ok hsync]
          have hskus := skuKeys_eq around h₂.details inbound
          rcases h with ⟨od, hod, harrival, hlist⟩ | ⟨pre, r, post, hpre, -, hlist⟩ |
            ⟨rfl, -, pre, sku, post, hpre, hcounted, hunknown⟩ |
            ⟨rfl, -, hcounted, e, hassign⟩
          · have hsome := hall od hod harrival
            rw [hlist] at hsome
            cases hsome
          · have hsome := hlisted r (by
              rw [hpre]
              exact List.mem_append_right pre List.mem_cons_self)
            rw [h₁.listOf_isSome, hlist] at hsome
            cases hsome
          · rw [stockUp_stops (hskus.trans hpre)]
            · exact h₂.spared hods
            · intro sku' hsku'
              rw [counted_eq hods h₂.skuStocks]
              exact hcounted sku' hsku'
            · rw [known_eq h₂.productSkus h₂.skuStocks]
              exact hunknown
          · rw [stockUp_counted]
            · unfold inMall
              rw [zoom_snd, h₂.mall, hassign]
              exact { h₂.spared hods with mall := rfl }
            · intro sku hsku
              rw [hskus] at hsku
              rw [counted_eq hods h₂.skuStocks]
              exact hcounted sku hsku

theorem settle_unwritten {e : Exn} (hrun : (settle around syncStock inbound).run s = (.error e, t))
    (hspared : Spared s t) : FailsIdly around syncStock inbound s := by
  unfold settle at hrun
  by_cases hall : ∀ od ∈ InBound.orderDetails s inbound, 0 < od.arrivalQuantity →
      (od.orderlist.bind s.orderLists.get?).isSome = true
  · obtain ⟨t₁, hlists⟩ := updateOrderlistArrivalProcess_ok_iff.mpr hall
    have h₁ := Keeps.of_run (updateOrderlistArrivalProcess_listing inbound) hlists
    have hrecords := records_eq h₁.details h₁.records inbound
    rw [bind_ok hlists] at hrun
    cases hsync : (InBound.syncOrderDetails around.now inbound).run t₁ with
    | mk res t₂ =>
      have h₂ := Syncing.trans _ _ _ h₁.toSyncing
        (Keeps.of_run (syncOrderDetails_syncing around.now inbound) hsync)
      -- the last step leaves the order details as they are
      have hods : t₂.orderDetails = s.orderDetails := by
        cases res with
        | error e' =>
          rw [bind_error hsync] at hrun
          cases hrun
          exact hspared.orderDetails
        | ok u =>
          rw [bind_ok hsync] at hrun
          rw [← (Keeps.of_run (stockUp_keeps around syncStock inbound) hrun).2.2]
          exact hspared.orderDetails
      have hunwritten := syncing_unwritten around.now
        (InBound.records t₁ inbound) fun _ => mem_records
      have hloop : ((forEach (InBound.records t₁ inbound) fun r =>
          OrderDetail.setArrivalQuantity around.now r.orderdetail).run t₁).2 = t₂ :=
        congrArg Prod.snd hsync
      rw [hloop, h₁.orderDetails, hrecords] at hunwritten
      simp only [h₁.inSync_iff h₁.orderDetails, h₁.listOf_isSome] at hunwritten
      rcases hunwritten hods with hgood | ⟨pre, r, post, hpre, hsyncs, hlist⟩
      · obtain ⟨t₂', hok⟩ := (syncOrderDetails_ok_iff around t₁ inbound).mpr fun r hr => by
            rw [hrecords] at hr
            rw [h₁.listOf_isSome]
            exact (hgood r hr).2
        rw [hok] at hsync
        cases hsync
        rw [bind_ok hok] at hrun
        have hstocks : t.skuStocks = t₂.skuStocks := hspared.skuStocks.trans h₂.skuStocks.symm
        obtain ⟨rfl, hstops⟩ := stockUp_unwritten hrun hstocks (hspared.mall.trans h₂.mall.symm)
        rw [skuKeys_eq around h₂.details, h₂.mall] at hstops
        simp only [counted_eq hods h₂.skuStocks, known_eq h₂.productSkus h₂.skuStocks] at hstops
        have hsyncs := fun r hr => (hgood r hr).1
        rcases hstops with ⟨pre, sku, post, hpre, hcounted, hunknown⟩ | ⟨hcounted, hassign⟩
        · exact .unstocked rfl hsyncs pre sku post hpre hcounted hunknown
        · exact .unassigned rfl hsyncs hcounted hassign
      · refine .unsynced pre r post hpre hsyncs ?_
        have hnone := h₁.listOf_isSome r
        rw [hlist, Option.isSome_none] at hnone
        exact Option.not_isSome_iff_eq_none.mp (by rw [← hnone]; exact Bool.false_ne_true)
  · push Not at hall
    obtain ⟨od, hod, harrival, hlist⟩ := hall
    exact .unlisted od hod harrival (Option.not_isSome_iff_eq_none.mp hlist)

end Settle

end ShopManager.Purchase.Inbound
