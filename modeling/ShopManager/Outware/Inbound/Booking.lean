import ShopManager.Outware.Inbound.Allocation
import ShopManager.Outware.Inbound.Received

/-!
# The booking of the goods

A purchase is booked exactly when its forecast is known and has an order list that asks for
each SKU, each SKU has one line, and the stock takes what came in.  Goods sent back are
booked only when the first line has the number that was asked for.
-/

namespace ShopManager.Outware.Inbound

open Library Library.Tx

variable {μ : Type}

structure Linked (s : InboundDb μ) : Prop where
  details : ∀ d ∈ s.inboundDetails, ∃ inbound ∈ s.inbounds, inbound.id = d.inbound
  records : ∀ r ∈ s.records, ∃ d ∈ s.inboundDetails, d.id = r.inbounddetail

namespace InBoundDetail

def content (d : InBoundDetail) : Nat × Int × Int :=
  (d.sku, d.arrivalQuantity, d.inferiorQuantity)

end InBoundDetail

open InBoundDetail (content createAll)

def entry (s : InboundDb μ) (line : Line) : Option (Nat × Int × Int) :=
  (skuOf s line.skuCode).map fun sku => (sku.id, line.pullGoodQty, line.pullBadQty)

def expected (s : InboundDb μ) (orderlist : Nat) (lines : List Line) : List Arrival :=
  lines.filterMap fun line =>
    (skuOf s line.skuCode).map fun sku => ⟨sku.id, line.pullGoodQty, orderlist⟩

/-! ## The details -/

theorem createAll_ok {s : InboundDb μ} :
    ∀ {lines : List Line} {ibds : List InBoundDetail} {s' : InboundDb μ},
      (createAll lines).run s = (.ok ibds, s') →
        s = s' ∧ lines.map (entry s) = (ibds.map content).map some := by
  intro lines
  induction lines with
  | nil =>
    intro ibds s' h
    obtain ⟨rfl, rfl⟩ := pure_eq_ok.1 h
    exact ⟨rfl, rfl⟩
  | cons line lines ih =>
    intro ibds s' h
    unfold createAll at h
    obtain ⟨ibd, s1, hcreate, h⟩ := bind_eq_ok.1 h
    unfold InBoundDetail.create at hcreate
    obtain ⟨sku, hsku, hpure⟩ := getOr_bind_eq_ok.1 hcreate
    obtain ⟨rfl, rfl⟩ := pure_eq_ok.1 hpure
    obtain ⟨rest, s3, hrest, h⟩ := bind_eq_ok.1 h
    obtain ⟨rfl, hmap⟩ := ih hrest
    obtain ⟨rfl, rfl⟩ := pure_eq_ok.1 h
    refine ⟨rfl, ?_⟩
    rw [List.map_cons, hmap]
    simp [entry, hsku, content]

theorem createAll_run {s : InboundDb μ} :
    ∀ {lines : List Line}, (∀ line ∈ lines, ∃ sku, skuOf s line.skuCode = some sku) →
      ∃ ibds, (createAll lines).run s = (.ok ibds, s) := by
  intro lines
  induction lines with
  | nil =>
    intro _
    exact ⟨[], rfl⟩
  | cons line lines ih =>
    intro h
    obtain ⟨sku, hsku⟩ := h line (List.mem_cons_self ..)
    obtain ⟨ibds, hrun⟩ := ih fun line' hline' => h line' (List.mem_cons_of_mem _ hline')
    obtain ⟨ibd, hibd⟩ : ∃ ibd, (InBoundDetail.create line).run s = (.ok ibd, s) := by
      unfold InBoundDetail.create
      rw [getOr_bind_run, hsku]
      exact ⟨_, rfl⟩
    exact ⟨ibd :: ibds, (bind_ok hibd).trans (bind_ok hrun)⟩

variable {orderlist : Nat}

namespace InBound

theorem addDetails_run (inbound : Nat) : ∀ (ibds : List InBoundDetail) (s : InboundDb μ),
    ∃ t new, (forEach ibds (addDetail inbound)).run s =
        (.ok (), { s with inboundDetails := t }) ∧
      t.rows = s.inboundDetails.rows ++ new ∧ new.map content = ibds.map content ∧
        ∀ d ∈ new, d.inbound = inbound := by
  intro ibds
  induction ibds with
  | nil =>
    intro s
    exact ⟨s.inboundDetails, [], rfl, (List.append_nil _).symm, rfl, by simp⟩
  | cons ibd ibds ih =>
    intro s
    let d : InBoundDetail := { ibd with inbound := inbound }
    obtain ⟨t, new, hrun, hrows, hcontent, hinbound⟩ :=
      ih { s with inboundDetails := s.inboundDetails.insert d }
    refine ⟨t, s.inboundDetails.stored d :: new, hrun, ?_, ?_, ?_⟩
    · rw [hrows]
      simp [Table.insert]
    · rw [List.map_cons, hcontent]
      rfl
    · intro d' hd'
      rcases List.mem_cons.1 hd' with rfl | hd'
      · rfl
      · exact hinbound d' hd'

theorem filter_records {s : InboundDb μ} {ds : List InBoundDetail}
    {new : List Record} (h : List.Forall₂ (Records s orderlist) ds new)
    (hnodup : (ds.map InBoundDetail.id).Nodup) :
    ∀ d ∈ ds, ∃ r, Records s orderlist d r ∧
      (new.filter fun r => r.inbounddetail = d.id) = [r] := by
  induction h with
  | nil =>
    intro d hd
    cases hd
  | @cons first r ds new hfirst hrest ih =>
    rw [List.map_cons, List.nodup_cons] at hnodup
    intro d hd
    rcases List.mem_cons.1 hd with rfl | hd
    · have hnone : (new.filter fun r => r.inbounddetail = d.id) = [] := by
        refine List.filter_eq_nil_iff.2 fun r' hr' heq => hnodup.1 ?_
        obtain ⟨i, hi, rfl⟩ := List.mem_iff_getElem.1 hr'
        have hi' : i < ds.length := hrest.length_eq ▸ hi
        have hbooks := hrest.get hi' hi
        refine List.mem_map.2 ⟨ds[i], List.getElem_mem hi', ?_⟩
        exact hbooks.2.1.symm.trans (of_decide_eq_true heq)
      refine ⟨r, hfirst, ?_⟩
      rw [List.filter_cons_of_pos, hnone]
      exact decide_eq_true hfirst.2.1
    · obtain ⟨r', hr', hfilter⟩ := ih hnodup.2 d hd
      refine ⟨r', hr', ?_⟩
      have hne : ¬ r.inbounddetail = d.id := by
        intro heq
        exact hnodup.1 (List.mem_map.2 ⟨d, hd, heq.symm.trans hfirst.2.1⟩)
      rw [List.filter_cons_of_neg (by simpa using hne)]
      exact hfilter

theorem arrivals_eq {s : InboundDb μ} {inbound : Nat} {old new : List Record}
    (hrows : s.records.rows = old ++ new)
    (hold : ∀ r ∈ old, ∀ d ∈ details inbound s, r.inbounddetail ≠ d.id)
    (hnew : List.Forall₂ (Records s orderlist) (details inbound s) new) :
    arrivals inbound s =
      (details inbound s).map fun d => ⟨d.sku, d.arrivalQuantity, orderlist⟩ := by
  have hnodup : ((details inbound s).map InBoundDetail.id).Nodup := by
    have hall : (s.inboundDetails.rows.map InBoundDetail.id).Nodup :=
      s.inboundDetails.sorted.imp ne_of_lt
    exact hall.sublist (List.filter_sublist.map _)
  have hone : ∀ d ∈ details inbound s,
      ((s.records.filter fun r => r.inbounddetail = d.id).filterMap fun r =>
        (s.orderDetails.get? r.orderdetail).map fun od =>
          (⟨d.sku, r.arrivalQuantity, od.orderlist⟩ : Arrival)) =
        [⟨d.sku, d.arrivalQuantity, orderlist⟩] := by
    intro d hd
    obtain ⟨r, ⟨⟨od, hod, hid⟩, -, hnum⟩, hfilter⟩ := filter_records hnew hnodup d hd
    have hnone : (old.filter fun r => r.inbounddetail = d.id) = [] :=
      List.filter_eq_nil_iff.2 fun r hr heq => hold r hr d hd (of_decide_eq_true heq)
    obtain ⟨hmem, hlist, -⟩ := orderDetailOf_spec hod
    have hget : s.orderDetails.get? r.orderdetail = some od :=
      Table.get?_eq_some.2 ⟨hmem, hid.symm⟩
    rw [Table.filter, hrows, List.filter_append, hnone, hfilter]
    simp [hget, hlist, hnum]
  have hmap : arrivals inbound s = (details inbound s).flatMap fun d =>
      [⟨d.sku, d.arrivalQuantity, orderlist⟩] :=
    List.flatMap_congr hone
  rw [hmap]
  exact List.map_eq_flatMap.symm

theorem setArrivalQuantities_run : ∀ (ids : List Nat) (s : InboundDb μ),
    ∃ t, (forEach ids OrderDetail.setArrivalQuantity).run s =
        (.ok (), { s with orderDetails := t }) ∧
      ∀ n, (t.get? n).map OrderDetail.orderlist =
        (s.orderDetails.get? n).map OrderDetail.orderlist := by
  intro ids
  induction ids with
  | nil =>
    intro s
    exact ⟨s.orderDetails, rfl, fun n => rfl⟩
  | cons first ids ih =>
    intro s
    obtain ⟨t, hrun, hlists⟩ := ih ((OrderDetail.setArrivalQuantity first).run s).2
    refine ⟨t, hrun, ?_⟩
    intro n
    rw [hlists]
    unfold OrderDetail.setArrivalQuantity
    dsimp only [modify_run]
    rw [show (fun od : OrderDetail => decide (od.id = first)) =
      fun od => decide (Row.pk od = first) from rfl, Table.get?_update]
    split
    · next heq =>
        subst heq
        rw [Option.map_map]
        rfl
    · rfl

end InBound

namespace InBound

def booked (d : InBoundDetail) : Nat × Nat × Int × Int := (d.inbound, content d)

theorem arrivals_checked (inbound : Nat) (s : InboundDb μ) {t : Table OrderDetail}
    (ibs : Table InBound) (ht : ∀ n, (t.get? n).map OrderDetail.orderlist =
      (s.orderDetails.get? n).map OrderDetail.orderlist) :
    arrivals inbound { s with
      inboundDetails := s.inboundDetails.update (fun d => d.inbound = inbound) fun d =>
        { d with checked := true }
      inbounds := ibs
      orderDetails := t } = arrivals inbound s := by
  have hdetails : details inbound { s with
      inboundDetails := s.inboundDetails.update (fun d => d.inbound = inbound) fun d =>
        { d with checked := true }
      inbounds := ibs
      orderDetails := t } = (details inbound s).map fun d => { d with checked := true } := by
    unfold details Table.filter Table.update
    dsimp only
    rw [List.filter_map]
    have hcomp : ((fun d : InBoundDetail => decide (d.inbound = inbound)) ∘ fun d =>
        if decide (d.inbound = inbound) = true then
          Row.withPk (Row.pk d) { d with checked := true } else d) =
        fun d => decide (d.inbound = inbound) := by
      funext d
      simp only [Function.comp_apply]
      split <;> rfl
    rw [hcomp]
    refine List.map_congr_left fun d hd => ?_
    rw [if_pos (List.mem_filter.1 hd).2]
    rfl
  unfold arrivals
  rw [hdetails, List.flatMap_map]
  refine List.flatMap_congr fun d _ => List.filterMap_congr fun r _ => ?_
  have hlist := congrArg
    (Option.map fun orderlist => (⟨d.sku, r.arrivalQuantity, orderlist⟩ : Arrival))
    (ht r.orderdetail)
  rw [Option.map_map, Option.map_map] at hlist
  exact hlist

theorem finishCheck_run (mall : Mall μ) (inbound : InBound) (s : InboundDb μ) :
    ∃ u row t, (finishCheck mall inbound).run s =
        (inMall (mall.syncStock (arrivals inbound.id s))).run { s with
          inboundDetails := u
          inbounds := s.inbounds.save row
          orderDetails := t } ∧
      u.rows.map booked = s.inboundDetails.rows.map booked := by
  let u := s.inboundDetails.update (fun d => d.inbound = inbound.id) fun d =>
    { d with checked := true }
  let row := setStat { s with inboundDetails := u } { inbound with
    status := .completed
    checked := true }
  let s' : InboundDb μ := { s with
    inboundDetails := u
    inbounds := s.inbounds.save row }
  obtain ⟨t, hrun, hlists⟩ := setArrivalQuantities_run
    ((details inbound.id s').flatMap fun d =>
      (s'.records.filter fun r => r.inbounddetail = d.id).map Record.orderdetail) s'
  refine ⟨u, row, t, ?_, Table.map_rows_update fun _ _ _ => rfl⟩
  unfold finishCheck
  refine (bind_ok hrun).trans ?_
  rw [gets_bind_run]
  have harrivals := arrivals_checked inbound.id s (s.inbounds.save row) hlists
  exact congrArg (fun moved => (inMall (mall.syncStock moved)).run { s' with orderDetails := t })
    harrivals

end InBound

/-! ## A purchase -/

theorem content_sku (ds : List InBoundDetail) :
    ds.map InBoundDetail.sku = (ds.map content).map Prod.fst := by
  rw [List.map_map]
  rfl

theorem InBound.Allocatable.congr {s : InboundDb μ} {ds ds' : List InBoundDetail}
    (h : Allocatable s orderlist ds) (hcontent : ds'.map content = ds.map content) :
    Allocatable s orderlist ds' := by
  have hfind : ∀ d' ∈ ds', ∃ d ∈ ds, content d = content d' := by
    intro d' hd'
    have hmem : content d' ∈ ds.map content := hcontent ▸ List.mem_map_of_mem hd'
    exact List.mem_map.1 hmem
  refine ⟨?_, ?_, ?_⟩
  · rw [content_sku, hcontent, ← content_sku]
    exact h.distinct
  · intro d' hd'
    obtain ⟨d, hd, heq⟩ := hfind d' hd'
    have hsku : d.sku = d'.sku := congrArg Prod.fst heq
    rw [← hsku]
    exact h.ordered d hd
  · intro d' hd'
    obtain ⟨d, hd, heq⟩ := hfind d' hd'
    have hbad : d.inferiorQuantity = d'.inferiorQuantity := congrArg (fun c => c.2.2) heq
    rw [← hbad]
    exact h.sound d hd

def OrderlistOf (s : InboundDb μ) (forecastNo : String) (orderlist : Nat) : Prop :=
  ∃ forecast, InBound.forecastOf s forecastNo = some forecast ∧
    forecast.relateOrderSet.head? = some orderlist

def bookedQty (inbound sku : Nat) (s : InboundDb μ) : Int × Int :=
  s.inboundDetails.sum fun d =>
    if d.inbound = inbound ∧ d.sku = sku then (d.arrivalQuantity, d.inferiorQuantity) else 0

theorem details_new {s : InboundDb μ} (h : Linked s) {t : Table InBoundDetail}
    {new : List InBoundDetail} (ibs : Table InBound)
    (hrows : t.rows = s.inboundDetails.rows ++ new)
    (hnew : ∀ d ∈ new, d.inbound = s.inbounds.nextId) :
    InBound.details s.inbounds.nextId { s with
      inbounds := ibs
      inboundDetails := t } = new := by
  unfold InBound.details Table.filter
  dsimp only
  rw [hrows, List.filter_append]
  have hold : (s.inboundDetails.rows.filter fun d => d.inbound = s.inbounds.nextId) = [] := by
    refine List.filter_eq_nil_iff.2 fun d hd heq => ?_
    obtain ⟨inbound, hmem, hid⟩ := h.details d hd
    have hlt : inbound.id < s.inbounds.nextId := Table.pk_lt_nextId hmem
    have heq' : d.inbound = s.inbounds.nextId := of_decide_eq_true heq
    omega
  have hall : (new.filter fun d => d.inbound = s.inbounds.nextId) = new :=
    List.filter_eq_self.2 fun d hd => decide_eq_true (hnew d hd)
  rw [hold, hall]
  rfl

theorem create_stored (mall : Mall μ) (ibds : List InBoundDetail) {forecastNo : String}
    (expressNo : String) {s : InboundDb μ} (h : OrderlistOf s forecastNo orderlist) :
    ∃ row stored t new, (InBound.create mall ibds forecastNo expressNo).run s =
        (do
          InBound.allocate stored
          InBound.finishCheck mall { stored with status := .waitCheck }).run { s with
            inbounds := s.inbounds.insert row
            inboundDetails := t } ∧
      stored.id = s.inbounds.nextId ∧ stored.oriOrderlist = orderlist ∧
      t.rows = s.inboundDetails.rows ++ new ∧ new.map content = ibds.map content ∧
        ∀ d ∈ new, d.inbound = s.inbounds.nextId := by
  obtain ⟨forecast, hforecast, horderlist⟩ := h
  let row : InBound := {
    id := 0
    expressNo := expressNo
    forecastInbound := forecast.id
    oriOrderlist := orderlist
    status := .pending
    checked := false
    outStock := false
    inferior := false }
  obtain ⟨t, new, hrun, hrows, hcontent, hnew⟩ := InBound.addDetails_run s.inbounds.nextId ibds
    { s with inbounds := s.inbounds.insert row }
  refine ⟨row, s.inbounds.stored row, t, new, ?_, rfl, rfl, hrows, hcontent, hnew⟩
  unfold InBound.create
  rw [getOr_bind_run, hforecast]
  dsimp only
  rw [getOr_bind_run, horderlist]
  exact bind_ok hrun

theorem create_ok {mall : Mall μ} {ibds : List InBoundDetail} {forecastNo expressNo : String}
    {s s' : InboundDb μ} {u : Unit} (hlinked : Linked s)
    (h : (InBound.create mall ibds forecastNo expressNo).run s = (.ok u, s')) :
    ∃ orderlist, OrderlistOf s forecastNo orderlist ∧
      InBound.Allocatable s orderlist ibds := by
  have horderlist : ∃ orderlist, OrderlistOf s forecastNo orderlist := by
    unfold InBound.create at h
    obtain ⟨forecast, hforecast, h⟩ := getOr_bind_eq_ok.1 h
    obtain ⟨orderlist, s2, hget, -⟩ := bind_eq_ok.1 h
    exact ⟨orderlist, forecast, hforecast, (getOr_eq_ok.1 hget).1⟩
  obtain ⟨orderlist, horderlist⟩ := horderlist
  obtain ⟨row, stored, t, new, hrun, hid, hlist, hrows, hcontent, hnew⟩ :=
    create_stored mall ibds expressNo horderlist
  rw [hrun] at h
  obtain ⟨_, s1, hallocate, -⟩ := bind_eq_ok.1 h
  have hallocatable := InBound.allocate_ok hallocate
  rw [hid, hlist, details_new hlinked _ hrows hnew] at hallocatable
  have hbooks := hallocatable.congr hcontent.symm
  exact ⟨orderlist, horderlist, hbooks.distinct, hbooks.ordered, hbooks.sound⟩

theorem bookedQty_new {s : InboundDb μ} (h : Linked s) {t : Table InBoundDetail}
    {new ibds : List InBoundDetail} (hrows : t.rows = s.inboundDetails.rows ++ new)
    (hcontent : new.map content = ibds.map content)
    (hnew : ∀ d ∈ new, d.inbound = s.inbounds.nextId) (sku : Nat) :
    (t.sum fun d => if d.inbound = s.inbounds.nextId ∧ d.sku = sku then
      (d.arrivalQuantity, d.inferiorQuantity) else 0) =
      ((ibds.map content).map fun c => if c.1 = sku then c.2 else 0).sum := by
  unfold Table.sum
  rw [hrows, List.map_append, List.sum_append]
  have hold : (s.inboundDetails.rows.map fun d =>
      if d.inbound = s.inbounds.nextId ∧ d.sku = sku then
        (d.arrivalQuantity, d.inferiorQuantity) else 0).sum = 0 := by
    refine List.sum_eq_zero fun q hq => ?_
    obtain ⟨d, hd, rfl⟩ := List.mem_map.1 hq
    obtain ⟨inbound, hmem, hid⟩ := h.details d hd
    have hlt : inbound.id < s.inbounds.nextId := Table.pk_lt_nextId hmem
    exact if_neg fun heq => by omega
  rw [hold, zero_add, ← hcontent, List.map_map]
  congr 1
  refine List.map_congr_left fun d hd => ?_
  rw [Function.comp_apply, hnew d hd]
  simp only [true_and]
  rfl

theorem create_run (mall : Mall μ) {ibds : List InBoundDetail} {forecastNo : String}
    (expressNo : String) {s : InboundDb μ} (hlinked : Linked s)
    (h : OrderlistOf s forecastNo orderlist) (hbooks : InBound.Allocatable s orderlist ibds) :
    ∃ s', (InBound.create mall ibds forecastNo expressNo).run s =
        (inMall (mall.syncStock ((ibds.map content).map fun c => ⟨c.1, c.2.1, orderlist⟩))).run s' ∧
      s'.mall = s.mall ∧
      s'.inbounds.rows.map InBound.id =
        s.inbounds.rows.map InBound.id ++ [s.inbounds.nextId] ∧
      ∀ sku, bookedQty s.inbounds.nextId sku s' =
        ((ibds.map content).map fun c => if c.1 = sku then c.2 else 0).sum := by
  obtain ⟨row, stored, t, new, hrun, hid, hlist, hrows, hcontent, hnew⟩ :=
    create_stored mall ibds expressNo h
  have hdetails := details_new hlinked (s.inbounds.insert row) hrows hnew
  have hallocatable : InBound.Allocatable { s with
      inbounds := s.inbounds.insert row
      inboundDetails := t } stored.oriOrderlist (InBound.details stored.id { s with
        inbounds := s.inbounds.insert row
        inboundDetails := t }) := by
    rw [hid, hlist, hdetails]
    have hnew' := hbooks.congr hcontent
    exact ⟨hnew'.distinct, hnew'.ordered, hnew'.sound⟩
  obtain ⟨records, newRecords, allocated, hallocate, -, hrecords, hall⟩ :=
    InBound.allocate_run hallocatable
  let s1 : InboundDb μ := { s with
    inboundDetails := t
    records := records
    inbounds := (s.inbounds.insert row).save allocated }
  obtain ⟨u, checked, ods, hcheck, hu⟩ := InBound.finishCheck_run mall
    { stored with status := .waitCheck } s1
  have hdetails1 : InBound.details stored.id s1 = new := by
    rw [hid]
    exact hdetails
  have harrivals : InBound.arrivals stored.id s1 =
      (ibds.map content).map fun c => ⟨c.1, c.2.1, orderlist⟩ := by
    rw [InBound.arrivals_eq hrecords ?_ ?_, hdetails1, ← hcontent, List.map_map]
    · rfl
    · intro r hr d hd heq
      rw [hdetails1] at hd
      obtain ⟨d', hd', hid'⟩ := hlinked.records r hr
      have hsorted := t.sorted
      rw [hrows, List.map_append, List.pairwise_append] at hsorted
      have hlt : d'.id < d.id :=
        hsorted.2.2 _ (List.mem_map_of_mem hd') _ (List.mem_map_of_mem hd)
      omega
    · rw [hlist] at hall
      exact hall
  refine ⟨{ s1 with
    inboundDetails := u
    inbounds := s1.inbounds.save checked
    orderDetails := ods }, ?_, rfl, ?_, ?_⟩
  · rw [hrun, ← harrivals]
    exact (bind_ok hallocate).trans hcheck
  · have hsave : ∀ (ibs : Table InBound) (ib : InBound),
        (ibs.save ib).rows.map InBound.id = ibs.rows.map InBound.id := by
      intro ibs ib
      refine Table.map_rows_update fun r _ hpk => ?_
      rfl
    dsimp only [s1]
    rw [hsave, hsave, Table.map_rows_insert]
    rfl
  · intro sku
    have hqty := bookedQty_new hlinked hrows hcontent hnew sku
    rw [← hqty]
    have hmap := congrArg (fun l => (l.map fun c : Nat × Nat × Int × Int =>
      if c.1 = s.inbounds.nextId ∧ c.2.1 = sku then c.2.2 else 0).sum) hu
    simp only [List.map_map] at hmap
    exact hmap

/-! ## The lines and the books -/

section Lines

variable {s : InboundDb μ} {lines : List Line} {ibds : List InBoundDetail}

def orderedQty (s : InboundDb μ) (sku : Nat) (lines : List Line) : Int × Int :=
  (lines.map fun line =>
    if (skuOf s line.skuCode).map ProductSku.id = some sku then line.qty else 0).sum

theorem expected_eq (h : lines.map (entry s) = (ibds.map content).map some) (orderlist : Nat) :
    expected s orderlist lines = (ibds.map content).map fun c => ⟨c.1, c.2.1, orderlist⟩ := by
  have hexpected : expected s orderlist lines = (lines.map (entry s)).filterMap fun c =>
      c.map fun c => (⟨c.1, c.2.1, orderlist⟩ : Arrival) := by
    rw [List.filterMap_map]
    refine List.filterMap_congr fun line _ => ?_
    simp only [Function.comp_apply, entry, Option.map_map]
    rfl
  rw [hexpected, h, List.filterMap_map]
  exact congrFun (List.filterMap_eq_map
    (f := fun c : Nat × Int × Int => (⟨c.1, c.2.1, orderlist⟩ : Arrival))) (ibds.map content)

theorem orderedQty_eq (h : lines.map (entry s) = (ibds.map content).map some) (sku : Nat) :
    orderedQty s sku lines =
      ((ibds.map content).map fun c => if c.1 = sku then c.2 else 0).sum := by
  have hordered : orderedQty s sku lines = ((lines.map (entry s)).map fun c =>
      (c.elim 0 fun c => if c.1 = sku then c.2 else 0)).sum := by
    unfold orderedQty
    rw [List.map_map]
    congr 1
    refine List.map_congr_left fun line _ => ?_
    rw [Function.comp_apply, entry]
    cases skuOf s line.skuCode with
    | none => rfl
    | some row => simp [Line.qty]
  rw [hordered, h, List.map_map]
  rfl

theorem distinct_iff (h : lines.map (entry s) = (ibds.map content).map some) :
    (ibds.map InBoundDetail.sku).Nodup ↔ (lines.map Line.skuCode).Nodup := by
  have hskus : lines.map (fun line => (skuOf s line.skuCode).map ProductSku.id) =
      (ibds.map InBoundDetail.sku).map some := by
    have hfst := congrArg (List.map (Option.map Prod.fst)) h
    simp only [List.map_map] at hfst ⊢
    refine Eq.trans (List.map_congr_left fun line _ => ?_) hfst
    rw [Function.comp_apply, entry, Option.map_map]
    rfl
  rw [← List.nodup_map_iff (Option.some_injective Nat), ← hskus, List.Nodup, List.Nodup,
    List.pairwise_map, List.pairwise_map]
  refine List.Pairwise.iff_of_mem fun {line line'} hline hline' => not_congr ?_
  have hsome : ∀ line ∈ lines, ∃ sku, skuOf s line.skuCode = some sku ∧
      sku.outerId = line.skuCode := by
    intro line hline
    have hmem : entry s line ∈ (ibds.map content).map some := h ▸ List.mem_map_of_mem hline
    obtain ⟨c, -, hc⟩ := List.mem_map.1 hmem
    cases hsku : skuOf s line.skuCode with
    | none => simp [entry, hsku] at hc
    | some sku =>
      have hspec := Table.first_spec hsku
      exact ⟨sku, rfl, of_decide_eq_true hspec⟩
  obtain ⟨sku, hsku, hcode⟩ := hsome line hline
  obtain ⟨sku', hsku', hcode'⟩ := hsome line' hline'
  constructor
  · intro heq
    rw [hsku, hsku'] at heq
    have hid : sku.id = sku'.id := by simpa using heq
    have hrow : sku = sku' := Table.pk_inj (Table.mem_of_first hsku) (Table.mem_of_first hsku') hid
    rw [← hcode, ← hcode', hrow]
  · intro heq
    rw [heq]

end Lines

/-- The purchase can be booked: the goods of each SKU came in one line, the order list of the
forecast asks for each SKU, and the stock takes them. -/
structure Purchasable (mall : Mall μ) (s : InboundDb μ) (forecastNo : String)
    (lines : List Line) (orderlist : Nat) : Prop where
  forecast : OrderlistOf s forecastNo orderlist
  distinct : (lines.map Line.skuCode).Nodup
  ordered : ∀ line ∈ lines, ∃ sku od, skuOf s line.skuCode = some sku ∧
    InBound.orderDetailOf s orderlist sku.id = some od
  sound : ∀ line ∈ lines, 0 ≤ line.pullBadQty
  synced : ∃ u t, (mall.syncStock (expected s orderlist lines)).run s.mall = (.ok u, t)

theorem allocatable_iff {s : InboundDb μ} {lines : List Line} {ibds : List InBoundDetail}
    (h : lines.map (entry s) = (ibds.map content).map some) :
    InBound.Allocatable s orderlist ibds ↔ (lines.map Line.skuCode).Nodup ∧
      (∀ line ∈ lines, ∃ sku od, skuOf s line.skuCode = some sku ∧
        InBound.orderDetailOf s orderlist sku.id = some od) ∧
      ∀ line ∈ lines, 0 ≤ line.pullBadQty := by
  have hline : ∀ line ∈ lines, ∃ d ∈ ibds, entry s line = some (content d) := by
    intro line hline
    have hmem : entry s line ∈ (ibds.map content).map some := h ▸ List.mem_map_of_mem hline
    obtain ⟨c, hc, heq⟩ := List.mem_map.1 hmem
    obtain ⟨d, hd, rfl⟩ := List.mem_map.1 hc
    exact ⟨d, hd, heq.symm⟩
  have hdetail : ∀ d ∈ ibds, ∃ line ∈ lines, entry s line = some (content d) := by
    intro d hd
    have hmem : some (content d) ∈ lines.map (entry s) :=
      h ▸ List.mem_map_of_mem (List.mem_map_of_mem hd)
    exact List.mem_map.1 hmem
  constructor
  · intro hbooks
    refine ⟨(distinct_iff h).1 hbooks.distinct, ?_, ?_⟩
    · intro line hmem
      obtain ⟨d, hd, heq⟩ := hline line hmem
      obtain ⟨sku, hsku, hcontent⟩ := Option.map_eq_some_iff.1 heq
      obtain ⟨od, hod⟩ := hbooks.ordered d hd
      have hid : sku.id = d.sku := congrArg Prod.fst hcontent
      exact ⟨sku, od, hsku, hid ▸ hod⟩
    · intro line hmem
      obtain ⟨d, hd, heq⟩ := hline line hmem
      obtain ⟨sku, hsku, hcontent⟩ := Option.map_eq_some_iff.1 heq
      have hbad : line.pullBadQty = d.inferiorQuantity := congrArg (fun c => c.2.2) hcontent
      rw [hbad]
      exact hbooks.sound d hd
  · rintro ⟨hdistinct, hordered, hsound⟩
    refine ⟨(distinct_iff h).2 hdistinct, ?_, ?_⟩
    · intro d hd
      obtain ⟨line, hmem, heq⟩ := hdetail d hd
      obtain ⟨sku, od, hsku, hod⟩ := hordered line hmem
      obtain ⟨sku', hsku', hcontent⟩ := Option.map_eq_some_iff.1 heq
      obtain rfl : sku = sku' := Option.some.inj (hsku.symm.trans hsku')
      have hid : sku.id = d.sku := congrArg Prod.fst hcontent
      exact ⟨od, hid ▸ hod⟩
    · intro d hd
      obtain ⟨line, hmem, heq⟩ := hdetail d hd
      obtain ⟨sku, hsku, hcontent⟩ := Option.map_eq_some_iff.1 heq
      have hbad : line.pullBadQty = d.inferiorQuantity := congrArg (fun c => c.2.2) hcontent
      rw [← hbad]
      exact hsound line hmem

def BookedPurchase (s s' : InboundDb μ) (lines : List Line) : Prop :=
  ∃ inbound, s'.inbounds.rows.map InBound.id = s.inbounds.rows.map InBound.id ++ [inbound] ∧
    ∀ sku, bookedQty inbound sku s' = orderedQty s sku lines

section Purchase

variable (mall : Mall μ) {s : InboundDb μ} (hlinked : Linked s) (forecastNo : String)
  (lines : List Line)

include hlinked

theorem purchase_ok {s' : InboundDb μ} {u : Unit}
    (h : (updateForecastInboundByOutwareInbound mall forecastNo lines).run s = (.ok u, s')) :
    (∃ orderlist, Purchasable mall s forecastNo lines orderlist) ∧ BookedPurchase s s' lines := by
  unfold updateForecastInboundByOutwareInbound at h
  obtain ⟨ibds, s1, hcreateAll, h⟩ := bind_eq_ok.1 h
  obtain ⟨rfl, hmap⟩ := createAll_ok hcreateAll
  obtain ⟨orderlist, horderlist, hbooks⟩ := create_ok hlinked h
  obtain ⟨s1, hrun, hmall, hids, hqty⟩ := create_run mall "fengchao" hlinked horderlist hbooks
  rw [hrun] at h
  obtain ⟨t, hsync, rfl⟩ := zoom_eq_ok.1 h
  rw [← expected_eq hmap, hmall] at hsync
  obtain ⟨hdistinct, hordered, hsound⟩ := (allocatable_iff hmap).1 hbooks
  refine ⟨⟨orderlist, horderlist, hdistinct, hordered, hsound, u, t, hsync⟩, _, hids, ?_⟩
  intro sku
  rw [orderedQty_eq hmap]
  exact hqty sku

theorem purchase_run (h : Purchasable mall s forecastNo lines orderlist) :
    ∃ s', (updateForecastInboundByOutwareInbound mall forecastNo lines).run s = (.ok (), s') := by
  have hskus : ∀ line ∈ lines, ∃ sku, skuOf s line.skuCode = some sku := by
    intro line hline
    obtain ⟨sku, od, hsku, -⟩ := h.ordered line hline
    exact ⟨sku, hsku⟩
  obtain ⟨ibds, hcreateAll⟩ := createAll_run hskus
  obtain ⟨-, hmap⟩ := createAll_ok hcreateAll
  have hbooks : InBound.Allocatable s orderlist ibds :=
    (allocatable_iff hmap).2 ⟨h.distinct, h.ordered, h.sound⟩
  obtain ⟨s1, hrun, hmall, -, -⟩ := create_run mall "fengchao" hlinked h.forecast hbooks
  obtain ⟨u, t, hsync⟩ := h.synced
  rw [expected_eq hmap, ← hmall] at hsync
  refine ⟨{ s1 with mall := t }, (bind_ok hcreateAll).trans (hrun.trans ?_)⟩
  exact zoom_eq_ok.2 ⟨t, hsync, rfl⟩

end Purchase

def refundOf (s : InboundDb μ) (refundNo : String) : Option SaleRefund :=
  s.saleRefunds.first fun r => r.refundNo = refundNo

def Refundable (mall : Mall μ) (s : InboundDb μ) (refundNo : String) (lines : List Line) : Prop :=
  ∃ line refund, lines.head? = some line ∧ refundOf s refundNo = some refund ∧
    refund.refundNum = line.pullGoodQty ∧
    (refund.status = .success ∨ ∃ u t,
      (mall.closeOrder { refund with status := .success }).run s.mall = (.ok u, t))

section Refund

variable (mall : Mall μ) {s : InboundDb μ} (refundNo : String) (lines : List Line)

theorem refund_ok {s' : InboundDb μ} {u : Unit}
    (h : (updateRefundproductByOutwareInbound mall refundNo lines).run s = (.ok u, s')) :
    Refundable mall s refundNo lines ∧
      ∃ refund, refundOf s' refundNo = some refund ∧ refund.status = .success := by
  unfold updateRefundproductByOutwareInbound at h
  obtain ⟨line, hline, h⟩ := getOr_bind_eq_ok.1 h
  obtain ⟨refund, hrefund, h⟩ := getOr_bind_eq_ok.1 h
  split at h
  · next hnum =>
      unfold SaleRefund.refundConfirm at h
      split at h
      · next hstatus =>
          obtain ⟨rfl, rfl⟩ := pure_eq_ok.1 h
          exact ⟨⟨line, refund, hline, hrefund, hnum, .inl hstatus⟩, refund, hrefund, hstatus⟩
      · obtain ⟨_, s1, hsave, hclose⟩ := bind_eq_ok.1 h
        obtain rfl : s1 = _ := congrArg Prod.snd hsave.symm
        obtain ⟨t, hrun, rfl⟩ := zoom_eq_ok.1 hclose
        refine ⟨⟨line, refund, hline, hrefund, hnum, .inr ⟨u, t, hrun⟩⟩,
          { refund with status := .success }, ?_, rfl⟩
        have hspec := Table.first_spec hrefund
        exact Table.first_save_self (a := { refund with status := .success }) (b := refund) rfl
          hspec hrefund
  · -- a text that cannot be made: nothing is refused
    cases h

theorem refund_run (h : Refundable mall s refundNo lines) :
    ∃ s', (updateRefundproductByOutwareInbound mall refundNo lines).run s = (.ok (), s') := by
  obtain ⟨line, refund, hline, hrefund, hnum, hclose⟩ := h
  unfold updateRefundproductByOutwareInbound
  have hfirst : (s.saleRefunds.first fun r => r.refundNo = refundNo) = some refund := hrefund
  rw [getOr_bind_run, hline]
  dsimp only
  rw [getOr_bind_run, hfirst]
  dsimp only
  rw [if_pos hnum]
  unfold SaleRefund.refundConfirm
  rcases hclose with hstatus | ⟨u, t, hrun⟩
  · rw [if_pos hstatus]
    exact ⟨s, rfl⟩
  · by_cases hstatus : refund.status = .success
    · rw [if_pos hstatus]
      exact ⟨s, rfl⟩
    · rw [if_neg hstatus]
      refine ⟨_, (bind_ok rfl).trans (zoom_eq_ok.2 ⟨t, ?_, rfl⟩)⟩
      exact hrun

end Refund

def SameWare (s s' : InboundDb μ) : Prop :=
  s'.inboundOrders = s.inboundOrders ∧ s'.skuStocks = s.skuStocks

theorem SameWare.refl (s : InboundDb μ) : SameWare s s := ⟨rfl, rfl⟩

theorem SameWare.trans (a b c : InboundDb μ) (h : SameWare a b) (h' : SameWare b c) :
    SameWare a c := ⟨h'.1.trans h.1, h'.2.trans h.2⟩

section Frames

open Keeps (bind gets getOr raiseIf modify forEach)

theorem keeps_inMall (m : Tx μ Exn Unit) : Keeps SameWare (inMall m) :=
  fun _ => ⟨rfl, rfl⟩

theorem keeps_modify {f : InboundDb μ → InboundDb μ} (h : ∀ s, SameWare s (f s)) :
    Keeps SameWare (Tx.modify f : InboundTx μ Unit) := h

theorem keeps_createAll : ∀ lines : List Line,
    Keeps SameWare (createAll lines : InboundTx μ (List InBoundDetail))
  | [] => Keeps.pure SameWare.refl _
  | line :: lines => by
      refine bind SameWare.trans ?_ fun _ => bind SameWare.trans (keeps_createAll lines) fun _ =>
        Keeps.pure SameWare.refl _
      exact bind SameWare.trans (getOr SameWare.refl _ _) fun _ => Keeps.pure SameWare.refl _

theorem keeps_dataOf (orderlist : Nat) : ∀ dict : List (Nat × Int),
    Keeps SameWare (InBound.dataOf orderlist dict : InboundTx μ _)
  | [] => Keeps.pure SameWare.refl _
  | (_, _) :: dict =>
    bind SameWare.trans (getOr SameWare.refl _ _) fun _ =>
      bind SameWare.trans (keeps_dataOf orderlist dict) fun _ => Keeps.pure SameWare.refl _

theorem keeps_createRecord (inbound : Nat) (entry : OrderDetail × Int) :
    Keeps SameWare (InBound.createRecord inbound entry : InboundTx μ Unit) := by
  refine bind SameWare.trans ?_ fun _ => keeps_modify fun _ => ⟨rfl, rfl⟩
  refine bind SameWare.trans (gets SameWare.refl _) fun ds => ?_
  split
  · exact Keeps.pure SameWare.refl _
  · exact Keeps.raise SameWare.refl _
  · exact Keeps.raise SameWare.refl _

theorem keeps_allocate (inbound : InBound) :
    Keeps SameWare (inbound.allocate : InboundTx μ Unit) :=
  bind SameWare.trans (gets SameWare.refl _) fun _ =>
    bind SameWare.trans (keeps_dataOf _ _) fun _ =>
      bind SameWare.trans (raiseIf SameWare.refl _ _) fun _ =>
        bind SameWare.trans (forEach SameWare.refl SameWare.trans (keeps_createRecord _) _) fun _ =>
          keeps_modify fun _ => ⟨rfl, rfl⟩

theorem keeps_setArrivalQuantity (id : Nat) :
    Keeps SameWare (OrderDetail.setArrivalQuantity id : InboundTx μ Unit) := fun _ => ⟨rfl, rfl⟩

theorem keeps_addDetail (inbound : Nat) (ibd : InBoundDetail) :
    Keeps SameWare (InBound.addDetail inbound ibd : InboundTx μ Unit) := fun _ => ⟨rfl, rfl⟩

theorem keeps_finishCheck (mall : Mall μ) (inbound : InBound) :
    Keeps SameWare (InBound.finishCheck mall inbound) :=
  bind SameWare.trans (keeps_modify fun _ => ⟨rfl, rfl⟩) fun _ =>
    bind SameWare.trans (keeps_modify fun _ => ⟨rfl, rfl⟩) fun _ =>
      bind SameWare.trans (gets SameWare.refl _) fun _ =>
        bind SameWare.trans (forEach SameWare.refl SameWare.trans keeps_setArrivalQuantity _)
          fun _ => bind SameWare.trans (gets SameWare.refl _) fun _ => keeps_inMall _

theorem keeps_create (mall : Mall μ) (ibds : List InBoundDetail) (forecastNo expressNo : String) :
    Keeps SameWare (InBound.create mall ibds forecastNo expressNo) :=
  bind SameWare.trans (getOr SameWare.refl _ _) fun _ =>
    bind SameWare.trans (getOr SameWare.refl _ _) fun _ =>
      bind SameWare.trans (gets SameWare.refl _) fun _ =>
        bind SameWare.trans (keeps_modify fun _ => ⟨rfl, rfl⟩) fun _ =>
          bind SameWare.trans (forEach SameWare.refl SameWare.trans (keeps_addDetail _) _)
            fun _ => bind SameWare.trans (keeps_allocate _) fun _ => keeps_finishCheck mall _

theorem keeps_refund (mall : Mall μ) (refundNo : String) (lines : List Line) :
    Keeps SameWare (updateRefundproductByOutwareInbound mall refundNo lines) := by
  refine bind SameWare.trans (getOr SameWare.refl _ _) fun _ =>
    bind SameWare.trans (getOr SameWare.refl _ _) fun refund => ?_
  refine Keeps.ite _ ?_ ?_
  · refine Keeps.ite _ (Keeps.pure SameWare.refl _) ?_
    exact bind SameWare.trans (keeps_modify fun _ => ⟨rfl, rfl⟩) fun _ => keeps_inMall _
  · refine bind SameWare.trans (Keeps.ofExcept SameWare.refl _) fun _ => ?_
    exact Keeps.ite _ (keeps_modify fun _ => ⟨rfl, rfl⟩) (Keeps.pure SameWare.refl _)

theorem keeps_book (mall : Mall μ) (notice : Notice) : Keeps SameWare (book mall notice) := by
  unfold book
  cases notice.orderType with
  | purchase =>
    exact bind SameWare.trans (keeps_createAll _) fun _ => keeps_create mall _ _ _
  | refund => exact keeps_refund mall _ _

end Frames

end ShopManager.Outware.Inbound
