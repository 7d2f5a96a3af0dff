import ShopManager.Outware.Inbound.Model

/-!
# The allocation of an inbound

The details of an inbound go to the order details of one order list, SKU by SKU.  The
allocation goes through exactly when each SKU has one detail, the order list asks for each,
and no detail has fewer than no bad pieces.
-/

namespace ShopManager.Outware.Inbound

open Library Library.Tx

variable {μ : Type}

namespace InBound

/-! ## When an allocation goes through -/

structure Allocatable (s : InboundDb μ) (orderlist : Nat) (ds : List InBoundDetail) : Prop where
  distinct : (ds.map InBoundDetail.sku).Nodup
  ordered : ∀ d ∈ ds, ∃ od, orderDetailOf s orderlist d.sku = some od
  sound : ∀ d ∈ ds, 0 ≤ d.inferiorQuantity

def Gets (s : InboundDb μ) (orderlist : Nat) (d : InBoundDetail) (entry : OrderDetail × Int) :
    Prop :=
  orderDetailOf s orderlist d.sku = some entry.1 ∧ entry.2 = d.arrivalQuantity

def Records (s : InboundDb μ) (orderlist : Nat) (d : InBoundDetail) (r : Record) : Prop :=
  (∃ od, orderDetailOf s orderlist d.sku = some od ∧ r.orderdetail = od.id) ∧
    r.inbounddetail = d.id ∧ r.arrivalQuantity = d.arrivalQuantity

variable {s : InboundDb μ} {orderlist : Nat}

theorem orderDetailOf_spec {sku : Nat} {od : OrderDetail}
    (h : orderDetailOf s orderlist sku = some od) :
    od ∈ s.orderDetails ∧ od.orderlist = orderlist ∧ od.chichuId = sku := by
  have hspec := Table.first_spec h
  exact ⟨Table.mem_of_first h, of_decide_eq_true hspec⟩

variable {ds : List InBoundDetail} {d : InBoundDetail}

theorem filter_sku_of_nodup (h : (ds.map InBoundDetail.sku).Nodup)
    (hd : d ∈ ds) : (ds.filter fun d' => d'.sku = d.sku) = [d] := by
  induction ds with
  | nil => cases hd
  | cons first ds ih =>
    rw [List.map_cons, List.nodup_cons] at h
    rcases List.mem_cons.1 hd with rfl | hd
    · have hnone : (ds.filter fun d' => d'.sku = d.sku) = [] := by
        refine List.filter_eq_nil_iff.2 fun d' hd' heq => h.1 ?_
        exact List.mem_map.2 ⟨d', hd', of_decide_eq_true heq⟩
      rw [List.filter_cons_of_pos, hnone]
      exact decide_eq_true rfl
    · have hne : ¬ first.sku = d.sku := by
        intro heq
        exact h.1 (List.mem_map.2 ⟨d, hd, heq.symm⟩)
      rw [List.filter_cons_of_neg (by simpa using hne)]
      exact ih h.2 hd

theorem skuDict_of_nodup (h : (ds.map InBoundDetail.sku).Nodup)
    (value : InBoundDetail → Int) : skuDict value ds = ds.map fun d => (d.sku, value d) := by
  unfold skuDict
  rw [List.Nodup.dedup h, List.map_map]
  refine List.map_congr_left fun d hd => ?_
  rw [Function.comp_apply, filter_sku_of_nodup h hd]
  rfl

theorem mem_skuDict (hd : d ∈ ds)
    (value : InBoundDetail → Int) : ∃ num, (d.sku, num) ∈ skuDict value ds := by
  have hsku : d.sku ∈ (ds.map InBoundDetail.sku).dedup :=
    List.mem_dedup.2 (List.mem_map_of_mem hd)
  exact ⟨_, List.mem_map.2 ⟨d.sku, hsku, rfl⟩⟩

theorem lookup_of_nodup (h : (ds.map InBoundDetail.sku).Nodup)
    (hd : d ∈ ds) (value : InBoundDetail → Int) :
    (skuDict value ds).lookup d.sku = some (value d) := by
  rw [skuDict_of_nodup h]
  induction ds with
  | nil => cases hd
  | cons first ds ih =>
    rw [List.map_cons, List.nodup_cons] at h
    rcases List.mem_cons.1 hd with rfl | hd
    · simp
    · have hne : d.sku ≠ first.sku := by
        intro heq
        exact h.1 (List.mem_map.2 ⟨d, hd, heq⟩)
      rw [List.map_cons, List.lookup_cons]
      simp only [beq_eq_false_iff_ne.2 hne]
      exact ih h.2 hd

theorem dataOf_ok :
    ∀ {dict : List (Nat × Int)} {data : List (OrderDetail × Int)} {s' : InboundDb μ},
      (dataOf orderlist dict).run s = (.ok data, s') →
        s = s' ∧ List.Forall₂ (fun entry got =>
          orderDetailOf s orderlist entry.1 = some got.1 ∧ got.2 = entry.2) dict data := by
  intro dict
  induction dict with
  | nil =>
    intro data s' h
    obtain ⟨rfl, rfl⟩ := pure_eq_ok.1 h
    exact ⟨rfl, .nil⟩
  | cons entry dict ih =>
    intro data s' h
    unfold dataOf at h
    obtain ⟨od, hod, h⟩ := getOr_bind_eq_ok.1 h
    obtain ⟨rest, s2, hrest, h⟩ := bind_eq_ok.1 h
    obtain ⟨rfl, hall⟩ := ih hrest
    obtain ⟨rfl, rfl⟩ := pure_eq_ok.1 h
    exact ⟨rfl, .cons ⟨hod, rfl⟩ hall⟩

theorem dataOf_run :
    ∀ {ds : List InBoundDetail}, (∀ d ∈ ds, ∃ od, orderDetailOf s orderlist d.sku = some od) →
      ∃ data, (dataOf orderlist (ds.map fun d => (d.sku, d.arrivalQuantity))).run s =
          (.ok data, s) ∧ List.Forall₂ (Gets s orderlist) ds data := by
  intro ds
  induction ds with
  | nil =>
    intro _
    exact ⟨[], rfl, .nil⟩
  | cons d ds ih =>
    intro h
    obtain ⟨od, hod⟩ := h d (List.mem_cons_self ..)
    obtain ⟨data, hrun, hall⟩ := ih fun d' hd' => h d' (List.mem_cons_of_mem _ hd')
    refine ⟨(od, d.arrivalQuantity) :: data, ?_, .cons ⟨hod, rfl⟩ hall⟩
    rw [List.map_cons, dataOf]
    rw [getOr_bind_run, hod]
    exact bind_ok hrun

theorem filter_data
    {data : List (OrderDetail × Int)} (hgets : List.Forall₂ (Gets s orderlist) ds data)
    (hnodup : (ds.map InBoundDetail.sku).Nodup) :
    ∀ entry ∈ data, ∃ d ∈ ds, Gets s orderlist d entry ∧
      (data.filter fun e => e.1.chichuId = entry.1.chichuId) = [entry] := by
  induction hgets with
  | nil =>
    intro entry hentry
    cases hentry
  | @cons d first ds data hfirst hrest ih =>
    rw [List.map_cons, List.nodup_cons] at hnodup
    have hsku : first.1.chichuId = d.sku := (orderDetailOf_spec hfirst.1).2.2
    have hne : ∀ e ∈ data, e.1.chichuId ≠ first.1.chichuId := by
      intro e he heq
      obtain ⟨d', hd', hgets, -⟩ := ih hnodup.2 e he
      have hsku' : e.1.chichuId = d'.sku := (orderDetailOf_spec hgets.1).2.2
      refine hnodup.1 (List.mem_map.2 ⟨d', hd', ?_⟩)
      rw [← hsku', heq, hsku]
    intro entry hentry
    rcases List.mem_cons.1 hentry with rfl | hentry
    · refine ⟨d, List.mem_cons_self .., hfirst, ?_⟩
      have hnone : (data.filter fun e => e.1.chichuId = entry.1.chichuId) = [] :=
        List.filter_eq_nil_iff.2 fun e he heq => hne e he (of_decide_eq_true heq)
      rw [List.filter_cons_of_pos, hnone]
      exact decide_eq_true rfl
    · obtain ⟨d', hd', hgets, hfilter⟩ := ih hnodup.2 entry hentry
      refine ⟨d', List.mem_cons_of_mem _ hd', hgets, ?_⟩
      rw [List.filter_cons_of_neg (by simpa using (hne entry hentry).symm)]
      exact hfilter

theorem requested_iff
    {data : List (OrderDetail × Int)} (hgets : List.Forall₂ (Gets s orderlist) ds data)
    (hnodup : (ds.map InBoundDetail.sku).Nodup) :
    (¬ ∃ entry ∈ data,
      ((data.filter fun e => e.1.chichuId = entry.1.chichuId).map Prod.snd).sum >
        ((skuDict (fun d => d.arrivalQuantity + d.inferiorQuantity) ds).lookup
          entry.1.chichuId).getD 0) ↔ ∀ d ∈ ds, 0 ≤ d.inferiorQuantity := by
  have hone : ∀ d ∈ ds, ∀ entry ∈ data, Gets s orderlist d entry →
      ((((data.filter fun e => e.1.chichuId = entry.1.chichuId).map Prod.snd).sum >
        ((skuDict (fun d => d.arrivalQuantity + d.inferiorQuantity) ds).lookup
          entry.1.chichuId).getD 0) ↔ d.inferiorQuantity < 0) := by
    intro d hd entry hentry hgot
    obtain ⟨-, -, -, hfilter⟩ := filter_data hgets hnodup entry hentry
    have hsku : entry.1.chichuId = d.sku := (orderDetailOf_spec hgot.1).2.2
    rw [hfilter, hsku, lookup_of_nodup hnodup hd]
    have hnum := hgot.2
    simp only [List.map_cons, List.map_nil, List.sum_cons, List.sum_nil, Option.getD_some]
    omega
  constructor
  · intro hnone d hd
    obtain ⟨i, hi, rfl⟩ := List.mem_iff_getElem.1 hd
    have hlength := hgets.length_eq
    have hentry : data[i] ∈ data := List.getElem_mem (hlength ▸ hi)
    have hgot : Gets s orderlist ds[i] data[i] := hgets.get hi (hlength ▸ hi)
    by_contra hneg
    exact hnone ⟨data[i], hentry, (hone _ hd _ hentry hgot).2 (by omega)⟩
  · rintro hall ⟨entry, hentry, hgt⟩
    obtain ⟨d, hd, hgot, -⟩ := filter_data hgets hnodup entry hentry
    have hneg := (hone d hd entry hentry hgot).1 hgt
    have hpos := hall d hd
    omega

theorem detailOf_ok {inbound sku : Nat} {s' : InboundDb μ}
    (h : (detailOf inbound sku).run s = (.ok d, s')) :
    s = s' ∧ ((details inbound s).filter fun d => d.sku = sku) = [d] := by
  unfold detailOf at h
  rw [gets_bind_run] at h
  split at h
  · next heq =>
      obtain ⟨rfl, rfl⟩ := pure_eq_ok.1 h
      exact ⟨rfl, heq⟩
  · cases h
  · cases h

theorem detailOf_run {inbound sku : Nat}
    (h : ((details inbound s).filter fun d => d.sku = sku) = [d]) :
    (detailOf inbound sku).run s = (.ok d, s) := by
  unfold detailOf
  rw [gets_bind_run, h]
  rfl

theorem createRecords_ok {inbound : Nat} :
    ∀ {data : List (OrderDetail × Int)} {s s' : InboundDb μ} {u : Unit},
      (forEach data (createRecord inbound)).run s = (.ok u, s') →
        ∀ entry ∈ data, ∃ d,
          ((details inbound s).filter fun d => d.sku = entry.1.chichuId) = [d] := by
  intro data
  induction data with
  | nil =>
    intro s s' u _ entry hentry
    cases hentry
  | cons first data ih =>
    intro s s' u h
    rw [forEach_cons] at h
    obtain ⟨_, s1, hfirst, hrest⟩ := bind_eq_ok.1 h
    unfold createRecord at hfirst
    obtain ⟨d, s2, hd, hinsert⟩ := bind_eq_ok.1 hfirst
    obtain ⟨rfl, hfilter⟩ := detailOf_ok hd
    have hs1 : details inbound s1 = details inbound s :=
      congrArg (fun t => details inbound t.2) hinsert.symm
    intro entry hentry
    rcases List.mem_cons.1 hentry with rfl | hentry
    · exact ⟨d, hfilter⟩
    · rw [← hs1]
      exact ih hrest entry hentry

theorem createRecords_run (inbound : Nat) {data : List (OrderDetail × Int)}
    (h : List.Forall₂ (Gets s orderlist) ds data) :
    ∀ {s' : InboundDb μ},
      (∀ d ∈ ds, ((details inbound s').filter fun d' => d'.sku = d.sku) = [d]) →
        ∃ t new, (forEach data (createRecord inbound)).run s' = (.ok (), { s' with records := t }) ∧
          t.rows = s'.records.rows ++ new ∧ List.Forall₂ (Records s orderlist) ds new := by
  induction h with
  | nil =>
    intro s _
    exact ⟨s.records, [], rfl, (List.append_nil _).symm, .nil⟩
  | @cons d first ds data hfirst hrest ih =>
    intro s hdetail
    have hsku : first.1.chichuId = d.sku := (orderDetailOf_spec hfirst.1).2.2
    have hd : (detailOf inbound first.1.chichuId).run s = (.ok d, s) := by
      refine detailOf_run ?_
      rw [hsku]
      exact hdetail d (List.mem_cons_self ..)
    let r : Record := {
      id := 0
      orderdetail := first.1.id
      inbounddetail := d.id
      arrivalQuantity := first.2 }
    have hothers : ∀ d' ∈ ds, ((details inbound { s with records := s.records.insert r }).filter
        fun other => other.sku = d'.sku) = [d'] :=
      fun d' hd' => hdetail d' (List.mem_cons_of_mem _ hd')
    obtain ⟨t, new, hrun, hrows, hnew⟩ := ih hothers
    refine ⟨t, s.records.stored r :: new, ?_, ?_,
      .cons ⟨⟨first.1, hfirst.1, rfl⟩, rfl, hfirst.2⟩ hnew⟩
    · exact (bind_ok (bind_ok hd)).trans hrun
    · rw [hrows]
      simp [Table.insert]

theorem allocate_ok {inbound : InBound} {s' : InboundDb μ} {u : Unit}
    (h : inbound.allocate.run s = (.ok u, s')) :
    Allocatable s inbound.oriOrderlist (details inbound.id s) := by
  unfold allocate at h
  rw [gets_bind_run] at h
  obtain ⟨data, s1, hdata, h⟩ := bind_eq_ok.1 h
  obtain ⟨rfl, hall⟩ := dataOf_ok hdata
  obtain ⟨_, s2, hrun, h⟩ := bind_eq_ok.1 h
  unfold checkRequest at hrun
  obtain ⟨hcheck, rfl⟩ := raiseIf_eq_ok.1 hrun
  obtain ⟨_, s3, hrecords, -⟩ := bind_eq_ok.1 h
  have hordered : ∀ d ∈ details inbound.id s, ∃ entry ∈ data,
      orderDetailOf s inbound.oriOrderlist d.sku = some entry.1 := by
    intro d hd
    obtain ⟨num, hmem⟩ := mem_skuDict hd InBoundDetail.arrivalQuantity
    obtain ⟨i, hi, hentry⟩ := List.mem_iff_getElem.1 hmem
    have hi' : i < data.length := hall.length_eq ▸ hi
    have hgot := hall.get hi hi'
    rw [List.get_eq_getElem, hentry] at hgot
    exact ⟨data[i], List.getElem_mem hi', hgot.1⟩
  have hnodup : ((details inbound.id s).map InBoundDetail.sku).Nodup := by
    refine List.nodup_iff_count_le_one.2 fun sku => ?_
    by_cases hsku : sku ∈ (details inbound.id s).map InBoundDetail.sku
    · obtain ⟨d, hd, rfl⟩ := List.mem_map.1 hsku
      obtain ⟨entry, hentry, hod⟩ := hordered d hd
      obtain ⟨d', hfilter⟩ := createRecords_ok hrecords entry hentry
      rw [(orderDetailOf_spec hod).2.2] at hfilter
      rw [List.count_eq_countP, List.countP_map, List.countP_eq_length_filter]
      have hlength := congrArg List.length hfilter
      simpa [Function.comp_def, beq_eq_decide] using hlength.le
    · rw [List.count_eq_zero_of_not_mem hsku]
      exact Nat.zero_le 1
  have hgets : List.Forall₂ (Gets s inbound.oriOrderlist) (details inbound.id s) data := by
    rw [skuDict_of_nodup hnodup, List.forall₂_map_left_iff] at hall
    exact hall
  refine ⟨hnodup, ?_, (requested_iff hgets hnodup).1 hcheck⟩
  intro d hd
  obtain ⟨entry, -, hod⟩ := hordered d hd
  exact ⟨entry.1, hod⟩

theorem allocate_run {inbound : InBound}
    (h : Allocatable s inbound.oriOrderlist (details inbound.id s)) :
    ∃ t new row, inbound.allocate.run s =
        (.ok (), { s with
          records := t
          inbounds := s.inbounds.save row }) ∧ row.id = inbound.id ∧
      t.rows = s.records.rows ++ new ∧
        List.Forall₂ (Records s inbound.oriOrderlist) (details inbound.id s) new := by
  obtain ⟨data, hdata, hgets⟩ := dataOf_run h.ordered
  obtain ⟨t, new, hrecords, hrows, hnew⟩ := createRecords_run inbound.id hgets
    fun d hd => filter_sku_of_nodup h.distinct hd
  have hcheck : (checkRequest (details inbound.id s) data).run s = (.ok (), s) :=
    raiseIf_eq_ok.2 ⟨(requested_iff hgets h.distinct).2 h.sound, rfl⟩
  refine ⟨t, new, setStat { s with records := t } { inbound with status := .waitCheck }, ?_, rfl,
    hrows, hnew⟩
  unfold allocate
  rw [gets_bind_run, skuDict_of_nodup h.distinct]
  exact (bind_ok hdata).trans ((bind_ok hcheck).trans ((bind_ok hrecords).trans rfl))

end InBound

end ShopManager.Outware.Inbound
