import ShopManager.Purchase.Inbound.Model

/-!
# The details of a check

A check looks at every detail before it writes, but it compares the quantities of a detail with
the old ones only when the details before are saved.
-/

namespace ShopManager.Purchase.Inbound

open Library Library.Tx

variable {μ : Type}

/-! ## What the entries ask for -/

def Overloads (s : InboundDb μ) (detail : Nat) (r : Record) : Prop :=
  ∀ od, s.orderDetails.get? r.orderdetail = some od →
    od.buyQuantity < InBoundDetail.lastInStock s detail od.id + r.arrivalQuantity

def Refused (s : InboundDb μ) (entry : CheckEntry) : Prop :=
  ∀ d, s.details.get? entry.inbounddetail = some d →
    ∃ r ∈ InBoundDetail.records s d.id, Overloads s d.id r

def KeepsTotal (s : InboundDb μ) (entry : CheckEntry) : Prop :=
  ∀ d, s.details.get? entry.inbounddetail = some d →
    entry.arrivalQuantity + entry.inferiorQuantity = d.arrivalQuantity + d.inferiorQuantity

def Idle (s : InboundDb μ) (entry : CheckEntry) : Prop :=
  ∃ d, s.details.get? entry.inbounddetail = some d ∧ d.checked = true ∧
    d.arrivalQuantity = entry.arrivalQuantity ∧ d.inferiorQuantity = entry.inferiorQuantity ∧
      InBoundDetail.withOutStock s d = d

/-! ## The look at the details -/

variable {s : InboundDb μ}

theorem get_run {id : Nat} {d : InBoundDetail} (hd : s.details.get? id = some d) :
    (InBoundDetail.get id).run s = (.ok d, s) := getOr_some hd

theorem overloadOf_reads (detail : Nat) (rs : List Record) (s : InboundDb μ) :
    ((InBoundDetail.overloadOf detail rs).run s).2 = s := by
  induction rs with
  | nil => rfl
  | cons r rs ih =>
    unfold InBoundDetail.overloadOf
    rw [getOr_bind_run]
    cases hod : s.orderDetails.get? r.orderdetail with
    | none => rfl
    | some od =>
      simp only [gets_bind_run]
      split
      · refine Preserves.after (I := fun t => t = s) ?_ fun ol => ?_
        · unfold OrderDetail.orderlistOf
          rw [getOr_bind_run]
          cases od.orderlist with
          | none => rfl
          | some id =>
            exact Keeps.getOr (R := fun s t => t = s) (fun _ => rfl) _ _ s
        · refine Preserves.bind ?_ fun ids => Preserves.pure _
          rintro t rfl
          exact ih
      · exact ih

variable {t : InboundDb μ}

theorem overloadOf_ne_nil {detail : Nat} {rs : List Record} {ids : List Nat}
    (h : ∃ r ∈ rs, Overloads s detail r)
    (hrun : (InBoundDetail.overloadOf detail rs).run s = (.ok ids, t)) : ids ≠ [] := by
  induction rs generalizing s t ids with
  | nil =>
    obtain ⟨r, hr, -⟩ := h
    cases hr
  | cons r rs ih =>
    unfold InBoundDetail.overloadOf at hrun
    obtain ⟨od, t₁, hget, hrun⟩ := bind_eq_ok.mp hrun
    obtain ⟨hod, rfl⟩ := getOr_eq_ok.mp hget
    simp only [gets_bind_run] at hrun
    split at hrun
    · obtain ⟨ol, t₂, -, hrun⟩ := bind_eq_ok.mp hrun
      obtain ⟨ids', t₃, -, hrun⟩ := bind_eq_ok.mp hrun
      obtain ⟨rfl, -⟩ := pure_eq_ok.mp hrun
      exact List.cons_ne_nil _ _
    · next hfits =>
        obtain ⟨r', hr', hover⟩ := h
        rcases List.mem_cons.mp hr' with rfl | hr'
        · exact absurd (hover od hod) hfits
        · exact ih ⟨r', hr', hover⟩ hrun

theorem overloadOf_nil {detail : Nat} {rs : List Record} (h : ∀ r ∈ rs, ¬ Overloads s detail r) :
    (InBoundDetail.overloadOf detail rs).run s = (.ok [], s) := by
  induction rs with
  | nil => rfl
  | cons r rs ih =>
    obtain ⟨hr, hrs⟩ := List.forall_mem_cons.mp h
    unfold Overloads at hr
    push Not at hr
    obtain ⟨od, hod, hfits⟩ := hr
    unfold InBoundDetail.overloadOf
    rw [getOr_bind_run, hod]
    simp only [gets_bind_run]
    rw [if_neg (not_lt.mpr hfits)]
    exact ih hrs

theorem getOverload_reads (detail : Nat) (s : InboundDb μ) :
    ((InBoundDetail.getOverloadOrderlistIds detail).run s).2 = s :=
  overloadOf_reads detail _ s

theorem overloaded_reads (entries : List CheckEntry) (s : InboundDb μ) :
    ((InBound.overloaded entries).run s).2 = s := by
  induction entries with
  | nil => rfl
  | cons entry entries ih =>
    unfold InBound.overloaded
    refine Preserves.after (I := fun t => t = s) ?_ fun d => ?_
    · exact Keeps.getOr (R := fun s t => t = s) (fun _ => rfl) _ _ s
    · refine Preserves.bind ?_ fun ids => Preserves.bind ?_ fun skus => Preserves.pure _
      · rintro t rfl
        exact getOverload_reads d.id _
      · rintro t rfl
        exact ih

variable {entries : List CheckEntry}

theorem overloaded_ne_nil {skus : List (Option Nat)} (h : ∃ entry ∈ entries, Refused s entry)
    (hrun : (InBound.overloaded entries).run s = (.ok skus, t)) : skus ≠ [] := by
  induction entries generalizing t skus with
  | nil =>
    obtain ⟨entry, hentry, -⟩ := h
    cases hentry
  | cons entry entries ih =>
    unfold InBound.overloaded at hrun
    obtain ⟨d, t₁, hget, hrun⟩ := bind_eq_ok.mp hrun
    obtain ⟨hd, rfl⟩ := getOr_eq_ok.mp hget
    obtain ⟨ids, t₂, hids, hrest⟩ := bind_eq_ok.mp hrun
    obtain ⟨skus', t₃, hskus, hpure⟩ := bind_eq_ok.mp hrest
    obtain ⟨rfl, -⟩ := pure_eq_ok.mp hpure
    obtain rfl : t₂ = s := by
      have hreads := getOverload_reads d.id s
      rw [hids] at hreads
      exact hreads
    split
    · next hnil =>
        subst hnil
        obtain ⟨entry', hentry', hrefused⟩ := h
        rcases List.mem_cons.mp hentry' with rfl | hentry'
        · exact absurd rfl (overloadOf_ne_nil (hrefused d hd) hids)
        · exact ih ⟨entry', hentry', hrefused⟩ hskus
    · exact List.cons_ne_nil _ _

theorem overloaded_nil (h : ∀ entry ∈ entries, ¬ Refused s entry) :
    (InBound.overloaded entries).run s = (.ok [], s) := by
  induction entries with
  | nil => rfl
  | cons entry entries ih =>
    obtain ⟨hentry, hentries⟩ := List.forall_mem_cons.mp h
    unfold Refused at hentry
    push Not at hentry
    obtain ⟨d, hd, hfits⟩ := hentry
    have hids : (InBoundDetail.getOverloadOrderlistIds d.id).run s = (.ok [], s) :=
      overloadOf_nil hfits
    unfold InBound.overloaded
    rw [bind_ok (get_run hd), bind_ok hids, bind_ok (ih hentries), if_pos rfl]
    rfl

theorem checkEntries_refused (now : Nat) (h : ∃ entry ∈ entries, Refused s entry) :
    ∃ e, (InBound.checkEntries now entries).run s = (.error e, s) := by
  have hreads := overloaded_reads entries s
  unfold InBound.checkEntries
  cases hrun : (InBound.overloaded entries).run s with
  | mk res t =>
    rw [hrun] at hreads
    cases hreads
    cases res with
    | error e => exact ⟨e, bind_error hrun⟩
    | ok skus =>
      rw [bind_ok hrun, raiseIf_bind_run, if_pos (overloaded_ne_nil h hrun)]
      exact ⟨_, rfl⟩

theorem checkEntries_run (now : Nat) (h : ∀ entry ∈ entries, ¬ Refused s entry) :
    (InBound.checkEntries now entries).run s = (forEach entries (InBound.checkDetail now)).run s := by
  unfold InBound.checkEntries
  rw [bind_ok (overloaded_nil h), raiseIf_bind_run, if_neg (not_not_intro rfl)]

/-! ## The details, one after another -/

def detailKey (d : InBoundDetail) : Nat × Nat × Option Nat := (d.id, d.inbound, d.sku)

def recordKey (r : Record) : Nat × Nat × Nat := (r.id, r.orderdetail, r.inbounddetail)

structure Checking (s t : InboundDb μ) : Prop where
  inbounds : t.inbounds = s.inbounds
  orderLists : t.orderLists = s.orderLists
  orderDetails : t.orderDetails = s.orderDetails
  skuStocks : t.skuStocks = s.skuStocks
  mall : t.mall = s.mall
  detailKeys : t.details.rows.map detailKey = s.details.rows.map detailKey
  recordKeys : t.records.rows.map recordKey = s.records.rows.map recordKey
  skuIds : t.productSkus.rows.map ProductSku.id = s.productSkus.rows.map ProductSku.id

theorem Checking.refl (s : InboundDb μ) : Checking s s := ⟨rfl, rfl, rfl, rfl, rfl, rfl, rfl, rfl⟩

theorem Checking.trans {u : InboundDb μ} (h : Checking s t) (h' : Checking t u) :
    Checking s u where
  inbounds := h'.inbounds.trans h.inbounds
  orderLists := h'.orderLists.trans h.orderLists
  orderDetails := h'.orderDetails.trans h.orderDetails
  skuStocks := h'.skuStocks.trans h.skuStocks
  mall := h'.mall.trans h.mall
  detailKeys := h'.detailKeys.trans h.detailKeys
  recordKeys := h'.recordKeys.trans h.recordKeys
  skuIds := h'.skuIds.trans h.skuIds

theorem Checking.saveRecord (h : Checking s t) {r r' : Record}
    (hr : r ∈ s.records) (hkey : recordKey r' = recordKey r) :
    Checking s { t with records := t.records.save r' } :=
  { h with
    recordKeys := Table.map_rows_save_of_keys (fun _ _ heq => congrArg Prod.fst heq) h.recordKeys
      hr hkey }

theorem loseRecords_run : ∀ (rs : List Record) (changeTotal : Int)
    {t : InboundDb μ}, Checking s t → (∀ r ∈ rs, r ∈ s.records) →
      ∃ t', (InBoundDetail.loseRecords rs changeTotal).run t = (.ok (), t') ∧
        Checking s t' ∧ t'.details = t.details := by
  intro rs
  induction rs with
  | nil =>
    intro changeTotal t h _
    exact ⟨t, rfl, h, rfl⟩
  | cons r rs ih =>
    intro changeTotal t h hrs
    obtain ⟨hr, hrs⟩ := List.forall_mem_cons.mp hrs
    unfold InBoundDetail.loseRecords
    split
    · exact ⟨_, rfl, h.saveRecord hr rfl, rfl⟩
    · simp only [modify_bind_run]
      have hsaved := h.saveRecord hr (rfl : recordKey { r with arrivalQuantity := 0 } = recordKey r)
      obtain ⟨t', hrun, hchecking, hdetails⟩ := ih (changeTotal - 0) hsaved hrs
      exact ⟨t', hrun, hchecking, hdetails⟩

theorem changeRecordsQuantity_run (detail : InBoundDetail) (changeTotal : Int)
    (updateOldStock : Bool) (s : InboundDb μ) :
    ∃ t, (detail.changeRecordsQuantity changeTotal updateOldStock).run s = (.ok (), t) ∧
      Checking s t ∧ t.details = s.details := by
  have hmem : ∀ r ∈ (InBoundDetail.records s detail.id).insertionSort fun r r' => r'.id ≤ r.id,
      r ∈ s.records := by
    intro r hr
    exact (List.mem_filter.mp ((List.mem_insertionSort _).mp hr)).1
  obtain ⟨t, hrun, hchecking, hdetails⟩ :=
    loseRecords_run _ changeTotal (Checking.refl s) hmem
  unfold InBoundDetail.changeRecordsQuantity
  rw [gets_bind_run, bind_ok hrun]
  split
  · refine ⟨_, rfl, ?_, hdetails⟩
    refine { hchecking with skuIds := ?_ }
    rw [← hchecking.skuIds]
    exact Table.map_rows_update fun _ _ _ => rfl
  · exact ⟨t, rfl, hchecking, hdetails⟩

def requestedRow (d : InBoundDetail) (arrivalQuantity inferiorQuantity : Int) (outStock : Bool) :
    InBoundDetail :=
  { d with
    arrivalQuantity := arrivalQuantity
    inferiorQuantity := inferiorQuantity
    outStock := outStock }

theorem setQuantity_run {d : InBoundDetail} {arrivalQuantity inferiorQuantity : Int}
    (updateStock : Bool) (s : InboundDb μ)
    (htotal : arrivalQuantity + inferiorQuantity = d.arrivalQuantity + d.inferiorQuantity) :
    ∃ t outStock, (d.setQuantity arrivalQuantity inferiorQuantity updateStock).run s =
        (.ok (requestedRow d arrivalQuantity inferiorQuantity outStock), t) ∧
      Checking s t ∧ t.details = s.details ∧
      (d.arrivalQuantity = arrivalQuantity → d.inferiorQuantity = inferiorQuantity →
        t = s ∧ requestedRow d arrivalQuantity inferiorQuantity outStock =
          InBoundDetail.withOutStock s d) := by
  unfold InBoundDetail.setQuantity
  by_cases hsame : d.arrivalQuantity = arrivalQuantity ∧ d.inferiorQuantity = inferiorQuantity
  · rw [if_pos hsame]
    obtain ⟨rfl, rfl⟩ := hsame
    exact ⟨s, _, rfl, Checking.refl s, rfl, fun _ _ => ⟨rfl, rfl⟩⟩
  · rw [if_neg hsame, raiseIf_bind_run, if_neg (not_not_intro htotal)]
    simp only [gets_bind_run]
    split
    · obtain ⟨t, hrun, hchecking, hdetails⟩ := changeRecordsQuantity_run
        { d with
          arrivalQuantity := arrivalQuantity
          inferiorQuantity := inferiorQuantity } (InBoundDetail.allAllocateQuantity s d.id - arrivalQuantity) updateStock s
      rw [bind_ok hrun]
      exact ⟨t, _, rfl, hchecking, hdetails, fun h h' => absurd ⟨h, h'⟩ hsame⟩
    · exact ⟨s, _, rfl, Checking.refl s, rfl, fun h h' => absurd ⟨h, h'⟩ hsame⟩

theorem Checking.saveDetail (h : Checking s t) {d d' : InBoundDetail}
    (hd : d ∈ s.details) (hkey : detailKey d' = detailKey d) :
    Checking s { t with details := t.details.save d' } :=
  { h with
    detailKeys := Table.map_rows_save_of_keys (fun _ _ heq => congrArg Prod.fst heq) h.detailKeys
      hd hkey }

theorem checkDetail_run (now : Nat) {entry : CheckEntry} {d : InBoundDetail}
    (hd : s.details.get? entry.inbounddetail = some d)
    (htotal : entry.arrivalQuantity + entry.inferiorQuantity =
      d.arrivalQuantity + d.inferiorQuantity) :
    ∃ t d', (InBound.checkDetail now entry).run s = (.ok (), t) ∧ Checking s t ∧
      t.details = s.details.save d' ∧ d'.id = d.id ∧ d'.checked = true ∧
      d'.arrivalQuantity = entry.arrivalQuantity ∧ d'.inferiorQuantity = entry.inferiorQuantity ∧
      (d.checked = true → d.arrivalQuantity = entry.arrivalQuantity →
        d.inferiorQuantity = entry.inferiorQuantity →
          d' = InBoundDetail.withOutStock s d ∧ t = { s with details := s.details.save d' }) := by
  have hmem := (Table.get?_eq_some.mp hd).1
  unfold InBound.checkDetail
  rw [bind_ok (get_run hd)]
  by_cases hchecked : d.checked = true
  · rw [if_pos hchecked]
    obtain ⟨t, outStock, hrun, hchecking, hdetails, hsame⟩ := setQuantity_run true s htotal
    rw [bind_ok hrun]
    refine ⟨_, requestedRow d entry.arrivalQuantity entry.inferiorQuantity outStock, rfl,
      hchecking.saveDetail hmem rfl, ?_, rfl, hchecked, rfl, rfl, ?_⟩
    · exact congrArg (Table.save · _) hdetails
    · intro _ harrival hinferior
      obtain ⟨rfl, hrow⟩ := hsame harrival hinferior
      exact ⟨hrow, rfl⟩
  · rw [if_neg hchecked]
    obtain ⟨t, outStock, hrun, hchecking, hdetails, -⟩ := setQuantity_run false s htotal
    rw [bind_ok hrun]
    refine ⟨_, { requestedRow d entry.arrivalQuantity entry.inferiorQuantity outStock with
        checked := true
        checkTime := some now
        status := .normal }, rfl, hchecking.saveDetail hmem rfl, ?_, rfl, rfl, rfl, rfl, ?_⟩
    · exact congrArg (Table.save · _) hdetails
    · exact fun h => absurd h hchecked

theorem checkDetail_missing (now : Nat) {entry : CheckEntry}
    (hd : s.details.get? entry.inbounddetail = none) :
    (InBound.checkDetail now entry).run s = (.error .doesNotExist, s) := by
  unfold InBound.checkDetail
  exact bind_error (getOr_none hd)

theorem checkDetail_stops (now : Nat) {entry : CheckEntry}
    (h : ¬ KeepsTotal s entry) : ∃ e, (InBound.checkDetail now entry).run s = (.error e, s) := by
  unfold KeepsTotal at h
  push Not at h
  obtain ⟨d, hd, htotal⟩ := h
  have hset : ∀ updateStock, ∃ e,
      (d.setQuantity entry.arrivalQuantity entry.inferiorQuantity updateStock).run s =
        (.error e, s) := by
    intro updateStock
    unfold InBoundDetail.setQuantity
    rw [if_neg, raiseIf_bind_run, if_pos htotal]
    · exact ⟨_, rfl⟩
    · rintro ⟨harrival, hinferior⟩
      rw [harrival, hinferior] at htotal
      exact htotal rfl
  unfold InBound.checkDetail
  rw [bind_ok (get_run hd)]
  split
  · obtain ⟨e, hrun⟩ := hset true
    exact ⟨e, bind_error hrun⟩
  · obtain ⟨e, hrun⟩ := hset false
    exact ⟨e, bind_error hrun⟩

theorem checkDetail_idle (now : Nat) {entry : CheckEntry} (h : Idle s entry) :
    (InBound.checkDetail now entry).run s = (.ok (), s) := by
  obtain ⟨d, hd, hchecked, harrival, hinferior, hsame⟩ := h
  have htotal : entry.arrivalQuantity + entry.inferiorQuantity =
      d.arrivalQuantity + d.inferiorQuantity := by
    rw [harrival, hinferior]
  obtain ⟨t, d', hrun, -, -, -, -, -, -, hwrites⟩ := checkDetail_run now hd htotal
  obtain ⟨rfl, rfl⟩ := hwrites hchecked harrival hinferior
  rw [hrun, hsame, Table.save_of_mem (Table.get?_eq_some.mp hd).1]

theorem checkDetail_keeps (now : Nat) (entry : CheckEntry) (s : InboundDb μ) :
    Checking s ((InBound.checkDetail now entry).run s).2 ∧
      ∀ id, id ≠ entry.inbounddetail →
        ((InBound.checkDetail now entry).run s).2.details.get? id = s.details.get? id := by
  cases hd : s.details.get? entry.inbounddetail with
  | none =>
    rw [checkDetail_missing now hd]
    exact ⟨Checking.refl s, fun _ _ => rfl⟩
  | some d =>
    by_cases htotal : entry.arrivalQuantity + entry.inferiorQuantity =
        d.arrivalQuantity + d.inferiorQuantity
    · obtain ⟨t, d', hrun, hchecking, hdetails, hid, -⟩ := checkDetail_run now hd htotal
      rw [hrun]
      refine ⟨hchecking, fun id hne => ?_⟩
      have hdid : d.id = entry.inbounddetail := (Table.get?_eq_some.mp hd).2
      rw [hdetails, Table.get?_save, if_neg]
      intro heq
      exact hne (heq.trans (hid.trans hdid))
    · have hstops : ¬ KeepsTotal s entry := fun h => htotal (h d hd)
      obtain ⟨e, hrun⟩ := checkDetail_stops now hstops
      rw [hrun]
      exact ⟨Checking.refl s, fun _ _ => rfl⟩

theorem checkDetails_keeps (now : Nat) (entries : List CheckEntry) (s : InboundDb μ) :
    Checking s ((forEach entries (InBound.checkDetail now)).run s).2 :=
  Keeps.forEach (R := Checking) Checking.refl (fun _ _ _ => Checking.trans)
    (fun entry s => (checkDetail_keeps now entry s).1) entries s

theorem checkDetails_other (now : Nat) {id : Nat}
    (hid : id ∉ entries.map CheckEntry.inbounddetail) (s : InboundDb μ) :
    ((forEach entries (InBound.checkDetail now)).run s).2.details.get? id = s.details.get? id := by
  refine Preserves.forEach (I := fun t : InboundDb μ => t.details.get? id = s.details.get? id)
    (fun entry hentry t ht => ?_) s rfl
  rw [← ht]
  refine (checkDetail_keeps now entry t).2 id ?_
  rintro rfl
  exact hid (List.mem_map_of_mem hentry)

theorem checkDetails_run (now : Nat) : ∀ {entries : List CheckEntry} {s : InboundDb μ},
    (entries.map CheckEntry.inbounddetail).Nodup →
    (∀ entry ∈ entries, (s.details.get? entry.inbounddetail).isSome = true) →
    (∀ entry ∈ entries, KeepsTotal s entry) →
      ∃ t, (forEach entries (InBound.checkDetail now)).run s = (.ok (), t) := by
  intro entries
  induction entries with
  | nil => exact fun _ _ _ => ⟨_, rfl⟩
  | cons entry entries ih =>
    intro s hnodup hthere htotal
    obtain ⟨hnot, hnodup⟩ := List.nodup_cons.mp hnodup
    obtain ⟨hentry, hthere⟩ := List.forall_mem_cons.mp hthere
    obtain ⟨htotal₁, htotal⟩ := List.forall_mem_cons.mp htotal
    obtain ⟨d, hd⟩ := Option.isSome_iff_exists.mp hentry
    obtain ⟨t, d', hrun, -⟩ := checkDetail_run now hd (htotal₁ d hd)
    have hother : ∀ e ∈ entries, t.details.get? e.inbounddetail = s.details.get? e.inbounddetail := by
      intro e he
      have hkeeps := (checkDetail_keeps now entry s).2 e.inbounddetail
      rw [hrun] at hkeeps
      refine hkeeps fun heq => hnot ?_
      rw [← heq]
      exact List.mem_map_of_mem he
    rw [forEach_cons, bind_ok hrun]
    refine ih hnodup (fun e he => ?_) (fun e he => ?_)
    · rw [hother e he]
      exact hthere e he
    · unfold KeepsTotal
      rw [hother e he]
      exact htotal e he

theorem checkDetails_ok (now : Nat) : ∀ {entries : List CheckEntry} {s t : InboundDb μ},
    (entries.map CheckEntry.inbounddetail).Nodup →
    (forEach entries (InBound.checkDetail now)).run s = (.ok (), t) →
      (∀ entry ∈ entries, KeepsTotal s entry) ∧
      ∀ entry ∈ entries, ∃ d, t.details.get? entry.inbounddetail = some d ∧
        d.arrivalQuantity = entry.arrivalQuantity ∧ d.inferiorQuantity = entry.inferiorQuantity := by
  intro entries
  induction entries with
  | nil => exact fun _ _ => ⟨fun _ h => (nomatch h), fun _ h => (nomatch h)⟩
  | cons entry entries ih =>
    intro s t hnodup hloop
    obtain ⟨hnot, hnodup⟩ := List.nodup_cons.mp hnodup
    rw [forEach_cons] at hloop
    obtain ⟨⟨⟩, t₁, hrun, hrest⟩ := bind_eq_ok.mp hloop
    have htotal : KeepsTotal s entry := by
      by_contra hstops
      obtain ⟨e, hrun'⟩ := checkDetail_stops now hstops
      rw [hrun'] at hrun
      cases hrun
    obtain ⟨htotals, hrequested⟩ := ih hnodup hrest
    constructor
    · refine List.forall_mem_cons.mpr ⟨htotal, fun e he => ?_⟩
      have hkeeps := (checkDetail_keeps now entry s).2 e.inbounddetail
      rw [hrun] at hkeeps
      have hother := hkeeps fun heq => hnot (by
        rw [← heq]
        exact List.mem_map_of_mem he)
      have he' := htotals e he
      unfold KeepsTotal at he' ⊢
      rw [← hother]
      exact he'
    · refine List.forall_mem_cons.mpr ⟨?_, hrequested⟩
      cases hd : s.details.get? entry.inbounddetail with
      | none =>
        rw [checkDetail_missing now hd] at hrun
        cases hrun
      | some d =>
        obtain ⟨t', d', hrun', -, hdetails, hid, -, harrival, hinferior, -⟩ :=
          checkDetail_run now hd (htotal d hd)
        rw [hrun'] at hrun
        cases hrun
        have hkey : entry.inbounddetail = Row.pk d' :=
          (Table.get?_eq_some.mp hd).2.symm.trans hid.symm
        refine ⟨d', ?_, harrival, hinferior⟩
        have hlater := checkDetails_other now hnot t₁
        rw [hrest] at hlater
        rw [hlater, hdetails, Table.get?_save, if_pos hkey, hd]
        rfl

theorem checkDetails_idle (now : Nat) {pre : List CheckEntry}
    (h : ∀ entry ∈ pre, Idle s entry) (rest : List CheckEntry) :
    (forEach (pre ++ rest) (InBound.checkDetail now)).run s =
      (forEach rest (InBound.checkDetail now)).run s := by
  induction pre with
  | nil => rfl
  | cons entry pre ih =>
    obtain ⟨hentry, hpre⟩ := List.forall_mem_cons.mp h
    rw [List.cons_append, forEach_cons, bind_ok (checkDetail_idle now hentry)]
    exact ih hpre

theorem checkDetails_unwritten (now : Nat) : ∀ {entries : List CheckEntry} {s : InboundDb μ},
    (entries.map CheckEntry.inbounddetail).Nodup →
    (∀ entry ∈ entries, (s.details.get? entry.inbounddetail).isSome = true) →
    ((forEach entries (InBound.checkDetail now)).run s).2.details = s.details →
      (∀ entry ∈ entries, Idle s entry) ∨
        ∃ pre entry post, entries = pre ++ entry :: post ∧ (∀ e ∈ pre, Idle s e) ∧
          ¬ KeepsTotal s entry := by
  intro entries
  induction entries with
  | nil => exact fun _ _ _ => Or.inl fun _ h => nomatch h
  | cons entry entries ih =>
    intro s hnodup hthere hsame
    obtain ⟨hnot, hnodup⟩ := List.nodup_cons.mp hnodup
    obtain ⟨hentry, hthere⟩ := List.forall_mem_cons.mp hthere
    obtain ⟨d, hd⟩ := Option.isSome_iff_exists.mp hentry
    by_cases htotal : KeepsTotal s entry
    · obtain ⟨t, d', hrun, -, hdetails, hid, hchecked, harrival, hinferior, hwrites⟩ :=
        checkDetail_run now hd (htotal d hd)
      obtain ⟨hmem, hdid⟩ := Table.get?_eq_some.mp hd
      have hkey : entry.inbounddetail = Row.pk d' := hdid.symm.trans hid.symm
      rw [forEach_cons, bind_ok hrun] at hsame
      -- the row that the entry wrote is the row that was there
      have hlater := checkDetails_other now hnot t
      rw [hsame, hd, hdetails, Table.get?_save, if_pos hkey, hd] at hlater
      obtain rfl : d = d' := Option.some.inj hlater
      obtain ⟨hrow, rfl⟩ := hwrites hchecked harrival hinferior
      have hidle : Idle s entry := ⟨d, hd, hchecked, harrival, hinferior, hrow.symm⟩
      rw [Table.save_of_mem hmem] at hsame
      rcases ih hnodup hthere hsame with hall | ⟨pre, stop, post, rfl, hpre, hstop⟩
      · exact Or.inl (List.forall_mem_cons.mpr ⟨hidle, hall⟩)
      · right
        exact ⟨entry :: pre, stop, post, rfl, List.forall_mem_cons.mpr ⟨hidle, hpre⟩, hstop⟩
    · exact Or.inr ⟨[], entry, entries, rfl, fun _ h => (nomatch h), htotal⟩

end ShopManager.Purchase.Inbound
