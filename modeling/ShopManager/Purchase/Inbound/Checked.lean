import ShopManager.Purchase.Inbound.Details
import ShopManager.Purchase.Inbound.Settled

/-!
# A failed quality check

A check should leave everything as it was when it fails.  It does so where it fails before
anything is written, or where what it writes is there already.
-/

namespace ShopManager.Purchase.Inbound

open Library Library.Tx

variable {μ : Type}

/-! ## What a check should do -/

structure Unchanged (inbound : Nat) (s t : InboundDb μ) : Prop extends Spared s t where
  status : (t.inbounds.get? inbound).map InBound.status = (s.inbounds.get? inbound).map InBound.status

def Requested (data : CheckData) (t : InboundDb μ) : Prop :=
  ∀ entry ∈ data.entries, ∃ d ∈ t.details, d.id = entry.inbounddetail ∧
    d.arrivalQuantity = entry.arrivalQuantity ∧ d.inferiorQuantity = entry.inferiorQuantity

def ChecksOrLeaves (around : Surroundings μ) (data : CheckData) (syncStock : Bool)
    (inbound : InBound) (s : InboundDb μ) : Prop :=
  match (InBound.finishCheck around (some data) syncStock inbound).run s with
  | (.ok _, t) => Requested data t
  | (.error _, t) => Unchanged inbound.id s t

/-- The check is refused, or it stops at the first entry that is not idle, or it goes through;
or else there is nothing to do. -/
inductive ChecksCleanly (around : Surroundings μ) (data : CheckData) (syncStock : Bool)
    (inbound : InBound) (s : InboundDb μ) : Prop where
  | refused (h : ∃ entry ∈ data.entries, Refused s entry)
  | stopped (pre : List CheckEntry) (entry : CheckEntry) (post : List CheckEntry)
      (hentries : data.entries = pre ++ entry :: post) (hidle : ∀ e ∈ pre, Idle s e)
      (htotal : ¬ KeepsTotal s entry)
  | finishes (htotal : ∀ entry ∈ data.entries, KeepsTotal s entry)
      (h : Finishes around syncStock inbound.id s)
  | idle (hidle : ∀ entry ∈ data.entries, Idle s entry) (hstatus : inbound.status = .completed)
      (h : FailsIdly around syncStock inbound.id s)

def completedInbound (now : Nat) (s : InboundDb μ) (inbound : InBound) : InBound :=
  InBound.setStat s { inbound with
    status := .completed
    checked := true
    checkTime := some now }

def saved (now : Nat) (inbound : InBound) (s : InboundDb μ) : InboundDb μ :=
  { s with inbounds := s.inbounds.save (completedInbound now s inbound) }

theorem finishCheck_eq (around : Surroundings μ) (data : CheckData) (syncStock : Bool)
    (inbound : InBound) :
    InBound.finishCheck around (some data) syncStock inbound =
      (InBound.checkEntries around.now data.entries >>= fun _ =>
        modify (saved around.now inbound) >>= fun _ => settle around syncStock inbound.id) := rfl

/-! ## The whole check -/

theorem Checking.symm {s t : InboundDb μ} (h : Checking s t) : Checking t s :=
  ⟨h.inbounds.symm, h.orderLists.symm, h.orderDetails.symm, h.skuStocks.symm, h.mall.symm,
    h.detailKeys.symm, h.recordKeys.symm, h.skuIds.symm⟩

theorem Checking.detail {s t : InboundDb μ} (h : Checking s t) {d : InBoundDetail}
    (hd : d ∈ t.details) : ∃ d' ∈ s.details, detailKey d' = detailKey d := by
  have hkey : detailKey d ∈ s.details.rows.map detailKey := by
    rw [← h.detailKeys]
    exact List.mem_map_of_mem hd
  exact List.mem_map.mp hkey

theorem Checking.record {s t : InboundDb μ} (h : Checking s t) {r : Record}
    (hr : r ∈ t.records) : ∃ r' ∈ s.records, recordKey r' = recordKey r := by
  have hkey : recordKey r ∈ s.records.rows.map recordKey := by
    rw [← h.recordKeys]
    exact List.mem_map_of_mem hr
  exact List.mem_map.mp hkey

theorem Checking.known {s t : InboundDb μ} (h : Checking s t) (sku : Option Nat) :
    Known t sku ↔ Known s sku := by
  unfold Known SkuStock.find
  rw [h.skuStocks]
  cases sku with
  | none => exact Iff.rfl
  | some n =>
    have hget := congrArg Option.isSome (Table.map_get?_of_keys (f := id) (fun _ => rfl) h.skuIds n)
    simp only [Option.isSome_map] at hget
    rw [Option.bind_some, Option.bind_some, hget]

theorem Finishes.checking {around : Surroundings μ} {syncStock : Bool} {inbound : Nat}
    {s t : InboundDb μ} (h : Finishes around syncStock inbound s) (hchecking : Checking s t) :
    Finishes around syncStock inbound t where
  listed r hr := by
    obtain ⟨d, hd, hrd⟩ := List.mem_flatMap.mp hr
    obtain ⟨hd, hinbound⟩ := List.mem_filter.mp hd
    obtain ⟨hr, hdetail⟩ := List.mem_filter.mp hrd
    obtain ⟨d', hd', hdkey⟩ := hchecking.detail hd
    obtain ⟨r', hr', hrkey⟩ := hchecking.record hr
    simp only [detailKey, recordKey, Prod.mk.injEq] at hdkey hrkey
    have hmem : r' ∈ InBound.records s inbound := by
      refine List.mem_flatMap.mpr ⟨d', List.mem_filter.mpr ⟨hd', ?_⟩, List.mem_filter.mpr ⟨hr', ?_⟩⟩
      · rw [hdkey.2.1]
        exact hinbound
      · rw [hrkey.2.2, hdkey.1]
        exact hdetail
    have hlisted := h.listed r' hmem
    unfold listOf at hlisted ⊢
    rw [hchecking.orderDetails, hchecking.orderLists, ← hrkey.2.1]
    exact hlisted
  known hstock d hd := by
    obtain ⟨hd, hinbound⟩ := List.mem_filter.mp hd
    obtain ⟨d', hd', hdkey⟩ := hchecking.detail hd
    simp only [detailKey, Prod.mk.injEq] at hdkey
    rw [hchecking.known, ← hdkey.2.2]
    refine h.known hstock d' (List.mem_filter.mpr ⟨hd', ?_⟩)
    rw [hdkey.2.1]
    exact hinbound
  assigns hstock := by
    rw [hchecking.mall]
    exact h.assigns hstock

theorem finishes_saved (now : Nat) {around : Surroundings μ} {syncStock : Bool} {inbound : InBound}
    {s : InboundDb μ} :
    Finishes around syncStock inbound.id (saved now inbound s) ↔
      Finishes around syncStock inbound.id s :=
  ⟨fun h => ⟨h.listed, h.known, h.assigns⟩, fun h => ⟨h.listed, h.known, h.assigns⟩⟩

theorem failsIdly_saved (now : Nat) {around : Surroundings μ} {syncStock : Bool}
    {inbound : InBound} {s : InboundDb μ} :
    FailsIdly around syncStock inbound.id (saved now inbound s) ↔
      FailsIdly around syncStock inbound.id s := by
  constructor
  · rintro (⟨od, hod, harrival, hlist⟩ | ⟨pre, r, post, hpre, hsync, hlist⟩ |
      ⟨hstock, hsync, pre, sku, post, hpre, hcounted, hunknown⟩ | ⟨hstock, hsync, hcounted, hassign⟩)
    · exact .unlisted od hod harrival hlist
    · exact .unsynced pre r post hpre hsync hlist
    · exact .unstocked hstock hsync pre sku post hpre hcounted hunknown
    · exact .unassigned hstock hsync hcounted hassign
  · rintro (⟨od, hod, harrival, hlist⟩ | ⟨pre, r, post, hpre, hsync, hlist⟩ |
      ⟨hstock, hsync, pre, sku, post, hpre, hcounted, hunknown⟩ | ⟨hstock, hsync, hcounted, hassign⟩)
    · exact .unlisted od hod harrival hlist
    · exact .unsynced pre r post hpre hsync hlist
    · exact .unstocked hstock hsync pre sku post hpre hcounted hunknown
    · exact .unassigned hstock hsync hcounted hassign

theorem Unchanged.refl (inbound : Nat) (s : InboundDb μ) : Unchanged inbound s s :=
  ⟨⟨rfl, rfl, rfl, rfl, rfl, rfl⟩, rfl⟩

section Whole

variable {around : Surroundings μ} {data : CheckData} {syncStock : Bool} {inbound : InBound}
  {s : InboundDb μ}

theorem saved_status (now : Nat) (h : inbound ∈ s.inbounds) :
    ((saved now inbound s).inbounds.get? inbound.id).map InBound.status = some .completed := by
  have hget : s.inbounds.get? inbound.id = some inbound := Table.get?_eq_some.mpr ⟨h, rfl⟩
  change ((s.inbounds.save (completedInbound now s inbound)).get? inbound.id).map _ = _
  have hkey : inbound.id = Row.pk (completedInbound now s inbound) := rfl
  rw [Table.get?_save, if_pos hkey, hget]
  rfl

theorem checks_idle (h : inbound ∈ s.inbounds) {e : Exn} {t : InboundDb μ}
    (hrun : (settle around syncStock inbound.id).run (saved around.now inbound s) = (.error e, t)) :
    Unchanged inbound.id s t ↔
      inbound.status = .completed ∧ FailsIdly around syncStock inbound.id s := by
  have hget : s.inbounds.get? inbound.id = some inbound := Table.get?_eq_some.mpr ⟨h, rfl⟩
  have hstatus : (t.inbounds.get? inbound.id).map InBound.status = some .completed := by
    rw [(Keeps.of_run settle_keeps hrun).1]
    exact saved_status around.now h
  constructor
  · intro hunchanged
    constructor
    · have hsame := hunchanged.status
      rw [hstatus, hget] at hsame
      exact (Option.some.inj hsame).symm
    · refine (failsIdly_saved around.now).mp (settle_unwritten hrun ?_)
      exact ⟨hunchanged.details, hunchanged.records, hunchanged.orderDetails,
        hunchanged.productSkus, hunchanged.skuStocks, hunchanged.mall⟩
  · rintro ⟨hcompleted, hidly⟩
    have hspared := settle_idle ((failsIdly_saved around.now).mpr hidly)
    rw [hrun] at hspared
    refine ⟨⟨hspared.details, hspared.records, hspared.orderDetails, hspared.productSkus,
      hspared.skuStocks, hspared.mall⟩, ?_⟩
    rw [hstatus, hget, Option.map_some, hcompleted]

/-- A check is all or nothing exactly where it checks cleanly. -/
theorem checks_or_leaves_iff (around : Surroundings μ) (data : CheckData) (syncStock : Bool)
    (inbound : InBound) (s : InboundDb μ) (h : inbound ∈ s.inbounds) :
    ChecksOrLeaves around data syncStock inbound s ↔
      ChecksCleanly around data syncStock inbound s := by
  unfold ChecksOrLeaves
  rw [finishCheck_eq]
  by_cases hrefused : ∃ entry ∈ data.entries, Refused s entry
  · obtain ⟨e, hrun⟩ := checkEntries_refused around.now hrefused
    rw [bind_error hrun]
    exact ⟨fun _ => .refused hrefused, fun _ => Unchanged.refl inbound.id s⟩
  · have hnone : ∀ entry ∈ data.entries, ¬ Refused s entry :=
      fun entry hentry hno => hrefused ⟨entry, hentry, hno⟩
    have hthere : ∀ entry ∈ data.entries, (s.details.get? entry.inbounddetail).isSome = true := by
      intro entry hentry
      by_contra hmissing
      refine hnone entry hentry fun d hd => absurd ?_ hmissing
      rw [hd]
      rfl
    have hidle_run : (∀ entry ∈ data.entries, Idle s entry) →
        (forEach data.entries (InBound.checkDetail around.now)).run s = (.ok (), s) := by
      intro hidle
      rw [← List.append_nil data.entries, checkDetails_idle around.now hidle]
      rfl
    rw [bind_run, checkEntries_run around.now hnone]
    cases hloop : (forEach data.entries (InBound.checkDetail around.now)).run s with
    | mk res t₁ =>
        have hunwritten := checkDetails_unwritten around.now data.nodup hthere
        rw [hloop] at hunwritten
        cases res with
        | error e =>
            constructor
            · intro hunchanged
              rcases hunwritten hunchanged.details with hidle | ⟨pre, entry, post, hpre, hidle, hstop⟩
              · rw [hidle_run hidle] at hloop
                cases hloop
              · exact .stopped pre entry post hpre hidle hstop
            · rintro (hrefuse | ⟨pre, entry, post, hpre, hidle, hstop⟩ | ⟨htotal, -⟩ | ⟨hidle, -, -⟩)
              · exact absurd hrefuse hrefused
              · obtain ⟨e', hstops⟩ := checkDetail_stops around.now hstop
                rw [hpre, checkDetails_idle around.now hidle, forEach_cons, bind_error hstops] at hloop
                cases hloop
                exact Unchanged.refl inbound.id s
              · obtain ⟨t, hok⟩ := checkDetails_run around.now data.nodup hthere htotal
                rw [hok] at hloop
                cases hloop
              · rw [hidle_run hidle] at hloop
                cases hloop
        | ok u =>
            obtain ⟨htotal, hrequested⟩ := checkDetails_ok around.now data.nodup hloop
            have hchecking : Checking s t₁ := by
              have hkeeps := checkDetails_keeps around.now data.entries s
              rw [hloop] at hkeeps
              exact hkeeps
            change (match (settle around syncStock inbound.id).run (saved around.now inbound t₁) with
              | (.ok _, t) => Requested data t
              | (.error _, t) => Unchanged inbound.id s t) ↔ _
            cases hsettle : (settle around syncStock inbound.id).run (saved around.now inbound t₁) with
            | mk res t =>
                obtain ⟨-, hdetails⟩ := Keeps.of_run settle_keeps hsettle
                cases res with
                | ok u =>
                    constructor
                    · intro _
                      have hfinishes := (finishes_saved around.now).mp (settle_ok_iff.mp ⟨t, hsettle⟩)
                      exact .finishes htotal (hfinishes.checking hchecking.symm)
                    · intro _ entry hentry
                      obtain ⟨d, hd, hquantities⟩ := hrequested entry hentry
                      obtain ⟨hmem, hid⟩ := Table.get?_eq_some.mp hd
                      refine ⟨d, ?_, hid, hquantities⟩
                      rw [hdetails]
                      exact hmem
                | error e =>
                    constructor
                    · intro hunchanged
                      have hsame : t₁.details = s.details := hdetails.symm.trans hunchanged.details
                      rcases hunwritten hsame with hidle | ⟨pre, entry, post, hpre, hidle, hstop⟩
                      · rw [hidle_run hidle] at hloop
                        cases hloop
                        obtain ⟨hstatus, hidly⟩ := (checks_idle h hsettle).mp hunchanged
                        exact .idle hidle hstatus hidly
                      · exact .stopped pre entry post hpre hidle hstop
                    · rintro (hrefuse | ⟨pre, entry, post, hpre, -, hstop⟩ | ⟨-, hfinishes⟩ |
                        ⟨hidle, hstatus, hidly⟩)
                      · exact absurd hrefuse hrefused
                      · refine absurd (htotal entry ?_) hstop
                        rw [hpre]
                        exact List.mem_append_right pre List.mem_cons_self
                      · obtain ⟨t', hok⟩ := settle_ok_iff.mpr
                          ((finishes_saved around.now).mpr (hfinishes.checking hchecking))
                        rw [hok] at hsettle
                        cases hsettle
                      · rw [hidle_run hidle] at hloop
                        cases hloop
                        exact (checks_idle h hsettle).mpr ⟨hstatus, hidly⟩

end Whole

def plainSurroundings : Surroundings Unit where
  now := 5
  commitTime := 0
  assignSku _ := pure ()
  keys := id
  keys_perm _ := List.Perm.refl _

def waitingInbound : InBound where
  id := 1
  supplierId := some 1
  oriOrderlistId := some 1
  status := .waitCheck
  checked := false
  checkTime := none
  outStock := false
  wrong := false
  inferior := false

def uncheckedDetail (sku : Nat) : InBoundDetail where
  id := 0
  inbound := 1
  sku := some sku
  arrivalQuantity := 2
  inferiorQuantity := 0
  checked := false
  checkTime := none
  wrong := false
  outStock := false
  status := .problem

/-- Two pieces of each SKU came in; those of the first are given to an order list. -/
def allocatedDb : InboundDb Unit where
  inbounds := Table.empty.insert waitingInbound
  details := (Table.empty.insert (uncheckedDetail 1)).insert (uncheckedDetail 2)
  records := Table.empty.insert ⟨0, 1, 1, 2, 0, 4⟩
  orderLists := Table.empty.insert ⟨0, some 1, .receive, "待收货", none, false, .arrivalNot, none⟩
  orderDetails := Table.empty.insert ⟨0, some 1, 1, 3, 0, 0, 3, none⟩
  productSkus := (Table.empty.insert ⟨0, 0⟩).insert ⟨0, 0⟩
  skuStocks := Table.empty.insert ⟨0, 1, 0⟩
  mall := ()

def onePieceBad : CheckData where
  entries := [⟨1, 1, 1⟩, ⟨2, 2, 0⟩]
  nodup := by decide

theorem checks_or_leaves_one_bad :
    ChecksOrLeaves plainSurroundings onePieceBad true waitingInbound allocatedDb := by
  refine (checks_or_leaves_iff plainSurroundings onePieceBad true waitingInbound allocatedDb
    ?_).mpr (.finishes ?_ ⟨?_, ?_, fun _ => ⟨(), rfl⟩⟩)
  · change waitingInbound ∈ allocatedDb.inbounds.rows
    decide
  · have htotals : ∀ entry ∈ onePieceBad.entries, ∀ d ∈ allocatedDb.details.rows,
        d.id = entry.inbounddetail → entry.arrivalQuantity + entry.inferiorQuantity =
          d.arrivalQuantity + d.inferiorQuantity := by
      decide
    intro entry hentry d hd
    obtain ⟨hmem, hid⟩ := Table.get?_eq_some.mp hd
    exact htotals entry hentry d hmem hid
  · decide
  · intro _
    unfold Known
    decide

def onePieceMore : CheckData where
  entries := [⟨1, 1, 1⟩, ⟨2, 3, 0⟩]
  nodup := by decide

theorem checks_or_leaves_fails :
    ¬ ChecksOrLeaves plainSurroundings onePieceMore true waitingInbound allocatedDb := by
  have hraises : ((InBound.finishCheck plainSurroundings (some onePieceMore) true
      waitingInbound).run allocatedDb).1 ≠ .ok () := by
    decide +kernel
  have hwritten : ((InBound.finishCheck plainSurroundings (some onePieceMore) true
      waitingInbound).run allocatedDb).2.details.rows ≠ allocatedDb.details.rows := by
    decide +kernel
  unfold ChecksOrLeaves
  split
  · next hrun =>
    rw [hrun] at hraises
    exact absurd rfl hraises
  · next hrun =>
    rw [hrun] at hwritten
    exact fun h => hwritten (congrArg Table.rows h.details)

end ShopManager.Purchase.Inbound
