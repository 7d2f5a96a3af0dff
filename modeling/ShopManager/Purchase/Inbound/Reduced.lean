import ShopManager.Purchase.Inbound.Model

/-!
# Allocations that lose pieces

A detail that turns out smaller than what its records give away takes the
difference back, from the newest record first.  The loop empties a record before
it counts what the record gave, so what is left to lose never shrinks.
-/

namespace ShopManager.Purchase.Inbound

open Library Library.Tx

variable {μ : Type}

namespace InBoundDetail

def newestFirst (s : InboundDb μ) (detail : Nat) : List Record :=
  (records s detail).insertionSort fun r r' => r'.id ≤ r.id

/-- It takes one argument; `rest` are further ones that a call passes. -/
def changeRecordsArrivalQuantity (detail : InBoundDetail) (changeTotal : Int) (rest : List Bool) :
    InboundTx μ Unit := do
  raiseIf (rest ≠ []) .typeError
  let rs ← gets fun s => newestFirst s detail.id
  loseRecords rs changeTotal

def takeBack (detail : InBoundDetail) : InboundTx μ Unit := do
  let total ← gets fun s => allAllocateQuantity s detail.id
  let rs ← gets fun s => records s detail.id
  if detail.arrivalQuantity < total ∧ rs ≠ [] then
    detail.changeRecordsArrivalQuantity (total - detail.arrivalQuantity) [detail.checked]
  else pure ()

def changeTotalQuantity (detail : InBoundDetail) (num : Int) : InboundTx μ Unit := do
  let detail := { detail with arrivalQuantity := detail.arrivalQuantity + num }
  raiseIf (detail.arrivalQuantity < 0) (.exception "入库的正品数不可能小于0，请保证次品数正确")
  save detail
  detail.takeBack

end InBoundDetail

open InBoundDetail (records allAllocateQuantity newestFirst loseRecords)

/-- From `s` to `t` the records of a detail lose `change` pieces, newest first. -/
structure Reduced (s t : InboundDb μ) (detail : Nat) (change : Int) : Prop where
  nonneg : ∀ r ∈ records t detail, 0 ≤ r.arrivalQuantity
  total : allAllocateQuantity t detail = allAllocateQuantity s detail - change
  kept : ∀ r ∈ records s detail, ∃ r' ∈ records t detail,
    r'.id = r.id ∧ r'.arrivalQuantity ≤ r.arrivalQuantity
  newest : ∀ r ∈ records t detail, ∀ r' ∈ records t detail, r.id < r'.id →
    0 < r'.arrivalQuantity → r ∈ s.records

/-- A reduction that the code can be asked for. -/
inductive Reduction where
  | changeRecordsQuantity (changeTotal : Int) (updateOldStock : Bool)
  | changeTotalQuantity (num : Int)

namespace Reduction

def exec (detail : InBoundDetail) : Reduction → InboundTx μ Unit
  | changeRecordsQuantity changeTotal updateOldStock =>
      detail.changeRecordsQuantity changeTotal updateOldStock
  | changeTotalQuantity num => detail.changeTotalQuantity num

def change (s : InboundDb μ) (detail : InBoundDetail) : Reduction → Int
  | changeRecordsQuantity changeTotal _ => changeTotal
  | changeTotalQuantity num =>
      max 0 (allAllocateQuantity s detail.id - (detail.arrivalQuantity + num))

def Asked (s : InboundDb μ) (detail : InBoundDetail) : Reduction → Prop
  | changeRecordsQuantity changeTotal _ =>
      0 ≤ changeTotal ∧ changeTotal ≤ allAllocateQuantity s detail.id
  | changeTotalQuantity num => 0 ≤ detail.arrivalQuantity + num

def Reduces (s : InboundDb μ) (detail : InBoundDetail) (reduction : Reduction) : Prop :=
  ∃ t, (reduction.exec detail).run s = (.ok (), t) ∧
    Reduced s t detail.id (reduction.change s detail)

/-- All pieces are to be lost, or one record has enough of them and the newer
records are empty; a changed total needs no reduction. -/
def Fits (s : InboundDb μ) (detail : InBoundDetail) : Reduction → Prop
  | changeRecordsQuantity changeTotal _ =>
      changeTotal = allAllocateQuantity s detail.id ∨
        ∃ r ∈ records s detail.id, changeTotal ≤ r.arrivalQuantity ∧
          ∀ r' ∈ records s detail.id, r.id < r'.id → r'.arrivalQuantity = 0
  | changeTotalQuantity num =>
      allAllocateQuantity s detail.id ≤ detail.arrivalQuantity + num

end Reduction

/-! ## The loop -/

def lost : List Record → Int → Int
  | [], _ => 0
  | r :: rs, change => if r.arrivalQuantity ≥ change then change else r.arrivalQuantity + lost rs change

def quantity (rs : List Record) : Int := (rs.map Record.arrivalQuantity).sum

@[simp] theorem quantity_cons (r : Record) (rs : List Record) :
    quantity (r :: rs) = r.arrivalQuantity + quantity rs := by
  simp [quantity]

theorem le_quantity {rs : List Record} (hrs : ∀ r ∈ rs, 0 ≤ r.arrivalQuantity) :
    0 ≤ quantity rs ∧ ∀ r ∈ rs, r.arrivalQuantity ≤ quantity rs := by
  induction rs with
  | nil => simp [quantity]
  | cons r rs ih =>
    rw [List.forall_mem_cons] at hrs
    obtain ⟨hnonneg, hle⟩ := ih hrs.2
    rw [quantity_cons, List.forall_mem_cons]
    refine ⟨by omega, by omega, fun r' hr' => ?_⟩
    have hr := hle r' hr'
    omega

theorem le_lost {rs : List Record} {change : Int} (hrs : ∀ r ∈ rs, 0 ≤ r.arrivalQuantity)
    {r : Record} (hr : r ∈ rs) (hle : change ≤ r.arrivalQuantity) : change ≤ lost rs change := by
  induction rs with
  | nil => simp at hr
  | cons r' rs ih =>
    rw [List.forall_mem_cons] at hrs
    unfold lost
    split
    · exact le_refl _
    · rcases List.mem_cons.1 hr with rfl | hr
      · contradiction
      · have hlost := ih hrs.2 hr
        omega

theorem lost_eq_quantity {rs : List Record} {change : Int}
    (hrs : ∀ r ∈ rs, r.arrivalQuantity < change) : lost rs change = quantity rs := by
  induction rs with
  | nil => rfl
  | cons r rs ih =>
    rw [List.forall_mem_cons] at hrs
    rw [lost, if_neg (by omega), ih hrs.2, quantity_cons]

theorem lost_eq_iff {change : Int} {rs : List Record}
    (hsorted : rs.Pairwise fun r r' => r'.id < r.id) (hrs : ∀ r ∈ rs, 0 ≤ r.arrivalQuantity) :
    lost rs change = change ↔ change = quantity rs ∨
      ∃ r ∈ rs, change ≤ r.arrivalQuantity ∧
        ∀ r' ∈ rs, r.id < r'.id → r'.arrivalQuantity = 0 := by
  induction rs with
  | nil =>
    simp [lost, quantity]
    omega
  | cons r rs ih =>
    rw [List.pairwise_cons] at hsorted
    rw [List.forall_mem_cons] at hrs
    have hih := ih hsorted.2 hrs.2
    have hquantity := le_quantity hrs.2
    rw [lost, quantity_cons]
    split
    · refine iff_of_true rfl (Or.inr ⟨r, List.mem_cons_self, by assumption, ?_⟩)
      intro r' hr' hlt
      rcases List.mem_cons.1 hr' with rfl | hr'
      · omega
      · have hnewer := hsorted.1 r' hr'
        omega
    · rename_i hless
      constructor
      · intro hlost
        by_cases henough : ∃ r' ∈ rs, change ≤ r'.arrivalQuantity
        · obtain ⟨r', hr', hle⟩ := henough
          have hlost' := le_lost hrs.2 hr' hle
          have hempty : r.arrivalQuantity = 0 := by omega
          rcases hih.1 (by omega) with hall | ⟨r', hr', hle, hnewer⟩
          · exact Or.inl (by omega)
          · refine Or.inr ⟨r', List.mem_cons_of_mem _ hr', hle, ?_⟩
            rw [List.forall_mem_cons]
            exact ⟨fun _ => hempty, hnewer⟩
        · push Not at henough
          rw [lost_eq_quantity henough] at hlost
          exact Or.inl hlost.symm
      · rintro (hall | ⟨r', hr', hle, hnewer⟩)
        · by_cases henough : ∃ r' ∈ rs, change ≤ r'.arrivalQuantity
          · obtain ⟨r', hr', hle⟩ := henough
            have hle' := hquantity.2 r' hr'
            have hlost := hih.2 (Or.inl (by omega))
            omega
          · push Not at henough
            rw [lost_eq_quantity henough]
            exact hall.symm
        · rw [List.forall_mem_cons] at hnewer
          rcases List.mem_cons.1 hr' with rfl | hr'
          · omega
          · have hempty := hnewer.1 (hsorted.1 r' hr')
            have hlost := hih.2 (Or.inr ⟨r', hr', hle, hnewer.2⟩)
            omega

def share (detail : Nat) (r : Record) : Int :=
  if r.inbounddetail = detail then r.arrivalQuantity else 0

/-- What the loop makes of a table of records on its way over `rs`. -/
structure Walked (s t : Table Record) (rs : List Record) (detail : Nat) (change : Int) : Prop where
  others : ∀ r, r.id ∉ rs.map Record.id → (r ∈ t ↔ r ∈ s)
  total : t.sum (share detail) = s.sum (share detail) - lost rs change
  kept : ∀ r ∈ rs, ∃ r' ∈ t, r'.id = r.id ∧ r'.inbounddetail = detail ∧
    0 ≤ r'.arrivalQuantity ∧ r'.arrivalQuantity ≤ r.arrivalQuantity
  newest : ∀ r ∈ t, r.id ∈ rs.map Record.id → r ∈ s ∨
    ∀ r' ∈ t, r'.id ∈ rs.map Record.id → r.id < r'.id → r'.arrivalQuantity = 0

variable {s t : Table Record} {r : Record} {rs : List Record} {detail : Nat} {change : Int}

theorem Walked.nil : Walked s s [] detail change :=
  ⟨fun _ _ => Iff.rfl, by simp [lost], by simp, by simp⟩

theorem mem_saved (hr : r ∈ s) (n : Int) (x : Record) :
    x ∈ s.save { r with arrivalQuantity := n } ↔
      x = { r with arrivalQuantity := n } ∨ (x ∈ s ∧ x.id ≠ r.id) :=
  Table.mem_save_iff hr rfl

theorem share_saved (hr : r ∈ s) (hdetail : r.inbounddetail = detail) (n : Int) :
    (s.save { r with arrivalQuantity := n }).sum (share detail) =
      s.sum (share detail) - r.arrivalQuantity + n := by
  rw [Table.sum_save (a := { r with arrivalQuantity := n }) hr rfl]
  simp [share, hdetail]

theorem Walked.stop (hsorted : (r :: rs).Pairwise fun r r' => r'.id < r.id)
    (hrs : ∀ x ∈ r :: rs, x ∈ s ∧ x.inbounddetail = detail ∧ 0 ≤ x.arrivalQuantity)
    (henough : change ≤ r.arrivalQuantity) (hchange : 0 ≤ change) :
    Walked s (s.save { r with arrivalQuantity := r.arrivalQuantity - change }) (r :: rs)
      detail change := by
  rw [List.pairwise_cons] at hsorted
  rw [List.forall_mem_cons] at hrs
  obtain ⟨⟨hr, hdetail, hnonneg⟩, hrs⟩ := hrs
  refine ⟨fun x hx => ?_, ?_, ?_, fun x hx _ => ?_⟩
  · rw [mem_saved hr]
    simp only [List.map_cons, List.mem_cons, not_or] at hx
    exact ⟨fun h => h.elim (fun heq => absurd (congrArg Record.id heq) hx.1) And.left,
      fun h => Or.inr ⟨h, hx.1⟩⟩
  · rw [share_saved hr hdetail, lost, if_pos henough]
    omega
  · rw [List.forall_mem_cons]
    refine ⟨⟨_, (mem_saved hr _ _).2 (Or.inl rfl), rfl, hdetail, ?_, ?_⟩, fun x hx => ?_⟩
    · simp only
      omega
    · simp only
      omega
    · obtain ⟨hxs, hxdetail, hxnonneg⟩ := hrs x hx
      have hlt := hsorted.1 x hx
      exact ⟨x, (mem_saved hr _ _).2 (Or.inr ⟨hxs, by omega⟩), rfl, hxdetail, hxnonneg, le_refl _⟩
  · rcases (mem_saved hr _ _).1 hx with rfl | ⟨hxs, _⟩
    · right
      intro y _ hid hlt
      obtain ⟨z, hz, hzid⟩ := List.mem_map.1 hid
      rcases List.mem_cons.1 hz with rfl | hz
      · simp only at hlt
        omega
      · have hzlt := hsorted.1 z hz
        simp only at hlt
        omega
    · exact Or.inl hxs

theorem Walked.next (hsorted : (r :: rs).Pairwise fun r r' => r'.id < r.id)
    (hr : r ∈ s) (hdetail : r.inbounddetail = detail) (hnonneg : 0 ≤ r.arrivalQuantity)
    (hless : ¬ r.arrivalQuantity ≥ change)
    (h : Walked (s.save { r with arrivalQuantity := 0 }) t rs detail change) :
    Walked s t (r :: rs) detail change := by
  rw [List.pairwise_cons] at hsorted
  have hfree : r.id ∉ rs.map Record.id := by
    intro hmem
    obtain ⟨x, hx, hid⟩ := List.mem_map.1 hmem
    have hlt := hsorted.1 x hx
    omega
  -- the emptied record stays as it is
  have hown : ∀ x ∈ t, x.id = r.id → x = { r with arrivalQuantity := 0 } := by
    intro x hx hid
    have hx' := (h.others x (by rwa [hid])).1 hx
    exact ((mem_saved hr _ _).1 hx').resolve_right fun h => h.2 hid
  refine ⟨fun x hx => ?_, ?_, ?_, fun x hx hid => ?_⟩
  · simp only [List.map_cons, List.mem_cons, not_or] at hx
    rw [h.others x hx.2, mem_saved hr]
    exact ⟨fun h => h.elim (fun heq => absurd (congrArg Record.id heq) hx.1) And.left,
      fun h => Or.inr ⟨h, hx.1⟩⟩
  · rw [h.total, share_saved hr hdetail, lost, if_neg hless]
    omega
  · rw [List.forall_mem_cons]
    refine ⟨⟨{ r with arrivalQuantity := 0 }, ?_, rfl, hdetail, le_refl _, hnonneg⟩, h.kept⟩
    exact (h.others { r with arrivalQuantity := 0 } hfree).2
      ((mem_saved hr _ _).2 (Or.inl rfl))
  · simp only [List.map_cons, List.mem_cons] at hid
    rcases hid with hid | hid
    · right
      intro y _ hyid hlt
      simp only [List.map_cons, List.mem_cons] at hyid
      rcases hyid with hyid | hyid
      · omega
      · obtain ⟨z, hz, hzid⟩ := List.mem_map.1 hyid
        have hzlt := hsorted.1 z hz
        omega
    · rcases h.newest x hx hid with hxs | hempty
      · rcases (mem_saved hr _ _).1 hxs with rfl | ⟨hxs, _⟩
        · exact absurd hid hfree
        · exact Or.inl hxs
      · right
        intro y hy hyid hlt
        simp only [List.map_cons, List.mem_cons] at hyid
        rcases hyid with hyid | hyid
        · rw [hown y hy hyid]
        · exact hempty y hy hyid hlt

theorem loseRecords_walked (hchange : 0 ≤ change) {s : InboundDb μ}
    (hsorted : rs.Pairwise fun r r' => r'.id < r.id)
    (hrs : ∀ r ∈ rs, r ∈ s.records ∧ r.inbounddetail = detail ∧ 0 ≤ r.arrivalQuantity) :
    ∃ t, (loseRecords rs change).run s = (.ok (), { s with records := t }) ∧
      Walked s.records t rs detail change := by
  induction rs generalizing s with
  | nil => exact ⟨s.records, rfl, Walked.nil⟩
  | cons r rs ih =>
    unfold loseRecords
    split
    · exact ⟨_, rfl, Walked.stop hsorted hrs (by assumption) hchange⟩
    · rename_i hless
      rw [List.forall_mem_cons] at hrs
      obtain ⟨⟨hr, hdetail, hnonneg⟩, hrs⟩ := hrs
      have hsorted' := (List.pairwise_cons.1 hsorted).2
      have hrs' : ∀ x ∈ rs, x ∈ s.records.save { r with arrivalQuantity := 0 } ∧
          x.inbounddetail = detail ∧ 0 ≤ x.arrivalQuantity := by
        intro x hx
        have hlt := (List.pairwise_cons.1 hsorted).1 x hx
        exact ⟨(mem_saved hr _ _).2 (Or.inr ⟨(hrs x hx).1, by omega⟩), (hrs x hx).2⟩
      obtain ⟨t, hrun, hwalked⟩ := ih (s := { s with
        records := s.records.save { r with arrivalQuantity := 0 } }) hsorted' hrs'
      refine ⟨t, ?_, hwalked.next hsorted hr hdetail hnonneg hless⟩
      simp only [modify_bind_run, sub_zero]
      exact hrun

/-! ## The reductions -/

theorem mem_newestFirst (s : InboundDb μ) (detail : Nat) :
    r ∈ newestFirst s detail ↔ r ∈ records s detail :=
  List.mem_insertionSort _

theorem mem_detailRecords {s : InboundDb μ} :
    r ∈ records s detail ↔ r ∈ s.records ∧ r.inbounddetail = detail := by
  simp [records, Table.filter, Table.mem_def]

theorem newestFirst_pairwise (s : InboundDb μ) (detail : Nat) :
    (newestFirst s detail).Pairwise fun r r' => r'.id < r.id := by
  have hsorted : (newestFirst s detail).Pairwise fun r r' => r'.id ≤ r.id :=
    List.pairwise_insertionSort _ _
  have hnodup : ((newestFirst s detail).map Record.id).Nodup :=
    ((List.perm_insertionSort _ _).map Record.id).nodup_iff.2 (s.records.nodup_pk_filter _)
  rw [List.Nodup, List.pairwise_map] at hnodup
  exact hsorted.imp₂ (fun r r' hle hne => lt_of_le_of_ne hle (Ne.symm hne)) hnodup

theorem allAllocateQuantity_eq (s : InboundDb μ) (detail : Nat) :
    allAllocateQuantity s detail = s.records.sum (share detail) := by
  unfold allAllocateQuantity records
  rw [Table.sum_filter]
  exact Table.sum_congr fun r _ => by simp [share]

theorem quantity_newestFirst (s : InboundDb μ) (detail : Nat) :
    quantity (newestFirst s detail) = allAllocateQuantity s detail :=
  ((List.perm_insertionSort _ _).map Record.arrivalQuantity).sum_eq

variable {s t : InboundDb μ}

theorem reduced_of_walked
    (h : Walked s.records t.records (newestFirst s detail) detail change) :
    Reduced s t detail change ↔ lost (newestFirst s detail) change = change := by
  have htotal : allAllocateQuantity t detail
      = allAllocateQuantity s detail - lost (newestFirst s detail) change := by
    rw [allAllocateQuantity_eq, allAllocateQuantity_eq, h.total]
  have hown : ∀ r ∈ records t detail, r.id ∈ (newestFirst s detail).map Record.id := by
    intro r hr
    by_contra hid
    obtain ⟨hrt, hdetail⟩ := mem_detailRecords.1 hr
    have hrs := mem_detailRecords.2 ⟨(h.others r hid).1 hrt, hdetail⟩
    exact hid (List.mem_map_of_mem ((mem_newestFirst s detail).2 hrs))
  constructor
  · intro hreduced
    have hchange := hreduced.total
    omega
  · intro hlost
    refine ⟨fun r hr => ?_, by rw [htotal, hlost], fun r hr => ?_, fun r hr r' hr' hlt hpos => ?_⟩
    · obtain ⟨x, hx, hid⟩ := List.mem_map.1 (hown r hr)
      obtain ⟨r', hr', hid', _, hnonneg, _⟩ := h.kept x hx
      have hsame : r = r' := Table.pk_inj (mem_detailRecords.1 hr).1 hr' (hid.symm.trans hid'.symm)
      rw [hsame]
      exact hnonneg
    · obtain ⟨r', hr', hid, hdetail, _, hle⟩ := h.kept r ((mem_newestFirst s detail).2 hr)
      exact ⟨r', mem_detailRecords.2 ⟨hr', hdetail⟩, hid, hle⟩
    · rcases h.newest r (mem_detailRecords.1 hr).1 (hown r hr) with hrs | hempty
      · exact hrs
      · have hzero := hempty r' (mem_detailRecords.1 hr').1 (hown r' hr') hlt
        omega

theorem reduced_self (hnonneg : ∀ r ∈ records s detail, 0 ≤ r.arrivalQuantity)
    (hrecords : t.records = s.records) : Reduced s t detail 0 := by
  have hsame : records t detail = records s detail := by
    rw [records, records, hrecords]
  refine ⟨by rwa [hsame], ?_, fun r hr => ?_, fun r hr _ _ _ _ => ?_⟩
  · rw [allAllocateQuantity, hsame, sub_zero]
    rfl
  · exact ⟨r, by rwa [hsame], rfl, le_refl _⟩
  · rw [hsame] at hr
    exact (mem_detailRecords.1 hr).1

variable {d : InBoundDetail}

theorem changeRecordsQuantity_reduces (hnonneg : ∀ r ∈ records s d.id, 0 ≤ r.arrivalQuantity)
    (hchange : 0 ≤ change) (updateOldStock : Bool) :
    (∃ t, (d.changeRecordsQuantity change updateOldStock).run s = (.ok (), t) ∧
        Reduced s t d.id change) ↔
      lost (newestFirst s d.id) change = change := by
  obtain ⟨u, hrun, hwalked⟩ := loseRecords_walked hchange (newestFirst_pairwise s d.id)
    (fun r hr => by
      have hr' := (mem_newestFirst s d.id).1 hr
      exact ⟨(mem_detailRecords.1 hr').1, (mem_detailRecords.1 hr').2, hnonneg r hr'⟩)
  obtain ⟨t, hrun', hrecords⟩ : ∃ t,
      (d.changeRecordsQuantity change updateOldStock).run s = (.ok (), t) ∧ t.records = u := by
    unfold InBoundDetail.changeRecordsQuantity
    rw [gets_bind_run]
    unfold newestFirst at hrun
    rw [bind_ok hrun]
    split
    · exact ⟨_, rfl, rfl⟩
    · exact ⟨_, rfl, rfl⟩
  rw [← hrecords] at hwalked
  rw [hrun', ← reduced_of_walked hwalked]
  simp

theorem takeBack_run (hd : 0 ≤ d.arrivalQuantity) :
    d.takeBack.run s =
      (if allAllocateQuantity s d.id ≤ d.arrivalQuantity then .ok () else .error .typeError, s) := by
  unfold InBoundDetail.takeBack
  rw [gets_bind_run, gets_bind_run]
  split
  · rename_i hless
    rw [if_neg (by omega)]
    rfl
  · rename_i hless
    rw [if_pos]
    · rfl
    · by_contra hmore
      have hnone : records s d.id = [] := by
        by_contra hsome
        exact hless ⟨by omega, hsome⟩
      rw [allAllocateQuantity, hnone] at hmore
      simp at hmore
      omega

theorem changeTotalQuantity_run {num : Int} (hnum : 0 ≤ d.arrivalQuantity + num) :
    (d.changeTotalQuantity num).run s =
      (if allAllocateQuantity s d.id ≤ d.arrivalQuantity + num then .ok () else .error .typeError,
        { s with
          details := s.details.save { d with arrivalQuantity := d.arrivalQuantity + num } }) := by
  unfold InBoundDetail.changeTotalQuantity
  rw [raiseIf_bind_run, if_neg (by simpa using hnum)]
  unfold InBoundDetail.save
  rw [modify_bind_run, takeBack_run hnum]
  rfl

/-- Records lose what is asked for exactly when one record bears it alone. -/
theorem reduces_iff (reduction : Reduction)
    (hnonneg : ∀ r ∈ records s d.id, 0 ≤ r.arrivalQuantity) (hasked : reduction.Asked s d) :
    reduction.Reduces s d ↔ reduction.Fits s d := by
  cases reduction with
  | changeRecordsQuantity change updateOldStock =>
      refine (changeRecordsQuantity_reduces hnonneg hasked.1 updateOldStock).trans ?_
      have hnewest : ∀ r ∈ newestFirst s d.id, 0 ≤ r.arrivalQuantity :=
        fun r hr => hnonneg r ((mem_newestFirst s d.id).1 hr)
      rw [lost_eq_iff (newestFirst_pairwise s d.id) hnewest, quantity_newestFirst]
      simp only [mem_newestFirst]
      rfl
  | changeTotalQuantity num =>
      have hrun := @changeTotalQuantity_run _ s d num hasked
      unfold Reduction.Reduces Reduction.Fits
      simp only [Reduction.exec, Reduction.change, hrun]
      constructor
      · rintro ⟨t, heq, _⟩
        by_contra hmore
        rw [if_neg hmore] at heq
        simp at heq
      · intro hle
        rw [if_pos hle, max_eq_left (by omega)]
        exact ⟨_, rfl, reduced_self hnonneg rfl⟩

def sampleDetail : InBoundDetail :=
  ⟨1, 1, some 1, 7, 0, false, none, false, false, .normal⟩

def sampleReduction : InboundDb Unit where
  inbounds := Table.empty
  details := Table.empty.insert sampleDetail
  records := (Table.empty.insert ⟨1, 1, 1, 5, 0, 0⟩).insert ⟨2, 2, 1, 2, 0, 0⟩
  orderLists := Table.empty
  orderDetails := Table.empty
  productSkus := Table.empty
  skuStocks := Table.empty
  mall := ()

theorem reduces_iff_newest :
    (Reduction.changeRecordsQuantity 2 false).Reduces sampleReduction sampleDetail := by
  refine (reduces_iff (.changeRecordsQuantity 2 false) (by decide) ⟨by decide, by decide⟩).2 (Or.inr ?_)
  exact ⟨⟨2, 2, 1, 2, 0, 0⟩, by decide, by decide, by decide⟩

theorem reduces_two_records :
    ∃ (s : InboundDb Unit) (d : InBoundDetail) (reduction : Reduction),
      (∀ r ∈ records s d.id, 0 ≤ r.arrivalQuantity) ∧ reduction.Asked s d ∧
        ¬ reduction.Reduces s d := by
  refine ⟨sampleReduction, sampleDetail, .changeRecordsQuantity 3 false, by decide,
    ⟨by decide, by decide⟩, ?_⟩
  rintro ⟨t, hrun, hreduced⟩
  have htotal := hreduced.total
  obtain rfl := congrArg Prod.snd hrun
  exact absurd htotal (by decide)

end ShopManager.Purchase.Inbound
