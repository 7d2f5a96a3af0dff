import ShopManager.Warehouse.SetAside

/-!
# First come, first served

`assign` serves those for whom it is called and then the queue of the SKU, in a second
round from what is left.  The round after a single item starts from the row as it was read
before the item was set aside, so what the item took is given away again.
-/

namespace ShopManager.Warehouse.SkuStock

open Library Library.Tx Library.Greedy PackageSkuItem

def size (psi : PackageSkuItem) : ℤ := psi.num

theorem size_nonneg (psi : PackageSkuItem) : 0 ≤ size psi := Int.natCast_nonneg psi.num

/-! ## The two rules -/

theorem fittingFirst_longest {f : ℤ} (hf : 0 ≤ f) (psis : List PackageSkuItem) :
    LongestPrefix size f (fittingFirst f psis) psis := by
  induction psis generalizing f with
  | nil => exact LongestPrefix.nil hf
  | cons psi psis ih =>
    unfold fittingFirst
    split
    · next hfits => exact (ih (sub_nonneg.mpr hfits)).cons
    · next hfits => exact LongestPrefix.stop size_nonneg hf (not_le.mp hfits)

theorem fitting_inTurn (f : ℤ) {psis : List PackageSkuItem} (hnodup : psis.Nodup) :
    InTurn size f (fitting f psis) psis := by
  induction psis generalizing f with
  | nil => exact InTurn.nil
  | cons psi psis ih =>
    obtain ⟨hnot, hrest⟩ := List.nodup_cons.mp hnodup
    unfold fitting
    split
    · next hfits => exact (ih (f - psi.num) hrest).take hnot hfits
    · next hfits => exact (ih f hrest).pass hnot (not_le.mp hfits)

/-- Those for whom `assign` is called, as far as they wait. -/
def asked (s : WarehouseDb) (sku : Nat) : Target → List PackageSkuItem
  | .psi psiId => ((s.packageSkuItems.get? psiId).filter fun psi =>
      psi.skuId = sku ∧ psi.assignStatus = .notAssigned).toList
  | .orderlist key => waitingOf s sku key
  | .all => []

/-- The queue of a SKU without those of `served`. -/
def waitingBut (s : WarehouseDb) (sku : Nat) (served : List PackageSkuItem) :
    List PackageSkuItem :=
  (waiting s sku).filter fun psi => psi ∉ served

/-- Those for whom `assign` is called are served in turn, and after them the longest
beginning of the queue that what is left covers; a call for no one in particular counts
on it. -/
def AssignsWell (s : WarehouseDb) (sku : Nat) (target : Target) : Prop :=
  ∃ served queue s',
    (assign sku (s.skuStocks sku) target true).run s = (.ok (), s') ∧
    InTurn size (s.skuStocks sku).free served (asked s sku target) ∧
    LongestPrefix size ((s.skuStocks sku).free - total size served) queue
      (waitingBut s sku served) ∧
    SetAside (served ++ queue) s s' ∧
    total size (served ++ queue) ≤ (s.skuStocks sku).free ∧
    (target = .all →
      s'.skuStocks sku .assignNum = s.skuStocks sku .assignNum + total size queue)

def FirstCounts (queue : List PackageSkuItem) : Prop := ∀ psi ∈ queue.head?, psi.num ≠ 0

/-- Where nothing is free no one must be served who asks for nothing; and after a single
item no beginning of the queue that fits into all that was free may need what the item
took. -/
def InTime (s : WarehouseDb) (sku : Nat) : Target → Prop
  | .all => (s.skuStocks sku).free = 0 → FirstCounts (waiting s sku)
  | .orderlist key =>
      ((s.skuStocks sku).free = 0 → ∀ psi ∈ waitingOf s sku key, psi.num ≠ 0) ∧
      ∀ served, InTurn size (s.skuStocks sku).free served (waitingOf s sku key) →
        total size served = (s.skuStocks sku).free → FirstCounts (waitingBut s sku served)
  | .psi psiId =>
      ((s.skuStocks sku).free = 0 →
        (∀ psi ∈ asked s sku (.psi psiId), psi.num ≠ 0) ∧ FirstCounts (waiting s sku)) ∧
      (0 < (s.skuStocks sku).free →
        ∀ psi ∈ asked s sku (.psi psiId), size psi ≤ (s.skuStocks sku).free →
          ∀ queue, queue <+: waitingBut s sku [psi] →
            total size queue ≤ (s.skuStocks sku).free →
              total size queue ≤ (s.skuStocks sku).free - size psi)

section Queue

variable {s s' : WarehouseDb} {sku : Nat} {psi : PackageSkuItem}
  {served queue queue' : List PackageSkuItem} {target : Target}

theorem mem_waiting : psi ∈ waiting s sku ↔
    psi ∈ s.packageSkuItems ∧ psi.skuId = sku ∧ psi.type = .normal ∧
      psi.assignStatus = .notAssigned := by
  unfold waiting Table.filter
  rw [List.mem_insertionSort, List.mem_filter, decide_eq_true_eq]
  exact Iff.rfl

theorem waiting_nodup (s : WarehouseDb) (sku : Nat) : (waiting s sku).Nodup := by
  unfold waiting
  rw [(List.perm_insertionSort _ _).nodup_iff]
  exact s.packageSkuItems.nodup_rows.filter _

theorem asked_nodup (s : WarehouseDb) (sku : Nat) (target : Target) :
    (asked s sku target).Nodup := by
  cases target with
  | psi psiId =>
    have hnodup : ∀ found : Option PackageSkuItem, found.toList.Nodup := by
      intro found
      cases found with
      | none => exact List.nodup_nil
      | some psi => exact List.nodup_singleton psi
    exact hnodup _
  | orderlist key => exact s.packageSkuItems.nodup_rows.filter _
  | all => exact List.nodup_nil

def Unassigned (s : WarehouseDb) (psi : PackageSkuItem) : Prop :=
  psi ∈ s.packageSkuItems ∧ psi.assignStatus = .notAssigned

theorem unassigned_asked (hpsi : psi ∈ asked s sku target) : Unassigned s psi := by
  cases target with
  | psi psiId =>
    have hget := Option.mem_toList.mp hpsi
    obtain ⟨hsome, hp⟩ := Option.filter_eq_some_iff.mp hget
    exact ⟨(Table.get?_eq_some.mp hsome).1, (of_decide_eq_true hp).2⟩
  | orderlist key =>
    have hp := List.mem_filter.mp hpsi
    exact ⟨hp.1, (of_decide_eq_true hp.2).2.2.2⟩
  | all => exact absurd hpsi List.not_mem_nil

theorem unassigned_waitingBut (hpsi : psi ∈ waitingBut s sku served) : Unassigned s psi := by
  have hwaiting := mem_waiting.mp (List.mem_filter.mp hpsi).1
  exact ⟨hwaiting.1, hwaiting.2.2.2⟩

theorem row_of_setAside (h : SetAside served s s') :
    s'.packageSkuItems.rows = s.packageSkuItems.rows.map fun psi =>
      if psi.id ∈ served.map PackageSkuItem.id then psi.toAssigned else psi := by
  rw [h.items]
  unfold Table.update
  apply List.map_congr_left
  intro r _
  simp only [decide_eq_true_eq]
  rfl

theorem id_mem_iff (hserved : ∀ psi ∈ served, Unassigned s psi)
    (hpsi : psi ∈ s.packageSkuItems) :
    psi.id ∈ served.map PackageSkuItem.id ↔ psi ∈ served := by
  constructor
  · intro hid
    obtain ⟨r, hr, heq⟩ := List.mem_map.mp hid
    rwa [← Table.pk_inj (hserved r hr).1 hpsi heq]
  · exact fun hmem => List.mem_map_of_mem hmem

theorem waiting_of_setAside (h : SetAside served s s')
    (hserved : ∀ psi ∈ served, Unassigned s psi) :
    waiting s' sku = waitingBut s sku served := by
  unfold waitingBut waiting
  rw [Greedy.filter_insertionSort
    (r := fun a b : PackageSkuItem => a.payTime ≤ b.payTime)
    (fun _ _ _ => Nat.le_trans) (fun a b => Nat.le_total a.payTime b.payTime)]
  congr 1
  unfold Table.filter
  rw [row_of_setAside h, List.filter_map, List.filter_filter]
  calc (s.packageSkuItems.rows.filter _).map _
      = (s.packageSkuItems.rows.filter _).map fun psi => psi := by
        apply List.map_congr_left
        intro psi hpsi
        have hp := of_decide_eq_true (List.mem_filter.mp hpsi).2
        dsimp only at hp
        split at hp
        · exact absurd hp.2.2 (by simp [toAssigned])
        · next hid => exact if_neg hid
    _ = s.packageSkuItems.rows.filter _ := List.map_id' _
    _ = s.packageSkuItems.rows.filter _ := by
        apply List.filter_congr
        intro psi hpsi
        have hiff := id_mem_iff hserved hpsi
        rw [Function.comp_apply]
        by_cases hmem : psi ∈ served
        · rw [if_pos (hiff.mpr hmem)]
          simp [hmem, toAssigned]
        · rw [if_neg (mt hiff.mp hmem)]
          simp [hmem]

theorem mem_of_setAside (h : SetAside queue s s') (h' : SetAside queue' s s')
    (hqueue : ∀ psi ∈ queue, Unassigned s psi) (hqueue' : ∀ psi ∈ queue', Unassigned s psi)
    (hpsi : psi ∈ queue) : psi ∈ queue' := by
  by_contra hnot
  obtain ⟨hmem, hstatus⟩ := hqueue psi hpsi
  have hrow := row_of_setAside h
  rw [row_of_setAside h'] at hrow
  have hsame := List.map_inj_left.mp hrow psi hmem
  rw [if_neg (mt (id_mem_iff hqueue' hmem).mp hnot),
    if_pos ((id_mem_iff hqueue hmem).mpr hpsi)] at hsame
  rw [hsame] at hstatus
  exact absurd hstatus (by simp [toAssigned])

end Queue

/-! ## What a call does -/

section Rounds

variable {s s' : WarehouseDb} {sku : Nat} {target : Target} {E : Exn → Prop}

/-- Whom the round after `served` serves. -/
def secondRound (s : WarehouseDb) (sku : Nat) (served : List PackageSkuItem) :
    Target → List PackageSkuItem
  | .psi _ => fittingFirst (s.skuStocks sku).free (waitingBut s sku served)
  | _ =>
      if (s.skuStocks sku).free - total size served = 0 then []
      else fittingFirst ((s.skuStocks sku).free - total size served) (waitingBut s sku served)

theorem free_assigned (n : Int) (stock : SkuStock) : (stock.assigned n).free = stock.free - n := by
  have hreal : (stock.assigned n).realtimeQuantity = stock.realtimeQuantity := rfl
  have hassign : stock.assigned n .assignNum = stock .assignNum + n := rfl
  unfold free
  omega

theorem assign_balanced (hfree : (s.skuStocks sku).free = 0) :
    (assign sku (s.skuStocks sku) target true).run s = (.ok (), s) := by
  unfold assign
  rw [if_pos hfree]
  rfl

theorem ends_assignAll {stock : SkuStock} (hfree : 0 < stock.free) (s : WarehouseDb) :
    Ends E (assignAll sku stock) s fun _ s' =>
      SetAside (fittingFirst stock.free (waiting s sku)) s s' ∧
        s'.skuStocks sku .assignNum =
          stock .assignNum + total size (fittingFirst stock.free (waiting s sku)) := by
  unfold assignAll
  rw [if_neg hfree.ne', if_neg hfree.not_gt]
  refine Ends.gets_bind (Ends.bind (Ends.mono (ends_saveAssigned sku stock _ s) ?_))
  rintro _ s' ⟨_, haside, hstock⟩
  refine Ends.pure ⟨haside, ?_⟩
  rw [hstock]
  rfl

theorem waitingBut_nil (s : WarehouseDb) (sku : Nat) : waitingBut s sku [] = waiting s sku := by
  unfold waitingBut
  simp

theorem ends_again {stock : SkuStock} {served : List PackageSkuItem} (hfree : 0 < stock.free)
    (haside : SetAside served s s') (hserved : ∀ psi ∈ served, Unassigned s psi) :
    Ends E (assignAll sku stock) s' fun _ s'' =>
      SetAside (served ++ fittingFirst stock.free (waitingBut s sku served)) s s'' := by
  refine Ends.mono (ends_assignAll hfree s') ?_
  rintro _ s'' ⟨hround, -⟩
  rw [waiting_of_setAside haside hserved] at hround
  exact haside.trans hround

def firstRound (s : WarehouseDb) (sku : Nat) (target : Target) : List PackageSkuItem :=
  fitting (s.skuStocks sku).free (asked s sku target)

theorem firstRound_inTurn (s : WarehouseDb) (sku : Nat) (target : Target) :
    InTurn size (s.skuStocks sku).free (firstRound s sku target) (asked s sku target) :=
  fitting_inTurn _ (asked_nodup s sku target)

theorem unassigned_firstRound {psi : PackageSkuItem} (hpsi : psi ∈ firstRound s sku target) :
    Unassigned s psi :=
  unassigned_asked ((firstRound_inTurn s sku target).sublist.subset hpsi)

theorem ends_assign_orderlist (hfree : 0 < (s.skuStocks sku).free) (key : PurchaseKey) :
    Ends E (assign sku (s.skuStocks sku) (.orderlist key) true) s fun _ s' =>
      SetAside (firstRound s sku (.orderlist key) ++
        secondRound s sku (firstRound s sku (.orderlist key)) (.orderlist key)) s s' := by
  unfold assign
  rw [if_neg hfree.ne', if_neg hfree.not_gt]
  refine Ends.gets_bind (Ends.bind (Ends.mono
    (ends_saveAssigned sku _ (firstRound s sku (.orderlist key)) s) ?_))
  rintro _ t ⟨rfl, haside, -⟩
  have hle := (firstRound_inTurn s sku (.orderlist key)).total_le hfree.le
    (asked_nodup s sku (.orderlist key))
  have hleft := free_assigned (pieces (firstRound s sku (.orderlist key))) (s.skuStocks sku)
  have hpieces : pieces (firstRound s sku (.orderlist key)) =
      total size (firstRound s sku (.orderlist key)) := rfl
  rw [hpieces] at hleft
  rw [if_pos rfl, hpieces]
  unfold secondRound
  dsimp only
  split
  · next hnone =>
    rw [List.append_nil]
    unfold assignAll
    rw [if_pos (hleft.trans hnone)]
    exact Ends.pure haside
  · next hsome =>
    rw [← hleft]
    exact ends_again (by omega) haside fun _ => unassigned_firstRound

theorem ends_assign_psi (hfree : 0 < (s.skuStocks sku).free) (psiId : Nat) :
    Ends E (assign sku (s.skuStocks sku) (.psi psiId) true) s fun _ s' =>
      SetAside (firstRound s sku (.psi psiId) ++
        secondRound s sku (firstRound s sku (.psi psiId)) (.psi psiId)) s s' := by
  have hunassigned : ∀ psi ∈ firstRound s sku (.psi psiId), Unassigned s psi := fun _ =>
    unassigned_firstRound
  have hagain : ∀ t, SetAside (firstRound s sku (.psi psiId)) s t →
      Ends E (assignAll sku (s.skuStocks sku)) t fun _ s' =>
        SetAside (firstRound s sku (.psi psiId) ++
          secondRound s sku (firstRound s sku (.psi psiId)) (.psi psiId)) s s' :=
    fun t ht => ends_again hfree ht hunassigned
  unfold assign
  rw [if_neg hfree.ne', if_neg hfree.not_gt]
  refine Ends.gets_bind ?_
  rw [if_pos rfl]
  cases hfound : (s.packageSkuItems.get? psiId).filter fun psi =>
      psi.skuId = sku ∧ psi.assignStatus = .notAssigned with
  | none =>
    have hfirst : firstRound s sku (.psi psiId) = [] := by
      unfold firstRound asked
      dsimp only
      rw [hfound]
      rfl
    refine Ends.bind (Ends.pure (hagain s ?_))
    rw [hfirst]
    exact SetAside.none s
  | some psi =>
    have hfirst : firstRound s sku (.psi psiId) =
        if (psi.num : Int) ≤ (s.skuStocks sku).free then [psi] else [] := by
      unfold firstRound asked
      dsimp only
      rw [hfound]
      rfl
    rw [Option.filter_some]
    by_cases hfits : (psi.num : Int) ≤ (s.skuStocks sku).free
    · rw [if_pos hfits] at hfirst
      rw [if_pos (decide_eq_true hfits)]
      have hpsi := hunassigned psi (hfirst ▸ List.mem_singleton_self psi)
      refine Ends.bind (Ends.mono (ends_setStatusBooked2Assigned hpsi.1) ?_)
      intro _ t ht
      rw [← hfirst] at ht
      exact hagain t ht
    · rw [if_neg hfits] at hfirst
      rw [if_neg (by simpa using hfits)]
      refine Ends.bind (Ends.pure (hagain s ?_))
      rw [hfirst]
      exact SetAside.none s

theorem assign_run (hfree : 0 < (s.skuStocks sku).free) (target : Target) :
    ∃ s', (assign sku (s.skuStocks sku) target true).run s = (.ok (), s') ∧
      SetAside (firstRound s sku target ++
        secondRound s sku (firstRound s sku target) target) s s' ∧
      (target = .all → s'.skuStocks sku .assignNum = s.skuStocks sku .assignNum +
        total size (secondRound s sku (firstRound s sku target) target)) := by
  cases target with
  | all =>
    have hround : secondRound s sku [] .all =
        fittingFirst (s.skuStocks sku).free (waiting s sku) := by
      unfold secondRound
      dsimp only
      rw [total_nil, sub_zero, if_neg hfree.ne', waitingBut_nil]
    have hends : Ends (fun _ => False) (assignAll sku (s.skuStocks sku)) s _ :=
      ends_assignAll hfree s
    obtain ⟨_, s', hrun, haside, hstock⟩ := hends.runs
    rw [← hround] at haside hstock
    refine ⟨s', ?_, haside, fun _ => hstock⟩
    unfold assign
    rw [if_neg hfree.ne', if_neg hfree.not_gt]
    exact hrun
  | orderlist key =>
    have hends := ends_assign_orderlist (E := fun _ => False) hfree key
    obtain ⟨_, s', hrun, haside⟩ := hends.runs
    exact ⟨s', hrun, haside, fun h => nomatch h⟩
  | psi psiId =>
    have hends := ends_assign_psi (E := fun _ => False) hfree psiId
    obtain ⟨_, s', hrun, haside⟩ := hends.runs
    exact ⟨s', hrun, haside, fun h => nomatch h⟩

end Rounds

/-! ## When the calls serve well -/

section Served

variable {s : WarehouseDb} {sku : Nat} {target : Target}

theorem waitingBut_nodup (s : WarehouseDb) (sku : Nat) (served : List PackageSkuItem) :
    (waitingBut s sku served).Nodup := (waiting_nodup s sku).filter _

theorem secondRound_sublist (served : List PackageSkuItem)
    (hfree : 0 < (s.skuStocks sku).free) (hle : total size served ≤ (s.skuStocks sku).free) :
    (secondRound s sku served target).Sublist (waitingBut s sku served) := by
  have hprefix : ∀ f, 0 ≤ f → (fittingFirst f (waitingBut s sku served)).Sublist
      (waitingBut s sku served) := fun f hf =>
    (fittingFirst_longest hf _).isPrefix.sublist
  have hrest : (if (s.skuStocks sku).free - total size served = 0 then [] else
      fittingFirst ((s.skuStocks sku).free - total size served) (waitingBut s sku served)).Sublist
      (waitingBut s sku served) := by
    split
    · exact List.nil_sublist _
    · exact hprefix _ (sub_nonneg.mpr hle)
  cases target with
  | psi psiId => exact hprefix _ hfree.le
  | orderlist key => exact hrest
  | all => exact hrest

theorem assignsWell_iff_secondRound (hfree : 0 < (s.skuStocks sku).free) :
    AssignsWell s sku target ↔
      LongestPrefix size
        ((s.skuStocks sku).free - total size (firstRound s sku target))
        (secondRound s sku (firstRound s sku target) target)
        (waitingBut s sku (firstRound s sku target)) := by
  have hturn := firstRound_inTurn s sku target
  have hle := hturn.total_le hfree.le (asked_nodup s sku target)
  have hsub : (secondRound s sku (firstRound s sku target) target).Sublist _ :=
    secondRound_sublist _ hfree hle
  obtain ⟨s', hrun, haside, hcount⟩ := assign_run hfree target
  constructor
  · rintro ⟨served, queue, t, hrun', hserved, hqueue, haside', -, -⟩
    obtain rfl := hserved.unique hturn (asked_nodup s sku target)
    rw [hrun] at hrun'
    obtain ⟨-, rfl⟩ := Prod.mk.inj hrun'
    -- both lists are the same part of the queue
    have hin : ∀ psi, psi ∈ firstRound s sku target ++
        secondRound s sku (firstRound s sku target) target → Unassigned s psi := by
      intro psi hpsi
      rcases List.mem_append.mp hpsi with hpsi | hpsi
      · exact unassigned_firstRound hpsi
      · exact unassigned_waitingBut (hsub.subset hpsi)
    have hin' : ∀ psi, psi ∈ firstRound s sku target ++ queue → Unassigned s psi := by
      intro psi hpsi
      rcases List.mem_append.mp hpsi with hpsi | hpsi
      · exact unassigned_firstRound hpsi
      · exact unassigned_waitingBut (hqueue.isPrefix.subset hpsi)
    have hout : ∀ psi ∈ waitingBut s sku (firstRound s sku target),
        psi ∉ firstRound s sku target := fun psi hpsi =>
      of_decide_eq_true (List.mem_filter.mp hpsi).2
    have hsame : queue = secondRound s sku (firstRound s sku target) target := by
      rw [← filter_mem hqueue.isPrefix.sublist (waitingBut_nodup s sku _),
        ← filter_mem hsub (waitingBut_nodup s sku _)]
      apply List.filter_congr
      intro psi hpsi
      have hnot := hout psi hpsi
      rw [decide_eq_decide]
      constructor
      · intro hmem
        have hback := mem_of_setAside haside' haside hin' hin (List.mem_append_right _ hmem)
        exact (List.mem_append.mp hback).resolve_left hnot
      · intro hmem
        have hback := mem_of_setAside haside haside' hin hin' (List.mem_append_right _ hmem)
        exact (List.mem_append.mp hback).resolve_left hnot
    rwa [hsame] at hqueue
  · intro hlongest
    refine ⟨_, _, s', hrun, hturn, hlongest, haside, ?_, hcount⟩
    have hcovered := hlongest.covered
    rw [total_append]
    omega

theorem firstCounts_iff {queue : List PackageSkuItem} :
    FirstCounts queue ↔ LongestPrefix size 0 [] queue := by
  rw [LongestPrefix.nil_iff size_nonneg]
  unfold FirstCounts size
  simp

theorem assignsWell_iff_balanced (hfree : (s.skuStocks sku).free = 0) :
    AssignsWell s sku target ↔
      InTurn size 0 [] (asked s sku target) ∧ FirstCounts (waiting s sku) := by
  have hrun : (assign sku (s.skuStocks sku) target true).run s = (.ok (), s) :=
    assign_balanced hfree
  constructor
  · rintro ⟨served, queue, t, hrun', hserved, hqueue, haside, -, -⟩
    rw [hrun] at hrun'
    obtain ⟨-, rfl⟩ := Prod.mk.inj hrun'
    have hin : ∀ psi, psi ∈ served ++ queue → Unassigned s psi := by
      intro psi hpsi
      rcases List.mem_append.mp hpsi with hpsi | hpsi
      · exact unassigned_asked (hserved.sublist.subset hpsi)
      · exact unassigned_waitingBut (hqueue.isPrefix.subset hpsi)
    have hnone : served ++ queue = [] := by
      rw [List.eq_nil_iff_forall_not_mem]
      exact fun psi hpsi => List.not_mem_nil
        (mem_of_setAside haside (SetAside.none s) hin (by simp) hpsi)
    obtain ⟨rfl, rfl⟩ := List.append_eq_nil_iff.mp hnone
    rw [hfree] at hserved hqueue
    rw [waitingBut_nil, total_nil, sub_zero] at hqueue
    exact ⟨hserved, firstCounts_iff.mpr hqueue⟩
  · rintro ⟨hserved, hqueue⟩
    refine ⟨[], [], s, hrun, ?_, ?_, SetAside.none s, ?_, ?_⟩
    · rw [hfree]
      exact hserved
    · rw [hfree, total_nil, sub_zero, waitingBut_nil]
      exact firstCounts_iff.mp hqueue
    · rw [hfree]
      exact le_refl 0
    · exact fun _ => (add_zero _).symm

theorem asked_psi_cases (s : WarehouseDb) (sku psiId : Nat) :
    asked s sku (.psi psiId) = [] ∨ ∃ psi, asked s sku (.psi psiId) = [psi] := by
  have hcases : ∀ found : Option PackageSkuItem,
      found.toList = [] ∨ ∃ psi, found.toList = [psi] := by
    intro found
    cases found with
    | none => exact .inl rfl
    | some psi => exact .inr ⟨psi, rfl⟩
  exact hcases _

theorem firstRound_of_mem {psi : PackageSkuItem} {psiId : Nat}
    (hpsi : psi ∈ asked s sku (.psi psiId)) (hfits : size psi ≤ (s.skuStocks sku).free) :
    firstRound s sku (.psi psiId) = [psi] := by
  rcases asked_psi_cases s sku psiId with hnone | ⟨b, hone⟩
  · rw [hnone] at hpsi
    exact absurd hpsi List.not_mem_nil
  · rw [hone, List.mem_singleton] at hpsi
    unfold firstRound
    rw [hone, ← hpsi]
    exact if_pos hfits

theorem firstRound_psi_cases (s : WarehouseDb) (sku psiId : Nat) :
    firstRound s sku (.psi psiId) = [] ∨ ∃ psi ∈ asked s sku (.psi psiId),
      size psi ≤ (s.skuStocks sku).free ∧ firstRound s sku (.psi psiId) = [psi] := by
  rcases asked_psi_cases s sku psiId with hnone | ⟨psi, hone⟩
  · left
    unfold firstRound
    rw [hnone]
    rfl
  · have hpsi : psi ∈ asked s sku (.psi psiId) := hone ▸ List.mem_singleton_self psi
    by_cases hfits : size psi ≤ (s.skuStocks sku).free
    · exact .inr ⟨psi, hpsi, hfits, firstRound_of_mem hpsi hfits⟩
    · left
      unfold firstRound
      rw [hone]
      exact if_neg hfits

theorem secondRound_of_left {served : List PackageSkuItem} (htarget : ∀ id, target ≠ .psi id)
    (hle : total size served ≤ (s.skuStocks sku).free) :
    LongestPrefix size ((s.skuStocks sku).free - total size served)
        (secondRound s sku served target) (waitingBut s sku served) ↔
      (total size served = (s.skuStocks sku).free → FirstCounts (waitingBut s sku served)) := by
  have hround : secondRound s sku served target =
      if (s.skuStocks sku).free - total size served = 0 then []
      else fittingFirst ((s.skuStocks sku).free - total size served)
        (waitingBut s sku served) := by
    cases target with
    | psi id => exact absurd rfl (htarget id)
    | orderlist key => rfl
    | all => rfl
  rw [hround]
  split
  · next hnone =>
    rw [hnone, ← firstCounts_iff]
    exact ⟨fun h _ => h, fun h => h (by omega)⟩
  · next hsome =>
    have hlongest := fittingFirst_longest (sub_nonneg.mpr hle) (waitingBut s sku served)
    exact ⟨fun _ heq => absurd (by omega) hsome, fun _ => hlongest⟩

theorem secondRound_of_psi {served : List PackageSkuItem} {psiId : Nat}
    (hfree : 0 < (s.skuStocks sku).free) :
    LongestPrefix size ((s.skuStocks sku).free - total size served)
        (secondRound s sku served (.psi psiId)) (waitingBut s sku served) ↔
      ∀ queue, queue <+: waitingBut s sku served →
        total size queue ≤ (s.skuStocks sku).free →
          total size queue ≤ (s.skuStocks sku).free - total size served := by
  have hlongest := fittingFirst_longest hfree.le (waitingBut s sku served)
  constructor
  · intro h queue hqueue hle
    exact (total_le_of_isPrefix size_nonneg (hlongest.longest queue hqueue hle)).trans h.covered
  · intro h
    have hnonneg := total_nonneg size_nonneg served
    exact hlongest.of_le (by omega) (h _ hlongest.isPrefix hlongest.covered)

theorem inTurn_nil_iff {psis : List PackageSkuItem} :
    InTurn size 0 [] psis ↔ ∀ psi ∈ psis, psi.num ≠ 0 := by
  rw [InTurn.nil_iff size_nonneg]
  unfold size
  simp

/-- First come, first served, but for what a single item took. -/
theorem assign_first_come (s : WarehouseDb) (sku : Nat) (target : Target)
    (h : 0 ≤ (s.skuStocks sku).free) : AssignsWell s sku target ↔ InTime s sku target := by
  have hturn := firstRound_inTurn s sku target
  have hle := hturn.total_le h (asked_nodup s sku target)
  rcases h.eq_or_lt with hfree | hfree
  · rw [assignsWell_iff_balanced hfree.symm, inTurn_nil_iff]
    cases target with
    | all => exact ⟨fun hwell _ => hwell.2, fun htime => ⟨by simp [asked], htime hfree.symm⟩⟩
    | orderlist key =>
        constructor
        · rintro ⟨hasked, hqueue⟩
          refine ⟨fun _ => hasked, fun served hserved _ => ?_⟩
          rw [← hfree] at hserved
          rw [hserved.unique (inTurn_nil_iff.mpr hasked)
            (asked_nodup s sku (.orderlist key)), waitingBut_nil]
          exact hqueue
        · rintro ⟨hasked, hqueue⟩
          have hnone := inTurn_nil_iff.mpr (hasked hfree.symm)
          rw [← hfree] at hqueue
          exact ⟨hasked hfree.symm, waitingBut_nil s sku ▸ hqueue [] hnone rfl⟩
    | psi psiId =>
        exact ⟨fun hwell => ⟨fun _ => hwell, fun hpos => absurd hfree hpos.ne⟩,
          fun htime => htime.1 hfree.symm⟩
  · rw [assignsWell_iff_secondRound hfree]
    cases target with
    | all =>
        rw [secondRound_of_left (by simp) hle]
        exact ⟨fun _ hzero => absurd hzero hfree.ne', fun _ heq => absurd heq.symm hfree.ne'⟩
    | orderlist key =>
        rw [secondRound_of_left (by simp) hle]
        constructor
        · intro hleft
          refine ⟨fun hzero => absurd hzero hfree.ne', fun served hserved => ?_⟩
          rw [hserved.unique hturn (asked_nodup s sku (.orderlist key))]
          exact hleft
        · exact fun htime => htime.2 _ hturn
    | psi psiId =>
        rw [secondRound_of_psi hfree]
        constructor
        · intro hleft
          refine ⟨fun hzero => absurd hzero hfree.ne', fun _ psi hpsi hfits => ?_⟩
          rw [firstRound_of_mem hpsi hfits, total_cons, total_nil, add_zero] at hleft
          exact hleft
        · rintro ⟨-, htime⟩ queue hqueue hcovered
          rcases firstRound_psi_cases s sku psiId with hnone | ⟨psi, hpsi, hfits, hone⟩
          · rw [hnone, total_nil, sub_zero]
            exact hcovered
          · rw [hone, total_cons, total_nil, add_zero]
            exact htime hfree psi hpsi hfits queue (hone ▸ hqueue) hcovered

end Served

def waitingItem (id num payTime : Nat) : PackageSkuItem :=
  ⟨id, 1, num, .normal, .paid, .notAssigned, none, none, payTime, 1, false⟩

def oneFree : WarehouseDb where
  packageSkuItems := (Table.empty.insert (waitingItem 0 1 20170101000000)).insert
    (waitingItem 0 1 20170101000001)
  skuStocks := fun _ column => if column = .inboundQuantity then 1 else 0
  totals := fun _ => ⟨0, 1, 0, 0⟩
  suppliers := fun _ => none
  purchaseOrders := Table.empty
  purchaseDetails := Table.empty
  purchaseArrangements := Table.empty
  shipments := []

theorem assign_first_come_sample : AssignsWell oneFree 1 .all :=
  (assign_first_come oneFree 1 .all (by decide)).mpr fun hfree => absurd hfree (by decide)

theorem assign_first_come_fails :
    0 ≤ (oneFree.skuStocks 1).free ∧ ¬ AssignsWell oneFree 1 (.psi 2) := by
  refine ⟨by decide, fun hwell => ?_⟩
  have hround := (assignsWell_iff_secondRound (by decide)).mp hwell
  exact absurd hround.covered (by decide)

end ShopManager.Warehouse.SkuStock
