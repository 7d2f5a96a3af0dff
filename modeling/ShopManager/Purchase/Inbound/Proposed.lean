import ShopManager.Library.Rationing
import ShopManager.Purchase.Inbound.Model

/-!
# The proposed allocation

What came in is proposed to the order lists that wait for it.  The proposal counts a SKU by the
last of its details, and the allocation of a SKU that has two of them fails.
-/

namespace ShopManager.Purchase.Inbound

open Library Library.Tx Library.Rationing

variable {μ : Type}

/-! ## What a proposal should be -/

def Candidate (s : InboundDb μ) (inbound : InBound) (od : OrderDetail) : Prop :=
  od ∈ s.orderDetails ∧ ∃ ol ∈ s.orderLists, od.orderlist = some ol.id ∧
    ol.supplierId = inbound.supplierId ∧ ol.stage = .receive

def detailsOf (s : InboundDb μ) (inbound sku : Nat) : List InBoundDetail :=
  (InBound.details s inbound).filter fun d => d.sku = some sku

def arrived (s : InboundDb μ) (inbound sku : Nat) : Int :=
  ((detailsOf s inbound sku).map fun d => d.arrivalQuantity + d.inferiorQuantity).sum

def pieces (dict : List (Nat × Int)) (od : Nat) : Int :=
  ((dict.find? fun entry => entry.1 = od).map Prod.snd).getD 0

def Before (own : Option Nat) (ol ol' : Option Nat) : Prop :=
  ol' ≠ own ∧ (ol = own ∨ ∃ n n', ol = some n ∧ ol' = some n' ∧ n < n')

structure Proposal (s : InboundDb μ) (inbound : InBound) (dict : List (Nat × Int)) : Prop where
  nodup : (dict.map Prod.fst).Nodup
  between : ∀ entry ∈ dict, ∃ od, Candidate s inbound od ∧ od.id = entry.1 ∧ 1 ≤ entry.2 ∧
    entry.2 ≤ od.needArrivalQuantity
  bounded : ∀ sku, InBound.requestAllSku s dict sku ≤ max (arrived s inbound.id sku) 0
  maximal : ∀ sku, InBound.requestAllSku s dict sku < arrived s inbound.id sku →
    ∀ od, Candidate s inbound od → od.chichuId = sku → pieces dict od.id = od.needArrivalQuantity
  inTurn : ∀ od od', Candidate s inbound od → Candidate s inbound od' →
    od.chichuId = od'.chichuId → Before inbound.oriOrderlistId od.orderlist od'.orderlist →
      0 < pieces dict od'.id → pieces dict od.id = od.needArrivalQuantity

structure Created (s : InboundDb μ) (inbound : Nat) (entry : Nat × Int) (r : Record) : Prop where
  orderdetail : r.orderdetail = entry.1
  arrivalQuantity : r.arrivalQuantity = entry.2
  inferiorQuantity : r.inferiorQuantity = 0
  detail : ∃ d ∈ InBound.details s inbound, d.id = r.inbounddetail ∧
    ∃ od ∈ s.orderDetails, od.id = entry.1 ∧ d.sku = some od.chichuId

def AllocatesExactly (around : Surroundings μ) (s : InboundDb μ) (inbound : InBound)
    (dict : List (Nat × Int)) : Prop :=
  ∀ data, data.Perm dict → ∃ t new,
    (InBound.allocate around (some data) inbound).run s = (.ok (), t) ∧
      t.records.rows = s.records.rows ++ new ∧ List.Forall₂ (Created s inbound.id) data new

def ProposesWell (around : Surroundings μ) (s : InboundDb μ) (inbound : InBound) : Prop :=
  ∃ dict, (InBound.getOptimizedAllocateDict inbound).run s = (.ok dict, s) ∧
    Proposal s inbound dict ∧ AllocatesExactly around s inbound dict

structure Proposable (s : InboundDb μ) (inbound : InBound) : Prop where
  own : inbound.oriOrderlistId.isSome = true
  single : ∀ od, Candidate s inbound od → 0 < od.needArrivalQuantity →
    (detailsOf s inbound.id od.chichuId).length ≤ 1 ∨
      ((InBound.skuData s inbound.id od.chichuId).getD 0 ≤ 0 ∧
        arrived s inbound.id od.chichuId ≤ 0)

/-! ## The order of the lists -/

theorem mem_mayAllocate {s : InboundDb μ} {inbound : InBound} {n : Nat} :
    n ∈ InBound.getMayAllocateOrderListIds s inbound ↔
      ∃ od ∈ s.orderDetails, od.orderlist = some n ∧
        some od.chichuId ∈ (InBound.details s inbound.id).map InBoundDetail.sku ∧
          Candidate s inbound od := by
  unfold InBound.getMayAllocateOrderListIds Candidate
  rw [List.mem_dedup, List.mem_filterMap]
  constructor
  · rintro ⟨od, hod, hlist⟩
    obtain ⟨hmem, hboth⟩ := List.mem_filter.mp hod
    obtain ⟨hsku, hreceives⟩ := of_decide_eq_true hboth
    rw [hlist, Option.bind_some, Option.any_eq_true] at hreceives
    obtain ⟨ol, hget, hol⟩ := hreceives
    obtain ⟨hol', hid⟩ := Table.get?_eq_some.mp hget
    refine ⟨od, hmem, hlist, hsku, hmem, ol, hol', ?_, of_decide_eq_true hol⟩
    exact hlist.trans (congrArg some hid.symm)
  · rintro ⟨od, hmem, hlist, hsku, -, ol, hol, hlist', hreceives⟩
    refine ⟨od, List.mem_filter.mpr ⟨hmem, decide_eq_true ⟨hsku, ?_⟩⟩, hlist⟩
    rw [hlist', Option.bind_some, Option.any_eq_true]
    exact ⟨ol, Table.get?_eq_some.mpr ⟨hol, rfl⟩, decide_eq_true hreceives⟩

theorem mayAllocate_receives {s : InboundDb μ} {inbound : InBound} {ol : OrderList}
    (hol : ol ∈ s.orderLists) (h : ol.id ∈ InBound.getMayAllocateOrderListIds s inbound) :
    ol.supplierId = inbound.supplierId ∧ ol.stage = .receive := by
  obtain ⟨od, -, hlist, -, -, ol', hol', hlist', hreceives⟩ := mem_mayAllocate.mp h
  have hid : ol'.id = ol.id := Option.some.inj (hlist'.symm.trans hlist)
  rw [Table.pk_inj hol' hol hid] at hreceives
  exact hreceives

variable {od : OrderDetail}

section Lists

variable {s : InboundDb μ} {inbound : InBound} {own : Nat}

def sortedLists (s : InboundDb μ) (inbound : InBound) : List OrderList :=
  (s.orderLists.filter fun ol => ol.id ∈ InBound.getMayAllocateOrderListIds s inbound).insertionSort
    fun ol ol' => ol.id ≤ ol'.id

theorem mem_sortedLists {ol : OrderList} :
    ol ∈ sortedLists s inbound ↔
      ol ∈ s.orderLists ∧ ol.id ∈ InBound.getMayAllocateOrderListIds s inbound := by
  unfold sortedLists
  rw [List.mem_insertionSort]
  exact List.mem_filter.trans (and_congr_right fun _ => decide_eq_true_iff)

theorem sortedLists_pairwise (s : InboundDb μ) (inbound : InBound) :
    (sortedLists s inbound).Pairwise fun ol ol' => ol.id ≤ ol'.id ∧ ol.id ≠ ol'.id := by
  have hsorted : (sortedLists s inbound).Pairwise fun ol ol' => ol.id ≤ ol'.id :=
    List.pairwise_insertionSort _ _
  refine hsorted.and ?_
  have hnodup : ((sortedLists s inbound).map OrderList.id).Nodup :=
    ((List.perm_insertionSort _ _).map OrderList.id).nodup_iff.mpr (Table.nodup_pk_filter _ _)
  exact List.pairwise_map.mp hnodup

def servedLists (s : InboundDb μ) (inbound : InBound) (own : Nat) : List OrderList :=
  InBound.allocateLists s own (InBound.getMayAllocateOrderListIds s inbound)

theorem servedLists_cases (s : InboundDb μ) (inbound : InBound) (own : Nat) :
    (∃ first ∈ sortedLists s inbound, first.id = own ∧ servedLists s inbound own =
      first :: (sortedLists s inbound).filter fun ol => ol.id ≠ first.id) ∨
    (servedLists s inbound own = sortedLists s inbound ∧
      ∀ ol ∈ sortedLists s inbound, ol.id ≠ own) := by
  unfold servedLists InBound.allocateLists
  cases hfirst : (s.orderLists.get? own).filter fun ol => ol.stage ≠ .draft ∧
      ol.id ∈ InBound.getMayAllocateOrderListIds s inbound with
  | some first =>
    obtain ⟨hget, hmay⟩ := Option.filter_eq_some_iff.mp hfirst
    obtain ⟨hmem, hid⟩ := Table.get?_eq_some.mp hget
    exact Or.inl ⟨first, mem_sortedLists.mpr ⟨hmem, (of_decide_eq_true hmay).2⟩, hid, rfl⟩
  | none =>
    refine Or.inr ⟨rfl, ?_⟩
    rintro ol hol rfl
    obtain ⟨hmem, hmay⟩ := mem_sortedLists.mp hol
    have hget : s.orderLists.get? ol.id = some ol := Table.get?_eq_some.mpr ⟨hmem, rfl⟩
    have hreceive := (mayAllocate_receives hmem hmay).2
    rw [hget, Option.filter_eq_none_iff] at hfirst
    refine hfirst ol rfl (decide_eq_true ⟨?_, hmay⟩)
    rw [hreceive]
    exact OrderListStage.noConfusion

theorem mem_servedLists {ol : OrderList} :
    ol ∈ servedLists s inbound own ↔ ol ∈ sortedLists s inbound := by
  rcases servedLists_cases s inbound own with
    ⟨first, hfirst, -, heq⟩ | ⟨heq, -⟩
  · rw [heq, List.mem_cons, List.mem_filter]
    constructor
    · rintro (rfl | ⟨h, -⟩)
      · exact hfirst
      · exact h
    · intro h
      by_cases hid : ol.id = first.id
      · exact Or.inl (Table.pk_inj (mem_sortedLists.mp h).1 (mem_sortedLists.mp hfirst).1 hid)
      · exact Or.inr ⟨h, decide_eq_true hid⟩
  · rw [heq]

theorem servedLists_pairwise (s : InboundDb μ) (inbound : InBound) (own : Nat) :
    (servedLists s inbound own).Pairwise fun ol ol' =>
      ol.id ≠ ol'.id ∧ ¬ Before (some own) (some ol'.id) (some ol.id) := by
  have hsorted := sortedLists_pairwise s inbound
  rcases servedLists_cases s inbound own with
    ⟨first, -, hid, heq⟩ | ⟨heq, hother⟩
  · rw [heq, List.pairwise_cons]
    constructor
    · intro ol hol
      have hne : ol.id ≠ first.id := of_decide_eq_true (List.mem_filter.mp hol).2
      refine ⟨hne.symm, fun hbefore => hbefore.1 ?_⟩
      rw [hid]
    · refine (hsorted.filter _).imp_of_mem fun {ol ol'} _ hol' ⟨hle, hne⟩ => ⟨hne, ?_⟩
      rintro ⟨-, howner | ⟨n, n', hn, hn', hlt⟩⟩
      · have hnot : ol'.id ≠ first.id := of_decide_eq_true (List.mem_filter.mp hol').2
        exact hnot ((Option.some.inj howner).trans hid.symm)
      · cases hn
        cases hn'
        exact absurd hle (not_le.mpr hlt)
  · rw [heq]
    refine hsorted.imp_of_mem fun {ol ol'} _ hol' ⟨hle, hne⟩ => ⟨hne, ?_⟩
    rintro ⟨-, howner | ⟨n, n', hn, hn', hlt⟩⟩
    · exact hother ol' hol' (Option.some.inj howner)
    · cases hn
      cases hn'
      exact absurd hle (not_le.mpr hlt)

def servedDetails (s : InboundDb μ) (inbound : InBound) (own : Nat) : List OrderDetail :=
  InBound.allocateCandidates s inbound.id (servedLists s inbound own)

theorem mem_servedDetails :
    od ∈ servedDetails s inbound own ↔ Candidate s inbound od ∧
      some od.chichuId ∈ (InBound.details s inbound.id).map InBoundDetail.sku := by
  unfold servedDetails InBound.allocateCandidates OrderList.orderList
  rw [List.mem_flatMap]
  constructor
  · rintro ⟨ol, hol, hod⟩
    obtain ⟨hod, hsku⟩ := List.mem_filter.mp hod
    obtain ⟨hmem, hlist⟩ := List.mem_filter.mp hod
    obtain ⟨hol, hmay⟩ := mem_sortedLists.mp (mem_servedLists.mp hol)
    exact ⟨⟨hmem, ol, hol, of_decide_eq_true hlist, mayAllocate_receives hol hmay⟩,
      of_decide_eq_true hsku⟩
  · rintro ⟨hcandidate, hsku⟩
    obtain ⟨hmem, ol, hol, hlist, -⟩ := id hcandidate
    refine ⟨ol, mem_servedLists.mpr (mem_sortedLists.mpr ⟨hol, ?_⟩), ?_⟩
    · exact mem_mayAllocate.mpr ⟨od, hmem, hlist, hsku, hcandidate⟩
    · exact List.mem_filter.mpr
        ⟨List.mem_filter.mpr ⟨hmem, decide_eq_true hlist⟩, decide_eq_true hsku⟩

theorem servedDetails_pairwise (s : InboundDb μ) (inbound : InBound) (own : Nat) :
    (servedDetails s inbound own).Pairwise fun od od' =>
      od.id ≠ od'.id ∧ ¬ Before (some own) od'.orderlist od.orderlist := by
  have hlist : ∀ {ol : OrderList} {od : OrderDetail},
      od ∈ (OrderList.orderList s ol.id).filter (fun od =>
        some od.chichuId ∈ (InBound.details s inbound.id).map InBoundDetail.sku) →
        od ∈ s.orderDetails ∧ od.orderlist = some ol.id := by
    intro ol od hod
    obtain ⟨hmem, hlist⟩ := List.mem_filter.mp (List.mem_filter.mp hod).1
    exact ⟨hmem, of_decide_eq_true hlist⟩
  unfold servedDetails InBound.allocateCandidates
  rw [List.pairwise_flatMap]
  constructor
  · intro ol _
    have hnodup : (((OrderList.orderList s ol.id).filter fun od =>
        some od.chichuId ∈ (InBound.details s inbound.id).map InBoundDetail.sku).map
          OrderDetail.id).Nodup :=
      (Table.nodup_pk_filter _ _).sublist ((List.filter_sublist).map OrderDetail.id)
    refine (List.pairwise_map.mp hnodup).imp_of_mem fun {od od'} hod hod' hne => ⟨hne, ?_⟩
    rw [(hlist hod).2, (hlist hod').2]
    rintro ⟨hother, hown | ⟨n, n', hn, hn', hlt⟩⟩
    · exact hother hown
    · cases hn
      cases hn'
      exact absurd hlt (lt_irrefl _)
  · refine (servedLists_pairwise s inbound own).imp fun {ol ol'} ⟨hne, hbefore⟩ od hod od' hod' => ⟨?_, ?_⟩
    · intro hid
      have hsame := Table.pk_inj (hlist hod).1 (hlist hod').1 hid
      have heq := (hlist hod).2.symm.trans ((congrArg OrderDetail.orderlist hsame).trans (hlist hod').2)
      exact hne (Option.some.inj heq)
    · rw [(hlist hod).2, (hlist hod').2]
      exact hbefore

end Lists

theorem pairwise_either {α : Type} {R : α → α → Prop} {l : List α} (h : l.Pairwise R) {a b : α}
    (ha : a ∈ l) (hb : b ∈ l) (hne : a ≠ b) : R a b ∨ R b a := by
  have := List.Pairwise.forall_of_forall_of_flip (R := fun a b => a ≠ b → R a b ∨ R b a) (l := l)
    (fun a _ h => absurd rfl h) (h.imp fun h _ => Or.inl h) (h.imp fun h _ => Or.inr h)
  exact this ha hb hne

/-! ## The proposal -/

section Dict

variable {s : InboundDb μ} {inbound : InBound} {own : Nat}

def supply (s : InboundDb μ) (inbound sku : Nat) : Int := (InBound.skuData s inbound sku).getD 0

def shares (s : InboundDb μ) (inbound : InBound) (own : Nat) : List (OrderDetail × Int) :=
  served OrderDetail.chichuId OrderDetail.needArrivalQuantity (servedDetails s inbound own)
    (supply s inbound.id)

def dictOf (shares : List (OrderDetail × Int)) : List (Nat × Int) :=
  (shares.filter fun share => 0 < share.2).map fun share => (share.1.id, share.2)

theorem need_nonneg (od : OrderDetail) : 0 ≤ od.needArrivalQuantity := le_max_right _ _

theorem allocateDetails_eq : ∀ (ods : List OrderDetail) (left : Nat → Int),
    InBound.allocateDetails ods left =
      dictOf (served OrderDetail.chichuId OrderDetail.needArrivalQuantity ods left) := by
  intro ods
  induction ods with
  | nil => exact fun _ => rfl
  | cons od ods ih =>
    intro left
    unfold InBound.allocateDetails
    rw [served_cons]
    unfold dictOf
    by_cases hgets : od.needArrivalQuantity > 0 ∧ left od.chichuId > 0
    · have hpos : 0 < portion od.needArrivalQuantity (left od.chichuId) :=
        portion_pos_iff.mpr hgets
      have hmin : portion od.needArrivalQuantity (left od.chichuId) =
          min od.needArrivalQuantity (left od.chichuId) :=
        max_eq_right (le_min hgets.1.le hgets.2.le)
      rw [if_pos hgets, List.filter_cons, if_pos (decide_eq_true hpos), List.map_cons]
      dsimp only
      rw [ih]
      unfold leftover dictOf
      rw [hmin]
    · have hzero : portion od.needArrivalQuantity (left od.chichuId) = 0 := by
        refine le_antisymm (not_lt.mp fun hpos => hgets ?_) (portion_nonneg _ _)
        exact portion_pos_iff.mp hpos
      have hleft : leftover OrderDetail.chichuId OrderDetail.needArrivalQuantity od left = left := by
        unfold leftover
        rw [hzero, sub_zero, Function.update_eq_self]
      rw [if_neg hgets, hleft, List.filter_cons_of_neg, ih]
      · rfl
      · rw [hzero]
        exact Bool.false_ne_true

theorem getOptimizedAllocateDict_run (h : inbound.oriOrderlistId = some own) :
    (InBound.getOptimizedAllocateDict inbound).run s = (.ok (dictOf (shares s inbound own)), s) := by
  unfold InBound.getOptimizedAllocateDict InBound.oriOrderlist
  simp only [gets_bind_run, getOr_bind_run, h, gets_run, allocateDetails_eq]
  rfl

theorem map_fst_shares : (shares s inbound own).map Prod.fst = servedDetails s inbound own :=
  map_fst_served _ _

theorem mem_shares {n : Int} (h : (od, n) ∈ shares s inbound own) :
    od ∈ servedDetails s inbound own := by
  rw [← map_fst_shares]
  exact List.mem_map_of_mem (f := Prod.fst) h

theorem exists_share (h : od ∈ servedDetails s inbound own) :
    ∃ n, (od, n) ∈ shares s inbound own := by
  rw [← map_fst_shares] at h
  obtain ⟨⟨od', n⟩, hshare, rfl⟩ := List.mem_map.mp h
  exact ⟨n, hshare⟩

theorem nodup_shares : ((shares s inbound own).map fun share => share.1.id).Nodup := by
  have hnodup : ((servedDetails s inbound own).map OrderDetail.id).Nodup :=
    List.pairwise_map.mpr ((servedDetails_pairwise s inbound own).imp fun h => h.1)
  rw [← map_fst_shares, List.map_map] at hnodup
  exact hnodup

theorem nodup_dict : ((dictOf (shares s inbound own)).map Prod.fst).Nodup := by
  unfold dictOf
  rw [List.map_map]
  exact nodup_shares.sublist (List.filter_sublist.map _)

theorem mem_dictOf {entry : Nat × Int} {shares : List (OrderDetail × Int)} :
    entry ∈ dictOf shares ↔ ∃ od, (od, entry.2) ∈ shares ∧ 0 < entry.2 ∧ od.id = entry.1 := by
  unfold dictOf
  rw [List.mem_map]
  constructor
  · rintro ⟨⟨od, n⟩, hshare, rfl⟩
    obtain ⟨hmem, hpos⟩ := List.mem_filter.mp hshare
    exact ⟨od, hmem, of_decide_eq_true hpos, rfl⟩
  · rintro ⟨od, hmem, hpos, hid⟩
    exact ⟨(od, entry.2), List.mem_filter.mpr ⟨hmem, decide_eq_true hpos⟩, Prod.ext hid rfl⟩

theorem pieces_of_mem {dict : List (Nat × Int)} (hnodup : (dict.map Prod.fst).Nodup) {od : Nat}
    {n : Int} (h : (od, n) ∈ dict) : pieces dict od = n := by
  unfold pieces
  cases hfind : dict.find? fun entry => entry.1 = od with
  | none => exact absurd (decide_eq_true rfl) (List.find?_eq_none.mp hfind _ h)
  | some entry =>
    have hspec := List.find?_some hfind
    have hid : entry.1 = od := of_decide_eq_true hspec
    have hsame := List.inj_on_of_nodup_map hnodup (List.mem_of_find?_eq_some hfind) h hid
    rw [hsame]
    rfl

theorem pieces_of_not_mem {dict : List (Nat × Int)} {od : Nat} (h : ∀ entry ∈ dict, entry.1 ≠ od) :
    pieces dict od = 0 := by
  unfold pieces
  rw [List.find?_eq_none.mpr fun entry hentry => by simpa using h entry hentry]
  rfl

theorem pieces_share {n : Int} (h : (od, n) ∈ shares s inbound own) :
    pieces (dictOf (shares s inbound own)) od.id = n := by
  have hnonneg : 0 ≤ n := (served_between need_nonneg h).1
  rcases hnonneg.lt_or_eq with hpos | rfl
  · exact pieces_of_mem nodup_dict (mem_dictOf.mpr ⟨od, h, hpos, rfl⟩)
  · refine pieces_of_not_mem fun entry hentry hid => ?_
    obtain ⟨od', hshare, hpos, hid'⟩ := mem_dictOf.mp hentry
    have hsame := List.inj_on_of_nodup_map nodup_shares hshare h (hid'.trans hid)
    exact absurd (congrArg Prod.snd hsame) hpos.ne'

theorem pieces_unserved (hod : od ∈ s.orderDetails) (h : od ∉ servedDetails s inbound own) :
    pieces (dictOf (shares s inbound own)) od.id = 0 := by
  refine pieces_of_not_mem fun entry hentry hid => h ?_
  obtain ⟨od', hshare, -, hid'⟩ := mem_dictOf.mp hentry
  have hserved := mem_shares hshare
  have hmem := (mem_servedDetails.mp hserved).1.1
  rw [Table.pk_inj hod hmem (hid.symm.trans hid'.symm)]
  exact hserved

theorem requestAllSku_perm {data dict : List (Nat × Int)} (h : data.Perm dict) (sku : Nat) :
    InBound.requestAllSku s data sku = InBound.requestAllSku s dict sku :=
  ((h.filter _).map Prod.snd).sum_eq

theorem requestAllSku_dictOf : ∀ {shares : List (OrderDetail × Int)},
    (∀ share ∈ shares, share.1 ∈ s.orderDetails ∧ 0 ≤ share.2) → ∀ sku,
      InBound.requestAllSku s (dictOf shares) sku = given OrderDetail.chichuId sku shares := by
  intro shares
  induction shares with
  | nil => exact fun _ _ => rfl
  | cons share shares ih =>
    intro h sku
    obtain ⟨⟨hmem, hnonneg⟩, hshares⟩ := List.forall_mem_cons.mp h
    obtain ⟨od, n⟩ := share
    rw [given_cons, ← ih hshares sku]
    unfold InBound.requestAllSku dictOf
    rcases hnonneg.lt_or_eq with hpos | hzero
    · have hget : s.orderDetails.get? od.id = some od := Table.get?_eq_some.mpr ⟨hmem, rfl⟩
      rw [List.filter_cons, if_pos (decide_eq_true hpos), List.map_cons, List.filter_cons]
      simp only [hget, Option.any_some, decide_eq_true_eq]
      by_cases hsku : od.chichuId = sku
      · rw [if_pos hsku, if_pos hsku, List.map_cons, List.sum_cons]
      · rw [if_neg hsku, if_neg hsku, zero_add]
    · obtain rfl : n = 0 := hzero.symm
      rw [List.filter_cons_of_neg (by simp), ite_self, zero_add]

theorem requestAllSku_eq (sku : Nat) :
    InBound.requestAllSku s (dictOf (shares s inbound own)) sku =
      given OrderDetail.chichuId sku (shares s inbound own) := by
  refine requestAllSku_dictOf ?_ sku
  rintro ⟨od, n⟩ hshare
  exact ⟨(mem_servedDetails.mp (mem_shares hshare)).1.1, (served_between need_nonneg hshare).1⟩

theorem given_nonneg (sku : Nat) : 0 ≤ given OrderDetail.chichuId sku (shares s inbound own) := by
  refine List.sum_nonneg fun m hm => ?_
  obtain ⟨⟨od, n⟩, hshare, rfl⟩ := List.mem_map.mp hm
  exact (served_between need_nonneg (List.mem_of_mem_filter hshare)).1

theorem shares_given_le (inbound : InBound) (own sku : Nat) :
    given OrderDetail.chichuId sku (shares s inbound own) ≤ max (supply s inbound.id sku) 0 :=
  given_le _ _ _

theorem given_pos {sku : Nat} (h : 0 < given OrderDetail.chichuId sku (shares s inbound own)) :
    ∃ od n, (od, n) ∈ shares s inbound own ∧ od.chichuId = sku ∧ 0 < n := by
  by_contra hnone
  refine h.ne' (List.sum_eq_zero fun m hm => ?_)
  obtain ⟨⟨od, n⟩, hshare, rfl⟩ := List.mem_map.mp hm
  obtain ⟨hmem, hsku⟩ := List.mem_filter.mp hshare
  refine le_antisymm (not_lt.mp fun hpos => ?_) (served_between need_nonneg hmem).1
  exact hnone ⟨od, n, hmem, of_decide_eq_true hsku, hpos⟩

theorem arrived_single {sku : Nat} (h : (detailsOf s inbound.id sku).length ≤ 1) :
    arrived s inbound.id sku = supply s inbound.id sku := by
  unfold arrived supply InBound.skuData
  change _ = (((detailsOf s inbound.id sku).getLast?).map _).getD 0
  match hlist : detailsOf s inbound.id sku with
  | [] => rfl
  | [d] => exact add_zero _
  | _ :: _ :: _ =>
    rw [hlist] at h
    exact absurd h (by simp)

theorem Proposable.single_of_pos (h : Proposable s inbound) {n : Int}
    (hshare : (od, n) ∈ shares s inbound own) (hpos : 0 < n) :
    (detailsOf s inbound.id od.chichuId).length ≤ 1 := by
  have hneed := hpos.trans_le (served_between need_nonneg hshare).2
  have hleft : 0 < supply s inbound.id od.chichuId := left_pos hshare hpos
  refine (h.single od (mem_servedDetails.mp (mem_shares hshare)).1 hneed).resolve_right ?_
  exact fun hnone => absurd hnone.1 (not_le.mpr hleft)

theorem Proposable.proposal (h : Proposable s inbound) (hown : inbound.oriOrderlistId = some own) :
    Proposal s inbound (dictOf (shares s inbound own)) where
  nodup := nodup_dict
  between := by
    intro entry hentry
    obtain ⟨od, hshare, hpos, hid⟩ := mem_dictOf.mp hentry
    exact ⟨od, (mem_servedDetails.mp (mem_shares hshare)).1, hid, hpos,
      (served_between need_nonneg hshare).2⟩
  bounded := by
    intro sku
    rw [requestAllSku_eq]
    rcases (given_nonneg sku).lt_or_eq with hpos | hzero
    · obtain ⟨od, n, hshare, rfl, hn⟩ := given_pos hpos
      rw [arrived_single (h.single_of_pos hshare hn)]
      exact shares_given_le inbound own od.chichuId
    · rw [← hzero]
      exact le_max_right _ _
  maximal := by
    rintro sku hover od hcandidate rfl
    rw [requestAllSku_eq] at hover
    have harrived := (given_nonneg _).trans_lt hover
    by_cases hserved : od ∈ servedDetails s inbound own
    · obtain ⟨n, hshare⟩ := exists_share hserved
      rw [pieces_share hshare]
      obtain ⟨hnonneg, hle⟩ := served_between need_nonneg hshare
      rcases (need_nonneg od).lt_or_eq with hneed | hzero
      · rcases h.single od hcandidate hneed with hsingle | ⟨-, hnone⟩
        · rw [arrived_single hsingle] at hover
          exact served_all need_nonneg hover hshare rfl
        · exact absurd harrived (not_lt.mpr hnone)
      · rw [← hzero] at hle ⊢
        exact le_antisymm hle hnonneg
    · -- a SKU that is not in the inbound has nothing left over
      have hnot : detailsOf s inbound.id od.chichuId = [] := by
        refine List.filter_eq_nil_iff.mpr fun d hd hsku => hserved ?_
        rw [mem_servedDetails, ← of_decide_eq_true hsku]
        exact ⟨hcandidate, List.mem_map_of_mem hd⟩
      unfold arrived at harrived
      rw [hnot] at harrived
      exact absurd harrived (lt_irrefl 0)
  inTurn := by
    intro od od' hcandidate hcandidate' hsku hbefore hpos
    have hserved' : od' ∈ servedDetails s inbound own := by
      by_contra hnot
      rw [pieces_unserved hcandidate'.1 hnot] at hpos
      exact lt_irrefl 0 hpos
    have hserved : od ∈ servedDetails s inbound own := by
      rw [mem_servedDetails, hsku]
      exact ⟨hcandidate, (mem_servedDetails.mp hserved').2⟩
    obtain ⟨n, hshare⟩ := exists_share hserved
    obtain ⟨n', hshare'⟩ := exists_share hserved'
    rw [pieces_share hshare'] at hpos
    rw [pieces_share hshare]
    have hne : (od, n) ≠ (od', n') := by
      intro heq
      obtain ⟨rfl, -⟩ := Prod.mk.inj heq
      obtain ⟨hnot, howner | ⟨m, m', hm, hm', hlt⟩⟩ := hbefore
      · exact hnot howner
      · rw [hm] at hm'
        exact hlt.ne (Option.some.inj hm')
    -- either the first comes first, or the lists are in the wrong order
    have horder : (shares s inbound own).Pairwise fun x y =>
        ¬ Before inbound.oriOrderlistId y.1.orderlist x.1.orderlist := by
      have hpairwise := servedDetails_pairwise s inbound own
      rw [← map_fst_shares, List.pairwise_map] at hpairwise
      rw [hown]
      exact hpairwise.imp fun h => h.2
    have hturn : (shares s inbound own).Pairwise fun x y =>
        x.1.chichuId = y.1.chichuId → 0 < y.2 → x.2 = x.1.needArrivalQuantity :=
      served_in_turn need_nonneg _ _
    rcases pairwise_either (horder.and hturn) hshare hshare' hne with ⟨-, hall⟩ | ⟨hwrong, -⟩
    · exact hall hsku hpos
    · exact absurd hbefore hwrong

end Dict

/-! ## The allocation of the proposal -/

section Records

variable {s : InboundDb μ} {inbound : Nat}

def Fits (s : InboundDb μ) (inbound : Nat) (entry : Nat × Int) : Prop :=
  ∃ od d, s.orderDetails.get? entry.1 = some od ∧ detailsOf s inbound od.chichuId = [d]

def recordOf (now : Nat) (entry : Nat × Int) (od : OrderDetail) (d : InBoundDetail) : Record where
  id := 0
  orderdetail := od.id
  inbounddetail := d.id
  arrivalQuantity := entry.2
  inferiorQuantity := 0
  created := now

theorem detailOf_eq_ok {sku : Nat} {d : InBoundDetail} {t : InboundDb μ} :
    (InBound.detailOf inbound sku).run s = (.ok d, t) ↔ detailsOf s inbound sku = [d] ∧ t = s := by
  unfold InBound.detailOf detailsOf
  rw [gets_bind_run]
  generalize ((InBound.details s inbound).filter fun d => d.sku = some sku) = rows
  rcases rows with _ | ⟨d', _ | ⟨d'', rest⟩⟩
  · constructor
    · intro h
      cases h
    · rintro ⟨h, -⟩
      cases h
  · rw [pure_eq_ok]
    constructor
    · rintro ⟨rfl, rfl⟩
      exact ⟨rfl, rfl⟩
    · rintro ⟨h, rfl⟩
      exact ⟨(List.cons.inj h).1, rfl⟩
  · constructor
    · intro h
      cases h
    · rintro ⟨h, -⟩
      cases h

theorem createRecord_eq_ok (now : Nat) {entry : Nat × Int} {t : InboundDb μ} :
    (InBound.createRecord now inbound entry).run s = (.ok (), t) ↔
      ∃ od d, s.orderDetails.get? entry.1 = some od ∧ detailsOf s inbound od.chichuId = [d] ∧
        t = { s with records := s.records.insert (recordOf now entry od d) } := by
  unfold InBound.createRecord
  constructor
  · intro h
    obtain ⟨od, t₁, hget, hcreate⟩ := bind_eq_ok.mp h
    obtain ⟨hod, rfl⟩ := getOr_eq_ok.mp hget
    obtain ⟨d, t₂, hdetail, hinsert⟩ := bind_eq_ok.mp hcreate
    obtain ⟨hd, rfl⟩ := detailOf_eq_ok.mp hdetail
    rw [modify_run] at hinsert
    exact ⟨od, d, hod, hd, (Prod.mk.inj hinsert).2.symm⟩
  · rintro ⟨od, d, hod, hd, rfl⟩
    simp only [getOr_bind_run, hod]
    rw [bind_ok (detailOf_eq_ok.mpr ⟨hd, rfl⟩), modify_run]
    rfl

theorem created_recordOf {now : Nat} {entry : Nat × Int} {d : InBoundDetail} {n : Nat}
    (hod : s.orderDetails.get? entry.1 = some od) (hd : detailsOf s inbound od.chichuId = [d]) :
    Created s inbound entry (Row.withPk n (recordOf now entry od d)) where
  orderdetail := (Table.get?_eq_some.mp hod).2
  arrivalQuantity := rfl
  inferiorQuantity := rfl
  detail := by
    have hmem : d ∈ detailsOf s inbound od.chichuId := by
      rw [hd]
      exact List.mem_singleton_self d
    obtain ⟨hdetail, hsku⟩ := List.mem_filter.mp hmem
    obtain ⟨hod, hid⟩ := Table.get?_eq_some.mp hod
    exact ⟨d, hdetail, rfl, od, hod, hid, of_decide_eq_true hsku⟩

theorem createRecords_run (now : Nat) : ∀ {data : List (Nat × Int)} {t : InboundDb μ},
    t.orderDetails = s.orderDetails → t.details = s.details →
      (∀ entry ∈ data, Fits s inbound entry) → ∃ t' new,
        (forEach data (InBound.createRecord now inbound)).run t = (.ok (), t') ∧
          t'.records.rows = t.records.rows ++ new ∧ List.Forall₂ (Created s inbound) data new := by
  intro data
  induction data with
  | nil => exact fun {t} _ _ _ => ⟨t, [], rfl, (List.append_nil _).symm, List.Forall₂.nil⟩
  | cons entry data ih =>
    intro t hods hdetails hfits
    obtain ⟨⟨od, d, hod, hd⟩, hrest⟩ := List.forall_mem_cons.mp hfits
    have hget : t.orderDetails.get? entry.1 = some od := by rw [hods, hod]
    have hdetail : detailsOf t inbound od.chichuId = [d] := by
      rw [← hd]
      unfold detailsOf InBound.details
      rw [hdetails]
    have hcreate := (createRecord_eq_ok now).mpr ⟨od, d, hget, hdetail, rfl⟩
    obtain ⟨t', new, hrun, hrows, hnew⟩ := ih
      (t := { t with records := t.records.insert (recordOf now entry od d) }) hods hdetails hrest
    refine ⟨t', t.records.stored (recordOf now entry od d) :: new, ?_, ?_,
      List.Forall₂.cons (created_recordOf hod hd) hnew⟩
    · rw [forEach_cons, bind_ok hcreate, hrun]
    · rw [hrows]
      exact List.append_assoc _ [t.records.stored (recordOf now entry od d)] new

theorem createRecords_fit {now : Nat} : ∀ {data : List (Nat × Int)} {t t' : InboundDb μ},
    t.orderDetails = s.orderDetails → t.details = s.details →
      (forEach data (InBound.createRecord now inbound)).run t = (.ok (), t') →
        ∀ entry ∈ data, Fits s inbound entry := by
  intro data
  induction data with
  | nil => exact fun _ _ _ => List.forall_mem_nil _
  | cons entry data ih =>
    intro t t' hods hdetails h
    rw [forEach_cons] at h
    obtain ⟨⟨⟩, t₁, hcreate, hrest⟩ := bind_eq_ok.mp h
    obtain ⟨od, d, hod, hd, rfl⟩ := (createRecord_eq_ok now).mp hcreate
    rw [hods] at hod
    have hdetail : detailsOf s inbound od.chichuId = [d] := by
      rw [← hd]
      unfold detailsOf InBound.details
      rw [hdetails]
    have hall := ih (t := { t with records := t.records.insert (recordOf now entry od d) })
      hods hdetails hrest
    exact List.forall_mem_cons.mpr ⟨⟨od, d, hod, hdetail⟩, hall⟩

end Records

section Allocate

variable {around : Surroundings μ} {s t : InboundDb μ} {inbound : InBound} {own : Nat}
  {data : List (Nat × Int)}

theorem Fits.get {entry : Nat × Int} (h : Fits s inbound.id entry) :
    ∃ od, s.orderDetails.get? entry.1 = some od := by
  obtain ⟨od, -, hod, -⟩ := h
  exact ⟨od, hod⟩

theorem lookups_run (hfits : ∀ entry ∈ data, Fits s inbound.id entry) :
    (forEach data fun entry => do
      let _ ← getOr .doesNotExist fun s => s.orderDetails.get? entry.1
      : InboundTx μ Unit).run s = (.ok (), s) := by
  induction data with
  | nil => rfl
  | cons entry data ih =>
    obtain ⟨hfit, hrest⟩ := List.forall_mem_cons.mp hfits
    obtain ⟨od, hod⟩ := hfit.get
    have hlook : (do
        let _ ← getOr .doesNotExist fun s => s.orderDetails.get? entry.1
        : InboundTx μ Unit).run s = (.ok (), s) := by
      simp only [getOr_bind_run, hod]
      rfl
    rw [forEach_cons, bind_ok hlook, ih hrest]

theorem totals_run {skus : List Nat}
    (htotals : ∀ sku ∈ skus, ∃ total, InBound.skuData s inbound.id sku = some total ∧
      InBound.requestAllSku s data sku ≤ total) :
    (forEach skus fun sku => do
      let total ← getOr InBound.keyError fun s => InBound.skuData s inbound.id sku
      let requested ← gets fun s => InBound.requestAllSku s data sku
      raiseIf (requested > total) (.exception "分配数不能超出总数")
      : InboundTx μ Unit).run s = (.ok (), s) := by
  induction skus with
  | nil => rfl
  | cons sku skus ih =>
    obtain ⟨⟨total, htotal, hle⟩, hrest⟩ := List.forall_mem_cons.mp htotals
    have hcheck : (do
        let total ← getOr InBound.keyError fun s => InBound.skuData s inbound.id sku
        let requested ← gets fun s => InBound.requestAllSku s data sku
        raiseIf (requested > total) (.exception "分配数不能超出总数")
        : InboundTx μ Unit).run s = (.ok (), s) := by
      simp only [getOr_bind_run, htotal, gets_bind_run]
      rw [raiseIf_run, if_neg (not_lt.mpr hle)]
    rw [forEach_cons, bind_ok hcheck, ih hrest]

theorem allocate_run (hfits : ∀ entry ∈ data, Fits s inbound.id entry)
    (htotals : ∀ sku ∈ InBound.skusOf s data, ∃ total,
      InBound.skuData s inbound.id sku = some total ∧ InBound.requestAllSku s data sku ≤ total) :
    ∃ t new, (InBound.allocate around (some data) inbound).run s = (.ok (), t) ∧
      t.records.rows = s.records.rows ++ new ∧
        List.Forall₂ (Created s inbound.id) data new := by
  obtain ⟨t, new, hrun, hrows, hnew⟩ :=
    createRecords_run around.now (t := s) rfl rfl hfits
  refine ⟨{ t with
    inbounds := t.inbounds.save (InBound.setStat t { inbound with status := .waitCheck }) }, new,
    ?_, hrows, hnew⟩
  unfold InBound.allocate
  rw [gets_bind_run, pure_bind_run, bind_ok (lookups_run hfits), gets_bind_run,
    bind_ok (totals_run htotals), bind_ok hrun]
  exact modify_run _ _

theorem allocate_fits (h : (InBound.allocate around (some data) inbound).run s = (.ok (), t)) :
    ∀ entry ∈ data, Fits s inbound.id entry := by
  unfold InBound.allocate at h
  rw [gets_bind_run, pure_bind_run] at h
  obtain ⟨⟨⟩, t₁, hlook, hrest⟩ := bind_eq_ok.mp h
  have hsame : t₁ = s := by
    refine forEach_ok (J := fun s' => s' = s) ?_ rfl hlook
    rintro entry - s₁ s₂ rfl hbody
    obtain ⟨od, s₃, hget, hpure⟩ := bind_eq_ok.mp hbody
    obtain ⟨-, rfl⟩ := getOr_eq_ok.mp hget
    exact (pure_eq_ok.mp hpure).2.symm
  subst hsame
  rw [gets_bind_run] at hrest
  obtain ⟨⟨⟩, t₂, hcheck, hcreate⟩ := bind_eq_ok.mp hrest
  have hsame : t₂ = t₁ := by
    refine forEach_ok (J := fun s' => s' = t₁) ?_ rfl hcheck
    rintro sku - s₁ s₂ rfl hbody
    obtain ⟨total, s₃, hget, hraise⟩ := bind_eq_ok.mp hbody
    obtain ⟨-, rfl⟩ := getOr_eq_ok.mp hget
    rw [gets_bind_run] at hraise
    exact (raiseIf_eq_ok.mp hraise).2.symm
  subst hsame
  obtain ⟨⟨⟩, t₃, hrecords, -⟩ := bind_eq_ok.mp hcreate
  exact createRecords_fit rfl rfl hrecords

theorem exists_given (hserved : od ∈ servedDetails s inbound own)
    (hneed : 0 < od.needArrivalQuantity) (hsupply : 0 < supply s inbound.id od.chichuId) :
    ∃ od' n, (od', n) ∈ shares s inbound own ∧ od'.chichuId = od.chichuId ∧ 0 < n := by
  obtain ⟨n, hshare⟩ := exists_share hserved
  rcases lt_or_ge (given OrderDetail.chichuId od.chichuId (shares s inbound own))
    (supply s inbound.id od.chichuId) with hover | hall
  · refine ⟨od, n, hshare, rfl, ?_⟩
    rw [served_all need_nonneg hover hshare rfl]
    exact hneed
  · exact given_pos (hsupply.trans_le hall)

theorem Proposable.fits (h : Proposable s inbound) :
    ∀ entry ∈ dictOf (shares s inbound own), Fits s inbound.id entry := by
  intro entry hentry
  obtain ⟨od, hshare, hpos, hid⟩ := mem_dictOf.mp hentry
  obtain ⟨⟨hmem, -⟩, hsku⟩ := mem_servedDetails.mp (mem_shares hshare)
  obtain ⟨d, hd, hdsku⟩ := List.mem_map.mp hsku
  have hdetail : d ∈ detailsOf s inbound.id od.chichuId :=
    List.mem_filter.mpr ⟨hd, decide_eq_true hdsku⟩
  have hlen : (detailsOf s inbound.id od.chichuId).length = 1 :=
    le_antisymm (h.single_of_pos hshare hpos) (List.length_pos_of_mem hdetail)
  obtain ⟨d', hd'⟩ := List.length_eq_one_iff.mp hlen
  exact ⟨od, d', Table.get?_eq_some.mpr ⟨hmem, hid⟩, hd'⟩

theorem Proposable.allocates (h : Proposable s inbound) :
    AllocatesExactly around s inbound (dictOf (shares s inbound own)) := by
  intro data hdata
  have hfits : ∀ entry ∈ data, Fits s inbound.id entry := fun entry hentry =>
    h.fits entry (hdata.mem_iff.mp hentry)
  refine allocate_run hfits ?_
  intro sku hsku
  obtain ⟨entry, hentry, hmap⟩ := List.mem_filterMap.mp (List.mem_dedup.mp hsku)
  obtain ⟨od, hget, rfl⟩ := Option.map_eq_some_iff.mp hmap
  obtain ⟨od', hshare, hpos, hid⟩ := mem_dictOf.mp (hdata.mem_iff.mp hentry)
  have hserved := mem_servedDetails.mp (mem_shares hshare)
  have hsame : od' = od :=
    Table.pk_inj hserved.1.1 (Table.get?_eq_some.mp hget).1
      (hid.trans (Table.get?_eq_some.mp hget).2.symm)
  subst hsame
  have hleft : 0 < supply s inbound.id od'.chichuId := left_pos hshare hpos
  cases htotal : InBound.skuData s inbound.id od'.chichuId with
  | none =>
    unfold supply at hleft
    rw [htotal] at hleft
    exact absurd hleft (lt_irrefl 0)
  | some total =>
    have hsupply : supply s inbound.id od'.chichuId = total := by
      unfold supply
      rw [htotal]
      rfl
    refine ⟨total, rfl, ?_⟩
    rw [requestAllSku_perm hdata, requestAllSku_eq, ← hsupply]
    have hle := shares_given_le (s := s) inbound own od'.chichuId
    rw [max_eq_left hleft.le] at hle
    exact hle

/-- The proposal of an inbound is as it should be where no SKU that is needed is counted in two
details. -/
theorem proposes_well_iff (around : Surroundings μ) (s : InboundDb μ) (inbound : InBound) :
    ProposesWell around s inbound ↔ Proposable s inbound := by
  cases hown : inbound.oriOrderlistId with
  | none =>
      constructor
      · rintro ⟨dict, hrun, -⟩
        unfold InBound.getOptimizedAllocateDict InBound.oriOrderlist at hrun
        simp only [gets_bind_run, getOr_bind_run, hown] at hrun
        exact nomatch hrun
      · intro h
        have hsome := h.own
        rw [hown] at hsome
        exact nomatch hsome
  | some own =>
      have hrun := getOptimizedAllocateDict_run (s := s) hown
      constructor
      · rintro ⟨dict, hdict, hproposal, hallocates⟩
        rw [hrun] at hdict
        obtain rfl := Except.ok.inj (Prod.mk.inj hdict).1
        obtain ⟨t, new, hallocated, -⟩ := hallocates _ (List.Perm.refl _)
        have hfits := allocate_fits hallocated
        refine ⟨by rw [hown]; rfl, fun od hcandidate hneed => ?_⟩
        by_cases hlen : (detailsOf s inbound.id od.chichuId).length ≤ 1
        · exact Or.inl hlen
        have hserved : od ∈ servedDetails s inbound own := by
          obtain ⟨d, hd⟩ := List.exists_mem_of_length_pos (l := detailsOf s inbound.id od.chichuId)
            (by omega)
          obtain ⟨hdetail, hsku⟩ := List.mem_filter.mp hd
          rw [mem_servedDetails, ← of_decide_eq_true hsku]
          exact ⟨hcandidate, List.mem_map_of_mem hdetail⟩
        -- a share of the SKU would fail in the allocation
        have hsupply : supply s inbound.id od.chichuId ≤ 0 := by
          by_contra hpos
          obtain ⟨od', n, hshare, hsku, hn⟩ := exists_given hserved hneed (not_le.mp hpos)
          obtain ⟨od'', d, hget, hd⟩ :=
            hfits (od'.id, n) (mem_dictOf.mpr ⟨od', hshare, hn, rfl⟩)
          obtain ⟨hmem, hid⟩ := Table.get?_eq_some.mp hget
          rw [Table.pk_inj hmem (mem_servedDetails.mp (mem_shares hshare)).1.1 hid, hsku] at hd
          rw [hd] at hlen
          exact hlen le_rfl
        refine Or.inr ⟨hsupply, not_lt.mp fun harrived => ?_⟩
        -- without a share of it, pieces are left over that are needed
        have hgiven := shares_given_le (s := s) inbound own od.chichuId
        rw [max_eq_right hsupply] at hgiven
        have hover := hproposal.maximal od.chichuId
          (by rw [requestAllSku_eq]; exact hgiven.trans_lt harrived) od hcandidate rfl
        obtain ⟨n, hshare⟩ := exists_share hserved
        rw [pieces_share hshare] at hover
        have hleft : 0 < supply s inbound.id od.chichuId :=
          left_pos hshare (hneed.trans_eq hover.symm)
        exact absurd hleft (not_lt.mpr hsupply)
      · exact fun h => ⟨_, hrun, h.proposal hown, h.allocates⟩

end Allocate

def arrivedDetail : InBoundDetail where
  id := 0
  inbound := 1
  sku := some 1
  arrivalQuantity := 1
  inferiorQuantity := 0
  checked := false
  checkTime := none
  wrong := false
  outStock := false
  status := .problem

/-- Two pieces of a SKU came in, each in a detail of its own, and a list waits for both. -/
def arrivedTwiceDb : InboundDb Unit where
  inbounds := Table.empty.insert ⟨0, some 1, some 1, .pending, false, none, false, false, false⟩
  details := (Table.empty.insert arrivedDetail).insert arrivedDetail
  records := Table.empty
  orderLists := Table.empty.insert ⟨0, some 1, .receive, "待收货", none, false, .arrivalNot, none⟩
  orderDetails := Table.empty.insert ⟨0, some 1, 1, 2, 0, 0, 2, none⟩
  productSkus := Table.empty.insert ⟨0, 0⟩
  skuStocks := Table.empty.insert ⟨0, 1, 0⟩
  mall := ()

def arrivedInbound : InBound := ⟨1, some 1, some 1, .pending, false, none, false, false, false⟩

theorem proposes_well_fails :
    ¬ ProposesWell ⟨5, 0, fun _ => pure (), id, fun _ => List.Perm.refl _⟩ arrivedTwiceDb
      arrivedInbound := by
  rintro ⟨dict, hrun, -, hallocates⟩
  have hdict : ((InBound.getOptimizedAllocateDict arrivedInbound).run arrivedTwiceDb).1 =
      .ok [(1, 1)] := by
    decide +kernel
  rw [hrun] at hdict
  obtain rfl := Except.ok.inj hdict
  obtain ⟨t, new, hallocated, -⟩ := hallocates _ (List.Perm.refl _)
  have hraises : ((InBound.allocate ⟨5, 0, fun _ => pure (), id, fun _ => List.Perm.refl _⟩
      (some [(1, 1)]) arrivedInbound).run arrivedTwiceDb).1 ≠ .ok () := by
    decide +kernel
  rw [hallocated] at hraises
  exact hraises rfl

end ShopManager.Purchase.Inbound
