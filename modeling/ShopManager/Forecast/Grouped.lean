import Mathlib.Algebra.BigOperators.Fin
import Mathlib.Data.Finset.Sort
import ShopManager.Forecast.Model
import ShopManager.Library.Search

/-!
# Groups of order lists

Order lists that share a forecast or an arrival are in one group, and so are those that are
linked over others.  The group of some lists is found by a search, and its key is kept on each of
them where the column has room for it.
-/

namespace ShopManager.Forecast

open Library Library.Tx Library.Text Library.Search Relation

variable {s t : ForecastDb} {column : CharColumn 128} {ids found group : List Nat} {a b : Nat}

/-! ## What a group is -/

def SharesInbound (s : ForecastDb) (a b : Nat) : Prop :=
  (∃ f ∈ s.forecasts, f.status ≠ .canceled ∧ a ∈ f.relateOrderSet ∧ b ∈ f.relateOrderSet) ∨
    ∃ r ∈ s.realInbounds, (r.status = .staging ∨ r.status = .completed) ∧
      a ∈ r.relateOrderSet ∧ b ∈ r.relateOrderSet

def Connected (s : ForecastDb) (ids : List Nat) (b : Nat) : Prop :=
  ∃ a ∈ ids, ReflTransGen (SharesInbound s) a b

structure Keyed (s t : ForecastDb) (starts group : List Nat) (key : String) : Prop where
  ascending : group.Pairwise fun m n => m < n
  mem_iff : ∀ id, id ∈ group ↔ Connected s starts id
  lists_ids : key = "-" ++ join '-' (group.map toString) ++ "-"
  parses : groupKeyIds key = group
  same : ∀ ol ∈ t.orderLists, ol.id ∈ group → ol.orderGroupKey = key
  others : ∀ ol ∈ t.orderLists, ol.id ∉ group → ol ∈ s.orderLists
  ids : t.orderLists.rows.map OrderList.id = s.orderLists.rows.map OrderList.id

def GroupsOrders (column : CharColumn 128) (s : ForecastDb) (ids : List Nat) : Prop :=
  ∃ enough, ∀ depth ≥ enough,
    (∃ found, recursiveAggragateOrders s depth ids [] = some found ∧
      ∀ id, id ∈ found ↔ Connected s ids id) ∧
    ∃ t group key, (taskUpdateOrderGroupKey column depth ids).run s = (.ok (), t) ∧
      Keyed s t ids group key

/-- The ids of the group and the separators around them fit into the column, or there is no list
to keep the key. -/
def KeyFits (s : ForecastDb) (ids : List Nat) : Prop :=
  ∀ group : Finset Nat, (∀ id, id ∈ group ↔ Connected s ids id) →
    (∃ ol ∈ s.orderLists, ol.id ∈ group) → 1 + ∑ id ∈ group, ((toString id).length + 1) ≤ 128

def forecastPass (s : ForecastDb) : Pass Nat where
  rel a b := ∃ f ∈ s.forecasts, f.status ≠ .canceled ∧ a ∈ f.relateOrderSet ∧ b ∈ f.relateOrderSet
  next ids := (getNormalForecastInboundByOrderid s ids).flatMap ForecastInbound.relateOrderSet
  mem_next {ids b} := by
    unfold getNormalForecastInboundByOrderid
    rw [List.mem_flatMap]
    constructor
    · rintro ⟨f, hf, hb⟩
      obtain ⟨hmem, hnormal⟩ := List.mem_filter.mp hf
      obtain ⟨⟨a, ha, hid⟩, hstatus⟩ := of_decide_eq_true hnormal
      exact ⟨a, hid, f, hmem, hstatus, ha, hb⟩
    · rintro ⟨a, hid, f, hmem, hstatus, ha, hb⟩
      exact ⟨f, List.mem_filter.mpr ⟨hmem, decide_eq_true ⟨⟨a, ha, hid⟩, hstatus⟩⟩, hb⟩

def realPass (s : ForecastDb) : Pass Nat where
  rel a b := ∃ r ∈ s.realInbounds, (r.status = .staging ∨ r.status = .completed) ∧
    a ∈ r.relateOrderSet ∧ b ∈ r.relateOrderSet
  next ids := (getNormalRealinboundByOrderid s ids).flatMap RealInbound.relateOrderSet
  mem_next {ids b} := by
    unfold getNormalRealinboundByOrderid
    rw [List.mem_flatMap]
    constructor
    · rintro ⟨r, hr, hb⟩
      obtain ⟨hmem, hnormal⟩ := List.mem_filter.mp hr
      obtain ⟨⟨a, ha, hid⟩, hstatus⟩ := of_decide_eq_true hnormal
      exact ⟨a, hid, r, hmem, hstatus, ha, hb⟩
    · rintro ⟨a, hid, r, hmem, hstatus, ha, hb⟩
      exact ⟨r, List.mem_filter.mpr ⟨hmem, decide_eq_true ⟨⟨a, ha, hid⟩, hstatus⟩⟩, hb⟩

def passes (s : ForecastDb) : List (Pass Nat) := [forecastPass s, realPass s]

theorem linked_passes : Linked (passes s) = SharesInbound s := by
  funext a b
  refine propext ⟨?_, ?_⟩
  · rintro ⟨pass, hpass, hrel⟩
    rcases List.mem_pair.mp hpass with rfl | rfl
    · exact Or.inl hrel
    · exact Or.inr hrel
  · rintro (hrel | hrel)
    · exact ⟨forecastPass s, List.mem_pair.mpr (Or.inl rfl), hrel⟩
    · exact ⟨realPass s, List.mem_pair.mpr (Or.inr rfl), hrel⟩

theorem unorderIds_eq : ∀ ids aggregateSet, unorderIds ids aggregateSet = fresh ids aggregateSet := by
  intro ids
  induction ids with
  | nil => exact fun _ => rfl
  | cons id ids ih =>
    intro aggregateSet
    unfold unorderIds fresh
    rw [ih, ih]

theorem recursiveAggragateOrders_eq (s : ForecastDb) : ∀ depth orderIds aggregateSet,
    recursiveAggragateOrders s depth orderIds aggregateSet =
      search (passes s) depth orderIds aggregateSet := by
  intro depth
  induction depth with
  | zero => exact fun _ _ => rfl
  | succ depth ih =>
    intro orderIds aggregateSet
    unfold recursiveAggragateOrders search
    simp only [unorderIds_eq, ih]
    congr 1
    unfold passes
    simp only [List.foldlM_cons, List.foldlM_nil, bind_pure]
    rfl

def relatedIds (s : ForecastDb) : List Nat :=
  s.forecasts.rows.flatMap ForecastInbound.relateOrderSet ++
    s.realInbounds.rows.flatMap RealInbound.relateOrderSet

theorem next_subset : ∀ pass ∈ passes s, ∀ ids, pass.next ids ⊆ relatedIds s := by
  intro pass hpass ids id hid
  rcases List.mem_pair.mp hpass with rfl | rfl
  · obtain ⟨f, hf, hrelated⟩ := List.mem_flatMap.mp hid
    exact List.mem_append_left _ (List.mem_flatMap.mpr ⟨f, List.mem_of_mem_filter hf, hrelated⟩)
  · obtain ⟨r, hr, hrelated⟩ := List.mem_flatMap.mp hid
    exact List.mem_append_right _ (List.mem_flatMap.mpr ⟨r, List.mem_of_mem_filter hr, hrelated⟩)

theorem aggregate_finds (s : ForecastDb) (ids : List Nat) : ∃ enough, ∀ depth ≥ enough, ∃ found,
    recursiveAggragateOrders s depth ids [] = some found ∧ found.Nodup ∧
      ∀ id, id ∈ found ↔ Connected s ids id := by
  refine ⟨(unknown (relatedIds s) ids []).card + 1, fun depth hdepth => ?_⟩
  obtain ⟨found, hfound⟩ := Option.isSome_iff_exists.mp
    (search_isSome next_subset ids [] (Nat.lt_of_succ_le hdepth))
  have hsearched := searched_of_search hfound
  refine ⟨found, ?_, hsearched.nodup List.nodup_nil, fun id => ?_⟩
  · rw [recursiveAggragateOrders_eq, hfound]
  · rw [hsearched.mem_iff, linked_passes]
    rfl

theorem groupKeyIds_key (group : List Nat) :
    groupKeyIds ("-" ++ join '-' (group.map toString) ++ "-") = group := by
  have hsplit : split '-' ("-" ++ join '-' (group.map toString) ++ "-") =
      [""] ++ (split '-' (join '-' (group.map toString)) ++ [""]) := by
    have hinner := split_append '-' (join '-' (group.map toString)) ""
    have houter := split_append '-' "" (join '-' (group.map toString) ++ String.singleton '-' ++ "")
    rw [hinner] at houter
    have htext : "-" ++ join '-' (group.map toString) ++ "-" = "" ++ String.singleton '-' ++
        (join '-' (group.map toString) ++ String.singleton '-' ++ "") := by
      rw [← String.toList_inj]
      simp only [String.toList_append, String.toList_singleton]
      simp
    rw [htext, houter]
    rfl
  unfold groupKeyIds
  rw [hsplit, numbers_append, numbers_append]
  have hblank : numbers [""] = [] := rfl
  rw [hblank, List.nil_append, List.append_nil]
  cases group with
  | nil => rfl
  | cons id group =>
    rw [split_join, numbers_toString]
    · intro part hpart
      obtain ⟨n, -, rfl⟩ := List.mem_map.mp hpart
      exact Key.free_toString (by decide) n
    · exact List.cons_ne_nil _ _

theorem length_key {group : List Nat} (h : group ≠ []) :
    ("-" ++ join '-' (group.map toString) ++ "-").length =
      1 + (group.map fun id => (toString id).length + 1).sum := by
  have hjoin := length_join '-' (group.map toString) fun h' => h (List.map_eq_nil_iff.mp h')
  rw [List.map_map] at hjoin
  change _ = (group.map fun id => (toString id).length + 1).sum at hjoin
  rw [String.length_append, String.length_append, ← hjoin]
  change 1 + _ + 1 = 1 + _
  omega

theorem sorted_ids (hnodup : found.Nodup) :
    (found.insertionSort fun m n => m ≤ n).Pairwise fun m n => m < n := by
  have hsorted : (found.insertionSort fun m n => m ≤ n).Pairwise fun m n => m ≤ n :=
    List.pairwise_insertionSort _ _
  have hperm : (found.insertionSort fun m n => m ≤ n).Nodup :=
    (List.perm_insertionSort _ _).nodup_iff.mpr hnodup
  exact (hsorted.and hperm).imp fun h => lt_of_le_of_ne h.1 h.2

theorem genPurchaseOrderGroupKey_eq (found : List Nat) :
    genPurchaseOrderGroupKey found =
      "-" ++ join '-' ((found.insertionSort fun m n => m ≤ n).map toString) ++ "-" := rfl

def keyLists (s : ForecastDb) (found : List Nat) (key : String) : ForecastDb :=
  { s with orderLists := s.orderLists.update (fun ol => ol.id ∈ found) fun ol =>
      { ol with orderGroupKey := key } }

theorem taskUpdateOrderGroupKey_run (column : CharColumn 128) {depth : Nat}
    (hfound : recursiveAggragateOrders s depth ids [] = some found) :
    (taskUpdateOrderGroupKey column depth ids).run s =
      if s.orderLists.rows.any fun ol => ol.id ∈ found then
        match column.store (genPurchaseOrderGroupKey found) with
        | some key => (.ok (), keyLists s found key)
        | none => (.error (.exception "DataError"), s)
      else (.ok (), s) := by
  unfold taskUpdateOrderGroupKey
  simp only [getOr_bind_run, hfound, gets_bind_run]
  by_cases hany : (s.orderLists.rows.any fun ol => ol.id ∈ found) = true
  · rw [if_pos hany, if_pos hany]
    simp only [getOr_bind_run]
    cases column.store (genPurchaseOrderGroupKey found) with
    | none => rfl
    | some key => rfl
  · rw [if_neg hany, if_neg hany]
    rfl

theorem mem_keyLists {ol : OrderList} {key : String} :
    ol ∈ (keyLists s found key).orderLists ↔
      (∃ ol' ∈ s.orderLists, ol'.id ∈ found ∧ ol = { ol' with orderGroupKey := key }) ∨
        (ol ∈ s.orderLists ∧ ol.id ∉ found) := by
  unfold keyLists
  rw [Table.mem_update]
  simp only [decide_eq_true_eq, decide_eq_false_iff_not]
  rfl

theorem keyed_keyLists (hnodup : found.Nodup) (hfound : ∀ id, id ∈ found ↔ Connected s ids id) :
    Keyed s (keyLists s found (genPurchaseOrderGroupKey found)) ids
      (found.insertionSort fun m n => m ≤ n) (genPurchaseOrderGroupKey found) where
  ascending := sorted_ids hnodup
  mem_iff id := by rw [List.mem_insertionSort, hfound]
  lists_ids := rfl
  parses := groupKeyIds_key _
  same := by
    intro ol hol hid
    rw [List.mem_insertionSort] at hid
    rcases mem_keyLists.mp hol with ⟨ol', -, -, rfl⟩ | ⟨-, hnot⟩
    · rfl
    · exact absurd hid hnot
  others := by
    intro ol hol hid
    rw [List.mem_insertionSort] at hid
    rcases mem_keyLists.mp hol with ⟨ol', -, hin, rfl⟩ | ⟨hmem, -⟩
    · exact absurd hin hid
    · exact hmem
  ids := Table.map_rows_update fun _ _ _ => rfl

theorem keyed_unlisted (hnodup : found.Nodup) (hfound : ∀ id, id ∈ found ↔ Connected s ids id)
    (hnone : ∀ ol ∈ s.orderLists, ol.id ∉ found) :
    Keyed s s ids (found.insertionSort fun m n => m ≤ n) (genPurchaseOrderGroupKey found) where
  ascending := sorted_ids hnodup
  mem_iff id := by rw [List.mem_insertionSort, hfound]
  lists_ids := rfl
  parses := groupKeyIds_key _
  same ol hol hid := absurd ((List.mem_insertionSort _).mp hid) (hnone ol hol)
  others _ hol _ := hol
  ids := rfl

theorem GroupsOrders.keyFits (h : GroupsOrders column s ids) : KeyFits s ids := by
  rintro members hmembers ⟨ol, hol, hin⟩
  obtain ⟨enough, hall⟩ := h
  obtain ⟨⟨found, hfound, hconnected⟩, t, group, key, hrun, hkeyed⟩ := hall enough le_rfl
  have hgroup : group.toFinset = members := by
    ext id
    rw [List.mem_toFinset, hkeyed.mem_iff, hmembers]
  have hnodup : group.Nodup := hkeyed.ascending.imp fun hlt => hlt.ne
  have hmem : ol.id ∈ group := by rwa [← List.mem_toFinset, hgroup]
  have hlisted : ol.id ∈ found := (hconnected ol.id).mpr ((hkeyed.mem_iff ol.id).mp hmem)
  rw [taskUpdateOrderGroupKey_run column hfound,
    if_pos (List.any_eq_true.mpr ⟨ol, hol, decide_eq_true hlisted⟩)] at hrun
  cases hstore : column.store (genPurchaseOrderGroupKey found) with
  | none =>
    rw [hstore] at hrun
    exact nomatch hrun
  | some stored =>
    rw [hstore] at hrun
    obtain rfl := (Prod.mk.inj hrun).2
    have hkey : stored = key := by
      have hsame := hkeyed.same { ol with orderGroupKey := stored }
        (mem_keyLists.mpr (Or.inl ⟨ol, hol, hlisted, rfl⟩)) hmem
      exact hsame
    have hlen := column.bounded _ _ hstore
    rw [hkey, hkeyed.lists_ids, length_key (List.ne_nil_of_mem hmem)] at hlen
    rw [← hgroup, List.sum_toFinset _ hnodup]
    exact hlen

/-- The order lists are grouped by their components exactly where the key of the group fits. -/
theorem groups_orders_iff (column : CharColumn 128) (s : ForecastDb) (ids : List Nat) :
    GroupsOrders column s ids ↔ KeyFits s ids := by
  refine ⟨GroupsOrders.keyFits, fun hfits => ?_⟩
  obtain ⟨enough, hall⟩ := aggregate_finds s ids
  refine ⟨enough, fun depth hdepth => ?_⟩
  obtain ⟨found, hfound, hnodup, hconnected⟩ := hall depth hdepth
  refine ⟨⟨found, hfound, hconnected⟩, ?_⟩
  have hrun := taskUpdateOrderGroupKey_run column hfound
  by_cases hany : (s.orderLists.rows.any fun ol => ol.id ∈ found) = true
  · obtain ⟨ol, hol, hin⟩ := List.any_eq_true.mp hany
    have hin : ol.id ∈ found := of_decide_eq_true hin
    have hlen := hfits found.toFinset
      (fun id => by rw [List.mem_toFinset, hconnected]) ⟨ol, hol, List.mem_toFinset.mpr hin⟩
    rw [List.sum_toFinset _ hnodup] at hlen
    have hsorted : ((found.insertionSort fun m n => m ≤ n).map fun id =>
        (toString id).length + 1).sum = (found.map fun id => (toString id).length + 1).sum :=
      ((List.perm_insertionSort _ _).map _).sum_eq
    have hnil : (found.insertionSort fun m n => m ≤ n) ≠ [] :=
      List.ne_nil_of_mem ((List.mem_insertionSort _).mpr hin)
    have hstore := column.keeps (genPurchaseOrderGroupKey found) (by
      rw [genPurchaseOrderGroupKey_eq, length_key hnil, hsorted]
      exact hlen)
    rw [if_pos hany, hstore] at hrun
    exact ⟨_, _, _, hrun, keyed_keyLists hnodup hconnected⟩
  · rw [if_neg hany] at hrun
    refine ⟨_, _, _, hrun, keyed_unlisted hnodup hconnected fun ol hol hin => hany ?_⟩
    exact List.any_eq_true.mpr ⟨ol, hol, decide_eq_true hin⟩

def cuttingColumn : CharColumn 128 where
  store text := some (String.ofList (text.toList.take 128))
  keeps text h := by
    rw [← String.length_toList] at h
    rw [List.take_of_length_le h, String.ofList_toList]
  bounded text kept h := by
    rw [← Option.some.inj h, String.length_ofList]
    exact List.length_take_le _ _

def fiftyListsDb : ForecastDb where
  forecasts := Table.empty.insert
    ⟨0, "frd160801", none, List.range' 1 50, 0, "", "", none, "", .draft⟩
  details := Table.empty
  realInbounds := Table.empty
  realDetails := Table.empty
  orderLists := (List.range 50).foldl (fun lists _ => lists.insert ⟨0, ""⟩) Table.empty
  suppliers := Table.empty

theorem connected_fifty (id : Nat) : id ∈ Finset.Icc 1 50 ↔ Connected fiftyListsDb [1] id := by
  rw [Finset.mem_Icc]
  constructor
  · intro hid
    refine ⟨1, List.mem_singleton_self 1, .single (Or.inl ⟨fiftyListsDb.forecasts.rows.head
      (List.cons_ne_nil _ _), List.mem_cons_self .., ForecastStatus.noConfusion, ?_, ?_⟩)⟩
    · exact List.mem_range'_1.mpr (by omega)
    · exact List.mem_range'_1.mpr (by omega)
  · rintro ⟨a, ha, hreach⟩
    induction hreach with
    | refl =>
      rw [List.mem_singleton.mp ha]
      omega
    | tail _ hlink ih =>
      rcases hlink with ⟨f, hf, -, -, hb⟩ | ⟨r, hr, -⟩
      · obtain rfl := List.mem_singleton.mp hf
        have := List.mem_range'_1.mp hb
        omega
      · exact nomatch hr

theorem groups_orders_fails : ¬ GroupsOrders cuttingColumn fiftyListsDb [1] := by
  intro h
  have hlen := h.keyFits (Finset.Icc 1 50) connected_fifty (by decide +kernel)
  exact absurd hlen (by decide +kernel)

end ShopManager.Forecast
