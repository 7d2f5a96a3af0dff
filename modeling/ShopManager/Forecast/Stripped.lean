import Mathlib.Data.Finset.Max
import ShopManager.Forecast.Model
import ShopManager.Library.Execution

/-!
# Stripped forecasts

Stripping takes what a forecast still misses into a new forecast.  It counts what arrived in
cancelled inbounds too, and the number of the new forecast follows the last one in the order of
texts, in which `-9` comes after `-10`.
-/

namespace ShopManager.Forecast

open Library Library.Tx Library.Text Library.Execution

/-! ## What stripping should do -/

def arrived (s : ForecastDb) (forecast sku : Nat) : Int :=
  ((s.realDetails.filter fun d => d.skuId = sku ∧ d.status = .normal ∧
    (s.realInbounds.get? d.inbound).any (fun r =>
      r.forecastInbound = some forecast ∧ r.status ≠ .canceled) = true).map
        RealInboundDetail.arrivalQuantity).sum

def missing (s : ForecastDb) (forecast : Nat) (d : ForecastInboundDetail) : Int :=
  d.forecastArriveNum - arrived s forecast d.skuId

def shortDetails (s : ForecastDb) (forecast : Nat) : List ForecastInboundDetail :=
  (ForecastInbound.normalDetails s forecast).filter fun d => 0 < missing s forecast d

structure NewForecast (s t : ForecastDb) (forecast : ForecastInbound) (new : Nat) : Prop where
  short : shortDetails s forecast.id ≠ []
  created : ∃ row, t.forecasts.rows = s.forecasts.rows ++ [row] ∧ row.id = new ∧
    row.relateOrderSet = forecast.relateOrderSet ∧
      ∀ f ∈ s.forecasts, f.forecastNo ≠ row.forecastNo
  details : ∃ rows, t.details.rows = s.details.rows ++ rows ∧
    rows.map (fun d => (d.skuId, d.forecastArriveNum)) =
      (shortDetails s forecast.id).map (fun d => (d.skuId, missing s forecast.id d)) ∧
    ∀ d ∈ rows, d.forecastInbound = new ∧ d.status = .normal
  rest : t.realInbounds = s.realInbounds ∧ t.realDetails = s.realDetails ∧
    t.orderLists = s.orderLists ∧ t.suppliers = s.suppliers

def StripsWell (s : ForecastDb) (forecast : ForecastInbound) : Prop :=
  match (stripForecastInbound forecast.id).run s with
  | (.ok none, t) => shortDetails s forecast.id = [] ∧ t = s
  | (.ok (some new), t) => NewForecast s t forecast new.id
  | (.error _, _) => False

def familyOf (forecastNo : String) : String := (split '-' forecastNo).headD ""

/-- The counter behind the first `-` of a number; a number without one counts as nothing. -/
def counter (forecastNo : String) : Nat :=
  match split '-' forecastNo with
  | _ :: n :: _ => if isDigits n = true then number n else 0
  | _ => 0

structure IsLast (s : ForecastDb) (family : String) (last : ForecastInbound) : Prop where
  mem : last ∈ s.forecasts
  begins : family.toList <+: last.forecastNo.toList
  greatest : ∀ f ∈ s.forecasts, family.toList <+: f.forecastNo.toList →
    f.forecastNo ≤ last.forecastNo

/-- Cancelled inbounds make no difference, and the counter after the last one is not in use. -/
structure Strippable (s : ForecastDb) (forecast : ForecastInbound) : Prop where
  counted : ∀ d ∈ ForecastInbound.normalDetails s forecast.id,
    max (d.forecastArriveNum - realArriveNum s forecast.id d.skuId) 0 =
      max (missing s forecast.id d) 0
  free : shortDetails s forecast.id ≠ [] → ∀ last, IsLast s (familyOf forecast.forecastNo) last →
    ∀ f ∈ s.forecasts, f.forecastNo ≠
      familyOf forecast.forecastNo ++ "-" ++ toString (counter last.forecastNo + 1)

structure Consistent (s : ForecastDb) : Prop where
  unique : (s.details.rows.map fun d => (d.skuId, d.forecastInbound)).Nodup
  known : ∀ d ∈ s.details, ∃ f ∈ s.forecasts, f.id = d.forecastInbound

variable {s t : ForecastDb} {forecast last : ForecastInbound}

theorem familyOf_begins (no : String) : (familyOf no).toList <+: no.toList := by
  unfold familyOf split
  have hjoin : ['-'].intercalate (no.toList.splitOn '-') = no.toList := List.intercalate_splitOn '-'
  match hparts : no.toList.splitOn '-' with
  | [] => exact absurd hparts (List.splitOn_ne_nil _ _)
  | [part] =>
    rw [hparts, List.intercalate_singleton] at hjoin
    rw [← hjoin]
    simp
  | part :: part' :: parts =>
    rw [hparts, List.intercalate_cons_cons] at hjoin
    rw [← hjoin]
    simp

def familyNos (s : ForecastDb) (family : String) : List ForecastInbound :=
  (s.forecasts.filter fun f => family.toList <+: f.forecastNo.toList).insertionSort
    fun f g => g.forecastNo ≤ f.forecastNo

variable {family : String}

theorem mem_familyNos {f : ForecastInbound} :
    f ∈ familyNos s family ↔ f ∈ s.forecasts ∧ family.toList <+: f.forecastNo.toList := by
  unfold familyNos
  rw [List.mem_insertionSort]
  exact List.mem_filter.trans (and_congr_right fun _ => decide_eq_true_iff)

theorem head_familyNos (hlast : IsLast s family last) :
    ∃ first, (familyNos s family).head? = some first ∧ first.forecastNo = last.forecastNo := by
  have hmem : last ∈ familyNos s family := mem_familyNos.mpr ⟨hlast.mem, hlast.begins⟩
  have hsorted : (familyNos s family).Pairwise fun f g => g.forecastNo ≤ f.forecastNo :=
    List.pairwise_insertionSort _ _
  match hlist : familyNos s family with
  | [] =>
    rw [hlist] at hmem
    exact absurd hmem List.not_mem_nil
  | first :: rest =>
    obtain ⟨hin, hbegins⟩ := mem_familyNos.mp (hlist ▸ List.mem_cons_self ..)
    rw [hlist] at hmem hsorted
    refine ⟨first, rfl, le_antisymm (hlast.greatest first hin hbegins) ?_⟩
    rcases List.mem_cons.mp hmem with rfl | hrest
    · exact le_rfl
    · exact (List.pairwise_cons.mp hsorted).1 last hrest

theorem genSubforecastInboundNo_eq {no : String} (hlast : IsLast s (familyOf no) last) :
    genSubforecastInboundNo s no = familyOf no ++ "-" ++ toString (counter last.forecastNo + 1) := by
  obtain ⟨first, hhead, hsame⟩ := head_familyNos hlast
  unfold genSubforecastInboundNo counter
  unfold familyNos familyOf at hhead
  unfold familyOf
  have hfirst : ∀ family : String, family ++ "-1" = family ++ "-" ++ toString (0 + 1) := by
    intro family
    rw [String.append_assoc]
    rfl
  rw [← hsame]
  dsimp only
  rw [hhead]
  dsimp only
  match split '-' first.forecastNo with
  | [] => exact hfirst _
  | [_] => exact hfirst _
  | _ :: n :: _ =>
    by_cases hdigits : isDigits n = true
    · simp only [if_pos hdigits]
    · simp only [if_neg hdigits]
      exact hfirst _

theorem exists_isLast (h : forecast ∈ s.forecasts) :
    ∃ last, IsLast s (familyOf forecast.forecastNo) last := by
  have hmem : forecast ∈ familyNos s (familyOf forecast.forecastNo) :=
    mem_familyNos.mpr ⟨h, familyOf_begins _⟩
  obtain ⟨last, hlast, hgreatest⟩ := Finset.exists_max_image _ ForecastInbound.forecastNo
    ⟨forecast, List.mem_toFinset.mpr hmem⟩
  obtain ⟨hin, hbegins⟩ := mem_familyNos.mp (List.mem_toFinset.mp hlast)
  refine ⟨last, hin, hbegins, fun f hf hfamily => ?_⟩
  exact hgreatest f (List.mem_toFinset.mpr (mem_familyNos.mpr ⟨hf, hfamily⟩))

def strippedDetail (dict : List (Nat × Int)) (new : Nat) (detail : ForecastInboundDetail) :
    ForecastInboundDetail where
  id := 0
  forecastInbound := new
  productId := detail.productId
  skuId := detail.skuId
  forecastArriveNum := delta dict detail.skuId
  productName := detail.productName
  productImg := detail.productImg
  status := .normal

theorem create_run {detail : ForecastInboundDetail} :
    (ForecastInboundDetail.create detail).run s =
      if s.details.rows.any fun d =>
          d.skuId = detail.skuId ∧ d.forecastInbound = detail.forecastInbound then
        (.error .integrityError, s)
      else (.ok (), { s with details := s.details.insert detail }) := by
  unfold ForecastInboundDetail.create
  rw [gets_bind_run, raiseIf_bind_run]
  by_cases htaken : (s.details.rows.any fun d =>
      d.skuId = detail.skuId ∧ d.forecastInbound = detail.forecastInbound) = true
  · rw [if_pos htaken, if_pos htaken]
  · rw [if_neg htaken, if_neg htaken, modify_run]

theorem createDetails_run (dict : List (Nat × Int)) (new : Nat) :
    ∀ (details : List ForecastInboundDetail) (t : ForecastDb),
      (details.map ForecastInboundDetail.skuId).Nodup →
      (∀ d ∈ t.details, d.forecastInbound = new → d.skuId ∉ details.map ForecastInboundDetail.skuId) →
      ∃ table rows, (forEach details fun detail =>
          if 0 < delta dict detail.skuId then
            ForecastInboundDetail.create (strippedDetail dict new detail)
          else pure ()).run t = (.ok (), { t with details := table }) ∧
        table.rows = t.details.rows ++ rows ∧
        rows.map (fun d => (d.skuId, d.forecastArriveNum)) =
          (details.filter fun d => 0 < delta dict d.skuId).map
            (fun d => (d.skuId, delta dict d.skuId)) ∧
        ∀ d ∈ rows, d.forecastInbound = new ∧ d.status = .normal := by
  intro details
  induction details with
  | nil => exact fun t _ _ => ⟨t.details, [], rfl, (List.append_nil _).symm, rfl, List.forall_mem_nil _⟩
  | cons detail details ih =>
    intro t hnodup hnew
    rw [List.map_cons, List.nodup_cons] at hnodup
    by_cases hshort : 0 < delta dict detail.skuId
    · have hfree : ¬ (t.details.rows.any fun d => d.skuId = (strippedDetail dict new detail).skuId ∧
          d.forecastInbound = (strippedDetail dict new detail).forecastInbound) = true := by
        intro hany
        obtain ⟨d, hd, hboth⟩ := List.any_eq_true.mp hany
        obtain ⟨hsku, hforecast⟩ := of_decide_eq_true hboth
        refine hnew d hd hforecast ?_
        rw [hsku]
        exact List.mem_cons_self ..
      obtain ⟨table, rows, hrun, hrows, hmap, hall⟩ := ih
        { t with details := t.details.insert (strippedDetail dict new detail) } hnodup.2 (by
          intro d hd hforecast hin
          rcases Table.mem_insert.mp hd with hold | rfl
          · exact hnew d hold hforecast (List.mem_cons_of_mem _ hin)
          · exact hnodup.1 hin)
      refine ⟨table, t.details.stored (strippedDetail dict new detail) :: rows, ?_, ?_, ?_, ?_⟩
      · rw [forEach_cons]
        simp only [if_pos hshort]
        rw [bind_ok (create_run.trans (if_neg hfree)), hrun]
      · rw [hrows]
        exact List.append_assoc _ [t.details.stored (strippedDetail dict new detail)] rows
      · rw [List.map_cons, hmap, List.filter_cons, if_pos (decide_eq_true hshort), List.map_cons]
        rfl
      · exact List.forall_mem_cons.mpr ⟨⟨rfl, rfl⟩, hall⟩
    · obtain ⟨table, rows, hrun, hrows, hmap, hall⟩ := ih t hnodup.2 fun d hd hforecast hin =>
        hnew d hd hforecast (List.mem_cons_of_mem _ hin)
      refine ⟨table, rows, ?_, hrows, ?_, hall⟩
      · rw [forEach_cons]
        simp only [if_neg hshort]
        rw [pure_bind_run, hrun]
      · rw [hmap, List.filter_cons, if_neg (by simpa using hshort)]

/-! ## The run -/

theorem nodup_skus (h : Consistent s) (forecast : Nat) :
    ((ForecastInbound.normalDetails s forecast).map ForecastInboundDetail.skuId).Nodup := by
  have hkeys : ((ForecastInbound.normalDetails s forecast).map fun d =>
      (d.skuId, d.forecastInbound)).Nodup := h.unique.sublist (List.filter_sublist.map _)
  have hpairs : (ForecastInbound.normalDetails s forecast).map (fun d =>
      (d.skuId, d.forecastInbound)) = ((ForecastInbound.normalDetails s forecast).map
        ForecastInboundDetail.skuId).map fun sku => (sku, forecast) := by
    rw [List.map_map]
    refine List.map_congr_left fun d hd => ?_
    have hforecast := (of_decide_eq_true (List.mem_filter.mp hd).2).1
    exact Prod.ext rfl hforecast
  rw [hpairs] at hkeys
  exact List.Nodup.of_map _ hkeys

theorem delta_skuDeltaDict (h : Consistent s) {forecast : Nat} {d : ForecastInboundDetail}
    (hd : d ∈ ForecastInbound.normalDetails s forecast) :
    delta (skuDeltaDict s forecast) d.skuId =
      max (d.forecastArriveNum - realArriveNum s forecast d.skuId) 0 := by
  have hnodup := nodup_skus h forecast
  have hentry : ∀ entry ∈ skuDeltaDict s forecast, entry.1 = d.skuId →
      entry.2 = d.forecastArriveNum - realArriveNum s forecast d.skuId ∧ 0 < entry.2 := by
    intro entry hentry hsku
    obtain ⟨hmem, hpos⟩ := List.mem_filter.mp hentry
    obtain ⟨d', hd', rfl⟩ := List.mem_map.mp hmem
    have hsame : d' = d := List.inj_on_of_nodup_map hnodup hd' hd hsku
    rw [hsame] at hpos ⊢
    exact ⟨rfl, of_decide_eq_true hpos⟩
  unfold delta
  cases hfind : (skuDeltaDict s forecast).reverse.find? fun entry => entry.1 = d.skuId with
  | some entry =>
    have hspec := List.find?_some hfind
    obtain ⟨heq, hpos⟩ := hentry entry (List.mem_reverse.mp (List.mem_of_find?_eq_some hfind))
      (of_decide_eq_true hspec)
    rw [heq] at hpos
    rw [Option.map_some, Option.getD_some, heq, max_eq_left hpos.le]
  | none =>
    refine (max_eq_right (not_lt.mp fun hpos => ?_)).symm
    refine absurd (decide_eq_true rfl) (List.find?_eq_none.mp hfind
      (d.skuId, d.forecastArriveNum - realArriveNum s forecast d.skuId) ?_)
    exact List.mem_reverse.mpr (List.mem_filter.mpr
      ⟨List.mem_map_of_mem (f := fun d => (d.skuId, d.forecastArriveNum -
        realArriveNum s forecast d.skuId)) hd, decide_eq_true hpos⟩)

theorem positives_eq_iff {α : Type} {key : α → Nat} {f g : α → Int} {l : List α}
    (hnodup : (l.map key).Nodup) :
    (l.filter fun a => 0 < f a).map (fun a => (key a, f a)) =
        (l.filter fun a => 0 < g a).map (fun a => (key a, g a)) ↔
      ∀ a ∈ l, max (f a) 0 = max (g a) 0 := by
  constructor
  · intro h a ha
    have hpos : ∀ {f g : α → Int}, (l.filter fun a => 0 < f a).map (fun a => (key a, f a)) =
        (l.filter fun a => 0 < g a).map (fun a => (key a, g a)) → 0 < f a → g a = f a := by
      intro f g h hfa
      have hmem : (key a, f a) ∈ (l.filter fun a => 0 < g a).map (fun a => (key a, g a)) := by
        rw [← h]
        exact List.mem_map_of_mem (f := fun a => (key a, f a))
          (List.mem_filter.mpr ⟨ha, decide_eq_true hfa⟩)
      obtain ⟨b, hb, heq⟩ := List.mem_map.mp hmem
      have hsame : b = a := List.inj_on_of_nodup_map hnodup (List.mem_of_mem_filter hb) ha
        (congrArg Prod.fst heq)
      rw [hsame] at heq
      exact congrArg Prod.snd heq
    by_cases hfa : 0 < f a
    · rw [hpos h hfa]
    · by_cases hga : 0 < g a
      · exact absurd ((hpos h.symm hga).symm ▸ hga) hfa
      · rw [max_eq_right (not_lt.mp hfa), max_eq_right (not_lt.mp hga)]
  · intro h
    have hiff : ∀ a ∈ l, (0 < f a ↔ 0 < g a) := by
      intro a ha
      have := h a ha
      omega
    rw [List.filter_congr fun a ha => decide_eq_decide.mpr (hiff a ha)]
    refine List.map_congr_left fun a ha => Prod.ext rfl ?_
    obtain ⟨hin, hpos⟩ := List.mem_filter.mp ha
    have hga : 0 < g a := of_decide_eq_true hpos
    have := h a hin
    omega

theorem skuDeltaDict_eq_nil {forecast : Nat} : skuDeltaDict s forecast = [] ↔
    ∀ d ∈ ForecastInbound.normalDetails s forecast,
      d.forecastArriveNum - realArriveNum s forecast d.skuId ≤ 0 := by
  unfold skuDeltaDict
  rw [List.filter_eq_nil_iff, List.forall_mem_map]
  refine forall₂_congr fun d _ => ?_
  rw [decide_eq_true_eq]
  exact not_lt

theorem shortDetails_eq_nil {forecast : Nat} : shortDetails s forecast = [] ↔
    ∀ d ∈ ForecastInbound.normalDetails s forecast, missing s forecast d ≤ 0 := by
  unfold shortDetails
  rw [List.filter_eq_nil_iff]
  refine forall₂_congr fun d _ => ?_
  rw [decide_eq_true_eq]
  exact not_lt

def strippedForecast (forecast : ForecastInbound) (no : String) : ForecastInbound where
  id := 0
  forecastNo := no
  supplierId := forecast.supplierId
  relateOrderSet := []
  wareHouse := forecast.wareHouse
  expressCode := forecast.expressCode
  expressNo := forecast.expressNo
  forecastArriveTime := none
  purchaser := ""
  status := .draft

def withForecast (s : ForecastDb) (forecast : ForecastInbound) (no : String) : ForecastDb :=
  { s with
    forecasts := (s.forecasts.insert (strippedForecast forecast no)).update
      (fun f => f.id = s.forecasts.nextId) fun f =>
        { f with relateOrderSet := forecast.relateOrderSet } }

theorem withForecast_rows (s : ForecastDb) (forecast : ForecastInbound) (no : String) :
    (withForecast s forecast no).forecasts.rows = s.forecasts.rows ++
      [{ strippedForecast forecast no with
          id := s.forecasts.nextId
          relateOrderSet := forecast.relateOrderSet }] := by
  unfold withForecast Table.update Table.insert
  dsimp only
  have hnew : decide ((s.forecasts.stored (strippedForecast forecast no)).id =
      s.forecasts.nextId) = true := decide_eq_true rfl
  rw [List.map_append, List.map_singleton, if_pos hnew]
  congr 1
  conv_rhs => rw [← List.map_id s.forecasts.rows]
  refine List.map_congr_left fun f hf => ?_
  have hlt : f.id < s.forecasts.nextId := Table.pk_lt_nextId hf
  rw [if_neg (by simpa using hlt.ne)]
  rfl

def Taken (s : ForecastDb) (no : String) : Prop := ∃ f ∈ s.forecasts, f.forecastNo = no

theorem strip_idle (hget : s.forecasts.get? forecast.id = some forecast)
    (hdict : skuDeltaDict s forecast.id = []) :
    (stripForecastInbound forecast.id).run s = (.ok none, s) := by
  unfold stripForecastInbound
  refine atomic_ok ?_
  simp only [getOr_bind_run, hget, gets_bind_run]
  rw [if_pos hdict]
  rfl

theorem any_forecastNo {no : String} :
    (s.forecasts.rows.any fun f => f.forecastNo = no) = true ↔ Taken s no := by
  rw [List.any_eq_true]
  exact exists_congr fun f => and_congr_right fun _ => decide_eq_true_iff

theorem strip_taken (hget : s.forecasts.get? forecast.id = some forecast)
    (hdict : skuDeltaDict s forecast.id ≠ [])
    (htaken : Taken s (genSubforecastInboundNo s forecast.forecastNo)) :
    (stripForecastInbound forecast.id).run s = (.error .integrityError, s) := by
  unfold stripForecastInbound
  refine atomic_raise ?_
  simp only [getOr_bind_run, hget, gets_bind_run]
  rw [if_neg hdict]
  unfold ForecastInbound.create
  simp only [gets_bind_run]
  refine bind_error ?_
  rw [gets_bind_run, raiseIf_bind_run, if_pos (any_forecastNo.mpr htaken)]

theorem strip_creates (hconsistent : Consistent s)
    (hget : s.forecasts.get? forecast.id = some forecast)
    (hdict : skuDeltaDict s forecast.id ≠ [])
    (hfree : ¬ Taken s (genSubforecastInboundNo s forecast.forecastNo)) :
    ∃ new table rows, (stripForecastInbound forecast.id).run s = (.ok (some new),
        { withForecast s forecast (genSubforecastInboundNo s forecast.forecastNo) with
          details := table }) ∧
      new.id = s.forecasts.nextId ∧ table.rows = s.details.rows ++ rows ∧
      rows.map (fun d => (d.skuId, d.forecastArriveNum)) =
        ((ForecastInbound.normalDetails s forecast.id).filter fun d =>
          0 < delta (skuDeltaDict s forecast.id) d.skuId).map
            (fun d => (d.skuId, delta (skuDeltaDict s forecast.id) d.skuId)) ∧
      ∀ d ∈ rows, d.forecastInbound = s.forecasts.nextId ∧ d.status = .normal := by
  have hunknown : ∀ d ∈ s.details, d.forecastInbound = s.forecasts.nextId →
      d.skuId ∉ (ForecastInbound.normalDetails s forecast.id).map ForecastInboundDetail.skuId := by
    intro d hd hnew
    obtain ⟨f, hf, hid⟩ := hconsistent.known d hd
    have hlt : f.id < s.forecasts.nextId := Table.pk_lt_nextId hf
    exact absurd (hid.trans hnew) hlt.ne
  obtain ⟨table, rows, hrun, hrows, hmap, hall⟩ := createDetails_run
    (skuDeltaDict s forecast.id) s.forecasts.nextId (ForecastInbound.normalDetails s forecast.id)
    (withForecast s forecast (genSubforecastInboundNo s forecast.forecastNo))
    (nodup_skus hconsistent forecast.id) hunknown
  refine ⟨s.forecasts.stored (strippedForecast forecast
    (genSubforecastInboundNo s forecast.forecastNo)), table, rows, ?_, rfl, hrows, hmap, hall⟩
  unfold stripForecastInbound
  refine atomic_ok ?_
  simp only [getOr_bind_run, hget, gets_bind_run]
  rw [if_neg hdict]
  have hcreate : (ForecastInbound.create (strippedForecast forecast
      (genSubforecastInboundNo s forecast.forecastNo))).run s =
        (.ok (s.forecasts.stored (strippedForecast forecast
          (genSubforecastInboundNo s forecast.forecastNo))),
        { s with forecasts := s.forecasts.insert (strippedForecast forecast
          (genSubforecastInboundNo s forecast.forecastNo)) }) := by
    unfold ForecastInbound.create
    rw [gets_bind_run, raiseIf_bind_run]
    exact if_neg fun htaken => hfree (any_forecastNo.mp htaken)
  rw [gets_bind_run]
  refine (bind_ok hcreate).trans ?_
  unfold ForecastInbound.relate
  rw [modify_bind_run, gets_bind_run]
  refine (bind_ok hrun).trans ?_
  rfl

theorem taken_iff (h : forecast ∈ s.forecasts) :
    Taken s (genSubforecastInboundNo s forecast.forecastNo) ↔
      ¬ ∀ last, IsLast s (familyOf forecast.forecastNo) last → ∀ f ∈ s.forecasts, f.forecastNo ≠
        familyOf forecast.forecastNo ++ "-" ++ toString (counter last.forecastNo + 1) := by
  obtain ⟨last, hlast⟩ := exists_isLast h
  constructor
  · rintro ⟨f, hf, hno⟩ hfree
    exact hfree last hlast f hf (hno.trans (genSubforecastInboundNo_eq hlast))
  · intro hfree
    by_contra hnot
    refine hfree fun last hlast f hf hno => hnot ⟨f, hf, ?_⟩
    rw [hno, genSubforecastInboundNo_eq hlast]

theorem created_iff (hconsistent : Consistent s) (forecast : Nat) :
    ((ForecastInbound.normalDetails s forecast).filter fun d =>
        0 < delta (skuDeltaDict s forecast) d.skuId).map
          (fun d => (d.skuId, delta (skuDeltaDict s forecast) d.skuId)) =
        (shortDetails s forecast).map (fun d => (d.skuId, missing s forecast d)) ↔
      ∀ d ∈ ForecastInbound.normalDetails s forecast,
        max (d.forecastArriveNum - realArriveNum s forecast d.skuId) 0 =
          max (missing s forecast d) 0 := by
  unfold shortDetails
  rw [positives_eq_iff (nodup_skus hconsistent forecast)]
  refine forall₂_congr fun d hd => ?_
  rw [delta_skuDeltaDict hconsistent hd, max_eq_left (le_max_right _ _)]

theorem short_iff_of_counted
    (hcounted : ∀ d ∈ ForecastInbound.normalDetails s forecast.id,
      max (d.forecastArriveNum - realArriveNum s forecast.id d.skuId) 0 =
        max (missing s forecast.id d) 0) :
    shortDetails s forecast.id = [] ↔ skuDeltaDict s forecast.id = [] := by
  rw [shortDetails_eq_nil, skuDeltaDict_eq_nil]
  refine forall₂_congr fun d hd => ?_
  have := hcounted d hd
  omega

theorem stripsWell_iff (hconsistent : Consistent s) (h : forecast ∈ s.forecasts) :
    StripsWell s forecast ↔ Strippable s forecast := by
  have hget : s.forecasts.get? forecast.id = some forecast := Table.get?_eq_some.mpr ⟨h, rfl⟩
  unfold StripsWell
  by_cases hdict : skuDeltaDict s forecast.id = []
  · rw [strip_idle hget hdict]
    constructor
    · rintro ⟨hshort, -⟩
      refine ⟨fun d hd => ?_, fun hne => absurd hshort hne⟩
      have hall := skuDeltaDict_eq_nil.mp hdict d hd
      have hnone := shortDetails_eq_nil.mp hshort d hd
      rw [max_eq_right hall, max_eq_right hnone]
    · exact fun hstrippable => ⟨(short_iff_of_counted hstrippable.counted).mpr hdict, rfl⟩
  by_cases htaken : Taken s (genSubforecastInboundNo s forecast.forecastNo)
  · rw [strip_taken hget hdict htaken]
    refine iff_of_false id fun hstrippable => (taken_iff h).mp htaken (hstrippable.free ?_)
    exact fun hshort => hdict ((short_iff_of_counted hstrippable.counted).mp hshort)
  · obtain ⟨new, table, rows, hrun, hnew, hrows, hmap, hall⟩ :=
      strip_creates hconsistent hget hdict htaken
    rw [hrun]
    constructor
    · rintro ⟨-, -, ⟨rows', hrows', hmap', -⟩, -⟩
      obtain rfl : rows = rows' := List.append_cancel_left (hrows.symm.trans hrows')
      rw [hmap] at hmap'
      exact ⟨(created_iff hconsistent forecast.id).mp hmap',
        fun _ => not_not.mp fun hfree => htaken ((taken_iff h).mpr hfree)⟩
    · intro hstrippable
      refine ⟨fun hshort => hdict ((short_iff_of_counted hstrippable.counted).mp hshort),
        ⟨_, withForecast_rows s forecast _, hnew.symm, rfl, ?_⟩,
        ⟨rows, hrows, hmap.trans ((created_iff hconsistent forecast.id).mpr hstrippable.counted), ?_⟩,
        rfl, rfl, rfl, rfl⟩
      · exact fun f hf hno => htaken ⟨f, hf, hno⟩
      · rw [hnew]
        exact hall

/-- A forecast is stripped, or the tables are changed by something else. -/
inductive StripOp where
  | strip (forecast : Nat)
  | become (t : ForecastDb) (consistent : Consistent t)

def StripOp.exec : StripOp → ForecastDb → ForecastDb
  | strip forecast, s => ((stripForecastInbound forecast).run s).2
  | become t _, _ => t

def StripOp.Meets (condition : ForecastDb → ForecastInbound → Prop) (s : ForecastDb) :
    StripOp → Prop
  | strip id => ∀ forecast ∈ s.forecasts, forecast.id = id → condition s forecast
  | become _ _ => True

theorem nodup_created (hconsistent : Consistent s) (forecast : Nat)
    {rows : List ForecastInboundDetail} {p : ForecastInboundDetail → Bool}
    {f : ForecastInboundDetail → Int} (hmap : rows.map (fun d => (d.skuId, d.forecastArriveNum)) =
      ((ForecastInbound.normalDetails s forecast).filter p).map (fun d => (d.skuId, f d))) :
    (rows.map ForecastInboundDetail.skuId).Nodup := by
  have hskus : rows.map ForecastInboundDetail.skuId =
      ((ForecastInbound.normalDetails s forecast).filter p).map ForecastInboundDetail.skuId := by
    have hfst := congrArg (List.map Prod.fst) hmap
    rw [List.map_map, List.map_map] at hfst
    exact hfst
  rw [hskus]
  exact (nodup_skus hconsistent forecast).sublist (List.filter_sublist.map _)

theorem Consistent.withForecast (hconsistent : Consistent s) {no : String}
    {table : Table ForecastInboundDetail} {rows : List ForecastInboundDetail}
    (hrows : table.rows = s.details.rows ++ rows)
    (hnodup : (rows.map ForecastInboundDetail.skuId).Nodup)
    (hnew : ∀ d ∈ rows, d.forecastInbound = s.forecasts.nextId) :
    Consistent { Forecast.withForecast s forecast no with details := table } where
  unique := by
    change (table.rows.map _).Nodup
    rw [hrows, List.map_append, List.nodup_append]
    refine ⟨hconsistent.unique, ?_, ?_⟩
    · refine List.Nodup.of_map Prod.fst ?_
      rw [List.map_map]
      exact hnodup
    · rintro key hold _ hkey rfl
      obtain ⟨d, hd, rfl⟩ := List.mem_map.mp hold
      obtain ⟨d', hd', heq⟩ := List.mem_map.mp hkey
      obtain ⟨f, hf, hid⟩ := hconsistent.known d hd
      have hlt : f.id < s.forecasts.nextId := Table.pk_lt_nextId hf
      have hforecast : d'.forecastInbound = d.forecastInbound := congrArg Prod.snd heq
      rw [hnew d' hd', ← hid] at hforecast
      exact hlt.ne hforecast.symm
  known := by
    intro d hd
    have hd : d ∈ s.details.rows ++ rows := hrows ▸ hd
    have hforecasts := withForecast_rows s forecast no
    rcases List.mem_append.mp hd with hold | hd
    · obtain ⟨f, hf, hid⟩ := hconsistent.known d hold
      refine ⟨f, ?_, hid⟩
      change f ∈ (Forecast.withForecast s forecast no).forecasts.rows
      rw [hforecasts]
      exact List.mem_append_left _ hf
    · refine ⟨{ strippedForecast forecast no with
        id := s.forecasts.nextId
        relateOrderSet := forecast.relateOrderSet }, ?_, (hnew d hd).symm⟩
      change _ ∈ (Forecast.withForecast s forecast no).forecasts.rows
      rw [hforecasts]
      exact List.mem_append_right _ (List.mem_singleton_self _)

theorem Consistent.strip (hconsistent : Consistent s) (id : Nat) :
    Consistent ((stripForecastInbound id).run s).2 := by
  cases hget : s.forecasts.get? id with
  | none =>
    have hraises : (stripForecastInbound id).run s = (.error .doesNotExist, s) := by
      unfold stripForecastInbound
      refine atomic_raise ?_
      simp only [getOr_bind_run, hget]
    rw [hraises]
    exact hconsistent
  | some forecast =>
    obtain ⟨hmem, rfl⟩ := Table.get?_eq_some.mp hget
    by_cases hdict : skuDeltaDict s forecast.id = []
    · have hrun := strip_idle hget hdict
      change Consistent ((stripForecastInbound forecast.id).run s).2
      rw [hrun]
      exact hconsistent
    by_cases htaken : Taken s (genSubforecastInboundNo s forecast.forecastNo)
    · have hrun := strip_taken hget hdict htaken
      change Consistent ((stripForecastInbound forecast.id).run s).2
      rw [hrun]
      exact hconsistent
    · obtain ⟨new, table, rows, hrun, hnew, hrows, hmap, hall⟩ :=
        strip_creates hconsistent hget hdict htaken
      change Consistent ((stripForecastInbound forecast.id).run s).2
      rw [hrun]
      exact hconsistent.withForecast hrows (nodup_created hconsistent forecast.id hmap) fun d hd =>
        (hall d hd).1

def familyNo (family : String) : Nat → String
  | 0 => family
  | n + 1 => family ++ "-" ++ toString (n + 1)

def StripFamily (s : ForecastDb) (family : String) (strips : Nat) : Prop :=
  ∀ no : String, (family.toList <+: no.toList ∧ Taken s no) ↔ ∃ n ≤ strips, no = familyNo family n

def familySuffix : Nat → List Char
  | 0 => []
  | n + 1 => '-' :: (toString (n + 1)).toList

theorem toList_familyNo (family : String) (n : Nat) :
    (familyNo family n).toList = family.toList ++ familySuffix n := by
  cases n with
  | zero => exact (List.append_nil _).symm
  | succ n =>
    unfold familyNo familySuffix
    rw [String.toList_append, String.toList_append, List.append_assoc]
    rfl

theorem append_lt_append {l m : List Char} (x : List Char) : x ++ l < x ++ m ↔ l < m := by
  induction x with
  | nil => exact Iff.rfl
  | cons c x ih =>
    rw [List.cons_append, List.cons_append, List.cons_lt_cons_iff, ih]
    constructor
    · rintro (hlt | ⟨-, hlt⟩)
      · exact absurd hlt (lt_irrefl c)
      · exact hlt
    · exact fun hlt => Or.inr ⟨rfl, hlt⟩

theorem familyNo_le (family : String) {m n : Nat} (h : familySuffix m ≤ familySuffix n) :
    familyNo family m ≤ familyNo family n := by
  rw [String.le_iff_toList_le, toList_familyNo, toList_familyNo, ← not_lt, append_lt_append, not_lt]
  exact h

theorem counter_familyNo (hfamily : Key.Free '-' family) (n : Nat) :
    counter (familyNo family n) = n := by
  have hown := split_free hfamily
  unfold counter
  cases n with
  | zero =>
    unfold familyNo
    rw [hown]
  | succ n =>
    have hdigits : split '-' (toString (n + 1)) = _ :=
      split_free (Key.free_toString (by decide) (n + 1))
    have hsplit : split '-' (familyNo family (n + 1)) = [family, toString (n + 1)] := by
      have hboth := split_append '-' family (toString (n + 1))
      rw [hown, hdigits] at hboth
      exact hboth
    rw [hsplit]
    dsimp only
    rw [if_pos (isDigits_toString _), number_toString]

theorem isLast_familyNo {strips n : Nat} (hfamily : StripFamily s family strips)
    (hn : n ≤ strips) (hgreatest : ∀ m ≤ strips, familySuffix m ≤ familySuffix n) :
    ∃ last, IsLast s family last ∧ last.forecastNo = familyNo family n := by
  obtain ⟨hbegins, last, hlast, hno⟩ := (hfamily (familyNo family n)).mpr ⟨n, hn, rfl⟩
  refine ⟨last, ⟨hlast, by rwa [hno], fun f hf hbegins => ?_⟩, hno⟩
  obtain ⟨m, hm, hfno⟩ := (hfamily f.forecastNo).mp ⟨hbegins, f, hf, rfl⟩
  rw [hfno, hno]
  exact familyNo_le family (hgreatest m hm)

theorem IsLast.unique {last' : ForecastInbound} (h : IsLast s family last)
    (h' : IsLast s family last') : last.forecastNo = last'.forecastNo :=
  le_antisymm (h'.greatest last h.mem h.begins) (h.greatest last' h'.mem h'.begins)

theorem family_free_iff {strips : Nat} (hseparator : Key.Free '-' family)
    (hfamily : StripFamily s family strips) (hstrips : strips ≤ 10) :
    (∀ last, IsLast s family last → ∀ f ∈ s.forecasts, f.forecastNo ≠
      family ++ "-" ++ toString (counter last.forecastNo + 1)) ↔ strips < 10 := by
  constructor
  · intro hfree
    by_contra hten
    obtain rfl : strips = 10 := by omega
    obtain ⟨last, hlast, hno⟩ := isLast_familyNo hfamily (n := 9) (by decide) (by decide)
    obtain ⟨-, f, hf, hfno⟩ := (hfamily (familyNo family 10)).mpr ⟨10, le_rfl, rfl⟩
    refine hfree last hlast f hf ?_
    rw [hno, counter_familyNo hseparator, hfno]
    rfl
  · intro hlt last hlast f hf hno
    have hgreatest : ∀ n < 10, ∀ m ≤ n, familySuffix m ≤ familySuffix n := by decide
    obtain ⟨last', hlast', hno'⟩ := isLast_familyNo hfamily le_rfl (hgreatest strips hlt)
    rw [hlast.unique hlast', hno', counter_familyNo hseparator] at hno
    have hbegins : family.toList <+: f.forecastNo.toList := by
      rw [hno, String.append_assoc, String.toList_append]
      exact List.prefix_append _ _
    obtain ⟨m, hm, hfno⟩ := (hfamily f.forecastNo).mp ⟨hbegins, f, hf, rfl⟩
    have hcounter := congrArg counter (hfno.symm.trans hno)
    rw [counter_familyNo hseparator] at hcounter
    have hnext := counter_familyNo hseparator (strips + 1)
    change counter (family ++ "-" ++ toString (strips + 1)) = strips + 1 at hnext
    omega

theorem free_familyOf (no : String) : Key.Free '-' (familyOf no) := by
  unfold familyOf split Key.Free
  by_cases hmem : '-' ∈ no.toList
  · obtain ⟨front, rest, hno, hfront⟩ := List.eq_append_cons_of_mem hmem
    rw [hno, List.splitOn_append_cons_self, List.splitOn_eq_singleton hfront]
    simpa using hfront
  · rw [List.splitOn_eq_singleton hmem]
    simpa using hmem

theorem stripFamily_succ {strips : Nat} {t : ForecastDb} (hfamily : StripFamily s family strips)
    (ht : ∀ no, Taken t no ↔ Taken s no ∨ no = familyNo family (strips + 1)) :
    StripFamily t family (strips + 1) := by
  intro no
  rw [ht, and_or_left, hfamily]
  constructor
  · rintro (⟨n, hn, rfl⟩ | ⟨-, rfl⟩)
    · exact ⟨n, hn.trans (Nat.le_succ strips), rfl⟩
    · exact ⟨_, le_rfl, rfl⟩
  · rintro ⟨n, hn, rfl⟩
    obtain hn | rfl := Nat.le_succ_iff.mp hn
    · exact .inl ⟨n, hn, rfl⟩
    · refine .inr ⟨?_, rfl⟩
      rw [toList_familyNo]
      exact List.prefix_append _ _

/-- Each of the first ten strips of a family gets the next number, and no later one gets any. -/
theorem ten_strips {strips : Nat} (hconsistent : Consistent s) (h : forecast ∈ s.forecasts)
    (hshort : skuDeltaDict s forecast.id ≠ [])
    (hfamily : StripFamily s (familyOf forecast.forecastNo) strips) (hstrips : strips ≤ 10) :
    if strips < 10 then ∃ new t, (stripForecastInbound forecast.id).run s = (.ok (some new), t) ∧
      StripFamily t (familyOf forecast.forecastNo) (strips + 1)
    else (stripForecastInbound forecast.id).run s = (.error .integrityError, s) := by
  have hget : s.forecasts.get? forecast.id = some forecast := Table.get?_eq_some.mpr ⟨h, rfl⟩
  have hseparator := free_familyOf forecast.forecastNo
  have hfree := family_free_iff hseparator hfamily hstrips
  split
  · next hlt =>
    have hgreatest : ∀ n < 10, ∀ m ≤ n, familySuffix m ≤ familySuffix n := by decide
    obtain ⟨last, hlast, hno⟩ := isLast_familyNo hfamily le_rfl (hgreatest strips hlt)
    have hnew := genSubforecastInboundNo_eq hlast
    rw [hno, counter_familyNo hseparator] at hnew
    obtain ⟨new, table, -, hrun, -⟩ := strip_creates hconsistent hget hshort
      fun htaken => (taken_iff h).mp htaken (hfree.mpr hlt)
    refine ⟨new, _, hrun, stripFamily_succ hfamily fun no => ?_⟩
    unfold Taken
    simp only [Table.mem_def, withForecast_rows, List.mem_append, List.mem_singleton, or_and_right,
      exists_or, exists_eq_left, hnew]
    exact or_congr Iff.rfl eq_comm
  · next hten => exact strip_taken hget hshort ((taken_iff h).mpr fun hall => hten (hfree.mp hall))

def lateForecast : ForecastInbound where
  id := 1
  forecastNo := "frd16080157a01f3c00000"
  supplierId := none
  relateOrderSet := [1]
  wareHouse := 0
  expressCode := ""
  expressNo := ""
  forecastArriveTime := none
  purchaser := ""
  status := .arrived

def lateDb : ForecastDb where
  forecasts := Table.empty.insert lateForecast
  details := Table.empty.insert ⟨0, 1, 1, 1, 5, "", "", .normal⟩
  realInbounds := Table.empty
  realDetails := Table.empty
  orderLists := Table.empty.insert ⟨0, ""⟩
  suppliers := Table.empty

theorem consistent_lateDb : Consistent lateDb where
  unique := by decide
  known := by
    intro d hd
    obtain rfl := List.mem_singleton.mp hd
    exact ⟨lateForecast, List.mem_singleton_self _, rfl⟩

theorem ten_strips_late : ∃ new t, (stripForecastInbound 1).run lateDb = (.ok (some new), t) ∧
    StripFamily t "frd16080157a01f3c00000" 1 := by
  refine ten_strips consistent_lateDb (List.mem_singleton_self lateForecast) (by decide) ?_
    (Nat.zero_le 10)
  intro no
  constructor
  · rintro ⟨-, f, hf, rfl⟩
    obtain rfl := List.mem_singleton.mp hf
    exact ⟨0, le_rfl, rfl⟩
  · rintro ⟨n, hn, rfl⟩
    obtain rfl := Nat.le_zero.mp hn
    exact ⟨List.prefix_rfl, lateForecast, List.mem_singleton_self _, rfl⟩

theorem not_stripsWell_of_raises {e : Exn}
    (h : ((stripForecastInbound forecast.id).run s).1 = .error e) : ¬ StripsWell s forecast := by
  unfold StripsWell
  split
  · next hrun => exact nomatch h.symm.trans (congrArg Prod.fst hrun)
  · next hrun => exact nomatch h.symm.trans (congrArg Prod.fst hrun)
  · exact id

def nineStripsDb : ForecastDb :=
  { lateDb with
    forecasts := lateDb.forecasts.insert
      { lateForecast with forecastNo := "frd16080157a01f3c00000-9" } }

end ShopManager.Forecast
