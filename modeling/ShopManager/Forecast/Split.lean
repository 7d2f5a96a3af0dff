import Mathlib.Data.List.Dedup
import ShopManager.Forecast.Stripped

/-!
# Split forecasts

Numbers of goods are moved from the details of some forecasts to a new one.  A number below
nought moves them back, and a detail that is marked as deleted is moved like another.
-/

namespace ShopManager.Forecast

open Library Library.Tx

/-! ## The request -/

/-- An entry of `forecast_data_list`. -/
structure SplitEntry where
  skuId : Nat
  productId : Nat
  forecast : Nat
  num : Int
  deriving DecidableEq, Repr

def forecastIds (entries : List SplitEntry) : List Nat := entries.map SplitEntry.forecast

def forecastQs (s : ForecastDb) (entries : List SplitEntry) : List ForecastInbound :=
  s.forecasts.filter fun f => f.id ∈ forecastIds entries

def SplitEntry.takenFrom (e : SplitEntry) (d : ForecastInboundDetail) : ForecastInboundDetail :=
  { d with
    status := if d.forecastArriveNum ≤ e.num then .delete else d.status
    forecastArriveNum := d.forecastArriveNum - e.num }

def SplitEntry.take (e : SplitEntry) : ForecastTx ForecastInboundDetail := do
  let detail ← getOr (.exception "trans num bigger than forecast arrive num") fun s =>
    s.details.first fun d =>
      d.forecastInbound = e.forecast ∧ d.productId = e.productId ∧ d.skuId = e.skuId
  raiseIf (detail.forecastArriveNum < e.num)
    (.exception "trans num bigger than forecast arrive num")
  modify fun s => { s with details := s.details.save (e.takenFrom detail) }
  pure detail

/-- The detail of the new forecast, made where there is none of the SKU. -/
def SplitEntry.give (e : SplitEntry) (new : Nat) (detail : ForecastInboundDetail) :
    ForecastTx Unit := do
  let found ← gets fun s => s.details.first fun d =>
    d.forecastInbound = new ∧ d.skuId = e.skuId
  modify fun s => { s with details :=
    match found with
    | none => s.details.insert { detail with
        forecastInbound := new
        productId := e.productId
        skuId := e.skuId
        forecastArriveNum := e.num
        status := .normal }
    | some d => s.details.save { d with
        productId := e.productId
        forecastArriveNum := d.forecastArriveNum + e.num
        productName := detail.productName
        productImg := detail.productImg } }

def SplitEntry.move (new : Nat) (e : SplitEntry) : ForecastTx Unit := do
  let detail ← e.take
  e.give new detail

/-- `forecast` is the row as it was read. -/
def closeIfEmpty (forecast : ForecastInbound) : ForecastTx Unit := do
  let total ← gets fun s => ForecastInbound.totalDetailNum s forecast.id
  modify fun s => { s with
    forecasts := s.forecasts.save
      (if total = 0 then { forecast with status := .canceled } else forecast) }

/-- The atomic block. -/
def splitInto (forecastNo : String) (forecastArriveTime : Option Nat) (qs : List ForecastInbound)
    (forecastObj : ForecastInbound) (entries : List SplitEntry) : ForecastTx ForecastInbound := do
  let new ← ForecastInbound.create {
    id := 0
    forecastNo := forecastNo
    supplierId := forecastObj.supplierId
    relateOrderSet := []
    wareHouse := forecastObj.wareHouse
    expressCode := ""
    expressNo := ""
    forecastArriveTime := forecastArriveTime
    purchaser := forecastObj.purchaser
    status := .draft }
  ForecastInbound.relate new.id (qs.flatMap ForecastInbound.relateOrderSet).dedup
  forEach entries (SplitEntry.move new.id)
  pure new

def createOrSplitForecast (forecastNo : String) (forecastArriveTime : Option Nat)
    (entries : List SplitEntry) : ForecastTx ForecastInbound := do
  let qs ← gets fun s => forecastQs s entries
  let forecastObj ← getOr (.exception "no forecast inbound found") fun _ => qs.head?
  raiseIf (∃ f ∈ qs, f.supplierId ≠ forecastObj.supplierId) (.exception "multi supplier found")
  let new ← atomic (splitInto forecastNo forecastArriveTime qs forecastObj entries)
  forEach qs closeIfEmpty
  pure new

def goods (s : ForecastDb) (ids : List Nat) (sku : Nat) : Int :=
  ((s.details.filter fun d => d.forecastInbound ∈ ids ∧ d.skuId = sku ∧ d.status = .normal).map
    ForecastInboundDetail.forecastArriveNum).sum

structure Splits (s t : ForecastDb) (ids : List Nat) (new : Nat) : Prop where
  conserved : ∀ sku, goods t (new :: ids) sku = goods s ids sku
  nonneg : (∀ d ∈ s.details, d.forecastInbound ∈ ids → 0 ≤ d.forecastArriveNum) →
    ∀ d ∈ t.details, d.forecastInbound ∈ new :: ids → 0 ≤ d.forecastArriveNum
  closed : ∀ f ∈ t.forecasts, f.id ∈ ids → ForecastInbound.totalDetailNum t f.id = 0 →
    f.status = .canceled

/-- What a request is to do, whether it is accepted or rejected. -/
def SplitsOrLeaves (forecastNo : String) (forecastArriveTime : Option Nat)
    (entries : List SplitEntry) (s : ForecastDb) : Prop :=
  match (createOrSplitForecast forecastNo forecastArriveTime entries).run s with
  | (.ok new, t) => Splits s t (forecastIds entries) new.id
  | (.error _, t) => t = s

/-- No goods can be moved from a detail that is marked as deleted. -/
def Live (entries : List SplitEntry) (s : ForecastDb) : Prop :=
  ∀ e ∈ entries, ∀ d ∈ s.details, d.forecastInbound = e.forecast → d.skuId = e.skuId →
    d.status = .normal ∨ d.forecastArriveNum = 0 ∨ e.num = 0

/-- No number is below nought, and what is deleted stays where it is. -/
structure Movable (entries : List SplitEntry) (s : ForecastDb) : Prop where
  nonneg : ∀ e ∈ entries, 0 ≤ e.num
  stored : ∀ e ∈ entries, ∃ f ∈ s.forecasts, f.id = e.forecast
  live : Live entries s

/-! ## One entry -/

section Entry

variable {s s' : ForecastDb} {ids : List Nat} {new : Nat} {e : SplitEntry}
  {entries : List SplitEntry}

def weight (ids : List Nat) (sku : Nat) (d : ForecastInboundDetail) : Int :=
  if d.forecastInbound ∈ ids ∧ d.skuId = sku ∧ d.status = .normal then d.forecastArriveNum else 0

theorem goods_eq_sum (s : ForecastDb) (ids : List Nat) (sku : Nat) :
    goods s ids sku = s.details.sum (weight ids sku) := by
  unfold goods
  rw [Table.sum_filter]
  refine Table.sum_congr fun d _ => ?_
  simp only [weight, decide_eq_true_eq]

theorem take_eq_ok {d : ForecastInboundDetail} (h : e.take.run s = (.ok d, s')) :
    (d ∈ s.details ∧ d.forecastInbound = e.forecast ∧ d.skuId = e.skuId ∧
      e.num ≤ d.forecastArriveNum) ∧
    s' = { s with details := s.details.save (e.takenFrom d) } := by
  unfold SplitEntry.take at h
  obtain ⟨d', hfirst, h⟩ := getOr_bind_eq_ok.1 h
  obtain ⟨hle, h⟩ := raiseIf_bind_eq_ok.1 h
  rw [modify_bind_run] at h
  obtain ⟨rfl, rfl⟩ := pure_eq_ok.1 h
  have hspec := Table.first_spec hfirst
  obtain ⟨hforecast, -, hsku⟩ := of_decide_eq_true hspec
  exact ⟨⟨Table.mem_of_first hfirst, hforecast, hsku, not_lt.1 hle⟩, rfl⟩

theorem weight_takenFrom {d : ForecastInboundDetail} (hforecast : d.forecastInbound ∈ ids)
    (hsku : d.skuId = e.skuId) (hnum : 0 ≤ e.num) (hle : e.num ≤ d.forecastArriveNum)
    (hlive : d.status = .normal ∨ d.forecastArriveNum = 0 ∨ e.num = 0) (sku : Nat) :
    weight ids sku (e.takenFrom d) = weight ids sku d - if e.skuId = sku then e.num else 0 := by
  unfold weight SplitEntry.takenFrom
  dsimp only
  rw [hsku]
  by_cases hsame : e.skuId = sku
  · rcases hlive with hnormal | hzero | hnone
    · by_cases hall : d.forecastArriveNum ≤ e.num
      · simp [hforecast, hsame, hall, hnormal]
        omega
      · simp [hforecast, hsame, hall, hnormal]
    · simp [hsame, hzero]
      omega
    · rw [hnone] at hle ⊢
      by_cases hall : d.forecastArriveNum ≤ 0
      · simp [hsame, hall]
        omega
      · simp [hsame, hall]
  · simp [hsame]

theorem give_run (ids : List Nat) (e : SplitEntry) (new : Nat) (detail : ForecastInboundDetail)
    (hown : ∀ d ∈ s.details, d.forecastInbound = new → d.status = .normal) :
    ∃ t, (e.give new detail).run s = (.ok (), { s with details := t }) ∧
      (∀ sku, t.sum (weight (new :: ids) sku) =
        s.details.sum (weight (new :: ids) sku) + if e.skuId = sku then e.num else 0) ∧
      ∀ d ∈ t, d ∈ s.details ∨ (d.forecastInbound = new ∧ d.status = .normal ∧
        (d.forecastArriveNum = e.num ∨ ∃ old ∈ s.details, old.forecastInbound = new ∧
          d.forecastArriveNum = old.forecastArriveNum + e.num)) := by
  unfold SplitEntry.give
  rw [gets_bind_run, modify_run]
  cases hfound : s.details.first fun d => d.forecastInbound = new ∧ d.skuId = e.skuId with
  | none =>
    refine ⟨_, rfl, fun sku => ?_, fun d hd => ?_⟩
    · rw [Table.sum_insert]
      congr 1
      simp [weight, Table.stored, Row.withPk]
    · rcases Table.mem_insert.1 hd with hold | rfl
      · exact .inl hold
      · exact .inr ⟨rfl, rfl, .inl rfl⟩
  | some old =>
    have hmem := Table.mem_of_first hfound
    have hspec := Table.first_spec hfound
    obtain ⟨hnew, hsku⟩ := of_decide_eq_true hspec
    have hnormal := hown old hmem hnew
    refine ⟨_, rfl, fun sku => ?_, fun d hd => ?_⟩
    · have hsum := Table.sum_save (a := { old with
        productId := e.productId
        forecastArriveNum := old.forecastArriveNum + e.num
        productName := detail.productName
        productImg := detail.productImg }) hmem rfl (weight (new :: ids) sku)
      refine hsum.trans ?_
      unfold weight
      dsimp only
      rw [hnew, hsku, hnormal]
      by_cases hsame : e.skuId = sku
      · simp [hsame]
        omega
      · simp [hsame]
    · rcases Table.mem_save hd with rfl | ⟨hold, -⟩
      · exact .inr ⟨hnew, hnormal, .inr ⟨old, hmem, hnew, rfl⟩⟩
      · exact .inl hold

/-- What holds before the entries that are left. -/
structure Moving (new : Nat) (entries : List SplitEntry) (s : ForecastDb) : Prop where
  own : ∀ d ∈ s.details, d.forecastInbound = new → d.status = .normal
  live : Live entries s

/-- Goods were moved within the forecasts, and none are short that were not. -/
structure Moved (ids : List Nat) (s s' : ForecastDb) : Prop where
  goods : ∀ sku, goods s' ids sku = goods s ids sku
  nonneg : (∀ d ∈ s.details, d.forecastInbound ∈ ids → 0 ≤ d.forecastArriveNum) →
    ∀ d ∈ s'.details, d.forecastInbound ∈ ids → 0 ≤ d.forecastArriveNum

theorem move_moved (hm : Moving new (e :: entries) s) (hnum : 0 ≤ e.num) (hin : e.forecast ∈ ids)
    (hother : ∀ e' ∈ e :: entries, e'.forecast ≠ new)
    (hrun : (e.move new).run s = (.ok (), s')) :
    Moving new entries s' ∧ Moved (new :: ids) s s' := by
  obtain ⟨detail, s₁, htake, hgive⟩ := bind_eq_ok.1 hrun
  obtain ⟨⟨hmem, hforecast, hsku, hle⟩, rfl⟩ := take_eq_ok htake
  have hlive := hm.live e List.mem_cons_self detail hmem hforecast hsku
  -- the rows once the goods are taken
  have htaken : ∀ d ∈ s.details.save (e.takenFrom detail),
      d = e.takenFrom detail ∨ d ∈ s.details := fun d hd => (Table.mem_save hd).imp_right And.left
  have hown : ∀ d ∈ s.details.save (e.takenFrom detail), d.forecastInbound = new →
      d.status = .normal := by
    intro d hd hnew
    rcases htaken d hd with rfl | hold
    · exact absurd (hforecast.symm.trans hnew) (hother e List.mem_cons_self)
    · exact hm.own d hold hnew
  obtain ⟨t, hgiven, hsum, hrows⟩ := give_run ids e new detail
    (s := { s with details := s.details.save (e.takenFrom detail) }) hown
  obtain rfl : _ = s' := congrArg Prod.snd (hgiven.symm.trans hgive)
  refine ⟨⟨fun d hd hnew => ?_, fun e' he' d hd hfrom hsku' => ?_⟩, fun sku => ?_, fun hpos d hd hd' => ?_⟩
  · rcases hrows d hd with hold | ⟨-, hnormal, -⟩
    · exact hown d hold hnew
    · exact hnormal
  · rcases hrows d hd with hold | ⟨hnew, -⟩
    · rcases htaken d hold with rfl | hold
      · unfold SplitEntry.takenFrom
        dsimp only
        rcases hm.live e' (List.mem_cons_of_mem _ he') detail hmem hfrom hsku' with
          hnormal | hzero | hnone
        · by_cases hall : detail.forecastArriveNum ≤ e.num
          · right
            left
            omega
          · left
            rw [if_neg hall]
            exact hnormal
        · right
          left
          omega
        · exact .inr (.inr hnone)
      · exact hm.live e' (List.mem_cons_of_mem _ he') d hold hfrom hsku'
    · exact absurd (hfrom.symm.trans hnew) (hother e' (List.mem_cons_of_mem _ he'))
  · rw [goods_eq_sum, goods_eq_sum]
    dsimp only
    rw [hsum]
    dsimp only
    have hpk : Row.pk detail = Row.pk (e.takenFrom detail) := rfl
    rw [Table.sum_save hmem hpk, weight_takenFrom (List.mem_cons_of_mem _ (hforecast ▸ hin)) hsku
      hnum hle hlive]
    omega
  · have hstill : ∀ d ∈ s.details.save (e.takenFrom detail), d.forecastInbound ∈ new :: ids →
        0 ≤ d.forecastArriveNum := by
      intro d hd hin'
      rcases htaken d hd with rfl | hold
      · change 0 ≤ detail.forecastArriveNum - e.num
        omega
      · exact hpos d hold hin'
    rcases hrows d hd with hold | ⟨-, -, heq | ⟨old, hold, hnew, heq⟩⟩
    · exact hstill d hold hd'
    · rw [heq]
      exact hnum
    · rw [heq]
      exact add_nonneg (hstill old hold (hnew ▸ List.mem_cons_self)) hnum

/-! ## The request -/

theorem moveAll_moved : ∀ {entries : List SplitEntry} {s s' : ForecastDb}, Moving new entries s →
    (∀ e ∈ entries, 0 ≤ e.num ∧ e.forecast ∈ ids ∧ e.forecast ≠ new) →
      (forEach entries (SplitEntry.move new)).run s = (.ok (), s') → Moved (new :: ids) s s' := by
  intro entries
  induction entries with
  | nil =>
    intro s s' _ _ hrun
    obtain ⟨-, rfl⟩ := pure_eq_ok.1 hrun
    exact ⟨fun _ => rfl, fun h => h⟩
  | cons e entries ih =>
    intro s s' hm hentries hrun
    obtain ⟨_, s₁, hmove, hrun⟩ := bind_eq_ok.1 hrun
    obtain ⟨hnum, hin, -⟩ := hentries e List.mem_cons_self
    obtain ⟨hm₁, hmoved⟩ :=
      move_moved hm hnum hin (fun e' he' => (hentries e' he').2.2) hmove
    have hrest := ih hm₁ (fun e' he' => hentries e' (List.mem_cons_of_mem _ he')) hrun
    exact ⟨fun sku => (hrest.goods sku).trans (hmoved.goods sku),
      fun hpos => hrest.nonneg (hmoved.nonneg hpos)⟩

/-- The forecasts that were looked at are closed if nothing is left of them. -/
def ClosedIn (done : List Nat) (s : ForecastDb) : Prop :=
  ∀ f ∈ s.forecasts, f.id ∈ done → ForecastInbound.totalDetailNum s f.id = 0 →
    f.status = .canceled

theorem closeEmpty_run : ∀ (qs : List ForecastInbound) (done : List Nat) (s : ForecastDb),
    ClosedIn done s → ∃ t, (forEach qs closeIfEmpty).run s =
        (.ok (), { s with forecasts := t }) ∧
      ClosedIn (done ++ qs.map ForecastInbound.id) { s with forecasts := t } := by
  intro qs
  induction qs with
  | nil =>
    intro done s hdone
    refine ⟨s.forecasts, rfl, ?_⟩
    rw [List.map_nil, List.append_nil]
    exact hdone
  | cons f qs ih =>
    intro done s hdone
    have hsaved : ClosedIn (done ++ [f.id]) { s with
        forecasts := s.forecasts.save
          (if ForecastInbound.totalDetailNum s f.id = 0 then { f with status := .canceled }
            else f) } := by
      intro g hg hin hempty
      rcases Table.mem_save hg with rfl | ⟨hold, hne⟩
      · by_cases hnone : ForecastInbound.totalDetailNum s f.id = 0
        · rw [if_pos hnone]
        · rw [if_neg hnone] at hempty
          exact absurd hempty hnone
      · refine hdone g hold ?_ hempty
        have hother : g.id ≠ f.id := by
          intro heq
          refine hne (heq.trans ?_)
          split <;> rfl
        rcases List.mem_append.1 hin with hin | hin
        · exact hin
        · exact absurd (List.mem_singleton.1 hin) hother
    obtain ⟨t, hrun, hclosed⟩ := ih _ _ hsaved
    refine ⟨t, ?_, ?_⟩
    · rw [forEach_cons]
      exact hrun
    · rw [List.map_cons, List.append_cons]
      exact hclosed

theorem created_fresh {forecast stored : ForecastInbound}
    (h : (ForecastInbound.create forecast).run s = (.ok stored, s')) :
    s'.details = s.details ∧ ∀ f ∈ s.forecasts, f.id ≠ stored.id := by
  unfold ForecastInbound.create at h
  rw [gets_bind_run] at h
  obtain ⟨-, h⟩ := raiseIf_bind_eq_ok.1 h
  rw [gets_bind_run, modify_bind_run] at h
  obtain ⟨rfl, rfl⟩ := pure_eq_ok.1 h
  exact ⟨rfl, fun f hf => ne_of_lt (Table.pk_lt_nextId hf)⟩

theorem splitInto_moved {forecastNo : String} {time : Option Nat} {qs : List ForecastInbound}
    {forecastObj new : ForecastInbound} (hs : Consistent s) (hm : Movable entries s)
    (h : (splitInto forecastNo time qs forecastObj entries).run s = (.ok new, s')) :
    (∀ sku, goods s' (new.id :: forecastIds entries) sku = goods s (forecastIds entries) sku) ∧
      ((∀ d ∈ s.details, d.forecastInbound ∈ forecastIds entries → 0 ≤ d.forecastArriveNum) →
        ∀ d ∈ s'.details, d.forecastInbound ∈ new.id :: forecastIds entries →
          0 ≤ d.forecastArriveNum) := by
  obtain ⟨new', s₁, hcreate, h⟩ := bind_eq_ok.1 h
  obtain ⟨hsame, hfresh⟩ := created_fresh hcreate
  unfold ForecastInbound.relate at h
  rw [modify_bind_run] at h
  obtain ⟨_, s₂, hmove, h⟩ := bind_eq_ok.1 h
  obtain ⟨rfl, rfl⟩ := pure_eq_ok.1 h
  -- no detail is of the new forecast yet
  have hnone : ∀ d ∈ s.details, d.forecastInbound ≠ new'.id := by
    intro d hd heq
    obtain ⟨f, hf, hid⟩ := hs.known d hd
    exact hfresh f hf (hid.trans heq)
  have hentries : ∀ e ∈ entries, 0 ≤ e.num ∧ e.forecast ∈ forecastIds entries ∧
      e.forecast ≠ new'.id := by
    intro e he
    obtain ⟨f, hf, hid⟩ := hm.stored e he
    exact ⟨hm.nonneg e he, List.mem_map_of_mem he, hid ▸ hfresh f hf⟩
  have hmoving : Moving new'.id entries { s₁ with
      forecasts := s₁.forecasts.update (fun f => f.id = new'.id) fun f =>
        { f with relateOrderSet := (qs.flatMap ForecastInbound.relateOrderSet).dedup } } := by
    refine ⟨fun d hd hnew => ?_, fun e he d hd => ?_⟩
    · exact absurd hnew (hnone d (hsame ▸ hd))
    · exact hm.live e he d (hsame ▸ hd)
  have hmoved := moveAll_moved hmoving hentries hmove
  refine ⟨fun sku => (hmoved.goods sku).trans ?_, fun hpos => hmoved.nonneg ?_⟩
  · rw [goods_eq_sum, goods_eq_sum]
    dsimp only
    rw [hsame]
    refine Table.sum_congr fun d hd => ?_
    simp only [weight, List.mem_cons, hnone d hd, false_or]
  · intro d hd hin
    dsimp only at hd
    rw [hsame] at hd
    exact hpos d hd ((List.mem_cons.1 hin).resolve_left (hnone d hd))

end Entry

end ShopManager.Forecast
