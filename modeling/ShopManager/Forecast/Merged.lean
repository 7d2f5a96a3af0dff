import ShopManager.Forecast.Model

/-!
# Merged forecasts

The open forecasts of some order lists are replaced by one with their goods, which is never
related to the lists.
-/

namespace ShopManager.Forecast

open Library Library.Tx

def isOpen (f : ForecastInbound) : Bool := f.status = .draft || f.status = .approved

def openFor (s : ForecastDb) (ids : List Nat) : List ForecastInbound :=
  s.forecasts.filter fun f => isOpen f ∧ ∃ id ∈ f.relateOrderSet, id ∈ ids

/-- The join has a forecast once for each of its order lists that is asked for. -/
def joined (s : ForecastDb) (ids : List Nat) : List ForecastInbound :=
  (openFor s ids).flatMap fun f => (f.relateOrderSet.filter (· ∈ ids)).map fun _ => f

/-- The new details, the sums by SKU, and the SKU of the detail that was made last. -/
structure Gathered where
  details : List ForecastInboundDetail
  res : List (Nat × Int)
  last : Nat

/-- A number is added at the SKU of the last new detail, whichever SKU it is of. -/
def Gathered.add (new : Nat) (g : Gathered) (fd : ForecastInboundDetail) : Gathered :=
  let g := if g.details.any (fun d => d.skuId = fd.skuId) then g
    else { g with
      details := g.details ++ [{ fd with
        id := 0
        forecastInbound := new
        forecastArriveNum := 0
        status := .normal }]
      last := fd.skuId }
  { g with res := g.res ++ [(g.last, fd.forecastArriveNum)] }

def Gathered.num (g : Gathered) (sku : Nat) : Int :=
  ((g.res.filter fun entry => entry.1 = sku).map Prod.snd).sum

def gather (s : ForecastDb) (ids : List Nat) (new : Nat) : Gathered :=
  ((joined s ids).flatMap fun f => s.details.filter fun d => d.forecastInbound = f.id).foldl
    (Gathered.add new) ⟨[], [], 0⟩

/-- `merge`, once the new forecast is stored. -/
def fillMerged (ids : List Nat) (new : ForecastInbound) : ForecastTx Unit := do
  let gathered ← gets fun s => gather s ids new.id
  modify fun s => { s with
    forecasts := s.forecasts.update (fun f => isOpen f ∧ ∃ id ∈ f.relateOrderSet, id ∈ ids)
      fun f => { f with status := .canceled } }
  forEach gathered.details fun d =>
    ForecastInboundDetail.create { d with forecastArriveNum := gathered.num d.skuId }

/-- The call on day `today` makes the number `forecastNo`. -/
def merge (today : Nat) (forecastNo : String) (ids : List Nat) : ForecastTx ForecastInbound := do
  let first ← getOr .attributeError fun s => (joined s ids).head?
  let supplier ← getOr .attributeError fun s => first.supplierId.bind s.suppliers.get?
  let new ← ForecastInbound.create {
    id := 0
    forecastNo := forecastNo
    supplierId := some supplier.id
    relateOrderSet := []
    wareHouse := supplier.wareBy
    expressCode := ""
    expressNo := ""
    forecastArriveTime := some (today + supplier.deltaArriveDays)
    purchaser := first.purchaser
    status := .draft }
  fillMerged ids new
  pure new

/-- What `merge` is for. -/
structure Merges (today : Nat) (forecastNo : String) (s t : ForecastDb) (ids : List Nat)
    (new : ForecastInbound) : Prop where
  returns : (merge today forecastNo ids).run s = (.ok new, t)
  sums : ∀ sku, ((t.details.filter fun d => d.forecastInbound = new.id ∧ d.skuId = sku).map
      ForecastInboundDetail.forecastArriveNum).sum =
    ((openFor s ids).map fun f => ((s.details.filter fun d =>
      d.forecastInbound = f.id ∧ d.skuId = sku).map
        ForecastInboundDetail.forecastArriveNum).sum).sum
  cancelled : ∀ f ∈ openFor s ids, ∃ f' ∈ t.forecasts, f'.id = f.id ∧ f'.status = .canceled
  only : ∀ f ∈ openFor t ids, f.id = new.id
  related : ∀ f ∈ t.forecasts, f.id = new.id → ∀ id ∈ ids, id ∈ f.relateOrderSet

theorem mem_created {forecast stored : ForecastInbound} {s t : ForecastDb}
    (h : (ForecastInbound.create forecast).run s = (.ok stored, t)) :
    stored ∈ t.forecasts ∧ stored.relateOrderSet = forecast.relateOrderSet := by
  unfold ForecastInbound.create at h
  rw [gets_bind_run, raiseIf_bind_run] at h
  split at h
  · cases h
  · rw [gets_bind_run, modify_bind_run] at h
    obtain ⟨rfl, rfl⟩ := pure_eq_ok.1 h
    exact ⟨Table.mem_insert.2 (.inr rfl), rfl⟩

def SameForecasts (s t : ForecastDb) : Prop := t.forecasts = s.forecasts

theorem create_forecasts (detail : ForecastInboundDetail) :
    Keeps SameForecasts (ForecastInboundDetail.create detail) := by
  intro s
  unfold ForecastInboundDetail.create
  rw [gets_bind_run, raiseIf_bind_run]
  split
  · rfl
  · rfl

/-- The rows that are filled in change no more than the status of a forecast. -/
theorem mem_fillMerged (ids : List Nat) {new : ForecastInbound} {s : ForecastDb}
    (hnew : new ∈ s.forecasts) :
    ∃ f ∈ ((fillMerged ids new).run s).2.forecasts,
      f.id = new.id ∧ f.relateOrderSet = new.relateOrderSet := by
  unfold fillMerged
  rw [gets_bind_run, modify_bind_run]
  have hkeeps : Keeps SameForecasts (forEach (gather s ids new.id).details fun d =>
      ForecastInboundDetail.create
        { d with forecastArriveNum := (gather s ids new.id).num d.skuId }) :=
    Keeps.forEach (R := SameForecasts) (fun _ => Eq.refl _) (fun _ _ _ h h' => Eq.trans h' h)
      (fun _ => create_forecasts _) _
  have hforecasts := hkeeps { s with
    forecasts := s.forecasts.update (fun f => isOpen f ∧ ∃ id ∈ f.relateOrderSet, id ∈ ids)
      fun f => { f with status := .canceled } }
  rw [SameForecasts] at hforecasts
  rw [hforecasts]
  refine ⟨_, Table.mem_update_of_mem hnew, ?_⟩
  split
  · exact ⟨rfl, rfl⟩
  · exact ⟨rfl, rfl⟩

def sharedForecast : ForecastDb where
  forecasts := Table.empty.insert {
    id := 0
    forecastNo := "frd1"
    supplierId := some 1
    relateOrderSet := [1, 2]
    wareHouse := 0
    expressCode := ""
    expressNo := ""
    forecastArriveTime := none
    purchaser := ""
    status := .draft }
  details := Table.empty.insert ⟨0, 1, 1, 5, 3, "", "", .normal⟩
  realInbounds := Table.empty
  realDetails := Table.empty
  orderLists := Table.empty
  suppliers := Table.empty.insert ⟨0, 0, 2⟩

/-- The goods of a forecast for both lists are counted twice. -/
theorem merge_doubles : ∃ t new,
    (merge 7 "frd2" [1, 2]).run sharedForecast = (.ok new, t) ∧
      ¬ Merges 7 "frd2" sharedForecast t [1, 2] new := by
  refine ⟨_, _, rfl, fun h => ?_⟩
  have hsums := h.sums 5
  revert hsums
  decide

/-- No merged forecast is related to the order lists. -/
theorem never_merges (today : Nat) (forecastNo : String) (s : ForecastDb) (ids : List Nat) :
    ¬ ∃ t new, Merges today forecastNo s t ids new := by
  rintro ⟨t, new, h⟩
  obtain ⟨first, hhead, hrun⟩ := getOr_bind_eq_ok.1 h.returns
  obtain ⟨id, hid⟩ : ∃ id, id ∈ ids := by
    obtain ⟨f, _, hjoined⟩ := List.mem_flatMap.1 (List.mem_of_head? hhead)
    obtain ⟨id, hid, _⟩ := List.mem_map.1 hjoined
    exact ⟨id, of_decide_eq_true (List.mem_filter.1 hid).2⟩
  obtain ⟨supplier, _, hrun⟩ := getOr_bind_eq_ok.1 hrun
  obtain ⟨stored, s₁, hcreate, hrun⟩ := bind_eq_ok.1 hrun
  obtain ⟨_, s₂, hfill, hpure⟩ := bind_eq_ok.1 hrun
  obtain ⟨rfl, rfl⟩ := pure_eq_ok.1 hpure
  obtain ⟨hmem, hrelated⟩ := mem_created hcreate
  obtain ⟨f, hf, hid', hsame⟩ := mem_fillMerged ids hmem
  rw [hfill] at hf
  have hnil := h.related f hf hid' id hid
  rw [hsame, hrelated] at hnil
  exact List.not_mem_nil hnil

end ShopManager.Forecast
