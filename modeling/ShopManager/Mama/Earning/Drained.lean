import ShopManager.Mama.Earning.Mirror

/-!
# Working off the queue

Taking a task off the queue changes no forecast, and the queue comes to its end.  In a
drained store the forecasts are the records themselves.
-/

namespace ShopManager.Mama.Earning

open Library Library.Tx Library.Execution EarningDb
open Pay.Refund (RefundStatus)

/-! ## One task -/

/-- What working leaves as it was: the awards, the direct carries and every forecast. -/
structure Same (around : Surroundings) (s s' : EarningDb) : Prop where
  awards : s'.awards = s.awards
  sane : Sane s'.orderCarries
  direct : ∀ c : OrderCarry, c.isDirectOrFansCarry = true →
    (c ∈ s'.orderCarries ↔ c ∈ s.orderCarries)
  free : ∀ key, find s'.orderCarries key = none → find s.orderCarries key = none
  forecast : ∀ key, find s'.orderCarries key = none ∨ (∀ orderId, key ≠ secondKey orderId) →
    forecast s' key = forecast s key
  second : ∀ orderId, forecastSecond around s' orderId = forecastSecond around s orderId

theorem notOrder_ne_secondKey {key : String} (h : NotOrder key) (orderId : String) :
    key ≠ secondKey orderId := (h.ne_key .referalOrder orderId).symm

theorem direct_ne_secondKey {carries : Table OrderCarry} (h : Sane carries)
    {carry : OrderCarry} (hmem : carry ∈ carries) (hdirect : carry.isDirectOrFansCarry = true)
    (orderId : String) : carry.uniKey ≠ secondKey orderId :=
  (secondKey_ne_direct (h.keyed carry hmem) hdirect orderId).symm

section Work

variable {around : Surroundings} {s s' : EarningDb}

theorem Settled.same (h : Settled around s) (hsame : Same around s s') : Settled around s' := by
  refine ⟨hsame.sane, ?_, ?_, ?_, ?_, ?_, ?_⟩
  · intro key award haward
    rw [hsame.awards] at haward
    exact h.awardKeys key award haward
  · intro key haward hfind
    rw [hsame.awards] at haward
    rw [hsame.forecast key (Or.inl hfind)]
    exact h.strangers key haward (hsame.free key hfind)
  · intro key award haward hmama
    rw [hsame.awards] at haward
    rw [hsame.forecast key (Or.inr (notOrder_ne_secondKey (h.awardKeys key award haward)))]
    exact h.nobodyAward key award haward hmama
  · intro c hc hdirect hmama
    rw [hsame.forecast c.uniKey (Or.inr (direct_ne_secondKey hsame.sane hc hdirect))]
    exact h.nobodyOrder c ((hsame.direct c hdirect).1 hc) hdirect hmama
  · intro c hc hdirect
    rw [hsame.second]
    exact h.shared c ((hsame.direct c hdirect).1 hc) hdirect
  · intro orderId hnone
    rw [hsame.second]
    apply h.secondless
    intro c hc hdirect
    exact hnone c ((hsame.direct c hdirect).2 hc) hdirect

theorem Faithful.same_iff (h : Settled around s) (hsame : Same around s s') :
    Faithful around s' ↔ Faithful around s := by
  have haward : ∀ key award, s.awards key = some award →
      Earning.forecast s' key = Earning.forecast s key := by
    intro key award haward
    exact hsame.forecast key
      (Or.inr (notOrder_ne_secondKey (h.awardKeys key award haward)))
  have hdirect : ∀ c ∈ s'.orderCarries, c.isDirectOrFansCarry = true →
      Earning.forecast s' c.uniKey = Earning.forecast s c.uniKey := by
    intro c hc hdirect
    exact hsame.forecast c.uniKey (Or.inr (direct_ne_secondKey hsame.sane hc hdirect))
  constructor
  · intro hf
    refine ⟨?_, ?_, ?_⟩
    · intro key award hsome
      rw [← haward key award hsome]
      exact hf.award key award (hsame.awards ▸ hsome)
    · intro c hc hlevel
      have hc' := (hsame.direct c hlevel).2 hc
      rw [← hdirect c hc' hlevel]
      exact hf.direct c hc' hlevel
    · intro c hc hlevel
      rw [← hsame.second]
      exact hf.second c ((hsame.direct c hlevel).2 hc) hlevel
  · intro hf
    refine ⟨?_, ?_, ?_⟩
    · intro key award hsome
      rw [hsame.awards] at hsome
      rw [haward key award hsome]
      exact hf.award key award hsome
    · intro c hc hlevel
      rw [hdirect c hc hlevel]
      exact hf.direct c ((hsame.direct c hlevel).1 hc) hlevel
    · intro c hc hlevel
      rw [hsame.second]
      exact hf.second c ((hsame.direct c hlevel).1 hc) hlevel

theorem same_of_record {task : Task} {rest : List Task} {carry : CarryDb}
    (hsane : Sane s.orderCarries) (hqueue : s.queue = task :: rest)
    (hentry : ∀ key, entry carry.carryRecords key =
      Task.onEntry key (entry s.carry.carryRecords key) task)
    (hsecond : ∀ orderId second, Task.onSecond around orderId second task = second) :
    Same around s { s with queue := rest, carry := carry } := by
  have hforecast : ∀ key, Earning.forecast { s with queue := rest, carry := carry } key =
      Earning.forecast s key := by
    intro key
    rw [Earning.forecast, Earning.forecast, hqueue, List.foldl_cons, hentry]
  refine ⟨rfl, hsane, fun _ _ => Iff.rfl, fun _ h => h, fun key _ => hforecast key, ?_⟩
  intro orderId
  rw [forecastSecond, forecastSecond, hforecast, hqueue, List.foldl_cons, hsecond]

/-! ### The task of the second level -/

theorem secondLevel_of_find {carries : Table OrderCarry} (h : Sane carries) {orderId : String}
    {record : OrderCarry} (hfind : find carries (secondKey orderId) = some record) :
    record.carryType = .referalOrder ∧ record.orderId = orderId := by
  have hkey := (h.keyed record (mem_of_find hfind)).symm.trans (uniKey_of_find_carry hfind)
  obtain ⟨htypes, horder⟩ := genOrdercarryUnikey_inj.1 hkey
  refine ⟨?_, horder⟩
  cases htype : record.carryType <;> rw [htype] at htypes <;> revert htypes <;> decide

theorem filter_secondLevel {carries : Table OrderCarry} (h : Sane carries) (orderId : String) :
    (carries.filter fun c => c.orderId = orderId ∧ c.carryType = .referalOrder) =
      match find carries (secondKey orderId) with
      | some c => [c]
      | none => [] := by
  have hkey : ∀ c ∈ carries, decide (c.orderId = orderId ∧ c.carryType = .referalOrder) = true →
      c.uniKey = secondKey orderId := by
    intro c hc hdecide
    obtain ⟨horder, htype⟩ := of_decide_eq_true hdecide
    rw [h.keyed c hc, horder, htype]
    rfl
  cases hfind : find carries (secondKey orderId) with
  | none =>
    apply List.filter_eq_nil_iff.2
    intro c hc hdecide
    exact find_eq_none.1 hfind c hc (hkey c hc hdecide)
  | some c =>
    have hmem := mem_of_find hfind
    have hown := uniKey_of_find_carry hfind
    obtain ⟨htype, horder⟩ := secondLevel_of_find h hfind
    apply Table.filter_eq_singleton hmem (decide_eq_true ⟨horder, htype⟩)
    intro c' hc' hdecide
    exact h.unique c' hc' c hmem ((hkey c' hc' hdecide).trans hown.symm)

end Work

section SecondLevel

variable {around : Surroundings} {s : EarningDb} {ship : ReferalRelationship}
  {carry : OrderCarry} {rest : List Task}

theorem taskUpdateSecondLevelOrdercarry_snd (h : Sane s.orderCarries) (moment : Moment) :
    ((taskUpdateSecondLevelOrdercarry around moment ship carry).run s).2 =
      match find s.orderCarries (secondKey carry.orderId) with
      | some record =>
        if record.status = carry.status then s
        else stored around s (s.orderCarries.save { record with status := carry.status })
          { record with status := carry.status }
      | none =>
        match derives around ship carry with
        | none => s
        | some _ =>
          stored around s
            (s.orderCarries.insert
              (secondLevelCarry moment ship carry (tenPercent carry.carryNum)))
            (s.orderCarries.stored
              (secondLevelCarry moment ship carry (tenPercent carry.carryNum))) := by
  unfold taskUpdateSecondLevelOrdercarry
  rw [gets_bind_run, filter_secondLevel h]
  cases hfind : find s.orderCarries (secondKey carry.orderId) with
  | some record =>
    simp only
    rw [if_pos (List.cons_ne_nil record []), forEach_cons,
      bind_ok (syncStatus_run around carry.status record s)]
    rfl
  | none =>
    simp only
    rw [if_neg (not_not.2 rfl), getOr_bind_run]
    unfold derives
    cases around.saleOrderItem carry.orderId with
    | none => rfl
    | some item =>
      simp only
      by_cases hproduct : around.product item = true
      · have hfirst : (s.orderCarries.first fun c =>
            c.uniKey = genOrdercarryUnikey .referalOrder carry.orderId) = none := hfind
        rw [if_pos hproduct]
        unfold genOrdercarry
        simp only [gets_bind_run, hfirst]
        by_cases hself : ship.referalFromMamaId = ship.referalToMamaId
        · rw [if_pos hself, if_neg fun hand => hand.2 hself]
          rfl
        · rw [if_neg hself, if_pos ⟨hproduct, hself⟩]
          have hfree : find s.orderCarries (secondLevelCarry moment ship carry
              (tenPercent carry.carryNum)).uniKey = none := hfind
          rw [insertOrWarn_run hfree]
      · rw [if_neg hproduct, if_neg fun hand => hproduct hand.1]
        rfl

def current (s : EarningDb) (orderId : String) : Second :=
  { share := secondOf s.orderCarries orderId, entry := forecast s (secondKey orderId) }

theorem forecast_tail (hqueue : s.queue = .updateSecondLevelOrdercarry ship carry :: rest)
    (key : String) : forecast { s with queue := rest } key = forecast s key := by
  rw [forecast, forecast, hqueue, List.foldl_cons]
  rfl

theorem forecastSecond_cons (hqueue : s.queue = .updateSecondLevelOrdercarry ship carry :: rest)
    (orderId : String) :
    forecastSecond around s orderId =
      rest.foldl (Task.onSecond around orderId)
        (if orderId = carry.orderId then (current s orderId).after around ship carry
          else current s orderId) := by
  rw [forecastSecond, hqueue, List.foldl_cons]
  rfl

theorem same_of_idle (hsane : Sane s.orderCarries)
    (hqueue : s.queue = .updateSecondLevelOrdercarry ship carry :: rest)
    (hidle : (current s carry.orderId).after around ship carry = current s carry.orderId) :
    Same around s { s with queue := rest } := by
  refine ⟨rfl, hsane, fun _ _ => Iff.rfl, fun _ h => h, fun key _ => forecast_tail hqueue key, ?_⟩
  intro orderId
  have hcurrent : forecastSecond around { s with queue := rest } orderId =
      rest.foldl (Task.onSecond around orderId) (current s orderId) := by
    rw [forecastSecond, forecast_tail hqueue]
    rfl
  rw [hcurrent, forecastSecond_cons hqueue]
  by_cases horder : orderId = carry.orderId
  · rw [if_pos horder, horder, hidle]
  · rw [if_neg horder]

theorem same_of_stored (hsane : Sane s.orderCarries)
    (hqueue : s.queue = .updateSecondLevelOrdercarry ship carry :: rest)
    {carries : Table OrderCarry} {second : OrderCarry} (hput : Put s.orderCarries carries second)
    (htype : second.carryType = .referalOrder) (horder : second.orderId = carry.orderId)
    (hkey : second.uniKey = secondKey carry.orderId)
    (hafter : (current s carry.orderId).after around ship carry =
      { share := some (shareOf second)
        entry := follow (gainOfOrder second) (forecast s (secondKey carry.orderId)) }) :
    Same around s (stored around { s with queue := rest } carries second) := by
  have hkeyed : second.uniKey = genOrdercarryUnikey second.carryType second.orderId := by
    rw [hkey, htype, horder]
    rfl
  have hsane' : Sane carries := hsane.put hput hkeyed (Or.inr htype)
  have hlevel : ¬ second.isDirectOrFansCarry = true := by
    unfold OrderCarry.isDirectOrFansCarry
    rw [htype]
    decide
  have hnotices : notices around second = [.ordercarryUpdateCarryrecord second] := if_neg hlevel
  have hforecast : ∀ key, forecast (stored around { s with queue := rest } carries second) key =
      if key = second.uniKey then follow (gainOfOrder second) (forecast s key)
      else forecast s key := by
    intro key
    rw [forecast_stored, forecast_tail hqueue]
  refine ⟨rfl, hsane', ?_, ?_, ?_, ?_⟩
  · intro c hc
    constructor
    · intro hmem
      rcases (hput c).1 hmem with rfl | ⟨hold, -⟩
      · exact absurd hc hlevel
      · exact hold
    · intro hmem
      refine (hput c).2 (Or.inr ⟨hmem, ?_⟩)
      rw [hkey]
      exact direct_ne_secondKey hsane hmem hc carry.orderId
  · intro key hfind
    have hcarries : find carries key = none := hfind
    rw [hput.find hsane hsane'] at hcarries
    by_cases heq : key = second.uniKey
    · rw [if_pos heq] at hcarries
      exact absurd hcarries (Option.some_ne_none second)
    · rw [if_neg heq] at hcarries
      exact hcarries
  · intro key hothers
    rw [hforecast]
    apply if_neg
    rintro rfl
    rcases hothers with hfind | hne
    · exact find_eq_none.1 hfind second ((hput second).2 (Or.inl rfl)) rfl
    · exact hne carry.orderId hkey
  · intro orderId
    have hcurrent : forecastSecond around (stored around { s with queue := rest } carries second)
        orderId =
        rest.foldl (Task.onSecond around orderId)
          { share := secondOf carries orderId
            entry := forecast (stored around { s with queue := rest } carries second)
              (secondKey orderId) } := by
      rw [forecastSecond]
      have hqueue' : (stored around { s with queue := rest } carries second).queue =
          rest ++ [.ordercarryUpdateCarryrecord second] := by
        rw [← hnotices]
        rfl
      rw [hqueue', List.foldl_append]
      rfl
    rw [hcurrent, forecastSecond_cons hqueue, hforecast, secondOf_put hsane hsane' hput]
    by_cases heq : orderId = carry.orderId
    · have hown : secondKey orderId = second.uniKey := by rw [heq, hkey]
      rw [if_pos hown, if_pos hown, if_pos heq, heq, hafter]
    · have hother : secondKey orderId ≠ second.uniKey := by
        rw [hkey]
        exact fun h => heq (secondKey_inj.1 h)
      rw [if_neg hother, if_neg hother, if_neg heq]
      rfl

theorem current_share_of_find {record : OrderCarry}
    (hfind : find s.orderCarries (secondKey carry.orderId) = some record) :
    (current s carry.orderId).share = some (shareOf record) :=
  congrArg (Option.map shareOf) hfind

theorem current_share_of_free
    (hfind : find s.orderCarries (secondKey carry.orderId) = none) :
    (current s carry.orderId).share = none :=
  congrArg (Option.map shareOf) hfind

theorem same_secondLevel (hsane : Sane s.orderCarries)
    (hqueue : s.queue = .updateSecondLevelOrdercarry ship carry :: rest) (moment : Moment) :
    Same around s
      ((taskUpdateSecondLevelOrdercarry around moment ship carry).run
        { s with queue := rest }).2 := by
  have hrest : Sane ({ s with queue := rest } : EarningDb).orderCarries := hsane
  rw [taskUpdateSecondLevelOrdercarry_snd hrest]
  cases hfind : find s.orderCarries (secondKey carry.orderId) with
  | some record =>
    have hshare := current_share_of_find hfind
    have hmem := mem_of_find hfind
    have hkey := uniKey_of_find_carry hfind
    obtain ⟨htype, horder⟩ := secondLevel_of_find hsane hfind
    simp only
    by_cases hstatus : record.status = carry.status
    · rw [if_pos hstatus]
      exact same_of_idle hsane hqueue (after_of_same hshare hstatus ship)
    · rw [if_neg hstatus]
      exact same_of_stored hsane hqueue (hsane.put_save hmem rfl rfl) htype horder hkey
        (after_of_other hshare hstatus ship)
  | none =>
    have hshare := current_share_of_free hfind
    have hafter : (current s carry.orderId).after around ship carry = _ :=
      after_of_absent hshare ship
    cases hderives : derives around ship carry with
    | none =>
      simp only
      rw [hderives] at hafter
      exact same_of_idle hsane hqueue hafter
    | some share =>
      simp only
      rw [hderives] at hafter
      have hfree : find s.orderCarries (secondLevelCarry moment ship carry
          (tenPercent carry.carryNum)).uniKey = none := hfind
      have hput := put_insert hfree
      refine same_of_stored hsane hqueue hput rfl rfl rfl ?_
      have hown : share = shareOf (s.orderCarries.stored
          (secondLevelCarry moment ship carry (tenPercent carry.carryNum))) := by
        unfold derives at hderives
        split at hderives
        · exact absurd hderives.symm (Option.some_ne_none share)
        · split at hderives
          · cases hderives
            rfl
          · exact absurd hderives.symm (Option.some_ne_none share)
      rw [hafter, hown]
      rfl

end SecondLevel

/-! ## The whole queue -/

section Queue

variable {around : Surroundings} {s : EarningDb}

theorem work_nil (hqueue : s.queue = []) (moment : Moment) :
    ((work around moment).run s).2 = s := by
  unfold work
  rw [gets_bind_run, hqueue]
  rfl

theorem work_cons {task : Task} {rest : List Task} (hqueue : s.queue = task :: rest)
    (moment : Moment) :
    ((work around moment).run s).2 =
      ((task.perform around moment).run { s with queue := rest }).2 := by
  unfold work
  rw [gets_bind_run, hqueue]
  simp only
  rw [modify_bind_run]

theorem same_refl (hsane : Sane s.orderCarries) : Same around s s :=
  ⟨rfl, hsane, fun _ _ => Iff.rfl, fun _ h => h, fun _ _ => rfl, fun _ => rfl⟩

theorem same_work (hsane : Sane s.orderCarries) (moment : Moment) :
    Same around s ((work around moment).run s).2 := by
  cases hqueue : s.queue with
  | nil =>
    rw [work_nil hqueue]
    exact same_refl hsane
  | cons task rest =>
    rw [work_cons hqueue]
    cases task with
    | awardcarryUpdateCarryrecord uniKey carry =>
      refine same_of_record hsane hqueue ?_ fun _ _ => rfl
      intro key
      rw [entry_taskAwardcarryUpdateCarryrecord]
      by_cases heq : key = uniKey
      · rw [if_pos heq, heq]
        exact (if_pos rfl).symm
      · rw [if_neg heq]
        exact (if_neg heq).symm
    | ordercarryUpdateCarryrecord carry =>
      refine same_of_record hsane hqueue ?_ fun _ _ => rfl
      intro key
      rw [entry_taskOrdercarryUpdateCarryrecord]
      by_cases heq : key = carry.uniKey
      · rw [if_pos heq, heq]
        exact (if_pos rfl).symm
      · rw [if_neg heq]
        exact (if_neg heq).symm
    | updateSecondLevelOrdercarry ship carry => exact same_secondLevel hsane hqueue moment

def Task.weight : Task → Nat
  | awardcarryUpdateCarryrecord _ _ => 1
  | ordercarryUpdateCarryrecord _ => 1
  | updateSecondLevelOrdercarry _ _ => 2

def size (s : EarningDb) : Nat := (s.queue.map Task.weight).sum

theorem size_stored_second (carries : Table OrderCarry) {second : OrderCarry}
    (htype : second.carryType = .referalOrder) :
    size (stored around s carries second) = size s + 1 := by
  have hlevel : ¬ second.isDirectOrFansCarry = true := by
    unfold OrderCarry.isDirectOrFansCarry
    rw [htype]
    decide
  have hnotices : notices around second = [.ordercarryUpdateCarryrecord second] := if_neg hlevel
  simp [size, stored, hnotices, Task.weight]

theorem size_secondLevel (hsane : Sane s.orderCarries) (moment : Moment)
    (ship : ReferalRelationship) (carry : OrderCarry) :
    size ((taskUpdateSecondLevelOrdercarry around moment ship carry).run s).2 ≤ size s + 1 := by
  rw [taskUpdateSecondLevelOrdercarry_snd hsane]
  cases hfind : find s.orderCarries (secondKey carry.orderId) with
  | some record =>
    simp only
    split
    · exact Nat.le_succ _
    · have htype : ({ record with status := carry.status } : OrderCarry).carryType =
          .referalOrder := (secondLevel_of_find hsane hfind).1
      exact (size_stored_second _ htype).le
  | none =>
    simp only
    split
    · exact Nat.le_succ _
    · exact (size_stored_second _ rfl).le

theorem size_work_lt (hsane : Sane s.orderCarries) (moment : Moment) (hne : s.queue ≠ []) :
    size ((work around moment).run s).2 < size s := by
  cases hqueue : s.queue with
  | nil => exact absurd hqueue hne
  | cons task rest =>
    have hsize : size s = task.weight + size { s with queue := rest } := by
      simp [size, hqueue]
    rw [work_cons hqueue, hsize]
    cases task with
    | awardcarryUpdateCarryrecord uniKey carry => exact Nat.lt_add_of_pos_left Nat.one_pos
    | ordercarryUpdateCarryrecord carry => exact Nat.lt_add_of_pos_left Nat.one_pos
    | updateSecondLevelOrdercarry ship carry =>
      have hrest : Sane ({ s with queue := rest } : EarningDb).orderCarries := hsane
      have hle : size ((taskUpdateSecondLevelOrdercarry around moment ship carry).run
          { s with queue := rest }).2 ≤ size { s with queue := rest } + 1 :=
        size_secondLevel hrest moment ship carry
      simp only [Task.perform, Task.weight]
      omega

def worked (around : Surroundings) (moments : List Moment) (s : EarningDb) : EarningDb :=
  run (fun moment => exec around (.work moment)) moments s

theorem settled_worked (h : Settled around s) (moments : List Moment) :
    Settled around (worked around moments s) ∧
      (Faithful around (worked around moments s) ↔ Faithful around s) := by
  induction moments generalizing s with
  | nil => exact ⟨h, Iff.rfl⟩
  | cons moment moments ih =>
    have hsame : Same around s (exec around (.work moment) s) := same_work h.sane moment
    obtain ⟨hsettled, hfaithful⟩ := ih (h.same hsame)
    exact ⟨hsettled, hfaithful.trans (Faithful.same_iff h hsame)⟩

theorem exists_drained (h : Settled around s) :
    ∃ moments, (worked around moments s).queue = [] := by
  induction hn : size s using Nat.strong_induction_on generalizing s with
  | h n ih =>
    by_cases hqueue : s.queue = []
    · exact ⟨[], hqueue⟩
    · have moment : Moment := ⟨⟨""⟩, 0, ""⟩
      have hsame : Same around s (exec around (.work moment) s) := same_work h.sane moment
      have hlt : size (exec around (.work moment) s) < n :=
        hn ▸ size_work_lt h.sane moment hqueue
      obtain ⟨moments, hdrained⟩ := ih _ hlt (h.same hsame) rfl
      exact ⟨moment :: moments, hdrained⟩

end Queue

/-! ## The law -/

/-- In a store without queued tasks: the record of every carry of a mama mirrors it, and
the second-level carry of a direct one has its status and a tenth of its amount, and is
there wherever it can be made. -/
structure Mirrored (around : Surroundings) (s : EarningDb) : Prop where
  award : ∀ key award, s.awards key = some award → 0 < award.mamaId →
    Mirrors (gainOfAward award) (entry s.carry.carryRecords key)
  order : ∀ c ∈ s.orderCarries, 0 < c.mamaId →
    Mirrors (gainOfOrder c) (entry s.carry.carryRecords c.uniKey)
  second : ∀ c ∈ s.orderCarries, c.isDirectOrFansCarry = true →
    ∀ c' ∈ s.orderCarries, c'.carryType = .referalOrder → c'.orderId = c.orderId →
      c'.status = c.status ∧ c'.carryNum = tenPercent c.carryNum
  made : ∀ c ∈ s.orderCarries, c.isDirectOrFansCarry = true →
    ∀ ship item, c.upper around = some ship → around.saleOrderItem c.orderId = some item →
      around.product item = true → ship.referalFromMamaId ≠ ship.referalToMamaId →
      ∃ c' ∈ s.orderCarries, c'.carryType = .referalOrder ∧ c'.orderId = c.orderId

section Law

variable {around : Surroundings} {s : EarningDb}

theorem mirrors_nobody {gain : Gain} (hmama : gain.mamaId = 0) : Mirrors gain none := by
  refine ⟨?_, ?_⟩
  · intro hpos
    exact absurd hmama (Nat.pos_iff_ne_zero.1 hpos)
  · intro entry hentry
    exact absurd hentry (Option.not_mem_none entry)

theorem Settled.direct_of_second (h : Settled around s) (hqueue : s.queue = [])
    {c : OrderCarry} (hc : c ∈ s.orderCarries) (htype : c.carryType = .referalOrder) :
    (forecastSecond around s c.orderId).share = some (shareOf c) ∧
      ∃ d ∈ s.orderCarries, d.isDirectOrFansCarry = true ∧ d.orderId = c.orderId := by
  have hkey : c.uniKey = secondKey c.orderId := by
    rw [h.sane.keyed c hc, htype]
    rfl
  have hfind : find s.orderCarries (secondKey c.orderId) = some c := by
    rw [← hkey]
    exact h.sane.find_of_mem hc
  have hshare : (forecastSecond around s c.orderId).share = some (shareOf c) := by
    rw [forecastSecond_drained hqueue]
    exact congrArg (Option.map shareOf) hfind
  refine ⟨hshare, ?_⟩
  by_contra hnone
  have hnothing := h.secondless c.orderId fun d hd hdirect horder =>
    hnone ⟨d, hd, hdirect, horder⟩
  rw [hnothing] at hshare
  exact absurd hshare.symm (Option.some_ne_none _)

theorem Settled.mirrored_iff (h : Settled around s) (hqueue : s.queue = []) :
    Mirrored around s ↔ Faithful around s := by
  constructor
  · intro hm
    refine ⟨?_, ?_, ?_⟩
    · intro key award haward
      rcases Nat.eq_zero_or_pos award.mamaId with hmama | hmama
      · rw [h.nobodyAward key award haward hmama]
        exact mirrors_nobody hmama
      · rw [forecast_drained hqueue]
        exact hm.award key award haward hmama
    · intro c hc hdirect
      rcases Nat.eq_zero_or_pos c.mamaId with hmama | hmama
      · rw [h.nobodyOrder c hc hdirect hmama]
        exact mirrors_nobody hmama
      · rw [forecast_drained hqueue]
        exact hm.order c hc hmama
    · intro c hc hdirect share hshare
      have hnobody := ((h.shared c hc hdirect).share share hshare).2.2
      rcases Nat.eq_zero_or_pos share.mamaId with hmama | hmama
      · rw [hnobody hmama]
        exact mirrors_nobody hmama
      · rw [forecastSecond_drained hqueue] at hshare ⊢
        obtain ⟨c', hfind, hshare'⟩ := Option.map_eq_some_iff.1 hshare
        have hkey := uniKey_of_find_carry hfind
        have hmama' : 0 < c'.mamaId := by
          rw [← hshare'] at hmama
          exact hmama
        have hmirrors := hm.order c' (mem_of_find hfind) hmama'
        rw [hkey] at hmirrors
        rw [← hshare']
        exact hmirrors
  · intro hf
    refine ⟨?_, ?_, ?_, ?_⟩
    · intro key award haward _
      rw [← forecast_drained hqueue]
      exact hf.award key award haward
    · intro c hc _
      rw [← forecast_drained hqueue]
      rcases h.sane.levels c hc with hdirect | htype
      · exact hf.direct c hc hdirect
      · obtain ⟨hshare, d, hd, hdirect, horder⟩ := h.direct_of_second hqueue hc htype
        have hmirrors := hf.second d hd hdirect
        rw [horder] at hmirrors
        have hentry := hmirrors (shareOf c) hshare
        have hkey : c.uniKey = secondKey c.orderId := by
          rw [h.sane.keyed c hc, htype]
          rfl
        rw [forecastSecond_drained hqueue, ← hkey] at hentry
        rw [forecast_drained hqueue]
        exact hentry
    · intro c hc hdirect c' hc' htype horder
      obtain ⟨hshare, -⟩ := h.direct_of_second hqueue hc' htype
      rw [horder] at hshare
      have hshared := h.shared c hc hdirect
      exact ⟨hshared.status _ hshare, (hshared.share _ hshare).1⟩
    · intro c hc hdirect ship item hship hitem hproduct hself
      have hshared := h.shared c hc hdirect
      cases hshare : (forecastSecond around s c.orderId).share with
      | none =>
        have hderives := hshared.made hshare ship hship
        have hsome : derives around ship c = some
            ⟨ship.referalFromMamaId, tenPercent c.carryNum, c.status⟩ := by
          unfold derives
          rw [hitem]
          exact if_pos ⟨hproduct, hself⟩
        rw [hsome] at hderives
        exact absurd hderives (Option.some_ne_none _)
      | some share =>
        rw [forecastSecond_drained hqueue] at hshare
        obtain ⟨c', hfind, -⟩ := Option.map_eq_some_iff.1 hshare
        exact ⟨c', mem_of_find hfind, secondLevel_of_find h.sane hfind⟩

/-- No operation takes a carry that has a record, or will have one once the queued tasks
have run, back from a later status. -/
def Forward (around : Surroundings) (s : EarningDb) : Operation → Prop
  | .taskUpdateOrdercarry _ order args => OrderAllowed around s order args
  | .sendAward _ _ _ => True
  | .confirmAward uniKey => AwardAllowed s uniKey.text .confirmed
  | .cancelAward _ => True
  | .taskSendMamaWeeklyAward _ mamaId missionRecordId =>
      ∀ mission, missionOf around mamaId missionRecordId = some mission →
        Revivable s (weeklyKey mission.mamaId missionRecordId).text
  | .taskCancelOrFinishMamaMissionAward missionRecordId value =>
      ∀ mission, around.missionRecord missionRecordId = some mission →
        value ≥ mission.targetValue →
        AwardAllowed s (weeklyKey mission.mamaId missionRecordId).text .confirmed
  | .taskCancelMamaWeeklyAward _ _ => True
  | .work _ => True

theorem settled_exec (h : Settled around s) (op : Operation) :
    Settled around (exec around op s) := by
  cases op with
  | taskUpdateOrdercarry moment order args =>
    exact settled_taskUpdateOrdercarry h moment order args
  | sendAward today uniKey args => exact settled_sendAward h today uniKey args
  | confirmAward uniKey =>
    have hrun : exec around (.confirmAward uniKey) s = _ := onAward_confirm_snd uniKey s
    rw [hrun]
    exact settled_withAwardStatus h uniKey.text .confirmed
  | cancelAward uniKey =>
    have hrun : exec around (.cancelAward uniKey) s = _ := onAward_cancel_snd uniKey s
    rw [hrun]
    exact settled_withAwardStatus h uniKey.text .cancel
  | taskSendMamaWeeklyAward today mamaId missionRecordId =>
    exact settled_taskSendMamaWeeklyAward h today mamaId missionRecordId
  | taskCancelOrFinishMamaMissionAward missionRecordId value =>
    have hrun : exec around (.taskCancelOrFinishMamaMissionAward missionRecordId value) s = _ :=
      taskCancelOrFinish_snd missionRecordId value s
    rw [hrun]
    split
    · exact h
    · split
      · exact settled_withAwardStatus h _ .confirmed
      · exact h
  | taskCancelMamaWeeklyAward mamaId missionRecordId =>
    have hrun : exec around (.taskCancelMamaWeeklyAward mamaId missionRecordId) s = _ :=
      taskCancelMamaWeeklyAward_snd mamaId missionRecordId s
    rw [hrun]
    split
    · exact h
    · exact settled_withAwardStatus h _ .cancel
  | work moment => exact h.same (same_work h.sane moment)

theorem faithful_exec_iff (h : Settled around s) (hf : Faithful around s) (op : Operation) :
    Faithful around (exec around op s) ↔ Forward around s op := by
  cases op with
  | taskUpdateOrdercarry moment order args =>
    exact faithful_taskUpdateOrdercarry_iff h hf moment order args
  | sendAward today uniKey args =>
    exact iff_of_true (faithful_sendAward h hf today uniKey args) trivial
  | confirmAward uniKey =>
    have hrun : exec around (.confirmAward uniKey) s = _ := onAward_confirm_snd uniKey s
    rw [hrun]
    exact faithful_withAwardStatus_iff h hf uniKey.text .confirmed
  | cancelAward uniKey =>
    have hrun : exec around (.cancelAward uniKey) s = _ := onAward_cancel_snd uniKey s
    rw [hrun]
    exact iff_of_true ((faithful_withAwardStatus_iff h hf uniKey.text .cancel).2
      (awardAllowed_cancel s uniKey.text)) trivial
  | taskSendMamaWeeklyAward today mamaId missionRecordId =>
    constructor
    · intro hnext mission hmission
      exact revivable_of_faithful h hf today mamaId missionRecordId hnext hmission
    · intro hrevivable
      exact faithful_taskSendMamaWeeklyAward h hf today mamaId missionRecordId hrevivable
  | taskCancelOrFinishMamaMissionAward missionRecordId value =>
    have hrun : exec around (.taskCancelOrFinishMamaMissionAward missionRecordId value) s = _ :=
      taskCancelOrFinish_snd missionRecordId value s
    rw [hrun]
    simp only [Forward]
    cases hmission : around.missionRecord missionRecordId with
    | none =>
      refine iff_of_true hf ?_
      intro mission hsome
      exact absurd hsome.symm (Option.some_ne_none mission)
    | some mission =>
      simp only
      by_cases hvalue : value ≥ mission.targetValue
      · rw [if_pos hvalue, faithful_withAwardStatus_iff h hf]
        constructor
        · rintro hallowed mission' ⟨⟩ _
          exact hallowed
        · intro hall
          exact hall mission rfl hvalue
      · rw [if_neg hvalue]
        refine iff_of_true hf ?_
        rintro mission' ⟨⟩ hvalue'
        exact absurd hvalue' hvalue
  | taskCancelMamaWeeklyAward mamaId missionRecordId =>
    have hrun : exec around (.taskCancelMamaWeeklyAward mamaId missionRecordId) s = _ :=
      taskCancelMamaWeeklyAward_snd mamaId missionRecordId s
    rw [hrun]
    refine iff_of_true ?_ trivial
    split
    · exact hf
    · exact (faithful_withAwardStatus_iff h hf _ .cancel).2 (awardAllowed_cancel s _)
  | work moment =>
    exact iff_of_true ((Faithful.same_iff h (same_work h.sane moment)).2 hf) trivial

def MirroredOnceWorked (around : Surroundings) (s : EarningDb) : Prop :=
  ∃ moments, (worked around moments s).queue = [] ∧ Mirrored around (worked around moments s)

theorem Settled.mirroredOnceWorked_iff (h : Settled around s) :
    MirroredOnceWorked around s ↔ Faithful around s := by
  constructor
  · rintro ⟨moments, hqueue, hmirrored⟩
    obtain ⟨hsettled, hfaithful⟩ := settled_worked h moments
    exact hfaithful.1 ((hsettled.mirrored_iff hqueue).1 hmirrored)
  · intro hf
    obtain ⟨moments, hqueue⟩ := exists_drained h
    obtain ⟨hsettled, hfaithful⟩ := settled_worked h moments
    exact ⟨moments, hqueue, (hsettled.mirrored_iff hqueue).2 (hfaithful.2 hf)⟩

theorem fresh_settled (around : Surroundings) (mamas : Nat → Option (Option Nat))
    (wallet : Pay.Wallet.WalletDb) :
    Settled around (fresh mamas wallet) ∧ Faithful around (fresh mamas wallet) := by
  have hnone : ∀ key (award : AwardCarry), (fresh mamas wallet).awards key ≠ some award :=
    fun _ award => (Option.some_ne_none award).symm
  have hempty : ∀ c, c ∉ (fresh mamas wallet).orderCarries := fun _ => List.not_mem_nil
  refine ⟨⟨sane_empty, ?_, ?_, ?_, ?_, ?_, ?_⟩, ?_, ?_, ?_⟩
  · intro key award haward
    exact absurd haward (hnone key award)
  · intro key _ _
    rfl
  · intro key award haward
    exact absurd haward (hnone key award)
  · intro c hc
    exact absurd hc (hempty c)
  · intro c hc
    exact absurd hc (hempty c)
  · intro orderId _
    rfl
  · intro key award haward
    exact absurd haward (hnone key award)
  · intro c hc
    exact absurd hc (hempty c)
  · intro c hc
    exact absurd hc (hempty c)

/-- In every run from a shop without carries, the records come to mirror the carries at
every moment exactly if no carry with a record ever comes back from a later status. -/
theorem mirrored_throughout_iff (around : Surroundings) (mamas : Nat → Option (Option Nat))
    (wallet : Pay.Wallet.WalletDb) (ops : List Operation) :
    Throughout (exec around) (MirroredOnceWorked around) ops (fresh mamas wallet) ↔
      Guarded (exec around) (Forward around) ops (fresh mamas wallet) := by
  obtain ⟨hsettled, hfaithful⟩ := fresh_settled around mamas wallet
  have hstep : ∀ s op, Settled around s → MirroredOnceWorked around s →
      (MirroredOnceWorked around (exec around op s) ↔ Forward around s op) := by
    intro s op h hm
    rw [(settled_exec h op).mirroredOnceWorked_iff]
    exact faithful_exec_iff h (h.mirroredOnceWorked_iff.1 hm) op
  exact throughout_iff_guarded (fun s op h => settled_exec h op) hstep ops _ hsettled
    (hsettled.mirroredOnceWorked_iff.2 hfaithful)

end Law

def noReferals : Surroundings where
  referalRelationship _ := none
  saleOrderItem _ := none
  product _ := false
  customer n := some ⟨n, "", ""⟩
  mamaCustomer _ := none
  weikefu _ := none
  missionRecord _ := none

def noon : Moment := ⟨⟨""⟩, 0, ""⟩

def paidOrder (refundStatus : RefundStatus) : Order where
  oid := String.ofList ['x']
  payment := 1000
  title := ""
  picPath := ""
  payTime := none
  created := ⟨""⟩
  status := .waitSellerSendGoods
  refundStatus := refundStatus
  teambuyCanSend := none

def saveOrder (refundStatus : RefundStatus) : Operation :=
  .taskUpdateOrdercarry noon (paidOrder refundStatus)
    { mamaId := 1
      customerPk := 7
      carryAmount := 100
      agencyLevel := 1
      carryPlanName := ""
      viaApp := false }

def afterRefusal : EarningDb :=
  worked noReferals [noon, noon, noon]
    (run (exec noReferals)
      [saveOrder .noRefund, saveOrder .refundWaitSellerAgree, saveOrder .refundRefuseBuyer]
      (fresh (fun _ => some (some 7))
        { customers := [7], userBudgets := fun _ => none, budgetLogs := .empty }))

theorem mirrored_fail :
    ¬ ∀ (around : Surroundings) (mamas : Nat → Option (Option Nat))
      (wallet : Pay.Wallet.WalletDb) (ops : List Operation) (moments : List Moment),
      (worked around moments (run (exec around) ops (fresh mamas wallet))).queue = [] →
        Mirrored around (worked around moments (run (exec around) ops (fresh mamas wallet))) := by
  intro hall
  have hdrained : afterRefusal.queue = [] := by decide +kernel
  have hmirrored : Mirrored noReferals afterRefusal := hall _ _ _ _ _ hdrained
  have hrow : ∃ c ∈ afterRefusal.orderCarries.rows, 0 < c.mamaId ∧ c.status = .estimate ∧
      entry afterRefusal.carry.carryRecords c.uniKey = some ⟨.cancel, 100⟩ := by
    decide +kernel
  obtain ⟨c, hc, hmama, hstatus, hentry⟩ := hrow
  have hagrees := ((hmirrored.order c hc hmama).agrees _ hentry).1
  have hpending : (gainOfOrder c).status = .pending := by
    simp only [gainOfOrder, hstatus, OrderCarryStatus.recordStatus]
  rw [hpending] at hagrees
  exact absurd hagrees (by decide)

end ShopManager.Mama.Earning
