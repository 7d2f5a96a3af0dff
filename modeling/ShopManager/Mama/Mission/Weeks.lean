import ShopManager.Mama.Mission.Model

/-!
# One record for a week

The name of a day leads to the week of the day, and the generator goes back week by week.  But the
week with New Year in it has two names, and a mama may get a record under each of them.
-/

namespace ShopManager.Mama.Mission

open Library Library.Tx Library.Execution Library.Calendar

/-! ## The rules -/

def days (ops : List MissionOp) : List ℤ :=
  ops.filterMap fun
    | .task m _ => some m.today
    | _ => none

def Weekly (s : MissionDb) (missionId : Nat) : Prop :=
  ∃ mission ∈ s.missions, mission.id = missionId ∧ mission.dateType = .weekly

/-- Two records of a mama for a weekly mission, in one week from Monday to Sunday. -/
structure SameWeek (s : MissionDb) (a b : MamaMissionRecord) : Prop where
  weekly : Weekly s a.mission
  mission : a.mission = b.mission
  mamaId : a.mamaId = b.mamaId
  week : yearWeekRange a.yearWeek = yearWeekRange b.yearWeek

structure Once (s : MissionDb) : Prop where
  records : ∀ a ∈ s.records, ∀ b ∈ s.records, SameWeek s a b → a.id = b.id
  awards : ∀ x ∈ s.awards, ∀ y ∈ s.awards, ∀ a ∈ s.records, ∀ b ∈ s.records,
    a.id = x.recordId → b.id = y.recordId → SameWeek s a b → x.id = y.id

structure Rewarded (s : MissionDb) (ops : List MissionOp) : Prop where
  range : ∀ day, yearWeekRange (yearWeek day) = (monday day, monday day + 6) ∧
    monday day ≤ day ∧ day ≤ monday day + 6 ∧ weekday (monday day) = 0
  names : ∀ day ∈ days ops, ∀ day' ∈ days ops,
    (yearWeek day = yearWeek day' ↔ monday day = monday day')
  back : ∀ day, (yearWeekGenerator (yearWeek day)).map yearWeekRange =
    (List.range 100).map fun back => (monday day - 7 * back, monday day - 7 * back + 6)
  once : Throughout MissionOp.exec Once ops s

theorem weekRange_eq (day : ℤ) : weekRange day = (monday day, monday day + 6) := by
  unfold weekRange monday
  dsimp only
  split
  · next h =>
      have hzero : weekday day = 0 := by omega
      rw [hzero, Int.sub_zero]
  · rw [Int.add_sub_cancel]

theorem yearWeekRange_yearWeek (day : ℤ) :
    yearWeekRange (yearWeek day) = (monday day, monday day + 6) := by
  have hsunday : monday (monday day + 6) = monday day := by
    unfold monday weekday
    omega
  unfold yearWeekRange
  rw [weekRange_eq, dayOf_yearWeek, hsunday]

theorem lastWeek_yearWeek (day : ℤ) : lastWeek (yearWeek day) = yearWeek (monday day - 1) := by
  unfold lastWeek
  rw [dayOf_yearWeek]
  congr 1
  omega

theorem monday_sub_one (day : ℤ) : monday (monday day - 1) = monday day - 7 := by
  unfold monday weekday
  omega

theorem iterate_lastWeek (n : Nat) : ∀ day, (List.iterate lastWeek (yearWeek day) n).map
    yearWeekRange = (List.range n).map fun back : Nat =>
      (monday day - 7 * back, monday day - 7 * back + 6) := by
  induction n with
  | zero => exact fun _ => rfl
  | succ n ih =>
    intro day
    rw [List.iterate, List.map_cons, lastWeek_yearWeek, ih, yearWeekRange_yearWeek,
      monday_sub_one, List.range_succ_eq_map, List.map_cons, List.map_map]
    refine congrArg₂ _ (by simp) (List.map_congr_left fun back _ => ?_)
    rw [Function.comp_apply]
    refine Prod.ext ?_ ?_
    · dsimp only
      omega
    · dsimp only
      omega

structure Kept (missions : Table MamaMission) (on : List ℤ) (s : MissionDb) : Prop where
  missions : s.missions = missions
  names : ∀ r ∈ s.records, Weekly s r.mission → ∃ day ∈ on, yearWeek day = r.yearWeek
  once : ∀ a ∈ s.records, ∀ b ∈ s.records, Weekly s a.mission → a.mission = b.mission →
    a.mamaId = b.mamaId → a.yearWeek = b.yearWeek → a = b
  awards : ∀ x ∈ s.awards, ∀ y ∈ s.awards, x.mamaId = y.mamaId → x.recordId = y.recordId → x = y
  awarded : ∀ x ∈ s.awards, ∃ r ∈ s.records, r.id = x.recordId ∧ r.mamaId = x.mamaId

variable {missions : Table MamaMission} {on : List ℤ} {s : MissionDb}

variable {r : MamaMissionRecord}

theorem kept_insert (h : Kept missions on s)
    (hnew : Weekly s r.mission → (∃ day ∈ on, yearWeek day = r.yearWeek) ∧
      ∀ other ∈ s.records, other.mission = r.mission → other.mamaId = r.mamaId →
        other.yearWeek ≠ r.yearWeek) :
    Kept missions on { s with records := s.records.insert r } where
  missions := h.missions
  names a ha hweekly := by
    rcases Table.mem_insert.mp ha with ha | rfl
    · exact h.names a ha hweekly
    · exact (hnew hweekly).1
  once a ha b hb hweekly hmission hmama hname := by
    rcases Table.mem_insert.mp ha with ha | rfl
    · rcases Table.mem_insert.mp hb with hb | rfl
      · exact h.once a ha b hb hweekly hmission hmama hname
      · have hweekly' : Weekly s r.mission := by
          have hr : a.mission = r.mission := hmission
          rw [← hr]
          exact hweekly
        exact absurd hname ((hnew hweekly').2 a ha hmission hmama)
    · rcases Table.mem_insert.mp hb with hb | rfl
      · exact absurd hname.symm ((hnew hweekly).2 b hb hmission.symm hmama.symm)
      · rfl
  awards := h.awards
  awarded x hx := by
    obtain ⟨r', hr', hid⟩ := h.awarded x hx
    exact ⟨r', Table.mem_insert.mpr (Or.inl hr'), hid⟩

theorem kept_save (h : Kept missions on s) {r' : MamaMissionRecord} (hr : r ∈ s.records)
    (hid : r'.id = r.id) (hmission : r'.mission = r.mission) (hmama : r'.mamaId = r.mamaId)
    (hname : Weekly s r.mission → r'.yearWeek = r.yearWeek) :
    Kept missions on { s with records := s.records.save r' } := by
  have hmem : ∀ {a : MamaMissionRecord}, a ∈ s.records.save r' ↔
      a = r' ∨ (a ∈ s.records ∧ a.id ≠ r'.id) := Table.mem_save_iff hr hid.symm
  exact {
    missions := h.missions
    names := by
      intro a ha hweekly
      rcases hmem.mp ha with rfl | ⟨ha, _⟩
      · rw [hmission] at hweekly
        rw [hname hweekly]
        exact h.names r hr hweekly
      · exact h.names a ha hweekly
    once := by
      -- a saved record stands for the one that it replaces
      have hstands : ∀ a ∈ s.records.save r', Weekly s a.mission → ∃ b ∈ s.records,
          b.id = a.id ∧ b.mission = a.mission ∧ b.mamaId = a.mamaId ∧ b.yearWeek = a.yearWeek := by
        intro a ha hweekly
        rcases hmem.mp ha with rfl | ⟨ha, _⟩
        · rw [hmission] at hweekly
          exact ⟨r, hr, hid.symm, hmission.symm, hmama.symm, (hname hweekly).symm⟩
        · exact ⟨a, ha, rfl, rfl, rfl, rfl⟩
      intro a ha b hb hweekly hab habmama habname
      have hweekly' : Weekly s b.mission := by
        rw [← hab]
        exact hweekly
      obtain ⟨a', ha', haid, hamission, hamama, haname⟩ := hstands a ha hweekly
      obtain ⟨b', hb', hbid, hbmission, hbmama, hbname⟩ := hstands b hb hweekly'
      have heq := h.once a' ha' b' hb' (by rw [hamission]; exact hweekly)
        (by rw [hamission, hbmission, hab]) (by rw [hamama, hbmama, habmama])
        (by rw [haname, hbname, habname])
      refine Table.pk_inj ha hb ?_
      change a.id = b.id
      rw [← haid, ← hbid, heq]
    awards := h.awards
    awarded := by
      intro x hx
      obtain ⟨q, hq, hqid, hqmama⟩ := h.awarded x hx
      by_cases heq : q.id = r'.id
      · have hqr : q = r := Table.pk_inj hq hr (heq.trans hid)
        exact ⟨r', hmem.mpr (Or.inl rfl), by rw [← hqid, heq], by rw [hmama, ← hqr, hqmama]⟩
      · exact ⟨q, hmem.mpr (Or.inr ⟨hq, heq⟩), hqid, hqmama⟩ }

theorem preserves_updateRecord {r' : MamaMissionRecord} (h : Kept missions on s)
    (hr : r ∈ s.records) (hid : r'.id = r.id) (hmission : r'.mission = r.mission)
    (hmama : r'.mamaId = r.mamaId) (hname : Weekly s r.mission → r'.yearWeek = r.yearWeek) :
    Kept missions on ((updateRecord r').run s).2 := kept_save h hr hid hmission hmama hname

variable {m : Moment} {mamaId : Nat} {mission : MamaMission} {name : YearWeek}

theorem kept_push (h : Kept missions on s)
    (hnew : Weekly s mission.id → (∃ day ∈ on, yearWeek day = name) ∧
      ∀ other ∈ s.records, other.mission = mission.id → other.mamaId = mamaId →
        other.yearWeek ≠ name) :
    Kept missions on ((funcPushAwardMissionToMama m mamaId mission name).run s).2 := by
  unfold funcPushAwardMissionToMama saveRecord
  rw [gets_bind_run, raiseIf_bind_run]
  split
  · exact h
  · exact kept_insert h hnew

theorem kept_once (h : Kept missions on s)
    (hmission : mission ∈ missions) (honce : mission.dateType = .onceTime) :
    Kept missions on ((createOrUpdateOnceMission m mamaId mission).run s).2 := by
  have hnot : ¬ Weekly s mission.id := by
    rintro ⟨other, hother, hid, hweekly⟩
    rw [h.missions] at hother
    rw [Table.pk_inj hother hmission hid, honce] at hweekly
    exact absurd hweekly (by decide)
  unfold createOrUpdateOnceMission
  dsimp only
  split
  · exact h
  · rw [gets_bind_run]
    cases hfirst : (id s).records.first fun r => r.mission = mission.id ∧ r.mamaId = mamaId with
    | none =>
      dsimp only
      split
      · exact kept_push h fun hweekly => absurd hweekly hnot
      · exact h
    | some record =>
      have hmem : record ∈ s.records := Table.mem_of_first hfirst
      have hspec := Table.first_spec hfirst
      have hkey : record.mission = mission.id ∧ record.mamaId = mamaId := of_decide_eq_true hspec
      have hnot' : ¬ Weekly s record.mission := by
        rw [hkey.1]
        exact hnot
      dsimp only
      split
      · exact h
      · split
        · split
          · exact preserves_updateRecord h hmem rfl rfl rfl fun hweekly => absurd hweekly hnot'
          · exact h
        · exact preserves_updateRecord h hmem rfl rfl rfl fun _ => rfl

theorem kept_weekly (htoday : m.today ∈ on) (h : Kept missions on s) :
    Kept missions on ((createOrUpdateWeeklyMission m mamaId mission name).run s).2 := by
  unfold createOrUpdateWeeklyMission
  dsimp only
  rw [gets_bind_run]
  cases hfirst : (id s).records.first fun r =>
      r.mission = mission.id ∧ r.mamaId = mamaId ∧ r.yearWeek = name with
  | none =>
    dsimp only
    split
    · next hpush =>
        refine Preserves.after (I := Kept missions on) (kept_push h fun _ => ⟨?_, ?_⟩)
          fun _ => Preserves.pure _
        · exact ⟨m.today, htoday, hpush.2.symm⟩
        · intro other hother hmission hmama hname
          have hnone := Table.first_eq_none.mp hfirst other hother
          exact absurd ⟨hmission, hmama, hname⟩ (of_decide_eq_false hnone)
    · exact h
  | some record =>
    have hmem : record ∈ s.records := Table.mem_of_first hfirst
    dsimp only
    split
    · refine Preserves.after (I := Kept missions on) ?_ fun _ => Preserves.pure _
      exact preserves_updateRecord h hmem rfl rfl rfl fun _ => rfl
    · split
      · exact h
      · exact h

theorem kept_freshMissions (htoday : m.today ∈ on) (ofCat : List MamaMission) :
    Preserves (Kept missions on) (freshMissions m mamaId name ofCat) := by
  induction ofCat with
  | nil => exact Preserves.pure _
  | cons mission ofCat ih =>
    unfold freshMissions
    refine Preserves.bind (fun s h => kept_weekly htoday h) fun state => ?_
    split
    · exact Preserves.pure _
    · exact ih

theorem kept_bycat {catType : CatType} (htoday : m.today ∈ on) :
    Preserves (Kept missions on) (freshMamaWeeklyMissionBycat m mamaId catType name) :=
  Preserves.gets_bind fun s h => kept_freshMissions htoday _ s h

theorem kept_leader (htoday : m.today ∈ on) :
    Preserves (Kept missions on) (freshLeader m mamaId name) := by
  refine Preserves.gets_bind fun s h => ?_
  split
  · exact Preserves.bind (kept_bycat htoday) (fun _ => kept_bycat htoday) s h
  · exact h

theorem kept_task (htoday : m.today ∈ on) :
    Preserves (Kept missions on) (taskCreateOrUpdateMamaMissionState m mamaId) := by
  refine Preserves.gets_bind fun s h => ?_
  refine Preserves.bind ?_ (fun _ => ?_) s h
  · refine Preserves.forEach fun mission hmission s' h' => ?_
    obtain ⟨hmem, honce⟩ := List.mem_filter.mp hmission
    have hmem' : mission ∈ s.missions := hmem
    rw [h.missions] at hmem'
    exact kept_once h' hmem' (of_decide_eq_true honce)
  · refine Preserves.bind (kept_bycat htoday) fun _ => ?_
    refine Preserves.bind (kept_bycat htoday) fun _ => ?_
    refine Preserves.bind (kept_bycat htoday) fun _ => ?_
    refine Preserves.bind (kept_leader htoday) fun _ => ?_
    refine Preserves.gets_bind fun s h => ?_
    refine Preserves.forEach (fun record _ => ?_) s h
    refine Preserves.getOr_bind fun s' mission h' _ => ?_
    exact Preserves.bind (fun s h => kept_weekly htoday h) (fun _ => Preserves.pure _) s' h'

/-! ## Awards -/

theorem kept_insert_award (h : Kept missions on s) (hr : r ∈ s.records)
    {award : AwardCarry} (hmama : award.mamaId = r.mamaId) (hrecord : award.recordId = r.id)
    (hnone : ∀ x ∈ s.awards, ¬ (x.mamaId = r.mamaId ∧ x.recordId = r.id)) :
    Kept missions on { s with awards := s.awards.insert award } where
  missions := h.missions
  names := h.names
  once := h.once
  awards x hx y hy hxy hxy' := by
    have hnew : (s.awards.stored award).mamaId = r.mamaId ∧
        (s.awards.stored award).recordId = r.id := ⟨hmama, hrecord⟩
    rcases Table.mem_insert.mp hx with hx | rfl
    · rcases Table.mem_insert.mp hy with hy | rfl
      · exact h.awards x hx y hy hxy hxy'
      · exact absurd ⟨hxy.trans hnew.1, hxy'.trans hnew.2⟩ (hnone x hx)
    · rcases Table.mem_insert.mp hy with hy | rfl
      · exact absurd ⟨hxy.symm.trans hnew.1, hxy'.symm.trans hnew.2⟩ (hnone y hy)
      · rfl
  awarded x hx := by
    rcases Table.mem_insert.mp hx with hx | rfl
    · exact h.awarded x hx
    · exact ⟨r, hr, hrecord.symm, hmama.symm⟩

theorem kept_save_award (h : Kept missions on s) {award award' : AwardCarry}
    (haward : award ∈ s.awards) (hid : award'.id = award.id)
    (hmama : award'.mamaId = award.mamaId) (hrecord : award'.recordId = award.recordId) :
    Kept missions on { s with awards := s.awards.save award' } := by
  have hmem : ∀ {x : AwardCarry}, x ∈ s.awards.save award' ↔
      x = award' ∨ (x ∈ s.awards ∧ x.id ≠ award'.id) := Table.mem_save_iff haward hid.symm
  have hstands : ∀ x ∈ s.awards.save award', ∃ y ∈ s.awards,
      y.id = x.id ∧ y.mamaId = x.mamaId ∧ y.recordId = x.recordId := by
    intro x hx
    rcases hmem.mp hx with rfl | ⟨hx, _⟩
    · exact ⟨award, haward, hid.symm, hmama.symm, hrecord.symm⟩
    · exact ⟨x, hx, rfl, rfl, rfl⟩
  exact {
    missions := h.missions
    names := h.names
    once := h.once
    awards := by
      intro x hx y hy hxy hxy'
      obtain ⟨x', hx', hxid, hxmama, hxrecord⟩ := hstands x hx
      obtain ⟨y', hy', hyid, hymama, hyrecord⟩ := hstands y hy
      have heq := h.awards x' hx' y' hy' (by rw [hxmama, hymama, hxy])
        (by rw [hxrecord, hyrecord, hxy'])
      refine Table.pk_inj hx hy ?_
      change x.id = y.id
      rw [← hxid, ← hyid, heq]
    awarded := by
      intro x hx
      obtain ⟨x', hx', _, hxmama, hxrecord⟩ := hstands x hx
      obtain ⟨r, hr, hrid, hrmama⟩ := h.awarded x' hx'
      exact ⟨r, hr, hrid.trans hxrecord, hrmama.trans hxmama⟩ }

theorem kept_send (h : Kept missions on s) {r' : MamaMissionRecord} (hr : r ∈ s.records)
    (hid : r.id = r'.id) (hmama : r.mamaId = r'.mamaId) :
    Kept missions on (taskSendMamaWeeklyAward r' s) := by
  unfold taskSendMamaWeeklyAward
  cases hfirst : s.awards.first fun a => a.mamaId = r'.mamaId ∧ a.recordId = r'.id with
  | none =>
    refine kept_insert_award h hr hmama.symm hid.symm fun x hx hkey => ?_
    have hnone := Table.first_eq_none.mp hfirst x hx
    exact absurd ⟨hkey.1.trans hmama, hkey.2.trans hid⟩ (of_decide_eq_false hnone)
  | some award =>
    dsimp only
    split
    · exact kept_save_award h (Table.mem_of_first hfirst) rfl rfl rfl
    · exact h

theorem kept_cancel (h : Kept missions on s) (r : MamaMissionRecord) :
    Kept missions on (taskCancelMamaWeeklyAward r s) := by
  unfold taskCancelMamaWeeklyAward
  cases hfirst : s.awards.first fun a => a.mamaId = r.mamaId ∧ a.recordId = r.id with
  | none => exact h
  | some award => exact kept_save_award h (Table.mem_of_first hfirst) rfl rfl rfl

theorem kept_confirm (h : Kept missions on s) (r : MamaMissionRecord) :
    Kept missions on (confirmAward r s) := by
  unfold confirmAward
  cases hfirst : s.awards.first fun a => a.mamaId = r.mamaId ∧ a.recordId = r.id with
  | none => exact h
  | some award => exact kept_save_award h (Table.mem_of_first hfirst) rfl rfl rfl

theorem kept_updateMissionValue {today : ℤ}
    {finishValue : Int} (h : Kept missions on s) (hr : r ∈ s.records) :
    Kept missions on (updateMissionValue today mission r finishValue s) := by
  unfold updateMissionValue
  dsimp only
  generalize (if r.yearWeek < yearWeek today ∧ statusAfter mission r finishValue = .staging
    then RecordStatus.close else statusAfter mission r finishValue) = status
  have hsaved : Kept missions on { s with
      records := s.records.save { r with finishValue := finishValue, status := status } } :=
    kept_save h hr rfl rfl rfl fun _ => rfl
  have hstored : { r with finishValue := finishValue, status := status } ∈
      s.records.save { r with finishValue := finishValue, status := status } :=
    Table.mem_save_self hr rfl
  split
  · split
    · exact kept_send hsaved hstored rfl rfl
    · exact hsaved
  · split
    · exact kept_cancel hsaved r
    · exact hsaved

theorem kept_award {today : ℤ} {recordId : Nat} (h : Kept missions on s) :
    Kept missions on (taskCancelOrFinishMamaMissionAward today recordId s) := by
  unfold taskCancelOrFinishMamaMissionAward
  cases hget : s.records.get? recordId with
  | none => exact h
  | some r =>
    dsimp only
    cases s.missions.get? r.mission with
    | none => exact h
    | some mission =>
      have hupdated : ∀ finishValue,
          Kept missions on (updateMissionValue today mission r finishValue s) := fun _ =>
        kept_updateMissionValue h (Table.get?_eq_some.mp hget).1
      dsimp only
      split
      · exact kept_confirm (hupdated _) r
      · exact hupdated _

theorem kept_exec {op : MissionOp} (h : Kept missions on s) (hdays : ∀ day ∈ days [op], day ∈ on) :
    Kept missions on (op.exec s) := by
  cases op with
  | task m mamaId => exact kept_task (hdays m.today List.mem_cons_self) s h
  | sell order => exact { h with missions := h.missions }
  | award today recordId => exact kept_award h

theorem once_of_kept (h : Kept missions on s)
    (hon : ∀ day ∈ on, ∀ day' ∈ on, monday day = monday day' → yearOf day = yearOf day') :
    Once s := by
  have hrecords : ∀ a ∈ s.records, ∀ b ∈ s.records, SameWeek s a b → a = b := by
    intro a ha b hb hsame
    have hweekly : Weekly s b.mission := by
      rw [← hsame.mission]
      exact hsame.weekly
    obtain ⟨day, hday, hname⟩ := h.names a ha hsame.weekly
    obtain ⟨day', hday', hname'⟩ := h.names b hb hweekly
    have hweek := hsame.week
    rw [← hname, ← hname', yearWeekRange_yearWeek, yearWeekRange_yearWeek] at hweek
    have hmonday : monday day = monday day' := congrArg Prod.fst hweek
    refine h.once a ha b hb hsame.weekly hsame.mission hsame.mamaId ?_
    rw [← hname, ← hname']
    exact yearWeek_eq_iff.mpr ⟨hmonday, hon day hday day' hday' hmonday⟩
  constructor
  · intro a ha b hb hsame
    rw [hrecords a ha b hb hsame]
  · intro x hx y hy a ha b hb hax hby hsame
    have hab := hrecords a ha b hb hsame
    have hmama : ∀ {x : AwardCarry}, x ∈ s.awards → a.id = x.recordId → x.mamaId = a.mamaId := by
      intro x hx hax
      obtain ⟨r, hr, hrid, hrmama⟩ := h.awarded x hx
      have hra : r = a := Table.pk_inj hr ha (hrid.trans hax.symm)
      rw [← hrmama, hra]
    rw [← hab] at hby
    rw [h.awards x hx y hy ((hmama hx hax).trans (hmama hy hby).symm) (hax.symm.trans hby)]

theorem throughout_kept {ops : List MissionOp} (h : Kept missions on s)
    (hdays : ∀ day ∈ days ops, day ∈ on) :
    Throughout MissionOp.exec (Kept missions on) ops s := by
  induction ops generalizing s with
  | nil => exact Throughout.nil.mpr h
  | cons op ops ih =>
    have happend : days (op :: ops) = days [op] ++ days ops := by
      unfold days
      rw [← List.filterMap_append]
      rfl
    rw [happend] at hdays
    refine Throughout.cons.mpr ⟨h, ih (kept_exec h ?_) ?_⟩
    · exact fun day hday => hdays day (List.mem_append_left _ hday)
    · exact fun day hday => hdays day (List.mem_append_right _ hday)

theorem kept_start (missions : Table MamaMission) (leaders : Nat → Bool) (on : List ℤ) :
    Kept missions on (.start missions leaders) where
  missions := rfl
  names _ hr := absurd hr List.not_mem_nil
  once _ ha := absurd ha List.not_mem_nil
  awards _ hx := absurd hx List.not_mem_nil
  awarded _ hx := absurd hx List.not_mem_nil

/-- The weeks of a run are named and rewarded once exactly if the task does not run in one week
on both sides of New Year. -/
theorem weeks_iff (missions : Table MamaMission) (leaders : Nat → Bool) (ops : List MissionOp) :
    Rewarded (.start missions leaders) ops ↔
      ∀ day ∈ days ops, ∀ day' ∈ days ops, monday day = monday day' → yearOf day = yearOf day' := by
  constructor
  · intro h day hday day' hday' hmonday
    exact (yearWeek_eq_iff.mp ((h.names day hday day' hday').mpr hmonday)).2
  · intro hon
    constructor
    · intro day
      refine ⟨yearWeekRange_yearWeek day, monday_le day, ?_, weekday_monday day⟩
      have hlt := lt_monday day
      omega
    · intro day hday day' hday'
      rw [yearWeek_eq_iff]
      exact ⟨And.left, fun hmonday => ⟨hmonday, hon day hday day' hday' hmonday⟩⟩
    · exact fun day => iterate_lastWeek 100 day
    · intro done hdone
      have hkept : Throughout MissionOp.exec (Kept missions (days ops)) ops
          (.start missions leaders) :=
        throughout_kept (kept_start missions leaders (days ops)) fun day hday => hday
      exact once_of_kept (hkept done hdone) hon

def inviteOne : Table MamaMission where
  rows := [{
    id := 1
    catType := .referMama
    dateType := .weekly
    kpiType := .count
    target := .personal
    targetValue := 1
    status := .progress }]
  sorted := by decide

def taskOn (today : ℤ) : MissionOp :=
  .task {
    today := today
    receivable := fun _ => true
    targets := fun mission => (mission.targetValue, 1500)
    settled := fun _ => false } 1

def newYear2017 : List MissionOp := [taskOn 736329, taskOn 736330]

theorem weeks_fail : ¬ Rewarded (.start inviteOne fun _ => false) newYear2017 := by
  intro h
  have honce := h.once.last.records
  obtain ⟨a, ha, b, hb, hne, hmission, hmission', hmama, hweek⟩ :
      ∃ a ∈ (run MissionOp.exec newYear2017 (.start inviteOne fun _ => false)).records.rows,
      ∃ b ∈ (run MissionOp.exec newYear2017 (.start inviteOne fun _ => false)).records.rows,
        a.id ≠ b.id ∧ a.mission = 1 ∧ b.mission = 1 ∧ a.mamaId = b.mamaId ∧
          yearWeekRange a.yearWeek = yearWeekRange b.yearWeek := by
    decide +kernel
  obtain ⟨mission, hmem, hid, hweekly⟩ :
      ∃ mission ∈ (run MissionOp.exec newYear2017 (.start inviteOne fun _ => false)).missions.rows,
        mission.id = 1 ∧ mission.dateType = .weekly := by
    decide +kernel
  have hsame : SameWeek (run MissionOp.exec newYear2017 (.start inviteOne fun _ => false)) a b :=
    ⟨⟨mission, hmem, hid.trans hmission.symm, hweekly⟩, hmission.trans hmission'.symm, hmama, hweek⟩
  exact hne (honce a ha b hb hsame)

end ShopManager.Mama.Mission
