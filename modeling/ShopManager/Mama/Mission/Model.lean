import ShopManager.Basic
import ShopManager.Library.Calendar
import ShopManager.Library.Execution
import ShopManager.Library.Table
import ShopManager.Library.Transaction

/-!
# Weekly missions

A mama gets a record of a weekly mission under the name of the current week, `%Y-%W`.  What she
sells in that week, from Monday to Sunday, finishes the record and earns the award.
-/

namespace ShopManager.Mama.Mission

open Library Library.Tx Library.Execution Library.Calendar

/-! ## Rows -/

inductive CatType where
  | saleMama | saleGroup | referMama | groupMama | firstOrder | openCourse | joinGuide | trialMama
  | referGuide
  deriving DecidableEq, Repr

inductive DateType where
  | weekly | deadline | monthly | onceTime
  deriving DecidableEq, Repr

inductive MissionStatus where
  | draft | progress | finished | cancel
  deriving DecidableEq, Repr

inductive KpiType where
  | count | amount
  deriving DecidableEq, Repr

inductive Target where
  | personal | group
  deriving DecidableEq, Repr

structure MamaMission where
  id : Nat
  catType : CatType
  dateType : DateType
  kpiType : KpiType
  target : Target
  targetValue : Int
  status : MissionStatus
  deriving DecidableEq, Repr

inductive RecordStatus where
  | staging | finished | close
  deriving DecidableEq, Repr

/-- The text `mission-week-mama` of a record. -/
structure UniKey where
  missionId : Nat
  yearWeek : YearWeek
  mamaId : Nat
  deriving DecidableEq, Repr

structure MamaMissionRecord where
  id : Nat
  mission : Nat
  mamaId : Nat
  yearWeek : YearWeek
  targetValue : Int
  finishValue : Int
  awardAmount : Int
  uniKey : UniKey
  status : RecordStatus
  deriving DecidableEq, Repr

inductive AwardStatus where
  | staging | confirmed | cancel
  deriving DecidableEq, Repr

/-- An award whose key is `weeklyaward-mama-record`. -/
structure AwardCarry where
  id : Nat
  mamaId : Nat
  recordId : Nat
  carryNum : Int
  status : AwardStatus
  deriving DecidableEq, Repr

/-- A carry of an order, with the day of its `date_field`; `counted` says whether its status, its
type and its number let it count. -/
structure OrderCarry where
  mamaId : Nat
  dateField : ℤ
  orderValue : Int
  counted : Bool
  deriving DecidableEq, Repr

instance : Row MamaMission where
  pk := MamaMission.id
  withPk n mission := { mission with id := n }

instance : Row MamaMissionRecord where
  pk := MamaMissionRecord.id
  withPk n record := { record with id := n }

instance : Row AwardCarry where
  pk := AwardCarry.id
  withPk n award := { award with id := n }

structure MissionDb where
  missions : Table MamaMission
  leaders : Nat → Bool
  orders : List OrderCarry
  records : Table MamaMissionRecord
  awards : Table AwardCarry

abbrev MissionTx (α : Type) := Tx MissionDb Exn α

/-- The first and the last day; the range of a datetime goes from midnight to midnight. -/
def weekRange (date : ℤ) : ℤ × ℤ :=
  let dow := weekday date + 1
  let startDate := if dow = 1 then date else date - (dow - 1)
  (startDate, startDate + 6)

def yearWeekRange (name : YearWeek) : ℤ × ℤ := weekRange (dayOf name 6)

/-- One turn of the loop of `year_week_generator`. -/
def lastWeek (name : YearWeek) : YearWeek := yearWeek (dayOf name 6 - 7)

def yearWeekGenerator (endYearWeek : YearWeek) : List YearWeek :=
  List.iterate lastWeek endYearWeek 100

def getMamaWeekSaleAmount (s : MissionDb) (mamaidList : List Nat) (week : ℤ × ℤ) : Int :=
  ((s.orders.filter fun order => order.counted ∧ order.mamaId ∈ mamaidList ∧
    week.1 ≤ order.dateField ∧ order.dateField ≤ week.2).map OrderCarry.orderValue).sum

/-- What the task finds when it runs: the day, whether missions are receivable by the mama, the
target and the award they have for her, and the once missions that earlier orders or awards
settle. -/
structure Moment where
  today : ℤ
  receivable : MamaMission → Bool
  targets : MamaMission → Int × Int
  settled : MamaMission → Bool

def genMamaMissionRecordUnikey (missionId : Nat) (yearWeek : YearWeek) (mamaId : Nat) : UniKey where
  missionId := missionId
  yearWeek := yearWeek
  mamaId := mamaId

def saveRecord (record : MamaMissionRecord) : MissionTx Unit := do
  let s ← gets id
  raiseIf (∃ other ∈ s.records.rows, other.uniKey = record.uniKey) .integrityError
  modify fun s => { s with records := s.records.insert record }

def updateRecord (record : MamaMissionRecord) : MissionTx Unit :=
  modify fun s => { s with records := s.records.save record }

def funcPushAwardMissionToMama (m : Moment) (mamaId : Nat) (mission : MamaMission)
    (yearWeek : YearWeek) : MissionTx Unit :=
  saveRecord {
    id := 0
    mission := mission.id
    mamaId := mamaId
    yearWeek := yearWeek
    targetValue := (m.targets mission).1
    finishValue := 0
    awardAmount := (m.targets mission).2
    uniKey := genMamaMissionRecordUnikey mission.id yearWeek mamaId
    status := .staging }

def createOrUpdateOnceMission (m : Moment) (mamaId : Nat) (mission : MamaMission) :
    MissionTx Unit := do
  let yearWeek := Calendar.yearWeek m.today
  if m.settled mission then
    pure ()
  else do
    let s ← gets id
    match s.records.first fun r => r.mission = mission.id ∧ r.mamaId = mamaId with
    | none =>
        if m.receivable mission then funcPushAwardMissionToMama m mamaId mission yearWeek
        else pure ()
    | some record =>
        if record.status = .finished then pure ()
        else if m.receivable mission then
          if record.yearWeek ≠ yearWeek then
            updateRecord { record with yearWeek := yearWeek, status := .staging }
          else pure ()
        else updateRecord { record with status := .close }

/-- -1 for a record that is closed or not there, 0 for one that goes on, 1 for one that is
finished. -/
def createOrUpdateWeeklyMission (m : Moment) (mamaId : Nat) (mission : MamaMission)
    (yearWeek : YearWeek) : MissionTx Int := do
  let curYearWeek := Calendar.yearWeek m.today
  let s ← gets id
  match s.records.first fun r =>
      r.mission = mission.id ∧ r.mamaId = mamaId ∧ r.yearWeek = yearWeek with
  | none =>
      if m.receivable mission ∧ yearWeek = curYearWeek then do
        funcPushAwardMissionToMama m mamaId mission yearWeek
        pure 0
      else pure (-1)
  | some record =>
      if record.status = .staging ∧ yearWeek < curYearWeek then do
        updateRecord { record with status := .close }
        pure (-1)
      else if record.status = .finished then pure 1
      else pure (-1)

/-- The missions one after the other, as long as they are finished. -/
def freshMissions (m : Moment) (mamaId : Nat) (yearWeek : YearWeek) :
    List MamaMission → MissionTx Unit
  | [] => pure ()
  | mission :: missions => do
      let state ← createOrUpdateWeeklyMission m mamaId mission yearWeek
      if state ≠ 1 then pure () else freshMissions m mamaId yearWeek missions

/-- `order_by('target_value')`. -/
def byTargetValue (missions : List MamaMission) : List MamaMission :=
  missions.mergeSort fun a b => a.targetValue ≤ b.targetValue

def freshMamaWeeklyMissionBycat (m : Moment) (mamaId : Nat) (catType : CatType)
    (yearWeek : YearWeek) : MissionTx Unit := do
  let s ← gets id
  freshMissions m mamaId yearWeek (byTargetValue (s.missions.filter fun mission =>
    mission.dateType = .weekly ∧ mission.catType = catType ∧ mission.status = .progress))

def freshLeader (m : Moment) (mamaId : Nat) (yearWeek : YearWeek) : MissionTx Unit := do
  let s ← gets id
  if s.leaders mamaId then do
    freshMamaWeeklyMissionBycat m mamaId .groupMama yearWeek
    freshMamaWeeklyMissionBycat m mamaId .saleGroup yearWeek
  else pure ()

/-- A staging record of the week before is closed. -/
def closeLast (m : Moment) (mamaId : Nat) (preYearWeek : YearWeek) (record : MamaMissionRecord) :
    MissionTx Unit := do
  let mission ← getOr .doesNotExist fun s => s.missions.get? record.mission
  let _ ← createOrUpdateWeeklyMission m mamaId mission preYearWeek
  pure ()

def taskCreateOrUpdateMamaMissionState (m : Moment) (mamaId : Nat) : MissionTx Unit := do
  let s ← gets id
  forEach (s.missions.filter fun mission => mission.dateType = .onceTime)
    (createOrUpdateOnceMission m mamaId)
  let yearWeek := Calendar.yearWeek m.today
  freshMamaWeeklyMissionBycat m mamaId .trialMama yearWeek
  freshMamaWeeklyMissionBycat m mamaId .referMama yearWeek
  freshMamaWeeklyMissionBycat m mamaId .saleMama yearWeek
  freshLeader m mamaId yearWeek
  let preYearWeek := Calendar.yearWeek (m.today - 7)
  let s ← gets id
  forEach (s.records.filter fun r =>
    r.mamaId = mamaId ∧ r.yearWeek = preYearWeek ∧ r.status = .staging)
    (closeLast m mamaId preYearWeek)

/-- `send_award` keeps the award of a key that there is. -/
def taskSendMamaWeeklyAward (record : MamaMissionRecord) (s : MissionDb) : MissionDb :=
  match s.awards.first fun a => a.mamaId = record.mamaId ∧ a.recordId = record.id with
  | some award =>
      if award.status = .cancel then
        { s with awards := s.awards.save { award with status := .staging } }
      else s
  | none =>
      { s with awards := s.awards.insert {
          id := 0
          mamaId := record.mamaId
          recordId := record.id
          carryNum := record.awardAmount
          status := .staging } }

def taskCancelMamaWeeklyAward (record : MamaMissionRecord) (s : MissionDb) : MissionDb :=
  match s.awards.first fun a => a.mamaId = record.mamaId ∧ a.recordId = record.id with
  | some award => { s with awards := s.awards.save { award with status := .cancel } }
  | none => s

/-- The sales of a mama may fall to 94 of 100 of the target before a finished record is open
again. -/
def isFinishStatusCancelNeed (mission : MamaMission) (record : MamaMissionRecord)
    (finishValue : Int) : Bool :=
  if record.status = .finished ∧ mission.catType = .saleMama then
    100 * finishValue < 94 * record.targetValue
  else finishValue < record.targetValue

/-- The status of the record after the first part of `update_mission_value`. -/
def statusAfter (mission : MamaMission) (record : MamaMissionRecord) (finishValue : Int) :
    RecordStatus :=
  if record.targetValue ≤ finishValue then .finished
  else if isFinishStatusCancelNeed mission record finishValue then .staging
  else record.status

def updateMissionValue (today : ℤ) (mission : MamaMission) (record : MamaMissionRecord)
    (finishValue : Int) (s : MissionDb) : MissionDb :=
  let status := statusAfter mission record finishValue
  let closed := if record.yearWeek < yearWeek today ∧ status = .staging then .close else status
  let s := { s with
    records := s.records.save { record with finishValue := finishValue, status := closed } }
  if record.targetValue ≤ finishValue then
    if record.status ≠ .finished ∧ mission.kpiType = .amount then taskSendMamaWeeklyAward record s
    else s
  else if isFinishStatusCancelNeed mission record finishValue ∧
      (mission.kpiType = .amount ∨ mission.target = .group) then
    taskCancelMamaWeeklyAward record s
  else s

def confirmAward (record : MamaMissionRecord) (s : MissionDb) : MissionDb :=
  match s.awards.first fun a => a.mamaId = record.mamaId ∧ a.recordId = record.id with
  | some award => { s with awards := s.awards.save { award with status := .confirmed } }
  | none => s

/-- The record is brought up to date with the sales of its week, which begins at the Monday of
its name, and its award is confirmed or taken back. -/
def taskCancelOrFinishMamaMissionAward (today : ℤ) (recordId : Nat) (s : MissionDb) : MissionDb :=
  match s.records.get? recordId with
  | none => s
  | some record =>
      match s.missions.get? record.mission with
      | none => s
      | some mission =>
          let week := weekRange (dayOf record.yearWeek 0)
          let finishValue := getMamaWeekSaleAmount s [record.mamaId] week
          let s := updateMissionValue today mission record finishValue s
          if record.targetValue ≤ finishValue then confirmAward record s else s

inductive MissionOp where
  | task (m : Moment) (mamaId : Nat)
  | sell (order : OrderCarry)
  | award (today : ℤ) (recordId : Nat)

def MissionOp.exec : MissionOp → MissionDb → MissionDb
  | .task m mamaId, s => ((taskCreateOrUpdateMamaMissionState m mamaId).run s).2
  | .sell order, s => { s with orders := s.orders ++ [order] }
  | .award today recordId, s => taskCancelOrFinishMamaMissionAward today recordId s

/-- The missions and the group leaders, before any record. -/
def MissionDb.start (missions : Table MamaMission) (leaders : Nat → Bool) : MissionDb where
  missions := missions
  leaders := leaders
  orders := []
  records := .empty
  awards := .empty

end ShopManager.Mama.Mission
