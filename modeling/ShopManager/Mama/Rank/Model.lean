import ShopManager.Basic
import ShopManager.Library.Table
import ShopManager.Library.Transaction

/-!
# Ranks in an activity

While an activity runs each mama in it has a row with what she earned and whom she invited.  Her
ranks are stored in the row now and then, and a sorted set for each target ranks her at once.
-/

namespace ShopManager.Mama.Rank

open Library Library.Tx

/-! ## Data -/

inductive ActivityStatus where
  | ready | valid | ended | void
  deriving DecidableEq, Repr

/-- Both dates belong to the activity. -/
structure RankActivity where
  id : Nat
  startTime : Nat
  endTime : Nat
  status : ActivityStatus
  deriving DecidableEq, Repr

instance : Row RankActivity where
  pk := RankActivity.id
  withPk n activity := { activity with id := n }

/-- What a rank is about.  The second target is a name for `duration_total` among trial mamas. -/
inductive Target where
  | durationTotal | activityDurationTotal | inviteTrialNum
  deriving DecidableEq, Repr

structure ActivityMamaCarryTotal where
  id : Nat
  activityId : Nat
  mamaId : Nat
  lastRenewType : Nat
  agencylevel : Nat
  durationTotal : Int
  inviteTrialNum : Int
  durationRankDelay : Int := 0
  activityRankDelay : Int := 0
  inviteRankDelay : Int := 0
  deriving DecidableEq, Repr

instance : Row ActivityMamaCarryTotal where
  pk := ActivityMamaCarryTotal.id
  withPk n row := { row with id := n }

def innerLevel : Nat := 1

def trial : Nat := 15

/-- `serving` says that the progress, the status and the charge status are those of a mama who
works, and that she is no staff. -/
structure XiaoluMama where
  id : Nat
  lastRenewType : Nat
  agencylevel : Nat
  serving : Bool
  deriving DecidableEq, Repr

instance : Row XiaoluMama where
  pk := XiaoluMama.id
  withPk n mama := { mama with id := n }

/-- `counts` says that the status of the record is one of those that count. -/
structure CarryRecord where
  mamaId : Nat
  carryNum : Int
  dateField : Nat
  counts : Bool
  deriving DecidableEq, Repr

/-- Members with their scores. -/
structure SortedSet where
  entries : List (Nat × Int)
  nodup : (entries.map Prod.fst).Nodup

/-- `fortunes` has the number of invited mamas of each mama with a fortune, and `rankDict` what a
process remembers of the last list of ranks that it made. -/
structure RankDb where
  today : Nat
  activities : Table RankActivity
  rows : Table ActivityMamaCarryTotal
  mamas : Table XiaoluMama
  fortunes : Nat → Option Int
  carryRecords : List CarryRecord
  sets : Target → SortedSet
  locked : Target → Bool
  rankDict : Target → Nat → Option Nat

abbrev RankTx (α : Type) := Tx RankDb Exn α

/-- The keys of a dictionary and the elements of a set come in an order of their own. -/
structure HashOrder where
  arrange : List Nat → List Nat
  perm : ∀ l, (arrange l).Perm l

namespace SortedSet

def empty : SortedSet := ⟨[], List.nodup_nil⟩

def zadd (member : Nat) (score : Int) (set : SortedSet) : SortedSet where
  entries := set.entries.filter (fun e => e.1 ≠ member) ++ [(member, score)]
  nodup := by
    have hfilter : ((set.entries.filter fun e => e.1 ≠ member).map Prod.fst).Nodup :=
      set.nodup.sublist (List.Sublist.map Prod.fst List.filter_sublist)
    rw [List.map_append, List.map_singleton, ← List.concat_eq_append]
    refine List.Nodup.concat ?_ hfilter
    intro hmem
    obtain ⟨e, he, heq⟩ := List.mem_map.mp hmem
    exact absurd heq (of_decide_eq_true (List.mem_filter.mp he).2)

def zcard (set : SortedSet) : Nat := set.entries.length

def members (set : SortedSet) : List Nat := set.entries.map Prod.fst

def score (set : SortedSet) (member : Nat) : Option Int :=
  (set.entries.find? fun e => e.1 = member).map Prod.snd

/-- Members are ordered by their scores, and by their texts where these are equal. -/
def ahead (set : SortedSet) (member : Nat) (score : Int) : Nat :=
  (set.entries.filter fun e =>
    score < e.2 ∨ (e.2 = score ∧ toString member < toString e.1)).length

def zrevrank (set : SortedSet) (member : Nat) : Option Nat :=
  (set.score member).map fun score => set.ahead member score

end SortedSet

namespace RankActivity

def isActive (s : RankDb) (activity : RankActivity) : Prop :=
  activity.startTime ≤ s.today ∧ s.today ≤ activity.endTime

instance (s : RankDb) (activity : RankActivity) : Decidable (activity.isActive s) :=
  inferInstanceAs (Decidable (_ ∧ _))

def nowActivity (s : RankDb) : Option RankActivity :=
  s.activities.first fun activity =>
    activity.startTime ≤ s.today ∧ s.today ≤ activity.endTime ∧ activity.status = .valid

end RankActivity

namespace ActivityMamaCarryTotal

/-- `getattr_change` -/
def value (target : Target) (row : ActivityMamaCarryTotal) : Int :=
  match target with
  | .durationTotal => row.durationTotal
  | .activityDurationTotal => row.durationTotal
  | .inviteTrialNum => row.inviteTrialNum

/-- The column of `target_fields`. -/
def delay (target : Target) (row : ActivityMamaCarryTotal) : Int :=
  match target with
  | .durationTotal => row.durationRankDelay
  | .activityDurationTotal => row.activityRankDelay
  | .inviteTrialNum => row.inviteRankDelay

def setDelay (target : Target) (rank : Int) (row : ActivityMamaCarryTotal) :
    ActivityMamaCarryTotal :=
  match target with
  | .durationTotal => { row with durationRankDelay := rank }
  | .activityDurationTotal => { row with activityRankDelay := rank }
  | .inviteTrialNum => { row with inviteRankDelay := rank }

def filters (target : Target) (row : ActivityMamaCarryTotal) : Prop :=
  match target with
  | .durationTotal => innerLevel < row.agencylevel
  | .activityDurationTotal => innerLevel < row.agencylevel ∧ row.lastRenewType = trial
  | .inviteTrialNum => innerLevel < row.agencylevel

instance (target : Target) (row : ActivityMamaCarryTotal) : Decidable (row.filters target) := by
  unfold filters
  cases target <;> infer_instance

def targetCondition (activity : Nat) (target : Target) (row : ActivityMamaCarryTotal) : Prop :=
  match target with
  | .durationTotal => row.activityId = activity
  | .activityDurationTotal => row.activityId = activity ∧ row.lastRenewType = trial
  | .inviteTrialNum => row.activityId = activity

instance (activity : Nat) (target : Target) (row : ActivityMamaCarryTotal) :
    Decidable (row.targetCondition activity target) := by
  unfold targetCondition
  cases target <;> infer_instance

end ActivityMamaCarryTotal

/-- `zadd` without members is an error. -/
def batchUpdateCache (res : List (Nat × Int)) (target : Target) : RankTx Unit := do
  raiseIf (res = []) (.exception "ResponseError")
  modify fun s => { s with
    sets := Function.update s.sets target
      (res.foldl (fun set e => set.zadd e.1 e.2) (s.sets target)) }

/-- The rows of the activity that are not in `cached`, with their scores. -/
def missing (s : RankDb) (activity : Nat) (target : Target) (cached : List Nat) :
    List (Nat × Int) :=
  (s.rows.filter fun row => row.filters target ∧ row.activityId = activity ∧
    row.mamaId ∉ cached).map fun row => (row.mamaId, row.value target)

def realCount (s : RankDb) (activity : Nat) (target : Target) : Nat :=
  (s.rows.filter fun row => row.filters target ∧ row.activityId = activity).length

/-- A set of too many members is made anew, and one of too few is completed. -/
def repairCache (activity : Nat) (target : Target) : RankTx Unit := do
  let cacheCount ← gets fun s => (s.sets target).zcard
  let count ← gets fun s => realCount s activity target
  if count < cacheCount then do
    modify fun s => { s with sets := Function.update s.sets target .empty }
    let res ← gets fun s => missing s activity target []
    batchUpdateCache res target
  else if cacheCount < count then do
    let cached ← gets fun s => (s.sets target).members
    let res ← gets fun s => missing s activity target cached
    batchUpdateCache res target
  else pure ()

def checkUpdateCache (target : Target) : RankTx Unit := do
  let locked ← gets fun s => s.locked target
  if locked = true then pure ()
  else do
    let activity ← getOr .attributeError RankActivity.nowActivity
    repairCache activity.id target
    modify fun s => { s with locked := Function.update s.locked target true }

/-- `zrevrank(..) or 0`, so there is always a rank. -/
def getRank (s : RankDb) (target : Target) (mama : Nat) : Nat :=
  ((s.sets target).zrevrank mama).getD 0 + 1

/-- `duration_rank`, `activity_rank` and `invite_rank`, whose branches for a mama without a rank
are never taken. -/
def liveRank (s : RankDb) (activity : RankActivity) (target : Target)
    (row : ActivityMamaCarryTotal) : Int :=
  if ¬ activity.isActive s then row.delay target
  else match s.rankDict target row.mamaId with
    | some rank => rank
    | none => getRank s target row.mamaId

def durationTotal (s : RankDb) (activity : RankActivity) (mama : Nat) : Int :=
  ((s.carryRecords.filter fun record => record.mamaId = mama ∧
    activity.startTime ≤ record.dateField ∧ record.dateField < activity.endTime ∧
    record.counts = true).map CarryRecord.carryNum).sum

def generated (s : RankDb) (activity : RankActivity) (mama : Nat) :
    Option ActivityMamaCarryTotal := do
  let data ← s.mamas.get? mama
  let inviteTrialNum ← s.fortunes mama
  pure {
    id := 0
    activityId := activity.id
    mamaId := mama
    lastRenewType := data.lastRenewType
    agencylevel := data.agencylevel
    durationTotal := durationTotal s activity mama
    inviteTrialNum := inviteTrialNum }

/-- Mamas who work, have a fortune and are not in the activity. -/
def mamaIds (order : HashOrder) (s : RankDb) (activity : RankActivity) : List Nat :=
  order.arrange (((s.mamas.filter fun mama => mama.serving = true).map XiaoluMama.id).filter
    fun mama => s.fortunes mama ≠ none ∧
      mama ∉ (s.rows.filter fun row => row.activityId = activity.id).map
        ActivityMamaCarryTotal.mamaId)

def batchGenerate (order : HashOrder) (activity : RankActivity) : RankTx Unit := do
  let records ← gets fun s => (mamaIds order s activity).filterMap (generated s activity)
  modify fun s => { s with rows := records.foldl Table.insert s.rows }
  checkUpdateCache .inviteTrialNum
  checkUpdateCache .durationTotal
  checkUpdateCache .activityDurationTotal

structure RankLoop where
  i : Int
  rank : Int
  lastValue : Option Int
  res : List (Nat × Int)

def RankLoop.start : RankLoop := ⟨1, 1, none, []⟩

/-- The body of the loop.  The mamas of an activity are distinct, so each key is set once. -/
def RankLoop.next (loop : RankLoop) (m : Nat × Int) : RankLoop :=
  let lower : Bool := match loop.lastValue with
    | none => true
    | some lastValue => m.2 < lastValue
  let lastValue := if lower then m.2 else loop.lastValue.getD m.2
  let rank := if lower then loop.i else loop.rank
  ⟨loop.i + 1, rank, some lastValue, loop.res ++ [(m.1, if 0 < lastValue then rank else 0)]⟩

/-- `filter(..).order_by('-' + target).values('mama_id', target)` -/
def ranking (s : RankDb) (activity : Nat) (target : Target) : List (Nat × Int) :=
  ((s.rows.filter fun row => row.targetCondition activity target).map fun row =>
    (row.mamaId, row.value target)).mergeSort fun a b => b.2 ≤ a.2

def sliceLen : Nat := 20000

def sliceCount : Nat := 1000

def slices (keys : List Nat) : List (List Nat) :=
  (List.range sliceCount).map fun i => (keys.drop (i * sliceLen)).take sliceLen

/-- `res[key]` -/
def rankOf (res : List (Nat × Int)) (key : Nat) : Int := (res.lookup key).getD 0

def updateSlice (activity : Nat) (target : Target) (res : List (Nat × Int)) (item : List Nat) :
    RankTx Unit :=
  if item = [] then pure ()
  else modify fun s => { s with
    rows := s.rows.update (fun row => row.mamaId ∈ item ∧ row.activityId = activity) fun row =>
      row.setDelay target (rankOf res row.mamaId) }

def multiUpdate (order : HashOrder) (activity : Nat) (target : Target) (res : List (Nat × Int)) :
    RankTx Unit := do
  raiseIf (res = []) (.exception "set values res empty")
  forEach (slices (order.arrange (res.map Prod.fst))) (updateSlice activity target res)

/-- There is no column `activity_duration_total` to order by. -/
def resetRank (order : HashOrder) (activity : RankActivity) (target : Target) : RankTx Unit := do
  batchGenerate order activity
  raiseIf (target = .activityDurationTotal) (.exception "FieldError")
  let ms ← gets fun s => ranking s activity.id target
  multiUpdate order activity.id target (ms.foldl RankLoop.next .start).res

end ShopManager.Mama.Rank
