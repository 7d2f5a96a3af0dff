import Mathlib.Algebra.Ring.Int.Defs
import Mathlib.Data.List.Nodup
import ShopManager.Basic
import ShopManager.Library.Execution
import ShopManager.Library.Transaction

/-!
# Weekly team totals

A mama and those whom she recommended are a team.  The record of a team remembers its members,
and is brought up to date when the weekly total of a mama of its family is saved.
-/

namespace ShopManager.Mama.Rank.Team

open Library Library.Tx Library.Execution

/-- Who recommended a mama, and who recommended that one; an id of nought is none. -/
structure ReferalRelationship where
  referalFromMamaId : Option Nat
  referalFromGrandmaId : Option Nat

structure WeekMamaCarryTotal where
  mamaId : Nat
  total : Int
  durationTotal : Int

structure WeekMamaTeamCarryTotal where
  memberIds : List Nat
  total : Int
  durationTotal : Int

/-- The records of one week.  `mamas` says who may be ranked; a mama has one relationship and at
most one team record. -/
structure TeamDb where
  mamas : Nat → Option Bool
  referals : Nat → Option ReferalRelationship
  weeks : List WeekMamaCarryTotal
  teams : Nat → Option WeekMamaTeamCarryTotal

abbrev TeamTx (α : Type) := Tx TeamDb Exn α

namespace TeamDb

def weekIds (s : TeamDb) : List Nat := s.weeks.map WeekMamaCarryTotal.mamaId

/-- A mama is among the `get_team_member_ids` of a leader. -/
def isMember (s : TeamDb) (leader mama : Nat) : Bool :=
  mama = leader || (s.referals mama).any fun ship => ship.referalFromMamaId = some leader

def getMemberIds (s : TeamDb) (leader : Nat) : List Nat := s.weekIds.filter (s.isMember leader)

def getFamilyMemberIds (s : TeamDb) (mama : Nat) : List Nat :=
  match s.referals mama with
  | none => [mama]
  | some ship => mama :: (ship.referalFromMamaId.toList ++ ship.referalFromGrandmaId.toList)

def saveWeek (s : TeamDb) (row : WeekMamaCarryTotal) : TeamDb :=
  if row.mamaId ∈ s.weekIds then
    { s with weeks := s.weeks.map fun week => if week.mamaId = row.mamaId then row else week }
  else { s with weeks := s.weeks ++ [row] }

def saveTeam (s : TeamDb) (leader : Nat) (team : WeekMamaTeamCarryTotal) : TeamDb :=
  { s with teams := Function.update s.teams leader (some team) }

/-- `restat` of a record with these members. -/
def restat (s : TeamDb) (memberIds : List Nat) : WeekMamaTeamCarryTotal :=
  let rows := s.weeks.filter fun week => week.mamaId ∈ memberIds
  ⟨memberIds, (rows.map WeekMamaCarryTotal.total).sum,
    (rows.map WeekMamaCarryTotal.durationTotal).sum⟩

end TeamDb

def generate (mama : Nat) : TeamTx Unit := do
  let _ ← getOr .doesNotExist fun s => s.mamas mama
  let team ← gets fun s => s.restat (s.getMemberIds mama)
  let taken ← gets fun s => (s.teams mama).isSome
  raiseIf (taken = true) .integrityError
  modify fun s => s.saveTeam mama team

/-- The id of an existing record's mama is asked for its members, as if it was the mama. -/
def updateOrCreate (mama : Nat) : TeamTx Unit := do
  let team ← gets fun s => s.teams mama
  match team with
  | none => generate mama
  | some _ => raise .attributeError

def resetMamaIds (leader : Nat) : TeamTx Unit := do
  let team ← gets fun s => s.teams leader
  match team with
  | none => pure ()
  | some team => modify fun s => s.saveTeam leader { team with memberIds := s.getMemberIds leader }

/-- The handler's round for one leader of the family of `mama`. -/
def refresh (mama leader : Nat) : TeamTx Unit := do
  let team ← gets fun s => s.teams leader
  match team with
  | none => generate leader
  | some team =>
      modify fun s => s.saveTeam leader
        (s.restat (if mama ∈ team.memberIds then team.memberIds else s.getMemberIds leader))

/-- The totals of the row are what the fortune and the carry records of the mama say. -/
def weekUpdateOrCreate (mama : Nat) (total durationTotal : Int) : TeamTx Unit := do
  let available ← getOr .doesNotExist fun s => s.mamas mama
  if available then do
    modify fun s => s.saveWeek ⟨mama, total, durationTotal⟩
    let leaders ← gets fun s => s.weekIds.filter fun id => id ∈ s.getFamilyMemberIds mama
    forEach leaders (refresh mama)
  else pure ()

inductive TeamOp where
  | weekUpdateOrCreate (mama : Nat) (total durationTotal : Int)
  | generate (mama : Nat)
  | updateOrCreate (mama : Nat)
  | resetMamaIds (leader : Nat)
  | setReferal (mama : Nat) (ship : Option ReferalRelationship)

def TeamOp.program : TeamOp → TeamTx Unit
  | weekUpdateOrCreate mama total durationTotal => Team.weekUpdateOrCreate mama total durationTotal
  | generate mama => Team.generate mama
  | updateOrCreate mama => Team.updateOrCreate mama
  | resetMamaIds leader => Team.resetMamaIds leader
  | setReferal mama ship =>
      modify fun s => { s with referals := Function.update s.referals mama ship }

def TeamOp.exec (op : TeamOp) (s : TeamDb) : TeamDb := (op.program.run s).2

structure Agrees (s : TeamDb) (leader : Nat) (team : WeekMamaTeamCarryTotal) : Prop where
  memberIds : team.memberIds = s.getMemberIds leader
  total : team.total = ((s.weeks.filter fun week => s.isMember leader week.mamaId).map
    WeekMamaCarryTotal.total).sum
  durationTotal : team.durationTotal = ((s.weeks.filter fun week =>
    s.isMember leader week.mamaId).map WeekMamaCarryTotal.durationTotal).sum

/-- A step returns, and after the save of a weekly total the records of the mama's teams
agree with their teams. -/
def Law (s : TeamDb) (op : TeamOp) : Prop :=
  (op.program.run s).1 = .ok () ∧
    match op with
    | .weekUpdateOrCreate mama _ _ => s.mamas mama = some true → ∀ leader team,
        (op.exec s).teams leader = some team → (op.exec s).isMember leader mama = true →
          Agrees (op.exec s) leader team
    | _ => True

/-- The record of a team that the save of a mama has to reach is reached, and is reset or
lists the members already. -/
def Reached (s : TeamDb) (mama leader : Nat) (team : WeekMamaTeamCarryTotal) : Prop :=
  (leader = mama ∨ leader ∈ s.weekIds) ∧
    (mama ∉ team.memberIds ∨ team.memberIds = s.getMemberIds leader)

def Fits (s : TeamDb) : TeamOp → Prop
  | .weekUpdateOrCreate mama _ _ => (s.mamas mama).isSome = true ∧
      ∀ leader team, s.teams leader = some team → s.isMember leader mama = true →
        Reached s mama leader team
  | .generate mama => (s.mamas mama).isSome = true ∧ s.teams mama = none
  | .updateOrCreate mama => (s.mamas mama).isSome = true ∧ s.teams mama = none
  | _ => True

def Known (s : TeamDb) : Prop := s.weekIds.Nodup ∧ ∀ id ∈ s.weekIds, (s.mamas id).isSome = true

/-! ## The handler -/

variable {s : TeamDb}

def refreshed (s : TeamDb) (mama leader : Nat) : WeekMamaTeamCarryTotal :=
  s.restat (match s.teams leader with
    | none => s.getMemberIds leader
    | some team => if mama ∈ team.memberIds then team.memberIds else s.getMemberIds leader)

def refreshedAll (s : TeamDb) (mama : Nat) (leaders : List Nat) : TeamDb :=
  { s with
    teams := fun leader =>
      if leader ∈ leaders then some (refreshed s mama leader) else s.teams leader }

theorem generate_run {mama : Nat} (hmama : (s.mamas mama).isSome = true)
    (hteam : s.teams mama = none) :
    (generate mama).run s = (.ok (), s.saveTeam mama (s.restat (s.getMemberIds mama))) := by
  obtain ⟨available, havailable⟩ := Option.isSome_iff_exists.1 hmama
  unfold generate
  rw [getOr_bind_run, havailable]
  dsimp only
  rw [gets_bind_run, gets_bind_run, raiseIf_bind_run, if_neg (by simp [hteam])]
  rfl

theorem refresh_run (mama : Nat) {leader : Nat} (hleader : (s.mamas leader).isSome = true) :
    (refresh mama leader).run s = (.ok (), s.saveTeam leader (refreshed s mama leader)) := by
  unfold refresh refreshed
  rw [gets_bind_run]
  cases hteam : s.teams leader with
  | none => exact generate_run hleader hteam
  | some team => rfl

theorem forEach_refresh (mama : Nat) {leaders : List Nat} (hnodup : leaders.Nodup)
    (hleaders : ∀ leader ∈ leaders, (s.mamas leader).isSome = true) :
    (forEach leaders (refresh mama)).run s = (.ok (), refreshedAll s mama leaders) := by
  induction leaders generalizing s with
  | nil => simp [refreshedAll]
  | cons leader leaders ih =>
    rw [List.nodup_cons] at hnodup
    rw [List.forall_mem_cons] at hleaders
    have hrest := ih (s := s.saveTeam leader (refreshed s mama leader)) hnodup.2 hleaders.2
    rw [forEach_cons, bind_ok (refresh_run mama hleaders.1), hrest]
    congr 1
    unfold refreshedAll TeamDb.saveTeam
    congr 1
    funext other
    by_cases heq : other = leader
    · subst heq
      simp [hnodup.1]
    · have hother : refreshed (s.saveTeam leader (refreshed s mama leader)) mama other =
          refreshed s mama other := by
        unfold refreshed TeamDb.saveTeam
        simp only [Function.update_of_ne heq]
        rfl
      simp only [List.mem_cons, heq, false_or, Function.update_of_ne heq]
      rw [← hother]
      rfl

theorem agrees_restat (s : TeamDb) (leader : Nat) :
    Agrees s leader (s.restat (s.getMemberIds leader)) := by
  have hfilter : (s.weeks.filter fun week => week.mamaId ∈ s.getMemberIds leader) =
      s.weeks.filter fun week => s.isMember leader week.mamaId := by
    apply List.filter_congr
    intro week hweek
    have hmem : week.mamaId ∈ s.weekIds := List.mem_map_of_mem hweek
    simp [TeamDb.getMemberIds, hmem]
  exact ⟨rfl, by rw [← hfilter]; rfl, by rw [← hfilter]; rfl⟩

theorem agrees_refreshed {mama leader : Nat} (h : ∀ team, s.teams leader = some team →
      mama ∉ team.memberIds ∨ team.memberIds = s.getMemberIds leader) :
    Agrees s leader (refreshed s mama leader) := by
  unfold refreshed
  cases hteam : s.teams leader with
  | none => exact agrees_restat s leader
  | some team =>
    rcases h team hteam with hnot | hsame
    · simp only [hnot, if_false]
      exact agrees_restat s leader
    · simp only [hsame, ite_self]
      exact agrees_restat s leader

theorem weekIds_saveWeek (s : TeamDb) (row : WeekMamaCarryTotal) :
    (s.saveWeek row).weekIds =
      if row.mamaId ∈ s.weekIds then s.weekIds else s.weekIds ++ [row.mamaId] := by
  unfold TeamDb.saveWeek
  split
  · unfold TeamDb.weekIds
    rw [List.map_map]
    apply List.map_congr_left
    intro week _
    by_cases heq : week.mamaId = row.mamaId
    · simp [heq]
    · simp [heq]
  · simp [TeamDb.weekIds]

theorem saveWeek_rest (s : TeamDb) (row : WeekMamaCarryTotal) :
    (s.saveWeek row).mamas = s.mamas ∧ (s.saveWeek row).referals = s.referals ∧
      (s.saveWeek row).teams = s.teams := by
  unfold TeamDb.saveWeek
  split
  · exact ⟨rfl, rfl, rfl⟩
  · exact ⟨rfl, rfl, rfl⟩

theorem mem_weekIds_saveWeek {row : WeekMamaCarryTotal} {id : Nat} :
    id ∈ (s.saveWeek row).weekIds ↔ id = row.mamaId ∨ id ∈ s.weekIds := by
  rw [weekIds_saveWeek]
  split
  · rename_i hmem
    refine ⟨Or.inr, fun h => ?_⟩
    rcases h with rfl | h
    · exact hmem
    · exact h
  · simp [or_comm]

theorem Known.saveWeek (hs : Known s) {row : WeekMamaCarryTotal}
    (hmama : (s.mamas row.mamaId).isSome = true) : Known (s.saveWeek row) := by
  constructor
  · rw [weekIds_saveWeek]
    split
    · exact hs.1
    · rename_i hnew
      rw [← List.concat_eq_append]
      exact hs.1.concat hnew
  · intro id hid
    rw [(saveWeek_rest s row).1]
    rcases mem_weekIds_saveWeek.1 hid with rfl | hid
    · exact hmama
    · exact hs.2 id hid

/-! ## Steps and runs -/

def saved (s : TeamDb) (row : WeekMamaCarryTotal) : TeamDb :=
  let t := s.saveWeek row
  refreshedAll t row.mamaId (t.weekIds.filter fun id => id ∈ t.getFamilyMemberIds row.mamaId)

theorem weekUpdateOrCreate_run (hs : Known s) {mama : Nat} (total durationTotal : Int)
    (hmama : s.mamas mama = some true) :
    (weekUpdateOrCreate mama total durationTotal).run s =
      (.ok (), saved s ⟨mama, total, durationTotal⟩) := by
  have hknown : Known (s.saveWeek ⟨mama, total, durationTotal⟩) := hs.saveWeek (by simp [hmama])
  unfold weekUpdateOrCreate
  rw [getOr_bind_run, hmama]
  simp only [if_true, modify_bind_run, gets_bind_run]
  exact forEach_refresh mama (hknown.1.filter _) fun leader hleader =>
    hknown.2 leader (List.mem_filter.1 hleader).1

theorem family_of_isMember {leader mama : Nat} (h : s.isMember leader mama = true) :
    leader ∈ s.getFamilyMemberIds mama := by
  unfold TeamDb.isMember at h
  unfold TeamDb.getFamilyMemberIds
  rw [Bool.or_eq_true] at h
  cases hship : s.referals mama with
  | none =>
    simp only [hship, Option.any_none, Bool.false_eq_true, or_false] at h
    simp [of_decide_eq_true h]
  | some ship =>
    rcases h with h | h
    · simp [of_decide_eq_true h]
    · simp only [hship, Option.any_some] at h
      simp [of_decide_eq_true h]

theorem agrees_saved {row : WeekMamaCarryTotal} {leader : Nat} {team : WeekMamaTeamCarryTotal}
    (hreached : ∀ old, s.teams leader = some old → s.isMember leader row.mamaId = true →
      Reached s row.mamaId leader old)
    (hteam : (saved s row).teams leader = some team)
    (hmember : (saved s row).isMember leader row.mamaId = true) :
    Agrees (saved s row) leader team := by
  obtain ⟨-, hreferals, hteams⟩ := saveWeek_rest s row
  have hisMember : (s.saveWeek row).isMember = s.isMember := by
    unfold TeamDb.isMember
    rw [hreferals]
  have hold : s.isMember leader row.mamaId = true := by
    rw [← hisMember]
    exact hmember
  have hfamily := family_of_isMember (s := s.saveWeek row) hmember
  -- a record that lists the mama already has its members from before
  have remembered : ∀ old, s.teams leader = some old → row.mamaId ∉ old.memberIds ∨
      old.memberIds = (s.saveWeek row).weekIds.filter (s.isMember leader) := by
    intro old hget
    by_cases hmem : row.mamaId ∈ old.memberIds
    · right
      have hsame := (hreached old hget hold).2.resolve_left (not_not_intro hmem)
      have hweek : row.mamaId ∈ s.weekIds := by
        rw [hsame] at hmem
        exact (List.mem_filter.1 hmem).1
      rw [weekIds_saveWeek, if_pos hweek]
      exact hsame
    · exact Or.inl hmem
  unfold saved refreshedAll at hteam
  dsimp only at hteam
  split at hteam
  · obtain rfl := Option.some.inj hteam
    have hagrees : Agrees (s.saveWeek row) leader
        (refreshed (s.saveWeek row) row.mamaId leader) := by
      apply agrees_refreshed
      rw [hteams, TeamDb.getMemberIds, hisMember]
      exact remembered
    exact ⟨hagrees.memberIds, hagrees.total, hagrees.durationTotal⟩
  · rename_i hleader
    rw [hteams] at hteam
    have hweek := (hreached team hteam hold).1
    exact absurd (List.mem_filter.2 ⟨mem_weekIds_saveWeek.2 hweek, decide_eq_true hfamily⟩) hleader

theorem Known.of_same (hs : Known s) {t : TeamDb} (hmamas : t.mamas = s.mamas)
    (hweeks : t.weeks = s.weeks) : Known t := by
  unfold Known TeamDb.weekIds
  rw [hmamas, hweeks]
  exact hs

theorem law_of_fits (hs : Known s) (op : TeamOp) (h : Fits s op) : Law s op ∧ Known (op.exec s) := by
  unfold Law TeamOp.exec
  cases op with
  | weekUpdateOrCreate mama total durationTotal =>
    obtain ⟨hmama, hreached⟩ := h
    obtain ⟨available, havailable⟩ := Option.isSome_iff_exists.1 hmama
    cases available with
    | true =>
      simp only [TeamOp.program, weekUpdateOrCreate_run hs total durationTotal havailable]
      refine ⟨⟨trivial, fun _ leader team => agrees_saved (hreached leader)⟩, ?_⟩
      exact (hs.saveWeek hmama).of_same rfl rfl
    | false =>
      have hrun : (weekUpdateOrCreate mama total durationTotal).run s = (.ok (), s) := by
        unfold weekUpdateOrCreate
        rw [getOr_bind_run, havailable]
        rfl
      simp only [TeamOp.program, hrun]
      exact ⟨⟨trivial, fun hno => by simp [havailable] at hno⟩, hs⟩
  | generate mama =>
    simp only [TeamOp.program, generate_run h.1 h.2]
    exact ⟨⟨trivial, trivial⟩, hs.of_same rfl rfl⟩
  | updateOrCreate mama =>
    have hrun : (updateOrCreate mama).run s = (generate mama).run s := by
      unfold updateOrCreate
      rw [gets_bind_run, h.2]
    simp only [TeamOp.program, hrun, generate_run h.1 h.2]
    exact ⟨⟨trivial, trivial⟩, hs.of_same rfl rfl⟩
  | resetMamaIds leader =>
    unfold TeamOp.program resetMamaIds
    rw [gets_bind_run]
    cases s.teams leader with
    | none => exact ⟨⟨rfl, trivial⟩, hs⟩
    | some team => exact ⟨⟨rfl, trivial⟩, hs.of_same rfl rfl⟩
  | setReferal mama ship => exact ⟨⟨rfl, trivial⟩, hs.of_same rfl rfl⟩

def TeamDb.start (mamas : Nat → Option Bool) (referals : Nat → Option ReferalRelationship) :
    TeamDb := ⟨mamas, referals, [], fun _ => none⟩

/-- Team records follow their members in every run in which each record that a save has to
reach can be reached, and teams are only made once. -/
theorem teams_follow (mamas : Nat → Option Bool) (referals : Nat → Option ReferalRelationship)
    (ops : List TeamOp) (h : Guarded TeamOp.exec Fits ops (.start mamas referals)) :
    Guarded TeamOp.exec Law ops (.start mamas referals) := by
  have hstep : ∀ s op, Known s → Fits s op → Law s op := fun _ op hs h => (law_of_fits hs op h).1
  have hkeeps : ∀ s op, Known s → Fits s op → Known (TeamOp.exec op s) :=
    fun _ op hs h => (law_of_fits hs op h).2
  exact guarded_of_guarded hstep hkeeps ops _ ⟨List.nodup_nil, by simp [TeamDb.weekIds, TeamDb.start]⟩ h

def pairTeam : TeamDb := .start (fun _ => some true) fun mama => if mama = 2 then some ⟨some 1, none⟩ else none

theorem teams_follow_pair :
    Guarded TeamOp.exec Law [.weekUpdateOrCreate 1 10 5, .weekUpdateOrCreate 2 4 4] pairTeam := by
  refine teams_follow _ _ _ ⟨⟨rfl, by simp [TeamDb.start]⟩, ⟨rfl, fun leader team hteam _ => ?_⟩, trivial⟩
  have hfirst : Function.update (fun _ => none) 1 (some ⟨[1], 10, 5⟩) leader = some team := hteam
  by_cases heq : leader = 1
  · rw [heq, Function.update_self, Option.some.injEq] at hfirst
    rw [heq, ← hfirst]
    exact ⟨Or.inr (by decide), Or.inl (by decide)⟩
  · rw [Function.update_of_ne heq] at hfirst
    simp at hfirst

theorem teams_follow_fails :
    ¬ Guarded TeamOp.exec Law [.weekUpdateOrCreate 1 10 5, .updateOrCreate 1] pairTeam := by
  rintro ⟨-, hlaw, -⟩
  exact absurd hlaw.1 (by decide +kernel)

end ShopManager.Mama.Rank.Team
