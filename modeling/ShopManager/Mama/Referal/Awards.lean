import ShopManager.Library.Execution
import ShopManager.Mama.Award

/-!
# Awards for recommended mamas

Saving a relationship queues a task that keeps two awards: a direct one for the mama who
recommended, and an indirect one for the mama above her.  The task looks for the
indirect award under a test that the direct one has already settled.
-/

namespace ShopManager.Mama.Referal

open Library Library.Tx Library.Execution AwardCarry

structure AwardDb where
  referal : ReferalDb
  awards : String → Option AwardCarry

abbrev AwardTx (α : Type) := Tx AwardDb Exn α

namespace AwardDb

def setAward (s : AwardDb) (uniKey : String) (award : AwardCarry) : AwardDb :=
  { s with awards := Function.update s.awards uniKey (some award) }

end AwardDb

/-! ## The task -/

def awardStatus (ship : ReferalRelationship) : AwardStatus :=
  if ship.isConfirmed then .confirmed else .staging

/-- Texts of the task: the one for an award not yet confirmed, and the drawn one. -/
def awardDescription (drawn : String) (ship : ReferalRelationship) : String :=
  if ship.isConfirmed then drawn else "加入正式会员，奖金就会确认哦！"

def withStatus (today : Date) (award : AwardCarry) (status : AwardStatus) : AwardCarry :=
  if award.status = status then award
  else
    { award with
      status := status
      dateField := if status = .confirmed then today else award.dateField }

def directAward (drawn : String) (toMama : Nat) (ship : ReferalRelationship) : AwardCarry where
  mamaId := ship.referalFromMamaId
  carryNum := 10000
  carryType := 1
  carryDescription := awardDescription drawn ship
  contributorNick := ship.referalToMamaNick
  contributorImg := ship.referalToMamaImg
  contributorMamaId := toMama
  dateField := ship.created
  status := awardStatus ship

/-- `level_2_mama`: the row of the mama above `mamaId`.  Without a relationship of
`mamaId`, or with the id 0 in it, the name is never assigned. -/
def levelTwoMama (s : ReferalDb) (mamaId : Nat) : Except Exn (Option XiaoluMama) :=
  match s.relationships mamaId with
  | none => .error (.exception "level_2_mama referenced before assignment")
  | some second =>
      if second.referalFromMamaId = 0 then
        .error (.exception "level_2_mama referenced before assignment")
      else .ok (s.mamas second.referalFromMamaId)

/-- The end of the task.  An indirect award that is found has its status compared and
written on the direct one, and one that is not found is not made, since the test asks
for the direct one again. -/
def updateIndirect (today : Date) (toMama : Nat) (ship : ReferalRelationship)
    (direct : AwardCarry) : AwardTx Unit := do
  let second ← getOr .attributeError fun s =>
    s.referal.relationships ship.referalFromMamaId
  match ← gets fun s => s.awards (genUniKey ship.referalFromMamaId awardIndirectInvite) with
  | some _ => modify (fun s =>
      s.setAward (genUniKey toMama 1) (withStatus today direct (awardStatus second)))
  | none => pure ()

/-- `task_referal_update_awardcarry`, for the relationship of `toMama`. -/
def referalUpdateAwardcarry (today : Date) (drawn : String) (toMama : Nat)
    (ship : ReferalRelationship) : AwardTx Unit := do
  match ← gets fun s => s.awards (genUniKey toMama 1) with
  | some award => modify (fun s =>
      s.setAward (genUniKey toMama 1) (withStatus today award (awardStatus ship)))
  | none => do
      modify fun s => s.setAward (genUniKey toMama 1) (directAward drawn toMama ship)
      let levelTwo ← gets fun s => levelTwoMama s.referal ship.referalFromMamaId
      let levelTwo ← ofExcept levelTwo
      if levelTwo.isSome then updateIndirect today toMama ship (directAward drawn toMama ship)
      else pure ()

structure RelationshipSave where
  toMama : Nat
  ship : ReferalRelationship
  today : Date
  drawn : String
  deriving Repr

/-- The tables, the mamas whose relationship was saved, and whether a task raised. -/
structure SavesState where
  db : AwardDb
  saved : List Nat
  raised : Bool

namespace RelationshipSave

def stored (op : RelationshipSave) (s : AwardDb) : AwardDb :=
  { s with referal := s.referal.setRelationship op.toMama op.ship }

def task (op : RelationshipSave) : AwardTx Unit :=
  referalUpdateAwardcarry op.today op.drawn op.toMama op.ship

def exec (op : RelationshipSave) (st : SavesState) : SavesState where
  db := (op.task.run (op.stored st.db)).2
  saved := op.toMama :: st.saved
  raised := st.raised || !(op.task.run (op.stored st.db)).1.isOk

end RelationshipSave

namespace ReferalDb

/-- The mama above `mamaId`, if she has a row. -/
def liveUpperOf (s : ReferalDb) (mamaId : Nat) : Option Nat :=
  ((s.relationships mamaId).map ReferalRelationship.referalFromMamaId).filter fun upper =>
    upper ≠ 0 ∧ (s.mamas upper).isSome

end ReferalDb

/-- The award under the key of a mama and a type is for `mamaId`, and confirmed exactly
when the relationship that earned it is. -/
def AwardFor (s : AwardDb) (contributor awardType mamaId : Nat) (ship : ReferalRelationship) :
    Prop :=
  ∃ award, s.awards (genUniKey contributor awardType) = some award ∧ award.mamaId = mamaId ∧
    award.carryType = awardType ∧ (award.status = .confirmed ↔ ship.isConfirmed = true)

structure SavesState.Follows (st : SavesState) : Prop where
  quiet : st.raised = false
  direct : ∀ toMama ∈ st.saved, ∀ ship, st.db.referal.relationships toMama = some ship →
    AwardFor st.db toMama 1 ship.referalFromMamaId ship
  indirect : ∀ toMama ∈ st.saved, ∀ ship second upper,
    st.db.referal.relationships toMama = some ship →
      st.db.referal.relationships ship.referalFromMamaId = some second →
        st.db.referal.liveUpperOf ship.referalFromMamaId = some upper →
          AwardFor st.db ship.referalFromMamaId awardIndirectInvite upper second

def OthersKept (st : SavesState) (op : RelationshipSave) : Prop :=
  ∀ uniKey, uniKey ≠ genUniKey op.toMama 1 →
    uniKey ≠ genUniKey op.ship.referalFromMamaId awardIndirectInvite →
      (op.exec st).db.awards uniKey = st.db.awards uniKey

structure SavesState.Fresh (st : SavesState) : Prop where
  saved : st.saved = []
  quiet : st.raised = false
  direct : ∀ mamaId, st.db.awards (genUniKey mamaId 1) = none
  indirect : ∀ mamaId, st.db.awards (genUniKey mamaId awardIndirectInvite) = none

/-- A relationship saved for the first time goes to a mama whose own relationship names a
mama; one saved again keeps its mama; and of no saved relationship the mama above the mama
has a row. -/
structure RelationshipSave.Sound (st : SavesState) (op : RelationshipSave) : Prop where
  named : op.toMama ∉ st.saved → ∃ second,
    (op.stored st.db).referal.relationships op.ship.referalFromMamaId = some second ∧
      second.referalFromMamaId ≠ 0
  kept : op.toMama ∈ st.saved → ∀ old, st.db.referal.relationships op.toMama = some old →
    old.referalFromMamaId = op.ship.referalFromMamaId
  unreferred : ∀ toMama ∈ op.toMama :: st.saved, ∀ ship,
    (op.stored st.db).referal.relationships toMama = some ship →
      (op.stored st.db).referal.liveUpperOf ship.referalFromMamaId = none

/-! ## One save -/

theorem awardStatus_eq_confirmed {ship : ReferalRelationship} :
    awardStatus ship = .confirmed ↔ ship.isConfirmed = true := by
  unfold awardStatus
  cases ship.isConfirmed <;> simp

@[simp] theorem withStatus_status (today : Date) (award : AwardCarry) (status : AwardStatus) :
    (withStatus today award status).status = status := by
  unfold withStatus
  split
  · assumption
  · rfl

@[simp] theorem withStatus_mamaId (today : Date) (award : AwardCarry) (status : AwardStatus) :
    (withStatus today award status).mamaId = award.mamaId := by
  unfold withStatus
  split <;> rfl

@[simp] theorem withStatus_carryType (today : Date) (award : AwardCarry)
    (status : AwardStatus) : (withStatus today award status).carryType = award.carryType := by
  unfold withStatus
  split <;> rfl

theorem levelTwoMama_isOk {s : ReferalDb} {mamaId : Nat} :
    (levelTwoMama s mamaId).isOk = true ↔
      ∃ second, s.relationships mamaId = some second ∧ second.referalFromMamaId ≠ 0 := by
  unfold levelTwoMama
  cases s.relationships mamaId with
  | none => simp [Except.isOk, Except.toBool]
  | some second =>
    by_cases hzero : second.referalFromMamaId = 0
    · simp [hzero, Except.isOk, Except.toBool]
    · simp [hzero, Except.isOk, Except.toBool]

section Task

variable {s : AwardDb} {today : Date} {drawn : String} {toMama : Nat}
  {ship : ReferalRelationship}

theorem task_known {award : AwardCarry} (h : s.awards (genUniKey toMama 1) = some award) :
    (referalUpdateAwardcarry today drawn toMama ship).run s =
      (.ok (), s.setAward (genUniKey toMama 1) (withStatus today award (awardStatus ship))) := by
  unfold referalUpdateAwardcarry
  rw [gets_bind_run, h]
  rfl

theorem updateIndirect_missing (today : Date) (toMama : Nat) (direct : AwardCarry)
    (h : s.awards (genUniKey ship.referalFromMamaId awardIndirectInvite) = none) :
    ((updateIndirect today toMama ship direct).run s).2 = s ∧
      ((s.referal.relationships ship.referalFromMamaId).isSome →
        ((updateIndirect today toMama ship direct).run s).1.isOk = true) := by
  unfold updateIndirect
  rw [getOr_bind_run]
  cases s.referal.relationships ship.referalFromMamaId with
  | none => exact ⟨rfl, fun h => absurd h (by simp)⟩
  | some second =>
    dsimp only
    rw [gets_bind_run, h]
    exact ⟨rfl, fun _ => rfl⟩

theorem task_new (h : s.awards (genUniKey toMama 1) = none)
    (hindirect : s.awards (genUniKey ship.referalFromMamaId awardIndirectInvite) = none) :
    ((referalUpdateAwardcarry today drawn toMama ship).run s).2 =
        s.setAward (genUniKey toMama 1) (directAward drawn toMama ship) ∧
      ((referalUpdateAwardcarry today drawn toMama ship).run s).1.isOk =
        (levelTwoMama s.referal ship.referalFromMamaId).isOk := by
  have hkey : genUniKey ship.referalFromMamaId awardIndirectInvite ≠ genUniKey toMama 1 :=
    fun heq => absurd (genUniKey_inj.1 heq).2 (by decide)
  have hmissing : (s.setAward (genUniKey toMama 1) (directAward drawn toMama ship)).awards
      (genUniKey ship.referalFromMamaId awardIndirectInvite) = none := by
    show Function.update s.awards _ _ _ = none
    rw [Function.update_of_ne hkey, hindirect]
  unfold referalUpdateAwardcarry
  rw [gets_bind_run, h]
  dsimp only
  rw [modify_bind_run, gets_bind_run, ofExcept_bind_run]
  show _ = _ ∧ _ = (levelTwoMama s.referal ship.referalFromMamaId).isOk
  cases hlevel : levelTwoMama s.referal ship.referalFromMamaId with
  | error e =>
    have hlevel' : levelTwoMama (s.setAward (genUniKey toMama 1)
        (directAward drawn toMama ship)).referal ship.referalFromMamaId = .error e := hlevel
    rw [hlevel']
    exact ⟨rfl, rfl⟩
  | ok levelTwo =>
    have hlevel' : levelTwoMama (s.setAward (genUniKey toMama 1)
        (directAward drawn toMama ship)).referal ship.referalFromMamaId = .ok levelTwo := hlevel
    rw [hlevel']
    dsimp only
    cases levelTwo with
    | none => exact ⟨rfl, rfl⟩
    | some mama =>
      obtain ⟨second, hsecond, _⟩ := levelTwoMama_isOk.1
        (show (levelTwoMama s.referal ship.referalFromMamaId).isOk = true by rw [hlevel]; rfl)
      have hend := updateIndirect_missing today toMama (directAward drawn toMama ship) hmissing
      exact ⟨hend.1, hend.2 (by rw [show (s.setAward (genUniKey toMama 1)
        (directAward drawn toMama ship)).referal = s.referal from rfl, hsecond]; rfl)⟩

end Task

/-- What holds between saves: the saved relationships are those with a direct award, and
the task made no indirect one. -/
structure SavesState.Tracked (st : SavesState) : Prop where
  direct : ∀ mamaId, (st.db.awards (genUniKey mamaId 1)).isSome ↔ mamaId ∈ st.saved
  indirect : ∀ mamaId, st.db.awards (genUniKey mamaId awardIndirectInvite) = none
  stored : ∀ mamaId ∈ st.saved, (st.db.referal.relationships mamaId).isSome

theorem SavesState.Fresh.tracked {st : SavesState} (h : st.Fresh) : st.Tracked where
  direct mamaId := by simp [h.direct, h.saved]
  indirect := h.indirect
  stored mamaId hmem := by simp [h.saved] at hmem

theorem SavesState.Fresh.follows {st : SavesState} (h : st.Fresh) : st.Follows where
  quiet := h.quiet
  direct toMama hmem := by simp [h.saved] at hmem
  indirect toMama hmem := by simp [h.saved] at hmem

namespace RelationshipSave

def written (op : RelationshipSave) (s : AwardDb) : AwardCarry :=
  match s.awards (genUniKey op.toMama 1) with
  | some award => withStatus op.today award (awardStatus op.ship)
  | none => directAward op.drawn op.toMama op.ship

variable {st : SavesState} {op : RelationshipSave}

theorem exec_db (ht : st.Tracked) : (op.exec st).db =
    (op.stored st.db).setAward (genUniKey op.toMama 1) (op.written st.db) := by
  show (op.task.run (op.stored st.db)).2 = _
  unfold task written
  cases h : st.db.awards (genUniKey op.toMama 1) with
  | some award => rw [task_known (s := op.stored st.db) h]
  | none => rw [(task_new (s := op.stored st.db) h (ht.indirect _)).1]

theorem exec_raised (ht : st.Tracked) : (op.exec st).raised = false ↔
    st.raised = false ∧ (op.toMama ∉ st.saved → ∃ second,
      (op.stored st.db).referal.relationships op.ship.referalFromMamaId = some second ∧
        second.referalFromMamaId ≠ 0) := by
  have hraised : (op.exec st).raised =
      (st.raised || !(op.task.run (op.stored st.db)).1.isOk) := rfl
  rw [hraised, Bool.or_eq_false_iff, Bool.not_eq_false']
  apply and_congr_right'
  unfold task
  cases h : st.db.awards (genUniKey op.toMama 1) with
  | some award =>
    have hsaved : op.toMama ∈ st.saved := (ht.direct _).1 (by rw [h]; rfl)
    rw [task_known (s := op.stored st.db) h]
    simp [hsaved, Except.isOk, Except.toBool]
  | none =>
    have hsaved : op.toMama ∉ st.saved := fun hmem => by
      have hsome := (ht.direct _).2 hmem
      rw [h] at hsome
      cases hsome
    rw [(task_new (s := op.stored st.db) h (ht.indirect _)).2, levelTwoMama_isOk]
    simp [hsaved]

theorem exec_relationships (ht : st.Tracked) : (op.exec st).db.referal =
    (op.stored st.db).referal := by
  rw [exec_db ht]
  rfl

theorem stored_self : (op.stored st.db).referal.relationships op.toMama = some op.ship :=
  Function.update_self ..

theorem stored_of_ne {mamaId : Nat} (h : mamaId ≠ op.toMama) :
    (op.stored st.db).referal.relationships mamaId = st.db.referal.relationships mamaId :=
  Function.update_of_ne h ..

theorem exec_direct_self (ht : st.Tracked) :
    (op.exec st).db.awards (genUniKey op.toMama 1) = some (op.written st.db) := by
  rw [exec_db ht]
  exact Function.update_self ..

theorem exec_direct_of_ne (ht : st.Tracked) {mamaId : Nat} (h : mamaId ≠ op.toMama) :
    (op.exec st).db.awards (genUniKey mamaId 1) = st.db.awards (genUniKey mamaId 1) := by
  rw [exec_db ht]
  exact Function.update_of_ne (fun heq => h (genUniKey_inj.1 heq).1) ..

theorem exec_indirect (op : RelationshipSave) (ht : st.Tracked) (mamaId : Nat) :
    (op.exec st).db.awards (genUniKey mamaId awardIndirectInvite) = none := by
  rw [exec_db ht, ← ht.indirect mamaId]
  exact Function.update_of_ne (fun heq => absurd (genUniKey_inj.1 heq).2 (by decide)) ..

theorem exec_tracked (ht : st.Tracked) : (op.exec st).Tracked where
  direct mamaId := by
    show _ ↔ mamaId ∈ op.toMama :: st.saved
    rw [List.mem_cons]
    by_cases hm : mamaId = op.toMama
    · rw [hm, exec_direct_self ht]
      simp
    · rw [exec_direct_of_ne ht hm, ht.direct]
      simp [hm]
  indirect := exec_indirect op ht
  stored mamaId hmem := by
    rw [exec_relationships ht]
    by_cases hm : mamaId = op.toMama
    · rw [hm, stored_self]
      rfl
    · rw [stored_of_ne hm]
      exact ht.stored mamaId ((List.mem_cons.1 hmem).resolve_left hm)

theorem written_for (op : RelationshipSave) (ht : st.Tracked) (hs : st.Follows) :
    (op.written st.db).carryType = 1 ∧
      ((op.written st.db).status = .confirmed ↔ op.ship.isConfirmed = true) ∧
        ((op.written st.db).mamaId = op.ship.referalFromMamaId ↔
          (op.toMama ∈ st.saved → ∀ old, st.db.referal.relationships op.toMama = some old →
            old.referalFromMamaId = op.ship.referalFromMamaId)) := by
  unfold written
  cases h : st.db.awards (genUniKey op.toMama 1) with
  | none =>
    have hsaved : op.toMama ∉ st.saved := fun hmem => by
      have hsome := (ht.direct _).2 hmem
      rw [h] at hsome
      cases hsome
    refine ⟨rfl, awardStatus_eq_confirmed, ?_⟩
    simp [directAward, hsaved]
  | some award =>
    have hsaved : op.toMama ∈ st.saved := (ht.direct _).1 (by rw [h]; rfl)
    obtain ⟨old, hold⟩ := Option.isSome_iff_exists.1 (ht.stored _ hsaved)
    obtain ⟨award', haward', hmama, htype, _⟩ := hs.direct _ hsaved old hold
    rw [h] at haward'
    obtain rfl := Option.some.inj haward'
    refine ⟨?_, ?_, ?_⟩
    · rw [withStatus_carryType, htype]
    · rw [withStatus_status, awardStatus_eq_confirmed]
    · rw [withStatus_mamaId, hmama]
      simp [hsaved, hold]

theorem exec_follows_iff (ht : st.Tracked) (hs : st.Follows) :
    (op.exec st).Follows ↔ op.Sound st := by
  obtain ⟨htype, hstatus, hmama⟩ := written_for op ht hs
  constructor
  · intro hs'
    refine ⟨((exec_raised ht).1 hs'.quiet).2, ?_, ?_⟩
    · obtain ⟨award, haward, hfor, _⟩ := hs'.direct op.toMama (List.mem_cons_self ..) op.ship
        (by rw [exec_relationships ht, stored_self])
      rw [exec_direct_self ht] at haward
      obtain rfl := Option.some.inj haward
      exact hmama.1 hfor
    · intro toMama hmem ship hship
      rw [← exec_relationships ht] at hship ⊢
      cases hlive : (op.exec st).db.referal.liveUpperOf ship.referalFromMamaId with
      | none => rfl
      | some upper =>
        cases hsecond : (op.exec st).db.referal.relationships ship.referalFromMamaId with
        | none =>
          unfold ReferalDb.liveUpperOf at hlive
          rw [hsecond] at hlive
          cases hlive
        | some second =>
          obtain ⟨award, haward, _⟩ := hs'.indirect toMama hmem ship second upper hship
            hsecond hlive
          rw [exec_indirect op ht] at haward
          cases haward
  · intro hsound
    refine ⟨(exec_raised ht).2 ⟨hs.quiet, hsound.named⟩, ?_, ?_⟩
    · intro toMama hmem ship hship
      rw [exec_relationships ht] at hship
      by_cases hm : toMama = op.toMama
      · subst hm
        rw [stored_self] at hship
        obtain rfl := Option.some.inj hship
        exact ⟨_, exec_direct_self ht, hmama.2 hsound.kept, htype, hstatus⟩
      · rw [stored_of_ne hm] at hship
        obtain ⟨award, haward, hrest⟩ :=
          hs.direct toMama ((List.mem_cons.1 hmem).resolve_left hm) ship hship
        exact ⟨award, by rw [exec_direct_of_ne ht hm, haward], hrest⟩
    · intro toMama hmem ship second upper hship _ hlive
      rw [exec_relationships ht] at hship hlive
      rw [hsound.unreferred toMama hmem ship hship] at hlive
      cases hlive

theorem task_keeps (op : RelationshipSave) :
    Keeps (fun s s' : AwardDb => ∀ uniKey, uniKey ≠ genUniKey op.toMama 1 →
      s'.awards uniKey = s.awards uniKey) op.task := by
  have hrefl : ∀ s : AwardDb, ∀ uniKey, uniKey ≠ genUniKey op.toMama 1 →
      s.awards uniKey = s.awards uniKey := fun _ _ _ => rfl
  have htrans : ∀ a b c : AwardDb,
      (∀ uniKey, uniKey ≠ genUniKey op.toMama 1 → b.awards uniKey = a.awards uniKey) →
      (∀ uniKey, uniKey ≠ genUniKey op.toMama 1 → c.awards uniKey = b.awards uniKey) →
      ∀ uniKey, uniKey ≠ genUniKey op.toMama 1 → c.awards uniKey = a.awards uniKey :=
    fun a b c hab hbc uniKey hkey => (hbc uniKey hkey).trans (hab uniKey hkey)
  have hset : ∀ award : AwardDb → AwardCarry, Keeps (fun s s' : AwardDb =>
      ∀ uniKey, uniKey ≠ genUniKey op.toMama 1 → s'.awards uniKey = s.awards uniKey)
        (Tx.modify (ε := Exn) fun s => s.setAward (genUniKey op.toMama 1) (award s)) := by
    intro award
    apply Keeps.modify
    intro s uniKey hkey
    exact Function.update_of_ne hkey ..
  unfold task referalUpdateAwardcarry
  apply Keeps.bind htrans (Keeps.gets hrefl _)
  intro known
  cases known with
  | some award => exact hset fun _ => withStatus op.today award (awardStatus op.ship)
  | none =>
    apply Keeps.bind htrans (hset fun _ => directAward op.drawn op.toMama op.ship)
    intro _
    apply Keeps.bind htrans (Keeps.gets hrefl _)
    intro levelTwo
    apply Keeps.bind htrans (Keeps.ofExcept hrefl levelTwo)
    intro levelTwo
    refine Keeps.ite _ ?_ (Keeps.pure hrefl ())
    unfold updateIndirect
    apply Keeps.bind htrans (Keeps.getOr hrefl _ _)
    intro second
    apply Keeps.bind htrans (Keeps.gets hrefl _)
    intro indirect
    cases indirect with
    | none => exact Keeps.pure hrefl ()
    | some award =>
      exact hset fun _ => withStatus op.today
        (directAward op.drawn op.toMama op.ship) (awardStatus second)

theorem othersKept (st : SavesState) (op : RelationshipSave) : OthersKept st op := by
  intro uniKey hdirect _
  exact task_keeps op (op.stored st.db) uniKey hdirect

end RelationshipSave

/-- Over every referral table and every run of saves the awards follow the relationships
throughout, with no task raising, exactly when every save is sound; and no save touches
another award. -/
theorem referal_awards_iff (ops : List RelationshipSave) (st : SavesState) (hst : st.Fresh) :
    (Throughout RelationshipSave.exec SavesState.Follows ops st ↔
      Guarded RelationshipSave.exec (fun st op => op.Sound st) ops st) ∧
        Guarded RelationshipSave.exec OthersKept ops st := by
  refine ⟨?_, guarded_of_forall RelationshipSave.othersKept ops st⟩
  have halways : ∀ (st : SavesState) (op : RelationshipSave), st.Tracked → (op.exec st).Tracked :=
    fun _ _ ht => RelationshipSave.exec_tracked ht
  have hstep : ∀ (st : SavesState) (op : RelationshipSave), st.Tracked → st.Follows →
      ((op.exec st).Follows ↔ op.Sound st) :=
    fun _ _ ht hs => RelationshipSave.exec_follows_iff ht hs
  exact throughout_iff_guarded halways hstep ops st hst.tracked hst.follows

/-- `mama` was recommended by `upper`. -/
def recommended (upper : Nat) (referalType : RenewType) : ReferalRelationship where
  referalFromGrandmaId := 0
  referalFromMamaId := upper
  referalToMamaNick := ""
  referalToMamaImg := ""
  orderId := "xo1"
  referalType := referalType
  status := .valid
  created := { isoformat := "2017-05-01" }

def saves (toMama upper : Nat) (referalType : RenewType) : RelationshipSave where
  toMama := toMama
  ship := recommended upper referalType
  today := { isoformat := "2017-05-02" }
  drawn := ""

/-- Mama 2 was recommended by `upper`; the mamas up to 8 have a row. -/
def beforeSaves (upper : Nat) : SavesState where
  db :=
    { referal :=
        { relationships := fun mamaId =>
            if mamaId = 2 then some (recommended upper .full) else none
          mamas := fun mamaId =>
            if mamaId ≤ 8 then some
              { lastRenewType := .full
                chargeStatus := .charged
                status := .effect
                referalFrom := .direct
                customer := none }
            else none
          fans := fun _ => none }
      awards := fun _ => none }
  saved := []
  raised := false

theorem beforeSaves_fresh (upper : Nat) : (beforeSaves upper).Fresh :=
  ⟨rfl, rfl, fun _ => rfl, fun _ => rfl⟩

/-- The mama of mama 2 has no row, so no indirect award is due: the relationship of mama 3
is saved on trial and then for a year. -/
theorem referal_awards_sample :
    Throughout RelationshipSave.exec SavesState.Follows [saves 3 2 .trial, saves 3 2 .full]
      (beforeSaves 9) := by
  apply ((referal_awards_iff _ _ (beforeSaves_fresh 9)).1).2
  refine ⟨⟨fun _ => ⟨_, rfl, by decide⟩, ?_, ?_⟩, ⟨?_, ?_, ?_⟩, trivial⟩
  · intro hmem
    cases hmem
  · intro toMama hmem ship hship
    obtain rfl := List.mem_singleton.1 hmem
    obtain rfl := Option.some.inj hship
    rfl
  · intro hmem
    exact absurd (List.mem_singleton.2 rfl) hmem
  · intro _ old hold
    obtain rfl := Option.some.inj hold
    rfl
  · intro toMama hmem ship hship
    have hthree : toMama = 3 := by
      rcases List.mem_cons.1 hmem with h | h
      · exact h
      · exact List.mem_singleton.1 h
    subst hthree
    obtain rfl := Option.some.inj hship
    rfl

/-- With the mama of mama 2 in the table her indirect award is never made, and the
relationship of mama 2 itself, saved under a mama without one, raises. -/
theorem referal_awards_fail :
    ¬ Throughout RelationshipSave.exec SavesState.Follows [saves 3 2 .full] (beforeSaves 1) ∧
      (run RelationshipSave.exec [saves 2 1 .full] (beforeSaves 1)).raised = true := by
  constructor
  · intro h
    obtain ⟨award, haward, _⟩ := h.last.indirect 3 (List.mem_singleton.2 rfl) _ _ 1 rfl rfl rfl
    have ht := (beforeSaves_fresh 1).tracked
    have hnone := RelationshipSave.exec_indirect (saves 3 2 .full) ht 2
    have hsome := haward.symm.trans hnone
    cases hsome
  · rfl

end ShopManager.Mama.Referal
