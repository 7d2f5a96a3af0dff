import ShopManager.Mama.Earning.Follow

/-!
# Earnings records mirror what earned them

Once the queued tasks have run, the record of every carry says what the carry says, as
long as no carry with a record comes back from a later status: the tasks never open a
record again.
-/

namespace ShopManager.Mama.Earning

open Library Library.Tx Library.Execution EarningDb

/-! ## Keys -/

theorem genOrdercarryUnikey_inj {carryType carryType' : OrderCarryType}
    {orderId orderId' : String} :
    genOrdercarryUnikey carryType orderId = genOrdercarryUnikey carryType' orderId' ↔
      (if carryType = .appOrder then OrderCarryType.wapOrder else carryType) =
        (if carryType' = .appOrder then .wapOrder else carryType') ∧ orderId = orderId' := by
  unfold genOrdercarryUnikey
  rw [Key.append_left_inj,
    Key.field_inj "-" (c := '-') rfl (Key.free_toString rfl _) (Key.free_toString rfl _),
    Key.toString_inj]
  cases carryType <;> cases carryType' <;> simp [OrderCarryType.number]

def secondKey (orderId : String) : String := genOrdercarryUnikey .referalOrder orderId

theorem secondKey_inj {orderId orderId' : String} :
    secondKey orderId = secondKey orderId' ↔ orderId = orderId' := by
  unfold secondKey
  rw [genOrdercarryUnikey_inj]
  exact and_iff_right rfl

/-! ## The rows of the order carries -/

/-- The keys of the stored carries are their own, and each is of one of the two levels. -/
structure Sane (carries : Table OrderCarry) : Prop where
  keyed : ∀ c ∈ carries, c.uniKey = genOrdercarryUnikey c.carryType c.orderId
  levels : ∀ c ∈ carries, c.isDirectOrFansCarry = true ∨ c.carryType = .referalOrder
  unique : ∀ c ∈ carries, ∀ c' ∈ carries, c.uniKey = c'.uniKey → c = c'

def Put (carries carries' : Table OrderCarry) (carry : OrderCarry) : Prop :=
  ∀ c, c ∈ carries' ↔ c = carry ∨ (c ∈ carries ∧ c.uniKey ≠ carry.uniKey)

def find (carries : Table OrderCarry) (uniKey : String) : Option OrderCarry :=
  carries.first fun c => c.uniKey = uniKey

theorem mem_of_find {carries : Table OrderCarry} {uniKey : String} {carry : OrderCarry}
    (h : find carries uniKey = some carry) : carry ∈ carries := Table.mem_of_first h

theorem uniKey_of_find_carry {carries : Table OrderCarry} {uniKey : String} {carry : OrderCarry}
    (h : find carries uniKey = some carry) : carry.uniKey = uniKey := by
  have hspec := Table.first_spec h
  exact of_decide_eq_true hspec

theorem find_eq_none {carries : Table OrderCarry} {uniKey : String} :
    find carries uniKey = none ↔ ∀ c ∈ carries, c.uniKey ≠ uniKey := by
  unfold find
  rw [Table.first_eq_none]
  constructor
  · intro h c hc
    exact of_decide_eq_false (h c hc)
  · intro h c hc
    exact decide_eq_false (h c hc)

section Rows

variable {carries carries' : Table OrderCarry} {carry : OrderCarry}

theorem Sane.find_of_mem (h : Sane carries) (hc : carry ∈ carries) :
    find carries carry.uniKey = some carry := by
  cases hfind : find carries carry.uniKey with
  | none => exact absurd rfl (find_eq_none.1 hfind carry hc)
  | some c =>
    rw [h.unique c (mem_of_find hfind) carry hc (uniKey_of_find_carry hfind)]

theorem sane_empty : Sane Table.empty := by
  constructor
  · intro c hc
    exact absurd hc (List.not_mem_nil)
  · intro c hc
    exact absurd hc (List.not_mem_nil)
  · intro c hc
    exact absurd hc (List.not_mem_nil)

theorem Sane.put (h : Sane carries) (hput : Put carries carries' carry)
    (hkeyed : carry.uniKey = genOrdercarryUnikey carry.carryType carry.orderId)
    (hlevel : carry.isDirectOrFansCarry = true ∨ carry.carryType = .referalOrder) :
    Sane carries' := by
  constructor
  · intro c hc
    rcases (hput c).1 hc with rfl | ⟨hold, -⟩
    · exact hkeyed
    · exact h.keyed c hold
  · intro c hc
    rcases (hput c).1 hc with rfl | ⟨hold, -⟩
    · exact hlevel
    · exact h.levels c hold
  · intro c hc c' hc' heq
    rcases (hput c).1 hc with rfl | ⟨hold, hne⟩
    · rcases (hput c').1 hc' with rfl | ⟨-, hne'⟩
      · rfl
      · exact absurd heq.symm hne'
    · rcases (hput c').1 hc' with rfl | ⟨hold', -⟩
      · exact absurd heq hne
      · exact h.unique c hold c' hold' heq

theorem Sane.put_save (h : Sane carries) {old : OrderCarry} (hold : old ∈ carries)
    (hid : old.id = carry.id) (hkey : old.uniKey = carry.uniKey) :
    Put carries (carries.save carry) carry := by
  intro c
  have hpk : Row.pk old = Row.pk carry := hid
  constructor
  · intro hc
    rcases Table.mem_save hc with rfl | ⟨hc, hne⟩
    · exact Or.inl rfl
    · right
      refine ⟨hc, fun heq => hne ?_⟩
      rw [h.unique c hc old hold (heq.trans hkey.symm), hpk]
  · have hmem : ∀ r ∈ carries, Row.pk r ≠ Row.pk carry → r ∈ carries.save carry := by
      intro r hr hne
      exact Table.mem_update.2 (Or.inr ⟨hr, by simpa using hne⟩)
    rintro (rfl | ⟨hc, hne⟩)
    · exact Table.mem_update.2
        (Or.inl ⟨old, hold, by simpa using hpk, by rw [hpk, Row.withPk_pk]⟩)
    · apply hmem c hc
      intro heq
      exact hne (Table.pk_inj hc hold (heq.trans hpk.symm) ▸ hkey)

theorem put_insert (hfree : find carries carry.uniKey = none) :
    Put carries (carries.insert carry) (carries.stored carry) := by
  intro c
  have hkey : (carries.stored carry).uniKey = carry.uniKey := rfl
  rw [Table.mem_insert, hkey]
  constructor
  · rintro (hc | rfl)
    · exact Or.inr ⟨hc, find_eq_none.1 hfree c hc⟩
    · exact Or.inl rfl
  · rintro (rfl | ⟨hc, -⟩)
    · exact Or.inr rfl
    · exact Or.inl hc

theorem Put.find (hput : Put carries carries' carry) (h : Sane carries) (h' : Sane carries')
    (uniKey : String) :
    Earning.find carries' uniKey =
      if uniKey = carry.uniKey then some carry else Earning.find carries uniKey := by
  by_cases heq : uniKey = carry.uniKey
  · rw [if_pos heq, heq]
    exact h'.find_of_mem ((hput carry).2 (Or.inl rfl))
  · rw [if_neg heq]
    cases hfind : Earning.find carries uniKey with
    | none =>
      apply find_eq_none.2
      intro c hc
      rcases (hput c).1 hc with rfl | ⟨hold, -⟩
      · exact Ne.symm heq
      · exact find_eq_none.1 hfind c hold
    | some c =>
      have hkey := uniKey_of_find_carry hfind
      subst hkey
      exact h'.find_of_mem ((hput c).2 (Or.inr ⟨mem_of_find hfind, heq⟩))

end Rows

def Task.onEntry (uniKey : String) (found : Option Entry) : Task → Option Entry
  | awardcarryUpdateCarryrecord key carry =>
      if uniKey = key then follow (gainOfAward carry) found else found
  | ordercarryUpdateCarryrecord carry =>
      if uniKey = carry.uniKey then follow (gainOfOrder carry) found else found
  | updateSecondLevelOrdercarry _ _ => found

def forecast (s : EarningDb) (uniKey : String) : Option Entry :=
  s.queue.foldl (Task.onEntry uniKey) (entry s.carry.carryRecords uniKey)

structure Share where
  mamaId : Nat
  carryNum : Int
  status : OrderCarryStatus
  deriving DecidableEq, Repr

def shareOf (carry : OrderCarry) : Share := ⟨carry.mamaId, carry.carryNum, carry.status⟩

def Share.gain (share : Share) : Gain where
  award := false
  mamaId := share.mamaId
  carryNum := share.carryNum
  status := share.status.recordStatus

structure Second where
  share : Option Share
  entry : Option Entry
  deriving DecidableEq, Repr

def secondOf (carries : Table OrderCarry) (orderId : String) : Option Share :=
  (find carries (secondKey orderId)).map shareOf

def derives (around : Surroundings) (ship : ReferalRelationship) (carry : OrderCarry) :
    Option Share :=
  match around.saleOrderItem carry.orderId with
  | none => none
  | some item =>
      if around.product item = true ∧ ship.referalFromMamaId ≠ ship.referalToMamaId then
        some ⟨ship.referalFromMamaId, tenPercent carry.carryNum, carry.status⟩
      else none

def Second.after (around : Surroundings) (ship : ReferalRelationship) (carry : OrderCarry)
    (second : Second) : Second :=
  match second.share with
  | some share =>
      if share.status = carry.status then second
      else
        { share := some { share with status := carry.status }
          entry := follow { share with status := carry.status : Share }.gain second.entry }
  | none =>
      match derives around ship carry with
      | some share => { share := some share, entry := follow share.gain second.entry }
      | none => second

def Second.next (around : Surroundings) (carry : OrderCarry) (second : Second) : Second :=
  match carry.upper around with
  | some ship => second.after around ship carry
  | none => second

def Task.onSecond (around : Surroundings) (orderId : String) (second : Second) : Task → Second
  | updateSecondLevelOrdercarry ship carry =>
      if orderId = carry.orderId then second.after around ship carry else second
  | _ => second

def forecastSecond (around : Surroundings) (s : EarningDb) (orderId : String) : Second :=
  s.queue.foldl (Task.onSecond around orderId)
    { share := secondOf s.orderCarries orderId, entry := forecast s (secondKey orderId) }

theorem forecast_drained {s : EarningDb} (h : s.queue = []) (uniKey : String) :
    forecast s uniKey = entry s.carry.carryRecords uniKey := by
  rw [forecast, h, List.foldl_nil]

theorem forecastSecond_drained {around : Surroundings} {s : EarningDb} (h : s.queue = [])
    (orderId : String) :
    forecastSecond around s orderId =
      { share := secondOf s.orderCarries orderId
        entry := entry s.carry.carryRecords (secondKey orderId) } := by
  rw [forecastSecond, h, List.foldl_nil, forecast_drained h]

theorem forecast_append (s s' : EarningDb) {tasks : List Task} (hcarry : s'.carry = s.carry)
    (hqueue : s'.queue = s.queue ++ tasks) (uniKey : String) :
    forecast s' uniKey = tasks.foldl (Task.onEntry uniKey) (forecast s uniKey) := by
  rw [forecast, hqueue, List.foldl_append, hcarry]
  rfl

theorem forecastSecond_append {around : Surroundings} (s s' : EarningDb)
    {tasks : List Task} {orderId : String} (hqueue : s'.queue = s.queue ++ tasks)
    (hshare : secondOf s'.orderCarries orderId = secondOf s.orderCarries orderId)
    (hentry : forecast s' (secondKey orderId) = forecast s (secondKey orderId)) :
    forecastSecond around s' orderId =
      tasks.foldl (Task.onSecond around orderId) (forecastSecond around s orderId) := by
  rw [forecastSecond, hqueue, List.foldl_append, hshare, hentry]
  rfl

def notices (around : Surroundings) (carry : OrderCarry) : List Task :=
  if carry.isDirectOrFansCarry = true then
    match carry.upper around with
    | some ship =>
        [.ordercarryUpdateCarryrecord carry, .updateSecondLevelOrdercarry ship carry]
    | none => [.ordercarryUpdateCarryrecord carry]
  else [.ordercarryUpdateCarryrecord carry]

theorem postSave_run (around : Surroundings) (carry : OrderCarry) (s : EarningDb) :
    (carry.postSave around).run s =
      (.ok (), { s with queue := s.queue ++ notices around carry }) := by
  unfold OrderCarry.postSave delay notices
  rw [modify_bind_run]
  by_cases hdirect : carry.isDirectOrFansCarry = true
  · rw [if_pos hdirect, if_pos hdirect]
    cases carry.upper around with
    | none => rfl
    | some ship =>
      simp only [modify_run, List.append_assoc, List.cons_append, List.nil_append]
  · rw [if_neg hdirect, if_neg hdirect]
    rfl

def stored (around : Surroundings) (s : EarningDb) (carries : Table OrderCarry)
    (carry : OrderCarry) : EarningDb :=
  { s with orderCarries := carries, queue := s.queue ++ notices around carry }

theorem save_run (around : Surroundings) (carry : OrderCarry) (s : EarningDb) :
    (OrderCarry.save around carry).run s =
      (.ok (), stored around s (s.orderCarries.save carry) carry) := by
  unfold OrderCarry.save
  rw [modify_bind_run, postSave_run]
  rfl

theorem insertOrWarn_run {around : Surroundings} {carry : OrderCarry} {s : EarningDb}
    (hfree : find s.orderCarries carry.uniKey = none) :
    (carry.insertOrWarn around).run s =
      (.ok (), stored around s (s.orderCarries.insert carry) (s.orderCarries.stored carry)) := by
  unfold OrderCarry.insertOrWarn
  apply tryCatch_ok
  have hnot : ¬ (s.orderCarries.first fun c => c.uniKey = carry.uniKey).isSome = true := by
    change ¬ (find s.orderCarries carry.uniKey).isSome = true
    rw [hfree]
    exact Bool.false_ne_true
  unfold OrderCarry.insert
  rw [gets_bind_run, raiseIf_bind_run, if_neg hnot, gets_bind_run, modify_bind_run, postSave_run]
  rfl

theorem syncStatus_run (around : Surroundings) (status : OrderCarryStatus)
    (record : OrderCarry) (s : EarningDb) :
    (syncStatus around status record).run s =
      (.ok (), if record.status = status then s
        else stored around s (s.orderCarries.save { record with status := status })
          { record with status := status }) := by
  unfold syncStatus
  by_cases h : record.status = status
  · rw [if_neg (not_not.2 h), if_pos h, pure_run]
  · rw [if_pos h, if_neg h, save_run]

def storedAward (s : EarningDb) (uniKey : String) (award : AwardCarry) : EarningDb :=
  { s with
    awards := Function.update s.awards uniKey (some award)
    queue := s.queue ++ [.awardcarryUpdateCarryrecord uniKey award] }

theorem forecast_stored (around : Surroundings) (s : EarningDb) (carries : Table OrderCarry)
    (carry : OrderCarry) (uniKey : String) :
    forecast (stored around s carries carry) uniKey =
      if uniKey = carry.uniKey then follow (gainOfOrder carry) (forecast s uniKey)
      else forecast s uniKey := by
  rw [forecast_append s (stored around s carries carry) rfl rfl]
  unfold notices
  split
  · split <;> rfl
  · rfl

theorem forecast_storedAward (s : EarningDb) (key : String) (award : AwardCarry)
    (uniKey : String) :
    forecast (storedAward s key award) uniKey =
      if uniKey = key then follow (gainOfAward award) (forecast s uniKey)
      else forecast s uniKey :=
  forecast_append s (storedAward s key award) rfl rfl uniKey

def NotOrder (text : String) : Prop := ∀ rest, text ≠ "order-" ++ rest

theorem NotOrder.ne_key {text : String} (h : NotOrder text) (carryType : OrderCarryType)
    (orderId : String) : genOrdercarryUnikey carryType orderId ≠ text :=
  fun heq => h _ heq.symm

theorem forecastSecond_storedAward {around : Surroundings} {s : EarningDb} {key : String}
    (hkey : NotOrder key) (award : AwardCarry) (orderId : String) :
    forecastSecond around (storedAward s key award) orderId =
      forecastSecond around s orderId := by
  have hentry : forecast (storedAward s key award) (secondKey orderId) =
      forecast s (secondKey orderId) := by
    have hne : secondKey orderId ≠ key := hkey.ne_key .referalOrder orderId
    rw [forecast_storedAward, if_neg hne]
  exact forecastSecond_append s (storedAward s key award) rfl rfl hentry

section Stored

variable {around : Surroundings} {s : EarningDb} {carries : Table OrderCarry}
  {carry : OrderCarry}

theorem secondOf_put (h : Sane s.orderCarries) (h' : Sane carries)
    (hput : Put s.orderCarries carries carry) (orderId : String) :
    secondOf carries orderId =
      if secondKey orderId = carry.uniKey then some (shareOf carry)
      else secondOf s.orderCarries orderId := by
  unfold secondOf
  rw [hput.find h h']
  split <;> rfl

theorem secondKey_ne_direct (hkeyed : carry.uniKey = genOrdercarryUnikey carry.carryType
    carry.orderId) (hdirect : carry.isDirectOrFansCarry = true) (orderId : String) :
    secondKey orderId ≠ carry.uniKey := by
  rw [hkeyed]
  intro heq
  have htypes := (genOrdercarryUnikey_inj.1 heq).1
  unfold OrderCarry.isDirectOrFansCarry at hdirect
  cases htype : carry.carryType <;> rw [htype] at htypes hdirect <;>
    revert htypes hdirect <;> decide

theorem forecastSecond_stored_direct (h : Sane s.orderCarries) (h' : Sane carries)
    (hput : Put s.orderCarries carries carry) (hdirect : carry.isDirectOrFansCarry = true)
    (orderId : String) :
    forecastSecond around (stored around s carries carry) orderId =
      if orderId = carry.orderId then (forecastSecond around s orderId).next around carry
      else forecastSecond around s orderId := by
  have hkeyed := h'.keyed carry ((hput carry).2 (Or.inl rfl))
  have hne := secondKey_ne_direct hkeyed hdirect orderId
  have hshare : secondOf carries orderId = secondOf s.orderCarries orderId := by
    rw [secondOf_put h h' hput, if_neg hne]
  have hentry : forecast (stored around s carries carry) (secondKey orderId) =
      forecast s (secondKey orderId) := by
    rw [forecast_stored, if_neg hne]
  rw [forecastSecond_append s (stored around s carries carry) rfl hshare hentry]
  unfold notices Second.next
  rw [if_pos hdirect]
  cases carry.upper around with
  | none =>
    simp only [ite_self]
    rfl
  | some ship => rfl

end Stored

/-! ## The second level -/

/-- The second level that a saved carry finds is nothing, or the share of a carry for
the same mama and amount. -/
structure Ready (around : Surroundings) (carry : OrderCarry) (second : Second) : Prop where
  share : ∀ share, second.share = some share →
    share.carryNum = tenPercent carry.carryNum ∧ (carry.upper around).isSome = true ∧
      (share.mamaId = 0 → second.entry = none)
  absent : second.share = none → second.entry = none

/-- The second level of a carry after its tasks: it has the status and a tenth of the
amount, and is there where it can be made. -/
structure Shared (around : Surroundings) (carry : OrderCarry) (second : Second) : Prop
    extends Ready around carry second where
  status : ∀ share, second.share = some share → share.status = carry.status
  made : second.share = none → ∀ ship, carry.upper around = some ship →
    derives around ship carry = none

def SecondMirrors (second : Second) : Prop :=
  ∀ share, second.share = some share → Mirrors share.gain second.entry

def Second.nothing : Second := { share := none, entry := none }

theorem ready_nothing (around : Surroundings) (carry : OrderCarry) :
    Ready around carry Second.nothing := by
  refine ⟨?_, fun _ => rfl⟩
  intro share hshare
  exact absurd hshare.symm (Option.some_ne_none share)

theorem derives_some {around : Surroundings} {ship : ReferalRelationship}
    {carry : OrderCarry} {share : Share} (h : derives around ship carry = some share) :
    share.carryNum = tenPercent carry.carryNum ∧ share.status = carry.status := by
  unfold derives at h
  split at h
  · exact absurd h.symm (Option.some_ne_none share)
  · split at h
    · cases h
      exact ⟨rfl, rfl⟩
    · exact absurd h.symm (Option.some_ne_none share)

section Next

variable {around : Surroundings} {carry : OrderCarry} {second : Second}

theorem after_of_absent (habsent : second.share = none) (ship : ReferalRelationship) :
    second.after around ship carry =
      match derives around ship carry with
      | some share => { share := some share, entry := follow share.gain second.entry }
      | none => second := by
  unfold Second.after
  rw [habsent]

theorem after_of_same {share : Share} (hshare : second.share = some share)
    (hstatus : share.status = carry.status) (ship : ReferalRelationship) :
    second.after around ship carry = second := by
  unfold Second.after
  rw [hshare]
  exact if_pos hstatus

theorem after_of_other {share : Share} (hshare : second.share = some share)
    (hstatus : share.status ≠ carry.status) (ship : ReferalRelationship) :
    second.after around ship carry =
      { share := some { share with status := carry.status }
        entry := follow { share with status := carry.status : Share }.gain second.entry } := by
  unfold Second.after
  rw [hshare]
  exact if_neg hstatus

theorem next_of_upper {ship : ReferalRelationship} (h : carry.upper around = some ship) :
    second.next around carry = second.after around ship carry := by
  unfold Second.next
  rw [h]

theorem next_of_no_upper (h : carry.upper around = none) :
    second.next around carry = second := by
  unfold Second.next
  rw [h]

theorem Ready.next (h : Ready around carry second) :
    Shared around carry (second.next around carry) := by
  cases hshare : second.share with
  | none =>
    have hentry := h.absent hshare
    cases hupper : carry.upper around with
    | none =>
      rw [next_of_no_upper hupper]
      refine ⟨h, ?_, ?_⟩
      · intro share hsome
        rw [hshare] at hsome
        exact absurd hsome.symm (Option.some_ne_none share)
      · intro _ ship hship
        rw [hupper] at hship
        exact absurd hship.symm (Option.some_ne_none ship)
    | some ship =>
      rw [next_of_upper hupper, after_of_absent hshare]
      cases hderives : derives around ship carry with
      | none =>
        refine ⟨h, ?_, ?_⟩
        · intro share hsome
          rw [hshare] at hsome
          exact absurd hsome.symm (Option.some_ne_none share)
        · intro _ ship' hship
          rw [hupper] at hship
          cases hship
          exact hderives
      | some share =>
        obtain ⟨hnum, hstatus⟩ := derives_some hderives
        refine ⟨⟨?_, ?_⟩, ?_, ?_⟩
        · rintro share' ⟨⟩
          refine ⟨hnum, by rw [hupper]; rfl, ?_⟩
          intro hmama
          exact follow_keeps_nobody hmama hentry
        · intro hnone
          exact absurd hnone (Option.some_ne_none share)
        · rintro share' ⟨⟩
          exact hstatus
        · intro hnone
          exact absurd hnone (Option.some_ne_none share)
  | some share =>
    obtain ⟨hnum, hupper, hnobody⟩ := h.share share hshare
    obtain ⟨ship, hship⟩ := Option.isSome_iff_exists.1 hupper
    rw [next_of_upper hship]
    by_cases hstatus : share.status = carry.status
    · rw [after_of_same hshare hstatus]
      refine ⟨h, ?_, ?_⟩
      · intro share' hsome
        rw [hshare] at hsome
        cases hsome
        exact hstatus
      · intro hnone
        rw [hshare] at hnone
        exact absurd hnone (Option.some_ne_none share)
    · rw [after_of_other hshare hstatus]
      refine ⟨⟨?_, ?_⟩, ?_, ?_⟩
      · rintro share' ⟨⟩
        exact ⟨hnum, hupper, fun hmama => follow_keeps_nobody hmama (hnobody hmama)⟩
      · intro hnone
        exact absurd hnone (Option.some_ne_none _)
      · rintro share' ⟨⟩
        rfl
      · intro hnone
        exact absurd hnone (Option.some_ne_none _)

theorem secondMirrors_next_iff (h : Ready around carry second)
    (hmirrors : SecondMirrors second) {status : OrderCarryStatus}
    (hstatus : ∀ share, second.share = some share → share.status = status) :
    SecondMirrors (second.next around carry) ↔
      Allowed second.entry status.recordStatus carry.status.recordStatus := by
  cases hshare : second.share with
  | none =>
    rw [h.absent hshare]
    refine iff_of_true ?_ (Allowed.of_none _ _)
    cases hupper : carry.upper around with
    | none =>
      rw [next_of_no_upper hupper]
      exact hmirrors
    | some ship =>
      rw [next_of_upper hupper, after_of_absent hshare]
      cases derives around ship carry with
      | none => exact hmirrors
      | some share =>
        rintro share' ⟨⟩
        rw [h.absent hshare]
        exact mirrors_follow_none _
  | some share =>
    obtain ⟨hnum, hupper, hnobody⟩ := h.share share hshare
    obtain ⟨ship, hship⟩ := Option.isSome_iff_exists.1 hupper
    have hold := hstatus share hshare
    rw [next_of_upper hship]
    by_cases hsame : share.status = carry.status
    · rw [after_of_same hshare hsame, ← hold, hsame]
      exact iff_of_true hmirrors (allowed_self _ _)
    · rw [after_of_other hshare hsame]
      have hiff : Mirrors { share with status := carry.status : Share }.gain
          (follow { share with status := carry.status : Share }.gain second.entry) ↔
            Allowed second.entry share.gain.status carry.status.recordStatus :=
        mirrors_follow_iff _ _ rfl rfl (hmirrors share hshare) hnobody
      rw [← hold]
      refine Iff.trans ⟨fun hall => hall _ rfl, ?_⟩ hiff
      rintro hone share' ⟨⟩
      exact hone

theorem secondMirrors_next_nothing : SecondMirrors (Second.nothing.next around carry) := by
  have hnothing : SecondMirrors Second.nothing := by
    intro share hshare
    exact absurd hshare.symm (Option.some_ne_none share)
  have hstatus : ∀ share, Second.nothing.share = some share → share.status = carry.status := by
    intro share hshare
    exact absurd hshare.symm (Option.some_ne_none share)
  exact (secondMirrors_next_iff (ready_nothing around carry) hnothing hstatus).2
    (allowed_self _ _)

end Next

structure Settled (around : Surroundings) (s : EarningDb) : Prop where
  sane : Sane s.orderCarries
  awardKeys : ∀ key award, s.awards key = some award → NotOrder key
  strangers : ∀ key, s.awards key = none → find s.orderCarries key = none →
    forecast s key = none
  nobodyAward : ∀ key award, s.awards key = some award → award.mamaId = 0 →
    forecast s key = none
  nobodyOrder : ∀ c ∈ s.orderCarries, c.isDirectOrFansCarry = true → c.mamaId = 0 →
    forecast s c.uniKey = none
  shared : ∀ c ∈ s.orderCarries, c.isDirectOrFansCarry = true →
    Shared around c (forecastSecond around s c.orderId)
  secondless : ∀ orderId,
    (∀ c ∈ s.orderCarries, c.isDirectOrFansCarry = true → c.orderId ≠ orderId) →
    forecastSecond around s orderId = Second.nothing

structure Faithful (around : Surroundings) (s : EarningDb) : Prop where
  award : ∀ key award, s.awards key = some award →
    Mirrors (gainOfAward award) (forecast s key)
  direct : ∀ c ∈ s.orderCarries, c.isDirectOrFansCarry = true →
    Mirrors (gainOfOrder c) (forecast s c.uniKey)
  second : ∀ c ∈ s.orderCarries, c.isDirectOrFansCarry = true →
    SecondMirrors (forecastSecond around s c.orderId)

theorem direct_key {carries : Table OrderCarry} (h : Sane carries) {carry : OrderCarry}
    (hmem : carry ∈ carries) (hdirect : carry.isDirectOrFansCarry = true) :
    carry.uniKey = genOrdercarryUnikey .wapOrder carry.orderId := by
  rw [h.keyed carry hmem, genOrdercarryUnikey_inj]
  refine ⟨?_, rfl⟩
  unfold OrderCarry.isDirectOrFansCarry at hdirect
  cases htype : carry.carryType <;> rw [htype] at hdirect <;> revert hdirect <;> decide

section Saves

variable {around : Surroundings} {s : EarningDb}

theorem Settled.notOrder_ne (h : Settled around s) {key : String} {award : AwardCarry}
    (haward : s.awards key = some award) {carry : OrderCarry}
    (hkeyed : carry.uniKey = genOrdercarryUnikey carry.carryType carry.orderId) :
    key ≠ carry.uniKey := by
  rw [hkeyed]
  exact ((h.awardKeys key award haward).ne_key carry.carryType carry.orderId).symm

/-! ### A direct carry -/

structure DirectPut (s : EarningDb) (carries : Table OrderCarry) (carry : OrderCarry) :
    Prop where
  put : Put s.orderCarries carries carry
  keyed : carry.uniKey = genOrdercarryUnikey carry.carryType carry.orderId
  direct : carry.isDirectOrFansCarry = true

variable {carries : Table OrderCarry} {carry : OrderCarry}

theorem DirectPut.sane (hput : DirectPut s carries carry) (h : Sane s.orderCarries) :
    Sane carries := h.put hput.put hput.keyed (Or.inl hput.direct)

theorem DirectPut.mem (hput : DirectPut s carries carry) : carry ∈ carries :=
  (hput.put carry).2 (Or.inl rfl)

theorem DirectPut.other (hput : DirectPut s carries carry) (h : Sane s.orderCarries)
    {c : OrderCarry} (hc : c ∈ carries) (hdirect : c.isDirectOrFansCarry = true) :
    c = carry ∨ (c ∈ s.orderCarries ∧ c.uniKey ≠ carry.uniKey ∧ c.orderId ≠ carry.orderId) := by
  rcases (hput.put c).1 hc with rfl | ⟨hold, hne⟩
  · exact Or.inl rfl
  · refine Or.inr ⟨hold, hne, fun heq => hne ?_⟩
    have hsane := hput.sane h
    rw [direct_key hsane hc hdirect, direct_key hsane hput.mem hput.direct, heq]

theorem DirectPut.forecastSecond (hput : DirectPut s carries carry) (h : Sane s.orderCarries)
    (orderId : String) :
    Earning.forecastSecond around (stored around s carries carry) orderId =
      if orderId = carry.orderId then
        (Earning.forecastSecond around s orderId).next around carry
      else Earning.forecastSecond around s orderId :=
  forecastSecond_stored_direct h (hput.sane h) hput.put hput.direct orderId

theorem Settled.storedDirect (h : Settled around s) (hput : DirectPut s carries carry)
    (hready : Ready around carry (forecastSecond around s carry.orderId))
    (hnobody : carry.mamaId = 0 → forecast s carry.uniKey = none) :
    Settled around (stored around s carries carry) := by
  have hsane := hput.sane h.sane
  refine ⟨hsane, h.awardKeys, ?_, ?_, ?_, ?_, ?_⟩
  · intro key haward hfind
    have hcarries : find carries key = none := hfind
    rw [hput.put.find h.sane hsane] at hcarries
    by_cases hkey : key = carry.uniKey
    · rw [if_pos hkey] at hcarries
      exact absurd hcarries (Option.some_ne_none carry)
    · rw [if_neg hkey] at hcarries
      rw [forecast_stored, if_neg hkey]
      exact h.strangers key haward hcarries
  · intro key award haward hmama
    rw [forecast_stored, if_neg (h.notOrder_ne haward hput.keyed)]
    exact h.nobodyAward key award haward hmama
  · intro c hc hdirect hmama
    rw [forecast_stored]
    rcases hput.other h.sane hc hdirect with rfl | ⟨hold, hne, -⟩
    · rw [if_pos rfl]
      exact follow_keeps_nobody hmama (hnobody hmama)
    · rw [if_neg hne]
      exact h.nobodyOrder c hold hdirect hmama
  · intro c hc hdirect
    rw [hput.forecastSecond h.sane]
    rcases hput.other h.sane hc hdirect with rfl | ⟨hold, -, hne⟩
    · rw [if_pos rfl]
      exact hready.next
    · rw [if_neg hne]
      exact h.shared c hold hdirect
  · intro orderId hnone
    have hne : orderId ≠ carry.orderId := (hnone carry hput.mem hput.direct).symm
    rw [hput.forecastSecond h.sane, if_neg hne]
    apply h.secondless
    intro c hc hdirect
    by_cases hkey : c.uniKey = carry.uniKey
    · rw [h.sane.keyed c hc, hput.keyed] at hkey
      rw [(genOrdercarryUnikey_inj.1 hkey).2]
      exact hne.symm
    · exact hnone c ((hput.put c).2 (Or.inr ⟨hc, hkey⟩)) hdirect

theorem Faithful.storedDirect_iff (hf : Faithful around s) (h : Settled around s)
    (hput : DirectPut s carries carry) :
    Faithful around (stored around s carries carry) ↔
      Mirrors (gainOfOrder carry) (follow (gainOfOrder carry) (forecast s carry.uniKey)) ∧
        SecondMirrors ((forecastSecond around s carry.orderId).next around carry) := by
  constructor
  · intro hall
    have hdirect := hall.direct carry hput.mem hput.direct
    have hsecond := hall.second carry hput.mem hput.direct
    rw [forecast_stored, if_pos rfl] at hdirect
    rw [hput.forecastSecond h.sane, if_pos rfl] at hsecond
    exact ⟨hdirect, hsecond⟩
  · rintro ⟨hmirrors, hsecond⟩
    refine ⟨?_, ?_, ?_⟩
    · intro key award haward
      rw [forecast_stored, if_neg (h.notOrder_ne haward hput.keyed)]
      exact hf.award key award haward
    · intro c hc hdirect
      rw [forecast_stored]
      rcases hput.other h.sane hc hdirect with rfl | ⟨hold, hne, -⟩
      · rw [if_pos rfl]
        exact hmirrors
      · rw [if_neg hne]
        exact hf.direct c hold hdirect
    · intro c hc hdirect
      rw [hput.forecastSecond h.sane]
      rcases hput.other h.sane hc hdirect with rfl | ⟨hold, -, hne⟩
      · rw [if_pos rfl]
        exact hsecond
      · rw [if_neg hne]
        exact hf.second c hold hdirect

theorem Settled.directPut_save (h : Settled around s) (hmem : carry ∈ s.orderCarries)
    (hdirect : carry.isDirectOrFansCarry = true) (status : OrderCarryStatus) :
    DirectPut s (s.orderCarries.save { carry with status := status })
      { carry with status := status } where
  put := h.sane.put_save hmem rfl rfl
  keyed := h.sane.keyed carry hmem
  direct := hdirect

theorem Settled.ready_save (h : Settled around s) (hmem : carry ∈ s.orderCarries)
    (hdirect : carry.isDirectOrFansCarry = true) (status : OrderCarryStatus) :
    Ready around { carry with status := status }
      (forecastSecond around s carry.orderId) := by
  have hshared := h.shared carry hmem hdirect
  exact ⟨hshared.share, hshared.absent⟩

theorem directPut_insert (hfree : find s.orderCarries carry.uniKey = none)
    (hkeyed : carry.uniKey = genOrdercarryUnikey carry.carryType carry.orderId)
    (hdirect : carry.isDirectOrFansCarry = true) :
    DirectPut s (s.orderCarries.insert carry) (s.orderCarries.stored carry) where
  put := put_insert hfree
  keyed := hkeyed
  direct := hdirect

theorem Settled.nothing_of_free (h : Settled around s) (carry : OrderCarry)
    (hfree : find s.orderCarries carry.uniKey = none)
    (hkeyed : carry.uniKey = genOrdercarryUnikey carry.carryType carry.orderId)
    (hdirect : carry.isDirectOrFansCarry = true) :
    forecastSecond around s carry.orderId = Second.nothing := by
  apply h.secondless
  intro c hc hcdirect heq
  apply find_eq_none.1 hfree c hc
  rw [direct_key h.sane hc hcdirect, hkeyed, heq, genOrdercarryUnikey_inj]
  refine ⟨?_, rfl⟩
  unfold OrderCarry.isDirectOrFansCarry at hdirect
  cases htype : carry.carryType <;> rw [htype] at hdirect <;> revert hdirect <;> decide

theorem Settled.forecast_of_free (h : Settled around s) (carry : OrderCarry)
    (hfree : find s.orderCarries carry.uniKey = none)
    (hkeyed : carry.uniKey = genOrdercarryUnikey carry.carryType carry.orderId) :
    forecast s carry.uniKey = none := by
  cases haward : s.awards carry.uniKey with
  | none => exact h.strangers carry.uniKey haward hfree
  | some award => exact absurd rfl (h.notOrder_ne haward hkeyed)

end Saves

section Awards

variable {around : Surroundings} {s : EarningDb} {key : String} {award : AwardCarry}

theorem awards_storedAward (s : EarningDb) (key : String) (award : AwardCarry)
    (key' : String) :
    (storedAward s key award).awards key' = if key' = key then some award else s.awards key' := by
  simp only [storedAward, Function.update_apply]

theorem Settled.storedAward (h : Settled around s) (hkey : NotOrder key)
    (hnobody : award.mamaId = 0 → forecast s key = none) :
    Settled around (storedAward s key award) := by
  refine ⟨h.sane, ?_, ?_, ?_, ?_, ?_, ?_⟩
  · intro key' award' haward
    rw [awards_storedAward] at haward
    by_cases heq : key' = key
    · rw [heq]
      exact hkey
    · rw [if_neg heq] at haward
      exact h.awardKeys key' award' haward
  · intro key' haward hfind
    rw [awards_storedAward] at haward
    by_cases heq : key' = key
    · rw [if_pos heq] at haward
      exact absurd haward (Option.some_ne_none award)
    · rw [if_neg heq] at haward
      rw [forecast_storedAward, if_neg heq]
      exact h.strangers key' haward hfind
  · intro key' award' haward hmama
    rw [awards_storedAward] at haward
    rw [forecast_storedAward]
    by_cases heq : key' = key
    · rw [if_pos heq] at haward ⊢
      cases haward
      rw [heq]
      exact follow_keeps_nobody hmama (hnobody hmama)
    · rw [if_neg heq] at haward ⊢
      exact h.nobodyAward key' award' haward hmama
  · intro c hc hdirect hmama
    have hne : c.uniKey ≠ key := by
      rw [h.sane.keyed c hc]
      exact hkey.ne_key c.carryType c.orderId
    rw [forecast_storedAward, if_neg hne]
    exact h.nobodyOrder c hc hdirect hmama
  · intro c hc hdirect
    rw [forecastSecond_storedAward hkey]
    exact h.shared c hc hdirect
  · intro orderId hnone
    rw [forecastSecond_storedAward hkey]
    exact h.secondless orderId hnone

theorem Faithful.storedAward_iff (hf : Faithful around s) (h : Settled around s)
    (hkey : NotOrder key) :
    Faithful around (Earning.storedAward s key award) ↔
      Mirrors (gainOfAward award) (follow (gainOfAward award) (forecast s key)) := by
  constructor
  · intro hall
    have haward : (Earning.storedAward s key award).awards key = some award := by
      rw [awards_storedAward, if_pos rfl]
    have hmirrors := hall.award key award haward
    rw [forecast_storedAward, if_pos rfl] at hmirrors
    exact hmirrors
  · intro hmirrors
    refine ⟨?_, ?_, ?_⟩
    · intro key' award' haward
      rw [awards_storedAward] at haward
      rw [forecast_storedAward]
      by_cases heq : key' = key
      · rw [if_pos heq] at haward ⊢
        cases haward
        rw [heq]
        exact hmirrors
      · rw [if_neg heq] at haward ⊢
        exact hf.award key' award' haward
    · intro c hc hdirect
      have hne : c.uniKey ≠ key := by
        rw [h.sane.keyed c hc]
        exact hkey.ne_key c.carryType c.orderId
      rw [forecast_storedAward, if_neg hne]
      exact hf.direct c hc hdirect
    · intro c hc hdirect
      rw [forecastSecond_storedAward hkey]
      exact hf.second c hc hdirect

theorem Settled.awardStatus (h : Settled around s) (haward : s.awards key = some award)
    (status : AwardStatus) :
    Settled around (Earning.storedAward s key { award with status := status }) :=
  h.storedAward (h.awardKeys key award haward) (h.nobodyAward key award haward)

theorem Faithful.awardStatus_iff (hf : Faithful around s) (h : Settled around s)
    (haward : s.awards key = some award) (status : AwardStatus) :
    Faithful around (Earning.storedAward s key { award with status := status }) ↔
      Allowed (forecast s key) (awardRecordStatus award.status) (awardRecordStatus status) := by
  rw [hf.storedAward_iff h (h.awardKeys key award haward)]
  have hmirrors := hf.award key award haward
  exact mirrors_follow_iff (gainOfAward award) (gainOfAward { award with status := status })
    rfl rfl hmirrors (h.nobodyAward key award haward)

theorem Settled.forecast_of_unsent (h : Settled around s) (hkey : NotOrder key)
    (haward : s.awards key = none) : forecast s key = none := by
  apply h.strangers key haward
  apply find_eq_none.2
  intro c hc
  rw [h.sane.keyed c hc]
  exact hkey.ne_key c.carryType c.orderId

theorem Settled.awardNew (h : Settled around s) (hkey : NotOrder key)
    (haward : s.awards key = none) (award : AwardCarry) :
    Settled around (Earning.storedAward s key award) :=
  h.storedAward hkey fun _ => h.forecast_of_unsent hkey haward

theorem Faithful.awardNew (hf : Faithful around s) (h : Settled around s)
    (hkey : NotOrder key) (haward : s.awards key = none) (award : AwardCarry) :
    Faithful around (Earning.storedAward s key award) := by
  rw [hf.storedAward_iff h hkey, h.forecast_of_unsent hkey haward]
  exact mirrors_follow_none _

end Awards

section Operations

variable {around : Surroundings} {s : EarningDb}

/-! ### Orders -/

theorem taskUpdateOrdercarry_error {moment : Moment} {order : Order} {args : UpdateArgs}
    {e : Exn} (hstatus : order.carryStatus = .error e) :
    ((taskUpdateOrdercarry around moment order args).run s).2 = s := by
  unfold taskUpdateOrdercarry
  rw [hstatus]
  rfl

theorem taskUpdateOrdercarry_found {moment : Moment} {order : Order} {args : UpdateArgs}
    {status : OrderCarryStatus} {old : OrderCarry} (hstatus : order.carryStatus = .ok status)
    (hfind : find s.orderCarries (args.uniKey order) = some old) :
    ((taskUpdateOrdercarry around moment order args).run s).2 =
      if old.status = status then s
      else stored around s (s.orderCarries.save { old with status := status })
        { old with status := status } := by
  unfold taskUpdateOrdercarry
  have hfirst : (s.orderCarries.first fun c => c.uniKey = args.uniKey order) = some old := hfind
  simp only [hstatus, ofExcept_bind_run, gets_bind_run, hfirst, syncStatus_run]

theorem taskUpdateOrdercarry_new {moment : Moment} {order : Order} {args : UpdateArgs}
    {status : OrderCarryStatus} (hstatus : order.carryStatus = .ok status)
    (hfind : find s.orderCarries (args.uniKey order) = none) :
    ((taskUpdateOrdercarry around moment order args).run s).2 =
      match around.customer args.customerPk with
      | none => s
      | some customer =>
        stored around s (s.orderCarries.insert (directCarry moment order args customer status))
          (s.orderCarries.stored (directCarry moment order args customer status)) := by
  unfold taskUpdateOrdercarry
  have hfirst : (s.orderCarries.first fun c => c.uniKey = args.uniKey order) = none := hfind
  simp only [hstatus, ofExcept_bind_run, gets_bind_run, hfirst, getOr_bind_run]
  cases around.customer args.customerPk with
  | none => rfl
  | some customer =>
    simp only
    rw [insertOrWarn_run hfind]

theorem directCarry_direct (moment : Moment) (order : Order) (args : UpdateArgs)
    (customer : Referal.Customer) (status : OrderCarryStatus) :
    (directCarry moment order args customer status).isDirectOrFansCarry = true := by
  unfold OrderCarry.isDirectOrFansCarry directCarry UpdateArgs.carryType
  cases args.viaApp <;> rfl

theorem Sane.direct_of_find {carries : Table OrderCarry} (h : Sane carries) {order : Order}
    {args : UpdateArgs} {old : OrderCarry}
    (hfind : find carries (args.uniKey order) = some old) :
    old.isDirectOrFansCarry = true ∧ old.orderId = order.oid := by
  have hmem := mem_of_find hfind
  have hkey := (h.keyed old hmem).symm.trans (uniKey_of_find_carry hfind)
  obtain ⟨htypes, horder⟩ := genOrdercarryUnikey_inj.1 hkey
  refine ⟨?_, horder⟩
  rcases h.levels old hmem with hdirect | htype
  · exact hdirect
  · rw [htype] at htypes
    unfold UpdateArgs.carryType at htypes
    cases hvia : args.viaApp <;> rw [hvia] at htypes <;> exact absurd htypes (by decide)

/-- A save of an order takes its carry, and with it the second-level one, only to a
status that their records can follow. -/
def OrderAllowed (around : Surroundings) (s : EarningDb) (order : Order) (args : UpdateArgs) :
    Prop :=
  ∀ old, find s.orderCarries (args.uniKey order) = some old →
    ∀ status, order.carryStatus = .ok status →
      Allowed (forecast s old.uniKey) old.status.recordStatus status.recordStatus ∧
        Allowed (forecastSecond around s order.oid).entry old.status.recordStatus
          status.recordStatus

theorem settled_taskUpdateOrdercarry (h : Settled around s) (moment : Moment) (order : Order)
    (args : UpdateArgs) :
    Settled around ((taskUpdateOrdercarry around moment order args).run s).2 := by
  cases hstatus : order.carryStatus with
  | error e =>
    rw [taskUpdateOrdercarry_error hstatus]
    exact h
  | ok status =>
    cases hfind : find s.orderCarries (args.uniKey order) with
    | some old =>
      obtain ⟨hdirect, -⟩ := h.sane.direct_of_find hfind
      have hmem := mem_of_find hfind
      rw [taskUpdateOrdercarry_found hstatus hfind]
      split
      · exact h
      · exact h.storedDirect (h.directPut_save hmem hdirect status)
          (h.ready_save hmem hdirect status) (h.nobodyOrder old hmem hdirect)
    | none =>
      rw [taskUpdateOrdercarry_new hstatus hfind]
      cases around.customer args.customerPk with
      | none => exact h
      | some customer =>
        have hdirect := directCarry_direct moment order args customer status
        apply h.storedDirect (directPut_insert hfind rfl hdirect)
        · have hnothing := h.nothing_of_free
            (directCarry moment order args customer status) hfind rfl hdirect
          exact hnothing ▸ ready_nothing around _
        · intro _
          exact h.forecast_of_free
            (directCarry moment order args customer status) hfind rfl

theorem faithful_taskUpdateOrdercarry_iff (h : Settled around s) (hf : Faithful around s)
    (moment : Moment) (order : Order) (args : UpdateArgs) :
    Faithful around ((taskUpdateOrdercarry around moment order args).run s).2 ↔
      OrderAllowed around s order args := by
  cases hstatus : order.carryStatus with
  | error e =>
    rw [taskUpdateOrdercarry_error hstatus]
    refine iff_of_true hf ?_
    intro old _ status hok
    rw [hstatus] at hok
    exact absurd hok (by simp)
  | ok status =>
    cases hfind : find s.orderCarries (args.uniKey order) with
    | some old =>
      obtain ⟨hdirect, horder⟩ := h.sane.direct_of_find hfind
      have hmem := mem_of_find hfind
      have hallowed : OrderAllowed around s order args ↔
          Allowed (forecast s old.uniKey) old.status.recordStatus status.recordStatus ∧
            Allowed (forecastSecond around s order.oid).entry old.status.recordStatus
              status.recordStatus := by
        constructor
        · intro hall
          exact hall old hfind status hstatus
        · intro hone old' hfind' status' hstatus'
          rw [hfind] at hfind'
          rw [hstatus] at hstatus'
          cases hfind'
          cases hstatus'
          exact hone
      rw [hallowed, taskUpdateOrdercarry_found hstatus hfind]
      by_cases hsame : old.status = status
      · rw [if_pos hsame, ← hsame]
        exact iff_of_true hf ⟨allowed_self _ _, allowed_self _ _⟩
      · rw [if_neg hsame, hf.storedDirect_iff h (h.directPut_save hmem hdirect status)]
        have hshared := h.shared old hmem hdirect
        rw [← horder]
        refine and_congr ?_ ?_
        · have hmirrors := hf.direct old hmem hdirect
          exact mirrors_follow_iff (gainOfOrder old)
            (gainOfOrder { old with status := status }) rfl rfl hmirrors
            (h.nobodyOrder old hmem hdirect)
        · exact secondMirrors_next_iff (h.ready_save hmem hdirect status)
            (hf.second old hmem hdirect) hshared.status
    | none =>
      have hallowed : OrderAllowed around s order args := by
        intro old hold
        rw [hfind] at hold
        exact absurd hold.symm (Option.some_ne_none old)
      refine iff_of_true ?_ hallowed
      rw [taskUpdateOrdercarry_new hstatus hfind]
      cases around.customer args.customerPk with
      | none => exact hf
      | some customer =>
        have hdirect := directCarry_direct moment order args customer status
        apply (hf.storedDirect_iff h (directPut_insert hfind rfl hdirect)).2
        constructor
        · have hnone := h.forecast_of_free
            (directCarry moment order args customer status) hfind rfl
          have hkey : forecast s (s.orderCarries.stored
              (directCarry moment order args customer status)).uniKey = none := hnone
          rw [hkey]
          exact mirrors_follow_none _
        · have hnothing := h.nothing_of_free
            (directCarry moment order args customer status) hfind rfl hdirect
          have horder : forecastSecond around s (s.orderCarries.stored
              (directCarry moment order args customer status)).orderId =
                Second.nothing := hnothing
          rw [horder]
          exact secondMirrors_next_nothing

def AwardAllowed (s : EarningDb) (key : String) (status : AwardStatus) : Prop :=
  ∀ award, s.awards key = some award →
    Allowed (forecast s key) (awardRecordStatus award.status) (awardRecordStatus status)

theorem orCustomers_snd (text : Option String) (ofCustomer : Referal.Customer → String)
    (customer : Option Referal.Customer) (s : EarningDb) :
    ((AwardCarry.orCustomers text ofCustomer customer).run s).2 = s := by
  unfold AwardCarry.orCustomers
  cases text.filter (· ≠ "") with
  | some text => rfl
  | none => cases customer <;> rfl

theorem sendAward_cases (today : Date) (uniKey : AwardKey) (args : AwardCarry.SendArgs)
    (s : EarningDb) :
    ((AwardCarry.sendAward around today uniKey args).run s).2 = s ∨
      s.awards uniKey.text = none ∧
        ∃ award, ((AwardCarry.sendAward around today uniKey args).run s).2 =
          storedAward s uniKey.text award := by
  unfold AwardCarry.sendAward
  rw [gets_bind_run]
  cases haward : s.awards uniKey.text with
  | some award => exact Or.inl rfl
  | none =>
    simp only
    have hnick := orCustomers_snd args.contributorNick Referal.Customer.nick
      (around.mamaCustomer args.mamaId) s
    have himg := orCustomers_snd args.contributorImg Referal.Customer.thumbnail
      (around.mamaCustomer args.mamaId) s
    rw [bind_run]
    cases hrun : (AwardCarry.orCustomers args.contributorNick Referal.Customer.nick
        (around.mamaCustomer args.mamaId)).run s with
    | mk nick s₁ =>
      rw [hrun] at hnick
      simp only at hnick
      subst hnick
      cases nick with
      | error e => exact Or.inl rfl
      | ok nick =>
        simp only
        rw [bind_run]
        cases hrun' : (AwardCarry.orCustomers args.contributorImg
            Referal.Customer.thumbnail (around.mamaCustomer args.mamaId)).run s₁ with
        | mk img s₂ =>
          rw [hrun'] at himg
          simp only at himg
          subst himg
          cases img with
          | error e => exact Or.inl rfl
          | ok img => exact Or.inr ⟨trivial, _, rfl⟩

theorem settled_sendAward (h : Settled around s) (today : Date) (uniKey : AwardKey)
    (args : AwardCarry.SendArgs) :
    Settled around ((AwardCarry.sendAward around today uniKey args).run s).2 := by
  rcases sendAward_cases today uniKey args s with hsame | ⟨haward, award, hstored⟩
  · rw [hsame]
    exact h
  · rw [hstored]
    exact h.awardNew uniKey.notOrder haward award

theorem faithful_sendAward (h : Settled around s) (hf : Faithful around s) (today : Date)
    (uniKey : AwardKey) (args : AwardCarry.SendArgs) :
    Faithful around ((AwardCarry.sendAward around today uniKey args).run s).2 := by
  rcases sendAward_cases today uniKey args s with hsame | ⟨haward, award, hstored⟩
  · rw [hsame]
    exact hf
  · rw [hstored]
    exact hf.awardNew h uniKey.notOrder haward award

def withAwardStatus (s : EarningDb) (key : String) (status : AwardStatus) : EarningDb :=
  match s.awards key with
  | some award => storedAward s key { award with status := status }
  | none => s

theorem settled_withAwardStatus (h : Settled around s) (key : String) (status : AwardStatus) :
    Settled around (withAwardStatus s key status) := by
  unfold withAwardStatus
  cases haward : s.awards key with
  | none => exact h
  | some award => exact h.awardStatus haward status

theorem faithful_withAwardStatus_iff (h : Settled around s) (hf : Faithful around s)
    (key : String) (status : AwardStatus) :
    Faithful around (withAwardStatus s key status) ↔ AwardAllowed s key status := by
  unfold withAwardStatus AwardAllowed
  cases haward : s.awards key with
  | none =>
    refine iff_of_true hf ?_
    intro award hsome
    exact absurd hsome.symm (Option.some_ne_none award)
  | some award =>
    simp only
    rw [hf.awardStatus_iff h haward]
    constructor
    · rintro hallowed award' ⟨⟩
      exact hallowed
    · intro hall
      exact hall award rfl

theorem awardAllowed_cancel (s : EarningDb) (key : String) : AwardAllowed s key .cancel :=
  fun _ _ => allowed_cancel _ _

theorem onAward_confirm_snd (uniKey : AwardKey) (s : EarningDb) :
    ((onAward AwardCarry.confirmAward uniKey).run s).2 =
      withAwardStatus s uniKey.text .confirmed := by
  unfold onAward withAwardStatus
  rw [gets_bind_run]
  cases s.awards uniKey.text <;> rfl

theorem onAward_cancel_snd (uniKey : AwardKey) (s : EarningDb) :
    ((onAward AwardCarry.cancelAward uniKey).run s).2 =
      withAwardStatus s uniKey.text .cancel := by
  unfold onAward withAwardStatus
  rw [gets_bind_run]
  cases s.awards uniKey.text <;> rfl

def Revivable (s : EarningDb) (key : String) : Prop :=
  ∀ award, s.awards key = some award → award.status = .cancel →
    Allowed (forecast s key) .cancel .pending

theorem taskSendMamaWeeklyAward_cases (today : Date) (mamaId missionRecordId : Nat)
    (s : EarningDb) :
    ((taskSendMamaWeeklyAward around today mamaId missionRecordId).run s).2 = s ∨
      ∃ mission, missionOf around mamaId missionRecordId = some mission ∧
        ((∃ award, s.awards (weeklyKey mission.mamaId missionRecordId).text = some award ∧
            award.status = .cancel ∧
            ((taskSendMamaWeeklyAward around today mamaId missionRecordId).run s).2 =
              storedAward s (weeklyKey mission.mamaId missionRecordId).text
                { award with status := .staging }) ∨
          (∀ award, s.awards (weeklyKey mission.mamaId missionRecordId).text = some award →
              award.status ≠ .cancel) ∧
            ∃ args, ((taskSendMamaWeeklyAward around today mamaId missionRecordId).run s).2 =
              ((AwardCarry.sendAward around today (weeklyKey mission.mamaId missionRecordId)
                args).run s).2) := by
  unfold taskSendMamaWeeklyAward
  rw [getOr_bind_run]
  cases hmission : missionOf around mamaId missionRecordId with
  | none => exact Or.inl rfl
  | some mission =>
    simp only
    rw [gets_bind_run]
    cases hfilter : (s.awards (weeklyKey mission.mamaId missionRecordId).text).filter
        fun award => award.status = .cancel with
    | some award =>
      obtain ⟨haward, hcancel⟩ := Option.filter_eq_some_iff.1 hfilter
      exact Or.inr ⟨mission, rfl, Or.inl
        ⟨award, haward, of_decide_eq_true hcancel, rfl⟩⟩
    | none =>
      simp only
      rw [getOr_bind_run]
      cases around.weikefu mamaId with
      | none => exact Or.inl rfl
      | some weikefu =>
        refine Or.inr ⟨mission, rfl, Or.inr ⟨?_, _, rfl⟩⟩
        intro award haward hcancel
        rw [haward] at hfilter
        simp [hcancel] at hfilter

theorem settled_taskSendMamaWeeklyAward (h : Settled around s) (today : Date)
    (mamaId missionRecordId : Nat) :
    Settled around ((taskSendMamaWeeklyAward around today mamaId missionRecordId).run s).2 := by
  rcases taskSendMamaWeeklyAward_cases today mamaId missionRecordId s with
    hsame | ⟨mission, -, ⟨award, haward, -, hstored⟩ | ⟨-, args, hsent⟩⟩
  · rw [hsame]
    exact h
  · rw [hstored]
    exact h.awardStatus haward .staging
  · rw [hsent]
    exact settled_sendAward h today _ args

theorem faithful_taskSendMamaWeeklyAward (h : Settled around s) (hf : Faithful around s)
    (today : Date) (mamaId missionRecordId : Nat)
    (hrevivable : ∀ mission, missionOf around mamaId missionRecordId = some mission →
      Revivable s (weeklyKey mission.mamaId missionRecordId).text) :
    Faithful around
      ((taskSendMamaWeeklyAward around today mamaId missionRecordId).run s).2 := by
  rcases taskSendMamaWeeklyAward_cases today mamaId missionRecordId s with
    hsame | ⟨mission, hmission, ⟨award, haward, hcancel, hstored⟩ | ⟨-, args, hsent⟩⟩
  · rw [hsame]
    exact hf
  · rw [hstored, hf.awardStatus_iff h haward, hcancel]
    exact hrevivable mission hmission award haward hcancel
  · rw [hsent]
    exact faithful_sendAward h hf today _ args

theorem revivable_of_faithful (h : Settled around s) (hf : Faithful around s)
    (today : Date) (mamaId missionRecordId : Nat)
    (hnext : Faithful around
      ((taskSendMamaWeeklyAward around today mamaId missionRecordId).run s).2)
    {mission : MamaMissionRecord}
    (hmission : missionOf around mamaId missionRecordId = some mission) :
    Revivable s (weeklyKey mission.mamaId missionRecordId).text := by
  intro award haward hcancel
  have hstored : ((taskSendMamaWeeklyAward around today mamaId missionRecordId).run s).2 =
      storedAward s (weeklyKey mission.mamaId missionRecordId).text
        { award with status := .staging } := by
    unfold taskSendMamaWeeklyAward
    have hfilter : (s.awards (weeklyKey mission.mamaId missionRecordId).text).filter
        (fun award => decide (award.status = .cancel)) = some award := by
      rw [haward]
      exact Option.filter_some_pos (decide_eq_true hcancel)
    simp only [getOr_bind_run, hmission, gets_bind_run, hfilter]
    rfl
  rw [hstored, hf.awardStatus_iff h haward, hcancel] at hnext
  exact hnext

theorem taskCancelOrFinish_snd (missionRecordId : Nat) (value : Int) (s : EarningDb) :
    ((taskCancelOrFinishMamaMissionAward around missionRecordId value).run s).2 =
      match around.missionRecord missionRecordId with
      | none => s
      | some mission =>
        if value ≥ mission.targetValue then
          withAwardStatus s (weeklyKey mission.mamaId missionRecordId).text .confirmed
        else s := by
  unfold taskCancelOrFinishMamaMissionAward withAwardStatus
  cases around.missionRecord missionRecordId with
  | none => rfl
  | some mission =>
    simp only
    split
    · rw [getOr_bind_run]
      cases s.awards (weeklyKey mission.mamaId missionRecordId).text <;> rfl
    · rfl

theorem taskCancelMamaWeeklyAward_snd (mamaId missionRecordId : Nat) (s : EarningDb) :
    ((taskCancelMamaWeeklyAward around mamaId missionRecordId).run s).2 =
      match missionOf around mamaId missionRecordId with
      | none => s
      | some mission =>
        withAwardStatus s (weeklyKey mission.mamaId missionRecordId).text .cancel := by
  unfold taskCancelMamaWeeklyAward withAwardStatus
  rw [getOr_bind_run]
  cases missionOf around mamaId missionRecordId with
  | none => rfl
  | some mission =>
    simp only
    rw [gets_bind_run]
    cases s.awards (weeklyKey mission.mamaId missionRecordId).text <;> rfl

end Operations

end ShopManager.Mama.Earning
