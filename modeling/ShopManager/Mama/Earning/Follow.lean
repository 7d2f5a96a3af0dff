import ShopManager.Mama.Earning.Model

/-!
# Records that follow their carries

A task changes at most the record under the key of its carry.  `follow` says what it
makes of that record, and `forecast` what the queued tasks together will make of it.
-/

namespace ShopManager.Mama.Earning

open Library Library.Tx

structure Entry where
  status : CarryStatus
  carryNum : Int
  deriving DecidableEq, Repr

def entryOf (record : CarryRecord) : Entry := ⟨record.status, record.carryNum⟩

def entry (records : Table CarryRecord) (uniKey : String) : Option Entry :=
  (records.first fun r => r.uniKey = uniKey).map entryOf

/-- What a carry says of an earning; `award` tells the two kinds of carry apart. -/
structure Gain where
  award : Bool
  mamaId : Nat
  carryNum : Int
  status : CarryStatus
  deriving DecidableEq, Repr

def gainOfAward (carry : AwardCarry) : Gain where
  award := true
  mamaId := carry.mamaId
  carryNum := carry.carryNum
  status := awardRecordStatus carry.status

def gainOfOrder (carry : OrderCarry) : Gain where
  award := false
  mamaId := carry.mamaId
  carryNum := carry.carryNum
  status := carry.status.recordStatus

/-- A record is made for a mama unless the carry is cancelled, and for an award only if
it is worth something. -/
def Gain.Opens (gain : Gain) : Prop :=
  gain.mamaId ≠ 0 ∧ gain.status ≠ .cancel ∧
    (gain.award = true → 0 < gain.carryNum)

instance (gain : Gain) : Decidable gain.Opens :=
  inferInstanceAs (Decidable (_ ∧ _ ∧ _))

def Entry.toStatus (entry : Entry) : CarryStatus → Entry
  | .confirmed => if entry.status = .pending then { entry with status := .confirmed } else entry
  | .cancel => { entry with status := .cancel }
  | .pending => entry

def Entry.after (entry : Entry) (gain : Gain) : Entry :=
  if gain.mamaId = 0 then entry
  else if entry.status ≠ gain.status then entry.toStatus gain.status
  else if gain.award = true ∧ entry.status = .pending then
    { entry with carryNum := gain.carryNum }
  else entry

def follow (gain : Gain) : Option Entry → Option Entry
  | some entry => some (entry.after gain)
  | none => if gain.Opens then some ⟨gain.status, gain.carryNum⟩ else none

/-! ## The calls on a record -/

section Calls

variable {records : Table CarryRecord} {record : CarryRecord}

theorem entry_save (record' : CarryRecord)
    (hfirst : (records.first fun r => r.uniKey = record.uniKey) = some record) (hid : record'.id = record.id) (hkey : record'.uniKey = record.uniKey) (uniKey : String) :
    entry (records.save record') uniKey =
      if uniKey = record.uniKey then some (entryOf record') else entry records uniKey := by
  have hpk : Row.pk record = Row.pk record' := hid.symm
  unfold entry
  by_cases heq : uniKey = record.uniKey
  · subst heq
    rw [if_pos rfl, Table.first_save_self hpk (decide_eq_true hkey) hfirst]
    rfl
  · rw [if_neg heq]
    have hne : record.uniKey ≠ uniKey := fun h => heq h.symm
    have hne' : record'.uniKey ≠ uniKey := hkey ▸ hne
    rw [Table.first_save_other (Table.mem_of_first hfirst) hpk (decide_eq_false hne')
      (decide_eq_false hne)]

theorem entry_insert (records : Table CarryRecord) (record : CarryRecord)
    (hnone : entry records record.uniKey = none) (uniKey : String) :
    entry (records.insert record) uniKey =
      if uniKey = record.uniKey then some (entryOf record) else entry records uniKey := by
  have hstored : (records.stored record).uniKey = record.uniKey := rfl
  have hfirst : (records.first fun r => r.uniKey = record.uniKey) = none :=
    Option.map_eq_none_iff.1 hnone
  unfold entry
  rw [Table.first_insert, hstored]
  by_cases heq : uniKey = record.uniKey
  · subst heq
    rw [if_pos rfl, if_pos (decide_eq_true rfl), hfirst]
    rfl
  · have hne : record.uniKey ≠ uniKey := fun h => heq h.symm
    rw [if_neg heq, if_neg (by simp [hne]), Option.or_none]

theorem carryRecords_createLog (today : Date) (record : CarryRecord) (customer : Option Nat)
    (s : CarryDb) :
    ((record.createLog today customer).run s).2.carryRecords = s.carryRecords := by
  rw [CarryRecord.createLog_snd]

theorem entry_create {today : Date} {args : CarryRecord.CreateArgs} {s : CarryDb}
    {key : String} {status : CarryStatus} (hkey : args.uniKey = some key)
    (hstatus : args.status = some status) (hnone : entry s.carryRecords key = none)
    (uniKey : String) :
    entry ((CarryRecord.create today args).run s).2.carryRecords uniKey =
      if uniKey = key then
        if status = .cancel then none else some ⟨status, args.carryNum⟩
      else entry s.carryRecords uniKey := by
  unfold CarryRecord.create
  by_cases hcancel : status = .cancel
  · rw [if_pos (by rw [hstatus, hcancel]), if_pos hcancel, pure_run]
    split
    · rename_i heq
      rw [heq, hnone]
    · rfl
  · have hcreated : (CarryRecord.created today args).uniKey = key := by
      simp [CarryRecord.created, hkey]
    have hfirst : (s.carryRecords.first fun r =>
        r.uniKey = (CarryRecord.created today args).uniKey) = none := by
      rw [hcreated]
      exact Option.map_eq_none_iff.1 hnone
    have hfree : ¬ (s.carryRecords.first fun r =>
        r.uniKey = (CarryRecord.created today args).uniKey).isSome = true := by
      rw [hfirst]
      exact Bool.false_ne_true
    rw [if_neg (by simp [hstatus, hcancel]), if_neg hcancel,
      bind_ok ((CarryRecord.insert_run (CarryRecord.created today args) s).trans
        (if_neg hfree)), getOr_bind_run]
    have hinsert := entry_insert s.carryRecords (CarryRecord.created today args)
      (by rw [hcreated, hnone]) uniKey
    have hentry : entryOf (CarryRecord.created today args) = ⟨status, args.carryNum⟩ := by
      simp [entryOf, CarryRecord.created, hstatus]
    rw [hcreated, hentry] at hinsert
    cases s.mamas args.mamaId with
    | none => exact hinsert
    | some customer =>
      simp only
      rw [carryRecords_createLog]
      exact hinsert

variable {today : Date} {s : CarryDb}

theorem entry_saveWithLog (record' : CarryRecord)
    {method : Pay.Wallet.BudgetLog → Pay.Wallet.WalletTx Unit} (hclean : CarryRecord.Clean method)
    (hfirst : findRecord record.uniKey s = some record)
    (hid : record'.id = record.id) (hkey : record'.uniKey = record.uniKey) (uniKey : String) :
    entry ((CarryRecord.saveWithLog today record' method).run s).2.carryRecords uniKey =
      if uniKey = record.uniKey then some (entryOf record')
      else entry s.carryRecords uniKey := by
  rw [CarryRecord.saveWithLog_snd hclean]
  exact entry_save record' hfirst hid hkey uniKey

theorem entry_same (hfirst : findRecord record.uniKey s = some record) (uniKey : String) :
    entry s.carryRecords uniKey =
      if uniKey = record.uniKey then some (entryOf record)
      else entry s.carryRecords uniKey := by
  split
  · rename_i heq
    subst heq
    exact congrArg (Option.map entryOf) hfirst
  · rfl

theorem entry_followStatus (hfirst : findRecord record.uniKey s = some record)
    {status : CarryStatus} (hne : record.status ≠ status) (uniKey : String) :
    entry ((followStatus today status record).run s).2.carryRecords uniKey =
      if uniKey = record.uniKey then some ((entryOf record).toStatus status)
      else entry s.carryRecords uniKey := by
  cases status with
  | pending => exact entry_same hfirst uniKey
  | confirmed =>
    by_cases hpending : record.status = .pending
    · have hto : (entryOf record).toStatus .confirmed = entryOf record.confirmed :=
        if_pos hpending
      rw [hto, followStatus, CarryRecord.confirm, if_neg (not_not.2 hpending)]
      exact entry_saveWithLog record.confirmed CarryRecord.clean_confirmLog hfirst rfl rfl uniKey
    · have hto : (entryOf record).toStatus .confirmed = entryOf record := if_neg hpending
      rw [hto, followStatus, CarryRecord.confirm, if_pos hpending]
      exact entry_same hfirst uniKey
  | cancel =>
    simp only [followStatus, Entry.toStatus]
    rw [CarryRecord.cancel_snd, if_neg hne]
    exact entry_save record.canceled hfirst rfl rfl uniKey

theorem entry_changePendingCarryAmount (hfirst : findRecord record.uniKey s = some record)
    (hpending : record.status = .pending) (newValue : Int) (uniKey : String) :
    entry ((record.changePendingCarryAmount today newValue).run s).2.carryRecords uniKey =
      if uniKey = record.uniKey then some { entryOf record with carryNum := newValue }
      else entry s.carryRecords uniKey := by
  unfold CarryRecord.changePendingCarryAmount
  rw [if_neg (by simp [hpending])]
  exact entry_saveWithLog (record.changed newValue)
    (CarryRecord.clean_chnage newValue) hfirst rfl rfl uniKey

end Calls

variable {today : Date} {s : CarryDb}

theorem uniKey_of_find {uniKey : String} {record : CarryRecord}
    (hfind : findRecord uniKey s = some record) : record.uniKey = uniKey := by
  have hspec := Table.first_spec hfind
  exact of_decide_eq_true hspec

theorem entry_of_find {uniKey : String} {record : CarryRecord}
    (hfind : findRecord uniKey s = some record) :
    entry s.carryRecords uniKey = some (entryOf record) :=
  congrArg (Option.map entryOf) hfind

theorem entry_of_find_none {uniKey : String} (hfind : findRecord uniKey s = none) :
    entry s.carryRecords uniKey = none :=
  congrArg (Option.map entryOf) hfind

theorem entry_unchanged {key : String} {found : Option Entry}
    (h : entry s.carryRecords key = found) (uniKey : String) :
    entry s.carryRecords uniKey = if uniKey = key then found else entry s.carryRecords uniKey := by
  split
  · rename_i heq
    rw [heq, h]
  · rfl

theorem Entry.after_nobody {entry : Entry} {gain : Gain} (h : gain.mamaId = 0) :
    entry.after gain = entry := if_pos h

theorem follow_nobody {gain : Gain} (h : gain.mamaId = 0) (found : Option Entry) :
    follow gain found = found := by
  cases found with
  | none => exact if_neg fun hopens => hopens.1 h
  | some entry => exact congrArg some (Entry.after_nobody h)

theorem entry_taskAwardcarryUpdateCarryrecord (key : String) (carry : AwardCarry)
    (uniKey : String) :
    entry ((taskAwardcarryUpdateCarryrecord today key carry).run s).2.carryRecords uniKey =
      if uniKey = key then follow (gainOfAward carry) (entry s.carryRecords key)
      else entry s.carryRecords uniKey := by
  unfold taskAwardcarryUpdateCarryrecord
  by_cases hmama : carry.mamaId = 0
  · rw [if_pos hmama, follow_nobody hmama]
    exact entry_unchanged rfl uniKey
  rw [if_neg hmama, gets_bind_run]
  cases hfind : findRecord key s with
  | none =>
    rw [entry_of_find_none hfind]
    by_cases hnum : carry.carryNum > 0
    · simp only [if_pos hnum]
      rw [entry_create rfl rfl (entry_of_find_none hfind)]
      by_cases hcancel : awardRecordStatus carry.status = .cancel
      · have hopens : ¬ (gainOfAward carry).Opens := fun h => h.2.1 hcancel
        rw [if_pos hcancel, follow, if_neg hopens]
      · have hopens : (gainOfAward carry).Opens := ⟨hmama, hcancel, fun _ => hnum⟩
        rw [if_neg hcancel, follow, if_pos hopens]
        rfl
    · have hopens : ¬ (gainOfAward carry).Opens := fun h => hnum (h.2.2 rfl)
      simp only [if_neg hnum, follow, if_neg hopens, pure_run]
      exact entry_unchanged (entry_of_find_none hfind) uniKey
  | some record =>
    have hkey := uniKey_of_find hfind
    subst hkey
    rw [entry_of_find hfind]
    have hsomebody : ¬ (gainOfAward carry).mamaId = 0 := hmama
    simp only [follow, Entry.after]
    rw [if_neg hsomebody]
    by_cases hstatus : record.status = awardRecordStatus carry.status
    · have hsame : (entryOf record).status = (gainOfAward carry).status := hstatus
      rw [if_neg (not_not.2 hstatus), if_neg (not_not.2 hsame)]
      by_cases hpending : record.status = .pending
      · have hrewrites : (gainOfAward carry).award = true ∧
            (entryOf record).status = .pending := ⟨rfl, hpending⟩
        rw [if_pos hrewrites]
        by_cases hnum : record.carryNum = carry.carryNum
        · rw [if_neg (not_not.2 hnum)]
          have hentry : entry s.carryRecords record.uniKey =
              some { entryOf record with carryNum := carry.carryNum } := by
            rw [entry_of_find hfind]
            exact congrArg some (congrArg (Entry.mk record.status) hnum)
          exact entry_unchanged hentry uniKey
        · rw [if_pos hnum, if_pos hpending]
          exact entry_changePendingCarryAmount hfind hpending _ uniKey
      · have hkeeps : ¬ ((gainOfAward carry).award = true ∧
            (entryOf record).status = .pending) := fun h => hpending h.2
        rw [if_neg hkeeps, if_neg hpending, ite_self]
        exact entry_unchanged (entry_of_find hfind) uniKey
    · have hdiff : (entryOf record).status ≠ (gainOfAward carry).status := hstatus
      rw [if_pos hstatus, if_pos hdiff]
      exact entry_followStatus hfind hstatus uniKey

theorem entry_taskOrdercarryUpdateCarryrecord (carry : OrderCarry) (uniKey : String) :
    entry ((taskOrdercarryUpdateCarryrecord today carry).run s).2.carryRecords uniKey =
      if uniKey = carry.uniKey then follow (gainOfOrder carry) (entry s.carryRecords carry.uniKey)
      else entry s.carryRecords uniKey := by
  unfold taskOrdercarryUpdateCarryrecord
  by_cases hmama : carry.mamaId = 0
  · rw [if_pos hmama, follow_nobody hmama]
    exact entry_unchanged rfl uniKey
  rw [if_neg hmama, gets_bind_run]
  cases hfind : findRecord carry.uniKey s with
  | none =>
    simp only
    rw [entry_of_find_none hfind, entry_create rfl rfl (entry_of_find_none hfind)]
    by_cases hcancel : carry.status.recordStatus = .cancel
    · have hopens : ¬ (gainOfOrder carry).Opens := fun h => h.2.1 hcancel
      rw [if_pos hcancel, follow, if_neg hopens]
    · have hopens : (gainOfOrder carry).Opens :=
        ⟨hmama, hcancel, fun h => absurd h Bool.false_ne_true⟩
      rw [if_neg hcancel, follow, if_pos hopens]
      rfl
  | some record =>
    have hkey := uniKey_of_find hfind
    rw [← hkey] at hfind ⊢
    rw [entry_of_find hfind]
    have hsomebody : ¬ (gainOfOrder carry).mamaId = 0 := hmama
    simp only [follow, Entry.after]
    rw [if_neg hsomebody]
    by_cases hstatus : record.status = carry.status.recordStatus
    · have hsame : (entryOf record).status = (gainOfOrder carry).status := hstatus
      have horder : ¬ ((gainOfOrder carry).award = true ∧
          (entryOf record).status = .pending) := fun h => absurd h.1 Bool.false_ne_true
      rw [if_neg (not_not.2 hstatus), if_neg (not_not.2 hsame), if_neg horder]
      exact entry_unchanged (entry_of_find hfind) uniKey
    · have hdiff : (entryOf record).status ≠ (gainOfOrder carry).status := hstatus
      rw [if_pos hstatus, if_pos hdiff]
      exact entry_followStatus hfind hstatus uniKey

def rank : CarryStatus → Nat
  | .pending => 0
  | .confirmed => 1
  | .cancel => 2

/-- The record of a carry is there if the carry earns something, and says what it says. -/
structure Mirrors (gain : Gain) (found : Option Entry) : Prop where
  opened : 0 < gain.mamaId → 0 < gain.carryNum → gain.status ≠ .cancel → found.isSome = true
  agrees : ∀ entry ∈ found, entry.status = gain.status ∧
    (gain.status = .pending → entry.carryNum = gain.carryNum)

def Allowed (found : Option Entry) (status status' : CarryStatus) : Prop :=
  found.isSome = true → rank status ≤ rank status'

theorem Allowed.of_none (status status' : CarryStatus) : Allowed none status status' :=
  fun h => absurd h Bool.false_ne_true

theorem allowed_self (found : Option Entry) (status : CarryStatus) :
    Allowed found status status := fun _ => Nat.le_refl _

theorem allowed_cancel (found : Option Entry) (status : CarryStatus) :
    Allowed found status .cancel := by
  intro _
  cases status <;> decide

theorem mirrors_follow_none (gain : Gain) : Mirrors gain (follow gain none) := by
  simp only [follow]
  by_cases hopens : gain.Opens
  · rw [if_pos hopens]
    refine ⟨fun _ _ _ => rfl, ?_⟩
    rintro entry ⟨⟩
    exact ⟨rfl, fun _ => rfl⟩
  · rw [if_neg hopens]
    refine ⟨?_, ?_⟩
    · intro hmama hnum hstatus
      exact absurd ⟨Nat.pos_iff_ne_zero.1 hmama, hstatus, fun _ => hnum⟩ hopens
    · intro entry hentry
      exact absurd hentry (Option.not_mem_none entry)

theorem after_agrees_iff {gain gain' : Gain} {entry : Entry} (hmama : gain'.mamaId ≠ 0)
    (hnum : gain'.carryNum = gain.carryNum) (hstatus : entry.status = gain.status)
    (hpending : gain.status = .pending → entry.carryNum = gain.carryNum) :
    ((entry.after gain').status = gain'.status ∧
        (gain'.status = .pending → (entry.after gain').carryNum = gain'.carryNum)) ↔
      rank gain.status ≤ rank gain'.status := by
  obtain ⟨award, mamaId, num, status⟩ := gain
  obtain ⟨status₀, carryNum⟩ := entry
  obtain ⟨award', mamaId', num', status'⟩ := gain'
  simp only at hmama hnum hstatus
  subst hnum hstatus
  simp only [Entry.after]
  rw [if_neg hmama]
  cases status₀ with
  | pending =>
    have hcarryNum := hpending rfl
    simp only at hcarryNum
    subst hcarryNum
    cases status' <;> simp [Entry.toStatus, rank]
  | confirmed => cases status' <;> simp [Entry.toStatus, rank]
  | cancel => cases status' <;> simp [Entry.toStatus, rank]

theorem mirrors_follow_iff (gain gain' : Gain) {found : Option Entry}
    (hmama : gain'.mamaId = gain.mamaId) (hnum : gain'.carryNum = gain.carryNum)
    (hmirrors : Mirrors gain found) (hnobody : gain.mamaId = 0 → found = none) :
    Mirrors gain' (follow gain' found) ↔ Allowed found gain.status gain'.status := by
  cases found with
  | none => exact iff_of_true (mirrors_follow_none gain') (Allowed.of_none _ _)
  | some entry =>
    have hsomebody : gain'.mamaId ≠ 0 := by
      rw [hmama]
      intro h
      exact absurd (hnobody h) (Option.some_ne_none entry)
    obtain ⟨hstatus, hpending⟩ := hmirrors.agrees entry rfl
    rw [Allowed, ← after_agrees_iff hsomebody hnum hstatus hpending]
    constructor
    · intro h _
      exact h.agrees _ rfl
    · intro h
      refine ⟨fun _ _ _ => rfl, ?_⟩
      rintro entry' ⟨⟩
      exact h rfl

theorem follow_keeps_nobody {gain : Gain} {found : Option Entry} (hmama : gain.mamaId = 0)
    (h : found = none) : follow gain found = none :=
  (follow_nobody hmama found).trans h

end ShopManager.Mama.Earning
