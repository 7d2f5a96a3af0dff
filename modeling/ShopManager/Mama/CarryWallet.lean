import ShopManager.Mama.Carry

/-!
# Carry records and the wallet

A record and its wallet log are two state machines.  `Agrees` says how they stand
to each other between two calls; each call keeps it and moves the customer's
amount by what the record came to be worth.
-/

namespace ShopManager.Mama

open Library Library.Tx Library.Execution Library.Key Pay.Wallet CarryRecord

/-! ## What the calls leave behind -/

variable {method : BudgetLog → WalletTx Unit}

namespace CarryRecord

def withLog (today : Date) (record : CarryRecord) (customer : Option Nat)
    (w : WalletDb) : WalletDb :=
  match customer with
  | none => w
  | some customer =>
      if record.carryNum > 0 then
        ((BudgetLog.create today (record.incomeArgs customer)).run w).2
      else w

theorem withLog_some (today : Date) (record : CarryRecord) (customer : Nat)
    (w : WalletDb) :
    record.withLog today (some customer) w =
      if record.carryNum > 0 then
        ((BudgetLog.create today (record.incomeArgs customer)).run w).2
      else w := rfl

theorem createLog_snd (today : Date) (record : CarryRecord) (customer : Option Nat)
    (s : CarryDb) :
    ((createLog today record customer).run s).2 =
      { s with wallet := record.withLog today customer s.wallet } := by
  unfold createLog withLog
  by_cases hnum : record.carryNum > 0
  · cases customer with
    | none => simp only [if_pos hnum, raise_run]
    | some customer =>
      simp only [if_pos hnum, CarryDb.inWallet, zoom_bind_run]
      cases (BudgetLog.create today (record.incomeArgs customer)).run s.wallet with
      | mk res w => cases res <;> rfl
  · cases customer <;> simp only [if_neg hnum, pure_run]

theorem createLog_error {today : Date} {record : CarryRecord} {customer : Option Nat}
    {s s' : CarryDb} {e : Exn} (h : (createLog today record customer).run s = (.error e, s')) :
    s' = s := by
  have hsnd : s' = { s with wallet := record.withLog today customer s.wallet } := by
    rw [← createLog_snd, h]
  rw [hsnd]
  unfold createLog at h
  unfold withLog
  cases customer with
  | none => rfl
  | some customer =>
    by_cases hnum : record.carryNum > 0
    · simp only [if_pos hnum, CarryDb.inWallet, zoom_bind_run, BudgetLog.create_run] at h ⊢
      cases herror : BudgetLog.createError s.wallet today (record.incomeArgs customer) with
      | some e => rfl
      | none =>
        simp only [herror, pure_run, Prod.mk.injEq, reduceCtorEq, false_and] at h
    · simp only [if_neg hnum]

theorem insert_run (record : CarryRecord) (s : CarryDb) :
    (insert record).run s =
      if (s.carryRecords.first fun r => r.uniKey = record.uniKey).isSome then
        (.error .integrityError, s)
      else (.ok (s.carryRecords.stored record),
        { s with carryRecords := s.carryRecords.insert record }) := by
  unfold insert
  rw [gets_bind_run, raiseIf_bind_run]
  rfl

theorem create_cases (today : Date) (args : CreateArgs) (s : CarryDb) :
    ((create today args).run s).2 = s ∨
      args.status ≠ some .cancel ∧
      ((create today args).run s).2 =
        { s with
          carryRecords := s.carryRecords.insert (created today args)
          wallet := (s.carryRecords.stored (created today args)).withLog today
            ((s.mamas args.mamaId).getD none) s.wallet } := by
  unfold create
  by_cases hstatus : args.status = some .cancel
  · simp only [if_pos hstatus, pure_run, true_or]
  · rw [if_neg hstatus]
    by_cases htaken : (s.carryRecords.first fun r =>
        r.uniKey = (created today args).uniKey).isSome = true
    · left
      rw [bind_error ((insert_run (created today args) s).trans (if_pos htaken))]
    · right
      refine ⟨hstatus, ?_⟩
      rw [bind_ok ((insert_run (created today args) s).trans (if_neg htaken)), getOr_bind_run]
      cases s.mamas args.mamaId with
      | none => rfl
      | some customer => exact createLog_snd today _ customer _

def withChangedLog (today : Date) (record : CarryRecord)
    (method : BudgetLog → WalletTx Unit) (customer : Option Nat) (w : WalletDb) : WalletDb :=
  match w.referred (referalId record.id) with
  | some bg => ((method bg).run w).2
  | none => record.withLog today customer w

def Clean (method : BudgetLog → WalletTx Unit) : Prop :=
  ∀ bg w e w', (method bg).run w = (.error e, w') → w' = w

theorem saveWithLog_snd {today : Date} {record : CarryRecord}
    (hclean : Clean method) (s : CarryDb) :
    ((saveWithLog today record method).run s).2 =
      { s with
        carryRecords := s.carryRecords.save record
        wallet := match s.mamas record.mamaId with
          | none => s.wallet
          | some customer => record.withChangedLog today method customer s.wallet } := by
  unfold saveWithLog CarryRecord.save
  rw [modify_bind_run, getOr_bind_run]
  cases hmama : s.mamas record.mamaId with
  | none => rfl
  | some customer =>
    simp only [atomic, gets_bind_run]
    unfold withChangedLog
    have hlog : budgetLog { s with carryRecords := s.carryRecords.save record } record.id =
        s.wallet.referred (referalId record.id) := rfl
    rw [hlog]
    cases s.wallet.referred (referalId record.id) with
    | some bg =>
      simp only [CarryDb.inWallet, zoom]
      cases hrun : (method bg).run s.wallet with
      | mk res w =>
        cases res with
        | ok a => rfl
        | error e => rw [hclean bg s.wallet e w hrun]
    | none =>
      have hsnd := createLog_snd today record customer
        { s with carryRecords := s.carryRecords.save record }
      simp only at hsnd ⊢
      rw [← hsnd]
      cases hrun : (createLog today record customer).run
          { s with carryRecords := s.carryRecords.save record } with
      | mk res s' =>
        cases res with
        | ok a => rfl
        | error e => rw [createLog_error hrun]

def takenBack (today : Date) (bg : BudgetLog) (w : WalletDb) : WalletDb :=
  match (confirmLog bg).run w with
  | (.ok _, w') => ((BudgetLog.create today (cancelArgs bg)).run w').2
  | (.error _, w') => w'

theorem cancel_snd (today : Date) (record : CarryRecord) (s : CarryDb) :
    ((cancel today record).run s).2 =
      if record.status = .cancel then s
      else { s with
        carryRecords := s.carryRecords.save record.canceled
        wallet := match s.wallet.referred (referalId record.id) with
          | none => s.wallet
          | some bg => takenBack today bg s.wallet } := by
  unfold cancel CarryRecord.save
  by_cases hstatus : record.status = .cancel
  · simp only [if_pos hstatus, pure_run]
  · rw [if_neg hstatus, if_neg hstatus, modify_bind_run, gets_bind_run]
    have hlog : ∀ records, budgetLog { s with carryRecords := records } record.id =
        s.wallet.referred (referalId record.id) := fun _ => rfl
    rw [hlog]
    cases s.wallet.referred (referalId record.id) with
    | none => rfl
    | some bg =>
      simp only [CarryDb.inWallet, zoom_bind_run, takenBack]
      cases (confirmLog bg).run s.wallet with
      | mk res w =>
        cases res with
        | error e => rfl
        | ok b =>
          simp only
          cases (BudgetLog.create today (cancelArgs bg)).run w with
          | mk res' w' => cases res' <;> rfl

theorem confirmLog_run (bg : BudgetLog) (w : WalletDb) :
    (confirmLog bg).run w =
      (((BudgetLog.confirmBudgetLog bg).run w).1.map fun _ => (),
        ((BudgetLog.confirmBudgetLog bg).run w).2) :=
  bind_pure_run _ _ _

theorem clean_confirmLog : Clean confirmLog := by
  intro bg w e w' h
  rw [confirmLog_run, BudgetLog.confirmBudgetLog_run] at h
  by_cases hstatus : bg.status = .confirmed
  · rw [if_pos hstatus] at h
    exact absurd (Prod.mk.inj h).1 (by simp [Except.map])
  · rw [if_neg hstatus, BudgetLog.settle_run] at h
    cases hrow : w.userBudgets bg.customerId with
    | none =>
      rw [hrow] at h
      exact (Prod.mk.inj h).2.symm
    | some budget =>
      rw [hrow] at h
      exact absurd (Prod.mk.inj h).1 (by simp [Except.map])

theorem clean_chnage (newAmount : Int) :
    Clean fun bg => BudgetLog.chnagePedingIncomeAmount bg newAmount := by
  intro bg w e w' h
  simp only [BudgetLog.chnagePedingIncomeAmount_run] at h
  split at h <;> simp at h

theorem referalId_inj {m n : Nat} : referalId m = referalId n ↔ m = n :=
  (append_left_inj "carryrecord-").trans toString_inj

theorem referalId_ne_empty (n : Nat) : referalId n ≠ "" := by
  intro h
  have hlen := congrArg String.length h
  simp [referalId] at hlen

theorem withLog_grows (today : Date) (record : CarryRecord) (customer : Option Nat)
    (w : WalletDb) : w.Grows (record.withLog today customer w) := by
  unfold withLog
  cases customer with
  | none => exact WalletDb.Grows.refl w
  | some customer =>
    simp only
    split
    · exact WalletDb.Grows.create (BudgetLog.generated_of_none rfl rfl)
    · exact WalletDb.Grows.refl w

theorem withLog_referred (today : Date) (record : CarryRecord) (customer : Option Nat)
    (w : WalletDb) {id : Nat} (h : id ≠ record.id) :
    (record.withLog today customer w).referred (referalId id) = w.referred (referalId id) := by
  have hne : referalId record.id ≠ referalId id := fun heq => h (referalId_inj.1 heq).symm
  unfold withLog
  cases customer with
  | none => rfl
  | some customer =>
    simp only
    split
    · exact WalletDb.referred_create_other today _ hne
    · rfl

structure Local (method : BudgetLog → WalletTx Unit) : Prop where
  grows : ∀ bg (w : WalletDb), bg ∈ w.budgetLogs → w.Grows ((method bg).run w).2
  others : ∀ bg (w : WalletDb) key, bg ∈ w.budgetLogs → bg.referalId ≠ key →
    ((method bg).run w).2.referred key = w.referred key

theorem local_confirmLog : Local confirmLog := by
  constructor
  · intro bg w hbg
    rw [confirmLog_run]
    exact WalletDb.Grows.confirmBudgetLog hbg
  · intro bg w key hbg hne
    rw [confirmLog_run]
    exact WalletDb.referred_confirm_other hbg hne

theorem local_chnage (newAmount : Int) :
    Local fun bg => BudgetLog.chnagePedingIncomeAmount bg newAmount :=
  ⟨fun _ _ hbg => WalletDb.Grows.chnagePedingIncomeAmount newAmount hbg,
    fun _ _ _ hbg hne => WalletDb.referred_chnage_other newAmount hbg hne⟩

theorem withChangedLog_grows (hlocal : Local method)
    (today : Date) (record : CarryRecord) (customer : Option Nat) (w : WalletDb) :
    w.Grows (record.withChangedLog today method customer w) := by
  unfold withChangedLog
  cases hbg : w.referred (referalId record.id) with
  | none => exact withLog_grows today record customer w
  | some bg => exact hlocal.grows bg w (Table.mem_of_first hbg)

theorem withChangedLog_referred (hlocal : Local method)
    (today : Date) (record : CarryRecord) (customer : Option Nat) (w : WalletDb) {id : Nat}
    (h : id ≠ record.id) :
    (record.withChangedLog today method customer w).referred (referalId id) =
      w.referred (referalId id) := by
  unfold withChangedLog
  cases hbg : w.referred (referalId record.id) with
  | none => exact withLog_referred today record customer w h
  | some bg =>
    apply hlocal.others bg w _ (Table.mem_of_first hbg)
    rw [WalletDb.referalId_of_referred hbg]
    exact fun heq => h (referalId_inj.1 heq).symm

theorem takenBack_grows (today : Date) {bg : BudgetLog} {w : WalletDb}
    (hbg : bg ∈ w.budgetLogs) : w.Grows (takenBack today bg w) := by
  have hconfirm := local_confirmLog.grows bg w hbg
  unfold takenBack
  cases hrun : (confirmLog bg).run w with
  | mk res w' =>
    rw [hrun] at hconfirm
    cases res with
    | error e => exact hconfirm
    | ok b => exact hconfirm.trans (WalletDb.Grows.create (BudgetLog.generated_of_none rfl rfl))

theorem takenBack_referred (today : Date) {bg : BudgetLog} {w : WalletDb}
    (hbg : bg ∈ w.budgetLogs) {id : Nat} (h : bg.referalId ≠ referalId id) :
    (takenBack today bg w).referred (referalId id) = w.referred (referalId id) := by
  have hconfirm := local_confirmLog.others bg w _ hbg h
  unfold takenBack
  cases hrun : (confirmLog bg).run w with
  | mk res w' =>
    rw [hrun] at hconfirm
    cases res with
    | error e => exact hconfirm
    | ok b =>
      rw [← hconfirm]
      exact WalletDb.referred_create_other today _ (referalId_ne_empty id).symm

/-! ## Record and log -/

def worth (record : CarryRecord) : Int :=
  if record.status = .confirmed then record.carryNum else 0

/-- A record and the wallets between two calls: without a log the record has
nothing to move, and the log of a live record says what the record says. -/
def Agrees (customer : Nat) (record : CarryRecord) (w : WalletDb) : Prop :=
  match w.referred (referalId record.id) with
  | none => record.status = .cancel ∨ record.carryNum = 0
  | some bg =>
      bg.customerId = customer ∧ (w.userBudgets customer).isSome = true ∧
        (record.status = .cancel ∨
          bg.budgetType = .budgetIn ∧ bg.flowAmount = record.carryNum ∧
            bg.status = budgetLogStatusMap record.status)

variable {customer : Nat} {record : CarryRecord} {w : WalletDb}

theorem agrees_none (record : CarryRecord) (hlog : w.referred (referalId record.id) = none) :
    Agrees customer record w ↔ record.status = .cancel ∨ record.carryNum = 0 := by
  simp only [Agrees, hlog]

theorem agrees_some (record : CarryRecord) {bg : BudgetLog} (hlog : w.referred (referalId record.id) = some bg) :
    Agrees customer record w ↔
      bg.customerId = customer ∧ (w.userBudgets customer).isSome = true ∧
        (record.status = .cancel ∨
          bg.budgetType = .budgetIn ∧ bg.flowAmount = record.carryNum ∧
            bg.status = budgetLogStatusMap record.status) := by
  simp only [Agrees, hlog]

theorem agrees_withLog (record : CarryRecord) (today : Date) (hkeys : w.KeysCounted)
    (hcustomer : customer ∈ w.customers) (hlog : w.referred (referalId record.id) = none)
    (hnum : 0 ≤ record.carryNum) (hlive : record.status ≠ .cancel) :
    Agrees customer record (record.withLog today (some customer) w) ∧
      (record.withLog today (some customer) w).budget customer .amount =
        w.budget customer .amount + record.worth := by
  rw [withLog_some]
  by_cases hpos : record.carryNum > 0
  · have hstatus : (record.incomeArgs customer).status.getD .confirmed ≠ .canceled := by
      cases hs : record.status <;> simp_all [incomeArgs, budgetLogStatusMap]
    rw [if_pos hpos, BudgetLog.create_generated_run hkeys
      (BudgetLog.generated_of_none rfl rfl) hcustomer hstatus]
    have hreferred := WalletDb.referred_post_insert
      (BudgetLog.createdLog w today (record.incomeArgs customer)) hlog customer
      (record.incomeArgs customer).change
    constructor
    · refine (agrees_some record hreferred).2 ⟨rfl, ?_, Or.inr ⟨rfl, rfl, rfl⟩⟩
      show ((w.post customer _ _).userBudgets customer).isSome = true
      simp [WalletDb.post]
    · show (w.post customer _ _).budget customer .amount = _
      rw [WalletDb.budget_post]
      cases hs : record.status <;>
        simp_all [worth, incomeArgs, budgetLogStatusMap, BudgetLog.CreateArgs.change,
          createChange, RowObject.moved, incomeChange]
  · have hzero : record.carryNum = 0 := by omega
    rw [if_neg hpos]
    refine ⟨(agrees_none record hlog).2 (Or.inr hzero), ?_⟩
    simp [worth, hzero]

theorem log_of_agrees {bg : BudgetLog} (h : Agrees customer record w)
    (hlog : w.referred (referalId record.id) = some bg) (hlive : record.status ≠ .cancel) :
    bg.customerId = customer ∧ (w.userBudgets bg.customerId).isSome = true ∧
      bg.budgetType = .budgetIn ∧ bg.flowAmount = record.carryNum ∧
        bg.status = budgetLogStatusMap record.status := by
  obtain ⟨hbg, hrow, hcancel | ⟨hin, hflow, hstatus⟩⟩ := (agrees_some record hlog).1 h
  · exact absurd hcancel hlive
  · rw [← hbg] at hrow
    exact ⟨hbg, hrow, hin, hflow, hstatus⟩

theorem agrees_confirm (today : Date) (hkeys : w.KeysCounted)
    (hcustomer : customer ∈ w.customers) (hnum : 0 ≤ record.carryNum)
    (hpending : record.status = .pending) (h : Agrees customer record w) :
    Agrees customer record.confirmed
        (withChangedLog today record.confirmed confirmLog (some customer) w) ∧
      (withChangedLog today record.confirmed confirmLog (some customer) w).budget customer
        .amount = w.budget customer .amount + record.carryNum := by
  have hlive : record.status ≠ .cancel := by rw [hpending]; decide
  unfold withChangedLog
  have hid : record.confirmed.id = record.id := rfl
  rw [hid]
  cases hlog : w.referred (referalId record.id) with
  | none => exact agrees_withLog record.confirmed today hkeys hcustomer hlog hnum (by simp [confirmed])
  | some bg =>
    obtain ⟨hbg, hrow, hin, hflow, hstatus⟩ := log_of_agrees h hlog hlive
    rw [hpending] at hstatus
    simp only [confirmLog_run, BudgetLog.confirmBudgetLog_pending hin hstatus hrow]
    constructor
    · have hsaved := WalletDb.first_save_referred
        { bg with
          balance := (w.budget bg.customerId +
            RowObject.moved (incomeChange bg.flowAmount)) .amount
          status := .confirmed } hlog rfl rfl
      unfold Agrees WalletDb.referred
      rw [WalletDb.budgetLogs_post, hid, hsaved]
      refine ⟨hbg, ?_, Or.inr ⟨hin, hflow, rfl⟩⟩
      simp [WalletDb.post, hbg]
    · rw [hbg, WalletDb.budget_post, ← hflow]
      rfl

theorem agrees_change (today : Date) {newValue : Int} (hkeys : w.KeysCounted)
    (hcustomer : customer ∈ w.customers) (hvalue : 0 ≤ newValue)
    (hpending : record.status = .pending) (h : Agrees customer record w) :
    Agrees customer (record.changed newValue)
        (withChangedLog today (record.changed newValue)
          (fun bg => BudgetLog.chnagePedingIncomeAmount bg newValue) (some customer) w) ∧
      (withChangedLog today (record.changed newValue)
          (fun bg => BudgetLog.chnagePedingIncomeAmount bg newValue)
          (some customer) w).budget customer .amount = w.budget customer .amount := by
  have hlive : record.status ≠ .cancel := by rw [hpending]; decide
  unfold withChangedLog
  have hid : (record.changed newValue).id = record.id := rfl
  rw [hid]
  cases hlog : w.referred (referalId record.id) with
  | none =>
    obtain ⟨hagrees, hamount⟩ := agrees_withLog (record.changed newValue) today hkeys
      hcustomer hlog hvalue hlive
    refine ⟨hagrees, hamount.trans ?_⟩
    simp [worth, changed, hpending]
  | some bg =>
    obtain ⟨hbg, hrow, hin, hflow, hstatus⟩ := log_of_agrees h hlog hlive
    rw [hpending] at hstatus
    have hopen : ¬ (bg.status ≠ .pending ∨ bg.budgetType ≠ .budgetIn) := by
      rw [hstatus, hin]
      decide
    simp only [BudgetLog.chnagePedingIncomeAmount_run, if_neg hopen]
    refine ⟨?_, rfl⟩
    have hsaved := WalletDb.first_save_referred { bg with flowAmount := newValue } hlog rfl rfl
    unfold Agrees WalletDb.referred
    rw [hid, hsaved]
    refine ⟨hbg, hbg ▸ hrow, Or.inr ⟨hin, rfl, ?_⟩⟩
    show bg.status = budgetLogStatusMap record.status
    rw [hstatus, hpending]

theorem confirmLog_live {bg : BudgetLog} (h : Agrees customer record w)
    (hlog : w.referred (referalId record.id) = some bg) (hlive : record.status ≠ .cancel) :
    ∃ w', (confirmLog bg).run w = (.ok (), w') ∧
      (∃ bg', w'.referred (referalId record.id) = some bg' ∧ bg'.customerId = customer) ∧
      w'.budget customer .amount =
        w.budget customer .amount + record.carryNum - record.worth := by
  obtain ⟨hbg, hrow, hin, hflow, hstatus⟩ := log_of_agrees h hlog hlive
  by_cases hconfirmed : record.status = .confirmed
  · have hdone : bg.status = .confirmed := by rw [hstatus, hconfirmed]; rfl
    refine ⟨w, ?_, ⟨bg, hlog, hbg⟩, ?_⟩
    · rw [confirmLog_run, BudgetLog.confirmBudgetLog_run, if_pos hdone]
      rfl
    · simp [worth, hconfirmed]
  · have hpending : bg.status = .pending := by
      rw [hstatus]
      cases hs : record.status <;> simp_all [budgetLogStatusMap]
    have hrun := BudgetLog.confirmBudgetLog_pending hin hpending hrow
    refine ⟨_, by rw [confirmLog_run, hrun]; rfl, ?_, ?_⟩
    · exact ⟨_, WalletDb.first_save_referred
        { bg with
          balance := (w.budget bg.customerId +
            RowObject.moved (incomeChange bg.flowAmount)) .amount
          status := .confirmed } hlog rfl rfl, hbg⟩
    · rw [hbg, WalletDb.budget_post, hflow]
      simp [worth, hconfirmed, RowObject.moved, incomeChange]

theorem agrees_cancel (today : Date) (hkeys : w.KeysCounted)
    (hcustomer : customer ∈ w.customers) (hlive : record.status ≠ .cancel)
    (h : Agrees customer record w) {w' : WalletDb}
    (hw' : w' = match w.referred (referalId record.id) with
      | none => w
      | some bg => takenBack today bg w) :
    Agrees customer record.canceled w' ∧
      w'.budget customer .amount = w.budget customer .amount - record.worth := by
  cases hlog : w.referred (referalId record.id) with
  | none =>
    simp only [hlog] at hw'
    subst hw'
    refine ⟨(agrees_none record.canceled hlog).2 (Or.inl rfl), ?_⟩
    rcases (agrees_none record hlog).1 h with hcancel | hzero
    · exact absurd hcancel hlive
    · simp [worth, hzero]
  | some bg =>
    simp only [hlog] at hw'
    subst hw'
    obtain ⟨hbg, hrow, hin, hflow, hstatus⟩ := log_of_agrees h hlog hlive
    obtain ⟨w', hrun, ⟨bg', hlog', hbg'⟩, hamount⟩ := confirmLog_live h hlog hlive
    have hgrows := local_confirmLog.grows bg w (Table.mem_of_first hlog)
    rw [hrun] at hgrows
    have hargs : (cancelArgs bg).customerId = customer := hbg
    have hcreate := BudgetLog.create_generated_run (hgrows.keys hkeys)
      (BudgetLog.generated_of_none rfl rfl : (cancelArgs bg).Generated today w')
      (by rw [hargs, hgrows.customers]; exact hcustomer) (by simp [cancelArgs])
    have htaken : takenBack today bg w = ((BudgetLog.create today (cancelArgs bg)).run w').2 := by
      simp only [takenBack, hrun]
    rw [htaken]
    constructor
    · have hreferred := WalletDb.referred_create_other (s := w') today (cancelArgs bg)
        (referalId_ne_empty record.id).symm
      refine (agrees_some record.canceled (hreferred.trans hlog')).2 ⟨hbg', ?_, Or.inl rfl⟩
      rw [hcreate, hargs]
      simp [WalletDb.post]
    · rw [hcreate, hargs, WalletDb.budget_post]
      show w'.budget customer .amount + -bg.flowAmount = _
      rw [hamount, hflow]
      omega

end CarryRecord

/-! ## Runs -/

inductive CarryOp where
  | create (today : Date) (args : CarryRecord.CreateArgs)
  | changePendingCarryAmount (today : Date) (recordId : Nat) (newValue : Int)
  | confirm (today : Date) (recordId : Nat)
  | cancel (today : Date) (recordId : Nat)

def onRecord (recordId : Nat) (method : CarryRecord → CarryTx Unit) : CarryTx Unit := do
  let record ← getOr .doesNotExist fun s => s.carryRecords.get? recordId
  method record

namespace CarryOp

def exec : CarryOp → CarryDb → CarryDb
  | create today args, s => ((CarryRecord.create today args).run s).2
  | changePendingCarryAmount today recordId newValue, s =>
      ((onRecord recordId (CarryRecord.changePendingCarryAmount today newValue)).run s).2
  | confirm today recordId, s => ((onRecord recordId (CarryRecord.confirm today)).run s).2
  | cancel today recordId, s => ((onRecord recordId (CarryRecord.cancel today)).run s).2

def target (s : CarryDb) : CarryOp → Nat
  | create _ _ => s.carryRecords.nextId
  | changePendingCarryAmount _ recordId _ => recordId
  | confirm _ recordId => recordId
  | cancel _ recordId => recordId

def NonNegative : CarryOp → Prop
  | create _ args => 0 ≤ args.carryNum
  | changePendingCarryAmount _ _ newValue => 0 ≤ newValue
  | _ => True

instance : ∀ op : CarryOp, Decidable op.NonNegative
  | create _ args => inferInstanceAs (Decidable (0 ≤ args.carryNum))
  | changePendingCarryAmount _ _ newValue => inferInstanceAs (Decidable (0 ≤ newValue))
  | confirm _ _ => isTrue trivial
  | cancel _ _ => isTrue trivial

end CarryOp

def CarryDb.amount (s : CarryDb) (customer : Nat) : Int := s.wallet.budget customer .amount

def netEffect (customer recordId : Nat) : List CarryOp → CarryDb → Int
  | [], _ => 0
  | op :: ops, s =>
      (if op.target s = recordId then (op.exec s).amount customer - s.amount customer else 0) +
        netEffect customer recordId ops (op.exec s)

structure StepOn (k : Nat) (s s' : CarryDb) : Prop where
  grows : s.wallet.Grows s'.wallet
  mamas : s'.mamas = s.mamas
  others : ∀ id, id ≠ k → s'.carryRecords.get? id = s.carryRecords.get? id ∧
    s'.wallet.referred (referalId id) = s.wallet.referred (referalId id)
  mamaId : ∀ record, s.carryRecords.get? k = some record →
    ∃ record', s'.carryRecords.get? k = some record' ∧ record'.mamaId = record.mamaId

theorem StepOn.refl (k : Nat) (s : CarryDb) : StepOn k s s :=
  ⟨WalletDb.Grows.refl _, rfl, fun _ _ => ⟨rfl, rfl⟩, fun record h => ⟨record, h, rfl⟩⟩

theorem stepOn_save {s : CarryDb} {record : CarryRecord} (new : CarryRecord) {w : WalletDb}
    (hget : s.carryRecords.get? record.id = some record) (hid : new.id = record.id)
    (hmama : new.mamaId = record.mamaId) (hgrows : s.wallet.Grows w)
    (hothers : ∀ id, id ≠ record.id →
      w.referred (referalId id) = s.wallet.referred (referalId id)) :
    StepOn record.id s { s with carryRecords := s.carryRecords.save new, wallet := w } := by
  have hpk : Row.pk new = record.id := hid
  refine ⟨hgrows, rfl, fun id hne => ⟨?_, hothers id hne⟩, fun record' hget' => ?_⟩
  · rw [Table.get?_save, hpk, if_neg hne]
  · rw [hget] at hget'
    cases hget'
    refine ⟨new, ?_, hmama⟩
    rw [Table.get?_save, hpk, if_pos rfl, hget, Option.map_some]

theorem stepOn_create (today : Date) (args : CarryRecord.CreateArgs) (s : CarryDb) :
    StepOn s.carryRecords.nextId s ((CarryRecord.create today args).run s).2 := by
  rcases create_cases today args s with hsame | ⟨_, hnew⟩
  · rw [hsame]
    exact StepOn.refl _ s
  · rw [hnew]
    refine ⟨withLog_grows today _ _ _, rfl, fun id hne => ⟨?_, ?_⟩, fun record hget => ?_⟩
    · rw [Table.get?_insert, if_neg hne]
    · exact withLog_referred today _ _ _ hne
    · have hlt := Table.pk_lt_nextId (Table.get?_eq_some.1 hget).1
      have hpk := (Table.get?_eq_some.1 hget).2
      omega

theorem id_of_get {s : CarryDb} {id : Nat} {record : CarryRecord}
    (h : s.carryRecords.get? id = some record) : record.id = id :=
  (Table.get?_eq_some.1 h).2

theorem onRecord_snd (recordId : Nat) (method : CarryRecord → CarryTx Unit) (s : CarryDb) :
    ((onRecord recordId method).run s).2 =
      match s.carryRecords.get? recordId with
      | none => s
      | some record => ((method record).run s).2 := by
  unfold onRecord
  rw [getOr_bind_run]
  cases s.carryRecords.get? recordId <;> rfl

theorem stepOn_saveWithLog {s : CarryDb} {record : CarryRecord} (new : CarryRecord)
    (today : Date) (hclean : Clean method)
    (hlocal : Local method) (hget : s.carryRecords.get? record.id = some record)
    (hid : new.id = record.id) (hmama : new.mamaId = record.mamaId) :
    StepOn record.id s ((saveWithLog today new method).run s).2 := by
  rw [saveWithLog_snd hclean]
  apply stepOn_save new hget hid hmama
  · cases s.mamas new.mamaId with
    | none => exact WalletDb.Grows.refl _
    | some customer => exact withChangedLog_grows hlocal today new customer _
  · intro id hne
    cases s.mamas new.mamaId with
    | none => rfl
    | some customer =>
      exact withChangedLog_referred hlocal today new customer _ (by rw [hid]; exact hne)

theorem stepOn_exec (op : CarryOp) (s : CarryDb) : StepOn (op.target s) s (op.exec s) := by
  cases op with
  | create today args => exact stepOn_create today args s
  | changePendingCarryAmount today recordId newValue =>
    simp only [CarryOp.exec, CarryOp.target, onRecord_snd]
    cases hget : s.carryRecords.get? recordId with
    | none => exact StepOn.refl _ s
    | some record =>
      have hid := id_of_get hget
      subst hid
      simp only [CarryRecord.changePendingCarryAmount]
      split
      · exact StepOn.refl _ s
      · exact stepOn_saveWithLog (record.changed newValue) today (clean_chnage newValue)
          (local_chnage newValue) hget rfl rfl
  | confirm today recordId =>
    simp only [CarryOp.exec, CarryOp.target, onRecord_snd]
    cases hget : s.carryRecords.get? recordId with
    | none => exact StepOn.refl _ s
    | some record =>
      have hid := id_of_get hget
      subst hid
      simp only [CarryRecord.confirm]
      split
      · exact StepOn.refl _ s
      · exact stepOn_saveWithLog record.confirmed today clean_confirmLog local_confirmLog hget
          rfl rfl
  | cancel today recordId =>
    simp only [CarryOp.exec, CarryOp.target, onRecord_snd]
    cases hget : s.carryRecords.get? recordId with
    | none => exact StepOn.refl _ s
    | some record =>
      have hid := id_of_get hget
      subst hid
      simp only [cancel_snd]
      split
      · exact StepOn.refl _ s
      · apply stepOn_save record.canceled hget rfl rfl
        · cases hlog : s.wallet.referred (referalId record.id) with
          | none => exact WalletDb.Grows.refl _
          | some bg => exact takenBack_grows today (Table.mem_of_first hlog)
        · intro id hne
          cases hlog : s.wallet.referred (referalId record.id) with
          | none => rfl
          | some bg =>
            apply takenBack_referred today (Table.mem_of_first hlog)
            rw [WalletDb.referalId_of_referred hlog]
            exact fun heq => hne (referalId_inj.1 heq).symm

structure Tracks (customer recordId : Nat) (s : CarryDb) : Prop where
  keys : s.wallet.KeysCounted
  customer_mem : customer ∈ s.wallet.customers
  fresh : s.carryRecords.get? recordId = none →
    s.wallet.referred (referalId recordId) = none
  agrees : ∀ record, s.carryRecords.get? recordId = some record →
    s.mamas record.mamaId = some (some customer) →
    0 ≤ record.carryNum ∧ Agrees customer record s.wallet

def CarryDb.worth (s : CarryDb) (recordId : Nat) : Int :=
  ((s.carryRecords.get? recordId).map CarryRecord.worth).getD 0

theorem CarryRecord.Agrees.mono {customer : Nat} {record : CarryRecord} {w w' : WalletDb}
    (h : Agrees customer record w) (hgrows : w.Grows w')
    (hlog : w'.referred (referalId record.id) = w.referred (referalId record.id)) :
    Agrees customer record w' := by
  unfold Agrees at h ⊢
  rw [hlog]
  cases hbg : w.referred (referalId record.id) with
  | none => simpa only [hbg] using h
  | some bg =>
    rw [hbg] at h
    exact ⟨h.1, hgrows.rows customer h.2.1, h.2.2⟩

theorem Tracks.frame {customer recordId k : Nat} {s s' : CarryDb} (h : Tracks customer recordId s)
    (hstep : StepOn k s s') (hne : recordId ≠ k) : Tracks customer recordId s' := by
  obtain ⟨hget, hlog⟩ := hstep.others recordId hne
  refine ⟨hstep.grows.keys h.keys, by rw [hstep.grows.customers]; exact h.customer_mem, ?_, ?_⟩
  · intro hnone
    rw [hlog]
    exact h.fresh (by rw [← hget]; exact hnone)
  · intro record hrecord hmama
    rw [hget] at hrecord
    rw [hstep.mamas] at hmama
    obtain ⟨hnum, hagrees⟩ := h.agrees record hrecord hmama
    exact ⟨hnum, hagrees.mono hstep.grows (by rw [id_of_get hrecord]; exact hlog)⟩

/-- Record and log agree after a call, and the customer's amount moved by what the
record came to be worth. -/
def Advances (customer recordId : Nat) (s s' : CarryDb) : Prop :=
  ∀ record', s'.carryRecords.get? recordId = some record' →
    s.mamas record'.mamaId = some (some customer) →
    (0 ≤ record'.carryNum ∧ Agrees customer record' s'.wallet) ∧
      s'.amount customer - s.amount customer = record'.worth - s.worth recordId

section

variable {customer recordId : Nat} {s : CarryDb}

theorem worth_of_get {record : CarryRecord}
    (hget : s.carryRecords.get? recordId = some record) : s.worth recordId = record.worth := by
  simp [CarryDb.worth, hget]

theorem Advances.refl (h : Tracks customer recordId s) : Advances customer recordId s s := by
  intro record hget hmama
  refine ⟨h.agrees record hget hmama, ?_⟩
  rw [worth_of_get hget, sub_self, sub_self]

theorem advances_create (today : Date) {args : CarryRecord.CreateArgs}
    (h : Tracks customer s.carryRecords.nextId s) (hnum : 0 ≤ args.carryNum) :
    Advances customer s.carryRecords.nextId s ((CarryRecord.create today args).run s).2 := by
  have hnone : s.carryRecords.get? s.carryRecords.nextId = none := by
    cases hget : s.carryRecords.get? s.carryRecords.nextId with
    | none => rfl
    | some record =>
      have hlt := Table.pk_lt_nextId (Table.get?_eq_some.1 hget).1
      have hpk := (Table.get?_eq_some.1 hget).2
      omega
  rcases create_cases today args s with hsame | ⟨hstatus, hnew⟩
  · rw [hsame]
    exact Advances.refl h
  · rw [hnew]
    intro record' hget' hmama
    simp only [Table.get?_insert, if_true, Option.some.injEq] at hget'
    subst hget'
    have hargs : s.mamas args.mamaId = some (some customer) := hmama
    have hworth : s.worth s.carryRecords.nextId = 0 := by simp [CarryDb.worth, hnone]
    have hlive : (s.carryRecords.stored (created today args)).status ≠ .cancel := by
      show args.status.getD .confirmed ≠ .cancel
      cases hst : args.status with
      | none => decide
      | some status => simpa [hst] using hstatus
    obtain ⟨hagrees, hamount⟩ := agrees_withLog (s.carryRecords.stored (created today args))
      today h.keys h.customer_mem (h.fresh hnone) hnum hlive
    simp only [hargs, Option.getD_some, hworth, CarryDb.amount]
    refine ⟨⟨hnum, hagrees⟩, ?_⟩
    rw [hamount]
    omega

theorem advances_save (h : Tracks customer recordId s) {record : CarryRecord}
    (hget : s.carryRecords.get? recordId = some record) (new : CarryRecord)
    (hid : new.id = record.id) (hmama : new.mamaId = record.mamaId) {w : WalletDb}
    (hw : s.mamas record.mamaId = some (some customer) → 0 ≤ record.carryNum →
      Agrees customer record s.wallet →
      0 ≤ new.carryNum ∧ Agrees customer new w ∧
        w.budget customer .amount =
          s.wallet.budget customer .amount + new.worth - record.worth) :
    Advances customer recordId s
      { s with carryRecords := s.carryRecords.save new, wallet := w } := by
  intro record' hget' hmama'
  have hpk : recordId = Row.pk new := (id_of_get hget).symm.trans hid.symm
  rw [Table.get?_save, if_pos hpk, hget, Option.map_some] at hget'
  cases hget'
  rw [hmama] at hmama'
  obtain ⟨hold, hagreed⟩ := h.agrees record hget hmama'
  obtain ⟨hnum, hagrees, hamount⟩ := hw hmama' hold hagreed
  refine ⟨⟨hnum, hagrees⟩, ?_⟩
  rw [worth_of_get hget]
  simp only [CarryDb.amount]
  omega

theorem advances_change (today : Date) {newValue : Int} (h : Tracks customer recordId s)
    (hvalue : 0 ≤ newValue) :
    Advances customer recordId s
      ((onRecord recordId (CarryRecord.changePendingCarryAmount today newValue)).run s).2 := by
  rw [onRecord_snd]
  cases hget : s.carryRecords.get? recordId with
  | none => exact Advances.refl h
  | some record =>
    simp only [CarryRecord.changePendingCarryAmount]
    by_cases hpending : record.status = .pending
    · rw [if_neg (not_not_intro hpending), saveWithLog_snd (clean_chnage newValue)]
      apply advances_save h hget (record.changed newValue) rfl rfl
      intro hmama _ hagrees
      have hsame : (record.changed newValue).mamaId = record.mamaId := rfl
      have hworth : (record.changed newValue).worth = record.worth := by
        simp [worth, changed, hpending]
      rw [hsame, hmama, hworth, add_sub_cancel_right]
      refine ⟨hvalue, ?_⟩
      exact agrees_change today h.keys h.customer_mem hvalue hpending hagrees
    · rw [if_pos hpending]
      exact Advances.refl h

theorem advances_confirm (today : Date) (h : Tracks customer recordId s) :
    Advances customer recordId s
      ((onRecord recordId (CarryRecord.confirm today)).run s).2 := by
  rw [onRecord_snd]
  cases hget : s.carryRecords.get? recordId with
  | none => exact Advances.refl h
  | some record =>
    simp only [CarryRecord.confirm]
    by_cases hpending : record.status = .pending
    · rw [if_neg (not_not_intro hpending), saveWithLog_snd clean_confirmLog]
      apply advances_save h hget record.confirmed rfl rfl
      intro hmama hnum hagrees
      have hsame : record.confirmed.mamaId = record.mamaId := rfl
      have hworth : record.confirmed.worth - record.worth = record.carryNum := by
        simp [worth, confirmed, hpending]
      rw [hsame, hmama, add_sub_assoc, hworth]
      refine ⟨hnum, ?_⟩
      exact agrees_confirm today h.keys h.customer_mem hnum hpending hagrees
    · rw [if_pos hpending]
      exact Advances.refl h

theorem advances_cancel (today : Date) (h : Tracks customer recordId s) :
    Advances customer recordId s ((onRecord recordId (CarryRecord.cancel today)).run s).2 := by
  rw [onRecord_snd]
  cases hget : s.carryRecords.get? recordId with
  | none => exact Advances.refl h
  | some record =>
    simp only [cancel_snd]
    by_cases hcanceled : record.status = .cancel
    · rw [if_pos hcanceled]
      exact Advances.refl h
    · rw [if_neg hcanceled]
      apply advances_save h hget record.canceled rfl rfl
      intro hmama hnum hagrees
      have hworth : record.canceled.worth = 0 := rfl
      rw [hworth, add_zero]
      refine ⟨hnum, ?_⟩
      exact agrees_cancel today h.keys h.customer_mem hcanceled hagrees rfl

theorem advances_exec {op : CarryOp} (hop : op.NonNegative)
    (h : Tracks customer (op.target s) s) :
    Advances customer (op.target s) s (op.exec s) := by
  cases op with
  | create today args => exact advances_create today h hop
  | changePendingCarryAmount today k newValue => exact advances_change today h hop
  | confirm today k => exact advances_confirm today h
  | cancel today k => exact advances_cancel today h

def Owned (customer recordId : Nat) (s : CarryDb) : Prop :=
  ∀ record, s.carryRecords.get? recordId = some record →
    s.mamas record.mamaId = some (some customer)

theorem Owned.before {k : Nat} {s' : CarryDb} (hstep : StepOn k s s')
    (h : Owned customer recordId s') : Owned customer recordId s := by
  intro record hget
  rw [← hstep.mamas]
  by_cases hk : recordId = k
  · subst hk
    obtain ⟨record', hget', hmama⟩ := hstep.mamaId record hget
    rw [← hmama]
    exact h record' hget'
  · exact h record ((hstep.others recordId hk).1.trans hget)

theorem Owned.before_run (ops : List CarryOp) (s : CarryDb)
    (h : Owned customer recordId (run CarryOp.exec ops s)) : Owned customer recordId s := by
  induction ops generalizing s with
  | nil => exact h
  | cons op ops ih => exact (ih (op.exec s) h).before (stepOn_exec op s)

theorem exec_of_missing {op : CarryOp}
    (h : (op.exec s).carryRecords.get? (op.target s) = none) : op.exec s = s := by
  have hbefore : s.carryRecords.get? (op.target s) = none := by
    cases hget : s.carryRecords.get? (op.target s) with
    | none => rfl
    | some record =>
      obtain ⟨record', hget', _⟩ := (stepOn_exec op s).mamaId record hget
      rw [h] at hget'
      cases hget'
  cases op with
  | create today args =>
    rcases create_cases today args s with hsame | ⟨_, hnew⟩
    · exact hsame
    · simp only [CarryOp.exec, CarryOp.target, hnew, Table.get?_insert, if_true,
        reduceCtorEq] at h
  | changePendingCarryAmount today k newValue => exact (onRecord_snd _ _ s).trans (by
      simp only [CarryOp.target] at hbefore
      rw [hbefore])
  | confirm today k => exact (onRecord_snd _ _ s).trans (by
      simp only [CarryOp.target] at hbefore
      rw [hbefore])
  | cancel today k => exact (onRecord_snd _ _ s).trans (by
      simp only [CarryOp.target] at hbefore
      rw [hbefore])

theorem Tracks.step {op : CarryOp} (hop : op.NonNegative) (h : Tracks customer recordId s)
    (howned : Owned customer recordId (op.exec s)) :
    Tracks customer recordId (op.exec s) ∧
      (if op.target s = recordId then (op.exec s).amount customer - s.amount customer else 0) =
        (op.exec s).worth recordId - s.worth recordId := by
  have hstep := stepOn_exec op s
  by_cases htarget : op.target s = recordId
  · subst htarget
    rw [if_pos rfl]
    cases hget : (op.exec s).carryRecords.get? (op.target s) with
    | none =>
      rw [exec_of_missing hget]
      exact ⟨h, by rw [sub_self, sub_self]⟩
    | some record =>
      have hmama : s.mamas record.mamaId = some (some customer) := by
        rw [← hstep.mamas]
        exact howned record hget
      obtain ⟨hagrees, hamount⟩ := advances_exec hop h record hget hmama
      rw [hamount, worth_of_get hget]
      refine ⟨⟨hstep.grows.keys h.keys, ?_, ?_, ?_⟩, rfl⟩
      · rw [hstep.grows.customers]
        exact h.customer_mem
      · intro hnone
        rw [hget] at hnone
        cases hnone
      · intro record' hget' _
        rw [hget] at hget'
        cases hget'
        exact hagrees
  · rw [if_neg htarget]
    refine ⟨h.frame hstep (Ne.symm htarget), ?_⟩
    simp only [CarryDb.worth, (hstep.others recordId (Ne.symm htarget)).1, sub_self]

theorem netEffect_eq (ops : List CarryOp) (s : CarryDb) (hops : ∀ op ∈ ops, op.NonNegative)
    (h : Tracks customer recordId s) (howned : Owned customer recordId (run CarryOp.exec ops s)) :
    netEffect customer recordId ops s =
      (run CarryOp.exec ops s).worth recordId - s.worth recordId := by
  induction ops generalizing s with
  | nil => simp [netEffect]
  | cons op ops ih =>
    have hnow : Owned customer recordId (op.exec s) :=
      Owned.before_run ops (op.exec s) howned
    obtain ⟨hnext, hstep⟩ := h.step (hops op (by simp)) hnow
    have hrest := ih (op.exec s) (fun op' hop' => hops op' (List.mem_cons_of_mem _ hop'))
      hnext howned
    rw [netEffect, hstep, hrest, run_cons]
    omega

/-- Carry earnings and wallet agree: after any calls, on this record and on others, the
calls on this one have added its amount if it is confirmed and nothing if it is pending or
cancelled. -/
theorem carry_and_wallet_agree (customer recordId : Nat) (ops : List CarryOp) (s : CarryDb)
    (hops : ∀ op ∈ ops, op.NonNegative) (hkeys : s.wallet.KeysCounted)
    (hcustomer : customer ∈ s.wallet.customers)
    (hnew : s.carryRecords.get? recordId = none)
    (hlog : s.wallet.referred (referalId recordId) = none) (record : CarryRecord)
    (hget : (run CarryOp.exec ops s).carryRecords.get? recordId = some record)
    (hmama : s.mamas record.mamaId = some (some customer)) :
    netEffect customer recordId ops s =
      if record.status = .confirmed then record.carryNum else 0 := by
  have hmamas : ∀ (ops : List CarryOp) (s : CarryDb), (run CarryOp.exec ops s).mamas = s.mamas := by
    intro ops
    induction ops with
    | nil => intro s; rfl
    | cons op ops ih => intro s; exact (ih (op.exec s)).trans (stepOn_exec op s).mamas
  have htracks : Tracks customer recordId s := by
    refine ⟨hkeys, hcustomer, fun _ => hlog, fun record' hget' => ?_⟩
    rw [hnew] at hget'
    cases hget'
  have howned : Owned customer recordId (run CarryOp.exec ops s) := by
    intro record' hget'
    rw [hget] at hget'
    cases hget'
    rw [hmamas]
    exact hmama
  have hstart : s.worth recordId = 0 := by simp [CarryDb.worth, hnew]
  rw [netEffect_eq ops s hops htracks howned, hstart, worth_of_get hget, sub_zero]
  rfl

end

def newMama : CarryDb where
  carryRecords := Table.empty
  mamas := fun mama => if mama = 3 then some (some 1) else none
  wallet := ⟨[1], fun _ => none, Table.empty⟩

def earning (carryNum : Int) (uniKey : String) : CarryRecord.CreateArgs where
  mamaId := 3
  carryNum := carryNum
  carryType := .order
  desc := ""
  uniKey := some uniKey
  status := some .pending

def twoEarnings : List CarryOp :=
  [.create ⟨"2016-11-01"⟩ (earning 100 "order-1"), .create ⟨"2016-11-01"⟩ (earning 7 "order-2"),
    .changePendingCarryAmount ⟨"2016-11-02"⟩ 1 80, .cancel ⟨"2016-11-02"⟩ 2,
    .confirm ⟨"2016-11-03"⟩ 1]

theorem confirmed_earning_in_wallet : netEffect 1 1 twoEarnings newMama = 80 :=
  carry_and_wallet_agree 1 1 twoEarnings newMama
    (by decide) (fun _ hlog => absurd hlog List.not_mem_nil) (by decide) rfl rfl
    { id := 1, mamaId := 3, carryNum := 80, carryType := .order, carryDescription := "",
      dateField := ⟨"2016-11-01"⟩, uniKey := "order-1", status := .confirmed }
    (by decide) rfl

end ShopManager.Mama
