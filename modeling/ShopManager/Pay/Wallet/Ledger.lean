import ShopManager.Library.Execution
import ShopManager.Pay.Wallet.Spec

/-!
# The wallet ledger

A wallet row is a running total of the customer's logs.  The difference
between the two is followed through every operation: all of them keep it but
one, the confirmation of a trade whose cancelled payment log is revived, which
moves the log and not the wallet.
-/

namespace ShopManager.Pay.Wallet

open Library Library.Tx Library.Execution BudgetLog UserBudget

/-! ## Operations -/

inductive WalletOp where
  | create (today : Date) (args : CreateArgs)
  | chargePending (today : Date) (customer strade : Nat) (payment : Int)
  | chargeConfirm (customer strade : Nat)
  | chargeCancel (customer strade : Nat)
  | confirmBudgetLog (logId : Nat)
  | cancelBudgetLog (logId : Nat)
  | chnagePedingIncomeAmount (logId : Nat) (newAmount : Int)

def onLog {α : Type} (logId : Nat) (method : BudgetLog → WalletTx α) : WalletTx α := do
  let log ← getOr .doesNotExist fun s => s.budgetLogs.get? logId
  method log

namespace WalletOp

def exec : WalletOp → WalletDb → WalletDb
  | create today args, s => ((BudgetLog.create today args).run s).2
  | chargePending today customer strade payment, s =>
      ((UserBudget.chargePending today customer strade payment).run s).2
  | chargeConfirm customer strade, s =>
      ((UserBudget.chargeConfirm customer strade).run s).2
  | chargeCancel customer strade, s =>
      ((UserBudget.chargeCancel customer strade).run s).2
  | confirmBudgetLog logId, s => ((onLog logId BudgetLog.confirmBudgetLog).run s).2
  | cancelBudgetLog logId, s => ((onLog logId BudgetLog.cancelBudgetLog).run s).2
  | chnagePedingIncomeAmount logId newAmount, s =>
      ((onLog logId fun log => log.chnagePedingIncomeAmount newAmount).run s).2

end WalletOp

namespace WalletDb

def incomeTotal (s : WalletDb) (customer : Nat) : Int :=
  s.budgetLogs.sum fun log =>
    if log.customerId = customer ∧ log.budgetType = .budgetIn ∧
        log.status = .confirmed then log.flowAmount else 0

def expenseTotal (s : WalletDb) (customer : Nat) : Int :=
  s.budgetLogs.sum fun log =>
    if log.customerId = customer ∧ log.budgetType = .budgetOut ∧
        log.status ≠ .canceled then log.flowAmount else 0

structure LedgerInvariant (customer : Nat) (s : WalletDb) : Prop where
  amount : s.budget customer .amount =
    s.incomeTotal customer - s.expenseTotal customer
  totalIncome : s.budget customer .totalIncome = s.incomeTotal customer
  totalExpense : s.budget customer .totalExpense = s.expenseTotal customer

end WalletDb

def BudgetLog.entry (log : BudgetLog) : UserBudget :=
  match log.budgetType with
  | .budgetIn =>
      if log.status = .confirmed then RowObject.moved (incomeChange log.flowAmount)
      else 0
  | .budgetOut =>
      if log.status = .canceled then 0
      else RowObject.moved (expenseChange log.flowAmount)

def WalletDb.ledger (s : WalletDb) (customer : Nat) : UserBudget :=
  s.budgetLogs.sum fun log => if log.customerId = customer then log.entry else 0

def WalletDb.deviation (s : WalletDb) (customer : Nat) : UserBudget :=
  s.budget customer - s.ledger customer

theorem ledger_apply (s : WalletDb) (c : Nat) (column : Column) :
    s.ledger c column =
      s.budgetLogs.sum fun log => if log.customerId = c then log.entry column else 0 := by
  rw [WalletDb.ledger, Table.sum_apply]
  apply Table.sum_congr
  intro log _
  split <;> rfl

theorem ledger_totalIncome (s : WalletDb) (c : Nat) :
    s.ledger c .totalIncome = s.incomeTotal c := by
  rw [ledger_apply]
  apply Table.sum_congr
  intro log _
  cases hb : log.budgetType <;> cases hs : log.status <;>
    simp [BudgetLog.entry, hb, hs, RowObject.moved, incomeChange, expenseChange]

theorem ledger_totalExpense (s : WalletDb) (c : Nat) :
    s.ledger c .totalExpense = s.expenseTotal c := by
  rw [ledger_apply]
  apply Table.sum_congr
  intro log _
  cases hb : log.budgetType <;> cases hs : log.status <;>
    simp [BudgetLog.entry, hb, hs, RowObject.moved, incomeChange, expenseChange]

theorem ledger_amount (s : WalletDb) (c : Nat) :
    s.ledger c .amount = s.incomeTotal c - s.expenseTotal c := by
  have hsum : s.ledger c .amount + s.ledger c .totalExpense =
      s.ledger c .totalIncome := by
    simp only [ledger_apply, ← Table.sum_add]
    apply Table.sum_congr
    intro log _
    cases hb : log.budgetType <;> cases hs : log.status <;>
      by_cases hc : log.customerId = c <;>
      simp [BudgetLog.entry, hb, hs, hc, RowObject.moved, incomeChange, expenseChange]
  rw [ledger_totalExpense, ledger_totalIncome] at hsum
  omega

variable {s : WalletDb} {c : Nat}

theorem ledgerInvariant_iff :
    s.LedgerInvariant c ↔ s.deviation c = 0 := by
  rw [WalletDb.deviation, sub_eq_zero]
  constructor
  · intro h
    funext column
    cases column
    · rw [h.amount, ledger_amount]
    · rw [h.totalIncome, ledger_totalIncome]
    · rw [h.totalExpense, ledger_totalExpense]
  · intro h
    exact ⟨by rw [h, ledger_amount], by rw [h, ledger_totalIncome],
      by rw [h, ledger_totalExpense]⟩

theorem deviation_post {customer : Nat}
    (change : Column → Option Int) {logs : Table BudgetLog} {entry : UserBudget}
    (hlogs : (logs.sum fun log => if log.customerId = c then log.entry else 0) =
      s.ledger c + if customer = c then entry else 0) :
    (s.post customer change logs).deviation c =
      s.deviation c + if customer = c then RowObject.moved change - entry else 0 := by
  have hledger : (s.post customer change logs).ledger c =
      s.ledger c + if customer = c then entry else 0 := hlogs
  unfold WalletDb.deviation
  rw [hledger]
  by_cases hc : customer = c
  · subst hc
    simp only [WalletDb.budget_post, if_true]
    abel
  · rw [WalletDb.budget_post_of_ne s (Ne.symm hc)]
    simp only [if_neg hc]
    abel

theorem ledger_insert (s : WalletDb) (c : Nat) (log : BudgetLog) :
    ((s.budgetLogs.insert log).sum fun log => if log.customerId = c then log.entry
      else 0) = s.ledger c + if log.customerId = c then log.entry else 0 := by
  rw [Table.sum_insert]
  rfl

theorem ledger_save {old : BudgetLog} (new : BudgetLog) (c : Nat)
    (hold : old ∈ s.budgetLogs) (hid : old.id = new.id)
    (hcustomer : old.customerId = new.customerId) :
    ((s.budgetLogs.save new).sum fun log => if log.customerId = c then log.entry
      else 0) =
      s.ledger c + if new.customerId = c then new.entry - old.entry else 0 := by
  rw [Table.sum_save hold hid, WalletDb.ledger, hcustomer]
  by_cases hc : new.customerId = c
  · simp only [if_pos hc]
    abel
  · simp only [if_neg hc]
    abel

theorem entry_createdLog {today : Date} {args : CreateArgs}
    (h : args.status.getD .confirmed ≠ .canceled) :
    (createdLog s today args).entry = RowObject.moved args.change := by
  unfold BudgetLog.entry CreateArgs.change createChange createdLog
  cases args.budgetType
  · by_cases hs : args.status.getD .confirmed = .confirmed
    · simp only [if_pos hs]
    · simp only [if_neg hs, moved_noChange]
  · simp only [if_neg h]

variable {log : BudgetLog}

theorem entry_confirm (h : log.status ≠ .confirmed) (balance : Int) :
    BudgetLog.entry { log with balance := balance, status := .confirmed } =
      log.entry + RowObject.moved (confirmChange log) := by
  cases hb : log.budgetType <;> cases hs : log.status <;>
    simp_all [BudgetLog.entry, confirmChange]

theorem entry_cancel (h : log.status ≠ .canceled) (balance : Int) :
    BudgetLog.entry { log with balance := balance, status := .canceled } =
      log.entry + RowObject.moved (cancelChange log) := by
  have hneg : ∀ change : Int → Column → Option Int,
      (change = incomeChange ∨ change = expenseChange) →
      ∀ delta, RowObject.moved (change (-delta)) = -RowObject.moved (change delta) := by
    rintro change (rfl | rfl) delta <;> funext column <;>
      cases column <;> simp [RowObject.moved, incomeChange, expenseChange]
  cases hb : log.budgetType <;> cases hs : log.status <;>
    simp_all [BudgetLog.entry, cancelChange]

theorem deviation_create (c : Nat) (today : Date) (args : CreateArgs) (s : WalletDb) :
    ((create today args).run s).2.deviation c = s.deviation c := by
  rw [create_run]
  cases herror : createError s today args with
  | some e => rfl
  | none =>
    have hstatus : args.status.getD .confirmed ≠ .canceled := by
      intro h
      simp only [createError, h, if_true] at herror
      split at herror <;> cases herror
    have hpost := deviation_post args.change
      (ledger_insert s c (createdLog s today args))
    rw [entry_createdLog hstatus] at hpost
    simp only [sub_self, ite_self, add_zero] at hpost
    exact hpost

theorem deviation_settle {old : BudgetLog}
    {change : Column → Option Int} {status : Status} (hold : old ∈ s.budgetLogs)
    (hid : old.id = log.id) (hcustomer : old.customerId = log.customerId)
    (hentry : ∀ balance, BudgetLog.entry { log with balance := balance, status := status } =
      old.entry + RowObject.moved change) :
    ((settle log (RowObject.assign change) status).run s).2.deviation c =
      s.deviation c := by
  rw [settle_run]
  cases s.userBudgets log.customerId with
  | none => rfl
  | some budget =>
    have hpost := deviation_post change
      (ledger_save { log with
          balance := (s.budget log.customerId + RowObject.moved change) .amount
          status := status } c hold hid hcustomer)
    rw [hentry] at hpost
    simp only [add_sub_cancel_left, sub_self, ite_self, add_zero] at hpost
    exact hpost

theorem deviation_confirmBudgetLog (h : log ∈ s.budgetLogs) :
    ((log.confirmBudgetLog).run s).2.deviation c = s.deviation c := by
  rw [confirmBudgetLog_run]
  split
  · rfl
  · next hs => exact deviation_settle h rfl rfl (entry_confirm hs)

theorem deviation_cancelBudgetLog (h : log ∈ s.budgetLogs) :
    ((log.cancelBudgetLog).run s).2.deviation c = s.deviation c := by
  rw [cancelBudgetLog_run]
  split
  · rfl
  · next hs => exact deviation_settle h rfl rfl (entry_cancel hs)

theorem deviation_chnagePedingIncomeAmount (h : log ∈ s.budgetLogs) (newAmount : Int) :
    ((log.chnagePedingIncomeAmount newAmount).run s).2.deviation c =
      s.deviation c := by
  rw [chnagePedingIncomeAmount_run]
  split
  · rfl
  · next hguard =>
    -- a pending income does not count, whatever its amount
    obtain ⟨hs, hb⟩ : log.status = .pending ∧ log.budgetType = .budgetIn := by
      simpa [not_or] using hguard
    have hledger := ledger_save { log with flowAmount := newAmount } c h rfl rfl
    have hentry : BudgetLog.entry { log with flowAmount := newAmount } = log.entry := by
      simp [BudgetLog.entry, hs, hb]
    rw [hentry, sub_self, ite_self, add_zero] at hledger
    unfold WalletDb.deviation
    exact congrArg (s.budget c - ·) hledger

theorem deviation_chargePending (c : Nat) (today : Date) (customer strade : Nat)
    (payment : Int) (s : WalletDb) :
    ((chargePending today customer strade payment).run s).2.deviation c =
      s.deviation c := by
  rw [chargePending_run]
  rcases s.budgetLogs.filter (isConsum customer strade) with _ | ⟨_, _ | ⟨_, _⟩⟩
  · exact deviation_create c today _ s
  · rfl
  · rfl

theorem deviation_chargeCancel (c customer strade : Nat) (s : WalletDb) :
    ((chargeCancel customer strade).run s).2.deviation c = s.deviation c := by
  rw [chargeCancel_run]
  cases hfirst : s.budgetLogs.first (isConsum customer strade) with
  | none => rfl
  | some blog => exact deviation_cancelBudgetLog (Table.mem_of_first hfirst)

theorem deviation_onLog {α : Type} (c logId : Nat) {method : BudgetLog → WalletTx α}
    (h : ∀ log ∈ s.budgetLogs, ((method log).run s).2.deviation c = s.deviation c) :
    ((onLog logId method).run s).2.deviation c = s.deviation c := by
  unfold onLog
  rw [getOr_bind_run]
  cases hget : s.budgetLogs.get? logId with
  | none => rfl
  | some log => exact h log (Table.get?_eq_some.1 hget).1

/-- The operation confirms a trade of this customer whose payment log, an
expense of some amount, is cancelled. -/
def revivesCanceled (customer : Nat) (s : WalletDb) : WalletOp → Bool
  | .chargeConfirm user strade =>
      user = customer && (s.budgetLogs.first (isConsum user strade)).any fun blog =>
        blog.status = .canceled ∧ blog.budgetType = .budgetOut ∧ blog.flowAmount ≠ 0
  | _ => false

def HasWallet (customer : Nat) (s : WalletDb) : Prop :=
  ∀ log ∈ s.budgetLogs, log.customerId = customer → (s.userBudgets customer).isSome

def BudgetLog.undebited (blog : BudgetLog) : UserBudget :=
  match blog.budgetType with
  | .budgetIn => 0
  | .budgetOut => RowObject.moved (expenseChange blog.flowAmount)

theorem undebited_eq_zero {blog : BudgetLog} :
    blog.undebited = 0 ↔ blog.budgetType = .budgetIn ∨ blog.flowAmount = 0 := by
  cases hb : blog.budgetType with
  | budgetIn => simp [BudgetLog.undebited, hb]
  | budgetOut =>
    simp only [BudgetLog.undebited, hb, reduceCtorEq, false_or]
    constructor
    · intro h
      exact congrFun h .totalExpense
    · intro h
      funext column
      cases column <;> simp [RowObject.moved, expenseChange, h]

theorem deviation_revived {blog : BudgetLog} (c : Nat)
    (h : blog ∈ s.budgetLogs) (hs : blog.status = .canceled)
    (hwallet : (s.userBudgets blog.customerId).isSome) :
    ((BudgetLog.confirmBudgetLog { blog with status := .pending }).run s).2.deviation
        c = s.deviation c - if blog.customerId = c then blog.undebited else 0 := by
  obtain ⟨budget, hbudget⟩ := Option.isSome_iff_exists.1 hwallet
  rw [confirmBudgetLog_run, settle_run]
  simp only [hbudget, reduceCtorEq, if_false]
  have hpost := deviation_post (confirmChange { blog with status := .pending })
    (ledger_save { blog with
      balance := (s.budget blog.customerId + RowObject.moved
        (confirmChange { blog with status := .pending })) .amount
      status := .confirmed } c h rfl rfl)
  rw [hpost]
  by_cases hc : blog.customerId = c
  · simp only [if_pos hc]
    cases hb : blog.budgetType with
    | budgetIn => simp [BudgetLog.entry, BudgetLog.undebited, confirmChange, hb, hs]
    | budgetOut =>
      simp [BudgetLog.entry, BudgetLog.undebited, confirmChange, hb, hs,
        sub_eq_add_neg]
  · simp only [if_neg hc, add_zero, sub_zero]

theorem deviation_chargeConfirm {customer strade : Nat} (hwallet : HasWallet c s) :
    ((chargeConfirm customer strade).run s).2.deviation c = s.deviation c ↔
      revivesCanceled c s (.chargeConfirm customer strade) = false := by
  rw [chargeConfirm_run]
  simp only [revivesCanceled]
  cases hfirst : s.budgetLogs.first (isConsum customer strade) with
  | none => simp
  | some blog =>
    have hmem := Table.mem_of_first hfirst
    have hcustomer := customerId_of_first hfirst
    by_cases hs : blog.status = .canceled
    · simp only [if_pos hs]
      by_cases hc : customer = c
      · have hblog : blog.customerId = c := hcustomer.trans hc
        rw [deviation_revived c hmem hs (by rw [hblog]; exact hwallet blog hmem hblog)]
        simp only [if_pos hblog, sub_eq_self, undebited_eq_zero]
        cases hb : blog.budgetType <;> simp [hc, hs, hb]
      · have hblog : blog.customerId ≠ c := by rwa [hcustomer]
        cases hstored : s.userBudgets blog.customerId with
        | none =>
          rw [confirmBudgetLog_run, settle_run]
          simp [hstored, hc]
        | some budget =>
          rw [deviation_revived c hmem hs (by rw [hstored]; rfl)]
          simp [hblog, hc]
    · simp only [if_neg hs]
      simp [deviation_confirmBudgetLog hmem, hs]

/-! ## Runs -/

theorem hasWallet_post {customer : Nat} {change : Column → Option Int}
    {logs : Table BudgetLog} (h : HasWallet c s)
    (hlogs : ∀ log ∈ logs, log.customerId = customer ∨ log ∈ s.budgetLogs) :
    HasWallet c (s.post customer change logs) := by
  intro log hlog hc
  by_cases heq : customer = c
  · subst heq
    simp [WalletDb.post]
  · have hstored : (s.post customer change logs).userBudgets c = s.userBudgets c := by
      simp [WalletDb.post, WalletDb.setBudget, Function.update_of_ne (Ne.symm heq)]
    rw [hstored]
    rcases hlogs log hlog with hnew | hold
    · exact absurd (hnew.symm.trans hc) heq
    · exact h log hold hc

theorem hasWallet_create {today : Date} {args : CreateArgs}
    (h : HasWallet c s) : HasWallet c ((create today args).run s).2 := by
  rw [create_run]
  cases createError s today args with
  | some e => exact h
  | none =>
    apply hasWallet_post h
    intro log hlog
    rcases Table.mem_insert.1 hlog with hold | rfl
    · exact Or.inr hold
    · exact Or.inl rfl

theorem hasWallet_settle {change : Column → Option Int} {status : Status} (h : HasWallet c s) :
    HasWallet c ((settle log (RowObject.assign change) status).run s).2 := by
  rw [settle_run]
  cases s.userBudgets log.customerId with
  | none => exact h
  | some budget =>
    apply hasWallet_post h
    intro log' hlog
    rcases Table.mem_save hlog with rfl | ⟨hold, _⟩
    · exact Or.inl rfl
    · exact Or.inr hold

theorem hasWallet_confirmBudgetLog
    (h : HasWallet c s) : HasWallet c ((confirmBudgetLog log).run s).2 := by
  rw [confirmBudgetLog_run]
  split
  · exact h
  · exact hasWallet_settle h

theorem hasWallet_cancelBudgetLog
    (h : HasWallet c s) : HasWallet c ((cancelBudgetLog log).run s).2 := by
  rw [cancelBudgetLog_run]
  split
  · exact h
  · exact hasWallet_settle h

theorem hasWallet_chnagePedingIncomeAmount
    {newAmount : Int} (hmem : log ∈ s.budgetLogs) (h : HasWallet c s) :
    HasWallet c ((log.chnagePedingIncomeAmount newAmount).run s).2 := by
  rw [chnagePedingIncomeAmount_run]
  split
  · exact h
  · intro log' hlog hc
    rcases Table.mem_save hlog with rfl | ⟨hold, _⟩
    · exact h log hmem hc
    · exact h log' hold hc

theorem hasWallet_exec (s : WalletDb) (op : WalletOp) (h : HasWallet c s) :
    HasWallet c (op.exec s) := by
  have honLog : ∀ {α : Type} (logId : Nat) (method : BudgetLog → WalletTx α),
      (∀ log ∈ s.budgetLogs, HasWallet c ((method log).run s).2) →
      HasWallet c ((onLog logId method).run s).2 := by
    intro α logId method hmethod
    unfold onLog
    rw [getOr_bind_run]
    cases hget : s.budgetLogs.get? logId with
    | none => exact h
    | some log => exact hmethod log (Table.get?_eq_some.1 hget).1
  cases op with
  | create today args => exact hasWallet_create h
  | chargePending today customer strade payment =>
    simp only [WalletOp.exec, chargePending_run]
    rcases s.budgetLogs.filter (isConsum customer strade) with _ | ⟨_, _ | ⟨_, _⟩⟩
    · exact hasWallet_create h
    · exact h
    · exact h
  | chargeConfirm customer strade =>
    simp only [WalletOp.exec, chargeConfirm_run]
    cases s.budgetLogs.first (isConsum customer strade) with
    | none => exact h
    | some blog => exact hasWallet_confirmBudgetLog h
  | chargeCancel customer strade =>
    simp only [WalletOp.exec, chargeCancel_run]
    cases s.budgetLogs.first (isConsum customer strade) with
    | none => exact h
    | some blog => exact hasWallet_cancelBudgetLog h
  | confirmBudgetLog logId =>
    exact honLog logId _ fun log _ => hasWallet_confirmBudgetLog h
  | cancelBudgetLog logId =>
    exact honLog logId _ fun log _ => hasWallet_cancelBudgetLog h
  | chnagePedingIncomeAmount logId newAmount =>
    exact honLog logId _ fun log hmem => hasWallet_chnagePedingIncomeAmount hmem h

theorem deviation_exec (s : WalletDb) (op : WalletOp) (h : HasWallet c s) :
    (op.exec s).deviation c = s.deviation c ↔ revivesCanceled c s op = false := by
  cases op with
  | create today args => simp [WalletOp.exec, deviation_create, revivesCanceled]
  | chargePending today customer strade payment =>
    simp [WalletOp.exec, deviation_chargePending, revivesCanceled]
  | chargeConfirm customer strade => exact deviation_chargeConfirm h
  | chargeCancel customer strade =>
    simp [WalletOp.exec, deviation_chargeCancel, revivesCanceled]
  | confirmBudgetLog logId =>
    have hlog := deviation_onLog c logId
      fun log (hmem : log ∈ s.budgetLogs) => deviation_confirmBudgetLog hmem
    simp [WalletOp.exec, hlog, revivesCanceled]
  | cancelBudgetLog logId =>
    have hlog := deviation_onLog c logId
      fun log (hmem : log ∈ s.budgetLogs) => deviation_cancelBudgetLog hmem
    simp [WalletOp.exec, hlog, revivesCanceled]
  | chnagePedingIncomeAmount logId newAmount =>
    have hlog := deviation_onLog c logId
      fun log (hmem : log ∈ s.budgetLogs) =>
        deviation_chnagePedingIncomeAmount hmem newAmount
    simp [WalletOp.exec, hlog, revivesCanceled]

structure EmptyWallet (customer : Nat) (s : WalletDb) : Prop where
  no_logs : ∀ log ∈ s.budgetLogs, log.customerId ≠ customer
  no_amount : s.budget customer = 0

theorem EmptyWallet.ledgerInvariant (h : EmptyWallet c s) :
    s.LedgerInvariant c := by
  have hledger : s.ledger c = 0 := by
    apply Table.sum_eq_zero
    intro log hlog
    exact if_neg (h.no_logs log hlog)
  rw [ledgerInvariant_iff, WalletDb.deviation, h.no_amount, hledger, sub_zero]

/-- The ledger invariant holds throughout a run exactly when no confirmation of
the run revives a cancelled payment. -/
theorem ledger_invariant_iff (customer : Nat) (ops : List WalletOp) (s : WalletDb)
    (h : EmptyWallet customer s) :
    Throughout WalletOp.exec (WalletDb.LedgerInvariant customer) ops s ↔
      Guarded WalletOp.exec (fun s op => revivesCanceled customer s op = false)
        ops s := by
  have hwallet : HasWallet customer s := fun log hlog hc =>
    absurd hc (h.no_logs log hlog)
  apply throughout_iff_guarded hasWallet_exec _ ops s hwallet h.ledgerInvariant
  intro s op halways hledger
  rw [ledgerInvariant_iff] at hledger ⊢
  rw [← deviation_exec s op halways, hledger]

def newCustomer : WalletDb where
  customers := [1]
  userBudgets := fun _ => none
  budgetLogs := Table.empty

theorem emptyWallet_newCustomer : EmptyWallet 1 newCustomer :=
  ⟨fun log hlog => absurd hlog (by simp [newCustomer, Table.mem_def]), rfl⟩

def income (flowAmount : Int) : CreateArgs where
  customerId := 1
  budgetType := .budgetIn
  flowAmount := flowAmount
  budgetLogType := .refund
  budgetDate := none
  referalId := ""
  status := none
  uniKey := none

/-- 100 come in, a payment of 30 is pending, cancelled and confirmed: the logs
say 70 and the wallet 100. -/
theorem revived_payment_breaks_ledger :
    EmptyWallet 1 newCustomer ∧
      ¬ (run WalletOp.exec
        [.create ⟨"2016-11-01"⟩ (income 100), .chargePending ⟨"2016-11-01"⟩ 1 7 30,
          .chargeCancel 1 7, .chargeConfirm 1 7] newCustomer).LedgerInvariant 1 := by
  refine ⟨emptyWallet_newCustomer, fun h => ?_⟩
  exact absurd h.amount (by decide)

theorem ledger_invariant_of_settled_payment :
    Throughout WalletOp.exec (WalletDb.LedgerInvariant 1)
      [.create ⟨"2016-11-01"⟩ (income 100), .chargePending ⟨"2016-11-01"⟩ 1 7 30,
        .chargeConfirm 1 7, .chargeCancel 1 7, .confirmBudgetLog 2] newCustomer :=
  (ledger_invariant_iff 1 _ newCustomer emptyWallet_newCustomer).2 (by decide)

end ShopManager.Pay.Wallet
