import ShopManager.Pay.Wallet.Model

/-!
# What the wallet methods do

Each method in closed form: the exception or the value, and the one row of the
wallet and the one log that it writes.
-/

namespace ShopManager.Pay.Wallet

open Library Library.Tx UserBudget

namespace WalletDb

@[simp] theorem customers_setBudget (s : WalletDb) (c : Nat) (b : UserBudget) :
    (s.setBudget c b).customers = s.customers := rfl

@[simp] theorem budgetLogs_setBudget (s : WalletDb) (c : Nat) (b : UserBudget) :
    (s.setBudget c b).budgetLogs = s.budgetLogs := rfl

@[simp] theorem userBudgets_setBudget (s : WalletDb) (c : Nat) (b : UserBudget) :
    (s.setBudget c b).userBudgets c = some b := by
  simp [setBudget]

@[simp] theorem budget_setBudget (s : WalletDb) (c : Nat) (b : UserBudget) :
    (s.setBudget c b).budget c = b := by
  simp [budget]

theorem budget_setBudget_of_ne (s : WalletDb) {c c' : Nat} (h : c' ≠ c)
    (b : UserBudget) : (s.setBudget c b).budget c' = s.budget c' := by
  simp [budget, setBudget, Function.update_of_ne h]

@[simp] theorem setBudget_setBudget (s : WalletDb) (c : Nat) (b b' : UserBudget) :
    (s.setBudget c b).setBudget c b' = s.setBudget c b' := by
  simp [setBudget]

@[simp] theorem keyTaken_setBudget (s : WalletDb) (c : Nat) (b : UserBudget)
    (key : Option String) : (s.setBudget c b).keyTaken key = s.keyTaken key := rfl

def post (s : WalletDb) (customer : Nat) (change : Column → Option Int)
    (budgetLogs : Table BudgetLog) : WalletDb :=
  { s.setBudget customer (s.budget customer + RowObject.moved change) with
    budgetLogs := budgetLogs }

@[simp] theorem customers_post (s : WalletDb) (c : Nat) (change : Column → Option Int)
    (logs : Table BudgetLog) : (s.post c change logs).customers = s.customers := rfl

@[simp] theorem budgetLogs_post (s : WalletDb) (c : Nat) (change : Column → Option Int)
    (logs : Table BudgetLog) : (s.post c change logs).budgetLogs = logs := rfl

@[simp] theorem budget_post (s : WalletDb) (c : Nat) (change : Column → Option Int)
    (logs : Table BudgetLog) :
    (s.post c change logs).budget c = s.budget c + RowObject.moved change := by
  simp [post, budget]

theorem budget_post_of_ne (s : WalletDb) {c c' : Nat} (h : c' ≠ c)
    (change : Column → Option Int) (logs : Table BudgetLog) :
    (s.post c change logs).budget c' = s.budget c' :=
  budget_setBudget_of_ne s h _

end WalletDb

/-! ## The assigned columns -/

def incomeChange (delta : Int) : Column → Option Int
  | .amount => some delta
  | .totalIncome => some delta
  | .totalExpense => none

def expenseChange (delta : Int) : Column → Option Int
  | .amount => some (-delta)
  | .totalIncome => none
  | .totalExpense => some delta

def noChange : Column → Option Int := fun _ => none

def createChange (budgetType : BudgetType) (status : Status) (flowAmount : Int) :
    Column → Option Int :=
  match budgetType with
  | .budgetIn => if status = .confirmed then incomeChange flowAmount else noChange
  | .budgetOut => expenseChange flowAmount

def confirmChange (log : BudgetLog) : Column → Option Int :=
  match log.budgetType with
  | .budgetIn =>
      if log.status = .pending ∨ log.status = .canceled then
        incomeChange log.flowAmount
      else noChange
  | .budgetOut =>
      if log.status = .canceled then expenseChange log.flowAmount else noChange

def cancelChange (log : BudgetLog) : Column → Option Int :=
  match log.budgetType with
  | .budgetIn =>
      if log.status = .confirmed then incomeChange (-log.flowAmount) else noChange
  | .budgetOut =>
      if log.status = .confirmed ∨ log.status = .pending then
        expenseChange (-log.flowAmount)
      else noChange

theorem assign_incomeChange (delta : Int) (obj : Object) :
    RowObject.assign (incomeChange delta) obj =
      (obj.assignF .amount delta).assignF .totalIncome delta := by
  funext column
  cases column <;> simp [RowObject.assign, RowObject.assignF, incomeChange]

theorem assign_expenseChange (delta : Int) (obj : Object) :
    RowObject.assign (expenseChange delta) obj =
      (obj.assignF .amount (-delta)).assignF .totalExpense delta := by
  funext column
  cases column <;> simp [RowObject.assign, RowObject.assignF, expenseChange]

theorem assign_noChange (obj : Object) : RowObject.assign noChange obj = obj := rfl

@[simp] theorem moved_noChange : RowObject.moved noChange = 0 := rfl

theorem createAssign_eq (budgetType : BudgetType) (status : Status)
    (flowAmount : Int) :
    BudgetLog.createAssign budgetType status flowAmount =
      RowObject.assign (createChange budgetType status flowAmount) := by
  funext obj
  cases budgetType
  · by_cases h : status = .confirmed
    · simp only [BudgetLog.createAssign, createChange, if_pos h, assign_incomeChange]
    · simp only [BudgetLog.createAssign, createChange, if_neg h, assign_noChange]
  · simp only [BudgetLog.createAssign, createChange, assign_expenseChange]

theorem confirmAssign_eq (log : BudgetLog) :
    BudgetLog.confirmAssign log = RowObject.assign (confirmChange log) := by
  funext obj
  cases h : log.budgetType
  · by_cases hs : log.status = .pending ∨ log.status = .canceled
    · simp only [BudgetLog.confirmAssign, confirmChange, h, if_pos hs,
        assign_incomeChange]
    · simp only [BudgetLog.confirmAssign, confirmChange, h, if_neg hs,
        assign_noChange]
  · by_cases hs : log.status = .canceled
    · simp only [BudgetLog.confirmAssign, confirmChange, h, if_pos hs,
        assign_expenseChange]
    · simp only [BudgetLog.confirmAssign, confirmChange, h, if_neg hs,
        assign_noChange]

theorem cancelAssign_eq (log : BudgetLog) :
    BudgetLog.cancelAssign log = RowObject.assign (cancelChange log) := by
  funext obj
  cases h : log.budgetType
  · by_cases hs : log.status = .confirmed
    · simp only [BudgetLog.cancelAssign, cancelChange, h, if_pos hs,
        assign_incomeChange]
    · simp only [BudgetLog.cancelAssign, cancelChange, h, if_neg hs, assign_noChange]
  · by_cases hs : log.status = .confirmed ∨ log.status = .pending
    · simp only [BudgetLog.cancelAssign, cancelChange, h, if_pos hs,
        assign_expenseChange, neg_neg]
    · simp only [BudgetLog.cancelAssign, cancelChange, h, if_neg hs, assign_noChange]

/-! ## The methods -/

namespace BudgetLog

/-- The key of a log that `create` makes. -/
def createKey (s : WalletDb) (today : Date) (args : CreateArgs) : String :=
  match args.uniKey.filter fun key => key ≠ "" with
  | some key => key
  | none =>
      let count := (s.budgetLogs.filter fun log =>
        log.customerId = args.customerId ∧ log.budgetType = args.budgetType ∧
          log.budgetLogType = args.budgetLogType ∧ log.budgetDate = today).length
      args.budgetLogType.code ++ "-" ++ toString args.budgetType.code ++ "-" ++
        toString args.customerId ++ "-" ++ toString (count + 1) ++ "|" ++
        today.isoformat

def CreateArgs.change (args : CreateArgs) : Column → Option Int :=
  createChange args.budgetType (args.status.getD .confirmed) args.flowAmount

/-- The log that `create` makes. -/
def createdLog (s : WalletDb) (today : Date) (args : CreateArgs) : BudgetLog where
  id := 0
  customerId := args.customerId
  flowAmount := args.flowAmount
  balance := (s.budget args.customerId + RowObject.moved args.change) .amount
  budgetType := args.budgetType
  budgetLogType := args.budgetLogType
  budgetDate := args.budgetDate.getD today
  referalId := args.referalId
  status := args.status.getD .confirmed
  uniKey := some (createKey s today args)

/-- Why `create` raises, if it does. -/
def createError (s : WalletDb) (today : Date) (args : CreateArgs) : Option Exn :=
  if args.customerId ∉ s.customers then some .doesNotExist
  else if args.status.getD .confirmed = .canceled then
    some (.exception "取消状态不予创建!")
  else if s.keyTaken (some (createKey s today args)) then some .integrityError
  else none

theorem insert_run (log : BudgetLog) (s : WalletDb) :
    (insert log).run s = if s.keyTaken log.uniKey then (.error .integrityError, s)
      else (.ok (s.budgetLogs.stored log),
        { s with budgetLogs := s.budgetLogs.insert log }) := by
  unfold insert
  rw [gets_bind_run, raiseIf_bind_run]
  rfl

theorem getOrCreate_run (customer : Nat) (s : WalletDb) :
    ∃ s', (getOrCreate customer).run s =
        (.ok (RowObject.load (s.budget customer)), s') ∧
      s'.budget customer = s.budget customer ∧
      ∀ b, s'.setBudget customer b = s.setBudget customer b := by
  unfold getOrCreate
  simp only [modify_bind_run, gets_run]
  split
  · exact ⟨s, rfl, rfl, fun _ => rfl⟩
  · next h =>
    have hnone : s.userBudgets customer = none := by simpa using h
    have hbudget : s.budget customer = 0 := by simp [WalletDb.budget, hnone]
    refine ⟨s.setBudget customer 0, ?_, ?_, fun _ => by simp⟩
    · rw [WalletDb.budget_setBudget, hbudget]
    · rw [WalletDb.budget_setBudget, hbudget]

theorem uniKeyOrGen_run (today : Date) (args : CreateArgs) (s : WalletDb) :
    (uniKeyOrGen today args).run s = (.ok (createKey s today args), s) := by
  unfold uniKeyOrGen createKey
  cases args.uniKey.filter fun key => key ≠ "" <;> rfl

theorem find_customer (s : WalletDb) (c : Nat) :
    (s.customers.find? fun id => decide (id = c)) =
      if c ∈ s.customers then some c else none := by
  split
  · next hc =>
    cases hfind : s.customers.find? fun id => decide (id = c) with
    | none => simpa using List.find?_eq_none.1 hfind c hc
    | some id => simpa using List.find?_some hfind
  · next hc =>
    apply List.find?_eq_none.2
    intro id hid
    have hne : id ≠ c := fun h => hc (h ▸ hid)
    simpa using hne

theorem create_run (today : Date) (args : CreateArgs) (s : WalletDb) :
    (create today args).run s = match createError s today args with
      | some e => (.error e, s)
      | none =>
        (.ok (s.budgetLogs.stored (createdLog s today args)),
          s.post args.customerId args.change
            (s.budgetLogs.insert (createdLog s today args))) := by
  unfold create createError
  rw [getOr_bind_run, find_customer]
  by_cases hc : args.customerId ∈ s.customers
  · simp only [if_pos hc, if_neg (not_not_intro hc)]
    rw [bind_ok (uniKeyOrGen_run today args s), raiseIf_bind_run]
    by_cases hst : args.status.getD .confirmed = .canceled
    · simp only [if_pos hst]
    · simp only [if_neg hst]
      obtain ⟨s', hget, hbudget, hset⟩ := getOrCreate_run args.customerId s
      by_cases htaken : s.keyTaken (some (createKey s today args)) = true
      · simp only [if_pos htaken]
        apply atomic_error
        rw [bind_ok hget, createAssign_eq, UserBudget.save, modify_bind_run, hbudget,
          RowObject.store_assign_load, hset, UserBudget.get, getOr_bind_run,
          WalletDb.userBudgets_setBudget]
        simp only [insert_run, WalletDb.keyTaken_setBudget, htaken, if_true]
        rfl
      · rw [Bool.not_eq_true] at htaken
        simp only [htaken, Bool.false_eq_true, if_false]
        apply atomic_ok
        rw [bind_ok hget, createAssign_eq, UserBudget.save, modify_bind_run, hbudget,
          RowObject.store_assign_load, hset, UserBudget.get, getOr_bind_run,
          WalletDb.userBudgets_setBudget]
        simp only [insert_run, WalletDb.keyTaken_setBudget, htaken, Bool.false_eq_true,
          if_false]
        rfl
  · simp only [if_neg hc, if_pos hc]

theorem settle_run (log : BudgetLog) (change : Column → Option Int) (status : Status)
    (s : WalletDb) :
    (settle log (RowObject.assign change) status).run s =
      match s.userBudgets log.customerId with
      | none => (.error .doesNotExist, s)
      | some _ =>
        (.ok true, s.post log.customerId change
          (s.budgetLogs.save
            { log with
              balance := (s.budget log.customerId + RowObject.moved change) .amount
              status := status })) := by
  unfold settle
  rw [UserBudget.get, getOr_bind_run]
  cases hget : s.userBudgets log.customerId with
  | none => rfl
  | some budget =>
    have hbudget : s.budget log.customerId = budget := by
      simp [WalletDb.budget, hget]
    have hatomic : (atomic (do
          UserBudget.save log.customerId
            (RowObject.assign change (RowObject.load budget))
          let ub ← UserBudget.get log.customerId
          save { log with balance := ub .amount, status := status })).run s =
        (.ok (), s.post log.customerId change
          (s.budgetLogs.save
            { log with
              balance := (s.budget log.customerId + RowObject.moved change) .amount
              status := status })) := by
      apply atomic_ok
      rw [UserBudget.save, modify_bind_run, hbudget, RowObject.store_assign_load,
        UserBudget.get, getOr_bind_run, WalletDb.userBudgets_setBudget]
      simp only [save, modify_run, WalletDb.post, hbudget]
      rfl
    exact bind_ok hatomic

theorem confirmBudgetLog_run (log : BudgetLog) (s : WalletDb) :
    (confirmBudgetLog log).run s =
      if log.status = .confirmed then (.ok false, s)
      else (settle log (RowObject.assign (confirmChange log)) .confirmed).run s := by
  unfold confirmBudgetLog
  rw [confirmAssign_eq]
  split <;> rfl

theorem cancelBudgetLog_run (log : BudgetLog) (s : WalletDb) :
    (cancelBudgetLog log).run s =
      if log.status = .canceled then (.ok false, s)
      else (settle log (RowObject.assign (cancelChange log)) .canceled).run s := by
  unfold cancelBudgetLog
  rw [cancelAssign_eq]
  split <;> rfl

theorem chnagePedingIncomeAmount_run (log : BudgetLog) (newAmount : Int)
    (s : WalletDb) :
    (chnagePedingIncomeAmount log newAmount).run s =
      if log.status ≠ .pending ∨ log.budgetType ≠ .budgetIn then (.ok (), s)
      else (.ok (), { s with
        budgetLogs := s.budgetLogs.save { log with flowAmount := newAmount } }) := by
  unfold chnagePedingIncomeAmount
  split <;> rfl

end BudgetLog

namespace UserBudget

open BudgetLog

/-- The arguments with which `charge_pending` creates its log. -/
def chargePendingArgs (customer strade : Nat) (payment : Int) : CreateArgs where
  customerId := customer
  budgetType := .budgetOut
  flowAmount := payment
  budgetLogType := .consum
  budgetDate := none
  referalId := toString strade
  status := some .pending
  uniKey := some ("st_" ++ toString strade)

theorem chargePending_run (today : Date) (customer strade : Nat) (payment : Int)
    (s : WalletDb) :
    (chargePending today customer strade payment).run s =
      match s.budgetLogs.filter (isConsum customer strade) with
      | [] =>
        let created := (create today (chargePendingArgs customer strade payment)).run s
        (created.1.map fun _ => true, created.2)
      | [_] => (.ok true, s)
      | _ => (.error .multipleObjectsReturned, s) := by
  unfold chargePending
  rw [gets_bind_run]
  rcases s.budgetLogs.filter (isConsum customer strade) with _ | ⟨blog, _ | ⟨_, _⟩⟩
  · exact bind_pure_run _ _ _
  · rfl
  · rfl

theorem chargeConfirm_run (customer strade : Nat) (s : WalletDb) :
    (chargeConfirm customer strade).run s =
      match s.budgetLogs.first (isConsum customer strade) with
      | none => (.ok false, s)
      | some blog =>
        (confirmBudgetLog
          (if blog.status = .canceled then { blog with status := .pending }
            else blog)).run s := by
  unfold chargeConfirm
  rw [gets_bind_run]
  cases s.budgetLogs.first (isConsum customer strade) <;> rfl

theorem chargeCancel_run (customer strade : Nat) (s : WalletDb) :
    (chargeCancel customer strade).run s =
      match s.budgetLogs.first (isConsum customer strade) with
      | none => (.ok none, s)
      | some blog =>
        (((cancelBudgetLog blog).run s).1.map some, ((cancelBudgetLog blog).run s).2) := by
  unfold chargeCancel
  rw [gets_bind_run]
  cases s.budgetLogs.first (isConsum customer strade) with
  | none => rfl
  | some blog => exact bind_pure_run _ _ _

theorem customerId_of_first {s : WalletDb} {customer strade : Nat} {blog : BudgetLog}
    (h : s.budgetLogs.first (isConsum customer strade) = some blog) :
    blog.customerId = customer := by
  have hspec := Table.first_spec h
  simp only [isConsum, decide_eq_true_eq] at hspec
  exact hspec.1

def settledLog (s : WalletDb) (blog : BudgetLog) (change : Column → Option Int)
    (status : Status) : BudgetLog :=
  { blog with
    balance := (s.budget blog.customerId + RowObject.moved change) .amount
    status := status }

def pendingLog (blog : BudgetLog) : BudgetLog := { blog with status := .pending }

theorem chargeConfirm_cases {customer : Nat} {s : WalletDb} (strade : Nat)
    (hwallet : (s.userBudgets customer).isSome = true) :
    (chargeConfirm customer strade).run s = (.ok false, s) ∨
      ∃ blog, s.budgetLogs.first (isConsum customer strade) = some blog ∧
        blog.status ≠ .confirmed ∧
        (chargeConfirm customer strade).run s =
          (.ok true, s.post customer (confirmChange (pendingLog blog))
            (s.budgetLogs.save
              (settledLog s blog (confirmChange (pendingLog blog)) .confirmed))) := by
  rw [chargeConfirm_run]
  cases hfirst : s.budgetLogs.first (isConsum customer strade) with
  | none => exact Or.inl rfl
  | some blog =>
    obtain ⟨budget, hbudget⟩ := Option.isSome_iff_exists.1 hwallet
    have hcustomer := customerId_of_first hfirst
    by_cases hstatus : blog.status = .confirmed
    · left
      simp only [hstatus, reduceCtorEq, if_false, confirmBudgetLog_run, if_true]
    · right
      refine ⟨blog, rfl, hstatus, ?_⟩
      have hpending : (if blog.status = .canceled then { blog with status := .pending }
          else blog) = pendingLog blog := by
        cases blog with
        | mk id customerId flowAmount balance budgetType logType date referal status key =>
          cases status
          · exact absurd rfl hstatus
          · rfl
          · rfl
      have hnot : (pendingLog blog).status ≠ .confirmed := by simp [pendingLog]
      have hid : (pendingLog blog).customerId = customer := hcustomer
      show (confirmBudgetLog (if blog.status = .canceled then
        { blog with status := .pending } else blog)).run s = _
      rw [hpending, confirmBudgetLog_run, if_neg hnot, settle_run, hid, hbudget,
        settledLog, hcustomer]
      rfl

theorem chargeCancel_cases {customer : Nat} {s : WalletDb} (strade : Nat)
    (hwallet : (s.userBudgets customer).isSome = true) :
    (∃ r, r ≠ some true ∧ (chargeCancel customer strade).run s = (.ok r, s)) ∨
      ∃ blog, s.budgetLogs.first (isConsum customer strade) = some blog ∧
        blog.status ≠ .canceled ∧
        (chargeCancel customer strade).run s =
          (.ok (some true), s.post customer (cancelChange blog)
            (s.budgetLogs.save (settledLog s blog (cancelChange blog) .canceled))) := by
  rw [chargeCancel_run]
  cases hfirst : s.budgetLogs.first (isConsum customer strade) with
  | none => exact Or.inl ⟨none, by decide, rfl⟩
  | some blog =>
    obtain ⟨budget, hbudget⟩ := Option.isSome_iff_exists.1 hwallet
    have hcustomer := customerId_of_first hfirst
    by_cases hstatus : blog.status = .canceled
    · left
      refine ⟨some false, by decide, ?_⟩
      simp only [hstatus, cancelBudgetLog_run, if_true]
      rfl
    · right
      refine ⟨blog, rfl, hstatus, ?_⟩
      simp only [cancelBudgetLog_run, if_neg hstatus, settle_run, hcustomer, hbudget,
        settledLog]
      rfl

end UserBudget

end ShopManager.Pay.Wallet
