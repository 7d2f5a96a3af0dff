import ShopManager.Basic
import ShopManager.Library.ColumnWrite
import ShopManager.Library.Table
import ShopManager.Library.Transaction

/-!
# The wallet

`UserBudget` holds a customer's balance with the totals of what came in and
went out, `BudgetLog` the movements.  Amounts are in cents.  A log is read,
its object is changed in memory, and the wallet row is saved with `F()`
increments for the columns that the branch assigns.
-/

namespace ShopManager.Pay.Wallet

open Library Library.Tx

inductive UserBudget.Column where
  | amount
  | totalIncome
  | totalExpense
  deriving DecidableEq, Repr

abbrev UserBudget := UserBudget.Column → Int

abbrev UserBudget.Object := RowObject UserBudget.Column Int

inductive BudgetType where
  | budgetIn
  | budgetOut
  deriving DecidableEq, Repr

def BudgetType.code : BudgetType → Nat
  | budgetIn => 0
  | budgetOut => 1

inductive BudgetLogType where
  | envelope | refund | refundPostage | consum | cashout | cashoutFail | mamaCash
  | referalFans | subscribe | exchgOrder | returnCoupon | fandian | click | order
  | award | mamaConsum | returnExchg | carryCancel
  deriving DecidableEq, Repr

def BudgetLogType.code : BudgetLogType → String
  | envelope => "envelop"
  | refund => "refund"
  | refundPostage => "postage"
  | consum => "consum"
  | cashout => "cashout"
  | cashoutFail => "cashfail"
  | mamaCash => "mmcash"
  | referalFans => "rfan"
  | subscribe => "subs"
  | exchgOrder => "exchg"
  | returnCoupon => "rtcoup"
  | fandian => "fandian"
  | click => "click"
  | order => "order"
  | award => "award"
  | mamaConsum => "mmconsum"
  | returnExchg => "rtexchg"
  | carryCancel => "cancel"

inductive Status where
  | confirmed
  | canceled
  | pending
  deriving DecidableEq, Repr

structure BudgetLog where
  id : Nat
  customerId : Nat
  flowAmount : Int
  balance : Int
  budgetType : BudgetType
  budgetLogType : BudgetLogType
  budgetDate : Date
  referalId : String
  status : Status
  uniKey : Option String
  deriving DecidableEq, Repr

instance : Row BudgetLog where
  pk := BudgetLog.id
  withPk n log := { log with id := n }

/-- The tables that the wallet code touches.  `user` is a one-to-one field, so
a wallet row is found by its customer. -/
structure WalletDb where
  customers : List Nat
  userBudgets : Nat → Option UserBudget
  budgetLogs : Table BudgetLog

abbrev WalletTx (α : Type) := Tx WalletDb Exn α

namespace WalletDb

def setBudget (s : WalletDb) (customer : Nat) (budget : UserBudget) : WalletDb :=
  { s with userBudgets := Function.update s.userBudgets customer (some budget) }

def budget (s : WalletDb) (customer : Nat) : UserBudget :=
  (s.userBudgets customer).getD 0

/-- `uni_key` is a unique column. -/
def keyTaken (s : WalletDb) (uniKey : Option String) : Bool :=
  uniKey.isSome && s.budgetLogs.rows.any fun log => log.uniKey = uniKey

end WalletDb

namespace UserBudget

def getOrCreate (customer : Nat) : WalletTx Object := do
  modify fun s => if (s.userBudgets customer).isSome then s else s.setBudget customer 0
  gets fun s => RowObject.load (s.budget customer)

def get (customer : Nat) : WalletTx UserBudget :=
  getOr .doesNotExist fun s => s.userBudgets customer

def save (customer : Nat) (obj : Object) : WalletTx Unit :=
  modify fun s => s.setBudget customer (RowObject.store obj (s.budget customer))

end UserBudget

namespace BudgetLog

open UserBudget

/-- A new log is stored under the next key unless its `uni_key` is taken. -/
def insert (log : BudgetLog) : WalletTx BudgetLog := do
  let taken ← gets fun s => s.keyTaken log.uniKey
  raiseIf (taken = true) .integrityError
  let stored ← gets fun s => s.budgetLogs.stored log
  modify fun s => { s with budgetLogs := s.budgetLogs.insert log }
  pure stored

def save (log : BudgetLog) : WalletTx Unit :=
  modify fun s => { s with budgetLogs := s.budgetLogs.save log }

def genUniKey (today : Date) (customerId : Nat) (budgetType : BudgetType)
    (budgetLogType : BudgetLogType) : WalletTx String :=
  gets fun s =>
    let count := (s.budgetLogs.filter fun log =>
      log.customerId = customerId ∧ log.budgetType = budgetType ∧
        log.budgetLogType = budgetLogType ∧ log.budgetDate = today).length
    budgetLogType.code ++ "-" ++ toString budgetType.code ++ "-" ++
      toString customerId ++ "-" ++ toString (count + 1) ++ "|" ++ today.isoformat

/-- What `create` assigns to the wallet object. -/
def createAssign (budgetType : BudgetType) (status : Status) (flowAmount : Int)
    (budget : Object) : Object :=
  match budgetType with
  | .budgetIn =>
      if status = .confirmed then
        (budget.assignF .amount flowAmount).assignF .totalIncome flowAmount
      else budget
  | .budgetOut =>
      (budget.assignF .amount (-flowAmount)).assignF .totalExpense flowAmount

/-- What `confirm_budget_log` assigns to the wallet object. -/
def confirmAssign (log : BudgetLog) (userBudget : Object) : Object :=
  match log.budgetType with
  | .budgetIn =>
      if log.status = .pending ∨ log.status = .canceled then
        (userBudget.assignF .amount log.flowAmount).assignF .totalIncome log.flowAmount
      else userBudget
  | .budgetOut =>
      if log.status = .canceled then
        (userBudget.assignF .amount (-log.flowAmount)).assignF .totalExpense
          log.flowAmount
      else userBudget

/-- What `cancel_budget_log` assigns to the wallet object. -/
def cancelAssign (log : BudgetLog) (userBudget : Object) : Object :=
  match log.budgetType with
  | .budgetIn =>
      if log.status = .confirmed then
        (userBudget.assignF .amount (-log.flowAmount)).assignF .totalIncome
          (-log.flowAmount)
      else userBudget
  | .budgetOut =>
      if log.status = .confirmed ∨ log.status = .pending then
        (userBudget.assignF .amount log.flowAmount).assignF .totalExpense
          (-log.flowAmount)
      else userBudget

/-- The arguments of `BudgetLog.create`; `none` is an argument left out. -/
structure CreateArgs where
  customerId : Nat
  budgetType : BudgetType
  flowAmount : Int
  budgetLogType : BudgetLogType
  budgetDate : Option Date
  referalId : String
  status : Option Status
  uniKey : Option String
  deriving Repr

/-- The given key; an empty one is falsy, like a missing one. -/
def uniKeyOrGen (today : Date) (args : CreateArgs) : WalletTx String :=
  match args.uniKey.filter fun key => key ≠ "" with
  | some key => pure key
  | none => genUniKey today args.customerId args.budgetType args.budgetLogType

def create (today : Date) (args : CreateArgs) : WalletTx BudgetLog := do
  let budgetDate := args.budgetDate.getD today
  let status := args.status.getD .confirmed
  let customer ← getOr .doesNotExist fun s =>
    s.customers.find? fun id => id = args.customerId
  let uniKey ← uniKeyOrGen today args
  raiseIf (status = .canceled) (.exception "取消状态不予创建!")
  atomic do
    let budget ← getOrCreate customer
    UserBudget.save customer
      (createAssign args.budgetType status args.flowAmount budget)
    let ub ← UserBudget.get customer
    insert
      { id := 0
        customerId := args.customerId
        flowAmount := args.flowAmount
        balance := ub .amount
        budgetType := args.budgetType
        budgetLogType := args.budgetLogType
        budgetDate := budgetDate
        referalId := args.referalId
        status := status
        uniKey := some uniKey }

/-- The wallet row, the balance and the status of a log are saved together. -/
def settle (log : BudgetLog) (assign : Object → Object) (status : Status) :
    WalletTx Bool := do
  let userBudget ← UserBudget.get log.customerId
  atomic do
    UserBudget.save log.customerId (assign (RowObject.load userBudget))
    let ub ← UserBudget.get log.customerId
    save { log with balance := ub .amount, status := status }
  pure true

def confirmBudgetLog (log : BudgetLog) : WalletTx Bool :=
  if log.status = .confirmed then pure false
  else settle log (confirmAssign log) .confirmed

def cancelBudgetLog (log : BudgetLog) : WalletTx Bool :=
  if log.status = .canceled then pure false
  else settle log (cancelAssign log) .canceled

def chnagePedingIncomeAmount (log : BudgetLog) (newAmount : Int) : WalletTx Unit :=
  if log.status ≠ .pending ∨ log.budgetType ≠ .budgetIn then pure ()
  else save { log with flowAmount := newAmount }

/-- The logs of a customer's payment of a trade. -/
def isConsum (customer strade : Nat) (log : BudgetLog) : Bool :=
  log.customerId = customer ∧ log.referalId = toString strade ∧
    log.budgetLogType = .consum

end BudgetLog

namespace UserBudget

open BudgetLog

def chargePending (today : Date) (customer strade : Nat) (payment : Int) :
    WalletTx Bool := do
  let blogs ← gets fun s => s.budgetLogs.filter (isConsum customer strade)
  match blogs with
  | [] => do
      let _ ← create today
        { customerId := customer
          budgetType := .budgetOut
          flowAmount := payment
          budgetLogType := .consum
          budgetDate := none
          referalId := toString strade
          status := some .pending
          uniKey := some ("st_" ++ toString strade) }
      pure true
  | [_] => pure true
  | _ => raise .multipleObjectsReturned

def chargeConfirm (customer strade : Nat) : WalletTx Bool := do
  let blog ← gets fun s => s.budgetLogs.first (isConsum customer strade)
  match blog with
  | none => pure false
  | some blog =>
      -- a trade that was closed on timeout and paid after that
      confirmBudgetLog
        (if blog.status = .canceled then { blog with status := .pending } else blog)

/-- `None` when there is no log, else what the cancellation returns. -/
def chargeCancel (customer strade : Nat) : WalletTx (Option Bool) := do
  let blogs ← gets fun s => s.budgetLogs.first (isConsum customer strade)
  match blogs with
  | none => pure none
  | some blog => do
      let canceled ← cancelBudgetLog blog
      pure (some canceled)

end UserBudget

/-- The reconciliation of a wallet with its logs, by direction and status. -/
def checkUserBudget (s : WalletDb) (customerId : Nat) : Except Exn Bool :=
  let bglogs := s.budgetLogs.filter fun log =>
    log.customerId = customerId ∧ log.status ≠ .canceled
  let groups := (bglogs.map fun log => (log.budgetType, log.status)).dedup
  let total := fun group : BudgetType × Status =>
    ((bglogs.filter fun log => (log.budgetType, log.status) = group).map
      BudgetLog.flowAmount).sum
  let inAmount := ((groups.filter fun group => group = (.budgetIn, .confirmed)).map
    total).sum
  let outAmount := ((groups.filter fun group => group.1 = .budgetOut).map total).sum
  match s.userBudgets customerId with
  | none => .error .attributeError
  | some budget => .ok (budget .amount = inAmount - outAmount)

end ShopManager.Pay.Wallet
