import ShopManager.Library.Execution
import ShopManager.Pay.Wallet.Keys

/-!
# Carry records

What a mama earns is a `CarryRecord`, pending until it is confirmed or
cancelled, with a wallet log that follows it.  Record and log are advanced by
separate calls; what the calls on one record do to the wallet is what the record
says.
-/

namespace ShopManager.Mama

open Library Library.Tx Library.Execution Pay.Wallet

inductive CarryStatus where
  | pending
  | confirmed
  | cancel
  deriving DecidableEq, Repr

inductive CarryType where
  | click
  | order
  | recommend
  deriving DecidableEq, Repr

structure CarryRecord where
  id : Nat
  mamaId : Nat
  carryNum : Int
  carryType : CarryType
  carryDescription : String
  dateField : Date
  uniKey : String
  status : CarryStatus
  deriving DecidableEq, Repr

instance : Row CarryRecord where
  pk := CarryRecord.id
  withPk n record := { record with id := n }

/-- The tables of the carry records and of the wallets.  `mamas` has an entry for
each mama, with her normal customer if there is one. -/
structure CarryDb where
  carryRecords : Table CarryRecord
  mamas : Nat → Option (Option Nat)
  wallet : WalletDb

abbrev CarryTx (α : Type) := Tx CarryDb Exn α

namespace CarryDb

def inWallet {α : Type} (m : WalletTx α) : CarryTx α :=
  zoom CarryDb.wallet (fun wallet s => { s with wallet := wallet }) m

end CarryDb

namespace CarryRecord

open CarryDb

def budgetLogStatusMap : CarryStatus → Status
  | .pending => .pending
  | .confirmed => .confirmed
  | .cancel => .canceled

def budgetLogTypeMap : CarryType → BudgetLogType
  | .click => .click
  | .order => .order
  | .recommend => .award

def referalId (id : Nat) : String := "carryrecord-" ++ toString id

def incomeArgs (record : CarryRecord) (customer : Nat) : BudgetLog.CreateArgs where
  customerId := customer
  budgetType := .budgetIn
  flowAmount := record.carryNum
  budgetLogType := budgetLogTypeMap record.carryType
  budgetDate := none
  referalId := referalId record.id
  status := some (budgetLogStatusMap record.status)
  uniKey := none

def createLog (today : Date) (record : CarryRecord) (customer : Option Nat) :
    CarryTx Unit :=
  if record.carryNum > 0 then
    match customer with
    | none => raise .attributeError
    | some customer => do
        let _ ← inWallet (BudgetLog.create today (record.incomeArgs customer))
        pure ()
  else pure ()

def save (record : CarryRecord) : CarryTx Unit :=
  modify fun s => { s with carryRecords := s.carryRecords.save record }

/-- A new record is stored under the next key; `uni_key` is unique. -/
def insert (record : CarryRecord) : CarryTx CarryRecord := do
  let taken ← gets fun s =>
    (s.carryRecords.first fun r => r.uniKey = record.uniKey).isSome
  raiseIf (taken = true) .integrityError
  let stored ← gets fun s => s.carryRecords.stored record
  modify fun s => { s with carryRecords := s.carryRecords.insert record }
  pure stored

/-- The arguments of `create`; `none` is an argument left out. -/
structure CreateArgs where
  mamaId : Nat
  carryNum : Int
  carryType : CarryType
  desc : String
  uniKey : Option String
  status : Option CarryStatus
  deriving Repr

/-- The record that `create` makes. -/
def created (today : Date) (args : CreateArgs) : CarryRecord where
  id := 0
  mamaId := args.mamaId
  carryNum := args.carryNum
  carryType := args.carryType
  carryDescription := args.desc
  dateField := today
  uniKey := args.uniKey.getD ""
  status := args.status.getD .confirmed

def create (today : Date) (args : CreateArgs) : CarryTx Unit :=
  if args.status = some .cancel then pure ()
  else do
    let carryRecord ← insert (created today args)
    let customer ← getOr .doesNotExist fun s => s.mamas args.mamaId
    carryRecord.createLog today customer

def budgetLog (s : CarryDb) (id : Nat) : Option BudgetLog :=
  s.wallet.budgetLogs.first fun log => log.referalId = referalId id

def saveWithLog (today : Date) (record : CarryRecord) (method : BudgetLog → WalletTx Unit) :
    CarryTx Unit := do
  record.save
  let customer ← getOr .attributeError fun s => s.mamas record.mamaId
  atomic do
    let bg ← gets fun s => budgetLog s record.id
    match bg with
    | some bg => inWallet (method bg)
    | none => record.createLog today customer

/-- `bg.confirm_budget_log()`, whose answer nobody looks at. -/
def confirmLog (bg : BudgetLog) : WalletTx Unit := do
  let _ ← BudgetLog.confirmBudgetLog bg
  pure ()

def confirmed (record : CarryRecord) : CarryRecord := { record with status := .confirmed }

def changed (newValue : Int) (record : CarryRecord) : CarryRecord :=
  { record with carryNum := newValue }

def canceled (record : CarryRecord) : CarryRecord := { record with status := .cancel }

def confirm (today : Date) (record : CarryRecord) : CarryTx Unit :=
  if record.status ≠ .pending then pure ()
  else saveWithLog today record.confirmed confirmLog

def changePendingCarryAmount (today : Date) (newValue : Int) (record : CarryRecord) :
    CarryTx Unit :=
  if record.status ≠ .pending then pure ()
  else
    saveWithLog today (record.changed newValue) fun bg =>
      BudgetLog.chnagePedingIncomeAmount bg newValue

def cancelArgs (bg : BudgetLog) : BudgetLog.CreateArgs where
  customerId := bg.customerId
  budgetType := .budgetOut
  flowAmount := bg.flowAmount
  budgetLogType := .carryCancel
  budgetDate := none
  referalId := ""
  status := none
  uniKey := none

def cancel (today : Date) (record : CarryRecord) : CarryTx Unit :=
  if record.status = .cancel then pure ()
  else do
    record.canceled.save
    let bg ← gets fun s => budgetLog s record.id
    match bg with
    | none => pure ()
    | some bg => do
        inWallet (confirmLog bg)
        let _ ← inWallet (BudgetLog.create today (cancelArgs bg))
        pure ()

end CarryRecord

end ShopManager.Mama
