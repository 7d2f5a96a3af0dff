import ShopManager.Pay.Wallet.Model

/-!
# Cash-out envelopes

An `Envelop` pays a cash-out through WeChat: of a customer's wallet, where an
expense log stands for it, or of a mama's earnings, where a `CashOut` does.  What
fails is given back.  The provider's answers and notifications are the inputs of
the methods.
-/

namespace ShopManager.Pay

open Library Library.Tx Wallet

inductive Platform where
  | wxpub
  | wxTransfer
  deriving DecidableEq, Repr

inductive EnvelopStatus where
  | waitSend
  | confirmSend
  | cancel
  | fail
  deriving DecidableEq, Repr

/-- What a provider says about an envelope, in lower case. -/
inductive SendStatus where
  | unsend
  | sending
  | sent
  | sendFailed
  | received
  | refund
  | rfundIng
  | other (text : String)
  deriving DecidableEq, Repr

inductive Subject where
  | cashout
  | orderRedPac
  | xlappCashout
  | level1
  | level2
  deriving DecidableEq, Repr

structure Envelop where
  id : Nat
  envelopId : String
  platform : Platform
  subject : Subject
  status : EnvelopStatus
  sendStatus : SendStatus
  referalId : Nat
  sendTime : Option Nat
  deriving DecidableEq, Repr

inductive WeixinStatus where
  | unsend
  | sending
  | sent
  | failed
  | received
  | rfundIng
  | refund
  deriving DecidableEq, Repr

def WeixinStatus.lower : WeixinStatus → SendStatus
  | unsend => .unsend
  | sending => .sending
  | sent => .sent
  | failed => .sendFailed
  | received => .received
  | rfundIng => .rfundIng
  | refund => .refund

structure WeixinRedEnvelope where
  mchBillno : String
  status : WeixinStatus
  deriving DecidableEq, Repr

/-- An answer or a notification of ping++. -/
structure PingppEnvelope where
  id : String
  status : SendStatus
  deriving DecidableEq, Repr

inductive CashOutStatus where
  | pending
  | approved
  | rejected
  | completed
  | cancel
  | sendfail
  deriving DecidableEq, Repr

structure CashOut where
  id : Nat
  xlmm : Nat
  value : Int
  status : CashOutStatus
  deriving DecidableEq, Repr

instance : Row CashOut where
  pk := CashOut.id
  withPk n cashout := { cashout with id := n }

/-- The row of an envelope with the tables that its methods touch; `fortunes` is
`carry_cashout` by mama.  `credits` is no column: it counts what has been given
back for the envelope. -/
structure EnvelopDb where
  envelop : Envelop
  wallet : WalletDb
  cashOuts : Table CashOut
  fortunes : Nat → Option Int
  credits : Nat

abbrev EnvelopTx (α : Type) := Tx EnvelopDb Exn α

namespace EnvelopDb

def inWallet {α : Type} (m : WalletTx α) : EnvelopTx α :=
  zoom EnvelopDb.wallet (fun wallet s => { s with wallet := wallet }) m

def credit : EnvelopTx Unit := modify fun s => { s with credits := s.credits + 1 }

end EnvelopDb

namespace CashOut

open EnvelopDb

def save (cashout : CashOut) : EnvelopTx Unit :=
  modify fun s => { s with cashOuts := s.cashOuts.save cashout }

/-- The value goes back to the earnings of the mama. -/
def giveBack (status : CashOutStatus) (cashout : CashOut) : EnvelopTx Unit :=
  atomic do
    CashOut.save { cashout with status := status }
    let carry ← getOr .attributeError fun s => s.fortunes cashout.xlmm
    modify fun s => { s with
      fortunes := Function.update s.fortunes cashout.xlmm (some (carry - cashout.value)) }
    credit

def cancelCashout (cashout : CashOut) : EnvelopTx Unit :=
  if cashout.status ≠ .pending then pure () else giveBack .cancel cashout

def failAndReturn (cashout : CashOut) : EnvelopTx Unit :=
  if cashout.status ≠ .approved then pure () else giveBack .sendfail cashout

def approveCashout (cashout : CashOut) : EnvelopTx Unit :=
  if cashout.status ≠ .pending then pure () else CashOut.save { cashout with status := .approved }

end CashOut

namespace Envelop

open EnvelopDb

def save (envelop : Envelop) : EnvelopTx Unit :=
  modify fun s => { s with envelop := envelop }

/-- The arguments of the income that gives a failed cash-out back. -/
def returnArgs (bg : BudgetLog) : BudgetLog.CreateArgs where
  customerId := bg.customerId
  budgetType := .budgetIn
  flowAmount := bg.flowAmount
  budgetLogType := .cashoutFail
  budgetDate := none
  referalId := ""
  status := none
  uniKey := none

def cashoutLog (s : EnvelopDb) (envelop : Envelop) : Option BudgetLog :=
  s.wallet.budgetLogs.first fun log =>
    log.id = envelop.referalId ∧ log.budgetLogType = .cashout

def refundEnvelop (today : Date) (envelop : Envelop) : EnvelopTx Unit :=
  match envelop.subject with
  | .xlappCashout => do
      let bg ← getOr .doesNotExist fun s => cashoutLog s envelop
      let _ ← inWallet (BudgetLog.confirmBudgetLog bg)
      let _ ← inWallet (BudgetLog.create today (returnArgs bg))
      credit
  | .cashout => do
      let cashout ← gets fun s => s.cashOuts.get? envelop.referalId
      match cashout with
      | none => pure ()
      | some cashout =>
          if cashout.status = .pending then cashout.cancelCashout else cashout.failAndReturn
  | _ => pure ()

/-- `bg.confirm_budget_log() if bg else None`. -/
def confirmReferal (envelop : Envelop) : EnvelopTx Unit := do
  let bg ← gets fun s => s.wallet.budgetLogs.get? envelop.referalId
  match bg with
  | none => pure ()
  | some bg => do
      let _ ← inWallet (BudgetLog.confirmBudgetLog bg)
      pure ()

def approveReferal (envelop : Envelop) : EnvelopTx Unit := do
  let cashout ← gets fun s => s.cashOuts.get? envelop.referalId
  match cashout with
  | none => pure ()
  | some cashout => cashout.approveCashout

/-- A wallet cash-out is confirmed, one of a mama is approved. -/
def settleReferal (envelop : Envelop) : EnvelopTx Unit :=
  match envelop.subject with
  | .xlappCashout => confirmReferal envelop
  | .cashout => approveReferal envelop
  | _ => pure ()

def handleEnvelop (today : Date) (now : Nat) (envelopd : WeixinRedEnvelope)
    (envelop : Envelop) : EnvelopTx Unit := do
  let envelop := { envelop with
    envelopId := envelopd.mchBillno, sendStatus := envelopd.status.lower }
  match envelopd.status with
  | .sending | .sent | .received => do
      let envelop := { envelop with
        sendTime := some (envelop.sendTime.getD now), status := .confirmSend }
      settleReferal envelop
      envelop.save
  | .failed | .refund => do
      let envelop := { envelop with status := .fail }
      refundEnvelop today envelop
      envelop.save
  | .unsend | .rfundIng => envelop.save

def overdue (now : Nat) (envelop : Envelop) : Bool :=
  match envelop.sendTime with
  | none => false
  | some sendTime => 72 * 3600 < now - sendTime

/-- The log of a wallet cash-out is asked for as a query, which has no
`confirm_budget_log`. -/
def settleReferalByPingpp (envelop : Envelop) : EnvelopTx Unit :=
  match envelop.subject with
  | .xlappCashout => raise .attributeError
  | .cashout => approveReferal envelop
  | _ => pure ()

def handleEnvelopByPingpp (today : Date) (now : Nat) (envelopd : PingppEnvelope)
    (envelop : Envelop) : EnvelopTx Unit := do
  let sent := envelop.overdue now
  let envelop := { envelop with envelopId := envelopd.id, sendStatus := envelopd.status }
  if envelopd.status = .sending ∧ sent = true then do
    let envelop := { envelop with status := .fail }
    refundEnvelop today envelop
    envelop.save
  else
    match envelopd.status with
    | .sending | .sent | .received => do
        let envelop := { envelop with
          sendTime := some (envelop.sendTime.getD now), status := .confirmSend }
        settleReferalByPingpp envelop
        envelop.save
    | .sendFailed | .refund => do
        let envelop := { envelop with status := .fail }
        refundEnvelop today envelop
        envelop.save
    | _ => envelop.save

/-- What the provider answers to a transfer and to a new red envelope. -/
structure Provider where
  transfer : Except Exn Bool
  create : Except Exn WeixinRedEnvelope

def uniKey (envelop : Envelop) : String := "xlmm" ++ toString envelop.id

def transferred (now : Nat) (status : EnvelopStatus) (sendStatus : SendStatus)
    (envelop : Envelop) : Envelop :=
  { envelop with
    status := status
    sendStatus := sendStatus
    sendTime := some now
    envelopId := envelop.uniKey }

/-- Every exception of a transfer is logged and dropped. -/
def sendTransfer (today : Date) (now : Nat) (provider : Provider) (envelop : Envelop) :
    EnvelopTx Unit :=
  tryCatch
    (do
      let success ← ofExcept provider.transfer
      if success then do
        save (envelop.transferred now .confirmSend .received)
        confirmReferal envelop
      else do
        save (envelop.transferred now .fail .sendFailed)
        refundEnvelop today envelop)
    fun _ => pure ()

def sendRedEnvelope (today : Date) (now : Nat) (provider : Provider) (envelop : Envelop) :
    EnvelopTx Unit :=
  match provider.create with
  | .error exc => do
      save { envelop with status := .fail }
      refundEnvelop today envelop
      raise exc
  | .ok redenvelope => do
      let envelop := { envelop with status := .confirmSend }
      envelop.save
      handleEnvelop today now redenvelope envelop

def sendEnvelop (today : Date) (now : Nat) (provider : Provider) (envelop : Envelop) :
    EnvelopTx Unit := do
  raiseIf (envelop.envelopId ≠ "" ∨ envelop.status ≠ .waitSend) (.exception "不能重复发送")
  match envelop.platform with
  | .wxTransfer => sendTransfer today now provider envelop
  | .wxpub => sendRedEnvelope today now provider envelop

/-- Only the number of the envelope is looked at. -/
def cancelEnvelop (today : Date) (envelop : Envelop) : EnvelopTx Unit :=
  if envelop.envelopId = "" then do
    modify fun s => { s with envelop := { s.envelop with status := .cancel } }
    refundEnvelop today envelop
  else pure ()

end Envelop

end ShopManager.Pay
