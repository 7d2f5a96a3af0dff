import ShopManager.Basic
import ShopManager.Library.Table
import ShopManager.Library.Transaction

/-!
# Charges and refunds at the providers

A `ChargeOrder` is paid, and a `RefundOrder` refunded, through Alipay or WeChat Pay.  A
request to a provider is not undone by the rollback of the block that made it, and a
signal that waits for the commit is dropped by it.
-/

namespace ShopManager.Xiaolupay

open Library Library.Tx

inductive Channel where
  | wx
  | weapp
  | alipay
  | wxPub
  | alipayWap
  | upmpWap
  deriving DecidableEq, Repr

/-- The two providers there is code for. -/
inductive Provider where
  | alipay
  | wxpay
  deriving DecidableEq, Repr

def Channel.provider : Channel → Option Provider
  | alipay => some .alipay
  | alipayWap => some .alipay
  | wx => some .wxpay
  | wxPub => some .wxpay
  | weapp => some .wxpay
  | upmpWap => none

def Channel.name : Channel → String
  | wx => "wx"
  | weapp => "weapp"
  | alipay => "alipay"
  | wxPub => "wx_pub"
  | alipayWap => "alipay_wap"
  | upmpWap => "upmp_wap"

def Channel.ofName (name : String) : Option Channel :=
  [wx, weapp, alipay, wxPub, alipayWap, upmpWap].find? fun channel => channel.name = name

@[simp] theorem Channel.ofName_name (channel : Channel) : ofName channel.name = some channel := by
  cases channel <;> decide

/-- Amounts are in cents, times in seconds. -/
structure ChargeOrder where
  id : Nat
  orderNo : String
  channel : Channel
  paid : Bool
  refunded : Bool
  amount : Int
  timePaid : Option Nat
  transactionNo : String
  amountRefunded : Int
  failureCode : String
  failureMsg : String
  deriving DecidableEq, Repr

instance : Row ChargeOrder where
  pk := ChargeOrder.id
  withPk n charge := { charge with id := n }

structure Credential where
  id : Nat
  orderNo : String
  channel : Channel
  created : Nat
  deriving DecidableEq, Repr

instance : Row Credential where
  pk := Credential.id
  withPk n credential := { credential with id := n }

inductive RefundOrderStatus where
  | pending
  | successed
  | failed
  deriving DecidableEq, Repr

structure RefundOrder where
  id : Nat
  refundNo : String
  amount : Int
  succeed : Bool
  status : RefundOrderStatus
  timeSucceed : Option Nat
  description : String
  failureCode : String
  failureMsg : String
  chargeId : Nat
  chargeOrderNo : String
  transactionNo : String
  deriving DecidableEq, Repr

instance : Row RefundOrder where
  pk := RefundOrder.id
  withPk n refund := { refund with id := n }

inductive Signal where
  | chargeSuccess (charge : Nat)
  | refundSuccess (refund : Nat)
  deriving DecidableEq, Repr

/-- A refund request as a provider received it. -/
structure RefundRequest where
  outRefundNo : String
  refundFee : Int
  deriving DecidableEq, Repr

/-- `onCommit` holds the signals that wait for the end of the block, `signals` those
that were sent, and `requests` what the providers were asked to refund. -/
structure XiaolupayDb where
  charges : Table ChargeOrder
  credentials : Table Credential
  refunds : Table RefundOrder
  onCommit : List Signal
  signals : List Signal
  requests : List RefundRequest

abbrev XiaolupayTx (α : Type) := Tx XiaolupayDb Exn α

/-- `@transaction.atomic`: the end of the block sends what waited for it, a rollback
restores the tables and takes back neither a signal nor a request. -/
def inBlock {α : Type} (m : XiaolupayTx α) : XiaolupayTx α := ⟨fun s =>
  match m.run s with
  | (.ok a, s') => (.ok a, { s' with onCommit := [], signals := s'.signals ++ s'.onCommit })
  | (.error e, s') => (.error e, { s with signals := s'.signals, requests := s'.requests })⟩

section Blocks

variable {s : XiaolupayDb}

theorem inBlock_ok {α : Type} {m : XiaolupayTx α} {s' : XiaolupayDb} {a : α}
    (h : m.run s = (.ok a, s')) :
    (inBlock m).run s =
      (.ok a, { s' with onCommit := [], signals := s'.signals ++ s'.onCommit }) := by
  simp only [inBlock, h]

theorem inBlock_error {α : Type} {m : XiaolupayTx α} {s' : XiaolupayDb} {e : Exn}
    (h : m.run s = (.error e, s')) :
    (inBlock m).run s =
      (.error e, { s with signals := s'.signals, requests := s'.requests }) := by
  simp only [inBlock, h]

def requested (s : XiaolupayDb) (request : RefundRequest) : XiaolupayDb :=
  { s with requests := s.requests ++ [request] }

theorem inBlock_congr {α : Type} {m m' : XiaolupayTx α} (h : m.run s = m'.run s) :
    (inBlock m).run s = (inBlock m').run s := by
  simp only [inBlock, h]

theorem inBlock_raised {α : Type} {m : XiaolupayTx α} {e : Exn}
    (h : m.run s = (.error e, s)) : (inBlock m).run s = (.error e, s) := inBlock_error h

theorem inBlock_quiet {α : Type} {m : XiaolupayTx α} {s' : XiaolupayDb} {a : α}
    (hwaiting : s'.onCommit = []) (h : m.run s = (.ok a, s')) :
    (inBlock m).run s = (.ok a, s') := by
  rw [inBlock_ok h, hwaiting, List.append_nil, ← hwaiting]

end Blocks

/-! ## Answers and messages -/

abbrev Fields := List (String × String)

def Fields.get (fields : Fields) (key : String) : Option String :=
  (fields.find? fun field => field.1 = key).map Prod.snd

def keyError (key : String) : Exn := .exception ("KeyError: " ++ key)

/-- The number that a text of digits is. -/
def digits (text : String) : Option Nat :=
  if text ≠ "" ∧ text.toList.all Char.isDigit = true then
    some (text.toList.foldl (fun n c => n * 10 + (c.toNat - '0'.toNat)) 0)
  else none

/-- What a provider posts: the fields of a form, or the text of a body. -/
inductive Content where
  | form (fields : Fields)
  | body (text : String)
  deriving DecidableEq, Repr

namespace Content

def isEmpty : Content → Bool
  | form fields => fields.isEmpty
  | body text => text = ""

/-- `content[key]`, which a text cannot be asked for. -/
def item (key : String) : Content → Except Exn String
  | form fields => match fields.get key with
    | some value => .ok value
    | none => .error (keyError key)
  | body _ => .error (.exception "TypeError")

/-- `content.get(key)` of what has been found to be a form. -/
def get (key : String) : Content → Option String
  | form fields => fields.get key
  | body _ => none

end Content

namespace ChargeOrder

def save (charge : ChargeOrder) : XiaolupayTx Unit :=
  modify fun s => { s with charges := s.charges.save charge }

def find (orderNo : String) (s : XiaolupayDb) : Option ChargeOrder :=
  s.charges.first fun charge => charge.orderNo = orderNo ∨ digits orderNo = some charge.id

def get (id : Nat) : XiaolupayTx ChargeOrder :=
  getOr .doesNotExist fun s => s.charges.get? id

def confirmPaid (timePaid : Option Nat) (channel : Channel) (transactionNo : String)
    (charge : ChargeOrder) : XiaolupayTx Unit := do
  save { charge with
    channel := channel
    transactionNo := if transactionNo ≠ "" then transactionNo else charge.transactionNo
    paid := true
    timePaid := timePaid }
  modify fun s => { s with onCommit := s.onCommit ++ [.chargeSuccess charge.id] }

def confirmRefund (refundAmount : Int) (charge : ChargeOrder) : XiaolupayTx Unit :=
  save { charge with refunded := true, amountRefunded := refundAmount }

/-- The code and the message of the failure are not among the saved fields. -/
def failurePaid (transactionNo : String) (charge : ChargeOrder) : XiaolupayTx Unit :=
  save { charge with transactionNo := transactionNo }

end ChargeOrder

namespace RefundOrder

def save (refund : RefundOrder) : XiaolupayTx Unit :=
  modify fun s => { s with refunds := s.refunds.save refund }

/-- `self.order_no`, which the model does not have. -/
def orderNo (_ : RefundOrder) : XiaolupayTx String := raise .attributeError

def confirmRefunded (succeedTime : Nat) (transactionNo : String) (refund : RefundOrder) :
    XiaolupayTx Unit := do
  let refund := { refund with
    transactionNo := transactionNo
    timeSucceed := some succeedTime
    succeed := true }
  refund.save
  let _ ← refund.orderNo
  modify fun s => { s with signals := s.signals ++ [.refundSuccess refund.id] }

end RefundOrder

end ShopManager.Xiaolupay
