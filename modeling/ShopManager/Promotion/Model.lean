import ShopManager.Basic
import ShopManager.Library.Execution
import ShopManager.Library.Table
import ShopManager.Library.Transaction

/-!
# The nine cards of an activity

An activated application gives an envelope to the customer who invited, with cash or a card, and
a first card to the customer who applied.  Whoever has opened nine cards wins.
-/

namespace ShopManager.Promotion

open Library Library.Tx Library.Execution

inductive EnvelopeType where
  | cash | card
  deriving DecidableEq, Repr

structure RedEnvelope where
  id : Nat
  customerId : Nat
  eventId : Nat
  uniKey : String
  type : EnvelopeType
  value : Nat
  opened : Bool
  deriving DecidableEq, Repr

instance : Row RedEnvelope where
  pk := RedEnvelope.id
  withPk n envelope := { envelope with id := n }

/-- An application without an inviter has `fromCustomer` 0. -/
structure XLSampleApply where
  eventId : Nat
  customerId : Nat
  fromCustomer : Nat
  activated : Bool
  deriving DecidableEq, Repr

structure AwardWinner where
  customerId : Nat
  eventId : Nat
  uniKey : String
  inviteNum : Nat
  deriving DecidableEq, Repr

/-- `customers` says which customers have a row. -/
structure PromotionDb where
  customers : Nat → Bool
  applications : List XLSampleApply
  envelopes : Table RedEnvelope
  winners : List AwardWinner

abbrev PromotionTx (α : Type) := Tx PromotionDb Exn α

/-- The outcomes of `random` in one run of the task: whether the coin says cash, and the places
in the two lists that are chosen from. -/
structure Draw where
  cash : Bool
  cashPlace : Nat
  slotPlace : Nat
  deriving DecidableEq, Repr

def choice (place : Nat) (values : List Nat) : Except Exn Nat :=
  match values[place % values.length]? with
  | some value => .ok value
  | none => .error (.exception "list index out of range")

def cashValues : List Nat :=
  [28, 28, 36, 38, 46, 48, 56, 58, 66, 66, 68, 78, 88, 88, 118, 128]

def genCashValue (draw : Draw) : Except Exn Nat := choice draw.cashPlace cashValues

def nine : List Nat := [1, 2, 3, 4, 5, 6, 7, 8, 9]

/-- `slots.remove(value)` for each value in turn. -/
def removeAll : List Nat → List Nat → Except Exn (List Nat)
  | slots, [] => .ok slots
  | slots, value :: values =>
      if value ∈ slots then removeAll (slots.erase value) values
      else .error (.valueError "list.remove(x): x not in list")

namespace PromotionDb

def cardsOf (s : PromotionDb) (customerId eventId : Nat) : List RedEnvelope :=
  s.envelopes.filter fun envelope =>
    envelope.customerId = customerId ∧ envelope.eventId = eventId ∧ envelope.type = .card

/-- `card_num`, of all the events. -/
def cardNum (s : PromotionDb) (customerId : Nat) : Nat :=
  (s.envelopes.filter fun envelope =>
    envelope.customerId = customerId ∧ envelope.type = .card ∧ envelope.opened = true).length

def known (s : PromotionDb) (uniKey : String) : Bool :=
  (s.envelopes.first fun envelope => envelope.uniKey = uniKey).isSome

def inviteNum (s : PromotionDb) (customerId eventId : Nat) : Nat :=
  (s.applications.filter fun application =>
    application.fromCustomer = customerId ∧ application.eventId = eventId ∧
      application.activated = true).length

end PromotionDb

def cashPair (draw : Draw) : PromotionTx (EnvelopeType × Nat) := do
  let value ← ofExcept (genCashValue draw)
  pure (.cash, value)

def cardPair (draw : Draw) (records : List RedEnvelope) : PromotionTx (EnvelopeType × Nat) := do
  let slots ← ofExcept (removeAll nine (records.map RedEnvelope.value))
  let value ← ofExcept (choice draw.slotPlace slots)
  pure (.card, value)

def genEnvelopeTypeValuePair (draw : Draw) (customerId eventId : Nat) :
    PromotionTx (EnvelopeType × Nat) := do
  let records ← gets fun s => s.cardsOf customerId eventId
  if 9 ≤ records.length ∨ draw.cash = true then cashPair draw else cardPair draw records

/-! ## The task of an application -/

namespace XLSampleApply

def uniKey1 (application : XLSampleApply) : String :=
  toString application.eventId ++ ("-" ++ toString application.customerId)

def uniKey2 (application : XLSampleApply) : String := "self-" ++ application.uniKey1

end XLSampleApply

def RedEnvelope.save (envelope : RedEnvelope) : PromotionTx Unit :=
  modify fun s => { s with envelopes := s.envelopes.insert envelope }

/-- The envelope of the customer who invited. -/
def giveInviter (draw : Draw) (application : XLSampleApply) : PromotionTx Unit := do
  let known ← gets fun s => s.known application.uniKey1
  if application.fromCustomer = 0 ∨ known = true then pure ()
  else do
    let pair ← genEnvelopeTypeValuePair draw application.fromCustomer application.eventId
    RedEnvelope.save ⟨0, application.fromCustomer, application.eventId, application.uniKey1,
      pair.1, pair.2, false⟩

/-- The first card, by default, of the customer who applied. -/
def giveApplicant (application : XLSampleApply) : PromotionTx Unit := do
  let known ← gets fun s => s.known application.uniKey2
  if known = true then pure ()
  else RedEnvelope.save ⟨0, application.customerId, application.eventId, application.uniKey2,
    .card, 1, false⟩

def generateRedEnvelope (draw : Draw) (application : XLSampleApply) : PromotionTx Unit :=
  if application.activated = false then pure ()
  else do
    giveInviter draw application
    giveApplicant application

def winnerKey (eventId customerId : Nat) : String :=
  toString eventId ++ ("-" ++ toString customerId)

def decideAwardWinner (envelope : RedEnvelope) : PromotionTx Unit := do
  let cardNum ← gets fun s => s.cardNum envelope.customerId
  let key := winnerKey envelope.eventId envelope.customerId
  let won ← gets fun s => s.winners.any fun winner => winner.uniKey = key
  if cardNum < 9 ∨ won = true then pure ()
  else do
    let inviteNum ← gets fun s => s.inviteNum envelope.customerId envelope.eventId
    let _ ← getOr .doesNotExist fun s =>
      if s.customers envelope.customerId = true then some () else none
    modify fun s => { s with
      winners := s.winners ++ [⟨envelope.customerId, envelope.eventId, key, inviteNum⟩] }

/-- An envelope that is opened already is not saved again, and one with cash has no winner. -/
def openEnvelope (envelopeId : Nat) : PromotionTx Unit := do
  let envelope ← getOr .doesNotExist fun s => s.envelopes.get? envelopeId
  if envelope.opened = true then pure ()
  else do
    modify fun s => { s with envelopes := s.envelopes.save { envelope with opened := true } }
    if envelope.type = .card then decideAwardWinner { envelope with opened := true }
    else pure ()

/-- An application is saved, and its task runs; an envelope is opened. -/
inductive PromotionOp where
  | activate (application : XLSampleApply) (draw : Draw)
  | openEnvelope (envelopeId : Nat)
  deriving Repr

namespace PromotionOp

def call : PromotionOp → PromotionTx Unit
  | activate application draw => do
      modify fun s => { s with applications := s.applications ++ [application] }
      generateRedEnvelope draw application
  | openEnvelope envelopeId => Promotion.openEnvelope envelopeId

def exec (op : PromotionOp) (s : PromotionDb) : PromotionDb := (op.call.run s).2

end PromotionOp

end ShopManager.Promotion
