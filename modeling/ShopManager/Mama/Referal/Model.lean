import ShopManager.Basic
import ShopManager.Library.Transaction

/-!
# The referral relation

A mama joins through the mama who recommended her.  Each relationship also keeps
the mama above that one, the grandma, and both earn from the mama below.
-/

namespace ShopManager.Mama.Referal

open Library Library.Tx

/-- The ways to join, in the order of the days they last. -/
inductive RenewType where
  | scan
  | trial
  | elite
  | half
  | full
  deriving DecidableEq, Repr

/-- The stored number of a type, which the source compares. -/
def RenewType.days : RenewType → Nat
  | scan => 3
  | trial => 15
  | elite => 90
  | half => 183
  | full => 365

inductive RelationshipStatus where
  | valid
  | invalid
  deriving DecidableEq, Repr

structure ReferalRelationship where
  referalFromGrandmaId : Nat
  referalFromMamaId : Nat
  referalToMamaNick : String
  referalToMamaImg : String
  orderId : String
  referalType : RenewType
  status : RelationshipStatus
  created : Date
  deriving DecidableEq, Repr

inductive ChargeStatus where
  | uncharge
  | charged
  deriving DecidableEq, Repr

inductive MamaStatus where
  | effect
  | frozen
  | cancel
  deriving DecidableEq, Repr

inductive ReferalFrom where
  | unset
  | direct
  | indirect
  deriving DecidableEq, Repr

structure Customer where
  id : Nat
  nick : String
  thumbnail : String
  deriving DecidableEq, Repr

structure XiaoluMama where
  lastRenewType : RenewType
  chargeStatus : ChargeStatus
  status : MamaStatus
  referalFrom : ReferalFrom
  /-- Her customer in normal status. -/
  customer : Option Customer
  deriving DecidableEq, Repr

structure XlmmFans where
  xlmm : Nat
  xlmmCusid : Nat
  refrealCusid : Nat
  fansNick : String
  fansThumbnail : String
  deriving DecidableEq, Repr

/-- The relationships by the mama they recommend and the fans by their customer, both
unique columns, and the mamas by their ids. -/
structure ReferalDb where
  relationships : Nat → Option ReferalRelationship
  mamas : Nat → Option XiaoluMama
  fans : Nat → Option XlmmFans

abbrev ReferalTx (α : Type) := Tx ReferalDb Exn α

/-- A record of the mamas who may join; the two last fields are in its `extras`. -/
structure PotentialMama where
  potentialMama : Nat
  referalMama : Nat
  nick : String
  thumbnail : String
  lastRenewType : RenewType
  oid : Option String
  cashoutId : Option Nat
  deriving DecidableEq, Repr

namespace PotentialMama

/-- The order that a relationship made from the record names. -/
def orderId (potential : PotentialMama) : String :=
  match potential.oid.filter (· ≠ "") with
  | some oid => oid
  | none => "cashout_id_" ++ ((potential.cashoutId.filter (· ≠ 0)).map toString).getD ""

end PotentialMama

namespace ReferalDb

/-- The mama above `mamaId`, 0 without a relationship. -/
def upperOf (s : ReferalDb) (mamaId : Nat) : Nat :=
  ((s.relationships mamaId).map ReferalRelationship.referalFromMamaId).getD 0

/-- The mama above in a valid relationship, which `get_relationship_by_mama_id` finds. -/
def validUpperOf (s : ReferalDb) (mamaId : Nat) : Nat :=
  (((s.relationships mamaId).filter fun ship => ship.status = .valid).map
    ReferalRelationship.referalFromMamaId).getD 0

def setRelationship (s : ReferalDb) (toMama : Nat) (ship : ReferalRelationship) : ReferalDb :=
  { s with relationships := Function.update s.relationships toMama (some ship) }

def setMama (s : ReferalDb) (mamaId : Nat) (mama : XiaoluMama) : ReferalDb :=
  { s with mamas := Function.update s.mamas mamaId (some mama) }

def setFans (s : ReferalDb) (fansCusid : Nat) (fan : XlmmFans) : ReferalDb :=
  { s with fans := Function.update s.fans fansCusid (some fan) }

end ReferalDb

namespace ReferalRelationship

def isConfirmed (ship : ReferalRelationship) : Bool :=
  ship.referalType = .full || ship.referalType = .half || ship.referalType = .elite

/-- The receiver `update_mama_fans`, after a relationship was created. -/
def updateMamaFans (toMama : Nat) (ship : ReferalRelationship) : ReferalTx Unit := do
  match ← gets fun s => s.mamas toMama with
  | none => pure ()
  | some mama => do
      let customer ← getOr .attributeError fun _ => mama.customer
      let fan ← gets fun s => s.fans customer.id
      let fromCustomer ← gets fun s =>
        (s.mamas ship.referalFromMamaId).bind XiaoluMama.customer
      match fan, fromCustomer with
      | none, some fromCustomer =>
          modify fun s => s.setFans customer.id
            { xlmm := ship.referalFromMamaId
              xlmmCusid := fromCustomer.id
              refrealCusid := fromCustomer.id
              fansNick := customer.nick
              fansThumbnail := customer.thumbnail }
      | _, _ => pure ()

/-- A new relationship is stored, and then its receivers run. -/
def insert (toMama : Nat) (ship : ReferalRelationship) : ReferalTx Unit := do
  let taken ← gets fun s => (s.relationships toMama).isSome
  raiseIf (taken = true) .integrityError
  modify fun s => s.setRelationship toMama ship
  updateMamaFans toMama ship

/-- A confirmed relationship is not taken over by one of a lower type. -/
def refuses (ship : ReferalRelationship) (potential : PotentialMama) : Bool :=
  ship.isConfirmed && decide (potential.lastRenewType.days < ship.referalType.days)

def createRelationshipByPotential (today : Date) (potential : PotentialMama) :
    ReferalTx Unit := do
  let grandma ← gets fun s => s.upperOf potential.referalMama
  insert potential.potentialMama
    { referalFromGrandmaId := grandma
      referalFromMamaId := potential.referalMama
      referalToMamaNick := potential.nick
      referalToMamaImg := potential.thumbnail
      orderId := potential.orderId
      referalType := potential.lastRenewType
      status := .valid
      created := today }

/-- The relationship as `update_referal_relationship` writes it. -/
def updated (s : ReferalDb) (ship : ReferalRelationship) (potential : PotentialMama) :
    ReferalRelationship :=
  let moved :=
    if ship.referalFromMamaId ≠ potential.referalMama then
      { ship with
        referalFromGrandmaId := s.upperOf potential.referalMama
        referalFromMamaId := potential.referalMama }
    else ship
  { moved with referalType := potential.lastRenewType, orderId := potential.orderId }

def updateReferalRelationship (toMama : Nat) (potential : PotentialMama) :
    ReferalTx Bool := do
  let ship ← getOr .doesNotExist fun s => s.relationships toMama
  if ship.refuses potential then pure false
  else do
    let next ← gets fun s => ship.updated s potential
    modify fun s => s.setRelationship toMama next
    pure (decide (next ≠ ship))

/-- The relationship as `change_referal_mama` writes it; the type follows only where
the mama or the grandma changes. -/
def changed (s : ReferalDb) (ship : ReferalRelationship) (upperMamaId : Nat) (isElite : Bool) :
    ReferalRelationship :=
  let moved := { ship with
    referalFromMamaId := upperMamaId
    referalFromGrandmaId := s.validUpperOf upperMamaId }
  if moved ≠ ship ∧ isElite = true then { moved with referalType := .elite } else moved

def changeReferalMama (toMama upperMamaId : Nat) (isElite : Bool) : ReferalTx Bool := do
  let ship ← getOr .doesNotExist fun s => s.relationships toMama
  let next ← gets fun s => ship.changed s upperMamaId isElite
  modify fun s => s.setRelationship toMama next
  pure (decide (next ≠ ship))

end ReferalRelationship

/-! ## New elite mamas -/

/-- `extras_info['mm_linkid']`: a number, or a text with its value if it has only digits. -/
inductive MmLinkid where
  | number (value : Int)
  | text (value : Option Nat)
  deriving DecidableEq, Repr

structure SaleOrder where
  oid : String
  modelId : Nat
  mmLinkid : Option MmLinkid
  deriving DecidableEq, Repr

/-- The mama whose link the order was made through, 0 without one; a number other than
0 has no `isdigit`, which raises. -/
def SaleOrder.linkedMama (so : SaleOrder) (toMama : Nat) : Option Nat :=
  match so.mmLinkid with
  | none | some (.number 0) | some (.text none) => some 0
  | some (.number _) => none
  | some (.text (some mamaId)) => some (if mamaId = toMama then 0 else mamaId)

/-- The mama above a new elite mama: of the link, else the one she has, else the one
whose fan she is. -/
def eliteUpper (s : ReferalDb) (customer : Customer) (toMama : Nat) (so : SaleOrder) :
    Option Nat := do
  let linked ← so.linkedMama toMama
  if linked ≠ 0 then pure linked
  else
    match s.relationships toMama with
    | some ship => pure ship.referalFromMamaId
    | none => pure (((s.fans customer.id).map XlmmFans.xlmm).getD 0)

namespace XiaoluMama

/-- Elite mamas in effect keep their relationship. -/
def isSettled (mama : XiaoluMama) : Bool :=
  decide (RenewType.elite.days ≤ mama.lastRenewType.days) &&
    mama.chargeStatus = .charged && mama.status = .effect

/-- The mama after her order; `upper` is the row of the mama above. -/
def promoted (mama : XiaoluMama) (modelId : Nat) (upper : Option XiaoluMama) : XiaoluMama :=
  { mama with
    lastRenewType := if modelId = 20 then .full else mama.lastRenewType
    chargeStatus := .charged
    status := .effect
    referalFrom :=
      match upper with
      | some upper => if upper.referalFrom = .unset then .direct else .indirect
      | none => .direct }

end XiaoluMama

/-- The grandma is looked up only where the mama above has a row. -/
def eliteGrandma (s : ReferalDb) (upperMamaId : Nat) : Nat :=
  if (s.mamas upperMamaId).isSome then s.upperOf upperMamaId else 0

/-- `create_new_elite_mama`, but for the times of charge and renewal. -/
def createNewEliteMama (today : Date) (customer : Customer) (toMamaId : Nat) (so : SaleOrder) :
    ReferalTx Unit := do
  let toMama ← getOr .attributeError fun s => s.mamas toMamaId
  if toMama.isSettled then pure ()
  else do
    let upperMamaId ← getOr .attributeError fun s => eliteUpper s customer toMamaId so
    let relationShip ← gets fun s => s.relationships toMamaId
    modify fun s => s.setMama toMamaId (toMama.promoted so.modelId (s.mamas upperMamaId))
    let grandmaId ← gets fun s => eliteGrandma s upperMamaId
    match relationShip with
    | some ship =>
        modify fun s => s.setRelationship toMamaId
          { ship with
            referalFromMamaId := upperMamaId
            referalFromGrandmaId := grandmaId
            orderId := so.oid }
    | none =>
        ReferalRelationship.insert toMamaId
          { referalFromGrandmaId := grandmaId
            referalFromMamaId := upperMamaId
            referalToMamaNick := customer.nick
            referalToMamaImg := customer.thumbnail
            orderId := so.oid
            referalType := .elite
            status := .valid
            created := today }

end ShopManager.Mama.Referal
