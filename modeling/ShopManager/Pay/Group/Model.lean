import ShopManager.Basic
import ShopManager.Library.Table
import ShopManager.Library.Transaction

/-!
# Group buying

A `TeamBuy` is open until enough customers have paid for a place in it or its time
is over.  A paid trade joins the group that it names, or opens one; a group that is
full has succeeded, one that is too late is failed and its members are refunded.
-/

namespace ShopManager.Pay.Group

open Library Library.Tx

inductive TeamStatus where
  | opened
  | succeeded
  | failed
  deriving DecidableEq, Repr

structure TeamBuy where
  id : Nat
  creator : Nat
  skuId : Nat
  shareXlmmId : Option Nat
  limitTime : Nat
  limitDays : Nat
  limitPersonNum : Int
  status : TeamStatus
  deriving DecidableEq, Repr

instance : Row TeamBuy where
  pk := TeamBuy.id
  withPk n teambuy := { teambuy with id := n }

structure TeamBuyDetail where
  id : Nat
  teambuy : Nat
  tid : String
  oid : String
  customerId : Nat
  originizer : Bool
  deriving DecidableEq, Repr

instance : Row TeamBuyDetail where
  pk := TeamBuyDetail.id
  withPk n detail := { detail with id := n }

/-- The first order of a trade. -/
structure SaleOrder where
  oid : String
  itemId : Nat
  skuId : Nat

/-- What a group reads of a trade; `teambuyId` and `mmLinkid` are of its
`extras_info`. -/
structure SaleTrade where
  tid : String
  isTeambuyOrder : Bool
  payTime : Option Nat
  buyerId : Nat
  teambuyId : Option Nat
  mmLinkid : Option Nat
  saleOrder : Option SaleOrder

/-- The groups and their members, with what is looked up of other tables: the
customers, the mama of a customer, and how many persons a group for a product has. -/
structure TeamBuyDb where
  teambuys : Table TeamBuy
  details : Table TeamBuyDetail
  customers : List Nat
  mamas : Nat → Option Nat
  teambuyPersonNum : Nat → Option Int

abbrev TeamBuyTx (α : Type) := Tx TeamBuyDb Exn α

/-- How the work ends that a group gives to other parts of the shop: the release of
the orders of a group that has succeeded, and the refund of a member of one that has
not. -/
structure Surroundings where
  now : Nat
  triggerSaleorder : Nat → Except Exn Unit
  refund : TeamBuyDetail → Except Exn Unit

namespace TeamBuyDb

/-- `teambuy.details`. -/
def detailsOf (s : TeamBuyDb) (teambuy : Nat) : List TeamBuyDetail :=
  s.details.filter fun detail => detail.teambuy = teambuy

def count (s : TeamBuyDb) (teambuy : Nat) : Nat := (s.detailsOf teambuy).length

end TeamBuyDb

open TeamBuyDb

namespace TeamBuyDetail

/-- `tid` and `oid` are unique columns. -/
def insert (detail : TeamBuyDetail) : TeamBuyTx Unit := do
  let taken ← gets fun s => (s.details.first fun d => d.tid = detail.tid ∨ d.oid = detail.oid).isSome
  raiseIf (taken = true) .integrityError
  modify fun s => { s with details := s.details.insert detail }

end TeamBuyDetail

namespace TeamBuy

def withStatus (status : TeamStatus) (teambuy : TeamBuy) : TeamBuy :=
  { teambuy with status := status }

/-- `save` of a group that is not open; the hook leaves it alone. -/
def save (teambuy : TeamBuy) : TeamBuyTx Unit :=
  modify fun s => { s with teambuys := s.teambuys.save teambuy }

def setStatusSuccess (around : Surroundings) (teambuy : TeamBuy) : TeamBuyTx Unit := do
  (teambuy.withStatus .succeeded).save
  ofExcept (around.triggerSaleorder teambuy.id)

def checkFinishTeambuy (around : Surroundings) (teambuy : TeamBuy) : TeamBuyTx Unit := do
  let count ← gets fun s => s.count teambuy.id
  if (count : Int) ≥ teambuy.limitPersonNum then teambuy.setStatusSuccess around else pure ()

/-- A new group is saved, and the hook asks whether it is complete. -/
def insert (around : Surroundings) (teambuy : TeamBuy) : TeamBuyTx TeamBuy := do
  let stored ← gets fun s => s.teambuys.stored teambuy
  modify fun s => { s with teambuys := s.teambuys.insert teambuy }
  stored.checkFinishTeambuy around
  pure stored

def openTeambuy (around : Surroundings) (saletrade : SaleTrade) : TeamBuyTx TeamBuy := do
  let saleorder ← ofExcept (saletrade.saleOrder.elim (.error .attributeError) .ok)
  let personNum ← getOr .doesNotExist fun s => s.teambuyPersonNum saleorder.itemId
  let customer ← getOr .attributeError fun s =>
    s.customers.find? fun customer => customer = saletrade.buyerId
  let xlmm ← gets fun s => s.mamas customer
  insert around
    { id := 0
      creator := saletrade.buyerId
      skuId := saleorder.skuId
      shareXlmmId := xlmm <|> saletrade.mmLinkid
      limitTime := around.now + 3600
      limitDays := 1
      limitPersonNum := personNum
      status := .opened }

/-- The group that a trade names, unless it is full or the buyer is in it. -/
def joinable (s : TeamBuyDb) (saletrade : SaleTrade) (teambuy : TeamBuy) : Bool :=
  decide ((s.count teambuy.id : Int) < teambuy.limitPersonNum) &&
    !(s.detailsOf teambuy.id).any fun detail => detail.customerId = saletrade.buyerId

/-- The group that a trade joins, if it joins one. -/
def findTeambuy (saletrade : SaleTrade) : TeamBuyTx (Option TeamBuy) :=
  match saletrade.teambuyId with
  | none => pure none
  | some teambuyId => do
      let teambuy ← getOr .doesNotExist fun s => s.teambuys.get? teambuyId
      gets fun s => if joinable s saletrade teambuy then some teambuy else none

/-- The detail of a member, and the check that follows it. -/
def addMember (around : Surroundings) (saletrade : SaleTrade) (originizer : Bool)
    (teambuy : TeamBuy) : TeamBuyTx Unit := do
  let saleorder ← ofExcept (saletrade.saleOrder.elim (.error .attributeError) .ok)
  TeamBuyDetail.insert
    { id := 0
      teambuy := teambuy.id
      tid := saletrade.tid
      oid := saleorder.oid
      customerId := saletrade.buyerId
      originizer := originizer }
  teambuy.checkFinishTeambuy around

/-- The status of the group that a trade names is not looked at. -/
def createOrJoin (around : Surroundings) (saletrade : SaleTrade) : TeamBuyTx Unit := do
  let joined ← gets fun s => (s.details.first fun d => d.tid = saletrade.tid).isSome
  if joined = true then pure ()
  else do
    let found ← findTeambuy saletrade
    match found with
    | some teambuy => addMember around saletrade false teambuy
    | none => do
        let teambuy ← openTeambuy around saletrade
        addMember around saletrade true teambuy

/-- The refunds come before the status is saved. -/
def setStatusFailed (around : Surroundings) (teambuy : TeamBuy) : TeamBuyTx Unit := do
  let details ← gets fun s => s.detailsOf teambuy.id
  forEach details fun detail => ofExcept (around.refund detail)
  raiseIf (details = []) (.exception "此团购名下没有订单")
  (teambuy.withStatus .failed).save

/-- The end of a group that was open when it was read. -/
def settle (around : Surroundings) (teambuy : TeamBuy) : TeamBuyTx Unit := do
  let count ← gets fun s => s.count teambuy.id
  if (count : Int) ≥ teambuy.limitPersonNum then teambuy.setStatusSuccess around
  else teambuy.setStatusFailed around

def endTeambuy (around : Surroundings) (sku : Nat) : TeamBuyTx Unit := do
  let teambuys ← gets fun s => s.teambuys.filter fun teambuy =>
    teambuy.status = .opened ∧ teambuy.skuId = sku
  forEach teambuys (settle around)

def taskScheduleCheckTeambuy (around : Surroundings) : TeamBuyTx Unit := do
  let teambuys ← gets fun s => s.teambuys.filter fun teambuy =>
    teambuy.limitTime < around.now ∧ teambuy.status = .opened
  forEach teambuys (settle around)

end TeamBuy

/-- A paid trade takes its place in a group; it is the only caller of
`create_or_join`. -/
def SaleTrade.updateTeambuy (around : Surroundings) (trade : SaleTrade) : TeamBuyTx Unit :=
  if trade.isTeambuyOrder ∧ trade.payTime.isSome then do
    let joined ← gets fun s => (s.details.first fun d => d.tid = trade.tid).isSome
    if joined = true then pure () else TeamBuy.createOrJoin around trade
  else pure ()

end ShopManager.Pay.Group
