import ShopManager.Purchase.Model

/-!
# Order lists and their bills

An order list is paid by bills and filled by arrivals.  Its stage is moved on by either
side: by the bill that is finished, by `update_stage`, and by the arrival that was the
last one.  Bills of one supplier may be merged, which voids them.
-/

namespace ShopManager.Finance

open Library Library.Tx
open Purchase (OrderListStage)

inductive PayWay where
  | cod
  | prepaid
  | pod
  | other
  deriving DecidableEq, Repr

inductive ArrivalProcess where
  | notArrived
  | needProcess
  | pressed
  | finished
  deriving DecidableEq, Repr

/-- `lack` says whether goods are missing, and is none before the first arrival. -/
structure OrderList where
  id : Nat
  stage : OrderListStage
  billMethod : PayWay
  isPostpay : Bool
  lack : Option Bool
  inferior : Bool
  arrivalProcess : ArrivalProcess
  deriving DecidableEq, Repr

instance : Row OrderList where
  pk := OrderList.id
  withPk n ol := { ol with id := n }

structure OrderDetail where
  id : Nat
  orderListId : Nat
  buyQuantity : Int
  arrivalQuantity : Int
  inferiorQuantity : Int
  deriving DecidableEq, Repr

instance : Row OrderDetail where
  pk := OrderDetail.id
  withPk n od := { od with id := n }

/-- The sign of an amount; a bill of neither is void. -/
inductive BillType where
  | pay
  | delete
  | receive
  deriving DecidableEq, Repr

def BillType.sign : BillType → Int
  | pay => -1
  | delete => 0
  | receive => 1

/-- `plan_amount / abs(plan_amount)` -/
def BillType.ofAmount (amount : Int) : BillType :=
  if amount < 0 then pay else if amount = 0 then delete else receive

inductive BillStatus where
  | delay
  | pending
  | dealed
  | completed
  deriving DecidableEq, Repr

inductive PayMethod where
  | taobaoPay
  | transferPay
  | selfPay
  | receiveDirect
  | receiveDeductible
  | aliPay
  deriving DecidableEq, Repr

/-- Amounts are in cents; what was paid or received is nothing at first. -/
structure Bill where
  id : Nat
  type : BillType
  status : BillStatus
  planAmount : Int
  amount : Int := 0
  payMethod : PayMethod
  supplierId : Option Nat
  deriving DecidableEq, Repr

instance : Row Bill where
  pk := Bill.id
  withPk n bill := { bill with id := n }

/-- The first two kinds relate a bill to an order list, the last to a return. -/
inductive RelationType where
  | dinghuoPay
  | dinghuoReceive
  | returngoodsReceive
  deriving DecidableEq, Repr

structure BillRelation where
  id : Nat
  billId : Nat
  objectId : Nat
  type : RelationType
  deriving DecidableEq, Repr

instance : Row BillRelation where
  pk := BillRelation.id
  withPk n relation := { relation with id := n }

structure FinanceDb where
  orderLists : Table OrderList
  orderDetails : Table OrderDetail
  bills : Table Bill
  relations : Table BillRelation

abbrev FinanceTx (α : Type) := Tx FinanceDb Exn α

namespace OrderDetail

def needArrivalQuantity (od : OrderDetail) : Int := max (od.buyQuantity - od.arrivalQuantity) 0

def save (od : OrderDetail) : FinanceTx Unit :=
  Tx.modify fun s => { s with orderDetails := s.orderDetails.save od }

end OrderDetail

def Bill.isFinished (bill : Bill) : Bool := bill.status = .completed

def Bill.save (bill : Bill) : FinanceTx Unit :=
  Tx.modify fun s => { s with bills := s.bills.save bill }

namespace OrderList

def save (ol : OrderList) : FinanceTx Unit :=
  Tx.modify fun s => { s with orderLists := s.orderLists.save ol }

def details (ol : OrderList) (s : FinanceDb) : List OrderDetail :=
  s.orderDetails.filter fun od => od.orderListId = ol.id

/-- `OrderList.bill`: the first one that is not void. -/
def bill (ol : OrderList) (s : FinanceDb) : Option Bill :=
  (s.relations.filter fun r => r.objectId = ol.id ∧ r.type = .dinghuoPay).findSome? fun r =>
    (s.bills.get? r.billId).filter fun bill => bill.type ≠ .delete

/-- `get_bills`: the bills of the two kinds, void or not. -/
def bills (ol : OrderList) (s : FinanceDb) : List Bill :=
  (s.relations.filter fun r => r.objectId = ol.id ∧
    (r.type = .dinghuoPay ∨ r.type = .dinghuoReceive)).filterMap fun r => s.bills.get? r.billId

/-- Whether goods are missing, as `set_stat` works it out. -/
def lackOf (details : List OrderDetail) : Option Bool :=
  if (details.map fun od => od.arrivalQuantity + od.inferiorQuantity).sum = 0 then none
  else some (details.any fun od => 0 < od.needArrivalQuantity)

/-- The list with its numbers, and whether one of them is new. -/
def setStat (ol : OrderList) (s : FinanceDb) : OrderList × Bool :=
  match ol.stage with
  | .draft | .checked | .deleted => ({ ol with lack := none }, false)
  | .pay | .receive | .state | .completed =>
      let lack := lackOf (ol.details s)
      let arrivalProcess := match lack with
        | some false => .finished
        | none => .notArrived
        | some true =>
            if ol.arrivalProcess = .notArrived ∨ ol.arrivalProcess = .finished then .needProcess
            else ol.arrivalProcess
      let stat := { ol with
        lack := lack
        inferior := (ol.details s).any fun od => 0 < od.inferiorQuantity
        arrivalProcess := arrivalProcess }
      (stat, stat ≠ ol)

def setStagePay (payWay : PayWay) (ol : OrderList) : FinanceTx Unit :=
  save { ol with billMethod := payWay, isPostpay := payWay = .cod, stage := .pay }

def setStageReceive (payWay : PayWay) (ol : OrderList) : FinanceTx Unit :=
  save { ol with billMethod := payWay, stage := .receive, isPostpay := payWay = .cod }

def setStageState (ol : OrderList) : FinanceTx Unit :=
  save { ol with stage := .state, arrivalProcess := .finished }

def setStageComplete (ol : OrderList) : FinanceTx Unit := save { ol with stage := .completed }

/-- A list in the stage of its payment without a bill cannot be asked for it. -/
def updateStage (ol : OrderList) : FinanceTx Unit :=
  match ol.stage with
  | .pay => do
      let bill ← getOr .attributeError ol.bill
      if bill.isFinished = true then ol.setStageReceive ol.billMethod else pure ()
  | .receive => do
      let stat ← gets ol.setStat
      if stat.1.lack = some false then stat.1.setStageState
      else if stat.2 = true then stat.1.save
      else pure ()
  | .state => do
      let stat ← gets ol.setStat
      let bills ← gets ol.bills
      if stat.1.lack = some false ∧ stat.1.isPostpay = false then stat.1.setStageComplete
      else if bills ≠ [] ∧ bills.all Bill.isFinished = true then stat.1.setStageComplete
      else if stat.2 = true then stat.1.save
      else pure ()
  | .draft | .checked | .completed | .deleted => pure ()

def get (id : Nat) : FinanceTx OrderList := getOr .doesNotExist fun s => s.orderLists.get? id

end OrderList

namespace OrderDetail

/-- Each detail of the list has arrived in the number that was bought: whatever its stage
and its bills, the list is complete. -/
def checkIfFinished (od : OrderDetail) : FinanceTx Unit := do
  let ol ← OrderList.get od.orderListId
  let details ← gets ol.details
  if details.all (fun od => od.arrivalQuantity = od.buyQuantity) = true then ol.setStageComplete
  else pure ()

/-- The numbers are the sums over the checked records of the detail. -/
def setArrivalQuantity (arrival inferior : Int) (od : OrderDetail) : FinanceTx Unit := do
  let od := { od with arrivalQuantity := arrival, inferiorQuantity := inferior }
  od.save
  od.checkIfFinished

end OrderDetail

namespace Bill

def relations (bill : Bill) (s : FinanceDb) : List BillRelation :=
  s.relations.filter fun r => r.billId = bill.id

def relate (bill : Nat) (type : RelationType) (objectId : Nat) : FinanceTx Unit :=
  Tx.modify fun s => { s with relations := s.relations.insert ⟨0, bill, objectId, type⟩ }

/-- A new bill with its relations, which are all of one type. -/
def create (lists : List Nat) (relation : RelationType) (bill : Bill) : FinanceTx Unit := do
  let stored ← gets fun s => s.bills.stored bill
  Tx.modify fun s => { s with bills := s.bills.insert bill }
  forEach lists (relate stored.id relation)

def checkMerge (bills : List Bill) : FinanceTx Unit := do
  raiseIf (∃ bill ∈ bills, bill.type = .delete) (.exception "不能合并已经作废的账单")
  raiseIf (∃ bill ∈ bills, ∃ other ∈ bills, bill.supplierId ≠ other.supplierId)
    (.exception "不能合并不同供应商的账单")
  raiseIf (∃ bill ∈ bills, bill.status = .completed) (.exception "不能合并已经完成的账单")
  raiseIf (∃ bill ∈ bills, bill.payMethod = .selfPay) (.exception "有自付不能合单")

/-- `BillRelation.objects.get_or_create` -/
def relateOnce (bill : Nat) (r : BillRelation) : FinanceTx Unit := do
  let found ← gets fun s => (s.relations.first fun r' =>
    r'.billId = bill ∧ r'.objectId = r.objectId ∧ r'.type = r.type).isSome
  if found = true then pure () else relate bill r.type r.objectId

/-- The relations are copied, and the bill is voided with its status as it is. -/
def mergeTo (merged : Nat) (bill : Bill) : FinanceTx Unit := do
  let relations ← gets bill.relations
  forEach relations (relateOnce merged)
  save { bill with type := .delete }

def balance (bills : List Bill) : Int :=
  (bills.map fun bill => bill.planAmount * bill.type.sign).sum

def merged (bills : List Bill) : Bill where
  id := 0
  type := BillType.ofAmount (balance bills)
  status :=
    if bills.any (fun bill => bill.status = .pending ∨ bill.status = .delay) = true then .pending
    else .dealed
  planAmount := (balance bills).natAbs
  payMethod := .transferPay
  supplierId := (bills.head?).bind Bill.supplierId

def merge (bills : List Bill) : FinanceTx Unit := do
  raiseIf (bills = []) (.exception "IndexError")
  let stored ← gets fun s => s.bills.stored (merged bills)
  Tx.modify fun s => { s with bills := s.bills.insert (merged bills) }
  forEach bills (mergeTo stored.id)

/-- The new bill has all columns of the old one but for the amount, and no relation. -/
def split (amount : Int) (bill : Bill) : FinanceTx Unit := do
  Tx.modify fun s => { s with bills := s.bills.insert { bill with id := 0, amount := amount } }
  save { bill with amount := bill.amount - amount }

/-- The order lists of the bill are updated one after another; a return is confirmed,
which leaves the lists alone. -/
def finish (bill : Bill) : FinanceTx Unit := do
  let bill := { bill with status := .completed }
  bill.save
  let relations ← gets bill.relations
  forEach relations fun r =>
    match r.type with
    | .dinghuoPay | .dinghuoReceive => do
        let ol ← OrderList.get r.objectId
        ol.updateStage
    | .returngoodsReceive => pure ()

end Bill

/-! ## Runs -/

inductive Event where
  | setStagePay (list : Nat) (payWay : PayWay)
  | setStageReceive (list : Nat) (payWay : PayWay)
  | updateStage (list : Nat)
  | setArrivalQuantity (detail : Nat) (arrival inferior : Int)
  | createBill (lists : List Nat) (relation : RelationType) (bill : Bill)
  | mergeBills (bills : List Nat)
  | finishBill (bill : Nat)

namespace Event

def program : Event → FinanceTx Unit
  | setStagePay list payWay => do
      let ol ← OrderList.get list
      ol.setStagePay payWay
  | setStageReceive list payWay => do
      let ol ← OrderList.get list
      ol.setStageReceive payWay
  | updateStage list => do
      let ol ← OrderList.get list
      ol.updateStage
  | setArrivalQuantity detail arrival inferior => do
      let od ← getOr .doesNotExist fun s => s.orderDetails.get? detail
      od.setArrivalQuantity arrival inferior
  | createBill lists relation bill => bill.create lists relation
  | mergeBills bills => do
      let bills ← gets fun s => s.bills.filter fun bill => bill.id ∈ bills
      Bill.checkMerge bills
      Bill.merge bills
  | finishBill bill => do
      let bill ← getOr .doesNotExist fun s => s.bills.get? bill
      bill.finish

def exec (event : Event) (s : FinanceDb) : FinanceDb := (event.program.run s).2

end Event

end ShopManager.Finance
