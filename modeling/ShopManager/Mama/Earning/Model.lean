import ShopManager.Mama.Award
import ShopManager.Mama.CarryWallet
import ShopManager.Pay.Refund.Model

/-!
# Earnings of orders and awards

A sale through a mama makes an `OrderCarry` for her and a second-level one for the mama
above, and an `AwardCarry` is sent to her.  Saving one queues the tasks that keep its
`CarryRecord`, and for a direct carry the task that keeps the second-level one.  A task
works on the row as it was when it was queued.
-/

namespace ShopManager.Mama.Earning

open Library Library.Tx Library.Execution
open Pay.Trade (TradeStatus)
open Pay.Refund (RefundStatus)
open Referal (Customer)

inductive OrderCarryType where
  | wapOrder
  | appOrder
  | referalOrder
  | advancedMamaReferalOrder
  deriving DecidableEq, Repr

def OrderCarryType.number : OrderCarryType → Nat
  | wapOrder => 1
  | appOrder => 2
  | referalOrder => 3
  | advancedMamaReferalOrder => 4

inductive OrderCarryStatus where
  | staging
  | estimate
  | confirm
  | cancel
  deriving DecidableEq, Repr

/-- Amounts are in cents, times in seconds. -/
structure OrderCarry where
  id : Nat
  mamaId : Nat
  orderId : String
  orderValue : Int
  carryNum : Int
  carryType : OrderCarryType
  carryDescription : String
  skuName : String
  skuImg : String
  contributorNick : String
  contributorImg : String
  contributorId : Nat
  agencyLevel : Nat
  carryPlanName : String
  dateField : Date
  uniKey : String
  status : OrderCarryStatus
  created : Nat
  deriving DecidableEq, Repr

instance : Row OrderCarry where
  pk := OrderCarry.id
  withPk n carry := { carry with id := n }

/-- `gen_ordercarry_unikey`: the carries of the shop and of the app share their key. -/
def genOrdercarryUnikey (carryType : OrderCarryType) (orderId : String) : String :=
  let carryType := if carryType = .appOrder then .wapOrder else carryType
  "order-" ++ (toString carryType.number ++ ("-" ++ orderId))

/-- The key of an award; none of the keys that awards are sent under is one of an order. -/
structure AwardKey where
  text : String
  notOrder : ∀ rest, text ≠ "order-" ++ rest

/-- The relationship of a mama to the one above her. -/
structure ReferalRelationship where
  referalFromMamaId : Nat
  referalToMamaId : Nat
  referalToMamaNick : String
  referalToMamaImg : String
  created : Nat
  deriving DecidableEq, Repr

/-- A queued task and the row that it was queued with. -/
inductive Task where
  | awardcarryUpdateCarryrecord (uniKey : String) (carry : AwardCarry)
  | ordercarryUpdateCarryrecord (carry : OrderCarry)
  | updateSecondLevelOrdercarry (ship : ReferalRelationship) (carry : OrderCarry)
  deriving DecidableEq, Repr

/-- The awards are found by their keys, a unique column. -/
structure EarningDb where
  carry : CarryDb
  orderCarries : Table OrderCarry
  awards : String → Option AwardCarry
  queue : List Task

abbrev EarningTx (α : Type) := Tx EarningDb Exn α

/-- `awardAmount` is what `award_amount * 0.01` becomes in the cents of an award. -/
structure MamaMissionRecord where
  mamaId : Nat
  missionName : String
  yearWeek : String
  targetValue : Int
  awardAmount : Int
  deriving DecidableEq, Repr

/-- What other tables say: the relationship that recommends a mama, the item of an
order, the products, the customers, those of the mamas, the mamas' `weikefu`, and the
mission records. -/
structure Surroundings where
  referalRelationship : Nat → Option ReferalRelationship
  saleOrderItem : String → Option Nat
  product : Nat → Bool
  customer : Nat → Option Customer
  mamaCustomer : Nat → Option Customer
  weikefu : Nat → Option String
  missionRecord : Nat → Option MamaMissionRecord

/-- The day and the second at which something runs, and the text that it draws. -/
structure Moment where
  today : Date
  now : Nat
  drawn : String
  deriving DecidableEq, Repr

namespace EarningDb

def inCarry {α : Type} (m : CarryTx α) : EarningTx α :=
  zoom EarningDb.carry (fun carry s => { s with carry := carry }) m

def delay (task : Task) : EarningTx Unit :=
  modify fun s => { s with queue := s.queue ++ [task] }

end EarningDb

open EarningDb

/-! ## The carries and their receivers -/

namespace OrderCarry

def isDirectOrFansCarry (carry : OrderCarry) : Bool :=
  carry.carryType = .wapOrder || carry.carryType = .appOrder

/-- The relationship that `ordercarry_update_ordercarry` finds: one that was there before
the carry. -/
def upper (around : Surroundings) (carry : OrderCarry) : Option ReferalRelationship :=
  (around.referalRelationship carry.mamaId).filter fun ship => ship.created < carry.created

def postSave (around : Surroundings) (carry : OrderCarry) : EarningTx Unit := do
  delay (.ordercarryUpdateCarryrecord carry)
  if carry.isDirectOrFansCarry then
    match carry.upper around with
    | some ship => delay (.updateSecondLevelOrdercarry ship carry)
    | none => pure ()
  else pure ()

def save (around : Surroundings) (carry : OrderCarry) : EarningTx Unit := do
  modify fun s => { s with orderCarries := s.orderCarries.save carry }
  carry.postSave around

/-- A new carry; `uni_key` is unique. -/
def insert (around : Surroundings) (carry : OrderCarry) : EarningTx Unit := do
  let taken ← gets fun s => (s.orderCarries.first fun c => c.uniKey = carry.uniKey).isSome
  raiseIf (taken = true) .integrityError
  let stored ← gets fun s => s.orderCarries.stored carry
  modify fun s => { s with orderCarries := s.orderCarries.insert carry }
  stored.postSave around

/-- `except IntegrityError` around the save of a new carry. -/
def insertOrWarn (around : Surroundings) (carry : OrderCarry) : EarningTx Unit :=
  tryCatch (carry.insert around) fun e =>
    if e = .integrityError then pure () else raise e

end OrderCarry

namespace AwardCarry

def save (uniKey : String) (award : AwardCarry) : EarningTx Unit := do
  modify fun s => { s with awards := Function.update s.awards uniKey (some award) }
  delay (.awardcarryUpdateCarryrecord uniKey award)

/-- The arguments of `send_award`; `carryNum` is `num * 100`. -/
structure SendArgs where
  mamaId : Nat
  carryNum : Int
  description : String
  status : AwardStatus
  carryType : Nat
  contributorNick : Option String
  contributorImg : Option String
  contributorMamaId : Option Nat
  deriving DecidableEq, Repr

/-- A text that is given and not empty, else the customer's. -/
def orCustomers (text : Option String) (ofCustomer : Customer → String)
    (customer : Option Customer) : EarningTx String :=
  match text.filter (· ≠ "") with
  | some text => pure text
  | none => getOr .attributeError fun _ => customer.map ofCustomer

def sendAward (around : Surroundings) (today : Date) (uniKey : AwardKey) (args : SendArgs) :
    EarningTx Unit := do
  match ← gets fun s => s.awards uniKey.text with
  | some _ => pure ()
  | none => do
      let nick ← orCustomers args.contributorNick Customer.nick
        (around.mamaCustomer args.mamaId)
      let img ← orCustomers args.contributorImg Customer.thumbnail
        (around.mamaCustomer args.mamaId)
      save uniKey.text
        { mamaId := args.mamaId
          carryNum := args.carryNum
          carryType := args.carryType
          carryDescription := args.description
          contributorNick := nick
          contributorImg := img
          contributorMamaId := (args.contributorMamaId.filter (· ≠ 0)).getD args.mamaId
          dateField := today
          status := args.status }

def confirmAward (uniKey : String) (award : AwardCarry) : EarningTx Unit :=
  save uniKey { award with status := .confirmed }

def cancelAward (uniKey : String) (award : AwardCarry) : EarningTx Unit :=
  save uniKey { award with status := .cancel }

end AwardCarry

/-- The constants of the two classes are the same numbers. -/
def awardRecordStatus : AwardStatus → CarryStatus
  | .staging => .pending
  | .confirmed => .confirmed
  | .cancel => .cancel

def OrderCarryStatus.recordStatus : OrderCarryStatus → CarryStatus
  | staging => .pending
  | estimate => .pending
  | confirm => .confirmed
  | cancel => .cancel

/-- A record whose carry has another status.  It never becomes pending. -/
def followStatus (today : Date) (status : CarryStatus) (record : CarryRecord) : CarryTx Unit :=
  match status with
  | .confirmed => record.confirm today
  | .cancel => record.cancel today
  | .pending => pure ()

def findRecord (uniKey : String) (s : CarryDb) : Option CarryRecord :=
  s.carryRecords.first fun r => r.uniKey = uniKey

def taskAwardcarryUpdateCarryrecord (today : Date) (uniKey : String) (carry : AwardCarry) :
    CarryTx Unit :=
  if carry.mamaId = 0 then pure ()
  else do
    match ← gets (findRecord uniKey) with
    | some record =>
        if record.status ≠ awardRecordStatus carry.status then
          followStatus today (awardRecordStatus carry.status) record
        else if record.carryNum ≠ carry.carryNum then
          if record.status = .pending then
            record.changePendingCarryAmount today carry.carryNum
          else pure ()
        else pure ()
    | none =>
        if carry.carryNum > 0 then
          CarryRecord.create today
            { mamaId := carry.mamaId
              carryNum := carry.carryNum
              carryType := .recommend
              desc := carry.carryDescription
              uniKey := some uniKey
              status := some (awardRecordStatus carry.status) }
        else pure ()

def taskOrdercarryUpdateCarryrecord (today : Date) (carry : OrderCarry) : CarryTx Unit :=
  if carry.mamaId = 0 then pure ()
  else do
    match ← gets (findRecord carry.uniKey) with
    | some record =>
        if record.status ≠ carry.status.recordStatus then
          followStatus today carry.status.recordStatus record
        else pure ()
    | none =>
        CarryRecord.create today
          { mamaId := carry.mamaId
            carryNum := carry.carryNum
            carryType := .order
            desc := carry.carryDescription
            uniKey := some carry.uniKey
            status := some carry.status.recordStatus }

/-- The carry that `gen_ordercarry` makes for the mama above. -/
def secondLevelCarry (moment : Moment) (ship : ReferalRelationship) (carry : OrderCarry)
    (carryNum : Int) : OrderCarry where
  id := 0
  mamaId := ship.referalFromMamaId
  orderId := carry.orderId
  orderValue := carry.orderValue
  carryNum := carryNum
  carryType := .referalOrder
  carryDescription := moment.drawn
  skuName := carry.skuName
  skuImg := carry.skuImg
  contributorNick := ship.referalToMamaNick
  contributorImg := ship.referalToMamaImg
  contributorId := ship.referalToMamaId
  agencyLevel := carry.agencyLevel
  carryPlanName := carry.carryPlanName
  dateField := carry.dateField
  uniKey := genOrdercarryUnikey .referalOrder carry.orderId
  status := carry.status
  created := moment.now

/-- A save with `update_fields` where the status differs. -/
def syncStatus (around : Surroundings) (status : OrderCarryStatus) (record : OrderCarry) :
    EarningTx Unit :=
  if record.status ≠ status then
    OrderCarry.save around { record with status := status }
  else pure ()

/-- The second save of `gen_ordercarry`, of the row that the first one has written. -/
def syncCarryNum (around : Surroundings) (carryNum : Int) (record : OrderCarry) :
    EarningTx Unit :=
  if record.carryNum ≠ carryNum then
    OrderCarry.save around { record with carryNum := carryNum }
  else pure ()

/-- `gen_ordercarry` for the second level of a direct carry, its only call. -/
def genOrdercarry (around : Surroundings) (moment : Moment) (ship : ReferalRelationship)
    (carry : OrderCarry) (carryNum : Int) : EarningTx Unit := do
  let uniKey := genOrdercarryUnikey .referalOrder carry.orderId
  match ← gets fun s => s.orderCarries.first fun c => c.uniKey = uniKey with
  | some record => do
      syncStatus around carry.status record
      syncCarryNum around carryNum { record with status := carry.status }
  | none =>
      if ship.referalFromMamaId = ship.referalToMamaId then pure ()
      else OrderCarry.insertOrWarn around (secondLevelCarry moment ship carry carryNum)

/-- `carry_num * 0.1`, as the column of integers stores it. -/
def tenPercent (carryNum : Int) : Int := carryNum.tdiv 10

def taskUpdateSecondLevelOrdercarry (around : Surroundings) (moment : Moment)
    (ship : ReferalRelationship) (carry : OrderCarry) : EarningTx Unit := do
  let records ← gets fun s => s.orderCarries.filter fun c =>
    c.orderId = carry.orderId ∧ c.carryType = .referalOrder
  if records ≠ [] then forEach records (syncStatus around carry.status)
  else do
    let item ← getOr .attributeError fun _ => around.saleOrderItem carry.orderId
    if around.product item then
      genOrdercarry around moment ship carry (tenPercent carry.carryNum)
    else pure ()

/-- A saved order as the task sees it; `teambuyCanSend` is the answer for the order of a
team, which may raise. -/
structure Order where
  oid : String
  payment : Int
  title : String
  picPath : String
  payTime : Option Date
  created : Date
  status : TradeStatus
  refundStatus : RefundStatus
  teambuyCanSend : Option (Except Exn Bool)

/-- The stored numbers of the statuses, which the source compares. -/
def tradeNumber : TradeStatus → Nat
  | .noCreatePay => 0
  | .waitBuyerPay => 1
  | .waitSellerSendGoods => 2
  | .waitBuyerConfirmGoods => 3
  | .tradeBuyerSigned => 4
  | .tradeFinished => 5
  | .tradeClosed => 6
  | .tradeClosedBySys => 7

def refundNumber : RefundStatus → Nat
  | .noRefund => 0
  | .refundClosed => 1
  | .refundRefuseBuyer => 2
  | .refundWaitSellerAgree => 3
  | .refundWaitReturnGoods => 4
  | .refundConfirmGoods => 5
  | .refundApprove => 6
  | .refundSuccess => 7

namespace Order

def unrefunded (order : Order) : Bool :=
  decide (refundNumber order.refundStatus ≤ refundNumber .refundRefuseBuyer)

def needSend (order : Order) : Except Exn Bool :=
  match order.teambuyCanSend with
  | some answer => answer
  | none => .ok (order.status = .waitSellerSendGoods && order.unrefunded)

def isConfirmed (order : Order) : Bool :=
  decide (tradeNumber .waitBuyerConfirmGoods ≤ tradeNumber order.status) &&
    decide (tradeNumber order.status ≤ tradeNumber .tradeFinished) && order.unrefunded

def isCanceled (order : Order) : Bool :=
  decide (tradeNumber .tradeFinished < tradeNumber order.status) || !order.unrefunded

def carryStatus (order : Order) : Except Exn OrderCarryStatus := do
  let needSend ← order.needSend
  if needSend then pure .estimate
  else if order.isConfirmed then pure .confirm
  else if order.isCanceled then pure .cancel
  else pure .staging

end Order

/-- The arguments of `task_update_ordercarry` beside the order. -/
structure UpdateArgs where
  mamaId : Nat
  customerPk : Nat
  carryAmount : Int
  agencyLevel : Nat
  carryPlanName : String
  viaApp : Bool
  deriving DecidableEq, Repr

def UpdateArgs.carryType (args : UpdateArgs) : OrderCarryType :=
  if args.viaApp then .appOrder else .wapOrder

def UpdateArgs.uniKey (args : UpdateArgs) (order : Order) : String :=
  genOrdercarryUnikey args.carryType order.oid

def directCarry (moment : Moment) (order : Order) (args : UpdateArgs) (customer : Customer)
    (status : OrderCarryStatus) : OrderCarry where
  id := 0
  mamaId := args.mamaId
  orderId := order.oid
  orderValue := order.payment
  carryNum := args.carryAmount
  carryType := args.carryType
  carryDescription := moment.drawn
  skuName := order.title
  skuImg := order.picPath
  contributorNick := customer.nick
  contributorImg := customer.thumbnail
  contributorId := args.customerPk
  agencyLevel := args.agencyLevel
  carryPlanName := args.carryPlanName
  dateField := order.payTime.getD order.created
  uniKey := args.uniKey order
  status := status
  created := moment.now

def taskUpdateOrdercarry (around : Surroundings) (moment : Moment) (order : Order)
    (args : UpdateArgs) : EarningTx Unit := do
  let status ← ofExcept order.carryStatus
  match ← gets fun s => s.orderCarries.first fun c => c.uniKey = args.uniKey order with
  | some orderCarry => syncStatus around status orderCarry
  | none => do
      let customer ← getOr .doesNotExist fun _ => around.customer args.customerPk
      OrderCarry.insertOrWarn around (directCarry moment order args customer status)

/-- `gen_uni_key` of a mission record. -/
def weeklyKeyText (mamaId missionRecordId : Nat) : String :=
  "weeklyaward-" ++ (toString mamaId ++ ("-" ++ toString missionRecordId))

theorem weeklyKeyText_notOrder (mamaId missionRecordId : Nat) (rest : String) :
    weeklyKeyText mamaId missionRecordId ≠ "order-" ++ rest := by
  intro h
  have hhead := congrArg (fun text => text.toList.head?) h
  simp [weeklyKeyText] at hhead

def weeklyKey (mamaId missionRecordId : Nat) : AwardKey :=
  ⟨weeklyKeyText mamaId missionRecordId, weeklyKeyText_notOrder mamaId missionRecordId⟩

/-- `mama_mission` for a mama and a record of hers. -/
def missionOf (around : Surroundings) (mamaId missionRecordId : Nat) :
    Option MamaMissionRecord :=
  (around.missionRecord missionRecordId).filter fun mission => mission.mamaId = mamaId

def awardName (mission : MamaMissionRecord) : String :=
  mission.missionName ++ ("(" ++ (mission.yearWeek ++ ")奖励"))

def awardMamaSale : Nat := 9

def taskSendMamaWeeklyAward (around : Surroundings) (today : Date)
    (mamaId missionRecordId : Nat) : EarningTx Unit := do
  let mission ← getOr .attributeError fun _ => missionOf around mamaId missionRecordId
  let uniKey := weeklyKey mission.mamaId missionRecordId
  match (← gets fun s => s.awards uniKey.text).filter fun award => award.status = .cancel with
  | some awardCarry => AwardCarry.save uniKey.text { awardCarry with status := .staging }
  | none => do
      let _ ← getOr .attributeError fun _ => around.weikefu mamaId
      AwardCarry.sendAward around today uniKey
        { mamaId := mamaId
          carryNum := mission.awardAmount
          description := awardName mission
          status := .staging
          carryType := awardMamaSale
          contributorNick := none
          contributorImg := none
          contributorMamaId := none }

/-- The award part of `task_cancel_or_finish_mama_mission_award`. -/
def taskCancelOrFinishMamaMissionAward (around : Surroundings) (missionRecordId : Nat)
    (someWeekFinishValue : Int) : EarningTx Unit :=
  match around.missionRecord missionRecordId with
  | none => pure ()
  | some mission =>
      if someWeekFinishValue ≥ mission.targetValue then do
        let uniKey := weeklyKey mission.mamaId missionRecordId
        let awardCarry ← getOr .attributeError fun s => s.awards uniKey.text
        AwardCarry.confirmAward uniKey.text awardCarry
      else pure ()

def taskCancelMamaWeeklyAward (around : Surroundings) (mamaId missionRecordId : Nat) :
    EarningTx Unit := do
  let mission ← getOr .attributeError fun _ => missionOf around mamaId missionRecordId
  let uniKey := weeklyKey mission.mamaId missionRecordId
  match ← gets fun s => s.awards uniKey.text with
  | some awardCarry => AwardCarry.cancelAward uniKey.text awardCarry
  | none => pure ()

def Task.perform (around : Surroundings) (moment : Moment) : Task → EarningTx Unit
  | awardcarryUpdateCarryrecord uniKey carry =>
      inCarry (taskAwardcarryUpdateCarryrecord moment.today uniKey carry)
  | ordercarryUpdateCarryrecord carry =>
      inCarry (taskOrdercarryUpdateCarryrecord moment.today carry)
  | updateSecondLevelOrdercarry ship carry =>
      taskUpdateSecondLevelOrdercarry around moment ship carry

def work (around : Surroundings) (moment : Moment) : EarningTx Unit := do
  match ← gets EarningDb.queue with
  | [] => pure ()
  | task :: rest => do
      modify fun s => { s with queue := rest }
      task.perform around moment

/-- A method of the award under a key, if there is one. -/
def onAward (method : String → AwardCarry → EarningTx Unit) (uniKey : AwardKey) :
    EarningTx Unit := do
  match ← gets fun s => s.awards uniKey.text with
  | some award => method uniKey.text award
  | none => pure ()

inductive Operation where
  | taskUpdateOrdercarry (moment : Moment) (order : Order) (args : UpdateArgs)
  | sendAward (today : Date) (uniKey : AwardKey) (args : AwardCarry.SendArgs)
  | confirmAward (uniKey : AwardKey)
  | cancelAward (uniKey : AwardKey)
  | taskSendMamaWeeklyAward (today : Date) (mamaId missionRecordId : Nat)
  | taskCancelOrFinishMamaMissionAward (missionRecordId : Nat) (someWeekFinishValue : Int)
  | taskCancelMamaWeeklyAward (mamaId missionRecordId : Nat)
  | work (moment : Moment)

def Operation.program (around : Surroundings) : Operation → EarningTx Unit
  | .taskUpdateOrdercarry moment order args =>
      Earning.taskUpdateOrdercarry around moment order args
  | .sendAward today uniKey args => AwardCarry.sendAward around today uniKey args
  | .confirmAward uniKey => onAward AwardCarry.confirmAward uniKey
  | .cancelAward uniKey => onAward AwardCarry.cancelAward uniKey
  | .taskSendMamaWeeklyAward today mamaId missionRecordId =>
      Earning.taskSendMamaWeeklyAward around today mamaId missionRecordId
  | .taskCancelOrFinishMamaMissionAward missionRecordId value =>
      Earning.taskCancelOrFinishMamaMissionAward around missionRecordId value
  | .taskCancelMamaWeeklyAward mamaId missionRecordId =>
      Earning.taskCancelMamaWeeklyAward around mamaId missionRecordId
  | .work moment => Earning.work around moment

def exec (around : Surroundings) (op : Operation) (s : EarningDb) : EarningDb :=
  ((op.program around).run s).2

/-- A shop without carries, with any mamas and wallets. -/
def fresh (mamas : Nat → Option (Option Nat)) (wallet : Pay.Wallet.WalletDb) : EarningDb where
  carry := { carryRecords := .empty, mamas := mamas, wallet := wallet }
  orderCarries := .empty
  awards := fun _ => none
  queue := []

end ShopManager.Mama.Earning
