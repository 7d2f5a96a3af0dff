import ShopManager.Coupon.Model
import ShopManager.Pay.Coin
import ShopManager.Pay.Trade.Extras
import ShopManager.Pay.Wallet.Model

/-!
# Trades and their payment

A trade is created with the amounts that the client asks to take from the
wallet and from the coin account; it is charged over one of several channels,
confirmed when the payment is known, or closed.  Amounts are in cents.
-/

namespace ShopManager.Pay.Trade

open Library Library.Tx Coupon Coin Wallet

inductive Channel where
  | budget | wallet | wx | weapp | alipay | wxPub | alipayWap | upmpWap | apple
  deriving DecidableEq, Repr

/-- The status of a trade and of a sale order. -/
inductive TradeStatus where
  | noCreatePay
  | waitBuyerPay
  | waitSellerSendGoods
  | waitBuyerConfirmGoods
  | tradeBuyerSigned
  | tradeFinished
  | tradeClosed
  | tradeClosedBySys
  deriving DecidableEq, Repr

def normalOrderStatus : List TradeStatus :=
  [.waitBuyerPay, .waitSellerSendGoods, .waitBuyerConfirmGoods, .tradeBuyerSigned,
    .tradeFinished]

inductive PayStatus where
  | nopay
  | paying
  | payFinished
  deriving DecidableEq, Repr

inductive OrderType where
  | saleOrder
  | reserveOrder
  | depositeOrder
  | teambuyOrder
  | electronicGoodsOrder
  deriving DecidableEq, Repr

/-- An order of a trade.  `isDeposit` is the source's test of the product. -/
structure SaleOrder where
  id : Nat
  status : TradeStatus
  payTime : Option Nat
  isDeposit : Bool
  deriving DecidableEq, Repr

instance : Row SaleOrder where
  pk := SaleOrder.id
  withPk n order := { order with id := n }

/-- A trade with its orders.  `coupon` and `payExtras` are entries of
`extras_info`.  A flag is set with a positive amount only, and the part that is
left to pay in cash is never negative. -/
structure SaleTrade where
  id : Nat
  tid : String
  buyerId : Nat
  channel : Channel
  payment : Int
  payCash : Int
  hasBudgetPaid : Bool
  budgetPaid : Int
  hasCoinPaid : Bool
  coinPaid : Int
  budget_pos : hasBudgetPaid = true → 0 < budgetPaid
  coin_pos : hasCoinPaid = true → 0 < coinPaid
  cash_nonneg : 0 ≤ payCash
  isBoutique : Bool
  orderType : OrderType
  created : Nat
  payTime : Option Nat
  charge : String
  openid : String
  coupon : List Nat
  payExtras : String
  status : TradeStatus
  payStatus : PayStatus
  saleOrders : Table SaleOrder

instance : Row SaleTrade where
  pk := SaleTrade.id
  withPk n trade := { trade with id := n }

/-- A payment that the provider has notified. -/
structure TradeCharge where
  id : Nat
  orderNo : String
  charge : String
  paid : Bool
  amount : Int
  timePaid : Option Nat
  deriving DecidableEq, Repr

instance : Row TradeCharge where
  pk := TradeCharge.id
  withPk n charge := { charge with id := n }

/-- The mama with the open id of a customer; `charged` says that the account is
in force. -/
structure XiaoluMama where
  id : Nat
  charged : Bool
  cash : Int
  deriving DecidableEq, Repr

/-- What a trade goes through. -/
inductive Event where
  | chargeConfirmed
  | tradeClosed
  | orderPaid (order : Nat)
  | orderClosed (order : Nat)
  | walletConfirmed
  | walletCanceled
  | couponsUsed
  | couponsReleased
  deriving DecidableEq, Repr

/-- The tables of the payment code.  `packageSkuItems` are the orders that have
an item to be packed.  `history` is no table: it keeps what happened to each
trade, and what an exception rolls back leaves it too. -/
structure PayDb where
  wallet : WalletDb
  coin : CoinDb
  coupon : CouponDb
  xiaolumms : Nat → Option XiaoluMama
  saleTrades : Table SaleTrade
  tradeCharges : Table TradeCharge
  packageSkuItems : List Nat
  history : List (Nat × Event)

abbrev PayTx (α : Type) := Tx PayDb Exn α

def inWallet {α : Type} (m : WalletTx α) : PayTx α :=
  zoom PayDb.wallet (fun wallet s => { s with wallet := wallet }) m

def inCoin {α : Type} (m : CoinTx α) : PayTx α :=
  zoom PayDb.coin (fun coin s => { s with coin := coin }) m

def inCoupon {α : Type} (m : CouponTx α) : PayTx α :=
  zoom PayDb.coupon (fun coupon s => { s with coupon := coupon }) m

/-- The moment of a request. -/
structure Clock where
  now : Nat
  today : Date
  deriving DecidableEq, Repr

namespace SaleTrade

def budgetPayment (trade : SaleTrade) : Int :=
  if trade.hasBudgetPaid then trade.budgetPaid else 0

def coinPayment (trade : SaleTrade) : Int :=
  if trade.hasCoinPaid then trade.coinPaid else 0

def getCashPayment (trade : SaleTrade) : Int := trade.payCash

def timeForPayment : Nat := 25 * 60

/-- `timedelta.seconds` is the part of the distance within a day. -/
def isPayable (trade : SaleTrade) (now : Nat) : Bool :=
  trade.status = .waitBuyerPay ∧
    (((now : Int) - trade.created).natAbs % 86400) < timeForPayment

def get (id : Nat) : PayTx SaleTrade :=
  getOr .doesNotExist fun s => s.saleTrades.get? id

/-- `UPDATE` of some columns of one trade. -/
def updateFields (id : Nat) (set : SaleTrade → SaleTrade) : PayTx Unit :=
  modify fun s => { s with saleTrades := s.saleTrades.update (fun t => t.id = id) set }

def note (id : Nat) (events : List Event) : PayTx Unit :=
  modify fun s => { s with history := s.history ++ events.map fun event => (id, event) }

def normalOrders (trade : SaleTrade) : List SaleOrder :=
  trade.saleOrders.filter fun order => order.status ∈ normalOrderStatus

end SaleTrade

/-- `Customer.getXiaolumm()`: the mama of the customer, if in force. -/
def getXiaolumm (s : PayDb) (customer : Nat) : Option XiaoluMama :=
  (s.xiaolumms customer).filter XiaoluMama.charged

namespace SaleOrder

def setStatusPaid (payTime : Nat) (order : SaleOrder) : SaleOrder :=
  { order with
    status := if order.isDeposit then .tradeFinished else .waitSellerSendGoods
    payTime := some payTime }

def closeOrder (order : SaleOrder) : SaleOrder :=
  { order with status := .tradeClosedBySys }

end SaleOrder

/-! ## Confirmation and closing -/

namespace SaleTrade

/-- The columns that a confirmed payment sets. -/
def setPaid (payTime : Nat) (charge : String) (trade : SaleTrade) : SaleTrade :=
  { trade with
    status := .waitSellerSendGoods
    payStatus := .payFinished
    payTime := some payTime
    charge := if charge = "" then trade.charge else charge }

/-- If the wallet pays a part of the trade, its log is confirmed. -/
def confirmBudget (st : SaleTrade) : PayTx Unit :=
  if st.hasBudgetPaid then do
    let _ ← inWallet (UserBudget.get st.buyerId)
    let confirmed ← inWallet (UserBudget.chargeConfirm st.buyerId st.id)
    note st.id (if confirmed then [.walletConfirmed] else [])
  else pure ()

def useCoupons (clock : Clock) (st : SaleTrade) : PayTx Unit := do
  inCoupon (setCoupon2UseByTradeConfirm clock.now clock.today st.coupon st.buyerId st.tid)
  note st.id (if st.coupon = [] then [] else [.couponsUsed])

def setOrdersPaid (payTime : Nat) (trade : SaleTrade) : SaleTrade :=
  { trade with
    saleOrders := trade.saleOrders.update (fun _ => true) (SaleOrder.setStatusPaid payTime) }

def payOrders (payTime : Nat) (st : SaleTrade) : PayTx Unit := do
  updateFields st.id (setOrdersPaid payTime)
  note st.id (st.saleOrders.rows.map fun order => .orderPaid order.id)

/-- The locked section of `charge_confirm`; the result says whether the trade was
still to be paid. -/
def chargeConfirmLocked (clock : Clock) (id : Nat) (chargeTime : Option Nat)
    (charge : String) : PayTx Bool :=
  atomic do
    let st ← get id
    if st.status ≠ .waitBuyerPay then pure false else do
      let payTime := chargeTime.getD clock.now
      updateFields st.id (setPaid payTime charge)
      note st.id [.chargeConfirmed]
      confirmBudget st
      useCoupons clock st
      payOrders payTime st
      pure true

/-- The orders of a confirmed trade get their items to be packed, one each. -/
def setOrderPaid (id : Nat) : PayTx Unit := do
  let st ← get id
  if st.orderType = .saleOrder then
    forEach st.saleOrders.rows fun order =>
      modify fun s => if order.id ∈ s.packageSkuItems then s
        else { s with packageSkuItems := s.packageSkuItems ++ [order.id] }
  else pure ()

def chargeConfirm (clock : Clock) (id : Nat) (chargeTime : Option Nat)
    (charge : String) : PayTx Unit := do
  let confirmed ← chargeConfirmLocked clock id chargeTime charge
  if confirmed then setOrderPaid id else pure ()

def setClosed (trade : SaleTrade) : SaleTrade :=
  { trade with status := .tradeClosedBySys }

def setOrdersClosed (trade : SaleTrade) : SaleTrade :=
  { trade with
    saleOrders := trade.saleOrders.update
      (fun order => order.status ∈ normalOrderStatus) SaleOrder.closeOrder }

def closeOrders (st : SaleTrade) : PayTx Unit := do
  updateFields st.id setOrdersClosed
  note st.id (st.normalOrders.map fun order => .orderClosed order.id)

def cancelBudget (st : SaleTrade) : PayTx Unit :=
  if st.hasBudgetPaid then do
    let _ ← inWallet (UserBudget.get st.buyerId)
    let canceled ← inWallet (UserBudget.chargeCancel st.buyerId st.id)
    note st.id (if canceled = some true then [.walletCanceled] else [])
  else pure ()

/-- The coins of a closed trade go back if there is a log of their consumption. -/
def refundCoin (clock : Clock) (st : SaleTrade) : PayTx Unit :=
  if st.hasCoinPaid then do
    let xlmm ← getOr .attributeError fun s => getXiaolumm s st.buyerId
    let xiaolucoin ← gets fun s => s.coin.xiaoluCoins xlmm.id
    let consumeLog ← gets fun s => s.coin.coinLogs.first fun log =>
      log.subject = .consume ∧ log.referalId = toString st.id
    if xiaolucoin.isSome ∧ consumeLog.isSome then
      inCoin (XiaoluCoin.refund clock.today xlmm.id st.coinPayment (toString st.id))
    else pure ()
  else pure ()

def releaseCoupon (st : SaleTrade) : PayTx Unit := do
  inCoupon (cancelTransferRecordByTrade st.tid)
  note st.id [.couponsReleased]

/-- The result says whether the trade was still to be paid. -/
def closeTrade (clock : Clock) (id : Nat) : PayTx Bool :=
  atomic do
    let st ← get id
    if st.status ≠ .waitBuyerPay then pure false else do
      updateFields st.id setClosed
      note st.id [.tradeClosed]
      closeOrders st
      cancelBudget st
      refundCoin clock st
      releaseCoupon st
      pure true

def setStatus (status : TradeStatus) (trade : SaleTrade) : SaleTrade :=
  { trade with status := status }

/-- The task that follows every save of an order: the orders decide the status. -/
def tasksUpdateSaleTradeStatus (id : Nat) : PayTx Unit := do
  let st ← get id
  let saleOrderStatus := st.saleOrders.rows.map SaleOrder.status
  let set := fun status : TradeStatus => updateFields id (setStatus status)
  if .waitSellerSendGoods ∈ saleOrderStatus then set .waitSellerSendGoods
  else if .waitBuyerConfirmGoods ∈ saleOrderStatus then set .waitBuyerConfirmGoods
  else if .tradeBuyerSigned ∈ saleOrderStatus then set .tradeBuyerSigned
  else if .tradeClosed ∈ saleOrderStatus then set .tradeClosed
  else if .tradeFinished ∈ saleOrderStatus then
    if saleOrderStatus.all fun status =>
      status = .tradeFinished ∨ status = .tradeClosedBySys then set .tradeFinished
    else pure ()
  else if .tradeClosedBySys ∈ saleOrderStatus then
    if saleOrderStatus.all fun status => status = .tradeClosedBySys then
      set .tradeClosedBySys
    else pure ()
  else pure ()

end SaleTrade

/-! ## Charging -/

/-- Coupons of the trade that are bound to another trade must still be good. -/
def checkBeforeCharge (clock : Clock) (trade : SaleTrade) : PayTx Unit :=
  forEach trade.coupon fun couponId => do
    let userCoupon ← getOr .doesNotExist fun s =>
      (s.coupon.userCoupons.get? couponId).filter fun c => c.customerId = trade.buyerId
    if userCoupon.tradeTid = some trade.tid then pure ()
    else ofExcept (userCoupon.couponBasicCheck clock.now)

def checkIf (checkCoupon : Bool) (clock : Clock) (trade : SaleTrade) : PayTx Unit :=
  if checkCoupon then checkBeforeCharge clock trade else pure ()

/-- Coins are taken if the account holds them. -/
def takeCoin (clock : Clock) (trade : SaleTrade) (noMama tooLittle : Exn) :
    PayTx Unit := do
  let xlmm ← getOr noMama fun s => getXiaolumm s trade.buyerId
  let _ ← getOr tooLittle fun s =>
    (s.coin.xiaoluCoins xlmm.id).filter fun amount => trade.coinPayment ≤ amount
  inCoin (XiaoluCoin.consume clock.today xlmm.id trade.coinPayment (toString trade.id))

/-- The wallet part of `budget_charge`; a duplicate log is logged and ignored. -/
def takeBudget (clock : Clock) (trade : SaleTrade) : PayTx Unit := do
  let _ ← getOr (.exception "你的铺子钱包余额不足") fun s =>
    (s.wallet.userBudgets trade.buyerId).filter fun budget => trade.payment ≤ budget .amount
  let create := inWallet (BudgetLog.create clock.today
    { customerId := trade.buyerId
      budgetType := .budgetOut
      flowAmount := trade.payment
      budgetLogType := .consum
      budgetDate := none
      referalId := toString trade.id
      status := some .confirmed
      uniKey := some ("st_" ++ toString trade.id) })
  tryCatch (do let _ ← create; pure ()) fun e =>
    if e = .integrityError then pure () else raise e

/-- What `budget_charge` does in its transaction. -/
def budgetTake (float : FloatText) (clock : Clock) (trade : SaleTrade)
    (checkCoupon : Bool) : PayTx Unit :=
  atomic do
    let _ ← getOr .doesNotExist fun s =>
      s.wallet.customers.find? fun id => id = trade.buyerId
    checkIf checkCoupon clock trade
    let (_, coinPay) ← ofExcept (getPayTypeFromTrade float trade.payExtras)
    if trade.payment > 0 then
      if coinPay then
        takeCoin clock trade
          (.exception "不是正常的你的铺子妈妈账号，无法使用你的铺子币，请联系客服或管理员")
          (.exception "你的铺子币余额不足")
      else takeBudget clock trade
    else pure ()

/-- Payment with the wallet or with coins, and the confirmation at once. -/
def budgetCharge (float : FloatText) (clock : Clock) (trade : SaleTrade)
    (checkCoupon : Bool) : PayTx Unit := do
  let st ← SaleTrade.get trade.id
  raiseIf (st.status ≠ .waitBuyerPay) (.exception "订单状态不是待支付")
  budgetTake float clock trade checkCoupon
  SaleTrade.chargeConfirm clock trade.id none ""

/-- Payment with the cash of the mama; the confirmation is queued and runs as an
operation of its own. -/
def walletCharge (clock : Clock) (trade : SaleTrade) (checkCoupon : Bool) :
    PayTx Unit := do
  checkIf checkCoupon clock trade
  let xlmm ← getOr .doesNotExist fun s => s.xiaolumms trade.buyerId
  raiseIf (xlmm.cash < trade.payment) (.exception "妈妈钱包余额不足")
  modify fun s => { s with
    xiaolumms := Function.update s.xiaolumms trade.buyerId
      (some { xlmm with cash := xlmm.cash - trade.payment }) }

/-- The answer of the payment provider to `Charge.create`. -/
abbrev ProviderAnswer := Except Exn String

/-- What `pingpp_charge` checks before it takes anything.  `buyerOpenid` is what
the look-up of the buyer's open id finds. -/
def pingppCheck (clock : Clock) (trade : SaleTrade) (checkCoupon : Bool)
    (buyerOpenid : String) : PayTx Unit := do
  checkIf checkCoupon clock trade
  raiseIf (trade.getCashPayment ≤ 0) (.exception "支付金额不能小于0")
  let _ ← getOr .doesNotExist fun s =>
    s.wallet.customers.find? fun id => id = trade.buyerId
  raiseIf ((trade.channel = .wxPub ∨ trade.channel = .weapp) ∧ buyerOpenid = "" ∧
      trade.openid = "")
    (.valueError "您现在使用的是手机号登录，微信支付时需要微信授权，请先退出登录然后使用微信授权登录后再使用微信支付。")

/-- The wallet part of `pingpp_charge`. -/
def pingppBudget (clock : Clock) (trade : SaleTrade) : PayTx Unit :=
  if trade.hasBudgetPaid then
    atomic do
      let _ ← getOr .attributeError fun s => s.wallet.userBudgets trade.buyerId
      let _ ← inWallet (UserBudget.chargePending clock.today trade.buyerId trade.id
        trade.budgetPayment)
  else pure ()

/-- The coin part of `pingpp_charge`. -/
def pingppCoin (clock : Clock) (trade : SaleTrade) : PayTx Unit :=
  if trade.hasCoinPaid then
    atomic (takeCoin clock trade (.exception "您还不是你的铺子妈妈")
      (.exception "你的铺子币不足"))
  else pure ()

def setCharge (charge : String) (trade : SaleTrade) : SaleTrade :=
  { trade with charge := charge }

/-- A charge at the payment provider, after the wallet and the coin part have been
taken. -/
def pingppCharge (clock : Clock) (trade : SaleTrade) (checkCoupon : Bool)
    (buyerOpenid : String) (answer : ProviderAnswer) : PayTx Unit := do
  pingppCheck clock trade checkCoupon buyerOpenid
  pingppBudget clock trade
  pingppCoin clock trade
  let charge ← ofExcept answer
  SaleTrade.updateFields trade.id (setCharge charge)

/-- The codes that `charge` answers with. -/
inductive ChargeCode where
  | ok
  | notWaitPay
  | notPayable
  | paying
  | failed (e : Exn)
  | duplicate
  deriving DecidableEq, Repr

def setChannel (channel : Channel) (trade : SaleTrade) : SaleTrade :=
  { trade with channel := channel }

def switchChannel (found : SaleTrade) (channel : Channel) : PayTx Unit :=
  if channel ≠ found.channel then SaleTrade.updateFields found.id (setChannel channel)
  else pure ()

def setPayFinished (trade : SaleTrade) : SaleTrade :=
  { trade with payStatus := .payFinished }

/-- The payment over the channel of the trade. -/
def pay (float : FloatText) (clock : Clock) (trade : SaleTrade) (buyerOpenid : String)
    (answer : ProviderAnswer) : PayTx Unit :=
  match trade.channel with
  | .wallet => walletCharge clock trade false
  | .budget => budgetCharge float clock trade false
  | _ => pingppCharge clock trade false buyerOpenid answer

/-- The view that pays a waiting trade, over another channel if the client says
so. -/
def charge (float : FloatText) (clock : Clock) (id : Nat) (channel : Option Channel)
    (buyerOpenid : String) (answer : ProviderAnswer) : PayTx ChargeCode := do
  let found ← SaleTrade.get id
  let trade := setChannel (channel.getD found.channel) found
  switchChannel found trade.channel
  if trade.status ≠ .waitBuyerPay then pure .notWaitPay
  else if trade.isPayable clock.now = false then pure .notPayable
  else if trade.payStatus = .paying then pure .paying
  else
    tryCatch
      (do
        pay float clock trade buyerOpenid answer
        SaleTrade.updateFields id setPayFinished
        pure .ok)
      fun e => do
        SaleTrade.updateFields id setPayFinished
        pure (if e = .integrityError then .duplicate else .failed e)

/-- What the provider says about a payment of a trade. -/
structure Notify where
  orderNo : String
  charge : String
  paid : Bool
  amount : Int
  timePaid : Option Nat
  deriving Repr

def knownCharge (notify : Notify) (s : PayDb) : Option TradeCharge :=
  s.tradeCharges.first fun c => c.orderNo = notify.orderNo ∧ c.charge = notify.charge

/-- Only the first paid notification of a charge changes its record. -/
def TradeCharge.pay (notify : Notify) (tcharge : TradeCharge) : TradeCharge :=
  if tcharge.paid then tcharge
  else { tcharge with paid := true, amount := notify.amount, timePaid := notify.timePaid }

/-- The record that a paid notification leaves. -/
def recordCharge (notify : Notify) : PayTx TradeCharge := do
  let known ← gets (knownCharge notify)
  let tcharge := (known.getD ⟨0, notify.orderNo, notify.charge, false, 0, none⟩).pay notify
  modify fun s => { s with tradeCharges :=
    if known.isSome then s.tradeCharges.save tcharge else s.tradeCharges.insert tcharge }
  pure tcharge

/-- The confirmation runs with every notification. -/
def notifyTradePayTask (clock : Clock) (notify : Notify) : PayTx Unit :=
  if notify.paid = false then pure () else do
    let tcharge ← recordCharge notify
    let strade ← getOr .doesNotExist fun s =>
      s.saleTrades.first fun t => t.tid = notify.orderNo
    SaleTrade.chargeConfirm clock strade.id tcharge.timePaid tcharge.charge

/-- What a creation request carries, with the amounts as cents.  `isBoutique` and
`orderType` are what the products of the cart make of it. -/
structure CreateForm where
  uuid : String
  channel : Channel
  payment : Int
  payExtras : String
  couponIds : List Nat
  isBoutique : Bool
  orderType : OrderType
  openid : String
  saleOrders : Table SaleOrder

/-- The trade that `create_Saletrade` builds from a request. -/
def buildSaletrade (clock : Clock) (customer : Nat) (form : CreateForm)
    (budgetPayment xiaolucoinPayment : Int) : SaleTrade where
  id := 0
  tid := form.uuid
  buyerId := customer
  channel := form.channel
  payment := form.payment
  payCash := max 0 (form.payment - budgetPayment - xiaolucoinPayment)
  hasBudgetPaid := budgetPayment > 0
  budgetPaid := budgetPayment
  hasCoinPaid := xiaolucoinPayment > 0
  coinPaid := xiaolucoinPayment
  budget_pos := by simp
  coin_pos := by simp
  cash_nonneg := le_max_left _ _
  isBoutique := form.isBoutique
  orderType := form.orderType
  created := clock.now
  payTime := none
  charge := ""
  openid := form.openid
  coupon := form.couponIds
  payExtras := form.payExtras
  status := .waitBuyerPay
  payStatus := .paying
  saleOrders := form.saleOrders

/-- The result says whether the trade is new; `uuidOk` is the match of the
request's number against its pattern. -/
def createSaletrade (float : FloatText) (clock : Clock) (customer : Nat)
    (form : CreateForm) (uuidOk : Bool) : PayTx (Nat × Bool) := do
  raiseIf (uuidOk = false) (.assertion "订单UUID异常")
  let _ ← getOr .doesNotExist fun s => s.wallet.customers.find? fun id => id = customer
  let saleTrade ← gets fun s => s.saleTrades.first fun t => t.tid = form.uuid
  match saleTrade with
  | some trade => do
      raiseIf (trade.buyerId ≠ customer) (.exception "该订单号被重用")
      pure (trade.id, false)
  | none => do
      let budgetPayment ← ofExcept (calcExtraBudget float form.payExtras etsBudget)
      let xiaolucoinPayment ← ofExcept (calcExtraBudget float form.payExtras etsXiaolucoin)
      raiseIf (xiaolucoinPayment > 0 ∧
          ¬ (form.isBoutique = true ∧ form.orderType = .electronicGoodsOrder))
        (.exception "你的铺子币只可用于购买精品券")
      let trade := buildSaletrade clock customer form budgetPayment xiaolucoinPayment
      let id ← gets fun s => s.saleTrades.nextId
      modify fun s => { s with saleTrades := s.saleTrades.insert trade }
      pure (id, true)

def firstDay : Clock := ⟨1000, ⟨"2016-11-01"⟩⟩

/-- A trade of customer 1 that waits for its payment. -/
def waitingTrade (channel : Channel) (payment budgetPayment xiaolucoinPayment : Int)
    (payExtras : String) (coupon : List Nat) : SaleTrade :=
  { buildSaletrade firstDay 1
      { uuid := "xd1"
        channel := channel
        payment := payment
        payExtras := payExtras
        couponIds := coupon
        isBoutique := true
        orderType := .electronicGoodsOrder
        openid := "o1"
        saleOrders := Table.empty.insert ⟨0, .waitBuyerPay, none, false⟩ }
      budgetPayment xiaolucoinPayment with
    id := 1
    payStatus := .payFinished }

/-- The customer's wallet and coins, which came in by one recharge, and a trade. -/
def shop (amount coins : Int) (trade : SaleTrade) : PayDb where
  wallet :=
    { customers := [1]
      userBudgets := Function.update (fun _ => none) 1
        (some fun column => if column = .totalExpense then 0 else amount)
      budgetLogs := Table.empty }
  coin :=
    { xiaoluCoins := Function.update (fun _ => none) 1 (some coins)
      coinLogs := Table.empty.insert
        ⟨0, 1, .incoming, coins, coins, .recharge, "r1", "1-recharge-r1|2016-10-01"⟩ }
  coupon :=
    { userCoupons := Table.empty
      transferRecords := Table.empty
      details := []
      templates := []
      openMama := fun _ => some 1
      chargedMama := fun _ => some 1 }
  xiaolumms := Function.update (fun _ => none) 1 (some ⟨1, true, 0⟩)
  saleTrades := Table.empty.insert trade
  tradeCharges := Table.empty
  packageSkuItems := []
  history := []

end ShopManager.Pay.Trade
