import ShopManager.Basic
import ShopManager.Library.Table
import ShopManager.Library.Transaction

/-!
# Coupons and their transfer records

A `UserCoupon` belongs to a customer; a `CouponTransferRecord` says how many
coupons of a template went from one mama to another, where the mama 0 stands
for the system.
-/

namespace ShopManager.Coupon

open Library Library.Tx

inductive CouponType where
  | normal
  | orderShare
  | mamaInvite
  | compensate
  | orderBenefit
  | activeShare
  | cashoutExchange
  | transfer
  deriving DecidableEq, Repr

inductive CouponStatus where
  | unused
  | used
  | freeze
  | past
  | cancel
  deriving DecidableEq, Repr

structure UserCoupon where
  id : Nat
  templateId : Nat
  couponType : CouponType
  customerId : Nat
  tradeTid : Option String
  expiresTime : Nat
  uniqId : String
  status : CouponStatus
  /-- `extras['chain']`: the mamas the coupon went through. -/
  chain : Option (List Nat)
  /-- `extras['freeze_by_transfer_id']`. -/
  freezeByTransferId : Option Nat
  /-- `extras['buy_coupon_type']`: 1 for a coupon bought with coins. -/
  buyCouponType : Option Nat
  /-- `extras['freeze_type']` is 1: frozen because the wallet was short. -/
  freezeType : Bool
  deriving DecidableEq, Repr

instance : Row UserCoupon where
  pk := UserCoupon.id
  withPk n coupon := { coupon with id := n }

inductive TransferType where
  | outCashout
  | outTransfer
  | outConsumed
  | inBuyCoupon
  | inReturnCoupon
  | inReturnGoods
  | inGiftCoupon
  | outExchgSaleorder
  | inRecharge
  | inBuyCouponWithCoin
  | outCashoutCoin
  | inCancelExchg
  deriving DecidableEq, Repr

/-- The stored number of the type, which some keys print. -/
def TransferType.code : TransferType → Nat
  | outCashout => 1
  | outTransfer => 2
  | outConsumed => 3
  | inBuyCoupon => 4
  | inReturnCoupon => 5
  | inReturnGoods => 6
  | inGiftCoupon => 7
  | outExchgSaleorder => 8
  | inRecharge => 9
  | inBuyCouponWithCoin => 10
  | outCashoutCoin => 11
  | inCancelExchg => 12

inductive TransferStatus where
  | pending
  | processed
  | delivered
  | canceled
  deriving DecidableEq, Repr

structure CouponTransferRecord where
  id : Nat
  couponFromMamaId : Nat
  couponToMamaId : Nat
  initFromMamaId : Nat
  orderNo : String
  templateId : Nat
  couponNum : Int
  transferType : TransferType
  transferStatus : TransferStatus
  uniKey : String
  dateField : Date
  deriving DecidableEq, Repr

instance : Row CouponTransferRecord where
  pk := CouponTransferRecord.id
  withPk n record := { record with id := n }

/-- A coupon that a transfer record moved. -/
structure TransferCouponDetail where
  transferId : Nat
  couponId : Nat
  deriving DecidableEq, Repr

/-- The coupon tables, with the mama of a customer: `openMama` by the open id
alone, `chargedMama` for an account in force. -/
structure CouponDb where
  userCoupons : Table UserCoupon
  transferRecords : Table CouponTransferRecord
  details : List TransferCouponDetail
  templates : List Nat
  openMama : Nat → Option Nat
  chargedMama : Nat → Option Nat

abbrev CouponTx (α : Type) := Tx CouponDb Exn α

namespace UserCoupon

def save (coupon : UserCoupon) : CouponTx Unit :=
  modify fun s => { s with userCoupons := s.userCoupons.save coupon }

def isTransferCoupon (coupon : UserCoupon) : Bool := coupon.couponType = .transfer

/-- The status and the date of a coupon that is to be used. -/
def couponBasicCheck (now : Nat) (coupon : UserCoupon) : Except Exn Unit :=
  match coupon.status with
  | .used => .error (.assertion "优惠券已使用")
  | .freeze => .error (.assertion "优惠券已冻结")
  | .past => .error (.assertion "优惠券已过期")
  | _ => if now ≤ coupon.expiresTime then .ok () else .error (.assertion "使用日期错误")

def freezeCoupon (id : Nat) : CouponTx Unit := do
  let coupon ← getOr .doesNotExist fun s => s.userCoupons.get? id
  raiseIf (coupon.status ≠ .unused) (.assertion "优惠券不在未使用状态,冻结失败")
  UserCoupon.save { coupon with status := .freeze }

def unfreezeCoupon (id : Nat) : CouponTx Unit := do
  let coupon ← getOr .doesNotExist fun s => s.userCoupons.get? id
  raiseIf (coupon.status ≠ .freeze) (.assertion "优惠券不在冻结状态,解冻出错")
  UserCoupon.save { coupon with status := .unused }

end UserCoupon

namespace CouponTransferRecord

/-- A new record is stored under the next key; `uni_key` is unique. -/
def insert (record : CouponTransferRecord) : CouponTx CouponTransferRecord := do
  let taken ← gets fun s => (s.transferRecords.first fun r => r.uniKey = record.uniKey).isSome
  raiseIf (taken = true) .integrityError
  let stored ← gets fun s => s.transferRecords.stored record
  modify fun s => { s with transferRecords := s.transferRecords.insert record }
  pure stored

def save (record : CouponTransferRecord) : CouponTx Unit :=
  modify fun s => { s with transferRecords := s.transferRecords.save record }

/-- The record of the coupons that a trade consumes.  Where the key is taken the
source returns an answer for the client instead of a record, which its caller
cannot use as one. -/
def createConsumeRecord (today : Date) (couponNum : Int) (buyerId : Nat) (tid : String)
    (templateId : Nat) : CouponTx CouponTransferRecord := do
  let fromMama ← getOr .attributeError fun s => s.openMama buyerId
  let existing ← gets fun s => s.transferRecords.first fun r => r.uniKey = tid
  raiseIf (existing.isSome = true) .attributeError
  let template ← gets fun s => s.templates.contains templateId
  raiseIf (template = false) .attributeError
  insert
    { id := 0
      couponFromMamaId := fromMama
      couponToMamaId := 0
      initFromMamaId := fromMama
      orderNo := tid
      templateId := templateId
      couponNum := couponNum
      transferType := .outConsumed
      transferStatus := .delivered
      uniKey := tid
      dateField := today }

end CouponTransferRecord

def getUserCouponsByIds (s : CouponDb) (ids : List Nat) : List UserCoupon :=
  s.userCoupons.filter fun coupon => ids.contains coupon.id

def createTransferCouponDetail (transferId : Nat) (couponIds : List Nat) :
    CouponTx Unit :=
  modify fun s => { s with
    details := couponIds.foldl
      (fun details couponId =>
        if details.contains ⟨transferId, couponId⟩ then details
        else details ++ [⟨transferId, couponId⟩]) s.details }

/-- One coupon of `use_coupon_by_ids`. -/
def useCoupon (tid : String) (id : Nat) : CouponTx Unit :=
  atomic do
    let coupon ← getOr .doesNotExist fun s => s.userCoupons.get? id
    raiseIf (coupon.status = .used) (.assertion "优惠券已使用")
    UserCoupon.save { coupon with status := .used, tradeTid := some tid }

def basicChecks (now : Nat) : List UserCoupon → Except Exn Unit
  | [] => .ok ()
  | coupon :: coupons =>
      match coupon.couponBasicCheck now with
      | .error e => .error e
      | .ok () => basicChecks now coupons

def useCouponByIds (now : Nat) (ids : List Nat) (tid : String) : CouponTx Unit := do
  let coupons ← gets fun s => getUserCouponsByIds s ids
  ofExcept (basicChecks now coupons)
  forEach ids (useCoupon tid)

def rollbackUserCouponStatus2UnusedByIds (ids : List Nat) : CouponTx Unit :=
  modify fun s => { s with
    userCoupons := s.userCoupons.update
      (fun coupon => ids.contains coupon.id && coupon.status ≠ .cancel)
      fun coupon => { coupon with status := .unused } }

/-- One coupon of `freeze_transfer_coupon`. -/
def freezeForTransfer (transferId : Nat) (coupon : UserCoupon) : CouponTx Unit := do
  raiseIf (coupon.status ≠ .unused) (.exception "优惠券状态非可用不予冻结操作！")
  UserCoupon.save { coupon with status := .freeze, freezeByTransferId := some transferId }

def freezeTransferCoupon (couponIds : List Nat) (transferId : Nat) : CouponTx Unit := do
  let coupons ← gets fun s => getUserCouponsByIds s couponIds
  forEach coupons (freezeForTransfer transferId)

/-- One coupon of `cancel_coupon_by_ids`. -/
def cancelCoupon (coupon : UserCoupon) : CouponTx Unit := do
  raiseIf (coupon.status = .cancel) (.exception "优惠券已经取消不能再次取消!")
  UserCoupon.save { coupon with status := .cancel }

def cancelCouponByIds (couponIds : List Nat) : CouponTx Unit := do
  let coupons ← gets fun s => getUserCouponsByIds s couponIds
  forEach coupons cancelCoupon

/-- `SaleTrade.set_coupon_2_use_by_trade_confirm`, on the coupons of a trade. -/
def setCoupon2UseByTradeConfirm (now : Nat) (today : Date) (couponIds : List Nat)
    (buyerId : Nat) (tid : String) : CouponTx Unit :=
  if couponIds = [] then pure () else do
    useCouponByIds now couponIds tid
    let coupons ← gets fun s => getUserCouponsByIds s couponIds
    -- the template of the first transfer coupon stands for all of them
    match coupons.find? UserCoupon.isTransferCoupon with
    | none => pure ()
    | some coupon => do
        let transfer ← CouponTransferRecord.createConsumeRecord today couponIds.length
          buyerId tid coupon.templateId
        createTransferCouponDetail transfer.id couponIds

/-- A closed trade cancels the record that carries its number. -/
def cancelTransferRecordByTrade (tradeTid : String) : CouponTx Unit := do
  let transferRecord ← gets fun s => s.transferRecords.first fun r => r.uniKey = tradeTid
  match transferRecord with
  | none => pure ()
  | some record =>
      CouponTransferRecord.save { record with transferStatus := .canceled }

end ShopManager.Coupon
