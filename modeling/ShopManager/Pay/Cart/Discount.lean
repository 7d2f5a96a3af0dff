import ShopManager.Coupon.Model
import ShopManager.Pay.Trade.Extras

/-!
# The discount of a request

Before an order is made its discount is read from `pay_extras`: the coupons that the text
names, and a fixed cut of the app.  The trade keeps the coupon texts by another reading of
the same text, and they are used when it is paid.  Amounts are in cents; the fee that a
coupon is tested for is in hundredths of a cent.
-/

namespace ShopManager.Pay.Cart

open Library Library.Tx
open Coupon (CouponDb CouponTx UserCoupon)
open Trade (Entry FloatText parseEntryParams parsePayExtrasToDict parseCouponIdsFromPayExtras
  splitChars etsCoupon)

def etsAppcut : String := "1"

/-- What the code asks of Python and of the coupon templates: `text.isdigit()`, `int(text)`,
what a coupon is worth, and whether its template lets it be used for the products and the
fee. -/
structure CouponRules where
  isdigit : String → Bool
  int : String → Option Int
  float : FloatText
  now : Nat
  value : Nat → Int
  templateCheck : Nat → List Nat → Int → Except Exn Unit

structure CouponArgs where
  itemIds : List Nat
  buyerId : Nat
  payment : Int
  orderNo : Option String

section Discount

variable (rules : CouponRules) (args : CouponArgs) (s : CouponDb)

/-- `calc_counpon_discount`; a coupon of this very trade is not checked again. -/
def calcCounponDiscount (couponId : Int) : Except Exn Int :=
  match s.userCoupons.first fun c => (c.id : Int) = couponId ∧ c.customerId = args.buyerId with
  | none => .error (.exception "优惠券未找到")
  | some coupon =>
      if coupon.tradeTid = args.orderNo then .ok (rules.value coupon.id)
      else do
        rules.templateCheck coupon.templateId args.itemIds args.payment
        coupon.couponBasicCheck rules.now
        .ok (rules.value coupon.id)

/-- `filter(id__in=..)` reads every text as a number, or raises. -/
def readIds : List String → Except Exn (List Int)
  | [] => .ok []
  | text :: texts =>
      match rules.int text with
      | none => .error (.valueError "invalid literal for int()")
      | some n => do
          let ns ← readIds texts
          .ok (n :: ns)

/-- `get_coupon_template_ids`, of coupons of whatever customer. -/
def getCouponTemplateIds (couponIds : List String) : Except Exn (List Nat) := do
  let ids ← readIds rules couponIds
  .ok (((s.userCoupons.filter fun c => (c.id : Int) ∈ ids).map UserCoupon.templateId).dedup)

def couponPieces (entry : Entry) : List String :=
  (splitChars (fun c => c = '/') ((entry.get? "couponid").getD "").toList).map String.ofList

def couponsDiscount : List String → Except Exn Int
  | [] => .ok 0
  | text :: texts =>
      if text = "" ∨ rules.isdigit text = false then couponsDiscount texts
      else
        match rules.int text with
        | none => .error (.valueError "invalid literal for int()")
        | some n => do
            let value ← calcCounponDiscount rules args s n
            let rest ← couponsDiscount texts
            .ok (value + rest)

def couponEntryDiscount (entry : Entry) : Except Exn Int :=
  if entry.get? "pid" = some etsCoupon then do
    let templateIds ← getCouponTemplateIds rules s (couponPieces entry)
    if 1 < templateIds.length then .error (.exception "优惠券不是同一模板")
    else couponsDiscount rules args s (couponPieces entry)
  else .ok 0

def appcutDiscount (entry : Entry) : Except Exn Int :=
  if entry.get? "pid" = some etsAppcut then
    match entry.get? "value" with
    | none => .error (.exception "KeyError")
    | some text => do
        let positive ← rules.float.positive text
        .ok (if positive then 200 else 0)
  else .ok 0

def entriesDiscount : List Entry → Except Exn (Int × Int)
  | [] => .ok (0, 0)
  | entry :: entries => do
      let coupons ← couponEntryDiscount rules args s entry
      let appcut ← appcutDiscount rules entry
      let rest ← entriesDiscount entries
      .ok (coupons + rest.1, appcut + rest.2)

def calcExtraDiscount (payExtras : String) : Except Exn Int := do
  let discount ← entriesDiscount rules args s (parseEntryParams payExtras)
  .ok (discount.1 + discount.2)

end Discount

end ShopManager.Pay.Cart
