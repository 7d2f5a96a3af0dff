import ShopManager.Coupon.Model
import ShopManager.Library.Rounding

/-!
# The elite mamas' coupons

Each elite mama has a row with what the transfers of coupons brought her and took from her, by the
type of the transfer.  A task writes these amounts from the table of the transfers.
-/

namespace ShopManager.Mama.Elite

open Library Coupon

/-! ## Data -/

/-- The value of a coupon is a decimal number. -/
structure CouponTransferRecord where
  couponFromMamaId : Nat
  couponToMamaId : Nat
  couponValue : ℚ
  couponNum : Int
  transferType : TransferType
  transferStatus : TransferStatus
  effect : Bool
  dateField : Nat

def CouponTransferRecord.recordAmount (record : CouponTransferRecord) : ℚ :=
  record.couponValue * record.couponNum

/-- The columns of amounts. -/
inductive Amount where
  | purchaseAmountOut | purchaseAmountIn
  | transferAmountOut | transferAmountIn
  | returnAmountOut | returnAmountIn
  | saleAmountOut | saleAmountIn
  | refundCouponOut | refundCouponIn
  | refundAmountOut | refundAmountIn
  | exchgAmountOut | exchgAmountIn
  | giftAmountOut | giftAmountIn
  deriving DecidableEq, Repr

/-- The columns of amounts are of integers, and an object in memory has the numbers that were
assigned to it.  Rates are counted in ten-thousandths. -/
@[ext]
structure EliteMamaStatus (ν : Type) where
  amount : Amount → ν
  subMamacount : Nat
  saleoutRate : Int
  transferRate : Int
  refundRate : Int
  joinedDate : Nat
  lastActiveTime : Nat

structure ReferalRelationship where
  referalFromMamaId : Nat
  referalToMamaId : Nat
  referalType : Nat

/-- A mama has one row of her status at most. -/
@[ext]
structure EliteDb where
  records : List CouponTransferRecord
  relationships : List ReferalRelationship
  statuses : Nat → Option (EliteMamaStatus Int)

def elite : Nat := 90

def truncate (q : ℚ) : Int := q.num.tdiv q.den

/-- `'%.4f'` -/
def fourDecimals (q : ℚ) : Int := Rounding.halfEven (10000 * q.num) q.den

namespace EliteMamaStatus

def inAmount (status : EliteMamaStatus ℚ) : ℚ :=
  status.amount .purchaseAmountIn + status.amount .transferAmountIn + status.amount .giftAmountIn

def rated (status : EliteMamaStatus ℚ) : EliteMamaStatus ℚ :=
  if 0 < status.inAmount then
    { status with
      saleoutRate := fourDecimals ((status.amount .saleAmountOut + status.amount .exchgAmountOut -
        status.amount .refundCouponIn) / status.inAmount)
      transferRate := fourDecimals
        (max (status.amount .transferAmountOut - status.amount .returnAmountIn) 0 / status.inAmount)
      refundRate := fourDecimals ((status.amount .returnAmountOut + status.amount .refundAmountOut) /
        status.inAmount) }
  else status

/-- The row that `save` stores. -/
def save (status : EliteMamaStatus ℚ) : EliteMamaStatus Int :=
  { status.rated with amount := fun column => truncate (status.amount column) }

def load (status : EliteMamaStatus Int) : EliteMamaStatus ℚ :=
  { status with amount := fun column => status.amount column }

/-- A new row, by the defaults of its columns. -/
def initial (today now : Nat) : EliteMamaStatus ℚ where
  amount _ := 0
  subMamacount := 0
  saleoutRate := 0
  transferRate := 0
  refundRate := 0
  joinedDate := today
  lastActiveTime := now

end EliteMamaStatus

def EliteDb.baseQs (s : EliteDb) : List CouponTransferRecord :=
  s.records.filter fun record => record.transferStatus = .delivered ∧ record.effect = true

structure Agg where
  mamaId : Nat
  transferType : TransferType
  recordAmount : ℚ

/-- `values(mama, 'transfer_type').annotate(record_amount=Sum(..))` -/
def aggregated (mama : CouponTransferRecord → Nat) (records : List CouponTransferRecord) :
    List Agg :=
  ((records.map fun record => (mama record, record.transferType)).dedup).map fun key =>
    ⟨key.1, key.2, ((records.filter fun record =>
      (mama record, record.transferType) = key).map CouponTransferRecord.recordAmount).sum⟩

def EliteDb.outDataSet (s : EliteDb) : List Agg := aggregated (·.couponFromMamaId) s.baseQs

def EliteDb.inDataSet (s : EliteDb) : List Agg := aggregated (·.couponToMamaId) s.baseQs

/-- The column that a transfer to a mama counts in. -/
def inColumn : TransferType → Option Amount
  | .inBuyCoupon => some .purchaseAmountIn
  | .outTransfer => some .transferAmountIn
  | .inReturnCoupon => some .returnAmountIn
  | .inReturnGoods => some .refundCouponIn
  | .outConsumed => some .saleAmountIn
  | .outCashout => some .refundAmountIn
  | .outExchgSaleorder => some .exchgAmountIn
  | .inGiftCoupon => some .giftAmountIn
  | _ => none

/-- The column that a transfer from a mama counts in, where goods that are returned stand in the
same column as they do for a transfer to her. -/
def outColumn : TransferType → Option Amount
  | .inBuyCoupon => some .purchaseAmountOut
  | .outTransfer => some .transferAmountOut
  | .inReturnCoupon => some .returnAmountOut
  | .inReturnGoods => some .refundCouponIn
  | .outConsumed => some .saleAmountOut
  | .outCashout => some .refundAmountOut
  | .outExchgSaleorder => some .exchgAmountOut
  | .inGiftCoupon => some .giftAmountOut
  | _ => none

/-- `defaultdict(dict)`: the mamas in it, with the amounts of each. -/
structure EliteMamas where
  keys : List Nat
  data : Nat → Amount → Option ℚ

def EliteMamas.empty : EliteMamas := ⟨[], fun _ _ => none⟩

def EliteMamas.update (mamas : EliteMamas) (column : TransferType → Option Amount) (agg : Agg) :
    EliteMamas where
  keys := if agg.mamaId ∈ mamas.keys then mamas.keys else mamas.keys ++ [agg.mamaId]
  data := Function.update mamas.data agg.mamaId fun c =>
    if column agg.transferType = some c then some agg.recordAmount else mamas.data agg.mamaId c

def EliteMamas.updateAll (mamas : EliteMamas) (column : TransferType → Option Amount)
    (dataSet : List Agg) : EliteMamas :=
  dataSet.foldl (fun mamas agg => mamas.update column agg) mamas

def EliteDb.eliteMamas (s : EliteDb) : EliteMamas :=
  (EliteMamas.empty.updateAll inColumn s.inDataSet).updateAll outColumn s.outDataSet

/-- The dates of all transfers from a mama. -/
def EliteDb.dates (s : EliteDb) (mamaId : Nat) : List Nat :=
  (s.records.filter fun record => record.couponFromMamaId = mamaId).map
    CouponTransferRecord.dateField

def EliteDb.mamaJoinedDate (s : EliteDb) (mamaId : Nat) : Option Nat := (s.dates mamaId).min?

def EliteDb.mamaActiveDate (s : EliteDb) (mamaId : Nat) : Option Nat := (s.dates mamaId).max?

/-- `referal_maps.get(mama_id) or 0` -/
def EliteDb.subMamacount (s : EliteDb) (mamaId : Nat) : Nat :=
  if s.mamaJoinedDate mamaId = none then 0
  else (s.relationships.filter fun ship =>
    ship.referalFromMamaId = mamaId ∧ elite ≤ ship.referalType).length

def atMidnight (date : Nat) : Nat := 86400 * date

/-- The object that the loop over the dictionary saves: the columns in `data` are assigned. -/
def EliteDb.refreshed (s : EliteDb) (today now mamaId : Nat) (data : Amount → Option ℚ) :
    EliteMamaStatus ℚ :=
  let (eliteActive, state) := match s.statuses mamaId with
    | some status => (status.load, false)
    | none => (EliteMamaStatus.initial today now, true)
  { eliteActive with
    amount := fun column => (data column).getD (eliteActive.amount column)
    -- a row that exists has its date
    joinedDate := if state then (s.mamaJoinedDate mamaId).getD today else eliteActive.joinedDate
    lastActiveTime := ((s.mamaActiveDate mamaId).map atMidnight).getD eliteActive.lastActiveTime
    subMamacount := s.subMamacount mamaId }

def EliteDb.fresh (s : EliteDb) (today now mamaId : Nat) (data : Amount → Option ℚ) : EliteDb :=
  { s with statuses :=
      Function.update s.statuses mamaId (some (s.refreshed today now mamaId data).save) }

def taskFreshElitemamaActiveStatus (today now : Nat) (s : EliteDb) : EliteDb :=
  s.eliteMamas.keys.foldl (fun t mamaId => t.fresh today now mamaId (s.eliteMamas.data mamaId)) s

end ShopManager.Mama.Elite
