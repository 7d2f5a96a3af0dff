import ShopManager.Library.Rounding
import ShopManager.Pay.Refund.Model

/-!
# Refunds of a part of an order

A buyer sends back some of the pieces of an order.  The fee is the price of a piece, cut
to cents, for each of them; the pieces that are left are issued again at the price of a
piece, rounded to cents.  An amount of nought stands for the whole.
-/

namespace ShopManager.Pay.Refund

open Library.Rounding
open Trade (TradeStatus)

namespace SaleOrder

/-- `fake_round` cuts the price of a piece to cents. -/
def calculateRefundFee (num : Nat) (order : SaleOrder) : Nat :=
  if num = 0 then 0
  else if num = order.num then order.payment
  else order.payment / order.num * num

def reissueOrderByIncompleteRefund (num : Nat) (order : SaleOrder) : SaleOrder :=
  { order with
    id := 0
    status := .waitSellerSendGoods
    num := num
    payment := (halfEven order.payment order.num).toNat * num
    refundId := none
    refundStatus := .noRefund
    refundFee := 0 }

end SaleOrder

/-- What `refund_confirm` issues again: only goods that have not been sent. -/
def SaleRefund.reissued (refund : SaleRefund) (order : SaleOrder) : Option SaleOrder :=
  if order.status = .waitSellerSendGoods ∧ refund.refundNum < order.num then
    some (order.reissueOrderByIncompleteRefund (order.num - refund.refundNum))
  else none

/-- A partial refund: how far the order has come by then, and how many pieces are sent
back. -/
structure Part where
  status : TradeStatus
  refundNum : Nat
  goodStatus : GoodStatus
  deriving DecidableEq, Repr

namespace Part

def reach (part : Part) (order : SaleOrder) : SaleOrder := { order with status := part.status }

def request (part : Part) (order : SaleOrder) : SaleRefund.Request where
  refundNum := part.refundNum
  refundFee := order.calculateRefundFee part.refundNum
  goodStatus := some part.goodStatus
  charge := ""

/-- The refund that `do_refund` makes with the fee of `calculate_refund_fee`. -/
def refund (part : Part) (order : SaleOrder) : SaleRefund :=
  SaleRefund.ofRequest (part.reach order) (part.request order) part.goodStatus

def rest (part : Part) (order : SaleOrder) : Option SaleOrder :=
  (part.refund order).reissued (part.reach order)

end Part

/-- What a chain of refunds pays back, each of the order that the one before it issued. -/
def refunded : SaleOrder → List Part → Nat
  | _, [] => 0
  | order, part :: parts =>
      (part.refund order).refundFee +
        match part.rest order with
        | none => 0
        | some order' => refunded order' parts

def WithinPieces : SaleOrder → List Part → Prop
  | _, [] => True
  | order, part :: parts => part.refundNum ≤ order.num ∧
      match part.rest order with
      | none => True
      | some order' => WithinPieces order' parts

structure Proportional (order : SaleOrder) (part : Part) : Prop where
  share : 1 ≤ part.refundNum →
    (part.refund order).refundFee * order.num ≤ order.payment * part.refundNum
  whole : part.refundNum = order.num → (part.refund order).refundFee = order.payment
  left : ∀ order', part.rest order = some order' →
    (part.refund order).refundFee + order'.payment ≤ order.payment

def AllProportional : SaleOrder → List Part → Prop
  | _, [] => True
  | order, part :: parts => Proportional order part ∧
      match part.rest order with
      | none => True
      | some order' => AllProportional order' parts

/-- No refund of the chain is for more than its share, and all of them are for no more than
was paid. -/
def FairlyRefunded (order : SaleOrder) (parts : List Part) : Prop :=
  AllProportional order parts ∧ refunded order parts ≤ order.payment

/-! ## The condition -/

def RoundsDown (payment num : Nat) : Prop :=
  2 * (payment % num) < num ∨ (2 * (payment % num) = num ∧ payment / num % 2 = 0)

instance (payment num : Nat) : Decidable (RoundsDown payment num) :=
  inferInstanceAs (Decidable (_ ∨ _))

/-- All or nothing is sent back, or nothing was paid; or a piece costs a cent at least, and
where the rest is issued again at a price that is rounded up, it has no more pieces than
cents were cut off. -/
def Divisible (order : SaleOrder) (part : Part) : Prop :=
  part.refundNum = 0 ∨ part.refundNum = order.num ∨ order.payment = 0 ∨
    (order.num ≤ order.payment ∧
      (part.status = .waitSellerSendGoods → RoundsDown order.payment order.num ∨
        order.num - part.refundNum ≤ order.payment % order.num))

instance (order : SaleOrder) (part : Part) : Decidable (Divisible order part) :=
  inferInstanceAs (Decidable (_ ∨ _ ∨ _ ∨ (_ ∧ (_ → _ ∨ _))))

def FirstDivisible (order : SaleOrder) : List Part → Prop
  | [] => True
  | part :: _ => Divisible order part

/-! ## One refund -/

section Fee

variable {order : SaleOrder} {part : Part}

theorem refundNum_eq (order : SaleOrder) (part : Part) :
    (part.refund order).refundNum = if part.refundNum = 0 then order.num else part.refundNum := rfl

theorem refundFee_eq (order : SaleOrder) (part : Part) :
    (part.refund order).refundFee =
      if order.calculateRefundFee part.refundNum = 0 then order.payment
      else order.calculateRefundFee part.refundNum := rfl

theorem refundFee_whole (h : part.refundNum = 0 ∨ part.refundNum = order.num) :
    (part.refund order).refundFee = order.payment := by
  rw [refundFee_eq]
  rcases h with h | h
  · have hfee : order.calculateRefundFee part.refundNum = 0 := if_pos h
    rw [if_pos hfee]
  · by_cases hzero : part.refundNum = 0
    · have hfee : order.calculateRefundFee part.refundNum = 0 := if_pos hzero
      rw [if_pos hfee]
    · have hfee : order.calculateRefundFee part.refundNum = order.payment := by
        unfold SaleOrder.calculateRefundFee
        rw [if_neg hzero, if_pos h]
      rw [hfee]
      split
      · rfl
      · rfl

theorem refundFee_part (hnum : 0 < order.num) (h0 : part.refundNum ≠ 0)
    (hn : part.refundNum ≠ order.num) :
    (part.refund order).refundFee =
      if order.payment < order.num then order.payment
      else order.payment / order.num * part.refundNum := by
  have hfee : order.calculateRefundFee part.refundNum =
      order.payment / order.num * part.refundNum := by
    unfold SaleOrder.calculateRefundFee
    rw [if_neg h0, if_neg hn]
  rw [refundFee_eq, hfee]
  by_cases hlt : order.payment < order.num
  · rw [Nat.div_eq_of_lt hlt, zero_mul, if_pos rfl, if_pos hlt]
  · have hpos : 0 < order.payment / order.num := Nat.div_pos (by omega) (by omega)
    have hne : order.payment / order.num * part.refundNum ≠ 0 :=
      Nat.mul_ne_zero hpos.ne' h0
    rw [if_neg hne, if_neg hlt]

theorem rest_eq (h0 : part.refundNum ≠ 0) :
    part.rest order =
      if part.status = .waitSellerSendGoods ∧ part.refundNum < order.num then
        some ((part.reach order).reissueOrderByIncompleteRefund (order.num - part.refundNum))
      else none := by
  have hnum : (part.refund order).refundNum = part.refundNum := by
    rw [refundNum_eq, if_neg h0]
  unfold Part.rest SaleRefund.reissued
  rw [hnum]
  rfl

theorem rest_whole (h : part.refundNum = 0 ∨ part.refundNum = order.num) :
    part.rest order = none := by
  have hnum : (part.refund order).refundNum = order.num := by
    rw [refundNum_eq]
    rcases h with h | h
    · rw [if_pos h]
    · rw [h]
      split <;> rfl
  unfold Part.rest SaleRefund.reissued
  rw [hnum]
  exact if_neg fun hlt => Nat.lt_irrefl _ hlt.2

end Fee

theorem toNat_halfEven (payment num : Nat) :
    (halfEven payment num).toNat =
      if RoundsDown payment num then payment / num else payment / num + 1 := by
  have hiff : (2 * ((payment : Int) % num) < num ∨
      (2 * ((payment : Int) % num) = num ∧ (payment : Int) / num % 2 = 0)) ↔
        RoundsDown payment num := by
    unfold RoundsDown
    norm_cast
  by_cases h : RoundsDown payment num
  · rw [halfEven_down (hiff.2 h), if_pos h]
    norm_cast
  · rw [halfEven_up fun hdown => h (hiff.1 hdown), if_neg h]
    norm_cast

theorem proportional_iff {order : SaleOrder} {part : Part} (hnum : 0 < order.num)
    (hpart : part.refundNum ≤ order.num) : Proportional order part ↔ Divisible order part := by
  by_cases hall : part.refundNum = 0 ∨ part.refundNum = order.num
  · have hfee := refundFee_whole hall
    have hrest : part.rest order = none := rest_whole hall
    constructor
    · intro _
      rcases hall with h | h
      · exact .inl h
      · exact .inr (.inl h)
    · intro _
      refine ⟨?_, fun _ => hfee, ?_⟩
      · intro hone
        rcases hall with h | h
        · omega
        · rw [hfee, h]
      · intro order' horder'
        rw [hrest] at horder'
        cases horder'
  · rw [not_or] at hall
    obtain ⟨h0, hn⟩ := hall
    have hfee := refundFee_part hnum h0 hn
    have hrest := @rest_eq order part h0
    have hdivmod := Nat.div_add_mod order.payment order.num
    have hlt : part.refundNum < order.num := by omega
    by_cases hcheap : order.payment < order.num
    · rw [if_pos hcheap] at hfee
      constructor
      · intro h
        have hshare := h.share (by omega)
        rw [hfee] at hshare
        have hzero : order.payment = 0 := by
          by_contra hpos
          have hle := Nat.le_of_mul_le_mul_left hshare (by omega)
          omega
        exact .inr (.inr (.inl hzero))
      · intro h
        have hzero : order.payment = 0 := by
          rcases h with h | h | h | h
          · exact absurd h h0
          · exact absurd h hn
          · exact h
          · omega
        refine ⟨fun _ => ?_, fun h => absurd h hn, ?_⟩
        · rw [hfee, hzero, zero_mul]
          exact Nat.zero_le _
        · intro order' horder'
          rw [hrest] at horder'
          split at horder'
          · obtain rfl := Option.some.inj horder'
            have hdown : RoundsDown order.payment order.num := .inl (by
              rw [hzero, Nat.zero_mod]
              omega)
            simp only [SaleOrder.reissueOrderByIncompleteRefund, Part.reach, hfee, toNat_halfEven,
              if_pos hdown]
            rw [hzero, Nat.zero_div, Nat.zero_mul]
          · cases horder'
    · rw [if_neg hcheap] at hfee
      have hshare : order.payment / order.num * part.refundNum * order.num ≤
          order.payment * part.refundNum := by
        calc order.payment / order.num * part.refundNum * order.num
            = order.payment / order.num * order.num * part.refundNum := by ring
          _ ≤ order.payment * part.refundNum :=
              Nat.mul_le_mul_right _ (Nat.div_mul_le_self _ _)
      have hpieces : order.payment / order.num * part.refundNum +
          order.payment / order.num * (order.num - part.refundNum) =
            order.num * (order.payment / order.num) := by
        rw [← Nat.mul_add, Nat.add_sub_cancel' hpart, Nat.mul_comm]
      constructor
      · intro h
        refine .inr (.inr (.inr ⟨by omega, fun hstatus => ?_⟩))
        rw [if_pos ⟨hstatus, hlt⟩] at hrest
        have hleft := h.left _ hrest
        by_cases hdown : RoundsDown order.payment order.num
        · exact .inl hdown
        · right
          simp only [SaleOrder.reissueOrderByIncompleteRefund, Part.reach, hfee, toNat_halfEven,
            if_neg hdown, Nat.add_mul, Nat.one_mul] at hleft
          omega
      · intro h
        refine ⟨fun _ => by rw [hfee]; exact hshare, fun h => absurd h hn, ?_⟩
        intro order' horder'
        rw [hrest] at horder'
        split at horder'
        · next hwaits =>
            obtain rfl := Option.some.inj horder'
            have hprice : RoundsDown order.payment order.num ∨
                order.num - part.refundNum ≤ order.payment % order.num := by
              rcases h with h | h | h | h
              · exact absurd h h0
              · exact absurd h hn
              · omega
              · exact h.2 hwaits.1
            simp only [SaleOrder.reissueOrderByIncompleteRefund, Part.reach, hfee, toNat_halfEven]
            by_cases hdown : RoundsDown order.payment order.num
            · rw [if_pos hdown]
              omega
            · rw [if_neg hdown, Nat.add_mul, Nat.one_mul]
              have hcut := hprice.resolve_left hdown
              omega
        · cases horder'

structure Even (order : SaleOrder) : Prop where
  pieces : 0 < order.num
  price : order.num ∣ order.payment

theorem Even.divisible {order : SaleOrder} (h : Even order) (part : Part) :
    Divisible order part := by
  have hmod : order.payment % order.num = 0 := Nat.mod_eq_zero_of_dvd h.price
  have hpieces := h.pieces
  by_cases hzero : order.payment = 0
  · exact .inr (.inr (.inl hzero))
  · refine .inr (.inr (.inr ⟨Nat.le_of_dvd (by omega) h.price, fun _ => .inl (.inl ?_)⟩))
    omega

theorem even_rest {order order' : SaleOrder} {part : Part} (h : part.rest order = some order') :
    Even order' := by
  unfold Part.rest SaleRefund.reissued at h
  split at h
  · next hwaits =>
      obtain rfl := Option.some.inj h
      have hlt : (part.refund order).refundNum < order.num := hwaits.2
      refine ⟨?_, Nat.dvd_mul_left _ _⟩
      simp only [SaleOrder.reissueOrderByIncompleteRefund, Part.reach]
      omega
  · cases h

theorem fairlyRefunded_cons {order : SaleOrder} {part : Part} {parts : List Part}
    (hrest : ∀ order', part.rest order = some order' → FairlyRefunded order' parts)
    (hpart : part.refundNum ≤ order.num) (hnum : 0 < order.num) :
    FairlyRefunded order (part :: parts) ↔ Divisible order part := by
  rw [← proportional_iff hnum hpart]
  constructor
  · intro h
    exact h.1.1
  · intro h
    cases hsome : part.rest order with
    | none =>
      have hle : (part.refund order).refundFee ≤ order.payment := by
        by_cases hall : part.refundNum = 0 ∨ part.refundNum = order.num
        · exact (refundFee_whole hall).le
        · rw [not_or] at hall
          have hshare := h.share (by omega)
          have hmul : order.payment * part.refundNum ≤ order.payment * order.num :=
            Nat.mul_le_mul_left _ hpart
          exact Nat.le_of_mul_le_mul_right (hshare.trans hmul) hnum
      unfold FairlyRefunded AllProportional refunded
      rw [hsome]
      exact ⟨⟨h, trivial⟩, hle⟩
    | some order' =>
      obtain ⟨hall, htotal⟩ := hrest order' hsome
      have hleft := h.left order' hsome
      unfold FairlyRefunded AllProportional refunded
      rw [hsome]
      exact ⟨⟨h, hall⟩, by dsimp only; omega⟩

theorem Even.fairlyRefunded : ∀ {parts : List Part} {order : SaleOrder}, Even order →
    WithinPieces order parts → FairlyRefunded order parts := by
  intro parts
  induction parts with
  | nil =>
    intro order _ _
    exact ⟨trivial, Nat.zero_le _⟩
  | cons part parts ih =>
    intro order heven hwithin
    unfold WithinPieces at hwithin
    refine (fairlyRefunded_cons ?_ hwithin.1 heven.pieces).2 (heven.divisible part)
    intro order' hrest
    have hwithin' := hwithin.2
    rw [hrest] at hwithin'
    exact ih (even_rest hrest) hwithin'

def fivePieces (payment : Nat) : SaleOrder where
  id := 1
  saleTradeId := 1
  buyerId := 1
  payment := payment
  num := 5
  status := .waitSellerSendGoods
  refundStatus := .noRefund
  refundId := none
  refundFee := 0

def firstPiece : Part := ⟨.waitSellerSendGoods, 1, .buyerNotReceived⟩

end ShopManager.Pay.Refund
