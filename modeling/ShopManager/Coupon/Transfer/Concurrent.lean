import Mathlib.Algebra.BigOperators.Group.Finset.Piecewise
import Mathlib.Data.Fintype.Basic
import ShopManager.Coupon.Transfer.Delivery

/-!
# Deliveries at the same time

A delivery checks the stock, marks the records of its order, picks the first unused
coupons and saves them one by one.  Requests of one mama take these steps in any order
among each other, and nothing holds the coupons that one of them has picked.
-/

namespace ShopManager.Coupon

open Library Library.Tx Library.Execution ExchangeDb CouponDb

/-! ## The steps of a delivery -/

structure Delivery where
  mamaId : Nat
  customer : Nat
  toCustomer : Nat
  record : CouponTransferRecord
  chain : List Nat
  deriving DecidableEq, Repr

/-- The checks of `process_coupon` and `process_transfer_coupon`; none where the view does
not deliver, or where the transaction would raise and leave nothing. -/
def prepareProcess (referals : Referals) (s : ExchangeDb) (user pk : Nat) : Option Delivery := do
  let mamaId ← s.normalChargedMama user
  let record ← (s.coupon.transferRecords.get? pk).filter fun record => record.canProcess mamaId
  guard (record.couponNum ≤ getCouponStockNum s.coupon mamaId record.templateId)
  let mama ← s.mamas mamaId
  let customer ← mama.customer
  let initFromMama ← s.mamas record.initFromMamaId
  let toCustomer ← initFromMama.normalCustomer
  guard (record.couponNum ≤ (transferableCoupons s.coupon customer record.templateId).length)
  let initMama ← s.coupon.openMama toCustomer
  let chain ← referals.getShipChain initMama record.couponFromMamaId
  guard (0 ≤ record.couponNum)
  pure ⟨mamaId, customer, toCustomer, record, chain⟩

/-- The checks of `transfer_coupon`. -/
def prepareTransfer (referals : Referals) (s : ExchangeDb) (user pk : Nat) : Option Delivery := do
  let mamaId ← s.coupon.chargedMama user
  let record ← s.coupon.transferRecords.get? pk
  let initFromMama ← s.mamas record.initFromMamaId
  guard (record.couponNum ≤ getCouponStockNum s.coupon mamaId record.templateId)
  let chain ← referals.getShipChain record.initFromMamaId record.couponFromMamaId
  let mama ← s.mamas mamaId
  guard ((record.canProcess mamaId && mama.canBuyTransferCoupon) = true)
  guard (record.couponNum ≤ (transferableCoupons s.coupon user record.templateId).length)
  guard (0 ≤ record.couponNum)
  let toCustomer ← initFromMama.normalCustomer
  pure ⟨mamaId, user, toCustomer, record, chain⟩

inductive DeliveryView where
  | processCoupon
  | transferCoupon
  deriving DecidableEq, Repr

def prepare (referals : Referals) (view : DeliveryView) : ExchangeDb → Nat → Nat →
    Option Delivery :=
  match view with
  | .processCoupon => prepareProcess referals
  | .transferCoupon => prepareTransfer referals

/-- How far a request is. -/
inductive Phase where
  | idle
  | ready (delivery : Delivery)
  | marked (delivery : Delivery)
  | saving (delivery : Delivery) (picked rest : List UserCoupon)
  | ended
  deriving DecidableEq, Repr

/-- The steps of the requests, which `ι` numbers. -/
inductive DeliveryStep (ι : Type) where
  | begin (request : ι) (view : DeliveryView) (user pk : Nat)
  | mark (request : ι)
  | pick (request : ι)
  | saveNext (request : ι)
  | finish (request : ι)
  deriving Repr

structure Deliveries (ι : Type) where
  db : ExchangeDb
  phase : ι → Phase
  moves : List (ι × Nat)

namespace Deliveries

variable {ι : Type}

def start (db : ExchangeDb) : Deliveries ι where
  db := db
  phase _ := .idle
  moves := []

variable [DecidableEq ι]

def setPhase (st : Deliveries ι) (request : ι) (phase : Phase) : Deliveries ι :=
  { st with phase := Function.update st.phase request phase }

def setCoupons (st : Deliveries ι) (coupon : CouponDb) : Deliveries ι :=
  { st with db := st.db.setCoupon coupon }

def logMove (st : Deliveries ι) (request : ι) (couponId : Nat) : Deliveries ι :=
  { st with moves := (request, couponId) :: st.moves }

end Deliveries

def Delivery.moved (delivery : Delivery) (coupon : UserCoupon) : UserCoupon :=
  { coupon with
    customerId := delivery.toCustomer
    chain := some (coupon.mamaChain ++ delivery.chain) }

namespace DeliveryStep

variable {ι : Type} [DecidableEq ι]

def exec (referals : Referals) (step : DeliveryStep ι) (st : Deliveries ι) : Deliveries ι :=
  match step with
  | begin request view user pk =>
      match st.phase request, prepare referals view st.db user pk with
      | .idle, some delivery => st.setPhase request (.ready delivery)
      | _, _ => st
  | mark request =>
      match st.phase request with
      | .ready delivery =>
          (st.setCoupons ((deliverOrder delivery.record.orderNo).run st.db.coupon).2).setPhase
            request (.marked delivery)
      | _ => st
  | pick request =>
      match st.phase request with
      | .marked delivery =>
          let coupons := couponsFor st.db.coupon delivery.customer delivery.record
          st.setPhase request (.saving delivery coupons coupons)
      | _ => st
  | saveNext request =>
      match st.phase request with
      | .saving delivery picked (coupon :: rest) =>
          ((st.setCoupons ((transferOne delivery.toCustomer delivery.chain coupon).run
            st.db.coupon).2).setPhase request (.saving delivery picked rest)).logMove
              request coupon.id
      | _ => st
  | finish request =>
      match st.phase request with
      | .saving delivery picked [] =>
          (st.setCoupons ((createTransferCouponDetail delivery.record.id
            (picked.map UserCoupon.id)).run st.db.coupon).2).setPhase request .ended
      | _ => st

end DeliveryStep

namespace Deliveries

variable {ι : Type}

def lost (customer : Nat) (init s : CouponDb) : List UserCoupon :=
  init.userCoupons.filter fun coupon => coupon.customerId = customer ∧
    ((s.userCoupons.get? coupon.id).any fun now => now.customerId ≠ customer) = true

def becameDelivered (mamaId : Nat) (init : CouponDb) (record : CouponTransferRecord) : Int :=
  if record.couponFromMamaId = mamaId ∧ record.transferStatus = .delivered ∧
      ((init.transferRecords.get? record.id).any fun before =>
        before.transferStatus = .delivered) = false then
    record.couponNum
  else 0

def deliveredTotal (mamaId : Nat) (init s : CouponDb) : Int :=
  s.transferRecords.sum (becameDelivered mamaId init)

def Quiet (st : Deliveries ι) : Prop :=
  ∀ request, (∀ delivery, st.phase request ≠ .marked delivery) ∧
    ∀ delivery picked rest, st.phase request ≠ .saving delivery picked rest

/-- Each coupon was moved by one request, and whenever no request is under way the mama has
lost as many coupons as the records that became delivered ask for. -/
structure OneDelivery (mamaId customer : Nat) (init : CouponDb) (st : Deliveries ι) : Prop where
  once : ∀ request request' couponId, (request, couponId) ∈ st.moves →
    (request', couponId) ∈ st.moves → request = request'
  balanced : st.Quiet →
    ((lost customer init st.db.coupon).length : Int) = deliveredTotal mamaId init st.db.coupon

end Deliveries

/-- A request belongs to the account of the mama and goes to another one; it marks its own
record and no other one of the mama, which nobody has delivered yet; and it picks where no
other request has coupons of the template left to save, and enough are there. -/
def DeliveryStep.Sound {ι : Type} (referals : Referals) (mamaId customer : Nat)
    (st : Deliveries ι) : DeliveryStep ι → Prop
  | .begin _ view user pk => ∀ delivery, prepare referals view st.db user pk = some delivery →
      delivery.mamaId = mamaId ∧ delivery.customer = customer ∧ delivery.toCustomer ≠ customer
  | .mark request => ∀ delivery, st.phase request = .ready delivery →
      ∀ record ∈ st.db.coupon.transferRecords, record.orderNo = delivery.record.orderNo →
        record.couponFromMamaId = mamaId →
          (record.id = delivery.record.id ↔ record.transferStatus ≠ .delivered)
  | .pick request => ∀ delivery, st.phase request = .marked delivery →
      delivery.record.couponNum ≤
          (transferableCoupons st.db.coupon customer delivery.record.templateId).length ∧
        ∀ other delivery' picked rest, other ≠ request →
          st.phase other = .saving delivery' picked rest → rest ≠ [] →
            delivery'.record.templateId ≠ delivery.record.templateId
  | .saveNext _ | .finish _ => True

/-! ## A delivery alone -/

theorem guard_eq_some {p : Prop} [Decidable p] {u : Unit} :
    (guard p : Option Unit) = some u ↔ p := by
  unfold guard
  by_cases h : p
  · rw [if_pos h]
    exact iff_of_true rfl h
  · rw [if_neg h]
    exact iff_of_false (fun hnone => by cases hnone) h

structure Prepared (s : ExchangeDb) (delivery : Delivery) : Prop where
  record : s.coupon.transferRecords.get? delivery.record.id = some delivery.record
  fromMama : delivery.record.couponFromMamaId = delivery.mamaId
  number : 0 ≤ delivery.record.couponNum

theorem fromMama_of_canProcess {record : CouponTransferRecord} {mamaId : Nat}
    (h : record.canProcess mamaId = true) : record.couponFromMamaId = mamaId := by
  unfold CouponTransferRecord.canProcess at h
  simp only [Bool.and_eq_true, decide_eq_true_eq] at h
  exact h.2

section Alone

variable {referals : Referals} {s : ExchangeDb} {user pk : Nat} {delivery : Delivery}

theorem prepared_process (h : prepareProcess referals s user pk = some delivery) :
    Prepared s delivery := by
  simp only [prepareProcess, Option.bind_eq_bind, Option.bind_eq_some_iff, guard_eq_some,
    Option.filter_eq_some_iff, Option.pure_def, Option.some.injEq] at h
  obtain ⟨mamaId, _, record, ⟨hget, hcan⟩, _, _, mama, _, customer, _, initFromMama, _, toCustomer,
    _, _, _, initMama, _, chain, _, _, hnumber, rfl⟩ := h
  have hid : record.id = pk := (Table.get?_eq_some.1 hget).2
  exact ⟨by rw [hid, hget], fromMama_of_canProcess hcan, hnumber⟩

theorem prepared_transfer (h : prepareTransfer referals s user pk = some delivery) :
    Prepared s delivery := by
  simp only [prepareTransfer, Option.bind_eq_bind, Option.bind_eq_some_iff, guard_eq_some,
    Option.pure_def, Option.some.injEq, Bool.and_eq_true] at h
  obtain ⟨mamaId, _, record, hget, initFromMama, _, _, _, chain, _, mama, _, _, ⟨hcan, _⟩, _, _, _,
    hnumber, toCustomer, _, rfl⟩ := h
  have hid : record.id = pk := (Table.get?_eq_some.1 hget).2
  exact ⟨by rw [hid, hget], fromMama_of_canProcess hcan, hnumber⟩

theorem prepared_of_prepare {view : DeliveryView}
    (h : prepare referals view s user pk = some delivery) : Prepared s delivery := by
  cases view with
  | processCoupon => exact prepared_process h
  | transferCoupon => exact prepared_transfer h

def Delivery.program (delivery : Delivery) : CouponTx Unit := do
  deliverOrder delivery.record.orderNo
  let coupons ← gets fun s => couponsFor s delivery.customer delivery.record
  transferCoupons coupons delivery.toCustomer delivery.record.id delivery.chain

theorem transferCoupons_run (delivery : Delivery) (s : CouponDb) :
    ∃ s', delivery.program.run s = (.ok (), s') := by
  obtain ⟨hspec, hnodup⟩ := couponsFor_spec (s.withOrderDelivered delivery.record.orderNo)
    delivery.customer delivery.record
  obtain ⟨t, hrun, _⟩ := saveEach_run delivery.moved (fun _ => rfl)
    (fun coupon hcoupon => (hspec coupon hcoupon).1) hnodup
  unfold Delivery.program deliverOrder transferCoupons
  rw [modify_bind_run, gets_bind_run]
  exact ⟨_, bind_ok hrun⟩

theorem shipped_run {s' : CouponDb} (hrun : delivery.program.run s.coupon = (.ok (), s')) :
    (do
      let coupons ← gets fun s => couponsFor s.coupon delivery.customer delivery.record
      inCoupon (transferCoupons coupons delivery.toCustomer delivery.record.id delivery.chain)
      pure 0 : ExchangeTx Nat).run
        (s.setCoupon (s.coupon.withOrderDelivered delivery.record.orderNo)) =
      (.ok 0, s.setCoupon s') := by
  unfold Delivery.program deliverOrder at hrun
  rw [modify_bind_run, gets_bind_run] at hrun
  rw [gets_bind_run]
  exact bind_ok (zoom_eq_ok.2 ⟨s', hrun, rfl⟩)

theorem processCoupon_run (today : Date)
    (h : prepareProcess referals s user pk = some delivery) :
    (CouponTransferRecordViewSet.processCoupon referals today user pk).run s =
      (.ok 0, s.setCoupon (delivery.program.run s.coupon).2) := by
  obtain ⟨s', hs'⟩ := transferCoupons_run delivery s.coupon
  simp only [prepareProcess, Option.bind_eq_bind, Option.bind_eq_some_iff, guard_eq_some,
    Option.pure_def, Option.some.injEq] at h
  obtain ⟨mamaId, hmama, record, hrecord, _, hstock, mama, hrow, customer, hcustomer, initFromMama,
    hinit, toCustomer, hto, _, hcount, initMama, hopen, chain, hchain, _, hnumber, rfl⟩ := h
  have hinside : (do
      inCoupon (deliverOrder record.orderNo)
      let initMama ← getOr .attributeError fun s => s.coupon.openMama toCustomer
      let chain ← shipChain referals initMama record.couponFromMamaId
      raiseIf (record.couponNum < 0) (.assertion "Negative indexing is not supported.")
      let coupons ← gets fun s => couponsFor s.coupon customer record
      inCoupon (transferCoupons coupons toCustomer record.id chain)
      pure 0 : ExchangeTx Nat).run s = (.ok 0, s.setCoupon s') := by
    have hmarked : (inCoupon (deliverOrder record.orderNo)).run s =
        (.ok (), s.setCoupon (s.coupon.withOrderDelivered record.orderNo)) := rfl
    rw [bind_ok hmarked, getOr_bind_run]
    have hopen' : (s.setCoupon (s.coupon.withOrderDelivered record.orderNo)).coupon.openMama
        toCustomer = some initMama := hopen
    rw [hopen']
    dsimp only
    unfold shipChain
    rw [getOr_bind_run, hchain]
    dsimp only
    rw [raiseIf_bind_run, if_neg (by omega)]
    have hshipped := shipped_run hs'
    exact hshipped
  unfold CouponTransferRecordViewSet.processCoupon
  rw [getOr_bind_run, hmama]
  dsimp only
  rw [gets_bind_run, hrecord]
  dsimp only
  rw [gets_bind_run, if_pos hstock]
  unfold deliverFromStock
  rw [getOr_bind_run, hrow]
  dsimp only
  rw [getOr_bind_run, hcustomer]
  dsimp only
  rw [getOr_bind_run, hinit]
  dsimp only
  rw [getOr_bind_run, hto]
  dsimp only
  unfold processTransferCoupon
  rw [gets_bind_run, if_neg (by omega), hs']
  exact atomic_ok hinside

theorem transferCoupon_run (h : prepareTransfer referals s user pk = some delivery) :
    (CouponTransferRecordViewSet.transferCoupon referals user pk).run s =
      (.ok 0, s.setCoupon (delivery.program.run s.coupon).2) := by
  obtain ⟨s', hs'⟩ := transferCoupons_run delivery s.coupon
  simp only [prepareTransfer, Option.bind_eq_bind, Option.bind_eq_some_iff, guard_eq_some,
    Option.pure_def, Option.some.injEq] at h
  obtain ⟨mamaId, hmama, record, hget, initFromMama, hinit, _, hstock, chain, hchain, mama, hrow, _,
    hcan, _, hcount, _, hnumber, toCustomer, hto, rfl⟩ := h
  have hinside : (do
      inCoupon (deliverOrder record.orderNo)
      raiseIf (record.couponNum < 0) (.assertion "Negative indexing is not supported.")
      let initFromCustomer ← getOr .attributeError fun _ => initFromMama.normalCustomer
      let coupons ← gets fun s => couponsFor s.coupon user record
      inCoupon (transferCoupons coupons initFromCustomer record.id chain)
      pure 0 : ExchangeTx Nat).run s = (.ok 0, s.setCoupon s') := by
    have hmarked : (inCoupon (deliverOrder record.orderNo)).run s =
        (.ok (), s.setCoupon (s.coupon.withOrderDelivered record.orderNo)) := rfl
    rw [bind_ok hmarked, raiseIf_bind_run, if_neg (by omega), getOr_bind_run, hto]
    dsimp only
    have hshipped := shipped_run hs'
    exact hshipped
  unfold CouponTransferRecordViewSet.transferCoupon
  rw [getOr_bind_run, hmama]
  dsimp only
  rw [getOr_bind_run, hget]
  dsimp only
  rw [getOr_bind_run, hinit]
  dsimp only
  rw [gets_bind_run, if_neg (by omega)]
  unfold shipChain
  rw [getOr_bind_run, hchain]
  dsimp only
  unfold deliverBought
  rw [getOr_bind_run, hrow]
  dsimp only
  rw [if_neg (by simp [hcan]), gets_bind_run, if_neg (by omega), hs']
  exact atomic_ok hinside

end Alone

section Steps

variable {ι : Type} [DecidableEq ι] {request : ι}

theorem run_saveNext (referals : Referals) {delivery : Delivery} {picked : List UserCoupon} :
    ∀ (rest : List UserCoupon) (st : Deliveries ι),
      st.phase request = .saving delivery picked rest →
        ∃ st', run (DeliveryStep.exec referals)
            (List.replicate rest.length (.saveNext request)) st = st' ∧
          st'.phase request = .saving delivery picked [] ∧
          st'.db = st.db.setCoupon ((forEach rest
            (transferOne delivery.toCustomer delivery.chain)).run st.db.coupon).2 := by
  intro rest
  induction rest with
  | nil =>
    intro st hphase
    exact ⟨st, rfl, hphase, rfl⟩
  | cons coupon rest ih =>
    intro st hphase
    have hstep : DeliveryStep.exec referals (.saveNext request) st =
        ((st.setCoupons ((transferOne delivery.toCustomer delivery.chain coupon).run
          st.db.coupon).2).setPhase request (.saving delivery picked rest)).logMove
            request coupon.id := by
      simp only [DeliveryStep.exec, hphase]
    have hnext : (((st.setCoupons ((transferOne delivery.toCustomer delivery.chain coupon).run
          st.db.coupon).2).setPhase request (.saving delivery picked rest)).logMove
            request coupon.id).phase request = .saving delivery picked rest :=
      Function.update_self ..
    obtain ⟨st', hrun, hphase', hdb⟩ := ih _ hnext
    refine ⟨st', ?_, hphase', ?_⟩
    · rw [List.length_cons, List.replicate_succ, run_cons, hstep]
      exact hrun
    · rw [hdb]
      rfl

theorem run_alone {referals : Referals} {view : DeliveryView} {user pk : Nat} {delivery : Delivery}
    {st : Deliveries ι} (hidle : st.phase request = .idle)
    (h : prepare referals view st.db user pk = some delivery) :
    ∃ n, (run (DeliveryStep.exec referals)
      ([.begin request view user pk, .mark request, .pick request] ++
        List.replicate n (.saveNext request) ++ [.finish request]) st).db =
          st.db.setCoupon (delivery.program.run st.db.coupon).2 := by
  let marked := st.db.coupon.withOrderDelivered delivery.record.orderNo
  let coupons := couponsFor marked delivery.customer delivery.record
  let st₁ : Deliveries ι := ((st.setPhase request (.ready delivery)).setCoupons marked).setPhase
    request (.marked delivery)
  let st₂ : Deliveries ι := st₁.setPhase request (.saving delivery coupons coupons)
  have hbegin : DeliveryStep.exec referals (.begin request view user pk) st =
      st.setPhase request (.ready delivery) := by
    simp only [DeliveryStep.exec, hidle, h]
  have hready : (st.setPhase request (.ready delivery)).phase request = .ready delivery :=
    Function.update_self ..
  have hmark : DeliveryStep.exec referals (.mark request) (st.setPhase request (.ready delivery)) =
      st₁ := by
    simp only [DeliveryStep.exec, hready]
    rfl
  have hmarked : st₁.phase request = .marked delivery := Function.update_self ..
  have hpick : DeliveryStep.exec referals (.pick request) st₁ = st₂ := by
    simp only [DeliveryStep.exec, hmarked]
    rfl
  have hsaving : st₂.phase request = .saving delivery coupons coupons := Function.update_self ..
  obtain ⟨st', hrun, hphase', hdb⟩ := run_saveNext referals coupons st₂ hsaving
  refine ⟨coupons.length, ?_⟩
  rw [List.append_assoc, run_append, run_cons, run_cons, run_cons, run_nil, hbegin, hmark, hpick,
    run_append, hrun, run_cons, run_nil]
  simp only [DeliveryStep.exec, hphase']
  show st'.db.setCoupon _ = _
  rw [hdb]
  obtain ⟨hspec, hnodup⟩ := couponsFor_spec marked delivery.customer delivery.record
  obtain ⟨t, hsaved, _⟩ := saveEach_run delivery.moved (fun _ => rfl)
    (fun coupon hcoupon => (hspec coupon hcoupon).1) hnodup
  have hloop : (forEach coupons (transferOne delivery.toCustomer delivery.chain)).run marked =
      (.ok (), { marked with userCoupons := t }) := hsaved
  have hprogram : delivery.program.run st.db.coupon =
      (transferCoupons coupons delivery.toCustomer delivery.record.id delivery.chain).run marked :=
    rfl
  rw [hprogram]
  unfold transferCoupons
  rw [bind_ok hloop]
  show _ = st.db.setCoupon _
  have hcoupon : st₂.db.coupon = marked := rfl
  rw [hcoupon, hloop]
  rfl

/-- Without a step of another request in between, a delivery is what the view does. -/
theorem delivery_alone {referals : Referals} {view : DeliveryView} {user pk : Nat}
    {delivery : Delivery} {st : Deliveries ι} (today : Date)
    (hidle : st.phase request = .idle) (h : prepare referals view st.db user pk = some delivery) :
    ∃ n, (match view with
        | .processCoupon => CouponTransferRecordViewSet.processCoupon referals today user pk
        | .transferCoupon =>
          CouponTransferRecordViewSet.transferCoupon referals user pk).run st.db =
      (.ok 0, (run (DeliveryStep.exec referals)
        ([.begin request view user pk, .mark request, .pick request] ++
          List.replicate n (.saveNext request) ++ [.finish request]) st).db) := by
  obtain ⟨n, hrun⟩ := run_alone hidle h
  refine ⟨n, ?_⟩
  rw [hrun]
  cases view with
  | processCoupon => exact processCoupon_run today h
  | transferCoupon => exact transferCoupon_run h

end Steps

/-! ## Coupons -/

def Phase.delivery? : Phase → Option Delivery
  | .idle | .ended => none
  | .ready delivery | .marked delivery | .saving delivery _ _ => some delivery

namespace Deliveries

variable {ι : Type}

def movedIds (st : Deliveries ι) : List Nat := st.moves.map Prod.snd

structure Left (customer : Nat) (st : Deliveries ι) (delivery : Delivery)
    (rest : List UserCoupon) : Prop where
  nodup : (rest.map UserCoupon.id).Nodup
  stored : ∀ coupon ∈ rest, st.db.coupon.userCoupons.get? coupon.id = some coupon
  owner : ∀ coupon ∈ rest, coupon.customerId = customer
  template : ∀ coupon ∈ rest, coupon.templateId = delivery.record.templateId
  unmoved : ∀ coupon ∈ rest, coupon.id ∉ st.movedIds

/-- Two requests with coupons left to save have them from different templates, and the
coupons that have moved are those the customer had and has no more. -/
structure CouponsApart (customer : Nat) (init : CouponDb) (st : Deliveries ι) : Prop where
  account : ∀ request delivery, (st.phase request).delivery? = some delivery →
    delivery.customer = customer ∧ delivery.toCustomer ≠ customer ∧ 0 ≤ delivery.record.couponNum
  left : ∀ request delivery picked rest, st.phase request = .saving delivery picked rest →
    Left customer st delivery rest
  apart : ∀ request request' delivery delivery' picked picked' rest rest', request ≠ request' →
    st.phase request = .saving delivery picked rest →
      st.phase request' = .saving delivery' picked' rest' → rest ≠ [] → rest' ≠ [] →
        delivery.record.templateId ≠ delivery'.record.templateId
  nodup : st.movedIds.Nodup
  kept : ∀ id, id ∉ st.movedIds → st.db.coupon.userCoupons.get? id = init.userCoupons.get? id
  gone : ∀ id ∈ st.movedIds, (∃ before, init.userCoupons.get? id = some before ∧
    before.customerId = customer) ∧ ∃ now, st.db.coupon.userCoupons.get? id = some now ∧
      now.customerId ≠ customer

variable {customer : Nat} {init : CouponDb} {st st' : Deliveries ι}

theorem start_couponsApart (db : ExchangeDb) :
    CouponsApart customer db.coupon (start db : Deliveries ι) where
  account _ _ h := by cases h
  left _ _ _ _ h := by cases h
  apart _ _ _ _ _ _ _ _ _ h := by cases h
  nodup := List.nodup_nil
  kept _ _ := rfl
  gone _ h := by cases h

theorem CouponsApart.length_lost (h : CouponsApart customer init st) :
    (lost customer init st.db.coupon).length = st.moves.length := by
  have hnodup : ((lost customer init st.db.coupon).map UserCoupon.id).Nodup := by
    have hrows : (init.userCoupons.rows.map UserCoupon.id).Nodup :=
      init.userCoupons.sorted.imp ne_of_lt
    exact (List.filter_sublist.map UserCoupon.id).nodup hrows
  have hmem : ∀ id, id ∈ (lost customer init st.db.coupon).map UserCoupon.id ↔
      id ∈ st.movedIds := by
    intro id
    rw [List.mem_map]
    constructor
    · rintro ⟨coupon, hcoupon, rfl⟩
      obtain ⟨hrow, hp⟩ := List.mem_filter.1 hcoupon
      obtain ⟨howner, hnow⟩ := of_decide_eq_true hp
      by_contra hnot
      obtain ⟨now, hget, hother⟩ := (Option.any_eq_true ..).1 hnow
      rw [h.kept coupon.id hnot] at hget
      have hself : init.userCoupons.get? coupon.id = some coupon :=
        Table.get?_eq_some.2 ⟨hrow, rfl⟩
      obtain rfl := Option.some.inj (hself.symm.trans hget)
      exact of_decide_eq_true hother howner
    · intro hid
      obtain ⟨⟨before, hbefore, howner⟩, now, hnow, hother⟩ := h.gone id hid
      obtain ⟨hrow, hpk⟩ := Table.get?_eq_some.1 hbefore
      have hid' : before.id = id := hpk
      refine ⟨before, List.mem_filter.2 ⟨hrow, ?_⟩, hid'⟩
      rw [decide_eq_true_eq, hid', hnow]
      exact ⟨howner, decide_eq_true hother⟩
  have hperm : ((lost customer init st.db.coupon).map UserCoupon.id).Perm st.movedIds :=
    (List.perm_ext_iff_of_nodup hnodup h.nodup).2 hmem
  have hlength := hperm.length_eq
  rw [List.length_map] at hlength
  rw [hlength, movedIds, List.length_map]

variable [DecidableEq ι] {request : ι} {phase : Phase}

theorem CouponsApart.setPhase (h : CouponsApart customer init st)
    (hcoupons : st'.db.coupon.userCoupons = st.db.coupon.userCoupons)
    (hmoves : st'.moves = st.moves)
    (hphase : st'.phase = Function.update st.phase request phase)
    (haccount : ∀ delivery, phase.delivery? = some delivery → delivery.customer = customer ∧
      delivery.toCustomer ≠ customer ∧ 0 ≤ delivery.record.couponNum)
    (hleft : ∀ delivery picked rest, phase = .saving delivery picked rest →
      Left customer st delivery rest ∧ (rest ≠ [] → ∀ other delivery' picked' rest',
        other ≠ request → st.phase other = .saving delivery' picked' rest' → rest' ≠ [] →
          delivery'.record.templateId ≠ delivery.record.templateId)) :
    CouponsApart customer init st' := by
  have hids : st'.movedIds = st.movedIds := by
    unfold movedIds
    rw [hmoves]
  have hself : st'.phase request = phase := by rw [hphase, Function.update_self]
  have hother : ∀ other, other ≠ request → st'.phase other = st.phase other := by
    intro other hne
    rw [hphase, Function.update_of_ne hne]
  have hkeep : ∀ {delivery rest}, Left customer st delivery rest →
      Left customer st' delivery rest := by
    intro delivery rest hold
    refine ⟨hold.nodup, ?_, hold.owner, hold.template, ?_⟩
    · rw [hcoupons]
      exact hold.stored
    · rw [hids]
      exact hold.unmoved
  refine ⟨?_, ?_, ?_, ?_, ?_, ?_⟩
  · intro other delivery hdelivery
    by_cases hr : other = request
    · subst hr
      rw [hself] at hdelivery
      exact haccount delivery hdelivery
    · rw [hother other hr] at hdelivery
      exact h.account other delivery hdelivery
  · intro other delivery picked rest hsaving
    by_cases hr : other = request
    · subst hr
      rw [hself] at hsaving
      exact hkeep (hleft delivery picked rest hsaving).1
    · rw [hother other hr] at hsaving
      exact hkeep (h.left other delivery picked rest hsaving)
  · intro r r' delivery delivery' picked picked' rest rest' hne hr hr' hrest hrest'
    by_cases hreq : r = request
    · subst hreq
      rw [hself] at hr
      rw [hother r' (Ne.symm hne)] at hr'
      exact Ne.symm ((hleft delivery picked rest hr).2 hrest r' delivery' picked' rest'
        (Ne.symm hne) hr' hrest')
    · rw [hother r hreq] at hr
      by_cases hreq' : r' = request
      · subst hreq'
        rw [hself] at hr'
        exact (hleft delivery' picked' rest' hr').2 hrest' r delivery picked rest hne hr hrest
      · rw [hother r' hreq'] at hr'
        exact h.apart r r' delivery delivery' picked picked' rest rest' hne hr hr' hrest hrest'
  · rw [hids]
    exact h.nodup
  · intro id hid
    rw [hids] at hid
    rw [hcoupons]
    exact h.kept id hid
  · intro id hid
    rw [hids] at hid
    rw [hcoupons]
    exact h.gone id hid

theorem CouponsApart.saveNext (h : CouponsApart customer init st) {delivery : Delivery}
    {picked rest : List UserCoupon} {coupon : UserCoupon}
    (hsaving : st.phase request = .saving delivery picked (coupon :: rest))
    (hcoupons : st'.db.coupon.userCoupons = st.db.coupon.userCoupons.save (delivery.moved coupon))
    (hmoves : st'.moves = (request, coupon.id) :: st.moves)
    (hphase : st'.phase = Function.update st.phase request (.saving delivery picked rest)) :
    CouponsApart customer init st' := by
  have hleft := h.left request delivery picked (coupon :: rest) hsaving
  have hstored := hleft.stored coupon (List.mem_cons_self ..)
  have howner := hleft.owner coupon (List.mem_cons_self ..)
  have hunmoved := hleft.unmoved coupon (List.mem_cons_self ..)
  have hnodup := hleft.nodup
  rw [List.map_cons, List.nodup_cons] at hnodup
  have haccount := h.account request delivery (by rw [hsaving]; rfl)
  have hids : st'.movedIds = coupon.id :: st.movedIds := by
    unfold movedIds
    rw [hmoves]
    rfl
  have hself : st'.phase request = .saving delivery picked rest := by
    rw [hphase, Function.update_self]
  have hother : ∀ other, other ≠ request → st'.phase other = st.phase other := by
    intro other hne
    rw [hphase, Function.update_of_ne hne]
  have hget : ∀ id, st'.db.coupon.userCoupons.get? id =
      if id = coupon.id then some (delivery.moved coupon)
      else st.db.coupon.userCoupons.get? id := by
    intro id
    have hpk : Row.pk (delivery.moved coupon) = coupon.id := rfl
    rw [hcoupons, Table.get?_save, hpk]
    by_cases hid : id = coupon.id
    · rw [if_pos hid, if_pos hid, hid, hstored]
      rfl
    · rw [if_neg hid, if_neg hid]
  have hkeep : ∀ {delivery' rest'}, Left customer st delivery' rest' →
      (∀ c ∈ rest', c.id ≠ coupon.id) → Left customer st' delivery' rest' := by
    intro delivery' rest' hold hne
    refine ⟨hold.nodup, ?_, hold.owner, hold.template, ?_⟩
    · intro c hc
      rw [hget, if_neg (hne c hc)]
      exact hold.stored c hc
    · intro c hc
      rw [hids, List.mem_cons, not_or]
      exact ⟨hne c hc, hold.unmoved c hc⟩
  have hrest : Left customer st delivery rest :=
    ⟨hnodup.2, fun c hc => hleft.stored c (List.mem_cons_of_mem _ hc),
      fun c hc => hleft.owner c (List.mem_cons_of_mem _ hc),
      fun c hc => hleft.template c (List.mem_cons_of_mem _ hc),
      fun c hc => hleft.unmoved c (List.mem_cons_of_mem _ hc)⟩
  refine ⟨?_, ?_, ?_, ?_, ?_, ?_⟩
  · intro other delivery' hdelivery
    by_cases hr : other = request
    · subst hr
      rw [hself] at hdelivery
      exact h.account other delivery' (by rw [hsaving]; exact hdelivery)
    · rw [hother other hr] at hdelivery
      exact h.account other delivery' hdelivery
  · intro other delivery' picked' rest' hsaving'
    by_cases hr : other = request
    · subst hr
      rw [hself] at hsaving'
      cases hsaving'
      apply hkeep hrest
      intro c hc heq
      exact hnodup.1 (heq ▸ List.mem_map_of_mem hc)
    · rw [hother other hr] at hsaving'
      have hold := h.left other delivery' picked' rest' hsaving'
      apply hkeep hold
      intro c hc heq
      -- the other request has a coupon of another template
      have hcoupon : c = coupon := by
        have hc' := hold.stored c hc
        rw [heq, hstored] at hc'
        exact (Option.some.inj hc').symm
      have htemplate := hold.template c hc
      rw [hcoupon, hleft.template coupon (List.mem_cons_self ..)] at htemplate
      exact h.apart request other delivery delivery' picked picked' (coupon :: rest) rest'
        (Ne.symm hr) hsaving hsaving' (List.cons_ne_nil _ _) (List.ne_nil_of_mem hc) htemplate
  · intro r r' delivery₁ delivery₂ picked₁ picked₂ rest₁ rest₂ hne hr hr' hrest₁ hrest₂
    by_cases hreq : r = request
    · subst hreq
      rw [hself] at hr
      rw [hother r' (Ne.symm hne)] at hr'
      cases hr
      exact h.apart r r' delivery delivery₂ picked picked₂ (coupon :: rest) rest₂ hne hsaving hr'
        (List.cons_ne_nil _ _) hrest₂
    · rw [hother r hreq] at hr
      by_cases hreq' : r' = request
      · subst hreq'
        rw [hself] at hr'
        cases hr'
        exact h.apart r r' delivery₁ delivery picked₁ picked rest₁ (coupon :: rest) hne hr hsaving
          hrest₁ (List.cons_ne_nil _ _)
      · rw [hother r' hreq'] at hr'
        exact h.apart r r' delivery₁ delivery₂ picked₁ picked₂ rest₁ rest₂ hne hr hr' hrest₁ hrest₂
  · rw [hids]
    exact List.nodup_cons.2 ⟨hunmoved, h.nodup⟩
  · intro id hid
    rw [hids, List.mem_cons, not_or] at hid
    rw [hget, if_neg hid.1]
    exact h.kept id hid.2
  · intro id hid
    rw [hids] at hid
    rw [hget]
    rcases List.mem_cons.1 hid with heq | hold
    · rw [if_pos heq, heq]
      refine ⟨⟨coupon, ?_, howner⟩, delivery.moved coupon, rfl, haccount.2.1⟩
      rw [← h.kept coupon.id hunmoved]
      exact hstored
    · have hne : id ≠ coupon.id := by
        rintro rfl
        exact hunmoved hold
      rw [if_neg hne]
      exact h.gone id hold

end Deliveries

/-! ## Records -/

def Phase.outstanding : Phase → Int
  | .marked delivery => delivery.record.couponNum
  | .saving _ _ rest => rest.length
  | _ => 0

namespace Deliveries

variable {ι : Type} [Fintype ι]

/-- The records that became delivered ask for the coupons that have moved and for those
that are about to. -/
structure RecordsCounted (mamaId : Nat) (init : CouponDb) (st : Deliveries ι) : Prop where
  own : ∀ request delivery, st.phase request = .ready delivery → ∃ row,
    st.db.coupon.transferRecords.get? delivery.record.id = some row ∧
      row.orderNo = delivery.record.orderNo ∧ row.couponFromMamaId = mamaId ∧
        row.couponNum = delivery.record.couponNum
  final : ∀ id before, init.transferRecords.get? id = some before →
    before.transferStatus = .delivered → ∃ now,
      st.db.coupon.transferRecords.get? id = some now ∧ now.transferStatus = .delivered
  total : deliveredTotal mamaId init st.db.coupon =
    st.moves.length + ∑ request, (st.phase request).outstanding

variable {mamaId : Nat} {init : CouponDb} {st st' : Deliveries ι}

theorem start_recordsCounted (mamaId : Nat) (db : ExchangeDb) :
    RecordsCounted mamaId db.coupon (start db : Deliveries ι) where
  own _ _ h := by cases h
  final id before hget hbefore := ⟨before, hget, hbefore⟩
  total := by
    have hzero : deliveredTotal mamaId db.coupon (start db : Deliveries ι).db.coupon = 0 := by
      apply Table.sum_eq_zero
      intro record hrecord
      have hget : db.coupon.transferRecords.get? record.id = some record :=
        Table.get?_eq_some.2 ⟨hrecord, rfl⟩
      unfold becameDelivered
      rw [if_neg]
      rintro ⟨_, hdelivered, hbefore⟩
      rw [hget, Option.any_some, hdelivered] at hbefore
      cases hbefore
    rw [hzero]
    simp [start, Phase.outstanding]

variable [DecidableEq ι] {request : ι} {phase : Phase}

theorem sum_outstanding (phases : ι → Phase) (request : ι) (phase : Phase) :
    ∑ other, (Function.update phases request phase other).outstanding =
      (∑ other, (phases other).outstanding) - (phases request).outstanding +
        phase.outstanding := by
  have hupdate : (fun other => (Function.update phases request phase other).outstanding) =
      Function.update (fun other => (phases other).outstanding) request phase.outstanding := by
    funext other
    by_cases h : other = request
    · rw [h, Function.update_self, Function.update_self]
    · rw [Function.update_of_ne h, Function.update_of_ne h]
  have hsplit := Finset.add_sum_erase Finset.univ (fun other => (phases other).outstanding)
    (Finset.mem_univ request)
  rw [hupdate, Finset.sum_update_of_mem (Finset.mem_univ request),
    Finset.sdiff_singleton_eq_erase]
  omega

theorem RecordsCounted.setPhase (h : RecordsCounted mamaId init st)
    (hrecords : st'.db.coupon.transferRecords = st.db.coupon.transferRecords)
    (hphase : st'.phase = Function.update st.phase request phase)
    (hown : ∀ delivery, phase = .ready delivery → ∃ row,
      st.db.coupon.transferRecords.get? delivery.record.id = some row ∧
        row.orderNo = delivery.record.orderNo ∧ row.couponFromMamaId = mamaId ∧
          row.couponNum = delivery.record.couponNum)
    (hmoves : (st'.moves.length : Int) + phase.outstanding =
      st.moves.length + (st.phase request).outstanding) :
    RecordsCounted mamaId init st' := by
  refine ⟨?_, ?_, ?_⟩
  · intro other delivery hready
    rw [hrecords]
    by_cases hr : other = request
    · rw [hphase, hr, Function.update_self] at hready
      exact hown delivery hready
    · rw [hphase, Function.update_of_ne hr] at hready
      exact h.own other delivery hready
  · rw [hrecords]
    exact h.final
  · have hold := h.total
    have hsame : deliveredTotal mamaId init st'.db.coupon =
        deliveredTotal mamaId init st.db.coupon := by
      unfold deliveredTotal
      rw [hrecords]
    rw [hsame, hphase, sum_outstanding]
    omega

theorem RecordsCounted.mark (h : RecordsCounted mamaId init st) {delivery : Delivery}
    (hready : st.phase request = .ready delivery)
    (honly : ∀ record ∈ st.db.coupon.transferRecords,
      record.orderNo = delivery.record.orderNo → record.couponFromMamaId = mamaId →
        (record.id = delivery.record.id ↔ record.transferStatus ≠ .delivered))
    (hrecords : st'.db.coupon.transferRecords =
      (st.db.coupon.withOrderDelivered delivery.record.orderNo).transferRecords)
    (hmoves : st'.moves = st.moves)
    (hphase : st'.phase = Function.update st.phase request (.marked delivery)) :
    RecordsCounted mamaId init st' := by
  obtain ⟨own, hget, horder, hfrom, hnum⟩ := h.own request delivery hready
  obtain ⟨hmem, hpk⟩ := Table.get?_eq_some.1 hget
  have hid : own.id = delivery.record.id := hpk
  have hgetAll : ∀ id, st'.db.coupon.transferRecords.get? id =
      (st.db.coupon.transferRecords.get? id).map fun record =>
        if record.orderNo = delivery.record.orderNo then
          { record with transferStatus := .delivered }
        else record := by
    intro id
    rw [hrecords]
    show (Table.update ..).get? id = _
    unfold Table.get?
    rw [Table.first_update (by intro _ _; rw [Row.pk_withPk])]
    apply Option.map_congr
    intro record _
    simp only [decide_eq_true_eq, Row.withPk, Row.pk]
  refine ⟨?_, ?_, ?_⟩
  · intro other delivery' hready'
    have hne : other ≠ request := by
      rintro rfl
      rw [hphase, Function.update_self] at hready'
      cases hready'
    rw [hphase, Function.update_of_ne hne] at hready'
    obtain ⟨row, hrow, hrow₁, hrow₂, hrow₃⟩ := h.own other delivery' hready'
    rw [hgetAll, hrow, Option.map_some]
    refine ⟨_, rfl, ?_⟩
    by_cases hsame : row.orderNo = delivery.record.orderNo
    · rw [if_pos hsame]
      exact ⟨hrow₁, hrow₂, hrow₃⟩
    · rw [if_neg hsame]
      exact ⟨hrow₁, hrow₂, hrow₃⟩
  · intro id before hbefore hdelivered
    obtain ⟨now, hnow, hstatus⟩ := h.final id before hbefore hdelivered
    rw [hgetAll, hnow, Option.map_some]
    refine ⟨_, rfl, ?_⟩
    by_cases hsame : now.orderNo = delivery.record.orderNo
    · rw [if_pos hsame]
    · rw [if_neg hsame]
      exact hstatus
  · have hold := h.total
    have hnew : deliveredTotal mamaId init st'.db.coupon =
        deliveredTotal mamaId init st.db.coupon + delivery.record.couponNum := by
      unfold deliveredTotal
      rw [hrecords]
      show (Table.update ..).sum _ = _
      rw [Table.sum_update, ← Table.sum_single hmem delivery.record.couponNum, ← Table.sum_add]
      apply Table.sum_congr
      intro record hrecord
      have hpkeq : Row.pk record = Row.pk own ↔ record.id = delivery.record.id := by
        rw [← hid]
        exact Iff.rfl
      have hself : Row.withPk (Row.pk record) { record with transferStatus := .delivered } =
          ({ record with transferStatus := .delivered } : CouponTransferRecord) := rfl
      simp only [hpkeq, decide_eq_true_eq, hself]
      by_cases hrowOrder : record.orderNo = delivery.record.orderNo
      · rw [if_pos hrowOrder]
        by_cases hrowFrom : record.couponFromMamaId = mamaId
        · by_cases hrowId : record.id = delivery.record.id
          · have hopen := (honly record hrecord hrowOrder hrowFrom).1 hrowId
            have heq : record = own := Table.pk_inj hrecord hmem (hpkeq.2 hrowId)
            have hbefore : ((init.transferRecords.get? record.id).any fun before =>
                before.transferStatus = .delivered) = false := by
              cases hany : (init.transferRecords.get? record.id).any fun before =>
                  decide (before.transferStatus = .delivered) with
              | false => rfl
              | true =>
                obtain ⟨before, hbefore, hdelivered⟩ := (Option.any_eq_true ..).1 hany
                obtain ⟨now, hnow, hstatus⟩ :=
                  h.final record.id before hbefore (of_decide_eq_true hdelivered)
                have hrow : st.db.coupon.transferRecords.get? record.id = some record :=
                  Table.get?_eq_some.2 ⟨hrecord, rfl⟩
                obtain rfl := Option.some.inj (hrow.symm.trans hnow)
                exact absurd hstatus hopen
            rw [if_pos hrowId]
            unfold becameDelivered
            rw [if_pos ⟨hrowFrom, rfl, hbefore⟩, if_neg (fun hall => hopen hall.2.1), zero_add,
              ← hnum, ← heq]
          · have hclosed : record.transferStatus = .delivered := by
              by_contra hopen
              exact hrowId ((honly record hrecord hrowOrder hrowFrom).2 hopen)
            have hsame : ({ record with transferStatus := .delivered } : CouponTransferRecord) =
                record := by rw [← hclosed]
            rw [hsame, if_neg hrowId, add_zero]
        · have hrowId : record.id ≠ delivery.record.id := by
            intro heq
            have hrow : record = own := Table.pk_inj hrecord hmem (hpkeq.2 heq)
            exact hrowFrom (hrow ▸ hfrom)
          unfold becameDelivered
          rw [if_neg (fun hall => hrowFrom hall.1), if_neg (fun hall => hrowFrom hall.1),
            if_neg hrowId, add_zero]
      · have hrowId : record.id ≠ delivery.record.id := by
          intro heq
          have hrow : record = own := Table.pk_inj hrecord hmem (hpkeq.2 heq)
          exact hrowOrder (hrow ▸ horder)
        rw [if_neg hrowOrder, if_neg hrowId, add_zero]
    have hzero : (Phase.ready delivery).outstanding = 0 := rfl
    have hmarked : (Phase.marked delivery).outstanding = delivery.record.couponNum := rfl
    rw [hnew, hmoves, hphase, sum_outstanding, hready, hzero, hmarked]
    omega

end Deliveries

/-! ## Runs -/

section Runs

open Deliveries

variable {ι : Type} [Fintype ι] [DecidableEq ι] {referals : Referals} {mamaId customer : Nat}
  {init : CouponDb} {st : Deliveries ι}

structure Separate (mamaId customer : Nat) (init : CouponDb) (st : Deliveries ι) : Prop where
  coupons : CouponsApart customer init st
  records : RecordsCounted mamaId init st

theorem separate_begin (h : Separate mamaId customer init st) {request : ι}
    {view : DeliveryView} {user pk : Nat}
    (hsound : (DeliveryStep.begin request view user pk).Sound referals mamaId customer st) :
    Separate mamaId customer init
      (DeliveryStep.exec referals (.begin request view user pk) st) := by
  simp only [DeliveryStep.exec]
  split
  · rename_i delivery hidle hprepare
    obtain ⟨hmama, hcustomer, hto⟩ := hsound delivery hprepare
    obtain ⟨hrecord, hfrom, hnumber⟩ := prepared_of_prepare hprepare
    constructor
    · refine h.coupons.setPhase rfl rfl rfl ?_ ?_
      · intro delivery' hdelivery
        obtain rfl := Option.some.inj hdelivery
        exact ⟨hcustomer, hto, hnumber⟩
      · intro delivery' picked rest hsaving
        cases hsaving
    · refine h.records.setPhase rfl rfl ?_ ?_
      · intro delivery' hready
        cases hready
        exact ⟨_, hrecord, rfl, hfrom.trans hmama, rfl⟩
      · rw [hidle]
        rfl
  · exact h

theorem separate_mark (h : Separate mamaId customer init st) {request : ι}
    (hsound : (DeliveryStep.mark request).Sound referals mamaId customer st) :
    Separate mamaId customer init (DeliveryStep.exec referals (.mark request) st) := by
  simp only [DeliveryStep.exec]
  split
  · rename_i delivery hready
    constructor
    · refine h.coupons.setPhase rfl rfl rfl ?_ ?_
      · intro delivery' hdelivery
        obtain rfl := Option.some.inj hdelivery
        exact h.coupons.account request delivery (by rw [hready]; rfl)
      · intro delivery' picked rest hsaving
        cases hsaving
    · exact h.records.mark hready (hsound delivery hready) rfl rfl rfl
  · exact h

theorem separate_pick (h : Separate mamaId customer init st) {request : ι}
    (hsound : (DeliveryStep.pick request).Sound referals mamaId customer st) :
    Separate mamaId customer init (DeliveryStep.exec referals (.pick request) st) := by
  simp only [DeliveryStep.exec]
  split
  · rename_i delivery hmarked
    obtain ⟨henough, halone⟩ := hsound delivery hmarked
    have haccount := h.coupons.account request delivery (by rw [hmarked]; rfl)
    obtain ⟨hspec, hnodup⟩ := couponsFor_spec st.db.coupon delivery.customer delivery.record
    constructor
    · refine h.coupons.setPhase rfl rfl rfl ?_ ?_
      · intro delivery' hdelivery
        obtain rfl := Option.some.inj hdelivery
        exact haccount
      · intro delivery' picked rest hsaving
        cases hsaving
        refine ⟨⟨hnodup, ?_, ?_, ?_, ?_⟩, ?_⟩
        · intro coupon hcoupon
          exact Table.get?_eq_some.2 ⟨(hspec coupon hcoupon).1, rfl⟩
        · intro coupon hcoupon
          exact (hspec coupon hcoupon).2.1.trans haccount.1
        · intro coupon hcoupon
          exact (hspec coupon hcoupon).2.2.2.2
        · intro coupon hcoupon hmoved
          obtain ⟨_, now, hnow, hother⟩ := h.coupons.gone coupon.id hmoved
          have hget : st.db.coupon.userCoupons.get? coupon.id = some coupon :=
            Table.get?_eq_some.2 ⟨(hspec coupon hcoupon).1, rfl⟩
          obtain rfl := Option.some.inj (hget.symm.trans hnow)
          exact hother ((hspec coupon hcoupon).2.1.trans haccount.1)
        · intro _ other delivery' picked' rest' hne hsaving' hrest'
          exact halone other delivery' picked' rest' hne hsaving' hrest'
    · refine h.records.setPhase rfl rfl ?_ ?_
      · intro delivery' hready
        cases hready
      · have hnumber := haccount.2.2
        have hlength : ((couponsFor st.db.coupon delivery.customer delivery.record).length : Int) =
            delivery.record.couponNum := by
          unfold couponsFor
          rw [List.length_take, haccount.1]
          omega
        rw [hmarked]
        show (st.moves.length : Int) + List.length _ = st.moves.length + delivery.record.couponNum
        rw [hlength]
  · exact h

theorem separate_saveNext (h : Separate mamaId customer init st) (request : ι) :
    Separate mamaId customer init (DeliveryStep.exec referals (.saveNext request) st) := by
  simp only [DeliveryStep.exec]
  split
  · rename_i delivery picked coupon rest hsaving
    constructor
    · exact h.coupons.saveNext hsaving rfl rfl rfl
    · refine h.records.setPhase rfl rfl ?_ ?_
      · intro delivery' hready
        cases hready
      · rw [hsaving]
        show ((st.moves.length + 1 : Nat) : Int) + rest.length =
          st.moves.length + ((rest.length + 1 : Nat) : Int)
        omega
  · exact h

theorem separate_finish (h : Separate mamaId customer init st) (request : ι) :
    Separate mamaId customer init (DeliveryStep.exec referals (.finish request) st) := by
  simp only [DeliveryStep.exec]
  split
  · rename_i delivery picked hsaving
    constructor
    · refine h.coupons.setPhase rfl rfl rfl ?_ ?_
      · intro delivery' hdelivery
        cases hdelivery
      · intro delivery' picked' rest hended
        cases hended
    · refine h.records.setPhase rfl rfl ?_ ?_
      · intro delivery' hready
        cases hready
      · rw [hsaving]
        rfl
  · exact h

theorem separate_exec (h : Separate mamaId customer init st) (step : DeliveryStep ι)
    (hsound : step.Sound referals mamaId customer st) :
    Separate mamaId customer init (step.exec referals st) := by
  cases step with
  | begin request view user pk => exact separate_begin h hsound
  | mark request => exact separate_mark h hsound
  | pick request => exact separate_pick h hsound
  | saveNext request => exact separate_saveNext h request
  | finish request => exact separate_finish h request

theorem Separate.oneDelivery (h : Separate mamaId customer init st) :
    OneDelivery mamaId customer init st where
  once request request' couponId hmem hmem' := by
    have hinj := List.inj_on_of_nodup_map h.coupons.nodup hmem hmem' rfl
    exact congrArg Prod.fst hinj
  balanced hquiet := by
    have hzero : ∑ request, (st.phase request).outstanding = 0 := by
      apply Finset.sum_eq_zero
      intro request _
      obtain ⟨hmarked, hsaving⟩ := hquiet request
      cases hphase : st.phase request with
      | idle => rfl
      | ready delivery => rfl
      | marked delivery => exact absurd hphase (hmarked delivery)
      | saving delivery picked rest => exact absurd hphase (hsaving delivery picked rest)
      | ended => rfl
    rw [h.coupons.length_lost, h.records.total, hzero, add_zero]

/-- In every interleaving of the deliveries of a mama whose steps are sound, each coupon is
moved by one delivery, and the mama loses the coupons that the delivered records ask for. -/
theorem deliveries_apart (referals : Referals) (mamaId customer : Nat)
    (steps : List (DeliveryStep ι)) (db : ExchangeDb)
    (h : Guarded (DeliveryStep.exec referals)
      (fun st step => step.Sound referals mamaId customer st) steps (start db)) :
    Throughout (DeliveryStep.exec referals) (OneDelivery mamaId customer db.coupon) steps
      (start db) := by
  intro done hdone
  have hstart : Separate mamaId customer db.coupon (start db : Deliveries ι) :=
    ⟨start_couponsApart db, start_recordsCounted mamaId db⟩
  have hstep : ∀ (st : Deliveries ι) (step : DeliveryStep ι),
      Separate mamaId customer db.coupon st → step.Sound referals mamaId customer st →
        Separate mamaId customer db.coupon (step.exec referals st) :=
    fun st step hst hsound => separate_exec hst step hsound
  exact (throughout_of_guarded hstep steps (start db) hstart h done hdone).oneDelivery

end Runs

def oneAbove : Referals := fun mama => if mama = 11 then some ⟨10, true⟩ else none

def requestOf (orderNo : String) : CouponTransferRecord :=
  ⟨0, 10, 11, 11, orderNo, 7, 1, .outTransfer, .pending, "10-11-" ++ orderNo, ⟨"2017-01-02"⟩⟩

def twoRequests : ExchangeDb where
  refund := ⟨Table.empty, Table.empty, ⟨[1, 2, 3], fun _ => none, Table.empty⟩, []⟩
  columns := fun _ => ⟨"", 0, false, none, []⟩
  refundNo := fun _ => ""
  coupon :=
    { userCoupons :=
        (Table.empty.insert ⟨0, 7, .transfer, 3, none, 100, "7_8_1_1", .unused, none, none,
          none, false⟩).insert ⟨0, 7, .transfer, 3, none, 100, "7_8_1_2", .unused, none, none,
            none, false⟩
      transferRecords := ((Table.empty.insert ⟨0, 0, 10, 10, "sd1", 7, 2, .inBuyCoupon, .delivered,
        "sd1", ⟨"2017-01-01"⟩⟩).insert (requestOf "o1")).insert (requestOf "o2")
      details := []
      templates := [7]
      openMama := fun customer => some (13 - customer)
      chargedMama := fun customer => some (13 - customer) }
  coin := ⟨fun _ => none, Table.empty⟩
  exchangeSaleOrders := Table.empty
  orderCarries := []
  mamas := fun mama => some ⟨true, .indirect, some (13 - mama), some (13 - mama)⟩
  normalCustomers := [1, 2, 3]
  paidOut := []

theorem delivery_alone_sample : ∃ n,
    (CouponTransferRecordViewSet.processCoupon oneAbove ⟨"2017-01-01"⟩ 3 2).run twoRequests =
      (.ok 0, (run (DeliveryStep.exec oneAbove)
        ([.begin false .processCoupon 3 2, .mark false, .pick false] ++
          List.replicate n (.saveNext false) ++ [.finish false])
            (Deliveries.start twoRequests)).db) := by
  have h : (prepare oneAbove .processCoupon twoRequests 3 2).isSome = true := by decide
  let st : Deliveries Bool := Deliveries.start twoRequests
  have hidle : st.phase false = .idle := rfl
  exact delivery_alone ⟨"2017-01-01"⟩ hidle (Option.eq_some_of_isSome h)

/-- Both requests are checked before either is delivered; the second one picks after the
first has saved. -/
theorem deliveries_apart_sample :
    Throughout (DeliveryStep.exec oneAbove)
      (Deliveries.OneDelivery 10 3 twoRequests.coupon)
      [.begin false .processCoupon 3 2, .begin true .processCoupon 3 3, .mark false,
        .pick false, .mark true, .saveNext false, .pick true, .saveNext true, .finish false,
        .finish true] (Deliveries.start twoRequests) := by
  apply deliveries_apart
  refine ⟨?_, ?_, ?_, ?_, ?_, trivial, ?_, trivial, trivial, trivial, trivial⟩
  · intro delivery h
    obtain rfl := Option.some.inj h
    decide
  · intro delivery h
    obtain rfl := Option.some.inj h
    decide
  · intro delivery h
    obtain rfl := Phase.ready.inj h
    decide
  · intro delivery h
    obtain rfl := Phase.marked.inj h
    refine ⟨by decide, ?_⟩
    intro other delivery' picked rest hne hsaving
    cases other <;> cases hsaving
  · intro delivery h
    obtain rfl := Phase.ready.inj h
    decide
  · intro delivery h
    obtain rfl := Phase.marked.inj h
    refine ⟨by decide, ?_⟩
    intro other delivery' picked rest hne hsaving hrest
    cases other with
    | false =>
        obtain rfl := (Phase.saving.inj hsaving).2.2
        exact absurd rfl hrest
    | true => exact absurd rfl hne

theorem deliveries_collide :
    ¬ Throughout (DeliveryStep.exec oneAbove)
      (Deliveries.OneDelivery 10 3 twoRequests.coupon)
      [.begin false .processCoupon 3 2, .begin true .processCoupon 3 3, .mark false, .mark true,
        .pick false, .pick true, .saveNext false, .saveNext true]
      (Deliveries.start twoRequests) := by
  intro h
  exact absurd (h.last.once false true 1 (by decide) (by decide)) (by decide)

end ShopManager.Coupon
