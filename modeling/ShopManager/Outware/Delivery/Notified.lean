import ShopManager.Library.Execution
import ShopManager.Outware.Delivery.Model

/-!
# What the warehouse notifies is what is marked as shipped

An order is pushed under the type of its goods, and a notification looks for it under the
code of a sale, which no order has as its type.  Every notification is refused, and its
repetition as well.
-/

namespace ShopManager.Outware.Delivery

open Library Library.Tx Library.Execution

/-! ## Runs -/

variable (account : Account) (outside : Outside)

def orderTypeChoices : List Nat := [sourceTypeUsual, sourceTypeCrossboader, sourceTypeBooking]

def codeOf (pid : Nat) : String := OutwareOrder.formatOrderCode account (toString pid)

structure Accepted (s : DeliveryDb) (pid : Nat) : Prop where
  types : ∀ order ∈ s.outware.orders, order.orderType ∈ orderTypeChoices
  pushed : ∃ order ∈ s.outware.orders, order.unionOrderCode = codeOf account pid
  received : ∀ order ∈ s.outware.orders, order.unionOrderCode = codeOf account pid →
    order.status = .received
  package : ∃ package ∈ s.packageOrders, package.pid = pid

def Notice.exec (notice : Notice) (s : DeliveryDb) : DeliveryDb :=
  (orderDelivery account outside notice s).2

def Notice.answer (notice : Notice) (s : DeliveryDb) : Nat :=
  (orderDelivery account outside notice s).1

def notified (notices : List Notice) : List Package := (notices.flatMap Notice.packages).dedup

def notifiedQty (notices : List Notice) (skuCode : String) : Int :=
  ((notified notices).map fun package =>
    ((package.packageItems.filter fun item => item.skuCode = skuCode).map PackageItem.skuQty).sum).sum

namespace DeliveryDb

def itemsOf (pid : Nat) (s : DeliveryDb) : List Nat :=
  (s.packageSkuItems.filter fun item => item.packageOrderPid = some pid).map PackageSkuItem.id

def finishedNum (items : List Nat) (skuCode : String) (s : DeliveryDb) : Int :=
  ((s.packageSkuItems.filter fun item => item.id ∈ items && item.assignStatus = .finished &&
    s.productSkus.rows.any fun sku => toString sku.id = item.skuId && sku.outerId = skuCode).map
      PackageSkuItem.num).sum

def timesShipped (package : Package) (s : DeliveryDb) : Nat :=
  ((s.packages.filter fun p => p.logisticsNo = package.logisticsNo &&
    p.carrierCode = package.carrierCode).map fun p => s.shipped.count p.id).sum

end DeliveryDb

structure ShippedAsNotified (pid : Nat) (notices : List Notice) (s : DeliveryDb) : Prop where
  exact : ∀ done notice, done ++ [notice] <+: notices →
    notice.answer account outside (run (Notice.exec account outside) done s) = 0 →
    ∀ skuCode, (run (Notice.exec account outside) (done ++ [notice]) s).finishedNum
      (s.itemsOf pid) skuCode = notifiedQty (done ++ [notice]) skuCode
  sended : ∀ done, done <+: notices →
    ∀ order ∈ (run (Notice.exec account outside) done s).outware.orders,
      order.unionOrderCode = codeOf account pid → order.status = .sended →
        ∃ package ∈ notified done,
          0 < (run (Notice.exec account outside) done s).timesShipped package
  once : ∀ package ∈ notified notices,
    (run (Notice.exec account outside) notices s).timesShipped package = 1
  failed : ∀ done notice, done ++ [notice] <+: notices →
    notice.answer account outside (run (Notice.exec account outside) done s) ≠ 0 →
    run (Notice.exec account outside) (done ++ [notice]) s =
        run (Notice.exec account outside) done s ∧
      notice.answer account outside (run (Notice.exec account outside) (done ++ [notice]) s) = 0

section Lookup

variable {account} {s : DeliveryDb}

theorem find_orderSale (h : ∀ order ∈ s.outware.orders, order.orderType ∈ orderTypeChoices)
    (orderCode : String) : OutwareOrder.find orderCode orderSale s.outware = none := by
  refine Table.first_eq_none.2 ?_
  intro order horder
  have hne : order.orderType ≠ orderSale := by
    intro heq
    have hmem := h order horder
    rw [heq] at hmem
    exact absurd hmem (by decide)
  simp [hne]

theorem orderDelivery_refused
    (h : ∀ order ∈ s.outware.orders, order.orderType ∈ orderTypeChoices) (notice : Notice) :
    orderDelivery account outside notice s = (3, s) := by
  have hmark : (markSended notice.orderCode).run s.outware = (.error .doesNotExist, s.outware) := by
    unfold markSended
    exact bind_error (getOr_none (find_orderSale h notice.orderCode))
  have hrun : (OutwarePackage.createByPushInfo account outside notice).run s =
      (.error .doesNotExist, s) := by
    unfold OutwarePackage.createByPushInfo
    rw [zoom_bind_run, hmark]
  unfold orderDelivery
  rw [hrun]

theorem run_refused (h : ∀ order ∈ s.outware.orders, order.orderType ∈ orderTypeChoices) :
    ∀ notices, run (Notice.exec account outside) notices s = s := by
  intro notices
  induction notices with
  | nil => rfl
  | cons notice notices ih =>
    have hexec : notice.exec account outside s = s := by
      unfold Notice.exec
      rw [orderDelivery_refused outside h]
    rw [run_cons, hexec]
    exact ih

end Lookup

/-- What is notified is what is marked as shipped only as long as nothing is notified. -/
theorem shipped_as_notified_iff (s : DeliveryDb) (pid : Nat) (h : Accepted account s pid)
    (notices : List Notice) :
    ShippedAsNotified account outside pid notices s ↔ notices = [] := by
  have hrefused : ∀ notice : Notice, notice.answer account outside s = 3 := by
    intro notice
    unfold Notice.answer
    rw [orderDelivery_refused outside h.types]
  constructor
  · intro hshipped
    cases notices with
    | nil => rfl
    | cons notice notices =>
        have hprefix : [] ++ [notice] <+: notice :: notices := ⟨notices, rfl⟩
        have hrepeated := (hshipped.failed [] notice hprefix (by
          rw [run_nil, hrefused]
          decide)).2
        rw [run_refused outside h.types, hrefused] at hrepeated
        cases hrepeated
  · rintro rfl
    constructor
    · intro done notice hprefix
      exact absurd (List.prefix_nil.1 hprefix) (by simp)
    · intro done hprefix order horder hcode hstatus
      rw [List.prefix_nil.1 hprefix, run_nil] at horder
      rw [h.received order horder hcode] at hstatus
      cases hstatus
    · intro package hpackage
      simp [notified] at hpackage
    · intro done notice hprefix
      exact absurd (List.prefix_nil.1 hprefix) (by simp)

def plainOutside : Outside where
  setOrder := id
  kd100Subscription _ _ := .ok ()

def fengchao : Account where
  orderPrefix := "xlmm"
  skuCodes := ["SP111111AA"]

def packagePush : Push where
  orderCode := "166271"
  storeCode := ""
  orderType := sourceTypeUsual
  dictObj := {
    receiverInfo := "上海市杨浦区"
    orderItems := [⟨"xo1611135828", "SP111111AA", 2⟩]
    declareType := 0
    orderPersonIdname := ""
    orderPersonIdcard := ""
    data := "" }

def pushedDb : DeliveryDb where
  outware := ((createOrder fengchao true packagePush).run
    ⟨Table.empty, Table.empty, [], []⟩).2
  packages := Table.empty
  packageSkus := Table.empty
  packageOrders := ⟨[⟨166271, "1-2-9-1", .waitOutwareSendCallback, false, "", none⟩], by decide⟩
  packageSkuItems := ⟨[⟨1, "279", 2, .normal, .assigned, .assigned, some "1-2-9-1", some 166271, "",
    "", 1⟩], by decide⟩
  saleOrders := Table.empty.insert ⟨0, 2, true, 1, 2⟩
  productSkus := ⟨[⟨279, "SP111111AA", 9, 3, 2, 0⟩], by decide⟩
  logisticsCompanies := ⟨[⟨1, "YUNDA_QR", "yunda"⟩], by decide⟩
  shipped := []

theorem accepted_pushedDb : Accepted fengchao pushedDb 166271 := by
  constructor
  · change ∀ order ∈ pushedDb.outware.orders.rows, order.orderType ∈ orderTypeChoices
    decide +kernel
  · change ∃ order ∈ pushedDb.outware.orders.rows, order.unionOrderCode = codeOf fengchao 166271
    decide +kernel
  · change ∀ order ∈ pushedDb.outware.orders.rows,
      order.unionOrderCode = codeOf fengchao 166271 → order.status = .received
    decide +kernel
  · change ∃ package ∈ pushedDb.packageOrders.rows, package.pid = 166271
    decide +kernel

theorem shipped_as_notified_nothing :
    ShippedAsNotified fengchao plainOutside 166271 [] pushedDb :=
  (shipped_as_notified_iff fengchao plainOutside pushedDb 166271 accepted_pushedDb []).2 rfl

def parcel : Package where
  storeCode := "SZWH01"
  logisticsNo := "9867542222"
  carrierCode := "YUNDA"
  packageItems := [⟨"SP111111AA", "AJEV", 2⟩]

def parcelNotice : Notice where
  orderCode := "xlmm166271"
  userPack := true
  packages := [parcel]

theorem shipped_as_notified_fail :
    ¬ ShippedAsNotified fengchao plainOutside 166271 [parcelNotice] pushedDb := by
  intro hshipped
  have honce := hshipped.once parcel (by decide +kernel)
  exact absurd honce (by decide +kernel)

end ShopManager.Outware.Delivery
