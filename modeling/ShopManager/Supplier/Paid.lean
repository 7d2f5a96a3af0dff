import ShopManager.Supplier.Confirmed

/-!
# Payments over runs

Requests are posted, their amounts distributed anew and payments confirmed in any order.  As
long as the requests are fair and the confirmed payment items clear, every application comes to
its amount and every confirmation pays what its payment items come to, once.
-/

namespace ShopManager.Supplier

open Library Library.Tx Library.Shares Library.Execution

variable {s t : SupplierDb} {shelf : List (Nat × Nat × Bool)} {paid : Nat → Prop}

/-- The confirmation of a payment, if it succeeds, finds it waiting and leaves it paid, pays
what its items come to, and leaves the totals settled. -/
def ConfirmsWhole (paymentId : Nat) (permitted : Bool) (s : SupplierDb) : Prop :=
  Ends NotDivision (confirmPaymentAmount paymentId permitted) s fun _ t =>
    (∃ payment ∈ s.payments, payment.id = paymentId ∧ payment.status = .waitPayment) ∧
      t.Paid paymentId ∧ Settled t ∧
        Within (t.paid - s.paid) ((s.itemsOf paymentId).map s.parts).sum
          (s.appliedFee paymentId)

def ClearPayment (paymentId : Nat) (s : SupplierDb) : Prop :=
  ∀ payment ∈ s.payments, payment.id = paymentId → payment.status = .waitPayment →
    ∀ item ∈ s.itemsOf paymentId, Clear s payment.payType item

/-! ## One confirmation -/

theorem Sound.billed (h : Sound shelf s) (paymentId : Nat) :
    Billed shelf (s.itemsOf paymentId) where
  one := by
    intro item hitem
    rcases h.keyed.placed item (List.mem_of_mem_filter hitem) with
      ⟨hpurchase, hstorage, -⟩ | ⟨hpurchase, storageItemId, storageId, normal, hstorage, -, -⟩
    · exact .inl ⟨hpurchase, hstorage⟩
    · exact .inr ⟨hpurchase, by rw [hstorage]; rfl⟩
  distinct := by
    have hnodup : (s.itemsOf paymentId).Nodup := s.paymentItems.nodup_rows.filter _
    refine List.Pairwise.imp_of_mem (fun {a b} ha hb hne hsome hsame => hne ?_) hnodup
    obtain ⟨hmem, hof⟩ := List.mem_filter.1 ha
    obtain ⟨hmem', hof'⟩ := List.mem_filter.1 hb
    have hpayment : a.purchasePaymentId = b.purchasePaymentId :=
      (of_decide_eq_true hof).trans (of_decide_eq_true hof').symm
    exact h.keyed.distinct a hmem b hmem' hpayment hsome hsame

theorem ends_confirmPaymentAmount (h : Stays shelf paid s) {paymentId : Nat} (permitted : Bool)
    (hclear : ClearPayment paymentId s) :
    Ends NotDivision (confirmPaymentAmount paymentId permitted) s fun _ t =>
      ((∃ payment ∈ s.payments, payment.id = paymentId ∧ payment.status = .waitPayment) ∧
        t.Paid paymentId ∧ Settled t ∧
          Within (t.paid - s.paid) ((s.itemsOf paymentId).map s.parts).sum
            (s.appliedFee paymentId)) ∧ Stays shelf paid t := by
  apply Ends.atomic
  refine Ends.getOr_bind notDivision_doesNotExist fun payment hfound => ?_
  refine Ends.raiseIf_bind (fun _ => notDivision_doesNotExist) fun _ => ?_
  have hmem := Table.mem_of_first hfound
  have hspec := Table.first_spec hfound
  have hwaits : payment.id = paymentId ∧ payment.status = .waitPayment := of_decide_eq_true hspec
  obtain ⟨rfl, hstatus⟩ := hwaits
  apply Ends.gets_bind
  refine Ends.bind (Ends.mono (ends_confirmItems (h.sound.billed payment.id) h.sound.shelved
    (hclear payment hmem rfl hstatus)) ?_)
  rintro - t ⟨hshelved, amount, hpaid, hwithin⟩
  have hsound : Sound shelf t := h.sound.of_shelved hshelved
  have hpayments : t.payments = s.payments := congrArg Prod.fst hshelved.bills
  have hmem' : payment ∈ t.payments := hpayments ▸ hmem
  have hstays : Stays shelf paid t := by
    refine ⟨hsound, fun id hid => ?_⟩
    obtain ⟨there, hthere, hthereSpec⟩ := h.paid id hid
    exact ⟨there, hpayments ▸ hthere, hthereSpec⟩
  have hsaved := hstays.save { payment with status := .hasPayment } hmem' rfl
    (by rw [hstatus]; decide)
  refine Ends.modify ⟨⟨⟨payment, hmem, rfl, hstatus⟩, ?_, hsaved.sound.shelved.settled, ?_⟩, hsaved⟩
  · exact ⟨_, Table.mem_save_self hmem' rfl, rfl, rfl⟩
  · have hgrowth : t.paid - s.paid = amount := by rw [hpaid]; ring
    unfold SupplierDb.appliedFee
    show Within (t.paid - s.paid) _ _
    rw [hgrowth]
    exact hwithin

def Guard (s : SupplierDb) : SupplierOp → Prop
  | .post request => FairRequest request s
  | .distribute _ _ => True
  | .confirm paymentId _ => ClearPayment paymentId s

/-- Payments that are paid stay paid, applications come to their amounts and confirmations pay
what they should. -/
def Law (s : SupplierDb) (op : SupplierOp) : Prop :=
  (∀ paymentId, s.Paid paymentId → (op.exec s).Paid paymentId) ∧
    match op with
    | .post request => AppliesWhole request s
    | .distribute _ _ => True
    | .confirm paymentId permitted => ConfirmsWhole paymentId permitted s

def Confirmed (paymentId : Nat) (permitted : Bool) (s : SupplierDb) : Prop :=
  ∃ t, (confirmPaymentAmount paymentId permitted).run s = (.ok (), t)

theorem Stays.exec (h : Stays shelf paid s) {op : SupplierOp} (hguard : Guard s op) :
    Stays shelf paid (op.exec s) := by
  cases op with
  | post request => exact preserves_postPayment request s h
  | distribute paymentId distribution => exact preserves_distributePayment _ _ s h
  | confirm paymentId permitted =>
    have hends := ends_confirmPaymentAmount h permitted hguard
    show Stays shelf paid ((confirmPaymentAmount paymentId permitted).run s).2
    unfold confirmPaymentAmount at hends ⊢
    rcases atomic_cases _ s with ⟨_, t, -, hrun⟩ | hback
    · have hend := (Ends.returns hends hrun).2
      rw [hrun]
      exact hend
    · rw [hback]
      exact h

theorem Sound.stays (h : Sound shelf s) : Stays shelf s.Paid s := ⟨h, fun _ hpaid => hpaid⟩

theorem law_of_guard (h : Sound shelf s) {op : SupplierOp} (hguard : Guard s op) : Law s op := by
  refine ⟨(h.stays.exec hguard).paid, ?_⟩
  cases op with
  | post request => exact appliesWhole_of_fair h hguard
  | distribute paymentId distribution => trivial
  | confirm paymentId permitted =>
    exact Ends.mono (ends_confirmPaymentAmount h.stays permitted hguard) fun _ _ hend => hend.1

theorem not_confirmed_of_paid {paymentId : Nat} {permitted : Bool}
    (hpaid : s.Paid paymentId) : ¬ Confirmed paymentId permitted s := by
  rintro ⟨t, hrun⟩
  obtain ⟨payment, t', hfound, -⟩ := bind_eq_ok.1 (atomic_eq_ok.1 hrun)
  obtain ⟨hget, -⟩ := getOr_eq_ok.1 hfound
  have hspec := Table.first_spec hget
  have hwaits : payment.id = paymentId ∧ payment.status = .waitPayment := of_decide_eq_true hspec
  obtain ⟨there, hthere, hid, hstatus⟩ := hpaid
  have hsame : there = payment :=
    Table.pk_inj hthere (Table.mem_of_first hget) (hid.trans hwaits.1.symm)
  rw [hsame, hwaits.2] at hstatus
  cases hstatus

theorem stays_run {ops : List SupplierOp} (h : Stays shelf paid s)
    (hguarded : Guarded SupplierOp.exec Guard ops s) :
    Stays shelf paid (run SupplierOp.exec ops s) :=
  (throughout_of_guarded (fun _ _ h hguard => h.exec hguard) ops s h hguarded).last

/-- In a run of fair requests and clear payments every application that succeeds comes to its
amount, every confirmation that succeeds pays what its payment items come to, the totals stay
settled, nothing divides by zero, and no payment is confirmed twice. -/
theorem supplier_payments_whole (h : Sound shelf s) {ops : List SupplierOp}
    (hguarded : Guarded SupplierOp.exec Guard ops s) :
    Guarded SupplierOp.exec Law ops s ∧
      ∀ before between after paymentId permitted permitted',
        ops = before ++ .confirm paymentId permitted ::
          (between ++ .confirm paymentId permitted' :: after) →
        Confirmed paymentId permitted (run SupplierOp.exec before s) →
          ¬ Confirmed paymentId permitted'
            (run SupplierOp.exec (before ++ .confirm paymentId permitted :: between) s) := by
  constructor
  · refine guarded_of_guarded (I := Sound shelf) (fun _ _ h hguard => law_of_guard h hguard)
      (fun _ _ h hguard => (h.stays.exec hguard).sound) ops s h hguarded
  · rintro before between after paymentId permitted permitted' rfl ⟨t, hrun⟩
    obtain ⟨hbefore, hguard, hrest⟩ := Guarded.append hguarded
    obtain ⟨hbetween, -⟩ := Guarded.append hrest
    have hsound := (stays_run h.stays hbefore).sound
    have hexec : SupplierOp.exec (.confirm paymentId permitted)
        (run SupplierOp.exec before s) = t := congrArg Prod.snd hrun
    have hconfirms := (law_of_guard hsound hguard).2
    obtain ⟨-, hpaid, -, -⟩ := Ends.returns hconfirms hrun
    rw [hexec] at hbetween
    have ht : Stays shelf (fun id => id = paymentId) t := by
      refine ⟨hexec ▸ (hsound.stays.exec hguard).sound, ?_⟩
      rintro id rfl
      exact hpaid
    have hend := (stays_run ht hbetween).paid paymentId rfl
    rw [run_append, run_cons, hexec]
    exact not_confirmed_of_paid hend

def goodsRow (id storageId : Nat) : PurchaseStorageItem :=
  ⟨id, storageId, some 1, none, 1, 0, 0, 0, true⟩

def storageRow (id : Nat) : PurchaseStorage := ⟨id, "", none, .draft, 1, 0, 0, 0⟩

def twoStorages : SupplierDb :=
  ⟨Table.empty, Table.empty, ⟨[storageRow 1, storageRow 2], by decide⟩,
    ⟨[goodsRow 1 1, goodsRow 2 2], by decide⟩, Table.empty, Table.empty, Table.empty⟩

theorem twoStorages_sound : Sound twoStorages.shelf twoStorages where
  shelved :=
    { settled :=
        { ships := fun _ h => nomatch h
          storageItems := by
            show ∀ item ∈ twoStorages.storageItems.rows, twoStorages.Matches item
            unfold SupplierDb.Matches
            decide +kernel
          storages := by
            show ∀ storage ∈ twoStorages.storages.rows, _
            decide +kernel
          purchases := fun _ h => nomatch h }
      shelf := rfl
      bills := rfl }
  keyed := ⟨fun _ h => (nomatch h), fun _ h => (nomatch h), fun _ h => (nomatch h)⟩

def otherRequest : PaymentRequest := ⟨.other, none, [1, 2], 1000000⟩

theorem other_payment_lost :
    Sound twoStorages.shelf twoStorages ∧ 0 < otherRequest.payment ∧
      (postPayment otherRequest |>.run twoStorages).1 = .ok () ∧
        ¬ AppliesWhole otherRequest twoStorages := by
  refine ⟨twoStorages_sound, by decide +kernel, by decide +kernel, ?_⟩
  intro h
  let last := (applyRequest otherRequest 1 none [storageRow 1, storageRow 2]).run
    { twoStorages with payments := twoStorages.payments.insert (newPayment otherRequest) }
  have hrun : last.1 = .ok () := by decide +kernel
  have hfee : last.2.appliedFee 1 = 0 := by decide +kernel
  have hcount : (last.2.itemsOf 1).length = 2 := by decide +kernel
  have happly := h none [storageRow 1, storageRow 2] twoStorages
    (twoStorages.payments.stored (newPayment otherRequest)) _ rfl rfl
  have hwithin : Within (last.2.appliedFee 1) (last.2.itemsOf 1).length otherRequest.payment :=
    Ends.returns happly (Prod.ext hrun rfl)
  rw [hfee, hcount] at hwithin
  norm_num [Within, otherRequest] at hwithin

def orderedItem : PurchaseItem := ⟨1, 1, some 1, none, 2, 0, 100000, 200000, 0, 0, true⟩

def orderedPurchase : Purchase := ⟨1, "", none, .approval, .unarrival, 2, 0, 200000, 0, 0⟩

def onePurchase : SupplierDb :=
  ⟨⟨[orderedPurchase], by decide⟩, ⟨[orderedItem], by decide⟩, Table.empty, Table.empty,
    Table.empty, Table.empty, Table.empty⟩

theorem onePurchase_sound : Sound [] onePurchase where
  shelved :=
    { settled :=
        { ships := fun _ h => nomatch h
          storageItems := fun _ h => nomatch h
          storages := fun _ h => nomatch h
          purchases := by
            show ∀ purchase ∈ onePurchase.purchases.rows, _
            decide +kernel }
      shelf := rfl
      bills := rfl }
  keyed := ⟨fun _ h => (nomatch h), fun _ h => (nomatch h), fun _ h => (nomatch h)⟩

def prepayOps : List SupplierOp :=
  [.post ⟨.prepaid, some 1, [], 100000⟩, .distribute 1 ⟨some (100000, [(1, 100000)]), []⟩,
    .confirm 1 true]

theorem prepayOps_guarded : Guarded SupplierOp.exec Guard prepayOps onePurchase := by
  refine ⟨?_, trivial, ?_, trivial⟩
  · show Fair onePurchase .prepaid (some orderedPurchase) []
    unfold Fair
    decide +kernel
  · have hprepaid : ∀ payment ∈ (run SupplierOp.exec (prepayOps.take 2) onePurchase).payments.rows,
        payment.payType = .prepaid := by decide +kernel
    intro payment hpayment _ _ item _
    unfold Clear
    rw [hprepaid payment hpayment]
    trivial

theorem supplier_payments_prepay :
    Guarded SupplierOp.exec Law prepayOps onePurchase ∧
      (run SupplierOp.exec prepayOps onePurchase).paid = 100000 :=
  ⟨(supplier_payments_whole onePurchase_sound prepayOps_guarded).1, by decide +kernel⟩

end ShopManager.Supplier
