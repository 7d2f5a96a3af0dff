import ShopManager.Supplier.Applied

/-!
# Accepted requests

What the view lets through, where an application of it splits the whole of its amount, and
what keeps the payment items of a payment apart: each storage item has one of them at most.
-/

namespace ShopManager.Supplier

open Library Library.Tx Library.Shares

/-- Where an application splits the whole of its amount: there are items to split it over, a
storage that has some is named once, and among several storages one has all of the goods. -/
def Fair (s : SupplierDb) (payType : PayType) (purchase : Option Purchase)
    (storages : List PurchaseStorage) : Prop :=
  match payType, purchase with
  | .prepaid, some purchase => s.effectPurchaseItems purchase.id ≠ []
  | .prepaid, none => True
  | .pod, _ => ∀ storage ∈ storages, s.stocked storage = true
  | .cod, _ => ((storages.filter s.stocked).map PurchaseStorage.id).Nodup
  | .other, some purchase => s.effectPurchaseItems purchase.id ≠ [] ∧ purchase.purchaseNum ≠ 0
  | .other, none => ∃ storage ∈ storages,
      storages.filter s.stocked = [storage] ∧ storage.storageNum ≠ 0

variable {s s' t : SupplierDb} {request : PaymentRequest} {purchase : Option Purchase}
  {storages : List PurchaseStorage}

/-! ## What the view lets through -/

theorem getStorages_ok {ids : List Nat} (h : (getStorages ids).run s = (.ok storages, s')) :
    s' = s ∧ ∀ storage ∈ storages, storage ∈ s.storages := by
  induction ids generalizing storages s' with
  | nil =>
    obtain ⟨rfl, rfl⟩ := pure_eq_ok.1 h
    exact ⟨rfl, by simp⟩
  | cons storageId rest ih =>
    obtain ⟨storage, hfound, h⟩ := getOr_bind_eq_ok.1 h
    obtain ⟨others, t, hothers, hlast⟩ := bind_eq_ok.1 h
    obtain ⟨rfl, hmem⟩ := ih hothers
    obtain ⟨rfl, rfl⟩ := pure_eq_ok.1 hlast
    exact ⟨rfl, List.forall_mem_cons.2 ⟨Table.mem_of_first hfound, hmem⟩⟩

theorem getPurchase_ok {purchaseId : Nat} {found : Purchase}
    (h : (getPurchase purchaseId).run s = (.ok found, s')) : s' = s ∧ found ∈ s.purchases := by
  obtain ⟨hfound, rfl⟩ := getOr_eq_ok.1 h
  exact ⟨rfl, Table.mem_of_first hfound⟩

def Named (s : SupplierDb) (payType : PayType) (purchase : Option Purchase)
    (storages : List PurchaseStorage) : Prop :=
  match payType with
  | .prepaid => ∃ named, purchase = some named
  | .pod => ∃ storage, storages = [storage]
  | .cod => True
  | .other => (∃ named ∈ s.purchases, purchase = some named ∧ storages = []) ∨
      purchase = none ∧ ∀ storage ∈ storages, storage ∈ s.storages

theorem acceptRequest_ok
    (h : (acceptRequest request).run s = (.ok (purchase, storages), s')) :
    Named s' request.payType purchase storages := by
  unfold acceptRequest at h
  obtain ⟨⟨⟩, t, hpayment, h⟩ := bind_eq_ok.1 h
  obtain ⟨-, rfl⟩ := raiseIf_eq_ok.1 hpayment
  unfold Named
  cases hpay : request.payType with
  | prepaid =>
    rw [hpay] at h
    obtain ⟨purchaseId, -, h⟩ := getOr_bind_eq_ok.1 h
    obtain ⟨named, t, -, hlast⟩ := bind_eq_ok.1 h
    obtain ⟨heq, -⟩ := pure_eq_ok.1 hlast
    exact ⟨named, (congrArg Prod.fst heq).symm⟩
  | pod =>
    rw [hpay] at h
    obtain ⟨found, t, hfound, h⟩ := bind_eq_ok.1 h
    match found with
    | [] => cases congrArg Prod.fst h
    | _ :: _ :: _ => cases congrArg Prod.fst h
    | [storage] =>
      obtain ⟨unmatched, t', -, h⟩ := bind_eq_ok.1 h
      obtain ⟨⟨⟩, t'', -, h⟩ := bind_eq_ok.1 h
      obtain ⟨heq, -⟩ := pure_eq_ok.1 h
      exact ⟨storage, (congrArg Prod.snd heq).symm⟩
  | cod => trivial
  | other =>
    rw [hpay] at h
    cases hpurchase : request.purchase with
    | none =>
      cases hstorages : request.storages with
      | nil =>
        simp only [hpurchase, hstorages] at h
        cases congrArg Prod.fst h
      | cons storageId rest =>
        simp only [hpurchase, hstorages] at h
        obtain ⟨found, t, hfound, hlast⟩ := bind_eq_ok.1 h
        obtain ⟨rfl, hmem⟩ := getStorages_ok hfound
        obtain ⟨heq, rfl⟩ := pure_eq_ok.1 hlast
        obtain ⟨rfl, rfl⟩ := Prod.mk.inj heq
        exact .inr ⟨rfl, hmem⟩
    | some purchaseId =>
      cases hstorages : request.storages with
      | nil =>
        simp only [hpurchase, hstorages] at h
        obtain ⟨named, t, hnamed, hlast⟩ := bind_eq_ok.1 h
        obtain ⟨rfl, hmem⟩ := getPurchase_ok hnamed
        obtain ⟨heq, rfl⟩ := pure_eq_ok.1 hlast
        obtain ⟨rfl, rfl⟩ := Prod.mk.inj heq
        exact .inl ⟨named, hmem, rfl, rfl⟩
      | cons storageId rest =>
        simp only [hpurchase, hstorages] at h
        cases congrArg Prod.fst h

theorem ends_applyForOtherpay_purchase {paymentId : Nat} {named : Purchase} {q : ℚ}
    (hnone : s.itemsOf paymentId = []) (hitems : s.effectPurchaseItems named.id ≠ [])
    (hnum : named.purchaseNum ≠ 0)
    (htotal : named.purchaseNum = s.purchaseSum named.id PurchaseItem.purchaseNum) :
    Ends NotDivision (applyForOtherpay paymentId (some named) [] q) s fun _ t =>
      Adds (ForPurchase s paymentId named.id) q s t := by
  unfold applyForOtherpay
  apply Ends.bind
  exact ends_calPurchasePayment_num hnone hitems hnum htotal

theorem ends_applyRequest {paymentId : Nat} (hsettled : Settled s)
    (hnamed : Named s request.payType purchase storages)
    (hfair : Fair s request.payType purchase storages) (hnone : s.itemsOf paymentId = []) :
    Ends NotDivision (applyRequest request paymentId purchase storages) s fun _ t =>
      Within (t.appliedFee paymentId) (t.itemsOf paymentId).length request.payment := by
  have hone : ∀ storage : PurchaseStorage, FreshFor paymentId storage.id s :=
    fun storage => freshFor_of_itemsOf hnone storage.id
  unfold applyRequest
  cases hpay : request.payType with
  | prepaid =>
    rw [hpay] at hnamed hfair
    obtain ⟨named, rfl⟩ := hnamed
    refine Ends.mono (ends_calPurchasePayment_unpay hnone hfair) fun _ t h => ?_
    exact h.within hnone fun item ⟨_, _, hfor⟩ => hfor.1
  | pod =>
    rw [hpay] at hnamed hfair
    obtain ⟨storage, rfl⟩ := hnamed
    have hstocked : s.stocked storage = true := hfair storage (List.mem_singleton.2 rfl)
    refine Ends.mono (ends_calStoragePayment_unpay (hone storage)) fun _ t h => ?_
    rw [if_pos hstocked] at h
    exact h.within hnone fun item ⟨_, _, hfor⟩ => hfor.1
  | cod =>
    rw [hpay] at hfair
    refine Ends.mono (ends_applyForCodpays hnone hfair) fun _ t h => ?_
    exact h.within hnone fun item ⟨_, _, _, _, hfor⟩ => hfor.1
  | other =>
    rw [hpay] at hnamed hfair
    rcases hnamed with ⟨named, hmem, rfl, rfl⟩ | ⟨rfl, hmem⟩
    · have htotal := (hsettled.purchases named hmem).2
      refine Ends.mono (ends_applyForOtherpay_purchase hnone hfair.1 hfair.2 htotal)
        fun _ t h => ?_
      exact h.within hnone fun item ⟨_, _, hfor⟩ => hfor.1
    · obtain ⟨only, -, honly, hnum⟩ := hfair
      have hnums := fun storage hstorage => (hsettled.storages storage (hmem storage hstorage)).2
      refine Ends.mono (ends_applyForOtherpay_storages hnone hnums honly hnum) fun _ t h => ?_
      exact h.within hnone fun item ⟨_, _, _, _, hfor⟩ => hfor.1

/-- A payment item is for a purchase item or for a storage item of the shelf, and a payment
has one for each storage item at most. -/
structure Keyed (shelf : List (Nat × Nat × Bool)) (s : SupplierDb) : Prop where
  owned : ∀ item ∈ s.paymentItems, ∃ payment ∈ s.payments, payment.id = item.purchasePaymentId
  placed : ∀ item ∈ s.paymentItems,
    (item.purchaseId.isSome ∧ item.storageId = none ∧ item.storageItemId = none) ∨
      (item.purchaseId = none ∧ ∃ storageItemId storageId normal,
        item.storageId = some storageId ∧ item.storageItemId = some storageItemId ∧
          (storageItemId, storageId, normal) ∈ shelf)
  distinct : ∀ a ∈ s.paymentItems, ∀ b ∈ s.paymentItems,
    a.purchasePaymentId = b.purchasePaymentId → a.storageItemId ≠ none →
      a.storageItemId = b.storageItemId → a = b

structure Sound (shelf : List (Nat × Nat × Bool)) (s : SupplierDb) : Prop where
  shelved : Shelved shelf s.bills s
  keyed : Keyed shelf s

variable {shelf : List (Nat × Nat × Bool)}

theorem Shelved.frame (h : Shelved shelf s.bills s)
    (ht : t = { s with
      payments := t.payments
      paymentItems := t.paymentItems }) : Shelved shelf t.bills t := by
  rw [ht]
  exact ⟨⟨h.settled.ships, h.settled.storageItems, h.settled.storages, h.settled.purchases⟩,
    h.shelf, rfl⟩

theorem shelf_unique {storageItemId storageId storageId' : Nat} {normal normal' : Bool}
    (h : (storageItemId, storageId, normal) ∈ s.shelf)
    (h' : (storageItemId, storageId', normal') ∈ s.shelf) : storageId = storageId' := by
  obtain ⟨item, hitem, heq⟩ := List.mem_map.1 h
  obtain ⟨item', hitem', heq'⟩ := List.mem_map.1 h'
  simp only [Prod.mk.injEq] at heq heq'
  have hsame : item = item' := Table.pk_inj hitem hitem' (heq.1.trans heq'.1.symm)
  rw [← heq.2.1, ← heq'.2.1, hsame]

theorem Sound.insertPayment (h : Sound shelf s) (payment : PurchasePayment) :
    Sound shelf { s with payments := s.payments.insert payment } where
  shelved := h.shelved.frame rfl
  keyed :=
    { owned := fun item hitem => by
        obtain ⟨owner, howner, hid⟩ := h.keyed.owned item hitem
        exact ⟨owner, Table.mem_insert.2 (.inl howner), hid⟩
      placed := h.keyed.placed
      distinct := h.keyed.distinct }

theorem Sound.savePayment (h : Sound shelf s) (payment : PurchasePayment) :
    Sound shelf { s with payments := s.payments.save payment } where
  shelved := h.shelved.frame rfl
  keyed :=
    { owned := fun item hitem => Table.exists_pk_save payment (h.keyed.owned item hitem)
      placed := h.keyed.placed
      distinct := h.keyed.distinct }

theorem Sound.saveAmount (h : Sound shelf s) {item : PurchasePaymentItem}
    (hitem : item ∈ s.paymentItems) (amount : Int) :
    Sound shelf { s with
      paymentItems := s.paymentItems.save { item with payment := amount } } := by
  have hback : ∀ a ∈ s.paymentItems.save { item with payment := amount },
      ∃ b ∈ s.paymentItems, a = { b with payment := a.payment } ∧
        (a.id = item.id → a = { item with payment := amount }) ∧ (a.id ≠ item.id → a = b) := by
    intro a ha
    rcases Table.mem_save ha with rfl | ⟨hmem, hne⟩
    · exact ⟨item, hitem, rfl, fun _ => rfl, fun hne => absurd rfl hne⟩
    · exact ⟨a, hmem, rfl, fun heq => absurd heq hne, fun _ => rfl⟩
  refine ⟨h.shelved.frame rfl, ?_, ?_, ?_⟩
  · intro a ha
    obtain ⟨b, hb, heq, -, -⟩ := hback a ha
    rw [heq]
    exact h.keyed.owned b hb
  · intro a ha
    obtain ⟨b, hb, heq, -, -⟩ := hback a ha
    rw [heq]
    exact h.keyed.placed b hb
  · intro a ha a' ha' hpayment hsome hsame
    obtain ⟨b, hb, heq, hself, hother⟩ := hback a ha
    obtain ⟨b', hb', heq', hself', hother'⟩ := hback a' ha'
    have hbb : b = b' := by
      rw [heq] at hpayment hsome hsame
      rw [heq'] at hpayment hsame
      exact h.keyed.distinct b hb b' hb' hpayment hsome hsame
    have hid : a.id = a'.id := by rw [heq, heq', hbb]
    by_cases hitemId : a.id = item.id
    · rw [hself hitemId, hself' (hid ▸ hitemId)]
    · rw [hother hitemId, hother' (hid ▸ hitemId), hbb]

theorem Sound.insertItem (h : Sound shelf s) {item : PurchasePaymentItem}
    (howned : ∃ payment ∈ s.payments, payment.id = item.purchasePaymentId)
    (hplaced : (item.purchaseId.isSome ∧ item.storageId = none ∧ item.storageItemId = none) ∨
      (item.purchaseId = none ∧ ∃ storageItemId storageId normal,
        item.storageId = some storageId ∧ item.storageItemId = some storageItemId ∧
          (storageItemId, storageId, normal) ∈ shelf))
    (hnone : ∀ a ∈ s.paymentItems, a.purchasePaymentId = item.purchasePaymentId →
      item.storageItemId ≠ none → a.storageItemId ≠ item.storageItemId) :
    Sound shelf { s with paymentItems := s.paymentItems.insert item } := by
  refine ⟨h.shelved.frame rfl, ?_, ?_, ?_⟩
  · intro a ha
    rcases Table.mem_insert.1 ha with hmem | rfl
    · exact h.keyed.owned a hmem
    · exact howned
  · intro a ha
    rcases Table.mem_insert.1 ha with hmem | rfl
    · exact h.keyed.placed a hmem
    · exact hplaced
  · intro a ha b hb hpayment hsome hsame
    rcases Table.mem_insert.1 ha with hmem | rfl
    · rcases Table.mem_insert.1 hb with hmem' | rfl
      · exact h.keyed.distinct a hmem b hmem' hpayment hsome hsame
      · exact absurd hsame (hnone a hmem hpayment (hsame ▸ hsome))
    · rcases Table.mem_insert.1 hb with hmem' | rfl
      · exact absurd hsame.symm (hnone b hmem' hpayment.symm hsome)
      · rfl

structure Applying (shelf : List (Nat × Nat × Bool)) (payments : Table PurchasePayment)
    (paymentId : Nat) (s : SupplierDb) : Prop where
  sound : Sound shelf s
  owner : ∃ payment ∈ s.payments, payment.id = paymentId
  payments : s.payments = payments

variable {payments : Table PurchasePayment} {paymentId : Nat}

theorem preserves_putPaymentItem {same : PurchasePaymentItem → Bool} {new : PurchasePaymentItem}
    {amount : Int}
    (hinsert : ∀ s, Applying shelf payments paymentId s → s.paymentItems.first same = none →
      Sound shelf { s with paymentItems := s.paymentItems.insert { new with payment := amount } }) :
    Preserves (Applying shelf payments paymentId) (putPaymentItem same new amount) := by
  refine Preserves.gets_bind fun s h => ?_
  cases hfound : s.paymentItems.first same with
  | none => exact ⟨hinsert s h hfound, h.owner, h.payments⟩
  | some item => exact ⟨h.sound.saveAmount (Table.mem_of_first hfound) amount, h.owner, h.payments⟩

theorem preserves_putPurchasePayment (purchaseId itemId : Nat) (amount : Int) :
    Preserves (Applying shelf payments paymentId)
      (putPurchasePayment paymentId purchaseId itemId amount) := by
  refine preserves_putPaymentItem fun s h _ => ?_
  exact h.sound.insertItem h.owner (.inl ⟨rfl, rfl, rfl⟩) fun _ _ _ hsome => absurd rfl hsome

theorem preserves_putStoragePayment {storageId itemId : Nat} {normal : Bool}
    (hplace : (itemId, storageId, normal) ∈ shelf) (amount : Int) :
    Preserves (Applying shelf payments paymentId)
      (putStoragePayment paymentId storageId itemId amount) := by
  refine preserves_putPaymentItem fun s h hnone => ?_
  refine h.sound.insertItem h.owner (.inr ⟨rfl, itemId, storageId, normal, rfl, rfl, hplace⟩) ?_
  intro a ha hpayment _ hitem
  -- the storage item tells the storage, so that the query would have found the payment item
  rcases h.sound.keyed.placed a ha with ⟨-, -, hno⟩ | ⟨-, other, otherStorage, n, hin, hid, hshelf⟩
  · rw [hitem] at hno
    cases hno
  · have hother : other = itemId := Option.some.inj (hid.symm.trans hitem)
    have hstorage : otherStorage = storageId := by
      rw [hother, ← h.sound.shelved.shelf] at hshelf
      rw [← h.sound.shelved.shelf] at hplace
      exact shelf_unique hshelf hplace
    have hmissed := Table.first_eq_none.1 hnone a ha
    have hall : a.purchasePaymentId = paymentId ∧ a.storageId = some storageId ∧
        a.storageItemId = some itemId := ⟨hpayment, hstorage ▸ hin, hitem⟩
    exact absurd hall (of_decide_eq_false hmissed)

theorem itemShare_snd (calBy : CalBy) (unpay num : Int) (fee : ℚ) (totalUnpay totalNum : Int)
    (totalFee q : ℚ) :
    ((itemShare calBy unpay num fee totalUnpay totalNum totalFee q).run s).2 = s := by
  cases calBy with
  | unpay =>
    unfold itemShare
    rw [raiseIf_bind_run]
    split
    · rfl
    · rw [divide_bind_run]
      split <;> rfl
  | num =>
    unfold itemShare
    rw [divide_bind_run]
    split <;> rfl
  | fee =>
    unfold itemShare
    rw [divide_bind_run]
    split <;> rfl

theorem preserves_calPurchasePayment (purchase : Purchase) (q : ℚ) (calBy : CalBy) :
    Preserves (Applying shelf payments paymentId) (calPurchasePayment paymentId purchase q calBy) := by
  refine Preserves.gets_bind fun s h => ?_
  refine Preserves.gets_bind (fun s h => ?_) s h
  refine Preserves.forEach (fun item _ => ?_) s h
  refine Preserves.bind (Preserves.of_eq fun s => itemShare_snd ..) fun share => ?_
  exact preserves_putPurchasePayment _ _ _

theorem preserves_calStoragePayment (storage : PurchaseStorage) (q : ℚ) (calBy : CalBy) :
    Preserves (Applying shelf payments paymentId) (calStoragePayment paymentId storage q calBy) := by
  refine Preserves.gets_bind fun s h => ?_
  refine Preserves.gets_bind (fun s h => ?_) s h
  refine Preserves.forEach (fun item hitem => ?_) s h
  have hplace : (item.id, storage.id, true) ∈ shelf :=
    h.sound.shelved.shelf ▸ mem_shelf_of_normal hitem
  refine Preserves.bind (Preserves.of_eq fun s => itemShare_snd ..) fun share => ?_
  exact preserves_putStoragePayment hplace _

theorem preserves_applyForOtherpay (q : ℚ) :
    Preserves (Applying shelf payments paymentId) (applyForOtherpay paymentId purchase storages q) := by
  have hstorages : ∀ total : Int, Preserves (Applying shelf payments paymentId)
      (forEach storages fun storage => do
        let part ← divideInt storage.storageNum total
        calStoragePayment paymentId storage (part * q) .num) := by
    intro total
    refine Preserves.forEach fun storage _ s h => ?_
    rw [divideInt_bind_run]
    split
    · exact h
    · exact preserves_calStoragePayment _ _ _ s h
  unfold applyForOtherpay
  cases purchase with
  | none => exact hstorages _
  | some named => exact Preserves.bind (preserves_calPurchasePayment _ _ _) fun _ => hstorages _

theorem preserves_applyForCodpays (q : ℚ) :
    Preserves (Applying shelf payments paymentId) (applyForCodpays paymentId storages q) := by
  refine Preserves.gets_bind fun s h => ?_
  refine Preserves.raiseIf_bind (fun _ => ?_) s h
  refine Preserves.forEach fun storage _ => ?_
  refine Preserves.gets_bind fun s h => ?_
  rw [divide_bind_run]
  split
  · exact h
  · exact preserves_calStoragePayment _ _ _ s h

theorem preserves_applyRequest :
    Preserves (Applying shelf payments paymentId) (applyRequest request paymentId purchase storages) := by
  unfold applyRequest
  split
  · exact preserves_calPurchasePayment _ _ _
  · exact preserves_calStoragePayment _ _ _
  · exact preserves_applyForCodpays _
  · exact preserves_applyForOtherpay _
  · exact Preserves.pure ()

/-! ## The views keep them apart -/

theorem Sound.of_shelved (h : Sound shelf s) (ht : Shelved shelf s.bills t) : Sound shelf t := by
  obtain ⟨hpayments, hitems⟩ : t.payments = s.payments ∧ t.paymentItems = s.paymentItems :=
    ⟨congrArg Prod.fst ht.bills, congrArg Prod.snd ht.bills⟩
  refine ⟨ht.bills ▸ ht, ?_, ?_, ?_⟩
  · rw [hpayments, hitems]
    exact h.keyed.owned
  · rw [hitems]
    exact h.keyed.placed
  · rw [hitems]
    exact h.keyed.distinct

theorem preserves_getStorages (I : SupplierDb → Prop) (ids : List Nat) :
    Preserves I (getStorages ids) := by
  induction ids with
  | nil => exact Preserves.pure _
  | cons storageId rest ih =>
    refine Preserves.getOr_bind fun s storage h _ => ?_
    exact Preserves.bind ih (fun _ => Preserves.pure _) s h

theorem preserves_getPurchase (I : SupplierDb → Prop) (purchaseId : Nat) :
    Preserves I (getPurchase purchaseId) :=
  Preserves.of_keeps (Keeps.getOr (R := Eq) (fun _ => rfl) _ _) fun _ _ heq h => heq ▸ h

theorem preserves_acceptRequest
    {bills : Table PurchasePayment × Table PurchasePaymentItem} (request : PaymentRequest) :
    Preserves (Shelved shelf bills) (acceptRequest request) := by
  refine Preserves.raiseIf_bind fun _ => ?_
  have hnamed : ∀ purchaseId, Preserves (Shelved shelf bills) (do
      let named ← getPurchase purchaseId
      pure (some named, ([] : List PurchaseStorage))) := fun purchaseId =>
    Preserves.bind (preserves_getPurchase _ purchaseId) fun _ => Preserves.pure _
  cases request.payType with
  | prepaid => exact Preserves.getOr_bind fun s purchaseId h _ => hnamed purchaseId s h
  | pod =>
    refine Preserves.bind (preserves_getStorages _ _) fun found => ?_
    match found with
    | [] => exact Preserves.raise _
    | _ :: _ :: _ => exact Preserves.raise _
    | [storage] =>
      refine Preserves.bind (preserves_distributeStorageNum storage) fun unmatched => ?_
      exact Preserves.raiseIf_bind fun _ => Preserves.pure _
  | cod =>
    refine Preserves.bind (preserves_getStorages _ _) fun found => ?_
    exact Preserves.raiseIf_bind fun _ => Preserves.pure _
  | other =>
    cases request.purchase with
    | none =>
      cases request.storages with
      | nil => exact Preserves.raise _
      | cons storageId rest =>
        exact Preserves.bind (preserves_getStorages _ _) fun _ => Preserves.pure _
    | some purchaseId =>
      cases request.storages with
      | nil => exact hnamed purchaseId
      | cons storageId rest => exact Preserves.raise _

theorem Sound.accept (h : Sound shelf s) (request : PaymentRequest) :
    Sound shelf ((acceptRequest request).run s).2 :=
  h.of_shelved (preserves_acceptRequest request s h.shelved)

theorem createPayment_run (request : PaymentRequest) (s : SupplierDb) :
    (createPayment request).run s =
      (.ok (s.payments.stored (newPayment request)),
        { s with payments := s.payments.insert (newPayment request) }) := rfl

def SupplierDb.Paid (s : SupplierDb) (paymentId : Nat) : Prop :=
  ∃ payment ∈ s.payments, payment.id = paymentId ∧ payment.status = .hasPayment

structure Stays (shelf : List (Nat × Nat × Bool)) (paid : Nat → Prop) (s : SupplierDb) :
    Prop where
  sound : Sound shelf s
  paid : ∀ id, paid id → s.Paid id

variable {paid : Nat → Prop}

theorem Stays.save (h : Stays shelf paid s) {old : PurchasePayment} (payment : PurchasePayment)
    (hold : old ∈ s.payments) (hid : old.id = payment.id) (hstatus : old.status ≠ .hasPayment) :
    Stays shelf paid { s with payments := s.payments.save payment } where
  sound := h.sound.savePayment payment
  paid := by
    intro id hpaid
    obtain ⟨there, hthere, hthereId, hthereStatus⟩ := h.paid id hpaid
    refine ⟨there, (Table.mem_save_iff hold hid).2 (.inr ⟨hthere, fun heq => ?_⟩), hthereId,
      hthereStatus⟩
    have hsame : there = old := Table.pk_inj hthere hold (heq.trans hid.symm)
    exact hstatus (hsame ▸ hthereStatus)

theorem Stays.of_applying (h : Stays shelf paid s) (ht : Applying shelf payments paymentId t)
    (hmem : ∀ payment ∈ s.payments, payment ∈ payments) : Stays shelf paid t := by
  refine ⟨ht.sound, fun id hpaid => ?_⟩
  obtain ⟨payment, hpayment, hspec⟩ := h.paid id hpaid
  exact ⟨payment, ht.payments ▸ hmem payment hpayment, hspec⟩

theorem preserves_accept (request : PaymentRequest) :
    Preserves (Stays shelf paid) (acceptRequest request) := by
  intro s h
  have hbills := (preserves_acceptRequest request s h.sound.shelved).bills
  have hpayments : ((acceptRequest request).run s).2.payments = s.payments :=
    congrArg Prod.fst hbills
  refine ⟨h.sound.accept request, fun id hpaid => ?_⟩
  obtain ⟨payment, hmem, hspec⟩ := h.paid id hpaid
  exact ⟨payment, hpayments ▸ hmem, hspec⟩

theorem preserves_postPayment (request : PaymentRequest) :
    Preserves (Stays shelf paid) (postPayment request) := by
  refine Preserves.bind (preserves_accept request) fun accepted s h => ?_
  obtain ⟨purchase, storages⟩ := accepted
  dsimp only
  rw [bind_ok (createPayment_run request s)]
  have hthere : s.payments.stored (newPayment request) ∈ s.payments.insert (newPayment request) :=
    Table.mem_insert.2 (.inr rfl)
  have hcreated : Applying shelf (s.payments.insert (newPayment request)) s.payments.nextId
      { s with payments := s.payments.insert (newPayment request) } :=
    ⟨h.sound.insertPayment (newPayment request), ⟨_, hthere, rfl⟩, rfl⟩
  have hstays : ∀ t, Applying shelf (s.payments.insert (newPayment request)) s.payments.nextId t →
      Stays shelf paid t :=
    fun t ht => h.of_applying ht fun payment hpayment => Table.mem_insert.2 (.inl hpayment)
  refine Preserves.tryCatch_into preserves_applyRequest hstays (fun _ t ht => ?_) hcreated
  have hin : s.payments.stored (newPayment request) ∈ t.payments := ht.payments ▸ hthere
  exact (hstays t ht).save _ hin rfl (show PaymentStatus.waitApply ≠ .hasPayment by decide)

theorem preserves_fillPart (part : Nat × Int) :
    Preserves (Applying shelf payments paymentId) (fillPart part) := by
  refine Preserves.getOr_bind fun s item h hitem => ?_
  exact ⟨h.sound.saveAmount (Table.get?_eq_some.1 hitem).1 part.2, h.owner, h.payments⟩

theorem preserves_fillPayment (distribution : Distribution) :
    Preserves (Applying shelf payments paymentId) (fillPayment distribution) := by
  unfold fillPayment
  split
  · exact Preserves.forEach fun part _ => preserves_fillPart part
  · refine Preserves.forEach fun storage _ => ?_
    exact Preserves.forEach fun part _ => preserves_fillPart part

theorem preserves_validParams (I : SupplierDb → Prop) (distribution : Distribution) (p : ℚ) :
    Preserves I (validParams distribution p) := by
  have hraise : ∀ q : Prop, ∀ _ : Decidable q, ∀ e, Preserves I (raiseIf q e : SupplierTx Unit) :=
    fun q _ e => Preserves.of_keeps (Keeps.raiseIf (R := Eq) (fun _ => rfl) q e)
      fun _ _ heq h => heq ▸ h
  unfold validParams
  split
  · exact Preserves.bind (hraise _ _ _) fun _ => hraise _ _ _
  · refine Preserves.bind (Preserves.forEach fun storage _ => hraise _ _ _) fun _ => hraise _ _ _

theorem preserves_distributePayment (id : Nat) (distribution : Distribution) :
    Preserves (Stays shelf paid) (distributePayment id distribution) := by
  refine Preserves.getOr_bind fun s payment h hpayment => ?_
  have hmem := Table.mem_of_first hpayment
  have hspec := Table.first_spec hpayment
  have hstatus : payment.id = id ∧ payment.status ∈ [.waitApply, .waitPayment] :=
    of_decide_eq_true hspec
  have hwaits : payment.status ≠ .hasPayment := by
    intro heq
    rw [heq] at hstatus
    simp at hstatus
  have hstays : ∀ t, Applying shelf s.payments payment.id t → Stays shelf paid t :=
    fun t ht => h.of_applying ht fun payment hpayment => hpayment
  refine Preserves.bind_into (preserves_validParams (Applying shelf s.payments payment.id)
    distribution payment.payment) hstays (fun _ t ht => ?_) ⟨h.sound, ⟨payment, hmem, rfl⟩, rfl⟩
  refine Preserves.bind_into (preserves_fillPayment distribution) hstays (fun _ u hu => ?_) ht
  have hin : payment ∈ u.payments := hu.payments ▸ hmem
  exact (hstays u hu).save _ hin rfl hwaits

def AppliesWhole (request : PaymentRequest) (s : SupplierDb) : Prop :=
  ∀ purchase storages s₁ payment s₂,
    (acceptRequest request).run s = (.ok (purchase, storages), s₁) →
      (createPayment request).run s₁ = (.ok payment, s₂) →
        Ends NotDivision (applyRequest request payment.id purchase storages) s₂ fun _ s₃ =>
          Within (s₃.appliedFee payment.id) (s₃.itemsOf payment.id).length request.payment

def FairRequest (request : PaymentRequest) (s : SupplierDb) : Prop :=
  match (acceptRequest request).run s with
  | (.ok (purchase, storages), s₁) => Fair s₁ request.payType purchase storages
  | (.error _, _) => True

theorem appliesWhole_of_fair (h : Sound shelf s) (hfair : FairRequest request s) :
    AppliesWhole request s := by
  intro purchase storages s₁ payment s₂ haccept hcreate
  have hsound := h.accept request
  unfold FairRequest at hfair
  rw [haccept] at hsound hfair
  have hnamed := acceptRequest_ok haccept
  rw [createPayment_run] at hcreate
  obtain ⟨hok, rfl⟩ := Prod.mk.inj hcreate
  obtain rfl := Except.ok.inj hok
  have hcreated := hsound.insertPayment (newPayment request)
  refine ends_applyRequest hcreated.shelved.settled hnamed hfair ?_
  -- the payment is new, and so no payment item is of it
  refine List.filter_eq_nil_iff.2 fun item hitem hof => ?_
  obtain ⟨payment, hpayment, hid⟩ := hsound.keyed.owned item hitem
  have hnext : item.purchasePaymentId = s₁.payments.nextId := of_decide_eq_true hof
  have hlt : payment.id < s₁.payments.nextId := Table.pk_lt_nextId hpayment
  omega

end ShopManager.Supplier
