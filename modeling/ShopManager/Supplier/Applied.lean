import ShopManager.Supplier.Totals

/-!
# Applications for supplier payments

An application splits its amount over items, each of which gets a payment item of its own.
What the payment items come to is compared with what was applied for: by what is unpaid the
whole of it is split, by quantities only where a single storage has them all.
-/

namespace ShopManager.Supplier

open Library Library.Tx Library.Shares

def SupplierDb.appliedFee (s : SupplierDb) (paymentId : Nat) : Int :=
  ((s.itemsOf paymentId).map PurchasePaymentItem.payment).sum

def SupplierDb.stocked (s : SupplierDb) (storage : PurchaseStorage) : Bool :=
  s.normalStorageItems storage.id ≠ []

def NotDivision (e : Exn) : Prop := e ≠ zeroDivisionError

theorem notDivision_doesNotExist : NotDivision .doesNotExist := by
  unfold NotDivision zeroDivisionError
  decide

theorem notDivision_nothingUnpaid : NotDivision (.exception "待付款金额不能为零") := by
  unfold NotDivision zeroDivisionError
  decide

theorem notDivision_nothingFound : NotDivision (.exception "没有找到待付款项") := by
  unfold NotDivision zeroDivisionError
  decide

theorem notDivision_wrongFee : NotDivision (.exception "付款项有异常") := by
  unfold NotDivision zeroDivisionError
  decide

variable {s t u : SupplierDb}

/-! ## Payment items that are added -/

/-- From `s` to `t` only payment items in `P` were added, which come to `q` up to rounding. -/
structure Adds (P : PurchasePaymentItem → Prop) (q : ℚ) (s t : SupplierDb) : Prop where
  frame : t = { s with paymentItems := t.paymentItems }
  added : ∃ new, t.paymentItems.rows = s.paymentItems.rows ++ new ∧ (∀ item ∈ new, P item) ∧
    Within (new.map PurchasePaymentItem.payment).sum new.length q

namespace Adds

variable {P P' : PurchasePaymentItem → Prop} {q q' : ℚ}

theorem refl (P : PurchasePaymentItem → Prop) (s : SupplierDb) : Adds P 0 s s :=
  ⟨rfl, [], by simp, by simp, within_zero⟩

theorem trans (h : Adds P q s t) (h' : Adds P q' t u) : Adds P (q + q') s u := by
  obtain ⟨new, hrows, hnew, hwithin⟩ := h.added
  obtain ⟨new', hrows', hnew', hwithin'⟩ := h'.added
  refine ⟨?_, new ++ new', ?_, ?_, ?_⟩
  · rw [h'.frame, h.frame]
  · rw [hrows', hrows, List.append_assoc]
  · intro item hitem
    rcases List.mem_append.1 hitem with hmem | hmem
    · exact hnew item hmem
    · exact hnew' item hmem
  · rw [List.map_append, List.sum_append, List.length_append]
    exact hwithin.add hwithin'

theorem mono (h : Adds P q s t) (hP : ∀ item, P item → P' item) : Adds P' q s t := by
  obtain ⟨new, hrows, hnew, hwithin⟩ := h.added
  exact ⟨h.frame, new, hrows, fun item hitem => hP item (hnew item hitem), hwithin⟩

theorem mem (h : Adds P q s t) {item : PurchasePaymentItem} (hitem : item ∈ t.paymentItems) :
    item ∈ s.paymentItems ∨ P item := by
  obtain ⟨new, hrows, hnew, -⟩ := h.added
  rw [Table.mem_def, hrows] at hitem
  rcases List.mem_append.1 hitem with hmem | hmem
  · exact .inl hmem
  · exact .inr (hnew item hmem)

theorem within (h : Adds P q s t) {paymentId : Nat} (hnone : s.itemsOf paymentId = [])
    (hP : ∀ item, P item → item.purchasePaymentId = paymentId) :
    Within (t.appliedFee paymentId) (t.itemsOf paymentId).length q := by
  obtain ⟨new, hrows, hnew, hwithin⟩ := h.added
  have hitems : t.itemsOf paymentId = new := by
    unfold SupplierDb.itemsOf Table.filter at *
    rw [hrows, List.filter_append, hnone, List.nil_append, List.filter_eq_self]
    exact fun item hitem => decide_eq_true (hP item (hnew item hitem))
  unfold SupplierDb.appliedFee
  rw [hitems]
  exact hwithin

theorem forEach {α : Type} {as : List α} {E : Exn → Prop} {body : α → SupplierTx Unit}
    {P : α → PurchasePaymentItem → Prop} {value : α → ℚ}
    (hbody : ∀ before a after, as = before ++ a :: after → ∀ t : SupplierDb,
      t = { s with paymentItems := t.paymentItems } →
      (∀ item ∈ t.paymentItems, item ∈ s.paymentItems ∨ ∃ b ∈ before, P b item) →
      Ends E (body a) t fun _ t' => Adds (P a) (value a) t t') :
    Ends E (Tx.forEach as body) s fun _ s' =>
      Adds (fun item => ∃ a ∈ as, P a item) (as.map value).sum s s' := by
  let J : List α → SupplierDb → Prop := fun after t => ∃ before, as = before ++ after ∧
    Adds (fun item => ∃ a ∈ before, P a item) (before.map value).sum s t
  have hstart : J as s := ⟨[], rfl, Adds.refl _ s⟩
  refine Ends.mono (Ends.forEach (J := J) ?_ hstart) ?_
  · rintro a after t ⟨before, heq, h⟩
    refine Ends.mono (hbody before a after heq t h.frame fun item hitem => h.mem hitem) ?_
    rintro - t' h'
    refine ⟨before ++ [a], by rw [heq, List.append_assoc]; rfl, ?_⟩
    have hbefore : Adds (fun item => ∃ b ∈ before ++ [a], P b item) _ s t := h.mono
      fun item ⟨b, hb, hPb⟩ => ⟨b, List.mem_append_left _ hb, hPb⟩
    have hlast : Adds (fun item => ∃ b ∈ before ++ [a], P b item) _ t t' := h'.mono
      fun item hPa => ⟨a, by simp, hPa⟩
    have hsum : ((before ++ [a]).map value).sum = (before.map value).sum + value a := by simp
    rw [hsum]
    exact hbefore.trans hlast
  · rintro - t ⟨before, heq, h⟩
    rw [List.append_nil] at heq
    rw [heq]
    exact h

end Adds

/-! ## The items of one purchase or storage -/

theorem ends_putPaymentItem {E : Exn → Prop} {same : PurchasePaymentItem → Bool}
    {new : PurchasePaymentItem} {P : PurchasePaymentItem → Prop} {x : ℚ}
    (hfresh : ∀ item ∈ s.paymentItems, same item = false)
    (hP : ∀ n amount, P { new with id := n, payment := amount }) :
    Ends E (putPaymentItem same new (halfAway x)) s fun _ t => Adds P x s t := by
  apply Ends.gets_bind
  rw [Table.first_eq_none.2 hfresh]
  refine Ends.modify ⟨rfl, [s.paymentItems.stored { new with payment := halfAway x }], rfl, ?_, ?_⟩
  · intro item hitem
    rw [List.mem_singleton.1 hitem]
    exact hP _ _
  · rw [List.map_singleton, List.sum_singleton]
    exact within_halfAway x

/-- Every item of the list has a payment item of its own to come: `P` says which are its. -/
structure Slots {α : Type} (items : List α) (same : α → PurchasePaymentItem → Bool)
    (new : α → PurchasePaymentItem) (P : α → PurchasePaymentItem → Prop) (s : SupplierDb) :
    Prop where
  kind : ∀ a n amount, P a { new a with id := n, payment := amount }
  apart : ∀ a ∈ items, ∀ b ∈ items, ∀ item, P b item → same a item = true → a = b
  fresh : ∀ a ∈ items, ∀ item ∈ s.paymentItems, same a item = false
  nodup : items.Nodup

section Split

variable {α : Type} {items : List α} {same : α → PurchasePaymentItem → Bool}
  {new : α → PurchasePaymentItem} {P : α → PurchasePaymentItem → Prop}

theorem ends_split {E : Exn → Prop} (hslots : Slots items same new P s)
    (share : α → SupplierTx ℚ) (value : α → ℚ)
    (hshare : ∀ a ∈ items, ∀ t, (share a).run t = (.ok (value a), t)) :
    Ends E (Tx.forEach items fun a => do
      let x ← share a
      putPaymentItem (same a) (new a) (halfAway x)) s fun _ t =>
        Adds (fun item => ∃ a ∈ items, P a item) (items.map value).sum s t := by
  apply Adds.forEach
  intro before a after heq t _ hmem
  have ha : a ∈ items := by simp [heq]
  have hbefore : a ∉ before := by
    have hnodup := hslots.nodup
    rw [heq, List.nodup_append] at hnodup
    intro hin
    exact hnodup.2.2 a hin a (List.mem_cons_self ..) rfl
  refine Ends.bind_run (hshare a ha t) (ends_putPaymentItem ?_ (hslots.kind a))
  intro item hitem
  rcases hmem item hitem with hold | ⟨b, hb, hPb⟩
  · exact hslots.fresh a ha item hold
  · by_contra hyes
    have hab : a = b := hslots.apart a ha b (by simp [heq, hb]) item hPb (by simpa using hyes)
    exact hbefore (hab ▸ hb)

variable {unpay num : α → Int} {fee : α → ℚ} {totalUnpay totalNum : Int} {totalFee q : ℚ}

theorem ends_splitUnpay (hslots : Slots items same new P s)
    (htotal : 0 < totalUnpay → (items.map unpay).sum = totalUnpay) :
    Ends NotDivision (Tx.forEach items fun a => do
      let x ← itemShare .unpay (unpay a) (num a) (fee a) totalUnpay totalNum totalFee q
      putPaymentItem (same a) (new a) (halfAway x)) s fun _ t =>
        Adds (fun item => ∃ a ∈ items, P a item) (if items = [] then 0 else q) s t := by
  by_cases hempty : items = []
  · subst hempty
    exact Adds.refl _ s
  rw [if_neg hempty]
  by_cases hpos : 0 < totalUnpay
  · have hne : (totalUnpay : ℚ) ≠ 0 := Int.cast_ne_zero.2 (ne_of_gt hpos)
    have hweights : (items.map fun a => (unpay a : ℚ)).sum = totalUnpay := by
      rw [← intCast_sum, htotal hpos]
    have hsplit := ends_split (E := NotDivision) hslots
      (fun a => itemShare .unpay (unpay a) (num a) (fee a) totalUnpay totalNum totalFee q)
      (fun a => (unpay a : ℚ) / totalUnpay * q) fun a _ t => by
        simp [itemShare, divide, bind_run, hne, not_le.2 hpos]
    rw [sum_proportional _ _ q items hweights hne] at hsplit
    exact hsplit
  · obtain ⟨a, rest, rfl⟩ := List.exists_cons_of_ne_nil hempty
    rw [forEach_cons]
    apply Ends.bind
    apply Ends.bind
    apply Ends.bind
    unfold Ends
    rw [raiseIf_run, if_pos (not_lt.1 hpos)]
    exact notDivision_nothingUnpaid

theorem ends_splitNum (hslots : Slots items same new P s) (hne : items ≠ [] → totalNum ≠ 0)
    (htotal : (items.map num).sum = totalNum) :
    Ends NotDivision (Tx.forEach items fun a => do
      let x ← itemShare .num (unpay a) (num a) (fee a) totalUnpay totalNum totalFee q
      putPaymentItem (same a) (new a) (halfAway x)) s fun _ t =>
        Adds (fun item => ∃ a ∈ items, P a item) (if items = [] then 0 else q) s t := by
  by_cases hempty : items = []
  · subst hempty
    exact Adds.refl _ s
  rw [if_neg hempty]
  have hcast : (totalNum : ℚ) ≠ 0 := Int.cast_ne_zero.2 (hne hempty)
  have hweights : (items.map fun a => (num a : ℚ)).sum = totalNum := by
    rw [← intCast_sum, htotal]
  have hsplit := ends_split (E := NotDivision) hslots
    (fun a => itemShare .num (unpay a) (num a) (fee a) totalUnpay totalNum totalFee q)
    (fun a => (num a : ℚ) / totalNum * q) fun a _ t => by
      have hcomm : (num a : ℚ) * (q / totalNum) = num a / totalNum * q := by ring
      simp [itemShare, divide, bind_run, hcast, hcomm]
  rw [sum_proportional _ _ q items hweights hcast] at hsplit
  exact hsplit

end Split

def ForPurchaseItem (paymentId : Nat) (a : PurchaseItem) (item : PurchasePaymentItem) : Prop :=
  item.purchasePaymentId = paymentId ∧ item.purchaseItemId = some a.id

def ForStorageItem (paymentId : Nat) (a : PurchaseStorageItem) (item : PurchasePaymentItem) :
    Prop :=
  item.purchasePaymentId = paymentId ∧ item.storageItemId = some a.id

theorem slots_purchase {paymentId purchaseId : Nat} (hnone : s.itemsOf paymentId = []) :
    Slots (s.effectPurchaseItems purchaseId)
      (fun a item => item.purchasePaymentId = paymentId ∧ item.purchaseId = some purchaseId ∧
        item.purchaseItemId = some a.id)
      (fun a => ⟨0, paymentId, some purchaseId, some a.id, none, none, 0⟩)
      (ForPurchaseItem paymentId) s where
  kind := fun _ _ _ => ⟨rfl, rfl⟩
  apart := by
    intro a ha b hb item hP hsame
    have hitem : item.purchasePaymentId = paymentId ∧ item.purchaseId = some purchaseId ∧
        item.purchaseItemId = some a.id := of_decide_eq_true hsame
    have hid : a.id = b.id := Option.some.inj (hitem.2.2.symm.trans hP.2)
    exact Table.pk_inj (List.mem_of_mem_filter ha) (List.mem_of_mem_filter hb) hid
  fresh := by
    intro a _ item hitem
    refine decide_eq_false fun h => ?_
    have hmem : item ∈ s.itemsOf paymentId := List.mem_filter.2 ⟨hitem, decide_eq_true h.1⟩
    rw [hnone] at hmem
    cases hmem
  nodup := s.items.nodup_rows.filter _

def FreshFor (paymentId storageId : Nat) (s : SupplierDb) : Prop :=
  ∀ item ∈ s.paymentItems, ∀ a ∈ s.normalStorageItems storageId, ¬ ForStorageItem paymentId a item

theorem freshFor_of_itemsOf {paymentId : Nat} (h : s.itemsOf paymentId = []) (storageId : Nat) :
    FreshFor paymentId storageId s := by
  intro item hitem a _ hfor
  have hmem : item ∈ s.itemsOf paymentId := List.mem_filter.2 ⟨hitem, decide_eq_true hfor.1⟩
  rw [h] at hmem
  cases hmem

theorem slots_storage {paymentId storageId : Nat} (hfresh : FreshFor paymentId storageId s) :
    Slots (s.normalStorageItems storageId)
      (fun a item => item.purchasePaymentId = paymentId ∧ item.storageId = some storageId ∧
        item.storageItemId = some a.id)
      (fun a => ⟨0, paymentId, none, none, some storageId, some a.id, 0⟩)
      (ForStorageItem paymentId) s where
  kind := fun _ _ _ => ⟨rfl, rfl⟩
  apart := by
    intro a ha b hb item hP hsame
    have hitem : item.purchasePaymentId = paymentId ∧ item.storageId = some storageId ∧
        item.storageItemId = some a.id := of_decide_eq_true hsame
    have hid : a.id = b.id := Option.some.inj (hitem.2.2.symm.trans hP.2)
    exact Table.pk_inj (List.mem_of_mem_filter ha) (List.mem_of_mem_filter hb) hid
  fresh := by
    intro a ha item hitem
    exact decide_eq_false fun h => hfresh item hitem a ha ⟨h.1, h.2.2⟩
  nodup := s.storageItems.nodup_rows.filter _

def ForPurchase (s : SupplierDb) (paymentId purchaseId : Nat) (item : PurchasePaymentItem) :
    Prop := ∃ a ∈ s.effectPurchaseItems purchaseId, ForPurchaseItem paymentId a item

def ForStorage (s : SupplierDb) (paymentId storageId : Nat) (item : PurchasePaymentItem) :
    Prop := ∃ a ∈ s.normalStorageItems storageId, ForStorageItem paymentId a item

theorem purchaseUnpayFee_eq {purchaseId : Nat} (hpos : 0 < s.purchaseUnpayFee purchaseId) :
    ((s.effectPurchaseItems purchaseId).map PurchaseItem.unpayFee).sum =
      s.purchaseUnpayFee purchaseId := by
  unfold SupplierDb.purchaseUnpayFee at *
  grind

theorem storageUnpayFee_eq {storageId : Nat} (hpos : 0 < s.storageUnpayFee storageId) :
    ((s.normalStorageItems storageId).map PurchaseStorageItem.unpayFee).sum =
      s.storageUnpayFee storageId := by
  unfold SupplierDb.storageUnpayFee at *
  grind

variable {paymentId : Nat} {q : ℚ}

theorem ends_calPurchasePayment_unpay {purchase : Purchase} (hnone : s.itemsOf paymentId = [])
    (hitems : s.effectPurchaseItems purchase.id ≠ []) :
    Ends NotDivision (calPurchasePayment paymentId purchase q .unpay) s fun _ t =>
      Adds (ForPurchase s paymentId purchase.id) q s t := by
  unfold calPurchasePayment putPurchasePayment
  apply Ends.gets_bind
  apply Ends.gets_bind
  refine Ends.mono (ends_splitUnpay (slots_purchase hnone) purchaseUnpayFee_eq) ?_
  intro _ t h
  rw [if_neg hitems] at h
  exact h

theorem ends_calPurchasePayment_num {purchase : Purchase} (hnone : s.itemsOf paymentId = [])
    (hitems : s.effectPurchaseItems purchase.id ≠ []) (hnum : purchase.purchaseNum ≠ 0)
    (htotal : purchase.purchaseNum = s.purchaseSum purchase.id PurchaseItem.purchaseNum) :
    Ends NotDivision (calPurchasePayment paymentId purchase q .num) s fun _ t =>
      Adds (ForPurchase s paymentId purchase.id) q s t := by
  unfold calPurchasePayment putPurchasePayment
  apply Ends.gets_bind
  apply Ends.gets_bind
  refine Ends.mono (ends_splitNum (slots_purchase hnone) (fun _ => hnum) ?_) ?_
  · rw [htotal]
    exact Table.sum_filter _ _ _
  · intro _ t h
    rw [if_neg hitems] at h
    exact h

variable {storage : PurchaseStorage}

theorem stocked_iff :
    s.stocked storage = true ↔ s.normalStorageItems storage.id ≠ [] := decide_eq_true_iff

theorem ends_calStoragePayment_unpay (hfresh : FreshFor paymentId storage.id s) :
    Ends NotDivision (calStoragePayment paymentId storage q .unpay) s fun _ t =>
      Adds (ForStorage s paymentId storage.id) (if s.stocked storage then q else 0) s t := by
  unfold calStoragePayment putStoragePayment
  apply Ends.gets_bind
  apply Ends.gets_bind
  refine Ends.mono (ends_splitUnpay (slots_storage hfresh) storageUnpayFee_eq) ?_
  intro _ t h
  simp only [stocked_iff, ne_eq, ite_not]
  exact h

theorem ends_calStoragePayment_num (hfresh : FreshFor paymentId storage.id s)
    (hnum : s.stocked storage = true → storage.storageNum ≠ 0)
    (htotal : storage.storageNum = s.storageSum storage.id PurchaseStorageItem.storageNum) :
    Ends NotDivision (calStoragePayment paymentId storage q .num) s fun _ t =>
      Adds (ForStorage s paymentId storage.id) (if s.stocked storage then q else 0) s t := by
  unfold calStoragePayment putStoragePayment
  apply Ends.gets_bind
  apply Ends.gets_bind
  refine Ends.mono (ends_splitNum (slots_storage hfresh) (fun h => hnum (stocked_iff.2 h)) ?_) ?_
  · rw [htotal]
    exact Table.sum_filter _ _ _
  · intro _ t h
    simp only [stocked_iff, ne_eq, ite_not]
    exact h

/-! ## Several storages -/

theorem ends_storages {storages : List PurchaseStorage} (body : PurchaseStorage → SupplierTx Unit)
    (value : PurchaseStorage → ℚ) (hnone : s.itemsOf paymentId = [])
    (hnodup : ((storages.filter s.stocked).map PurchaseStorage.id).Nodup)
    (hbody : ∀ storage ∈ storages, ∀ t : SupplierDb, t = { s with paymentItems := t.paymentItems } →
      FreshFor paymentId storage.id t → Ends NotDivision (body storage) t fun _ t' =>
        Adds (ForStorage s paymentId storage.id) (value storage) t t') :
    Ends NotDivision (Tx.forEach storages body) s fun _ t =>
      Adds (fun item => ∃ storage ∈ storages, ForStorage s paymentId storage.id item)
        (storages.map value).sum s t := by
  apply Adds.forEach
  intro before storage after heq t ht hmem
  refine hbody storage (by simp [heq]) t ht ?_
  intro item hitem a ha hfor
  have ha' : a ∈ s.normalStorageItems storage.id := by
    rw [ht] at ha
    exact ha
  rcases hmem item hitem with hold | ⟨other, hother, b, hb, hforb⟩
  · exact freshFor_of_itemsOf hnone storage.id item hold a ha' hfor
  · -- the same row cannot be of two storages
    have hid : a.id = b.id := Option.some.inj (hfor.2.symm.trans hforb.2)
    have hab : a = b :=
      Table.pk_inj (List.mem_of_mem_filter ha') (List.mem_of_mem_filter hb) hid
    have hofa : a.purchaseStorageId = storage.id ∧ a.normal :=
      of_decide_eq_true (List.mem_filter.1 ha').2
    have hofb : b.purchaseStorageId = other.id ∧ b.normal :=
      of_decide_eq_true (List.mem_filter.1 hb).2
    have hsame : other.id = storage.id := by
      rw [← hofb.1, ← hab, hofa.1]
    have hstocked : s.stocked storage = true := stocked_iff.2 (List.ne_nil_of_mem ha')
    have hstocked' : s.stocked other = true := stocked_iff.2 (List.ne_nil_of_mem hb)
    rw [heq, List.filter_append, List.map_append, List.nodup_append] at hnodup
    have hleft : other.id ∈ (before.filter s.stocked).map PurchaseStorage.id :=
      List.mem_map_of_mem (List.mem_filter.2 ⟨hother, hstocked'⟩)
    have hright : storage.id ∈ ((storage :: after).filter s.stocked).map PurchaseStorage.id :=
      List.mem_map_of_mem (List.mem_filter.2 ⟨List.mem_cons_self .., hstocked⟩)
    exact hnodup.2.2 _ hleft _ hright hsame

theorem storageUnpayFee_of_not_stocked
    (h : ¬ s.stocked storage = true) : s.storageUnpayFee storage.id = 0 := by
  rw [stocked_iff, not_not] at h
  simp [SupplierDb.storageUnpayFee, h]

theorem normalStorageItems_of_frame (ht : t = { s with paymentItems := t.paymentItems }) :
    t.normalStorageItems = s.normalStorageItems := by
  rw [ht]
  rfl

theorem stocked_of_frame (ht : t = { s with paymentItems := t.paymentItems }) :
    t.stocked = s.stocked := by
  rw [ht]
  rfl

theorem forStorage_of_frame (ht : t = { s with paymentItems := t.paymentItems }) :
    ForStorage t = ForStorage s := by
  rw [ht]
  rfl

theorem ends_applyForCodpays {storages : List PurchaseStorage} (hnone : s.itemsOf paymentId = [])
    (hnodup : ((storages.filter s.stocked).map PurchaseStorage.id).Nodup) :
    Ends NotDivision (applyForCodpays paymentId storages q) s fun _ t =>
      Adds (fun item => ∃ storage ∈ storages, ForStorage s paymentId storage.id item) q s t := by
  let total : Int := (storages.map fun storage => s.storageUnpayFee storage.id).sum
  refine Ends.gets_bind (Ends.raiseIf_bind (fun _ => notDivision_nothingFound) fun hpos => ?_)
  have hne : (total : ℚ) ≠ 0 := Int.cast_ne_zero.2 (ne_of_gt (not_le.1 hpos))
  have hsum := sum_proportional (fun storage : PurchaseStorage =>
    (s.storageUnpayFee storage.id : ℚ)) total q storages (intCast_sum _ storages).symm hne
  refine Ends.mono (ends_storages _ (fun storage =>
    (s.storageUnpayFee storage.id : ℚ) / total * q) hnone hnodup ?_) fun _ t h => hsum ▸ h
  intro storage _ t ht hfresh
  have hgoods := normalStorageItems_of_frame ht
  have hunpay : t.storageUnpayFee storage.id = s.storageUnpayFee storage.id := by
    unfold SupplierDb.storageUnpayFee
    rw [hgoods]
  have hdivide : (divide (s.storageUnpayFee storage.id) total).run t =
      (.ok (s.storageUnpayFee storage.id / total : ℚ), t) := by
    simp [divide, bind_run, hne]
  apply Ends.gets_bind
  rw [hunpay]
  refine Ends.bind_run hdivide (Ends.mono (ends_calStoragePayment_unpay hfresh) ?_)
  intro _ t' h
  rw [forStorage_of_frame ht, stocked_of_frame ht] at h
  by_cases hstocked : s.stocked storage = true
  · rw [if_pos hstocked] at h
    exact h
  · rw [if_neg hstocked] at h
    rw [storageUnpayFee_of_not_stocked hstocked]
    simpa using h

theorem ends_applyForOtherpay_storages {storages : List PurchaseStorage}
    (hnone : s.itemsOf paymentId = [])
    (hnums : ∀ storage ∈ storages,
      storage.storageNum = s.storageSum storage.id PurchaseStorageItem.storageNum)
    {only : PurchaseStorage} (honly : storages.filter s.stocked = [only])
    (hnum : only.storageNum ≠ 0) :
    Ends NotDivision (applyForOtherpay paymentId none storages q) s fun _ t =>
      Adds (fun item => ∃ storage ∈ storages, ForStorage s paymentId storage.id item) q s t := by
  have hempty : ∀ storage ∈ storages, ¬ s.stocked storage = true → storage.storageNum = 0 := by
    intro storage hstorage hstocked
    rw [stocked_iff, not_not] at hstocked
    have hsum := Table.sum_filter s.storageItems (normalItem storage.id)
      PurchaseStorageItem.storageNum
    unfold SupplierDb.normalStorageItems at hstocked
    rw [hstocked] at hsum
    rw [hnums storage hstorage]
    exact hsum.symm
  have htotal : (storages.map PurchaseStorage.storageNum).sum = only.storageNum := by
    have hpart : (storages.map PurchaseStorage.storageNum).sum =
        ((storages.filter s.stocked).map PurchaseStorage.storageNum).sum := by
      rw [← sum_ite_zero]
      congr 1
      apply List.map_congr_left
      intro storage hstorage
      split
      · rfl
      · next hstocked => exact hempty storage hstorage hstocked
    rw [hpart, honly, List.map_singleton, List.sum_singleton]
  have hwhole : ∀ storage ∈ storages, s.stocked storage = true → storage = only := by
    intro storage hstorage hstocked
    have hmem : storage ∈ storages.filter s.stocked := List.mem_filter.2 ⟨hstorage, hstocked⟩
    rw [honly] at hmem
    exact List.mem_singleton.1 hmem
  have hvalue : (storages.map fun storage => if s.stocked storage then q else 0).sum = q := by
    rw [sum_ite_zero, honly, List.map_singleton, List.sum_singleton]
  have hnodup : ((storages.filter s.stocked).map PurchaseStorage.id).Nodup := by
    rw [honly]
    exact List.nodup_singleton _
  unfold applyForOtherpay
  simp only [htotal]
  refine Ends.mono (ends_storages _ (fun storage => if s.stocked storage then q else 0)
    hnone hnodup ?_) fun _ t h => hvalue ▸ h
  intro storage hstorage t ht hfresh
  have hdivide : (divideInt storage.storageNum only.storageNum).run t =
      (.ok (Int.fdiv storage.storageNum only.storageNum), t) := by
    simp [divideInt, bind_run, hnum]
  refine Ends.bind_run hdivide (Ends.mono (ends_calStoragePayment_num hfresh ?_ ?_) ?_)
  · intro hstocked
    rw [stocked_of_frame ht] at hstocked
    rw [hwhole storage hstorage hstocked]
    exact hnum
  · rw [hnums storage hstorage, ht]
    rfl
  · intro _ t' h
    rw [forStorage_of_frame ht, stocked_of_frame ht] at h
    by_cases hstocked : s.stocked storage = true
    · rw [if_pos hstocked, hwhole storage hstorage hstocked, Int.fdiv_self hnum, Int.cast_one,
        one_mul] at h
      rw [if_pos hstocked, hwhole storage hstorage hstocked]
      exact h
    · rw [if_neg hstocked] at h
      rw [if_neg hstocked]
      exact h

end ShopManager.Supplier
