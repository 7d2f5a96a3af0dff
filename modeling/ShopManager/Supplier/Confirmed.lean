import ShopManager.Supplier.Posted

/-!
# Confirmed payments

At its confirmation every payment item is split once more, over the relations of its storage
item.  By what they have unpaid the whole of it is split unless one of them is paid over; by
quantities only where one relation has all of the pieces.
-/

namespace ShopManager.Supplier

open Library Library.Tx Library.Shares

def SupplierDb.paid (s : SupplierDb) : Int := s.items.sum PurchaseItem.payment

variable {s t u : SupplierDb} {shelf : List (Nat × Nat × Bool)}
  {bills : Table PurchasePayment × Table PurchasePaymentItem}

/-! ## Payments of single relations -/

/-- From `s` to `t` the amount was paid for purchase items, and of the storage items and their
relations only those of `current` have changed. -/
structure Pays (shelf : List (Nat × Nat × Bool))
    (bills : Table PurchasePayment × Table PurchasePaymentItem) (current : Option Nat)
    (amount : Int) (s t : SupplierDb) : Prop where
  shelved : Shelved shelf bills t
  paid : t.paid = s.paid + amount
  storageItems : ∀ j, some j ≠ current → t.storageItems.get? j = s.storageItems.get? j
  ships : ∀ j, some j ≠ current → ∀ storageId,
    t.ships.filter (ofStorageItem storageId j) = s.ships.filter (ofStorageItem storageId j)

namespace Pays

variable {current : Option Nat} {amount amount' : Int}

theorem refl (h : Shelved shelf bills s) : Pays shelf bills current 0 s s :=
  ⟨h, (add_zero _).symm, fun _ _ => rfl, fun _ _ _ => rfl⟩

theorem trans (h : Pays shelf bills current amount s t)
    (h' : Pays shelf bills current amount' t u) :
    Pays shelf bills current (amount + amount') s u where
  shelved := h'.shelved
  paid := by rw [h'.paid, h.paid, add_assoc]
  storageItems := fun j hj => (h'.storageItems j hj).trans (h.storageItems j hj)
  ships := fun j hj storageId => (h'.ships j hj storageId).trans (h.ships j hj storageId)

end Pays

theorem paid_putItem {item old : PurchaseItem} (hold : old ∈ s.items) (hid : old.id = item.id)
    {amount : Int} (hpayment : item.payment = old.payment + amount) :
    (putItem item s).paid = s.paid + amount := by
  have hsum : (putItem item s).paid = s.paid - old.payment + item.payment :=
    Table.sum_save hold hid PurchaseItem.payment
  rw [hsum, hpayment]
  ring

theorem ends_addPayment (current : Option Nat) (h : Shelved shelf bills s) (itemId : Nat)
    (amount prepay : Int) :
    Ends NotDivision (addPayment itemId amount prepay) s fun _ t =>
      Pays shelf bills current amount s t ∧ t.ships = s.ships := by
  refine Ends.getOr_bind notDivision_doesNotExist fun item hitem => ?_
  obtain ⟨hmem, -⟩ := Table.get?_eq_some.1 hitem
  have hsettled : Settled (putItem { item with
      payment := item.payment + amount
      prepay := item.prepay + prepay } s) := h.settled.putItem hmem rfl rfl
  refine Ends.modify ⟨⟨⟨hsettled, h.shelf, h.bills⟩, ?_, fun _ _ => rfl, fun _ _ _ => rfl⟩, rfl⟩
  apply paid_putItem hmem
  · rfl
  · rfl

theorem ends_updateAddonNum (ship : PurchaseStorageRelationship) (s : SupplierDb) :
    Ends NotDivision (updateAddonNum ship) s fun _ t =>
      t.paid = s.paid ∧ t.storageItems = s.storageItems ∧ t.ships = s.ships := by
  refine Ends.getOr_bind notDivision_doesNotExist fun item hitem => ?_
  obtain ⟨hmem, -⟩ := Table.get?_eq_some.1 hitem
  refine Ends.gets_bind (Ends.modify ⟨?_, rfl, rfl⟩)
  rw [← add_zero s.paid]
  apply paid_putItem hmem
  · rfl
  · exact (add_zero item.payment).symm

theorem ends_saveShip (h : Shelved shelf bills s) (ship : PurchaseStorageRelationship)
    {old : PurchaseStorageRelationship}
    (hold : old ∈ s.ships) (hid : old.id = ship.id) (hstorage : old.storageId = ship.storageId)
    (hitem : old.storageItemId = ship.storageItemId) :
    Ends NotDivision (PurchaseStorageRelationship.save ship) s fun _ t =>
      Pays shelf bills (some ship.storageItemId) 0 s t ∧ t.ships = s.ships.save ship := by
  obtain ⟨item, -, hget, hitemId, -⟩ := (OnlyShipsOf.save h.settled hold hid hstorage hitem).found
  let saved : SupplierDb := { s with ships := s.ships.save ship }
  have hrun : (PurchaseStorageRelationship.save ship).run s =
      (if ship.isAddon then updateAddonNum ship else pure ()).run
        (putStorageItem (refreshed saved ship item) saved) :=
    updatePurchaseitemStorageAndFee_run (s := saved) hget
  have hends : Ends NotDivision (if ship.isAddon then updateAddonNum ship else pure ())
      (putStorageItem (refreshed saved ship item) saved) fun _ t =>
        t.paid = s.paid ∧ t.storageItems = s.storageItems.save (refreshed saved ship item) ∧
          t.ships = s.ships.save ship :=
    Ends.ite (fun _ => ends_updateAddonNum ship _) fun _ => Ends.pure ⟨rfl, rfl, rfl⟩
  have hsave : Ends NotDivision (PurchaseStorageRelationship.save ship) s fun _ t =>
      t.paid = s.paid ∧ t.storageItems = s.storageItems.save (refreshed saved ship item) ∧
        t.ships = s.ships.save ship := by
    unfold Ends at *
    rw [hrun]
    exact hends
  refine Ends.mono (hsave.and_snd (h.saveShip hold hid hstorage hitem)) ?_
  rintro _ t ⟨⟨hpaid, hitems, hships⟩, hshelved⟩
  refine ⟨⟨hshelved, by rw [hpaid, add_zero], fun j hj => ?_, fun j hj storageId => ?_⟩, hships⟩
  · have hne : j ≠ Row.pk (refreshed saved ship item) := by
      intro heq
      exact hj (congrArg some (heq.trans hitemId))
    rw [hitems, Table.get?_save, if_neg hne]
  · have hne : ship.storageItemId ≠ j := fun heq => hj (congrArg some heq.symm)
    rw [hships]
    exact Table.filter_save_of_not hold hid (by simp [ofStorageItem, hitem, hne])
      (by simp [ofStorageItem, hne])

theorem ends_payShip (h : Shelved shelf bills s) {ship : PurchaseStorageRelationship}
    (hship : ship ∈ s.ships) (amount : Int) :
    Ends NotDivision (payShip amount ship) s fun _ t =>
      Pays shelf bills (some ship.storageItemId) amount s t ∧
        ∀ other ∈ s.ships, other.id ≠ ship.id → other ∈ t.ships := by
  have hsave := ends_saveShip h { ship with payment := ship.payment + amount } hship rfl rfl rfl
  refine Ends.bind (Ends.mono hsave ?_)
  rintro - t ⟨hsaved, hships⟩
  have hadd := ends_addPayment (some ship.storageItemId) hsaved.shelved
    ship.purchaseItemId amount 0
  refine Ends.mono hadd ?_
  rintro - u ⟨hpaid, hsame⟩
  refine ⟨?_, fun other hother hne => ?_⟩
  · have htrans := hsaved.trans hpaid
    rw [zero_add] at htrans
    exact htrans
  · rw [hsame, hships, Table.mem_save_iff hship (by rfl)]
    exact .inr ⟨hother, hne⟩

theorem ends_payShips {ships : List PurchaseStorageRelationship} {storageItemId : Nat}
    {body : PurchaseStorageRelationship → SupplierTx Unit}
    {amount : PurchaseStorageRelationship → Int}
    (hbody : ∀ ship ∈ ships, ∀ t, (body ship).run t = (payShip (amount ship) ship).run t)
    (hnodup : (ships.map PurchaseStorageRelationship.id).Nodup)
    (hof : ∀ ship ∈ ships, ship.storageItemId = storageItemId) (h : Shelved shelf bills s)
    (hships : ∀ ship ∈ ships, ship ∈ s.ships) :
    Ends NotDivision (forEach ships body) s fun _ t =>
      Pays shelf bills (some storageItemId) (ships.map amount).sum s t := by
  induction ships generalizing s with
  | nil => exact Pays.refl h
  | cons ship rest ih =>
    rw [List.map_cons, List.nodup_cons] at hnodup
    rw [forEach_cons, List.map_cons, List.sum_cons]
    refine Ends.bind (Ends.of_run (hbody ship (List.mem_cons_self ..) s) ?_)
    refine Ends.mono (ends_payShip h (hships ship (List.mem_cons_self ..)) (amount ship)) ?_
    rintro - t ⟨hpaid, hothers⟩
    rw [hof ship (List.mem_cons_self ..)] at hpaid
    refine Ends.mono (ih (fun other hother => hbody other (List.mem_cons_of_mem _ hother))
      hnodup.2 (fun other hother => hof other (List.mem_cons_of_mem _ hother)) hpaid.shelved
      fun other hother => ?_) fun _ u hrest => hpaid.trans hrest
    refine hothers other (hships other (List.mem_cons_of_mem _ hother)) fun heq => ?_
    exact hnodup.1 (heq ▸ List.mem_map_of_mem hother)

/-! ## Payment items -/

def SupplierDb.goodsOf (s : SupplierDb) (item : PurchasePaymentItem) : Option PurchaseStorageItem :=
  item.storageItemId.bind s.storageItems.get?

def SupplierDb.parts (s : SupplierDb) (item : PurchasePaymentItem) : Nat :=
  match s.goodsOf item with
  | some storageItem => (s.shipsOf storageItem).length
  | none => 0

def PurchaseStorageRelationship.left (ship : PurchaseStorageRelationship) : Int :=
  ship.totalFee - ship.prepay - ship.payment

/-- Where a payment item is split whole at the confirmation: no relation is paid over, or, for
other payments, one relation has all of the pieces. -/
def Clear (s : SupplierDb) (payType : PayType) (item : PurchasePaymentItem) : Prop :=
  match payType, s.goodsOf item with
  | .prepaid, _ => True
  | _, none => True
  | .other, some storageItem =>
      (s.shipsOf storageItem ≠ [] → storageItem.storageNum ≠ 0) ∧
        (item.payment = 0 ∨ ∃ ship ∈ s.shipsOf storageItem,
          (s.shipsOf storageItem).filter (fun ship => ship.storageNum ≠ 0) = [ship] ∧
            ship.storageNum = storageItem.storageNum)
  | _, some storageItem =>
      item.payment = 0 ∨ if 0 < storageItem.unpayFee then
        ∀ ship ∈ s.shipsOf storageItem, 0 ≤ ship.left
      else 0 < item.payment

variable {item : PurchasePaymentItem} {storageItem : PurchaseStorageItem}

theorem goodsOf_eq_some (h : s.goodsOf item = some storageItem) :
    item.storageItemId = some storageItem.id ∧ storageItem ∈ s.storageItems := by
  obtain ⟨storageItemId, hid, hget⟩ := Option.bind_eq_some_iff.1 h
  obtain ⟨hmem, hpk⟩ := Table.get?_eq_some.1 hget
  exact ⟨hid.trans (congrArg some hpk.symm), hmem⟩

theorem mem_shipsOf {ship : PurchaseStorageRelationship} (h : ship ∈ s.shipsOf storageItem) :
    ship ∈ s.ships ∧ ship.storageItemId = storageItem.id := by
  obtain ⟨hmem, hof⟩ := List.mem_filter.1 h
  have hspec : ship.storageId = storageItem.purchaseStorageId ∧
      ship.storageItemId = storageItem.id := of_decide_eq_true hof
  exact ⟨hmem, hspec.2⟩

theorem nodup_shipsOf (s : SupplierDb) (storageItem : PurchaseStorageItem) :
    ((s.shipsOf storageItem).map PurchaseStorageRelationship.id).Nodup := by
  have hnodup : (s.ships.rows.map PurchaseStorageRelationship.id).Nodup :=
    s.ships.sorted.imp ne_of_lt
  exact hnodup.sublist (List.filter_sublist.map _)

theorem sum_left (h : Settled s) (hmem : storageItem ∈ s.storageItems) :
    ((s.shipsOf storageItem).map PurchaseStorageRelationship.left).sum =
      storageItem.totalFee - storageItem.prepay - storageItem.payment := by
  obtain ⟨hfee, hprepay, hpayment⟩ := h.storageItems storageItem hmem
  unfold SupplierDb.shipSum at hfee hprepay hpayment
  rw [← Table.sum_filter] at hfee hprepay hpayment
  rw [hfee, hprepay, hpayment]
  unfold SupplierDb.shipsOf
  induction s.ships.filter (ofStorageItem storageItem.purchaseStorageId storageItem.id) with
  | nil => rfl
  | cons ship rest ih =>
    simp only [List.map_cons, List.sum_cons, ih, PurchaseStorageRelationship.left]
    ring

theorem unpayFee_of_left {ship : PurchaseStorageRelationship} (h : 0 ≤ ship.left) :
    ship.unpayFee = ship.left := if_neg (not_lt.2 h)

theorem unpayFee_of_pos (h : 0 < storageItem.unpayFee) :
    storageItem.unpayFee = storageItem.totalFee - storageItem.prepay - storageItem.payment := by
  unfold PurchaseStorageItem.unpayFee at h ⊢
  dsimp only at h ⊢
  split
  · next hneg =>
      rw [if_pos hneg] at h
      exact absurd h (lt_irrefl 0)
  · rfl

def Confirms (shelf : List (Nat × Nat × Bool))
    (bills : Table PurchasePayment × Table PurchasePaymentItem) (item : PurchasePaymentItem)
    (s t : SupplierDb) : Prop :=
  ∃ amount, Pays shelf bills item.storageItemId amount s t ∧
    Within amount (s.parts item) item.payment

theorem ends_getStorageItem (item : PurchasePaymentItem) (s : SupplierDb) :
    Ends NotDivision (getStorageItem item) s fun storageItem t =>
      s.goodsOf item = some storageItem ∧ s = t := by
  refine Ends.getOr_bind notDivision_doesNotExist fun storageItemId hid => ?_
  refine Ends.getOr notDivision_doesNotExist fun storageItem hget => ⟨?_, rfl⟩
  unfold SupplierDb.goodsOf
  rw [hid]
  exact hget

theorem ends_confirmPrepay (h : Shelved shelf bills s) (item : PurchasePaymentItem) :
    Ends NotDivision (confirmPrepay item) s fun _ t => Confirms shelf bills item s t := by
  refine Ends.getOr_bind notDivision_doesNotExist fun itemId _ => ?_
  refine Ends.mono (ends_addPayment item.storageItemId h itemId item.payment item.payment) ?_
  rintro - t ⟨hpaid, -⟩
  exact ⟨item.payment, hpaid, within_intCast _ _⟩

theorem ends_confirmShips (h : Shelved shelf bills s) (hgoods : s.goodsOf item = some storageItem)
    {body : PurchaseStorageRelationship → SupplierTx Unit} (share : PurchaseStorageRelationship → ℚ)
    (hbody : ∀ ship ∈ s.shipsOf storageItem, ∀ t,
      (body ship).run t = (payShip (halfAway (share ship)) ship).run t)
    (hsum : ((s.shipsOf storageItem).map share).sum = item.payment) :
    Ends NotDivision (forEach (s.shipsOf storageItem) body) s fun _ t =>
      Confirms shelf bills item s t := by
  obtain ⟨hid, -⟩ := goodsOf_eq_some hgoods
  refine Ends.mono (ends_payShips hbody (nodup_shipsOf s storageItem)
    (fun ship hship => (mem_shipsOf hship).2) h fun ship hship => (mem_shipsOf hship).1) ?_
  intro _ t hpaid
  refine ⟨_, hid ▸ hpaid, ?_⟩
  have hwithin := within_sum ((s.shipsOf storageItem).map share)
  rw [List.map_map, List.length_map, hsum] at hwithin
  have hparts : s.parts item = (s.shipsOf storageItem).length := by
    unfold SupplierDb.parts
    rw [hgoods]
  rw [hparts]
  exact hwithin

theorem ends_confirmStorage (h : Shelved shelf bills s)
    (hclear : ∀ storageItem, s.goodsOf item = some storageItem →
      item.payment = 0 ∨ if 0 < storageItem.unpayFee then
        ∀ ship ∈ s.shipsOf storageItem, 0 ≤ ship.left else 0 < item.payment) :
    Ends NotDivision (confirmStorage item) s fun _ t => Confirms shelf bills item s t := by
  refine Ends.bind (Ends.mono (ends_getStorageItem item s) ?_)
  rintro storageItem _ ⟨hgoods, rfl⟩
  have hhow := hclear storageItem hgoods
  refine Ends.gets_bind (Ends.raiseIf_bind (fun _ => notDivision_wrongFee) fun hraise => ?_)
  refine Ends.ite (fun hunpaid => ?_) fun hunpaid => ?_
  · -- nothing is unpaid, and so the payment item is of nothing
    have hzero : item.payment = 0 := by
      rcases hhow with hzero | hhow
      · exact hzero
      · rw [if_neg (not_lt.2 hunpaid)] at hhow
        exact absurd ⟨hunpaid, hhow⟩ hraise
    refine ⟨0, Pays.refl h, ?_⟩
    rw [hzero]
    exact within_intCast 0 _
  · have hpos : 0 < storageItem.unpayFee := not_le.1 hunpaid
    have hne : (storageItem.unpayFee : ℚ) ≠ 0 := Int.cast_ne_zero.2 (ne_of_gt hpos)
    refine ends_confirmShips h hgoods (fun ship =>
      (ship.unpayFee : ℚ) / storageItem.unpayFee * item.payment) ?_ ?_
    · intro ship _ t
      rw [divide_bind_run, if_neg hne]
    · rcases hhow with hzero | hhow
      · simp [hzero]
      · rw [if_pos hpos] at hhow
        refine sum_proportional _ _ _ _ ?_ hne
        rw [← intCast_sum]
        have hsum := sum_left h.settled (goodsOf_eq_some hgoods).2
        have heach : (s.shipsOf storageItem).map PurchaseStorageRelationship.unpayFee =
            (s.shipsOf storageItem).map PurchaseStorageRelationship.left :=
          List.map_congr_left fun ship hship => unpayFee_of_left (hhow ship hship)
        rw [heach, hsum, unpayFee_of_pos hpos]

theorem ends_confirmOther (h : Shelved shelf bills s)
    (hone : item.purchaseId.isSome ∧ item.storageId = none ∨
      item.purchaseId = none ∧ item.storageId.isSome)
    (hclear : ∀ storageItem, s.goodsOf item = some storageItem →
      (s.shipsOf storageItem ≠ [] → storageItem.storageNum ≠ 0) ∧
        (item.payment = 0 ∨ ∃ ship ∈ s.shipsOf storageItem,
          (s.shipsOf storageItem).filter (fun ship => ship.storageNum ≠ 0) = [ship] ∧
            ship.storageNum = storageItem.storageNum)) :
    Ends NotDivision (confirmOther item) s fun _ t => Confirms shelf bills item s t := by
  unfold confirmOther
  rcases hone with ⟨hpurchase, hstorage⟩ | ⟨hpurchase, hstorage⟩
  · rw [if_pos hpurchase, hstorage, if_neg (by simp)]
    refine Ends.getOr_bind notDivision_doesNotExist fun itemId _ => ?_
    have hadd := ends_addPayment item.storageItemId h itemId item.payment 0
    refine Ends.bind (Ends.mono hadd ?_)
    rintro - t ⟨hpaid, -⟩
    exact Ends.pure ⟨item.payment, hpaid, within_intCast _ _⟩
  · rw [hpurchase, if_neg (by simp), if_pos hstorage]
    refine Ends.bind (Ends.mono (ends_getStorageItem item s) ?_)
    rintro storageItem _ ⟨hgoods, rfl⟩
    obtain ⟨hne, hhow⟩ := hclear storageItem hgoods
    apply Ends.gets_bind
    refine ends_confirmShips h hgoods (fun ship =>
      ((Int.fdiv ship.storageNum storageItem.storageNum * item.payment : Int) : ℚ)) ?_ ?_
    · intro ship hship t
      rw [divideInt_bind_run, if_neg (hne (List.ne_nil_of_mem hship))]
    · rw [← intCast_sum]
      congr 1
      rcases hhow with hzero | ⟨only, honly, hfilter, hnum⟩
      · simp [hzero]
      · have hnonzero : storageItem.storageNum ≠ 0 := hne (List.ne_nil_of_mem honly)
        have hparts : ∀ ship ∈ s.shipsOf storageItem,
            Int.fdiv ship.storageNum storageItem.storageNum * item.payment =
              if decide (ship.storageNum ≠ 0) = true then item.payment else 0 := by
          intro ship hship
          by_cases hzero : ship.storageNum = 0
          · simp [hzero]
          · have hmem : ship ∈ (s.shipsOf storageItem).filter fun ship => ship.storageNum ≠ 0 :=
              List.mem_filter.2 ⟨hship, decide_eq_true hzero⟩
            rw [hfilter, List.mem_singleton] at hmem
            rw [if_pos (decide_eq_true hzero), hmem, hnum, Int.fdiv_self hnonzero, one_mul]
        rw [List.map_congr_left hparts, sum_ite_zero, hfilter, List.map_singleton,
          List.sum_singleton]

structure Billed (shelf : List (Nat × Nat × Bool)) (items : List PurchasePaymentItem) : Prop where
  one : ∀ item ∈ items, item.purchaseId.isSome ∧ item.storageId = none ∨
    item.purchaseId = none ∧ item.storageId.isSome
  distinct : items.Pairwise fun a b => a.storageItemId ≠ none → a.storageItemId ≠ b.storageItemId

theorem ends_confirmItem (h : Shelved shelf bills s) {payType : PayType}
    (hone : item.purchaseId.isSome ∧ item.storageId = none ∨
      item.purchaseId = none ∧ item.storageId.isSome) (hclear : Clear s payType item) :
    Ends NotDivision (confirmItem payType item) s fun _ t => Confirms shelf bills item s t := by
  unfold Clear at hclear
  cases payType with
  | prepaid => exact ends_confirmPrepay h item
  | cod =>
    refine ends_confirmStorage h fun storageItem hgoods => ?_
    rw [hgoods] at hclear
    exact hclear
  | pod =>
    refine ends_confirmStorage h fun storageItem hgoods => ?_
    rw [hgoods] at hclear
    exact hclear
  | other =>
    refine ends_confirmOther h hone fun storageItem hgoods => ?_
    rw [hgoods] at hclear
    exact hclear

theorem Pays.goods {current : Option Nat} {amount : Int} (h : Pays shelf bills current amount s t)
    (hne : item.storageItemId ≠ none → item.storageItemId ≠ current) :
    t.goodsOf item = s.goodsOf item ∧
      ∀ storageItem, s.goodsOf item = some storageItem →
        t.shipsOf storageItem = s.shipsOf storageItem := by
  cases hid : item.storageItemId with
  | none =>
    refine ⟨by simp [SupplierDb.goodsOf, hid], fun storageItem hgoods => ?_⟩
    simp [SupplierDb.goodsOf, hid] at hgoods
  | some storageItemId =>
    have hother : some storageItemId ≠ current := by
      rw [← hid]
      exact hne (by simp [hid])
    refine ⟨?_, fun storageItem hgoods => ?_⟩
    · simp only [SupplierDb.goodsOf, hid, Option.bind_some]
      exact h.storageItems storageItemId hother
    · obtain ⟨hitem, -⟩ := goodsOf_eq_some hgoods
      have hsame : storageItemId = storageItem.id := Option.some.inj (hid.symm.trans hitem)
      exact h.ships storageItem.id (hsame ▸ hother) storageItem.purchaseStorageId

theorem Pays.clear {current : Option Nat} {amount : Int} (h : Pays shelf bills current amount s t)
    (hne : item.storageItemId ≠ none → item.storageItemId ≠ current)
    (payType : PayType) : (Clear t payType item ↔ Clear s payType item) ∧
      t.parts item = s.parts item := by
  obtain ⟨hgoods, hships⟩ := h.goods hne
  unfold Clear SupplierDb.parts
  rw [hgoods]
  cases hitem : s.goodsOf item with
  | none => cases payType <;> exact ⟨Iff.rfl, rfl⟩
  | some storageItem =>
    have hsame := hships storageItem hitem
    cases payType <;> simp only [hsame, and_self]

theorem ends_confirmItems {payType : PayType} {items : List PurchasePaymentItem}
    (hbilled : Billed shelf items) (h : Shelved shelf bills s)
    (hclear : ∀ item ∈ items, Clear s payType item) :
    Ends NotDivision (forEach items (confirmItem payType)) s fun _ t =>
      Shelved shelf bills t ∧ ∃ amount, t.paid = s.paid + amount ∧
        Within amount (items.map s.parts).sum
          (((items.map PurchasePaymentItem.payment).sum : Int) : ℚ) := by
  induction items generalizing s with
  | nil => exact ⟨h, 0, (add_zero _).symm, within_intCast 0 _⟩
  | cons item rest ih =>
    obtain ⟨hone, hdistinct⟩ := hbilled
    rw [List.pairwise_cons] at hdistinct
    have hfirst := ends_confirmItem h (hone item (List.mem_cons_self ..))
      (hclear item (List.mem_cons_self ..))
    rw [forEach_cons]
    refine Ends.bind (Ends.mono hfirst ?_)
    rintro - t ⟨amount, hpays, hwithin⟩
    have hother : ∀ other ∈ rest, other.storageItemId ≠ none →
        other.storageItemId ≠ item.storageItemId := by
      intro other hmem hsome heq
      exact hdistinct.1 other hmem (heq ▸ hsome) heq.symm
    have hrest := ih
      ⟨fun other hmem => hone other (List.mem_cons_of_mem _ hmem), hdistinct.2⟩ hpays.shelved
      fun other hmem => (hpays.clear (hother other hmem) payType).1.2
        (hclear other (List.mem_cons_of_mem _ hmem))
    refine Ends.mono hrest ?_
    rintro - u ⟨hshelved, amount', hpaid, hwithin'⟩
    refine ⟨hshelved, amount + amount', ?_, ?_⟩
    · rw [hpaid, hpays.paid, add_assoc]
    · have hparts : rest.map t.parts = rest.map s.parts :=
        List.map_congr_left fun other hmem =>
          (hpays.clear (hother other hmem) payType).2
      rw [List.map_cons, List.sum_cons, List.map_cons, List.sum_cons, ← hparts]
      rw [Int.cast_add]
      exact hwithin.add hwithin'

end ShopManager.Supplier
