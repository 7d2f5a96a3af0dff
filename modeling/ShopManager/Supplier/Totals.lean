import ShopManager.Supplier.Model

/-!
# Totals of supplier payments

A storage item carries the totals of its relations, a storage those of its items and a
purchase those of its items.  Every save keeps them so, because the handlers of the relations
and of the items run at each of them.
-/

namespace ShopManager.Supplier

open Library Library.Tx Library.Shares

def SupplierDb.Matches (s : SupplierDb) (item : PurchaseStorageItem) : Prop :=
  item.totalFee =
      s.shipSum item.purchaseStorageId item.id PurchaseStorageRelationship.totalFee ∧
    item.prepay = s.shipSum item.purchaseStorageId item.id PurchaseStorageRelationship.prepay ∧
    item.payment = s.shipSum item.purchaseStorageId item.id PurchaseStorageRelationship.payment

def SupplierDb.Places (s : SupplierDb) (storageId storageItemId : Nat) : Prop :=
  ∃ item ∈ s.storageItems, item.id = storageItemId ∧ item.purchaseStorageId = storageId

structure Settled (s : SupplierDb) : Prop where
  ships : ∀ ship ∈ s.ships, s.Places ship.storageId ship.storageItemId
  storageItems : ∀ item ∈ s.storageItems, s.Matches item
  storages : ∀ storage ∈ s.storages,
    storage.payment = s.storageSum storage.id PurchaseStorageItem.payment ∧
      storage.storageNum = s.storageSum storage.id PurchaseStorageItem.storageNum
  purchases : ∀ purchase ∈ s.purchases,
    purchase.payment = s.purchaseSum purchase.id PurchaseItem.payment ∧
      purchase.purchaseNum = s.purchaseSum purchase.id PurchaseItem.purchaseNum

variable {s : SupplierDb}

/-! ## Items of a purchase -/

theorem purchaseSum_save_other {item old : PurchaseItem} (hold : old ∈ s.items)
    (hid : old.id = item.id) (hpurchase : old.purchaseId = item.purchaseId) {purchaseId : Nat}
    (hne : purchaseId ≠ item.purchaseId) (column : PurchaseItem → Int) :
    SupplierDb.purchaseSum { s with items := s.items.save item } purchaseId column =
      s.purchaseSum purchaseId column := by
  have hnot : item.purchaseId ≠ purchaseId := Ne.symm hne
  exact Table.sum_save_of_eq hold hid (by simp [effectItem, hpurchase, hnot])

theorem Settled.putItem (h : Settled s) {item old : PurchaseItem} (hold : old ∈ s.items)
    (hid : old.id = item.id) (hpurchase : old.purchaseId = item.purchaseId) :
    Settled (putItem item s) := by
  refine ⟨h.ships, h.storageItems, h.storages, ?_⟩
  intro purchase hmem
  obtain ⟨before, hbefore, rfl⟩ := Table.exists_of_mem_update hmem
  by_cases heq : before.id = item.purchaseId
  · rw [if_pos (decide_eq_true heq)]
    exact ⟨rfl, rfl⟩
  · rw [if_neg (by simpa using heq)]
    obtain ⟨hpayment, hnum⟩ := h.purchases before hbefore
    have hother := purchaseSum_save_other hold hid hpurchase heq
    exact ⟨hpayment.trans (hother _).symm, hnum.trans (hother _).symm⟩

variable {item : PurchaseStorageItem}

theorem storageSum_save_other {old : PurchaseStorageItem} (hold : old ∈ s.storageItems)
    (hid : old.id = item.id) (hstorage : old.purchaseStorageId = item.purchaseStorageId)
    {storageId : Nat} (hne : storageId ≠ item.purchaseStorageId)
    (column : PurchaseStorageItem → Int) :
    SupplierDb.storageSum { s with storageItems := s.storageItems.save item } storageId column =
      s.storageSum storageId column := by
  have hnot : item.purchaseStorageId ≠ storageId := Ne.symm hne
  exact Table.sum_save_of_eq hold hid (by simp [normalItem, hstorage, hnot])

theorem Places.save {old : PurchaseStorageItem} (hold : old ∈ s.storageItems)
    (hid : old.id = item.id) (hstorage : old.purchaseStorageId = item.purchaseStorageId)
    {storageId storageItemId : Nat} (h : s.Places storageId storageItemId) :
    SupplierDb.Places { s with storageItems := s.storageItems.save item } storageId
      storageItemId := by
  obtain ⟨there, hthere, rfl, rfl⟩ := h
  by_cases heq : there.id = item.id
  · have hsame : there = old := Table.pk_inj hthere hold (heq.trans hid.symm)
    rw [hsame]
    exact ⟨item, Table.mem_save_self hold hid, hid.symm, hstorage.symm⟩
  · exact ⟨there, (Table.mem_save_iff hold hid).2 (.inr ⟨hthere, heq⟩), rfl, rfl⟩

variable {ships : Table PurchaseStorageRelationship}

theorem Settled.putStorageItem (h : Settled s)
    {old : PurchaseStorageItem} (hold : old ∈ s.storageItems) (hid : old.id = item.id)
    (hstorage : old.purchaseStorageId = item.purchaseStorageId)
    (hships : ∀ ship ∈ ships, s.Places ship.storageId ship.storageItemId)
    (hself : SupplierDb.Matches { s with ships := ships } item)
    (hothers : ∀ other ∈ s.storageItems, other.id ≠ item.id →
      SupplierDb.Matches { s with ships := ships } other) :
    Settled (putStorageItem item { s with ships := ships }) := by
  refine ⟨?_, ?_, ?_, h.purchases⟩
  · intro ship hship
    exact Places.save hold hid hstorage (hships ship hship)
  · intro other hother
    rcases Table.mem_save hother with rfl | ⟨hmem, hne⟩
    · exact hself
    · exact hothers other hmem hne
  · intro storage hmem
    obtain ⟨before, hbefore, rfl⟩ := Table.exists_of_mem_update hmem
    by_cases heq : before.id = item.purchaseStorageId
    · rw [if_pos (decide_eq_true heq)]
      exact ⟨rfl, rfl⟩
    · rw [if_neg (by simpa using heq)]
      obtain ⟨hpayment, hnum⟩ := h.storages before hbefore
      have hother := storageSum_save_other hold hid hstorage heq
      exact ⟨hpayment.trans (hother _).symm, hnum.trans (hother _).symm⟩

/-! ## Relations -/

structure OnlyShipsOf (s : SupplierDb) (ships : Table PurchaseStorageRelationship)
    (ship : PurchaseStorageRelationship) : Prop where
  place : s.Places ship.storageId ship.storageItemId
  keys : ∀ other ∈ ships, other ∈ s.ships ∨
    other.storageId = ship.storageId ∧ other.storageItemId = ship.storageItemId
  sums : ∀ storageId storageItemId, storageItemId ≠ ship.storageItemId → ∀ column,
    SupplierDb.shipSum { s with ships := ships } storageId storageItemId column =
      s.shipSum storageId storageItemId column

variable {ship : PurchaseStorageRelationship}

theorem OnlyShipsOf.save (h : Settled s) {old : PurchaseStorageRelationship}
    (hold : old ∈ s.ships) (hid : old.id = ship.id) (hstorage : old.storageId = ship.storageId)
    (hitem : old.storageItemId = ship.storageItemId) :
    OnlyShipsOf s (s.ships.save ship) ship where
  place := by
    rw [← hstorage, ← hitem]
    exact h.ships old hold
  keys := by
    intro other hother
    rcases Table.mem_save hother with rfl | ⟨hmem, -⟩
    · exact .inr ⟨rfl, rfl⟩
    · exact .inl hmem
  sums := by
    intro storageId storageItemId hne column
    have hnot : ship.storageItemId ≠ storageItemId := Ne.symm hne
    exact Table.sum_save_of_eq hold hid (by simp [ofStorageItem, hitem, hnot])

theorem OnlyShipsOf.insert (hplace : s.Places ship.storageId ship.storageItemId) :
    OnlyShipsOf s (s.ships.insert ship) (s.ships.stored ship) where
  place := hplace
  keys := by
    intro other hother
    rcases Table.mem_insert.1 hother with hmem | rfl
    · exact .inl hmem
    · exact .inr ⟨rfl, rfl⟩
  sums := by
    intro storageId storageItemId hne column
    have hnot : (s.ships.stored ship).storageItemId ≠ storageItemId := Ne.symm hne
    unfold SupplierDb.shipSum
    rw [Table.sum_insert, if_neg (by simp [ofStorageItem, hnot]), add_zero]

theorem OnlyShipsOf.found (h : OnlyShipsOf s ships ship) :
    ∃ item ∈ s.storageItems, s.storageItems.get? ship.storageItemId = some item ∧
      item.id = ship.storageItemId ∧ item.purchaseStorageId = ship.storageId := by
  obtain ⟨item, hmem, hid, hstorage⟩ := h.place
  exact ⟨item, hmem, Table.get?_eq_some.2 ⟨hmem, hid⟩, hid, hstorage⟩

theorem Settled.refreshed (h : Settled s) (honly : OnlyShipsOf s ships ship)
    (hitem : s.storageItems.get? ship.storageItemId = some item) :
    Settled (Supplier.putStorageItem (Supplier.refreshed { s with ships := ships } ship item)
      { s with ships := ships }) := by
  obtain ⟨found, hfound, hget, hid, hstorage⟩ := honly.found
  obtain rfl : found = item := Option.some.inj (hget.symm.trans hitem)
  refine h.putStorageItem hfound rfl rfl ?_ ?_ ?_
  · intro other hother
    rcases honly.keys other hother with hmem | ⟨hkey, hkey'⟩
    · exact h.ships other hmem
    · rw [hkey, hkey']
      exact honly.place
  · simp [Supplier.refreshed, SupplierDb.Matches, hid, hstorage]
  · intro other hother hne
    have hsums := honly.sums other.purchaseStorageId other.id (hid ▸ hne)
    obtain ⟨hfee, hprepay, hpayment⟩ := h.storageItems other hother
    exact ⟨hfee.trans (hsums _).symm, hprepay.trans (hsums _).symm,
      hpayment.trans (hsums _).symm⟩

/-! ## Saves

`Shelved shelf bills s` says that the totals are settled, which storage items there are, in
which storage and whether normal, and what the payments and their items are. -/

def SupplierDb.shelf (s : SupplierDb) : List (Nat × Nat × Bool) :=
  s.storageItems.rows.map fun item => (item.id, item.purchaseStorageId, item.normal)

def SupplierDb.bills (s : SupplierDb) : Table PurchasePayment × Table PurchasePaymentItem :=
  (s.payments, s.paymentItems)

structure Shelved (shelf : List (Nat × Nat × Bool))
    (bills : Table PurchasePayment × Table PurchasePaymentItem) (s : SupplierDb) : Prop where
  settled : Settled s
  shelf : s.shelf = shelf
  bills : s.bills = bills

variable {shelf : List (Nat × Nat × Bool)}
  {bills : Table PurchasePayment × Table PurchasePaymentItem}

theorem places_iff {storageId storageItemId : Nat} :
    s.Places storageId storageItemId ↔
      ∃ normal, (storageItemId, storageId, normal) ∈ s.shelf := by
  constructor
  · rintro ⟨item, hitem, rfl, rfl⟩
    exact ⟨item.normal, List.mem_map.2 ⟨item, hitem, rfl⟩⟩
  · rintro ⟨normal, h⟩
    obtain ⟨item, hitem, heq⟩ := List.mem_map.1 h
    simp only [Prod.mk.injEq] at heq
    exact ⟨item, hitem, heq.1, heq.2.1⟩

theorem shelf_putStorageItem {old : PurchaseStorageItem} (hold : old ∈ s.storageItems)
    (hid : old.id = item.id) (hstorage : old.purchaseStorageId = item.purchaseStorageId)
    (hnormal : old.normal = item.normal) : (putStorageItem item s).shelf = s.shelf :=
  Table.map_rows_save hold hid (by rw [← hid, ← hstorage, ← hnormal])

theorem preserves_savePurchaseItem {itemId : Nat} {f : SupplierDb → PurchaseItem → PurchaseItem}
    (hid : ∀ s item, (f s item).id = item.id)
    (hpurchase : ∀ s item, (f s item).purchaseId = item.purchaseId) :
    Preserves (Shelved shelf bills) (do
      let item ← getOr .doesNotExist fun s => s.items.get? itemId
      let s ← gets id
      PurchaseItem.save (f s item)) := by
  refine Preserves.getOr_bind fun s item h hitem => ?_
  obtain ⟨hmem, -⟩ := Table.get?_eq_some.1 hitem
  exact ⟨h.settled.putItem hmem (hid s item).symm (hpurchase s item).symm, h.shelf, h.bills⟩

theorem preserves_updateAddonNum (ship : PurchaseStorageRelationship) :
    Preserves (Shelved shelf bills) (updateAddonNum ship) :=
  preserves_savePurchaseItem (fun _ _ => rfl) fun _ _ => rfl

theorem updatePurchaseitemStorageAndFee_run
    (hitem : s.storageItems.get? ship.storageItemId = some item) :
    (updatePurchaseitemStorageAndFee ship).run s =
      (if ship.isAddon then updateAddonNum ship else pure ()).run
        (putStorageItem (refreshed s ship item) s) := by
  unfold updatePurchaseitemStorageAndFee
  rw [getOr_bind_run, hitem]
  rfl

theorem Shelved.updateShip (h : Shelved shelf bills s) (honly : OnlyShipsOf s ships ship) :
    Shelved shelf bills ((updatePurchaseitemStorageAndFee ship).run { s with ships := ships }).2 := by
  obtain ⟨item, hitem, hget, -, -⟩ := honly.found
  have hshelf : (putStorageItem (refreshed { s with ships := ships } ship item)
      { s with ships := ships }).shelf = s.shelf :=
    shelf_putStorageItem (s := { s with ships := ships }) hitem rfl rfl rfl
  have hsaved : Shelved shelf bills (putStorageItem (refreshed { s with ships := ships } ship item)
      { s with ships := ships }) :=
    ⟨h.settled.refreshed honly hget, hshelf.trans h.shelf, h.bills⟩
  rw [updatePurchaseitemStorageAndFee_run (s := { s with ships := ships }) hget]
  refine Preserves.ite (fun _ => ?_) (fun _ => ?_) _ hsaved
  · exact preserves_updateAddonNum ship
  · exact Preserves.pure ()

theorem Shelved.saveShip (h : Shelved shelf bills s) {old : PurchaseStorageRelationship}
    (hold : old ∈ s.ships) (hid : old.id = ship.id) (hstorage : old.storageId = ship.storageId)
    (hitem : old.storageItemId = ship.storageItemId) :
    Shelved shelf bills ((PurchaseStorageRelationship.save ship).run s).2 :=
  h.updateShip (OnlyShipsOf.save h.settled hold hid hstorage hitem)

theorem divide_bind_run {α : Type} (a b : ℚ) (f : ℚ → SupplierTx α) (s : SupplierDb) :
    (divide a b >>= f).run s =
      if b = 0 then (.error zeroDivisionError, s) else (f (a / b)).run s := by
  unfold divide
  by_cases hb : b = 0
  · simp [bind_run, hb]
  · simp [bind_run, hb]

theorem divideInt_bind_run {α : Type} (a b : Int) (f : Int → SupplierTx α) (s : SupplierDb) :
    (divideInt a b >>= f).run s =
      if b = 0 then (.error zeroDivisionError, s) else (f (Int.fdiv a b)).run s := by
  unfold divideInt
  by_cases hb : b = 0
  · simp [bind_run, hb]
  · simp [bind_run, hb]

theorem create_run (h : Shelved shelf bills s)
    (hplace : s.Places ship.storageId ship.storageItemId) (haddon : ship.isAddon = false) :
    ∃ s', (PurchaseStorageRelationship.create ship).run s = (.ok (s.ships.stored ship), s') ∧
      Shelved shelf bills s' ∧ s.ships.stored ship ∈ s'.ships := by
  have honly := OnlyShipsOf.insert hplace
  obtain ⟨item, -, hget, -, -⟩ := honly.found
  have hrun := updatePurchaseitemStorageAndFee_run
    (s := { s with ships := s.ships.insert ship }) hget
  have hstored : (s.ships.stored ship).isAddon = false := haddon
  rw [hstored] at hrun
  have hshelved := h.updateShip honly
  rw [hrun] at hshelved
  refine ⟨_, ?_, hshelved, Table.mem_insert.2 (.inr rfl)⟩
  unfold PurchaseStorageRelationship.create
  rw [gets_bind_run, modify_bind_run, bind_ok hrun]
  rfl

theorem Shelved.divideSave (h : Shelved shelf bills s)
    (hship : ship ∈ s.ships) {f : ℚ → PurchaseStorageRelationship} (hid : ∀ x, ship.id = (f x).id)
    (hstorage : ∀ x, ship.storageId = (f x).storageId)
    (hitem : ∀ x, ship.storageItemId = (f x).storageItemId) (a b : ℚ) (left : Int) :
    Shelved shelf bills ((do
      let x ← divide a b
      PurchaseStorageRelationship.save (f x)
      pure left : SupplierTx Int).run s).2 := by
  rw [divide_bind_run]
  split
  · exact h
  · have hsaved := h.saveShip hship (hid (a / b)) (hstorage (a / b)) (hitem (a / b))
    exact Preserves.after hsaved fun _ => Preserves.pure _

variable {storage : PurchaseStorage}

theorem preserves_distributeTo {storageItem : PurchaseStorageItem}
    (hplace : ∃ normal, (storageItem.id, storage.id, normal) ∈ shelf)
    (purchaseItem : PurchaseItem) (undistNum : Int) :
    Preserves (Shelved shelf bills) (distributeTo storage storageItem purchaseItem undistNum) := by
  unfold distributeTo
  refine Preserves.ite (fun _ => ?_) fun _ => Preserves.pure _
  refine Preserves.gets_bind fun s h => ?_
  dsimp only
  split
  · next ship hfound =>
      rw [pure_bind_run]
      refine h.divideSave (Table.mem_of_first hfound) ?_ ?_ ?_ _ _ _ <;> exact fun _ => rfl
  · next hfound =>
      have hnew : s.Places (newShip storage storageItem purchaseItem).storageId
          (newShip storage storageItem purchaseItem).storageItemId :=
        places_iff.2 (h.shelf ▸ hplace)
      obtain ⟨s', hrun, hshelved, hstored⟩ := create_run h hnew rfl
      rw [bind_ok hrun]
      refine hshelved.divideSave hstored ?_ ?_ ?_ _ _ _ <;> exact fun _ => rfl

theorem preserves_distributeOver {storageItem : PurchaseStorageItem}
    (hplace : ∃ normal, (storageItem.id, storage.id, normal) ∈ shelf)
    (purchaseItems : List PurchaseItem) (undistNum : Int) :
    Preserves (Shelved shelf bills) (distributeOver storage storageItem purchaseItems undistNum) := by
  induction purchaseItems generalizing undistNum with
  | nil => exact Preserves.pure _
  | cons purchaseItem rest ih =>
    refine Preserves.bind (preserves_distributeTo hplace purchaseItem undistNum) fun left => ?_
    exact Preserves.ite (fun _ => Preserves.pure _) fun _ => ih left

theorem preserves_distributeItem {storageItem : PurchaseStorageItem}
    (hplace : ∃ normal, (storageItem.id, storage.id, normal) ∈ shelf) (purchases : List Purchase) :
    Preserves (Shelved shelf bills) (distributeItem storage purchases storageItem) := by
  refine Preserves.gets_bind fun s h => ?_
  refine Preserves.ite (fun _ => ?_) (fun _ => Preserves.pure _) s h
  exact Preserves.bind (preserves_distributeOver hplace _ _) fun _ => Preserves.pure _

theorem preserves_distributeItems (purchases : List Purchase)
    {storageItems : List PurchaseStorageItem}
    (hplace : ∀ item ∈ storageItems, ∃ normal, (item.id, storage.id, normal) ∈ shelf) :
    Preserves (Shelved shelf bills) (distributeItems storage purchases storageItems) := by
  induction storageItems with
  | nil => exact Preserves.pure _
  | cons storageItem rest ih =>
    have hfirst := hplace storageItem (List.mem_cons_self ..)
    have hrest := ih fun item hitem => hplace item (List.mem_cons_of_mem _ hitem)
    refine Preserves.bind (preserves_distributeItem hfirst purchases) fun _ => ?_
    exact Preserves.bind hrest fun _ => Preserves.pure _

theorem mem_shelf_of_normal {storageId : Nat}
    (h : item ∈ s.normalStorageItems storageId) : (item.id, storageId, true) ∈ s.shelf := by
  obtain ⟨hmem, hnormal⟩ := List.mem_filter.1 h
  have hspec : item.purchaseStorageId = storageId ∧ item.normal := of_decide_eq_true hnormal
  refine List.mem_map.2 ⟨item, hmem, ?_⟩
  rw [hspec.1, hspec.2]

theorem preserves_distributeStorageNum (storage : PurchaseStorage) :
    Preserves (Shelved shelf bills) (distributeStorageNum storage) := by
  refine Preserves.ite (fun _ => Preserves.pure _) fun _ => ?_
  refine Preserves.gets_bind fun s h => ?_
  refine preserves_distributeItems _ (fun item hitem => ?_) s h
  exact ⟨true, h.shelf ▸ mem_shelf_of_normal hitem⟩

end ShopManager.Supplier
