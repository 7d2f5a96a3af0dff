import ShopManager.Library.Execution
import ShopManager.Warehouse.FirstCome

/-!
# Cancelled and sent items

Most writes of an item do not look at what it was before, and a package goes through all of
its items.  An item that is cancelled or sent stays so, and none is sent twice, as long as no
step reaches it by such a write.
-/

namespace ShopManager.Warehouse

open Library Library.Tx Library.Execution

inductive ItemOp where
  | prepareBook
  | booked (key : PurchaseKey)
  | virtualBooked (key : PurchaseKey) (package : Nat)
  | booked2Assigned
  | waitscan
  | waitpost
  | sent
  | finish
  | cancel
  | merge (package : Nat)
  | resetAssignPackage
  | finishThirdSend

def ItemOp.program (item : PackageSkuItem) : ItemOp → WarehouseTx Unit
  | .prepareBook => item.setStatusPrepareBook
  | .booked key => item.setStatusBooked key
  | .virtualBooked key package => item.setStatusVirtualBooked key package
  | .booked2Assigned => item.setStatusBooked2Assigned
  | .waitscan => item.setStatusWaitscan
  | .waitpost => item.setStatusWaitpost
  | .sent => item.setStatusSent
  | .finish => item.setStatusFinish
  | .cancel => item.setStatusCancel
  | .merge package => item.merge package
  | .resetAssignPackage => item.resetAssignPackage
  | .finishThirdSend => item.finishThirdSend

inductive PackageOp where
  | printPicking
  | scancheck
  | scanweight
  | finishScanWeight
  | finish
  | cancel

def PackageOp.program (package : Nat) : PackageOp → WarehouseTx Unit
  | .printPicking => PackageOrder.printPicking package
  | .scancheck => PackageOrder.scancheck package
  | .scanweight => PackageOrder.scanweight package
  | .finishScanWeight => PackageOrder.finishScanWeight package
  | .finish => PackageOrder.finish package
  | .cancel => PackageOrder.cancel package

/-- An operation on rows that are read when it starts. -/
inductive LifeOp where
  | create (order : PackageSkuItem.NewOrder)
  | item (id : Nat) (op : ItemOp)
  | package (pid : Nat) (op : PackageOp)
  | batchMerge (type : PsiType) (packageOf : Nat → Nat)

def LifeOp.program : LifeOp → WarehouseTx Unit
  | .create order => PackageSkuItem.create order
  | .item id op => do
      let item ← PackageSkuItem.get id
      op.program item
  | .package pid op => op.program pid
  | .batchMerge type packageOf => PackageSkuItem.batchMerge type packageOf

def LifeOp.exec (op : LifeOp) (s : WarehouseDb) : WarehouseDb := (op.program.run s).2

def Ended (item : PackageSkuItem) : Prop :=
  item.assignStatus = .canceled ∨ item.assignStatus = .finished

def Stays (s s' : WarehouseDb) : Prop :=
  ∀ item ∈ s.packageSkuItems, Ended item →
    ∃ item' ∈ s'.packageSkuItems, item'.id = item.id ∧ item'.assignStatus = item.assignStatus

/-- A cancelled item has the status for it, and each item was sent once at most. -/
structure LivesWell (s : WarehouseDb) : Prop where
  canceled : ∀ item ∈ s.packageSkuItems, item.assignStatus = .canceled → item.status = .cancel
  once : s.shipments.Nodup
  sent : ∀ id ∈ s.shipments, ∃ item ∈ s.packageSkuItems, item.id = id ∧
    item.assignStatus = .finished

def ItemOp.Fits (item : PackageSkuItem) : ItemOp → Prop
  | .prepareBook | .booked _ | .waitscan | .finish => item.assignStatus ≠ .canceled
  | .virtualBooked _ _ | .booked2Assigned | .waitpost | .sent => ¬ Ended item
  | .merge _ => item.assignStatus = .canceled → item.packageOrderId.isSome ∨ item.type = .byhand
  | .resetAssignPackage => item.assignStatus = .canceled → item.packageOrderId = none
  | .cancel | .finishThirdSend => True

/-- Where a write does not look at the status of an item, it reaches none that is cancelled or
sent. -/
def LifeOp.Fits (s : WarehouseDb) : LifeOp → Prop
  | .item id op => ∀ item ∈ s.packageSkuItems, item.id = id → op.Fits item
  | .package pid .printPicking =>
      ∀ item ∈ PackageOrder.packageSkuItems s pid, item.assignStatus ≠ .canceled
  | .package pid .scancheck => ∀ item ∈ PackageOrder.packageSkuItems s pid, ¬ Ended item
  | _ => True

/-! ## Writes -/

section Writes

variable {s s' : WarehouseDb} {item item' : PackageSkuItem}

def Calm (s s' : WarehouseDb) : Prop := LivesWell s → LivesWell s' ∧ Stays s s'

theorem Calm.trans {s'' : WarehouseDb} (h : Calm s s') (h' : Calm s' s'') : Calm s s'' := by
  intro hs
  obtain ⟨hs', hstays⟩ := h hs
  obtain ⟨hs'', hstays'⟩ := h' hs'
  refine ⟨hs'', fun item hitem hended => ?_⟩
  obtain ⟨item', hitem', hid, hassign⟩ := hstays item hitem hended
  have hended' : Ended item' := by
    unfold Ended
    rw [hassign]
    exact hended
  obtain ⟨item'', hitem'', hid', hassign'⟩ := hstays' item' hitem' hended'
  exact ⟨item'', hitem'', hid'.trans hid, hassign'.trans hassign⟩

/-- What a write may make of an item. -/
def Allowed (item item' : PackageSkuItem) : Prop :=
  (Ended item → item'.assignStatus = item.assignStatus) ∧
    (item'.assignStatus = .canceled → item'.status = .cancel)

theorem allowed_of_eq (h : item.assignStatus ≠ .canceled)
    (hsame : item'.assignStatus = item.assignStatus) : Allowed item item' :=
  ⟨fun _ => hsame, fun hcanceled => absurd (hsame.symm.trans hcanceled) h⟩

theorem allowed_of_live (h : ¬ Ended item) (hnew : item'.assignStatus ≠ .canceled) :
    Allowed item item' :=
  ⟨fun hended => absurd hended h, fun hcanceled => absurd hcanceled hnew⟩

/-- A write of rows, and the items that are sent with it. -/
theorem calm_of_update {p : PackageSkuItem → Bool} {f : PackageSkuItem → PackageSkuItem}
    {ids : List Nat} (hitems : s'.packageSkuItems = s.packageSkuItems.update p f)
    (hshipments : s'.shipments = s.shipments ++ ids) (hnodup : ids.Nodup)
    (h : ∀ item ∈ s.packageSkuItems, p item = true → Allowed item (f item))
    (hsent : ∀ id ∈ ids, ∃ item ∈ s.packageSkuItems, item.id = id ∧ p item = true ∧
      ¬ Ended item ∧ (f item).assignStatus = .finished) : Calm s s' := by
  have hkept : ∀ item ∈ s.packageSkuItems, ∃ item' ∈ s'.packageSkuItems, item'.id = item.id ∧
      (Ended item → item'.assignStatus = item.assignStatus) ∧
      (p item = true → item'.assignStatus = (f item).assignStatus) := by
    intro item hitem
    refine ⟨_, hitems ▸ Table.mem_update_of_mem hitem, ?_⟩
    by_cases hp : p item = true
    · rw [if_pos hp]
      exact ⟨rfl, (h item hitem hp).1, fun _ => rfl⟩
    · rw [if_neg hp]
      exact ⟨rfl, fun _ => rfl, fun hp' => absurd hp' hp⟩
  intro hs
  refine ⟨⟨fun item' hitem' hcanceled => ?_, ?_, fun id hid => ?_⟩, fun item hitem hended => ?_⟩
  · rw [hitems] at hitem'
    rcases Table.mem_update.1 hitem' with ⟨item, hitem, hp, rfl⟩ | ⟨hold, -⟩
    · exact (h item hitem hp).2 hcanceled
    · exact hs.canceled item' hold hcanceled
  · rw [hshipments]
    refine List.nodup_append.2 ⟨hs.once, hnodup, fun id hid id' hid' heq => ?_⟩
    obtain ⟨item, hitem, rfl, -, hlive, -⟩ := hsent id' hid'
    obtain ⟨row, hrow, hrowId, hfinished⟩ := hs.sent id hid
    obtain rfl := Table.pk_inj hrow hitem (hrowId.trans heq)
    exact hlive (.inr hfinished)
  · rw [hshipments] at hid
    rcases List.mem_append.1 hid with hold | hnew
    · obtain ⟨item, hitem, rfl, hfinished⟩ := hs.sent id hold
      obtain ⟨item', hitem', hid', hsame, -⟩ := hkept item hitem
      exact ⟨item', hitem', hid', (hsame (.inr hfinished)).trans hfinished⟩
    · obtain ⟨item, hitem, rfl, hp, -, hfinished⟩ := hsent id hnew
      obtain ⟨item', hitem', hid', -, hwritten⟩ := hkept item hitem
      exact ⟨item', hitem', hid', (hwritten hp).trans hfinished⟩
  · obtain ⟨item', hitem', hid, hsame, -⟩ := hkept item hitem
    exact ⟨item', hitem', hid, hsame hended⟩

/-- What a write to one item leaves of the others. -/
def Turn (id : Nat) (s s' : WarehouseDb) : Prop :=
  Calm s s' ∧ ∀ row ∈ s.packageSkuItems, row.id ≠ id → row ∈ s'.packageSkuItems

theorem Turn.trans {s'' : WarehouseDb} {id : Nat} (h : Turn id s s') (h' : Turn id s' s'') :
    Turn id s s'' :=
  ⟨h.1.trans h'.1, fun row hrow hne => h'.2 row (h.2 row hrow hne) hne⟩

theorem turn_of_save {ids : List Nat} (hitem : item ∈ s.packageSkuItems)
    (item' : PackageSkuItem) (hid : item'.id = item.id)
    (hitems : s'.packageSkuItems = s.packageSkuItems.save item')
    (hshipments : s'.shipments = s.shipments ++ ids) (h : Allowed item item')
    (hids : ids = [] ∨ ids = [item.id] ∧ ¬ Ended item ∧ item'.assignStatus = .finished) :
    Turn item.id s s' := by
  refine ⟨calm_of_update hitems hshipments ?_ (fun row hrow hp => ?_) fun id hid' => ?_,
    fun row hrow hne => ?_⟩
  · rcases hids with rfl | ⟨rfl, -⟩
    · exact List.nodup_nil
    · exact List.nodup_singleton _
  · obtain rfl := Table.pk_inj hrow hitem ((of_decide_eq_true hp).trans hid)
    exact h
  · rcases hids with rfl | ⟨rfl, hlive, hfinished⟩
    · cases hid'
    · exact ⟨item, hitem, (List.mem_singleton.1 hid').symm, decide_eq_true hid.symm, hlive,
        hfinished⟩
  · rw [hitems]
    exact (Table.mem_save_iff hitem hid.symm).2 (.inr ⟨hrow, fun heq => hne (heq.trans hid)⟩)

end Writes

/-! ## Programs -/

section Programs

variable {s s' : WarehouseDb} {item : PackageSkuItem}

def SameItems (s s' : WarehouseDb) : Prop :=
  s'.packageSkuItems = s.packageSkuItems ∧ s'.shipments = s.shipments

theorem SameItems.refl (s : WarehouseDb) : SameItems s s := ⟨rfl, rfl⟩

theorem SameItems.trans (s s' s'' : WarehouseDb) (h : SameItems s s') (h' : SameItems s' s'') :
    SameItems s s'' :=
  ⟨h'.1.trans h.1, h'.2.trans h.2⟩

theorem SameItems.turn (h : SameItems s s') (id : Nat) : Turn id s s' := by
  obtain ⟨hitems, hshipments⟩ := h
  refine ⟨fun hs => ⟨⟨?_, ?_, ?_⟩, fun item hitem _ => ⟨item, hitems ▸ hitem, rfl, rfl⟩⟩,
    fun row hrow _ => hitems ▸ hrow⟩
  · rw [hitems]
    exact hs.canceled
  · rw [hshipments]
    exact hs.once
  · rw [hitems, hshipments]
    exact hs.sent

theorem same_restat (key : PurchaseKey) : Keeps SameItems (PurchaseOrder.restat key) := by
  apply Keeps.modify
  intro s
  split
  · exact SameItems.refl s
  · exact ⟨rfl, rfl⟩

theorem same_cancel (pa : PurchaseArrangement) : Keeps SameItems pa.cancel := by
  unfold PurchaseArrangement.cancel
  apply Keeps.ite
  · exact Keeps.pure SameItems.refl ()
  · apply Keeps.bind SameItems.trans
    · exact fun _ => ⟨rfl, rfl⟩
    · intro _
      cases pa.purchaseOrderUnikey with
      | none => exact Keeps.pure SameItems.refl ()
      | some key =>
        apply Keeps.bind SameItems.trans (Keeps.gets SameItems.refl _)
        exact fun _ => Keeps.ite _ (same_restat key) (Keeps.pure SameItems.refl ())

/-- The purchase of an item is cancelled if it is not booked. -/
theorem same_cancelPurchase (item : PackageSkuItem) : Keeps SameItems (do
    let pa ← gets fun s => PurchaseArrangement.ofItem s item
    match pa with
    | none => pure ()
    | some pa => if pa.initialBook then pure () else pa.cancel) := by
  refine Keeps.bind SameItems.trans (Keeps.gets SameItems.refl _) fun pa => ?_
  cases pa with
  | none => exact Keeps.pure SameItems.refl ()
  | some pa => exact Keeps.ite _ (Keeps.pure SameItems.refl ()) (same_cancel pa)

theorem turn_of_raise {p : Prop} [Decidable p] {e : Exn} {m : WarehouseTx Unit} {id : Nat}
    (h : ¬ p → Turn id s (m.run s).2) : Turn id s ((raiseIf p e >>= fun _ => m).run s).2 := by
  rw [raiseIf_bind_run]
  split
  · exact (SameItems.refl s).turn id
  · next hp => exact h hp

theorem turn_write (hitem : item ∈ s.packageSkuItems) (item' : PackageSkuItem)
    (hid : item'.id = item.id) (h : Allowed item item')
    (hsame : SameItems { s with packageSkuItems := s.packageSkuItems.save item' } s') :
    Turn item.id s s' :=
  turn_of_save hitem item' hid hsame.1 (hsame.2.trans (List.append_nil _).symm) h (.inl rfl)

theorem turn_setStatusBooked2Assigned (hitem : item ∈ s.packageSkuItems) (h : ¬ Ended item) :
    Turn item.id s (item.setStatusBooked2Assigned.run s).2 := by
  have hstock : Keeps SameItems (SkuStock.setPsiBooked2Assigned item.skuId item.num) :=
    fun _ => ⟨rfl, rfl⟩
  refine turn_write hitem item.toAssigned rfl (allowed_of_live h nofun) ?_
  exact Keeps.bind SameItems.trans hstock (fun _ => same_cancelPurchase item) _

theorem turn_setStatusCancel (hitem : item ∈ s.packageSkuItems) :
    Turn item.id s (item.setStatusCancel.run s).2 := by
  unfold PackageSkuItem.setStatusCancel
  refine turn_of_raise fun hcanceled => turn_of_raise fun hfinished => ?_
  have hlive : ¬ Ended item := fun h => h.elim hcanceled hfinished
  have hsave : ∀ t, SameItems s t → Turn item.id s ((do
      item.toCancel.save
      SkuStock.setPsiCancel item.skuId item.status : WarehouseTx Unit).run t).2 := by
    intro t ht
    have hrest : Keeps SameItems (SkuStock.setPsiCancel item.skuId item.status) :=
      Keeps.ite _ (Keeps.pure SameItems.refl ()) fun _ => ⟨rfl, rfl⟩
    have hitem' : item ∈ t.packageSkuItems := ht.1 ▸ hitem
    have hallowed : Allowed item item.toCancel := ⟨fun hended => absurd hended hlive, fun _ => rfl⟩
    exact (ht.turn item.id).trans (turn_write hitem' item.toCancel rfl hallowed (hrest _))
  rw [gets_bind_run]
  split
  · exact hsave s (SameItems.refl s)
  · next pa _ =>
    split
    · exact hsave s (SameItems.refl s)
    · have hcancel := same_cancel pa s
      rw [bind_run]
      cases hrun : pa.cancel.run s with
      | mk res t =>
        rw [hrun] at hcancel
        cases res with
        | error e => exact hcancel.turn item.id
        | ok _ => exact hsave t hcancel

theorem turn_finishThirdSend (hitem : item ∈ s.packageSkuItems) :
    Turn item.id s (item.finishThirdSend.run s).2 := by
  unfold PackageSkuItem.finishThirdSend
  split
  · next hassign =>
    have hlive : ¬ Ended item := by
      rintro (h | h) <;> rw [h] at hassign <;> revert hassign <;> decide
    exact turn_of_save hitem item.toSent rfl (Table.update_eq_save hitem PackageSkuItem.toSent) rfl
      (allowed_of_live hlive nofun) (.inr ⟨rfl, hlive, rfl⟩)
  · exact (SameItems.refl s).turn item.id

theorem turn_item (hitem : item ∈ s.packageSkuItems) (op : ItemOp) (hfits : op.Fits item) :
    Turn item.id s ((op.program item).run s).2 := by
  cases op with
  | prepareBook =>
    exact turn_write hitem item.toPrepareBook rfl (allowed_of_eq hfits rfl) ⟨rfl, rfl⟩
  | booked key =>
    exact turn_write hitem (item.toBooked key) rfl (allowed_of_eq hfits rfl) ⟨rfl, rfl⟩
  | virtualBooked key package =>
    exact turn_write hitem (item.toVirtualBooked key _) rfl (allowed_of_live hfits nofun) ⟨rfl, rfl⟩
  | booked2Assigned => exact turn_setStatusBooked2Assigned hitem hfits
  | waitscan =>
    exact turn_write hitem item.toWaitscan rfl (allowed_of_eq hfits rfl) ⟨rfl, rfl⟩
  | waitpost =>
    exact turn_write hitem item.toWaitpost rfl (allowed_of_live hfits nofun) ⟨rfl, rfl⟩
  | sent =>
    exact turn_of_save hitem item.toSent rfl rfl rfl (allowed_of_live hfits nofun)
      (.inr ⟨rfl, hfits, rfl⟩)
  | finish =>
    have hallowed : Allowed item item.toFinish :=
      ⟨fun hended => (hended.resolve_left hfits).symm, nofun⟩
    exact turn_write hitem item.toFinish rfl hallowed ⟨rfl, rfl⟩
  | cancel => exact turn_setStatusCancel hitem
  | merge package =>
    unfold ItemOp.program PackageSkuItem.merge
    dsimp only
    split
    · exact (SameItems.refl s).turn item.id
    · next hnone =>
      have hallowed : item.type ≠ .byhand → Allowed item (item.toMerged package) := by
        intro htype
        refine allowed_of_eq (fun hcanceled => ?_) rfl
        exact (hfits hcanceled).elim hnone htype
      split
      case h_6 => exact (SameItems.refl s).turn item.id
      all_goals
        next htype =>
          exact turn_write hitem (item.toMerged package) rfl
            (hallowed (by rw [htype]; decide)) ⟨rfl, rfl⟩
  | resetAssignPackage =>
    refine turn_of_raise fun _ => ?_
    split
    · exact (SameItems.refl s).turn item.id
    · next hsome =>
      refine turn_write hitem item.toReset rfl (allowed_of_eq (fun hcanceled => ?_) rfl) ⟨rfl, rfl⟩
      exact hsome (Option.isNone_iff_eq_none.2 (hfits hcanceled))
  | finishThirdSend => exact turn_finishThirdSend hitem

/-- The items of a loop are different, so each is found as it was read. -/
theorem calm_forEach {method : PackageSkuItem → WarehouseTx Unit} {P : PackageSkuItem → Prop}
    (hturn : ∀ s item, item ∈ s.packageSkuItems → P item →
      Turn item.id s ((method item).run s).2) :
    ∀ (items : List PackageSkuItem) (s : WarehouseDb), (items.map Row.pk).Nodup →
      (∀ item ∈ items, item ∈ s.packageSkuItems ∧ P item) →
        Calm s ((forEach items method).run s).2 := by
  intro items
  induction items with
  | nil => exact fun s _ _ => ((SameItems.refl s).turn 0).1
  | cons item items ih =>
    intro s hnodup hitems
    obtain ⟨hnot, hnodup⟩ := List.nodup_cons.1 hnodup
    obtain ⟨hitem, hp⟩ := hitems item List.mem_cons_self
    have hone := hturn s item hitem hp
    rw [forEach_cons, bind_run]
    cases hrun : (method item).run s with
    | mk res t =>
      rw [hrun] at hone
      cases res with
      | error e => exact hone.1
      | ok _ =>
        refine hone.1.trans (ih t hnodup fun row hrow => ?_)
        obtain ⟨hold, hrowp⟩ := hitems row (List.mem_cons_of_mem item hrow)
        exact ⟨hone.2 row hold fun heq => hnot (List.mem_map.2 ⟨row, hrow, heq⟩), hrowp⟩

theorem calm_forItems {pid : Nat} {p : PackageSkuItem → Bool}
    {method : PackageSkuItem → WarehouseTx Unit} {P : PackageSkuItem → Prop}
    (hturn : ∀ s item, item ∈ s.packageSkuItems → P item →
      Turn item.id s ((method item).run s).2)
    (hitems : ∀ item ∈ PackageOrder.packageSkuItems s pid, p item = true → P item) :
    Calm s ((PackageOrder.forItems pid p method).run s).2 := by
  unfold PackageOrder.forItems
  rw [gets_bind_run]
  apply calm_forEach hturn
  · exact (List.filter_sublist.map Row.pk).nodup (Table.nodup_pk_filter _ _)
  · intro item hitem
    obtain ⟨hpackage, hp⟩ := List.mem_filter.1 hitem
    exact ⟨List.mem_of_mem_filter hpackage, hitems item hpackage hp⟩

theorem calm_package (pid : Nat) (op : PackageOp) (hfits : LifeOp.Fits s (.package pid op)) :
    Calm s ((op.program pid).run s).2 := by
  have hassigned : ∀ item ∈ PackageOrder.packageSkuItems s pid,
      decide (item.assignStatus = .assigned) = true → ¬ Ended item := by
    intro item _ hassign
    rintro (h | h) <;> rw [h] at hassign <;> cases hassign
  cases op with
  | printPicking =>
    exact calm_forItems (fun _ _ hitem hp => turn_item hitem .waitscan hp)
      fun item h _ => hfits item h
  | scancheck =>
    exact calm_forItems (fun _ _ hitem hp => turn_item hitem .waitpost hp)
      fun item h _ => hfits item h
  | scanweight => exact calm_forItems (fun _ _ hitem hp => turn_item hitem .sent hp) hassigned
  | finishScanWeight =>
    refine calm_forItems (fun s item hitem hp => ?_) hassigned
    have hturn := turn_item hitem .sent hp
    change Turn item.id s (item.setStatusSent.run s).2 at hturn
    rw [bind_run]
    generalize item.setStatusSent.run s = ran at hturn
    obtain ⟨res, t⟩ := ran
    cases res with
    | error e => exact hturn
    | ok _ =>
      have hraise : Keeps SameItems (raiseIf (item.type ∈ [PsiType.returnGoods, .returnOutOrder,
          .returnInferior]) .attributeError : WarehouseTx Unit) :=
        Keeps.raiseIf SameItems.refl _ _
      exact hturn.trans ((hraise t).turn item.id)
  | finish =>
    refine calm_forItems (fun _ _ hitem hp => turn_item hitem .finish hp) fun item _ hfinished => ?_
    intro hcanceled
    cases hcanceled.symm.trans (of_decide_eq_true hfinished)
  | cancel =>
    refine calm_of_update rfl (List.append_nil _).symm List.nodup_nil (fun item _ hp => ?_) nofun
    have hlive : ¬ Ended item := by
      obtain ⟨-, hassign⟩ := of_decide_eq_true hp
      rintro (h | h) <;> rw [h] at hassign <;> revert hassign <;> decide
    exact ⟨fun hended => absurd hended hlive, fun _ => rfl⟩

theorem Calm.refl (s : WarehouseDb) : Calm s s := ((SameItems.refl s).turn 0).1

theorem calm_batchMerge (type : PsiType) (packageOf : Nat → Nat) :
    Keeps Calm (PackageSkuItem.batchMerge type packageOf) := by
  have htrans : ∀ a b c : WarehouseDb, Calm a b → Calm b c → Calm a c := fun _ _ _ => Calm.trans
  refine Keeps.bind htrans (Keeps.gets Calm.refl _) fun psiIds => ?_
  refine Keeps.forEach Calm.refl htrans (fun psiId s => ?_) psiIds
  rw [gets_bind_run]
  split
  · exact Calm.refl s
  · next psi hpsi =>
    obtain ⟨hget, hassigned⟩ := Option.filter_eq_some_iff.1 hpsi
    intro hs
    have hitem := (Table.get?_eq_some.1 hget).1
    refine (turn_item hitem (.merge (packageOf psiId)) fun hcanceled => ?_).1 hs
    cases (hs.canceled psi hitem hcanceled).symm.trans (of_decide_eq_true hassigned)

theorem calm_insert (item : PackageSkuItem) (h : item.assignStatus ≠ .canceled)
    (hsame : SameItems { s with packageSkuItems := s.packageSkuItems.insert item } s') :
    Calm s s' := by
  refine Calm.trans (fun hs => ?_) (hsame.turn 0).1
  refine ⟨⟨fun row hrow hcanceled => ?_, hs.once, fun id hid => ?_⟩,
    fun row hrow _ => ⟨row, Table.mem_insert.2 (.inl hrow), rfl, rfl⟩⟩
  · rcases Table.mem_insert.1 hrow with hold | rfl
    · exact hs.canceled row hold hcanceled
    · exact absurd hcanceled h
  · obtain ⟨row, hrow, hrest⟩ := hs.sent id hid
    exact ⟨row, Table.mem_insert.2 (.inl hrow), hrest⟩

theorem calm_create (order : PackageSkuItem.NewOrder) :
    Calm s ((PackageSkuItem.create order).run s).2 := by
  have hbuy : ∀ item : PackageSkuItem, Keeps SameItems (do
      SkuStock.setPsiInitPaid item.skuId item.num
      PurchaseArrangement.create item) := by
    intro item
    refine Keeps.bind SameItems.trans (fun _ => ⟨rfl, rfl⟩) fun _ => ?_
    refine Keeps.bind SameItems.trans (Keeps.gets SameItems.refl _) fun key => ?_
    refine Keeps.bind SameItems.trans (Keeps.gets SameItems.refl _) fun taken => ?_
    exact Keeps.bind SameItems.trans (Keeps.raiseIf SameItems.refl _ _) fun _ _ => ⟨rfl, rfl⟩
  unfold PackageSkuItem.create SkuStock.get
  rw [gets_bind_run]
  split
  · exact calm_insert (PackageSkuItem.ofOrder order).toInitAssigned nofun ⟨rfl, rfl⟩
  · exact calm_insert (PackageSkuItem.ofOrder order) nofun (hbuy _ _)

theorem LifeOp.calm (op : LifeOp) (hfits : op.Fits s) : Calm s (op.exec s) := by
  cases op with
  | create order => exact calm_create order
  | item id op =>
    unfold exec program PackageSkuItem.get
    rw [getOr_bind_run]
    split
    · next item hget =>
      obtain ⟨hitem, hid⟩ := Table.get?_eq_some.1 hget
      exact (turn_item hitem op (hfits item hitem hid)).1
    · exact Calm.refl s
  | package pid op => exact calm_package pid op hfits
  | batchMerge type packageOf => exact calm_batchMerge type packageOf s

end Programs

/-- In a run whose writes fit, the items that are cancelled or sent stay so, and none is sent
twice. -/
theorem ended_items_stay (ops : List LifeOp) (s : WarehouseDb) (hs : LivesWell s)
    (hfits : Guarded LifeOp.exec LifeOp.Fits ops s) :
    Throughout LifeOp.exec LivesWell ops s ∧ Stepwise LifeOp.exec Stays ops s := by
  have hcalm : ∀ s (op : LifeOp), LivesWell s → op.Fits s →
      LivesWell (op.exec s) ∧ Stays s (op.exec s) := fun s op hs hop => op.calm hop hs
  exact ⟨throughout_of_guarded (fun s op hs hop => (hcalm s op hs hop).1) ops s hs hfits,
    stepwise_of_guarded (fun s op hs hop => (hcalm s op hs hop).2)
      (fun s op hs hop => (hcalm s op hs hop).1) ops s hs hfits⟩

/-- One order is packed and sent, the other one is cancelled. -/
theorem ended_items_stay_sent :
    Throughout LifeOp.exec LivesWell
        [.item 1 .booked2Assigned, .batchMerge .normal fun _ => 1, .package 1 .printPicking,
          .package 1 .scancheck, .package 1 .finishScanWeight, .item 2 .cancel,
          .package 1 .finish] SkuStock.oneFree ∧
      Stepwise LifeOp.exec Stays
        [.item 1 .booked2Assigned, .batchMerge .normal fun _ => 1, .package 1 .printPicking,
          .package 1 .scancheck, .package 1 .finishScanWeight, .item 2 .cancel,
          .package 1 .finish] SkuStock.oneFree := by
  apply ended_items_stay
  · exact ⟨by decide, List.nodup_nil, nofun⟩
  refine ⟨?_, trivial, ?_, ?_, trivial, fun _ _ _ => trivial, trivial, trivial⟩
  · change ∀ item ∈ SkuStock.oneFree.packageSkuItems.rows, item.id = 1 → ¬ (_ ∨ _)
    decide
  · change ∀ item ∈ PackageOrder.packageSkuItems _ 1, item.assignStatus ≠ .canceled
    decide +kernel
  · change ∀ item ∈ PackageOrder.packageSkuItems _ 1, ¬ (_ ∨ _)
    decide +kernel

end ShopManager.Warehouse
