import Mathlib.Algebra.Order.Group.Int
import ShopManager.Outware.Delivery.Model

/-!
# What dividing a package conserves

The first item of each SKU that is asked for leaves whole, and the later ones of them with the
quantity that was asked of the first SKU.  The part is what was asked for only where each
quantity is all of such an item.
-/

namespace ShopManager.Outware.Delivery

open Library Library.Tx

def DeliveryDb.lying (id skuId : String) (s : DeliveryDb) : Int :=
  s.packageSkuItems.sum fun item =>
    if item.packageOrderId = some id ∧ item.skuId = skuId then item.num else 0

namespace PackageOrder

/-- `part` is new and holds what was asked for, and the package the rest. -/
structure Parted (skuDict : Dict) (package part : PackageOrder) (s t : DeliveryDb) : Prop where
  new : ∀ p ∈ s.packageOrders, p.pid ≠ part.pid
  stored : part ∈ t.packageOrders
  asked : ∀ skuId, t.lying part.id skuId = skuDict.get skuId
  conserved : ∀ skuId, t.lying package.id skuId + t.lying part.id skuId = s.lying package.id skuId
  items : ∀ item ∈ s.packageSkuItems, item.packageOrderId = some package.id →
    ∃ item' ∈ t.packageSkuItems, item'.id = item.id ∧
      (item'.packageOrderId = some package.id ∨ item'.packageOrderId = some part.id)

def TooMuch (skuDict : Dict) (package : PackageOrder) (s : DeliveryDb) : Prop :=
  ∃ skuId, s.lying package.id skuId < skuDict.get skuId

structure Conserves (outside : Outside) (skuDict : Dict) (package : PackageOrder)
    (s : DeliveryDb) : Prop where
  refuses : TooMuch skuDict package s →
    ∃ e, (package.divide outside skuDict).run s = (.error e, s)
  divides : ¬ TooMuch skuDict package s →
    (package.divide outside skuDict).run s = (.ok none, s) ∨
      ∃ part t, (package.divide outside skuDict).run s = (.ok (some part), t) ∧
        Parted skuDict package part s t

/-! ## What a request takes out of a package -/

def oriSkuDict (package : PackageOrder) (s : DeliveryDb) : Dict :=
  Dict.ofPairs ((packageSkuItems package s).map fun item => (item.skuId, item.num))

/-- `sku_ids`, in the order of the set. -/
def skuIds (outside : Outside) (skuDict : Dict) (package : PackageOrder) (s : DeliveryDb) :
    List String :=
  outside.setOrder ((oriSkuDict package s).keys.filter fun key => key ∈ skuDict.keys)

def firstItem (package : PackageOrder) (skuId : String) (s : DeliveryDb) :
    Option PackageSkuItem :=
  (packageSkuItems package s).find? fun item => item.skuId = skuId

def leaving (skuDict : Dict) (package : PackageOrder) (s : DeliveryDb) (skuId : String) : Int :=
  if skuId ∈ skuDict.keys then ((firstItem package skuId s).map PackageSkuItem.num).getD 0 else 0

/-- What arrives of it, `key` being the first SKU that is asked for. -/
def arriving (skuDict : Dict) (package : PackageOrder) (key : String) (s : DeliveryDb)
    (skuId : String) : Int :=
  if skuId = key then leaving skuDict package s skuId
  else if skuId ∈ skuDict.keys then skuDict.get key
  else 0

/-- The number of the package that `gen_package` looks for. -/
def newId (psi : PackageSkuItem) (s : DeliveryDb) : Option String :=
  match s.saleOrders.get? psi.saleOrder,
      s.productSkus.first fun sku => toString sku.id = psi.skuId with
  | some order, some sku =>
      if order.buyerId = 0 ∨ order.userAddressId = 0 ∨ sku.wareBy = 0 then none
      else some (genNewPackageId order.buyerId order.userAddressId sku.wareBy "" true s)
  | _, _ => none

/-- The items that leave are what was asked for, and they get a package of their own.  An item
that is no sale gets none; alone, and sent, it is left as it is. -/
def Cut (outside : Outside) (skuDict : Dict) (package : PackageOrder) (s : DeliveryDb) : Prop :=
  (∀ key ∈ skuDict.keys, key ∈ (oriSkuDict package s).keys) ∧
  ∃ key rest psi, skuIds outside skuDict package s = key :: rest ∧
    firstItem package key s = some psi ∧
    ((psi.type = .normal ∧ ∃ id, newId psi s = some id ∧
        (∀ p ∈ s.packageOrders, p.id ≠ id) ∧
        ∀ skuId, leaving skuDict package s skuId = skuDict.get skuId ∧
          s.lying id skuId + arriving skuDict package key s skuId = skuDict.get skuId) ∨
      (psi.type ≠ .normal ∧ psi.assignStatus = .finished ∧ rest = []))

structure Divisible (outside : Outside) (skuDict : Dict) (package : PackageOrder)
    (s : DeliveryDb) : Prop where
  refused : (∃ pair ∈ oriSkuDict package s, pair.2 < skuDict.get pair.1) →
    TooMuch skuDict package s
  passed : (∀ pair ∈ oriSkuDict package s, skuDict.get pair.1 = 0 ∧ 0 ≤ pair.2) →
    ¬ TooMuch skuDict package s
  cut : (∀ pair ∈ oriSkuDict package s, skuDict.get pair.1 ≤ pair.2) →
    (∃ pair ∈ oriSkuDict package s, skuDict.get pair.1 ≠ 0) →
      ¬ TooMuch skuDict package s ∧ Cut outside skuDict package s

end PackageOrder

namespace Dict

theorem get_of_not_mem {dict : Dict} {key : String} (h : key ∉ dict.keys) : dict.get key = 0 := by
  have hnone : dict.lookup key = none := by
    rw [List.lookup_eq_none_iff]
    intro pair hpair
    have hne : key ≠ pair.1 := by
      rintro rfl
      exact h (List.mem_map_of_mem hpair)
    simpa using hne
  unfold get
  rw [hnone]
  rfl

theorem mem_keys_of_get {dict : Dict} {key : String} (h : dict.get key ≠ 0) : key ∈ dict.keys := by
  by_contra hkey
  exact h (get_of_not_mem hkey)

theorem mem_of_mem_set {key : String} {value : Int} {pair : String × Int} {dict : Dict}
    (h : pair ∈ set key value dict) : pair = (key, value) ∨ pair ∈ dict := by
  induction dict with
  | nil => exact Or.inl (List.mem_singleton.mp h)
  | cons head dict ih =>
    unfold set at h
    split at h
    · next heq =>
      rcases List.mem_cons.mp h with rfl | hmem
      · left
        rw [heq]
      · exact Or.inr (List.mem_cons_of_mem _ hmem)
    · rcases List.mem_cons.mp h with rfl | hmem
      · exact Or.inr List.mem_cons_self
      · exact (ih hmem).imp_right (List.mem_cons_of_mem _)

theorem mem_keys_set {key key' : String} {value : Int} {dict : Dict} :
    key' ∈ keys (set key value dict) ↔ key' = key ∨ key' ∈ keys dict := by
  induction dict with
  | nil => simp [set, keys]
  | cons head dict ih =>
    unfold keys at *
    unfold set
    split
    · next heq =>
      subst heq
      simp
    · rw [List.map_cons, List.mem_cons, ih, List.map_cons, List.mem_cons]
      exact or_left_comm

theorem nodup_keys_set {key : String} {value : Int} {dict : Dict} (h : (keys dict).Nodup) :
    (keys (set key value dict)).Nodup := by
  induction dict with
  | nil => exact List.nodup_singleton key
  | cons head dict ih =>
    have hcons := List.nodup_cons.mp h
    unfold set
    split
    · exact h
    · next hne =>
      refine List.nodup_cons.mpr ⟨?_, ih hcons.2⟩
      intro hmem
      exact (mem_keys_set.mp hmem).elim hne hcons.1

section OfPairs

variable {pairs : List (String × Int)}

theorem mem_of_mem_ofPairs {pair : String × Int} (h : pair ∈ ofPairs pairs) : pair ∈ pairs := by
  have hfold : ∀ (rest : List (String × Int)) (dict : Dict),
      pair ∈ rest.foldl (fun dict pair => set pair.1 pair.2 dict) dict →
        pair ∈ dict ∨ pair ∈ rest := by
    intro rest
    induction rest with
    | nil => exact fun dict hmem => Or.inl hmem
    | cons head rest ih =>
      intro dict hmem
      rcases ih _ hmem with hset | hrest
      · rcases mem_of_mem_set hset with rfl | hdict
        · exact Or.inr List.mem_cons_self
        · exact Or.inl hdict
      · exact Or.inr (List.mem_cons_of_mem _ hrest)
  exact (hfold pairs [] h).elim (fun hnil => absurd hnil List.not_mem_nil) fun hmem => hmem

theorem mem_keys_ofPairs {key : String} :
    key ∈ keys (ofPairs pairs) ↔ ∃ pair ∈ pairs, pair.1 = key := by
  have hfold : ∀ (rest : List (String × Int)) (dict : Dict),
      key ∈ keys (rest.foldl (fun dict pair => set pair.1 pair.2 dict) dict) ↔
        key ∈ keys dict ∨ ∃ pair ∈ rest, pair.1 = key := by
    intro rest
    induction rest with
    | nil => simp
    | cons head rest ih =>
      intro dict
      rw [List.foldl_cons, ih, mem_keys_set, List.exists_mem_cons_iff, eq_comm]
      exact or_assoc.trans or_left_comm
  rw [ofPairs, hfold]
  simp [keys]

theorem nodup_keys_ofPairs : (keys (ofPairs pairs)).Nodup := by
  have hfold : ∀ (rest : List (String × Int)) (dict : Dict), (keys dict).Nodup →
      (keys (rest.foldl (fun dict pair => set pair.1 pair.2 dict) dict)).Nodup := by
    intro rest
    induction rest with
    | nil => exact fun dict hdict => hdict
    | cons head rest ih => exact fun dict hdict => ih _ (nodup_keys_set hdict)
  exact hfold pairs [] List.nodup_nil

end OfPairs

end Dict

namespace PackageOrder

variable {skuDict dict : Dict}

theorem leave_error (h : ∃ pair ∈ dict, pair.2 < skuDict.get pair.1) :
    leave skuDict dict = .error (.exception "num") := by
  induction dict with
  | nil => simp at h
  | cons head dict ih =>
    unfold leave
    by_cases hhead : head.2 - skuDict.get head.1 < 0
    · rw [if_pos hhead]
    · rw [if_neg hhead]
      obtain ⟨pair, hpair, hlt⟩ := h
      rcases List.mem_cons.mp hpair with rfl | hmem
      · omega
      · rw [ih ⟨pair, hmem, hlt⟩]

theorem leave_ok (h : ∀ pair ∈ dict, skuDict.get pair.1 ≤ pair.2) :
    leave skuDict dict = .ok (dict.map fun pair => (pair.1, pair.2 - skuDict.get pair.1)) := by
  induction dict with
  | nil => rfl
  | cons head dict ih =>
    have hhead := h head List.mem_cons_self
    unfold leave
    rw [if_neg (by omega), ih fun pair hpair => h pair (List.mem_cons_of_mem _ hpair)]
    rfl

theorem left_eq_iff :
    dict.map (fun pair => (pair.1, pair.2 - skuDict.get pair.1)) = dict ↔
      ∀ pair ∈ dict, skuDict.get pair.1 = 0 := by
  induction dict with
  | nil => simp
  | cons head dict ih =>
    rw [List.map_cons, List.cons_eq_cons, ih, List.forall_mem_cons, Prod.ext_iff]
    exact and_congr_left fun _ => ⟨fun h => by simpa using h.2, fun h => by simp [h]⟩

theorem keys_left (skuDict dict : Dict) :
    Dict.keys (dict.map fun pair => (pair.1, pair.2 - skuDict.get pair.1)) = dict.keys := by
  unfold Dict.keys
  rw [List.map_map]
  rfl

end PackageOrder

/-! ## One item leaves -/

namespace PackageSkuItem

/-- The item after `clear_order_info`. -/
def cleared (item : PackageSkuItem) : PackageSkuItem :=
  if item.assignStatus = .finished then item
  else { item with
    status := .assigned
    packageOrderId := none
    packageOrderPid := none
    logisticsCompanyCode := ""
    outSid := "" }

def into (pid : Nat) (id : String) (item : PackageSkuItem) : PackageSkuItem :=
  { item.cleared with
    packageOrderPid := some pid
    packageOrderId := some id }

section

variable (item : PackageSkuItem)

@[simp] theorem cleared_id : item.cleared.id = item.id := by
  unfold cleared
  split <;> rfl

@[simp] theorem cleared_skuId : item.cleared.skuId = item.skuId := by
  unfold cleared
  split <;> rfl

@[simp] theorem cleared_num : item.cleared.num = item.num := by
  unfold cleared
  split <;> rfl

@[simp] theorem cleared_type : item.cleared.type = item.type := by
  unfold cleared
  split <;> rfl

@[simp] theorem cleared_saleOrder : item.cleared.saleOrder = item.saleOrder := by
  unfold cleared
  split <;> rfl

theorem cleared_of_finished {item : PackageSkuItem} (h : item.assignStatus = .finished) :
    item.cleared = item := if_pos h

end

theorem clear_attach_run (part : PackageOrder) (item : PackageSkuItem) (s : DeliveryDb) :
    (do
      let psi ← item.clearOrderInfo
      psi.attach (some part) : DeliveryTx Unit).run s =
        (.ok (), { s with
          packageSkuItems := s.packageSkuItems.save (item.into part.pid part.id) }) := by
  unfold clearOrderInfo into cleared
  by_cases hfinished : item.assignStatus = .finished
  · rw [if_pos hfinished, if_pos hfinished]
    rfl
  · rw [if_neg hfinished, if_neg hfinished]
    change (Except.ok (), { s with
      packageSkuItems := (s.packageSkuItems.save _).save _ }) = _
    rw [Table.save_save (by rfl)]

theorem clearOrderInfo_run {item : PackageSkuItem} {s : DeliveryDb}
    (h : item ∈ s.packageSkuItems) :
    item.clearOrderInfo.run s = (.ok item.cleared, { s with
      packageSkuItems := s.packageSkuItems.save item.cleared }) := by
  unfold clearOrderInfo cleared
  split
  · rw [Table.save_of_mem h]
    rfl
  · rfl

end PackageSkuItem

namespace PackageOrder

variable {package part : PackageOrder} {skuDict : Dict} {s t : DeliveryDb} {id skuId key : String}
  {psi : PackageSkuItem}

theorem firstItem_spec (h : firstItem package skuId s = some psi) :
    psi ∈ s.packageSkuItems ∧ psi.packageOrderId = some package.id ∧ psi.skuId = skuId := by
  have hmem := List.mem_filter.mp (List.mem_of_find?_eq_some h)
  exact ⟨hmem.1, of_decide_eq_true hmem.2, by simpa using List.find?_some h⟩

theorem firstItem_eq_first (package : PackageOrder) (skuId : String) (s : DeliveryDb) :
    firstItem package skuId s = s.packageSkuItems.first fun item =>
      decide (decide (item.packageOrderId = some package.id) = true ∧
        decide (item.skuId = skuId) = true) :=
  List.find?_filter

theorem firstOf_run (h : firstItem package skuId s = some psi) :
    (firstOf package skuId).run s = (.ok psi, s) := getOr_some h

def lies (id skuId : String) (item : PackageSkuItem) : Int :=
  if item.packageOrderId = some id ∧ item.skuId = skuId then item.num else 0

section Lies

variable {item : PackageSkuItem}

theorem lies_at (hid : item.packageOrderId = some id) (hsku : item.skuId = skuId) :
    lies id skuId item = item.num := if_pos ⟨hid, hsku⟩

theorem lies_elsewhere (hid : item.packageOrderId ≠ some id) : lies id skuId item = 0 :=
  if_neg fun h => hid h.1

theorem lies_other (hsku : item.skuId ≠ skuId) : lies id skuId item = 0 :=
  if_neg fun h => hsku h.2

theorem lying_save (hpsi : psi ∈ s.packageSkuItems) (hpk : item.id = psi.id)
    (ht : t.packageSkuItems = s.packageSkuItems.save item) :
    t.lying id skuId = s.lying id skuId - lies id skuId psi + lies id skuId item := by
  unfold DeliveryDb.lying
  rw [ht]
  exact Table.sum_save hpsi hpk.symm (lies id skuId)

end Lies

structure Carried (skuDict : Dict) (package : PackageOrder) (id : String) (arrives : String → Int)
    (done : List String) (s t : DeliveryDb) : Prop where
  left : ∀ skuId, t.lying package.id skuId =
    s.lying package.id skuId - if skuId ∈ done then leaving skuDict package s skuId else 0
  there : ∀ skuId, t.lying id skuId =
    s.lying id skuId + if skuId ∈ done then arrives skuId else 0
  first : ∀ skuId, skuId ∉ done → firstItem package skuId t = firstItem package skuId s
  items : ∀ item ∈ s.packageSkuItems, item.packageOrderId = some package.id →
    ∃ item' ∈ t.packageSkuItems, item'.id = item.id ∧
      (item'.packageOrderId = some package.id ∨ item'.packageOrderId = some id)

namespace Carried

variable {arrives : String → Int} {done : List String}

theorem refl (skuDict : Dict) (package : PackageOrder) (id : String) (arrives : String → Int)
    (s : DeliveryDb) :
    Carried skuDict package id arrives [] s s where
  left _ := by simp
  there _ := by simp
  first _ _ := rfl
  items item hitem hid := ⟨item, hitem, rfl, Or.inl hid⟩

theorem step (h : Carried skuDict package id arrives done s t) (hid : id ≠ package.id)
    (hdone : key ∉ done) (hkey : key ∈ skuDict.keys) (hpsi : firstItem package key s = some psi)
    (item : PackageSkuItem) (hpk : item.id = psi.id) (hsku : item.skuId = key)
    (hin : item.packageOrderId = some id) (hnum : item.num = arrives key) (t' : DeliveryDb)
    (ht' : t'.packageSkuItems = t.packageSkuItems.save item) :
    Carried skuDict package id arrives (key :: done) s t' := by
  have hpsi' : firstItem package key t = some psi := by rw [h.first key hdone, hpsi]
  obtain ⟨hmem, hpsiIn, hpsiSku⟩ := firstItem_spec hpsi'
  have hpsiOut : psi.packageOrderId ≠ some id := by
    rw [hpsiIn]
    exact fun heq => hid (Option.some.inj heq).symm
  have hitemOut : item.packageOrderId ≠ some package.id := by
    rw [hin]
    exact fun heq => hid (Option.some.inj heq)
  have hleaving : leaving skuDict package s key = psi.num := by
    unfold leaving
    rw [if_pos hkey, hpsi]
    rfl
  constructor
  · intro skuId
    rw [lying_save hmem hpk ht', h.left skuId, lies_elsewhere hitemOut]
    by_cases heq : skuId = key
    · subst heq
      rw [lies_at hpsiIn hpsiSku, if_neg hdone, if_pos List.mem_cons_self, hleaving]
      omega
    · have hiff : skuId ∈ key :: done ↔ skuId ∈ done := by simp [heq]
      have hother : psi.skuId ≠ skuId := fun hsame => heq (hsame.symm.trans hpsiSku)
      rw [lies_other hother, if_congr hiff rfl rfl]
      omega
  · intro skuId
    rw [lying_save hmem hpk ht', h.there skuId, lies_elsewhere hpsiOut]
    by_cases heq : skuId = key
    · subst heq
      rw [lies_at hin hsku, if_neg hdone, if_pos List.mem_cons_self, hnum]
      omega
    · have hiff : skuId ∈ key :: done ↔ skuId ∈ done := by simp [heq]
      have hother : item.skuId ≠ skuId := fun hsame => heq (hsame.symm.trans hsku)
      rw [lies_other hother, if_congr hiff rfl rfl]
      omega
  · intro skuId hskuId
    have hother : key ≠ skuId := (List.ne_of_not_mem_cons hskuId).symm
    rw [← h.first skuId (List.not_mem_of_not_mem_cons hskuId), firstItem_eq_first, firstItem_eq_first, ht']
    refine Table.first_save_other hmem hpk.symm ?_ ?_
    · simp [hitemOut]
    · simp [hpsiSku, hother]
  · intro old hold holdIn
    obtain ⟨item', hitem', hsame, hplace⟩ := h.items old hold holdIn
    by_cases heq : item'.id = item.id
    · refine ⟨item, ?_, heq.symm.trans hsame, Or.inr hin⟩
      rw [ht']
      exact Table.mem_save_self hitem' heq
    · refine ⟨item', ?_, hsame, hplace⟩
      rw [ht']
      exact (Table.mem_save_iff hmem hpk.symm).mpr (Or.inr ⟨hitem', heq⟩)

end Carried

section GenPackage

def named (id : String) : PackageOrder where
  pid := 0
  id := id
  sysStatus := .waitPrepareSend
  isPickingPrint := false
  outSid := ""
  logisticsCompany := none

theorem genPackage_none (htype : psi.type = .normal) (hnew : newId psi s = none) :
    ∃ e, psi.genPackage.run s = (.error e, s) := by
  unfold PackageSkuItem.genPackage
  rw [if_neg (not_not.mpr htype), getOr_bind_run]
  unfold newId at hnew
  cases horder : s.saleOrders.get? psi.saleOrder with
  | none => exact ⟨_, rfl⟩
  | some order =>
    dsimp only
    rw [getOr_bind_run]
    cases hsku : s.productSkus.first fun sku => toString sku.id = psi.skuId with
    | none => exact ⟨_, rfl⟩
    | some sku =>
      rw [horder, hsku] at hnew
      dsimp only at hnew ⊢
      rw [raiseIf_bind_run]
      by_cases hmissing : order.buyerId = 0 ∨ order.userAddressId = 0 ∨ sku.wareBy = 0
      · rw [if_pos hmissing]
        exact ⟨_, rfl⟩
      · rw [if_neg hmissing] at hnew
        cases hnew

theorem genPackage_run (htype : psi.type = .normal) (hnew : newId psi s = some id) :
    psi.genPackage.run s = (do
      let found ← gets fun s => s.packageOrders.first fun package => package.id = id
      let package ← match found with
        | some package => do
            let package := package.setRedoSign
            package.save
            pure package
        | none => PackageOrder.create id
      modify fun s => { s with
        packageSkuItems := s.packageSkuItems.update (fun r => r.id = psi.id) fun r =>
          { r with
            packageOrderId := some id
            packageOrderPid := some package.pid } }
      pure (some package) : DeliveryTx (Option PackageOrder)).run s := by
  unfold PackageSkuItem.genPackage
  rw [if_neg (not_not.mpr htype), getOr_bind_run]
  unfold newId at hnew
  cases horder : s.saleOrders.get? psi.saleOrder with
  | none =>
    rw [horder] at hnew
    cases hnew
  | some order =>
    dsimp only
    rw [getOr_bind_run]
    cases hsku : s.productSkus.first fun sku => toString sku.id = psi.skuId with
    | none =>
      rw [horder, hsku] at hnew
      cases hnew
    | some sku =>
      rw [horder, hsku] at hnew
      dsimp only at hnew ⊢
      rw [raiseIf_bind_run]
      by_cases hmissing : order.buyerId = 0 ∨ order.userAddressId = 0 ∨ sku.wareBy = 0
      · rw [if_pos hmissing] at hnew
        cases hnew
      · rw [if_neg hmissing] at hnew ⊢
        cases hnew
        rfl

theorem genPackage_found (htype : psi.type = .normal) (hnew : newId psi s = some id)
    {p : PackageOrder} (hp : (s.packageOrders.first fun package => package.id = id) = some p) :
    ∃ t, psi.genPackage.run s = (.ok (some p.setRedoSign), t) := by
  rw [genPackage_run htype hnew, gets_bind_run, hp]
  exact ⟨_, rfl⟩

def afterCreate (id : String) (psi : PackageSkuItem) (s : DeliveryDb) : DeliveryDb :=
  { s with
    packageOrders := s.packageOrders.insert (named id)
    packageSkuItems := s.packageSkuItems.update (fun r => r.id = psi.id) fun r =>
      { r with
        packageOrderId := some id
        packageOrderPid := some s.packageOrders.nextId } }

theorem genPackage_new (htype : psi.type = .normal) (hnew : newId psi s = some id)
    (hp : ∀ p ∈ s.packageOrders, p.id ≠ id) :
    psi.genPackage.run s =
      (.ok (some (s.packageOrders.stored (named id))), afterCreate id psi s) := by
  have hnone : (s.packageOrders.first fun package => package.id = id) = none :=
    Table.first_eq_none.2 fun p hmem => decide_eq_false (hp p hmem)
  rw [genPackage_run htype hnew, gets_bind_run, hnone]
  rfl

end GenPackage

/-! ## The part is carried out -/

/-- The loops of `divide`, after the first SKU has named the package. -/
def carry (skuDict : Dict) (package : PackageOrder) (key : String) (rest foreign : List String)
    (newPackage : Option PackageOrder) : DeliveryTx (Option PackageOrder) := do
  forEach rest fun other => do
    let psi ← firstOf package other
    PackageSkuItem.save { psi with num := psi.num - skuDict.get key }
    let newPsi ← PackageSkuItem.clearOrderInfo { psi with num := skuDict.get key }
    newPsi.attach newPackage
  forEach foreign fun other => do
    let psi ← firstOf package other
    let psi ← psi.clearOrderInfo
    psi.attach newPackage
  pure newPackage

/-- `divide` from the first SKU on. -/
def carve (skuDict : Dict) (package : PackageOrder) (key : String) (rest foreign : List String) :
    DeliveryTx (Option PackageOrder) := do
  let psi ← firstOf package key
  let psi ← psi.clearOrderInfo
  let newPackage ← psi.genPackage
  carry skuDict package key rest foreign newPackage

section Divide

variable {outside : Outside}

theorem divide_refused (h : ∃ pair ∈ oriSkuDict package s, pair.2 < skuDict.get pair.1) :
    (package.divide outside skuDict).run s = (.error (.exception "num"), s) := by
  have hleave := leave_error h
  unfold divide
  rw [gets_bind_run, ofExcept_bind_run]
  unfold oriSkuDict at hleave
  rw [hleave]

theorem divide_passed
    (h : ∀ pair ∈ oriSkuDict package s, skuDict.get pair.1 = 0 ∧ 0 ≤ pair.2) :
    (package.divide outside skuDict).run s = (.ok none, s) := by
  have hle : ∀ pair ∈ oriSkuDict package s, skuDict.get pair.1 ≤ pair.2 := by
    intro pair hpair
    rw [(h pair hpair).1]
    exact (h pair hpair).2
  have hleave := leave_ok hle
  have hsame := left_eq_iff.mpr fun pair hpair => (h pair hpair).1
  unfold divide
  rw [gets_bind_run, ofExcept_bind_run]
  unfold oriSkuDict at hleave hsame
  rw [hleave, hsame]
  dsimp only
  rw [if_pos (Or.inr rfl)]
  rfl

theorem divide_carve (hle : ∀ pair ∈ oriSkuDict package s, skuDict.get pair.1 ≤ pair.2)
    (hasked : ∃ pair ∈ oriSkuDict package s, skuDict.get pair.1 ≠ 0) {rest : List String}
    (hskuIds : skuIds outside skuDict package s = key :: rest) :
    (package.divide outside skuDict).run s = (carve skuDict package key rest
      (outside.setOrder (skuDict.keys.filter fun key => key ∉ (oriSkuDict package s).keys))).run
        s := by
  have hleave := leave_ok hle
  have hkeys := keys_left skuDict (oriSkuDict package s)
  obtain ⟨pair, hpair, hne⟩ := hasked
  have hchanged : ¬ ((oriSkuDict package s).map fun pair =>
      (pair.1, pair.2 - skuDict.get pair.1)) = oriSkuDict package s :=
    fun heq => hne (left_eq_iff.mp heq pair hpair)
  have hfull : ¬ ((oriSkuDict package s).map fun pair =>
      (pair.1, pair.2 - skuDict.get pair.1)) = [] := by
    intro hnil
    rw [List.map_eq_nil_iff.mp hnil] at hpair
    cases hpair
  have hlength : ¬ ((oriSkuDict package s).map fun pair =>
      (pair.1, pair.2 - skuDict.get pair.1)).length + skuDict.length =
        (oriSkuDict package s).length := by
    rw [List.length_map]
    intro heq
    have hnil : skuDict = [] := List.length_eq_zero_iff.mp (by omega)
    rw [hnil] at hne
    exact hne rfl
  unfold divide
  rw [gets_bind_run, ofExcept_bind_run]
  unfold skuIds at hskuIds
  unfold oriSkuDict at hleave hkeys hchanged hfull hlength hskuIds ⊢
  rw [hleave]
  dsimp only
  rw [if_neg (not_or.mpr ⟨hfull, hchanged⟩), if_neg hlength, hkeys, hskuIds]
  rfl

end Divide

section Carry

variable {rest foreign : List String} {arrives : String → Int}

def afterClear (psi : PackageSkuItem) (s : DeliveryDb) : DeliveryDb :=
  { s with packageSkuItems := s.packageSkuItems.save psi.cleared }

theorem nextNum_congr (h : t.packageOrders = s.packageOrders) (text : String) (merge : Bool) :
    ∀ tries nowNum, nextNum text merge t tries nowNum = nextNum text merge s tries nowNum := by
  intro tries
  induction tries with
  | zero => exact fun nowNum => rfl
  | succ tries ih =>
    intro nowNum
    unfold nextNum
    rw [h, ih]

theorem genNewPackageId_congr (h : t.packageOrders = s.packageOrders)
    (buyer address wareBy : Nat) (directVendorCode : String) (merge : Bool) :
    genNewPackageId buyer address wareBy directVendorCode merge t =
      genNewPackageId buyer address wareBy directVendorCode merge s := by
  unfold genNewPackageId getPackageNum getSendedPackageNum
  dsimp only
  rw [h, nextNum_congr h]

theorem newId_afterClear (psi : PackageSkuItem) (s : DeliveryDb) :
    newId psi.cleared (afterClear psi s) = newId psi s := by
  unfold newId
  rw [PackageSkuItem.cleared_saleOrder, PackageSkuItem.cleared_skuId]
  simp only [genNewPackageId_congr (t := afterClear psi s) (s := s) rfl]
  rfl

theorem carve_run (hpsi : firstItem package key s = some psi) :
    (carve skuDict package key rest foreign).run s =
      (psi.cleared.genPackage >>= carry skuDict package key rest foreign).run
        (afterClear psi s) := by
  unfold carve
  rw [bind_ok (firstOf_run hpsi),
    bind_ok (PackageSkuItem.clearOrderInfo_run (firstItem_spec hpsi).1)]
  rfl

theorem carry_none_ok {r : Option PackageOrder}
    (h : (carry skuDict package key rest foreign none).run s = (.ok r, t)) :
    rest = [] ∧ foreign = [] ∧ r = none ∧ s = t := by
  have hraise : ∀ {item : PackageSkuItem} {u : Unit} {s s' : DeliveryDb},
      (item.attach none).run s ≠ (.ok u, s') := by
    intro item u s s' hrun
    cases hrun
  unfold carry at h
  cases rest with
  | cons other rest =>
    obtain ⟨⟨⟩, t₁, hrest, -⟩ := bind_eq_ok.mp h
    rw [forEach_cons] at hrest
    obtain ⟨⟨⟩, t₂, hbody, -⟩ := bind_eq_ok.mp hrest
    obtain ⟨psi, t₃, -, hsave⟩ := bind_eq_ok.mp hbody
    obtain ⟨⟨⟩, t₄, -, hclear⟩ := bind_eq_ok.mp hsave
    obtain ⟨item, t₅, -, hattach⟩ := bind_eq_ok.mp hclear
    exact absurd hattach hraise
  | nil =>
    cases foreign with
    | cons other foreign =>
      obtain ⟨⟨⟩, t₁, -, hrest⟩ := bind_eq_ok.mp h
      obtain ⟨⟨⟩, t₂, hforeign, -⟩ := bind_eq_ok.mp hrest
      rw [forEach_cons] at hforeign
      obtain ⟨⟨⟩, t₃, hbody, -⟩ := bind_eq_ok.mp hforeign
      obtain ⟨psi, t₄, -, hclear⟩ := bind_eq_ok.mp hbody
      obtain ⟨item, t₅, -, hattach⟩ := bind_eq_ok.mp hclear
      exact absurd hattach hraise
    | nil =>
      cases h
      exact ⟨rfl, rfl, rfl, rfl⟩

theorem carry_some_ok {r : Option PackageOrder}
    (h : (carry skuDict package key rest foreign (some part)).run s = (.ok r, t)) :
    r = some part := by
  obtain ⟨⟨⟩, t₁, -, hrest⟩ := bind_eq_ok.mp h
  obtain ⟨⟨⟩, t₂, -, hpure⟩ := bind_eq_ok.mp hrest
  exact (pure_eq_ok.mp hpure).1.symm

/-- The SKUs of a package are among `keys`. -/
def Within (package : PackageOrder) (keys : List String) (s : DeliveryDb) : Prop :=
  ∀ item ∈ s.packageSkuItems, item.packageOrderId = some package.id → item.skuId ∈ keys

theorem Within.save {keys : List String} (h : Within package keys s) {item : PackageSkuItem}
    (hitem : item.skuId ∈ keys) (ht : t.packageSkuItems = s.packageSkuItems.save item) :
    Within package keys t := by
  intro r hr hid
  rw [ht] at hr
  rcases Table.mem_save hr with rfl | hold
  · exact hitem
  · exact h r hold.1 hid

theorem body_run (hpsi : firstItem package skuId s = some psi) :
    (do
      let psi ← firstOf package skuId
      PackageSkuItem.save { psi with num := psi.num - skuDict.get key }
      let newPsi ← PackageSkuItem.clearOrderInfo { psi with num := skuDict.get key }
      newPsi.attach (some part) : DeliveryTx Unit).run s = (.ok (), { s with
        packageSkuItems := s.packageSkuItems.save
          (PackageSkuItem.into part.pid part.id { psi with num := skuDict.get key }) }) := by
  have hpk : Row.pk ({ psi with num := psi.num - skuDict.get key } : PackageSkuItem) =
      Row.pk (PackageSkuItem.into part.pid part.id { psi with num := skuDict.get key }) :=
    (PackageSkuItem.cleared_id { psi with num := skuDict.get key }).symm
  rw [bind_ok (firstOf_run hpsi)]
  refine (PackageSkuItem.clear_attach_run part _ _).trans ?_
  dsimp only
  rw [Table.save_save hpk]

theorem carry_ok_foreign {keys : List String} {r : Option PackageOrder}
    (hwithin : Within package keys s) (hforeign : ∀ other ∈ foreign, other ∉ keys)
    (h : (carry skuDict package key rest foreign (some part)).run s = (.ok r, t)) :
    foreign = [] := by
  obtain ⟨⟨⟩, t₁, hrest, htail⟩ := bind_eq_ok.mp h
  have hafter : Within package keys t₁ := by
    refine forEach_ok (J := Within package keys) ?_ hwithin hrest
    intro other _ u u' hu hrun
    obtain ⟨psi, u₁, hfirst, -⟩ := bind_eq_ok.mp hrun
    obtain ⟨hpsi, rfl⟩ := getOr_eq_ok.mp hfirst
    have hspec := firstItem_spec hpsi
    rw [body_run hpsi] at hrun
    cases hrun
    refine hu.save ?_ rfl
    rw [PackageSkuItem.into, PackageSkuItem.cleared_skuId]
    exact hu psi hspec.1 hspec.2.1
  cases foreign with
  | nil => rfl
  | cons other foreign =>
    obtain ⟨⟨⟩, t₂, hloop, -⟩ := bind_eq_ok.mp htail
    rw [forEach_cons] at hloop
    obtain ⟨⟨⟩, t₃, hbody, -⟩ := bind_eq_ok.mp hloop
    obtain ⟨psi, t₄, hfirst, -⟩ := bind_eq_ok.mp hbody
    obtain ⟨hpsi, -⟩ := getOr_eq_ok.mp hfirst
    have hspec := firstItem_spec hpsi
    have hkey := hafter psi hspec.1 hspec.2.1
    rw [hspec.2.2] at hkey
    exact absurd hkey (hforeign other List.mem_cons_self)

theorem rest_run (key : String) (hid : part.id ≠ package.id) :
    ∀ (rest : List String) {done : List String} {t : DeliveryDb},
      Carried skuDict package part.id arrives done s t → rest.Nodup →
      (∀ other ∈ rest, other ∉ done ∧ other ∈ skuDict.keys ∧
        arrives other = skuDict.get key ∧ ∃ psi, firstItem package other s = some psi) →
      ∃ t', (forEach rest fun other => do
          let psi ← firstOf package other
          PackageSkuItem.save { psi with num := psi.num - skuDict.get key }
          let newPsi ← PackageSkuItem.clearOrderInfo { psi with num := skuDict.get key }
          newPsi.attach (some part)).run t = (.ok (), t') ∧
        Carried skuDict package part.id arrives (rest.reverse ++ done) s t' ∧
        t'.packageOrders = t.packageOrders := by
  intro rest
  induction rest with
  | nil => exact fun hcarried _ _ => ⟨_, rfl, hcarried, rfl⟩
  | cons other rest ih =>
    intro done t hcarried hnodup hrest
    obtain ⟨hother, hnodup'⟩ := List.nodup_cons.mp hnodup
    obtain ⟨hdone, hkey, harrives, psi, hpsi⟩ := hrest other List.mem_cons_self
    have hpsi' : firstItem package other t = some psi := by
      rw [hcarried.first other hdone, hpsi]
    have hspec := firstItem_spec hpsi'
    have hnext := hcarried.step hid hdone hkey hpsi
      (PackageSkuItem.into part.pid part.id { psi with num := skuDict.get key })
      (PackageSkuItem.cleared_id _) ((PackageSkuItem.cleared_skuId _).trans hspec.2.2) rfl
      ((PackageSkuItem.cleared_num _).trans harrives.symm) { t with
        packageSkuItems := t.packageSkuItems.save
          (PackageSkuItem.into part.pid part.id { psi with num := skuDict.get key }) } rfl
    obtain ⟨t', hrun, hcarried', horders⟩ := ih hnext hnodup' fun later hlater => by
      obtain ⟨hdone', hrest'⟩ := hrest later (List.mem_cons_of_mem other hlater)
      refine ⟨?_, hrest'⟩
      rintro (_ | ⟨_, hmem⟩)
      · exact hother hlater
      · exact hdone' hmem
    refine ⟨t', ?_, ?_, horders⟩
    · rw [forEach_cons, bind_ok (body_run hpsi')]
      exact hrun
    · rw [List.reverse_cons, List.append_assoc]
      exact hcarried'

end Carry

section Asked

variable {outside : Outside} {rest : List String}

theorem mem_keys_oriSkuDict :
    key ∈ (oriSkuDict package s).keys ↔ ∃ psi, firstItem package key s = some psi := by
  unfold oriSkuDict firstItem
  rw [Dict.mem_keys_ofPairs, ← Option.isSome_iff_exists, List.find?_isSome]
  simp

theorem exists_item_of_mem {pair : String × Int} (h : pair ∈ oriSkuDict package s) :
    ∃ item ∈ s.packageSkuItems, item.packageOrderId = some package.id ∧
      item.skuId = pair.1 ∧ item.num = pair.2 := by
  obtain ⟨item, hitem, rfl⟩ := List.mem_map.mp (Dict.mem_of_mem_ofPairs h)
  have hmem := List.mem_filter.mp hitem
  exact ⟨item, hmem.1, of_decide_eq_true hmem.2, rfl, rfl⟩

theorem le_lying (hnum : ∀ item ∈ s.packageSkuItems, 0 ≤ item.num) {item : PackageSkuItem}
    (hitem : item ∈ s.packageSkuItems) (hid : item.packageOrderId = some id) :
    item.num ≤ s.lying id item.skuId := by
  have hself : item.num = lies id item.skuId item := (lies_at hid rfl).symm
  have hnonneg : ∀ r ∈ s.packageSkuItems, 0 ≤ lies id item.skuId r := by
    intro r hr
    unfold lies
    split
    · exact hnum r hr
    · exact le_rfl
  rw [hself]
  refine List.single_le_sum ?_ _ (List.mem_map_of_mem hitem)
  intro x hx
  obtain ⟨r, hr, rfl⟩ := List.mem_map.mp hx
  exact hnonneg r hr

theorem not_tooMuch (hnum : ∀ item ∈ s.packageSkuItems, 0 ≤ item.num)
    (hle : ∀ pair ∈ oriSkuDict package s, skuDict.get pair.1 ≤ pair.2)
    (hforeign : ∀ key ∈ skuDict.keys, 0 < skuDict.get key → key ∈ (oriSkuDict package s).keys) :
    ¬ TooMuch skuDict package s := by
  rintro ⟨skuId, hlt⟩
  have hnonneg : 0 ≤ s.lying package.id skuId := by
    refine List.sum_nonneg fun x hx => ?_
    obtain ⟨r, hr, rfl⟩ := List.mem_map.mp hx
    split
    · exact hnum r hr
    · exact le_rfl
  have hpos : 0 < skuDict.get skuId := by omega
  obtain ⟨pair, hpair, rfl⟩ := List.mem_map.mp
    (hforeign skuId (Dict.mem_keys_of_get hpos.ne') hpos)
  obtain ⟨item, hitem, hid, hsku, hitemNum⟩ := exists_item_of_mem hpair
  have hheld := le_lying hnum hitem hid
  have hpairLe := hle pair hpair
  rw [hsku] at hheld
  omega

theorem mem_skuIds (horder : ∀ keys, (outside.setOrder keys).Perm keys) :
    key ∈ skuIds outside skuDict package s ↔
      key ∈ (oriSkuDict package s).keys ∧ key ∈ skuDict.keys := by
  unfold skuIds
  rw [(horder _).mem_iff, List.mem_filter, decide_eq_true_iff]

theorem nodup_skuIds (skuDict : Dict) (package : PackageOrder) (s : DeliveryDb)
    (horder : ∀ keys, (outside.setOrder keys).Perm keys) :
    (skuIds outside skuDict package s).Nodup :=
  (horder _).nodup_iff.mpr (Dict.nodup_keys_ofPairs.filter _)

theorem foreign_eq_nil (horder : ∀ keys, (outside.setOrder keys).Perm keys) :
    outside.setOrder (skuDict.keys.filter fun key => key ∉ (oriSkuDict package s).keys) = [] ↔
      ∀ key ∈ skuDict.keys, key ∈ (oriSkuDict package s).keys := by
  constructor
  · intro hnil key hkey
    by_contra hnot
    have hmem : key ∈ outside.setOrder
        (skuDict.keys.filter fun key => key ∉ (oriSkuDict package s).keys) :=
      (horder _).mem_iff.mpr (List.mem_filter.mpr ⟨hkey, decide_eq_true hnot⟩)
    rw [hnil] at hmem
    cases hmem
  · intro hall
    have hnil : (skuDict.keys.filter fun key => key ∉ (oriSkuDict package s).keys) = [] := by
      rw [List.filter_eq_nil_iff]
      intro key hkey
      simpa using hall key hkey
    rw [hnil]
    exact (horder []).eq_nil

end Asked

/-! ## The division -/

section Division

variable {outside : Outside} {rest foreign : List String}

def newPart (id : String) (s : DeliveryDb) : PackageOrder := s.packageOrders.stored (named id)

theorem afterCreate_afterClear (hpsi : psi ∈ s.packageSkuItems) :
    (afterCreate id psi.cleared (afterClear psi s)).packageSkuItems =
      s.packageSkuItems.save (psi.into s.packageOrders.nextId id) := by
  have hcleared : psi.cleared ∈ (afterClear psi s).packageSkuItems :=
    Table.mem_save_self hpsi (PackageSkuItem.cleared_id psi).symm
  exact (Table.update_eq_save hcleared _).trans (Table.save_save rfl)

theorem carve_new (hpsi : firstItem package key s = some psi) (htype : psi.type = .normal)
    (hnew : newId psi s = some id) (hfree : ∀ p ∈ s.packageOrders, p.id ≠ id)
    (hpackage : package ∈ s.packageOrders) (hkeys : ∀ other ∈ key :: rest, other ∈ skuDict.keys)
    (hitems : ∀ other ∈ key :: rest, other ∈ (oriSkuDict package s).keys)
    (hnodup : (key :: rest).Nodup) :
    ∃ t, (carve skuDict package key rest []).run s = (.ok (some (newPart id s)), t) ∧
      newPart id s ∈ t.packageOrders ∧
      Carried skuDict package id (arriving skuDict package key s) (rest.reverse ++ [key]) s t := by
  have hid : id ≠ package.id := (hfree package hpackage).symm
  have hspec := firstItem_spec hpsi
  have hgen := genPackage_new (s := afterClear psi s) ((PackageSkuItem.cleared_type psi).trans htype)
    ((newId_afterClear psi s).trans hnew) hfree
  have harriving : arriving skuDict package key s key = psi.num := by
    unfold arriving leaving
    rw [if_pos rfl, if_pos (hkeys key List.mem_cons_self), hpsi]
    rfl
  have hfirst := (Carried.refl skuDict package id (arriving skuDict package key s) s).step hid List.not_mem_nil
      (hkeys key List.mem_cons_self) hpsi (psi.into s.packageOrders.nextId id)
      (PackageSkuItem.cleared_id psi) ((PackageSkuItem.cleared_skuId psi).trans hspec.2.2) rfl
      ((PackageSkuItem.cleared_num psi).trans harriving.symm) _
      (afterCreate_afterClear hspec.1)
  obtain ⟨hkey, hrest⟩ := List.nodup_cons.mp hnodup
  obtain ⟨t, hrun, hcarried, horders⟩ := rest_run key (show (newPart id s).id ≠ package.id from hid) rest
    hfirst hrest fun other hother => by
      have hne : other ≠ key := by
        rintro rfl
        exact hkey hother
      have hmem := List.mem_cons_of_mem key hother
      refine ⟨by simpa using hne, hkeys other hmem, ?_, mem_keys_oriSkuDict.mp (hitems other hmem)⟩
      unfold arriving
      rw [if_neg hne, if_pos (hkeys other hmem)]
  refine ⟨t, ?_, ?_, hcarried⟩
  · rw [carve_run hpsi, bind_ok hgen]
    exact bind_ok hrun
  · rw [Table.mem_def, horders]
    exact Table.mem_insert.mpr (Or.inr rfl)

theorem genPackage_not_normal (htype : psi.type ≠ .normal) :
    psi.genPackage.run s = (.ok none, s) := by
  unfold PackageSkuItem.genPackage
  rw [if_pos htype]
  rfl

theorem carve_not_normal (hpsi : firstItem package key s = some psi) (htype : psi.type ≠ .normal) :
    (carve skuDict package key rest foreign).run s =
      (carry skuDict package key rest foreign none).run (afterClear psi s) := by
  have hcleared : psi.cleared.type ≠ .normal := by
    rw [PackageSkuItem.cleared_type]
    exact htype
  rw [carve_run hpsi, bind_ok (genPackage_not_normal hcleared)]

theorem afterClear_eq_iff (hpsi : firstItem package key s = some psi) :
    afterClear psi s = s ↔ psi.assignStatus = .finished := by
  have hspec := firstItem_spec hpsi
  constructor
  · intro heq
    by_contra hsent
    have hmem : psi.cleared ∈ (afterClear psi s).packageSkuItems :=
      Table.mem_save_self hspec.1 (PackageSkuItem.cleared_id psi).symm
    rw [heq] at hmem
    have hsame := Table.pk_inj hmem hspec.1 (PackageSkuItem.cleared_id psi)
    have hnone : psi.cleared.packageOrderId = none := by
      unfold PackageSkuItem.cleared
      rw [if_neg hsent]
    rw [hsame, hspec.2.1] at hnone
    cases hnone
  · intro hsent
    unfold afterClear
    rw [PackageSkuItem.cleared_of_finished hsent, Table.save_of_mem hspec.1]

theorem Carried.all {arrives : String → Int} {done : List String}
    (h : Carried skuDict package id arrives done s t)
    (hdone : ∀ skuId, skuId ∈ done ↔ skuId ∈ skuDict.keys)
    (harrives : ∀ skuId, skuId ∉ skuDict.keys → arrives skuId = 0) (skuId : String) :
    t.lying package.id skuId = s.lying package.id skuId - leaving skuDict package s skuId ∧
      t.lying id skuId = s.lying id skuId + arrives skuId := by
  rw [h.left, h.there]
  by_cases hmem : skuId ∈ skuDict.keys
  · rw [if_pos ((hdone skuId).mpr hmem), if_pos ((hdone skuId).mpr hmem)]
    exact ⟨rfl, rfl⟩
  · have hnot : skuId ∉ done := fun hin => hmem ((hdone skuId).mp hin)
    rw [if_neg hnot, if_neg hnot, harrives skuId hmem]
    unfold leaving
    rw [if_neg hmem]
    exact ⟨rfl, rfl⟩

theorem arriving_of_not_mem (hkey : key ∈ skuDict.keys) (hskuId : skuId ∉ skuDict.keys) :
    arriving skuDict package key s skuId = 0 := by
  unfold arriving
  have hne : skuId ≠ key := by
    rintro rfl
    exact hskuId hkey
  rw [if_neg hne, if_neg hskuId]

theorem divide_new (horder : ∀ keys, (outside.setOrder keys).Perm keys)
    (hpackage : package ∈ s.packageOrders)
    (hle : ∀ pair ∈ oriSkuDict package s, skuDict.get pair.1 ≤ pair.2)
    (hasked : ∃ pair ∈ oriSkuDict package s, skuDict.get pair.1 ≠ 0)
    (hforeign : ∀ key ∈ skuDict.keys, key ∈ (oriSkuDict package s).keys)
    (hskuIds : skuIds outside skuDict package s = key :: rest)
    (hpsi : firstItem package key s = some psi) (htype : psi.type = .normal)
    (hnew : newId psi s = some id) (hfree : ∀ p ∈ s.packageOrders, p.id ≠ id) :
    ∃ t, (package.divide outside skuDict).run s = (.ok (some (newPart id s)), t) ∧
      (Parted skuDict package (newPart id s) s t ↔
        ∀ skuId, leaving skuDict package s skuId = skuDict.get skuId ∧
          s.lying id skuId + arriving skuDict package key s skuId = skuDict.get skuId) := by
  have hmem : ∀ other ∈ key :: rest, other ∈ (oriSkuDict package s).keys ∧
      other ∈ skuDict.keys := by
    rw [← hskuIds]
    exact fun other => (mem_skuIds horder).mp
  have hnodup := nodup_skuIds skuDict package s horder
  rw [hskuIds] at hnodup
  obtain ⟨t, hrun, hstored, hcarried⟩ := carve_new hpsi htype hnew hfree hpackage
    (fun other hother => (hmem other hother).2) (fun other hother => (hmem other hother).1) hnodup
  have hdone : ∀ skuId, skuId ∈ rest.reverse ++ [key] ↔ skuId ∈ skuDict.keys := by
    intro skuId
    have hiff : skuId ∈ skuIds outside skuDict package s ↔ _ := mem_skuIds horder
    rw [hskuIds] at hiff
    rw [← List.reverse_cons, List.mem_reverse, hiff]
    exact ⟨And.right, fun h => ⟨hforeign skuId h, h⟩⟩
  have hall := hcarried.all hdone fun skuId =>
    arriving_of_not_mem (hmem key List.mem_cons_self).2
  refine ⟨t, ?_, ?_⟩
  · rw [divide_carve hle hasked hskuIds, (foreign_eq_nil horder).mpr hforeign]
    exact hrun
  · constructor
    · intro hparted skuId
      have hleft := (hall skuId).1
      have hthere : t.lying (newPart id s).id skuId = _ := (hall skuId).2
      have hasks := hparted.asked skuId
      have hkept := hparted.conserved skuId
      omega
    · intro heqs
      constructor
      · exact fun p hp heq => absurd (Table.pk_lt_nextId hp) (by
          rw [show Row.pk p = s.packageOrders.nextId from heq]
          exact lt_irrefl _)
      · exact hstored
      · exact fun skuId => (hall skuId).2.trans (heqs skuId).2
      · intro skuId
        have hleft := (hall skuId).1
        have hthere : t.lying (newPart id s).id skuId = _ := (hall skuId).2
        have heq := heqs skuId
        omega
      · exact hcarried.items

end Division

/-! ## Where goods are conserved -/

section Conserves

variable {outside : Outside}

theorem conserves_refused (h : ∃ pair ∈ oriSkuDict package s, pair.2 < skuDict.get pair.1) :
    Conserves outside skuDict package s ↔ TooMuch skuDict package s := by
  have hrun : (package.divide outside skuDict).run s = _ := divide_refused h
  constructor
  · intro hconserves
    by_contra hfits
    rcases hconserves.divides hfits with hnone | ⟨part, t, hsome, -⟩
    · rw [hrun] at hnone
      cases hnone
    · rw [hrun] at hsome
      cases hsome
  · exact fun hmuch => ⟨fun _ => ⟨_, hrun⟩, fun hfits => absurd hmuch hfits⟩

theorem conserves_passed
    (h : ∀ pair ∈ oriSkuDict package s, skuDict.get pair.1 = 0 ∧ 0 ≤ pair.2) :
    Conserves outside skuDict package s ↔ ¬ TooMuch skuDict package s := by
  have hrun : (package.divide outside skuDict).run s = _ := divide_passed h
  constructor
  · intro hconserves hmuch
    obtain ⟨e, herror⟩ := hconserves.refuses hmuch
    rw [hrun] at herror
    cases herror
  · exact fun hfits => ⟨fun hmuch => absurd hmuch hfits, fun _ => Or.inl hrun⟩

theorem cut_of_not_normal {rest foreign : List String}
    (hpsi : firstItem package key s = some psi) (htype : psi.type ≠ .normal)
    (h : (carve skuDict package key rest foreign).run s = (.ok none, s) ∨
      ∃ part t, (carve skuDict package key rest foreign).run s = (.ok (some part), t) ∧
        Parted skuDict package part s t) :
    psi.assignStatus = .finished ∧ rest = [] ∧ foreign = [] := by
  rw [carve_not_normal hpsi htype] at h
  rcases h with hnone | ⟨part, t, hsome, -⟩
  · obtain ⟨hrest, hforeign, -, hsame⟩ := carry_none_ok hnone
    exact ⟨(afterClear_eq_iff hpsi).mp hsame, hrest, hforeign⟩
  · obtain ⟨-, -, hpart, -⟩ := carry_none_ok hsome
    cases hpart

theorem new_of_parted {rest foreign : List String}
    (hpsi : firstItem package key s = some psi) (htype : psi.type = .normal)
    (hforeign : ∀ other ∈ foreign, other ∉ (oriSkuDict package s).keys)
    (h : (carve skuDict package key rest foreign).run s = (.ok none, s) ∨
      ∃ part t, (carve skuDict package key rest foreign).run s = (.ok (some part), t) ∧
        Parted skuDict package part s t) :
    foreign = [] ∧ ∃ id, newId psi s = some id ∧ ∀ p ∈ s.packageOrders, p.id ≠ id := by
  have hspec := firstItem_spec hpsi
  have hcleared : psi.cleared.type = .normal := (PackageSkuItem.cleared_type psi).trans htype
  have hsameId := newId_afterClear psi s
  rw [carve_run hpsi] at h
  cases hnew : newId psi s with
  | none =>
    obtain ⟨e, herror⟩ := genPackage_none hcleared (hsameId.trans hnew)
    rw [bind_error herror] at h
    rcases h with hnone | ⟨part, t, hsome, -⟩
    · cases hnone
    · cases hsome
  | some id =>
    cases hfound : s.packageOrders.first fun p => p.id = id with
    | some p =>
      obtain ⟨t', hgen⟩ := genPackage_found hcleared (hsameId.trans hnew) hfound
      rw [bind_ok hgen] at h
      rcases h with hnone | ⟨part, t, hsome, hparted⟩
      · cases carry_some_ok hnone
      · have hpart := Option.some.inj (carry_some_ok hsome)
        have hpid : p.pid = part.pid := by
          rw [hpart]
          unfold setRedoSign
          split
          · rfl
          · split <;> rfl
        exact absurd hpid (hparted.new p (Table.mem_of_first hfound))
    | none =>
      have hfree : ∀ p ∈ s.packageOrders, p.id ≠ id := fun p hp =>
        of_decide_eq_false (Table.first_eq_none.mp hfound p hp)
      refine ⟨?_, id, rfl, hfree⟩
      have hgen := genPackage_new hcleared (hsameId.trans hnew) hfree
      have hwithin : Within package (oriSkuDict package s).keys s := by
        intro item hitem hid
        refine Dict.mem_keys_ofPairs.mpr ⟨(item.skuId, item.num), ?_, rfl⟩
        exact List.mem_map_of_mem (List.mem_filter.mpr ⟨hitem, decide_eq_true hid⟩)
      have hinto : (psi.into s.packageOrders.nextId id).skuId ∈ (oriSkuDict package s).keys := by
        rw [PackageSkuItem.into, PackageSkuItem.cleared_skuId]
        exact hwithin psi hspec.1 hspec.2.1
      have hwithin' := hwithin.save hinto (afterCreate_afterClear hspec.1)
      rw [bind_ok hgen] at h
      rcases h with hnone | ⟨part, t, hsome, -⟩
      · cases carry_some_ok hnone
      · exact carry_ok_foreign hwithin' hforeign hsome

theorem passed_of_not_asked (hle : ∀ pair ∈ oriSkuDict package s, skuDict.get pair.1 ≤ pair.2)
    (hasked : ¬ ∃ pair ∈ oriSkuDict package s, skuDict.get pair.1 ≠ 0) :
    ∀ pair ∈ oriSkuDict package s, skuDict.get pair.1 = 0 ∧ 0 ≤ pair.2 := by
  intro pair hpair
  have hzero : skuDict.get pair.1 = 0 := by
    by_contra hne
    exact hasked ⟨pair, hpair, hne⟩
  exact ⟨hzero, hzero ▸ hle pair hpair⟩

section Cut

variable (horder : ∀ keys, (outside.setOrder keys).Perm keys)
  (hpackage : package ∈ s.packageOrders)
  (hle : ∀ pair ∈ oriSkuDict package s, skuDict.get pair.1 ≤ pair.2)
  (hasked : ∃ pair ∈ oriSkuDict package s, skuDict.get pair.1 ≠ 0)
include horder hpackage hle hasked

theorem conserves_of_cut (hfits : ¬ TooMuch skuDict package s)
    (hcut : Cut outside skuDict package s) : Conserves outside skuDict package s := by
  refine ⟨fun hmuch => absurd hmuch hfits, fun _ => ?_⟩
  obtain ⟨hforeign, key, rest, psi, hskuIds, hpsi, hcases⟩ := hcut
  rcases hcases with ⟨htype, id, hnew, hfree, heqs⟩ | ⟨htype, hsent, rfl⟩
  · right
    obtain ⟨t, hrun, hparted⟩ := divide_new horder hpackage hle hasked hforeign hskuIds hpsi
      htype hnew hfree
    exact ⟨_, t, hrun, hparted.mpr heqs⟩
  · left
    rw [divide_carve hle hasked hskuIds, (foreign_eq_nil horder).mpr hforeign,
      carve_not_normal hpsi htype, (afterClear_eq_iff hpsi).mpr hsent]
    rfl

theorem cut_of_conserves (hfits : ¬ TooMuch skuDict package s)
    (h : Conserves outside skuDict package s) : Cut outside skuDict package s := by
  obtain ⟨pair, hpair, hne⟩ := hasked
  have hfirst : pair.1 ∈ skuIds outside skuDict package s :=
    (mem_skuIds horder).mpr ⟨List.mem_map_of_mem hpair, Dict.mem_keys_of_get hne⟩
  obtain ⟨key, rest, hskuIds⟩ := List.exists_cons_of_ne_nil (List.ne_nil_of_mem hfirst)
  have hkey : key ∈ skuIds outside skuDict package s := by
    rw [hskuIds]
    exact List.mem_cons_self
  obtain ⟨psi, hpsi⟩ := mem_keys_oriSkuDict.mp ((mem_skuIds horder).mp hkey).1
  have hspec := firstItem_spec hpsi
  have hcarve := divide_carve hle ⟨pair, hpair, hne⟩ hskuIds
  have hdivides := h.divides hfits
  rw [hcarve] at hdivides
  by_cases htype : psi.type = .normal
  · obtain ⟨hnil, id, hnew, hfree⟩ := new_of_parted hpsi htype
      (fun other hother => by
        have hmem := List.mem_filter.mp ((horder _).mem_iff.mp hother)
        exact of_decide_eq_true hmem.2) hdivides
    have hforeign := (foreign_eq_nil horder).mp hnil
    obtain ⟨t, hrun, hparted⟩ := divide_new horder hpackage hle ⟨pair, hpair, hne⟩ hforeign
      hskuIds hpsi htype hnew hfree
    refine ⟨hforeign, key, rest, psi, hskuIds, hpsi, Or.inl ⟨htype, id, hnew, hfree, ?_⟩⟩
    apply hparted.mp
    rcases h.divides hfits with hnone | ⟨part, t', hsome, hpart⟩
    · rw [hrun] at hnone
      cases hnone
    · rw [hrun] at hsome
      cases hsome
      exact hpart
  · obtain ⟨hsent, hrest, hnil⟩ := cut_of_not_normal hpsi htype hdivides
    exact ⟨(foreign_eq_nil horder).mp hnil, key, rest, psi, hskuIds, hpsi,
      Or.inr ⟨htype, hsent, hrest⟩⟩

end Cut

/-- The division of a package conserves its goods where it is divisible, and, for a request of
goods that the package holds, only there. -/
theorem divide_conserves (horder : ∀ keys, (outside.setOrder keys).Perm keys)
    (hpackage : package ∈ s.packageOrders) :
    (Divisible outside skuDict package s → Conserves outside skuDict package s) ∧
      ((∀ item ∈ s.packageSkuItems, 0 ≤ item.num) →
        (∀ key ∈ skuDict.keys, 0 < skuDict.get key → key ∈ (oriSkuDict package s).keys) →
        Conserves outside skuDict package s → Divisible outside skuDict package s) := by
  constructor
  · intro h
    by_cases hover : ∃ pair ∈ oriSkuDict package s, pair.2 < skuDict.get pair.1
    · exact (conserves_refused hover).mpr (h.refused hover)
    · have hle : ∀ pair ∈ oriSkuDict package s, skuDict.get pair.1 ≤ pair.2 :=
        fun pair hpair => not_lt.mp fun hlt => hover ⟨pair, hpair, hlt⟩
      by_cases hasked : ∃ pair ∈ oriSkuDict package s, skuDict.get pair.1 ≠ 0
      · obtain ⟨hfits, hcut⟩ := h.cut hle hasked
        exact conserves_of_cut horder hpackage hle hasked hfits hcut
      · have hpassed := passed_of_not_asked hle hasked
        exact (conserves_passed hpassed).mpr (h.passed hpassed)
  · intro hnum hforeign h
    constructor
    · exact fun hover => (conserves_refused hover).mp h
    · exact fun hpassed => (conserves_passed hpassed).mp h
    · intro hle hasked
      have hfits := not_tooMuch hnum hle hforeign
      exact ⟨hfits, cut_of_conserves horder hpackage hle hasked hfits h⟩

end Conserves

section Sample

def inOrder : Outside where
  setOrder keys := keys
  kd100Subscription _ _ := .ok ()

def boxed : PackageOrder where
  pid := 7
  id := "1-2-9-1"
  sysStatus := .waitOutwareSendCallback
  isPickingPrint := false
  outSid := ""
  logisticsCompany := none

def boxedDb : DeliveryDb where
  outware := ⟨Table.empty, Table.empty, [], []⟩
  packages := Table.empty
  packageSkus := Table.empty
  packageOrders := ⟨[boxed], by decide⟩
  packageSkuItems := ⟨[⟨1, "279", 2, .normal, .assigned, .assigned, some "1-2-9-1", some 7, "", "",
    1⟩], by decide⟩
  saleOrders := ⟨[⟨1, 2, true, 1, 2⟩], by decide⟩
  productSkus := ⟨[⟨279, "SP111111AA", 9, 2, 2, 0⟩], by decide⟩
  logisticsCompanies := Table.empty
  shipped := []

theorem boxedDb_fits {num : Int} (h : num ≤ 2) : ¬ TooMuch [("279", num)] boxed boxedDb := by
  refine not_tooMuch ?_ ?_ ?_
  · change ∀ item ∈ boxedDb.packageSkuItems.rows, 0 ≤ item.num
    decide +kernel
  · intro pair hpair
    have hori : oriSkuDict boxed boxedDb = [("279", 2)] := by decide +kernel
    rw [hori] at hpair
    rw [List.mem_singleton.mp hpair]
    exact h
  · intro key hkey _
    rw [List.mem_singleton.mp hkey]
    change "279" ∈ (oriSkuDict boxed boxedDb).keys
    decide +kernel

theorem divisible_both : Divisible inOrder [("279", 2)] boxed boxedDb := by
  constructor
  · intro hover
    exact absurd hover (by decide +kernel)
  · exact fun _ => boxedDb_fits le_rfl
  · intro _ _
    refine ⟨boxedDb_fits le_rfl, by decide +kernel, "279", [], ?_⟩
    refine ⟨_, by decide +kernel, rfl, Or.inl ⟨rfl, "1-2-9-2", by decide +kernel, ?_, ?_⟩⟩
    · change ∀ p ∈ boxedDb.packageOrders.rows, p.id ≠ "1-2-9-2"
      decide +kernel
    · intro skuId
      have hnone : boxedDb.lying "1-2-9-2" skuId = 0 := by
        refine Table.sum_eq_zero fun item hitem => ?_
        rw [List.mem_singleton.mp hitem]
        exact if_neg fun hand => absurd hand.1 (by decide)
      by_cases hsku : skuId = "279"
      · subst hsku
        rw [hnone]
        decide +kernel
      · have hnot : skuId ∉ Dict.keys [("279", 2)] := by simpa [Dict.keys] using hsku
        rw [hnone, Dict.get_of_not_mem hnot, arriving_of_not_mem (by decide) hnot]
        unfold leaving
        rw [if_neg hnot]
        exact ⟨rfl, rfl⟩

theorem divide_conserves_both : Conserves inOrder [("279", 2)] boxed boxedDb :=
  (divide_conserves (fun keys => List.Perm.refl keys) (List.mem_singleton.mpr rfl)).1
    divisible_both

theorem divide_one_fails : ¬ Conserves inOrder [("279", 1)] boxed boxedDb := by
  intro h
  have hpart : ((boxed.divide inOrder [("279", 1)]).run boxedDb).1 =
      .ok (some { named "1-2-9-2" with pid := 8 }) := by decide +kernel
  have hlying : ((boxed.divide inOrder [("279", 1)]).run boxedDb).2.lying "1-2-9-2" "279" = 2 := by
    decide +kernel
  rcases h.divides (boxedDb_fits (by decide)) with hnone | ⟨part, t, hsome, hparted⟩
  · rw [hnone] at hpart
    cases hpart
  · rw [hsome] at hpart hlying
    cases hpart
    have hasked : t.lying "1-2-9-2" "279" = 1 := hparted.asked "279"
    have hboth : t.lying "1-2-9-2" "279" = 2 := hlying
    omega

end Sample

end PackageOrder

end ShopManager.Outware.Delivery
