import ShopManager.Library.Execution
import ShopManager.Refunds.Model

/-!
# The stock of returned products

A saved product that can be sold again has its SKU counted anew.  A product that no longer can
leaves the stock of its SKU as it was, with the product in it.
-/

namespace ShopManager.Refunds

open Library Library.Tx Library.Execution SkuStock

def CountedAt (s : RefundDb) (sku : Nat) : Prop :=
  ∀ returnQuantity, s.stocks sku = some returnQuantity → returnQuantity = returnTotal s sku

def Counted (s : RefundDb) : Prop := ∀ sku, CountedAt s sku

inductive RefundOp where
  | create (product : RefundProduct)
  | edit (id : Nat) (num : Int) (canReuse : Bool)
  | refundChange (originSkuId : Nat) (change : RefundProduct.Change) (refused : Bool)
  | addIntoStockSave (id : Nat) (inStock : Bool)

def RefundOp.exec : RefundOp → RefundDb → RefundDb
  | create product, s => (product.create.run s).2
  | edit id num canReuse, s => ((RefundProduct.edit id num canReuse).run s).2
  | refundChange originSkuId change refused, s =>
      ((RefundProduct.refundChange originSkuId change refused).run s).2
  | addIntoStockSave id inStock, s => ((RefundProduct.addIntoStockSave id inStock).run s).2

def RefundOp.Recounts (s : RefundDb) : RefundOp → Prop
  | edit id _ canReuse => canReuse = false → ∀ product ∈ s.products, product.id = id →
      ∀ sku, s.stocks sku ≠ none → isCounted sku product = true → product.num = 0
  | _ => True

/-! ## Totals -/

variable {s t : RefundDb} {product : RefundProduct} {sku : Nat}

def weight (sku : Nat) (product : RefundProduct) : Int :=
  if isCounted sku product = true then product.num else 0

theorem returnTotal_eq (s : RefundDb) (sku : Nat) :
    returnTotal s sku = s.products.sum (weight sku) := Table.sum_filter _ _ _

theorem isCounted_iff : isCounted sku product = true ↔
    product.skuId = some sku ∧ commitTime < product.created ∧ product.canReuse = true :=
  decide_eq_true_iff

theorem weight_of_not (h : ¬ isCounted sku product = true) : weight sku product = 0 := if_neg h

theorem CountedAt.of_same (h : CountedAt s sku) (hstocks : t.stocks sku = s.stocks sku)
    (htotal : returnTotal t sku = returnTotal s sku) : CountedAt t sku := by
  intro returnQuantity hstock
  rw [htotal]
  exact h returnQuantity (hstocks ▸ hstock)

theorem returnTotal_put (sku' : Nat) (returnQuantity : Int) (s : RefundDb) :
    returnTotal (put sku' returnQuantity s) sku = returnTotal s sku := rfl

theorem countedAt_put (s : RefundDb) (sku : Nat) :
    CountedAt (put sku (returnTotal s sku) s) sku := by
  intro returnQuantity hstock
  have hput : (put sku (returnTotal s sku) s).stocks sku = some (returnTotal s sku) :=
    Function.update_self _ _ _
  rw [returnTotal_put]
  exact Option.some.inj (hstock.symm.trans hput)

theorem put_other {sku' : Nat} (hne : sku' ≠ sku) (returnQuantity : Int) (s : RefundDb) :
    (put sku returnQuantity s).stocks sku' = s.stocks sku' := Function.update_of_ne hne _ _

theorem returnTotal_update {p : RefundProduct → Bool} {f : RefundProduct → RefundProduct}
    (h : ∀ product ∈ s.products, p product = true → ∀ n, weight sku { f product with id := n } =
      weight sku product) :
    returnTotal { s with products := s.products.update p f } sku = returnTotal s sku := by
  rw [returnTotal_eq, returnTotal_eq, Table.sum_update]
  refine Table.sum_congr fun product hproduct => ?_
  split
  · next hp => exact h product hproduct hp _
  · rfl

/-! ## Steps of the operations -/

structure Recounted (s t : RefundDb) (counted : Nat → Prop) : Prop where
  kept : ∀ sku, CountedAt s sku → CountedAt t sku
  anew : ∀ sku, counted sku → CountedAt t sku

theorem addReturnQuantity_none (num : Int) (h : s.stocks sku = none) :
    (addReturnQuantity sku num).run s = (.error .doesNotExist, s) := by
  unfold addReturnQuantity
  simp only [getOr_bind_run, h]

theorem addReturnQuantity_some {returnQuantity : Int} (num : Int)
    (h : s.stocks sku = some returnQuantity) :
    (addReturnQuantity sku num).run s = (.ok (), put sku (returnTotal s sku) s) := by
  have hrestat : restat s sku (returnQuantity + num) = returnTotal s sku := by
    unfold restat
    split
    · rfl
    · next heq => exact not_not.mp heq
  unfold addReturnQuantity
  simp only [getOr_bind_run, h, gets_bind_run, modify_run, hrestat]

theorem Recounted.put (s : RefundDb) (sku : Nat) :
    Recounted s (put sku (returnTotal s sku) s) fun sku' => sku' = sku where
  kept sku' h := by
    by_cases hsku : sku' = sku
    · subst hsku
      exact countedAt_put s sku'
    · exact h.of_same (put_other hsku _ s) (returnTotal_put _ _ s)
  anew sku' h := by
    subst h
    exact countedAt_put s sku'

theorem addIntoStock_recounts (product : RefundProduct) (s : RefundDb) :
    ((product.addIntoStock).run s).2.products = s.products ∧
      Recounted s ((product.addIntoStock).run s).2 fun sku =>
        product.skuId = some sku ∧ product.canReuse = true := by
  unfold RefundProduct.addIntoStock
  split
  · next hnone =>
      refine ⟨rfl, fun _ h => h, fun sku h => ?_⟩
      exact nomatch hnone.symm.trans h.1
  · next sku hsku =>
      split
      · next hreuse =>
          refine ⟨rfl, fun _ h => h, fun _ h => ?_⟩
          exact absurd (hreuse.symm.trans h.2) Bool.false_ne_true
      · next hreuse =>
          cases hstock : s.stocks sku with
          | none =>
            rw [addReturnQuantity_none _ hstock]
            refine ⟨rfl, fun _ h => h, fun sku' h returnQuantity hstock' => ?_⟩
            obtain rfl := Option.some.inj (hsku.symm.trans h.1)
            exact nomatch hstock.symm.trans hstock'
          | some returnQuantity =>
            rw [addReturnQuantity_some _ hstock]
            refine ⟨rfl, (Recounted.put s sku).kept, fun sku' h => ?_⟩
            exact (Recounted.put s sku).anew sku' (Option.some.inj (h.1.symm.trans hsku))

theorem stocked_recounts (product : RefundProduct) (id : Nat) (s : RefundDb) :
    Recounted s ((product.addIntoStock >>= fun _ => modify fun s => { s with
      products := s.products.update (fun p => p.id = id) fun p => { p with inStock := true } }).run
        s).2 fun sku => product.skuId = some sku ∧ product.canReuse = true := by
  obtain ⟨-, hrecounted⟩ := addIntoStock_recounts product s
  rw [bind_run]
  cases hrun : product.addIntoStock.run s with
  | mk r t =>
    rw [hrun] at hrecounted
    cases r with
    | error e => exact hrecounted
    | ok _ =>
      have hsame : ∀ sku, CountedAt t sku → CountedAt { t with
          products := t.products.update (fun p => p.id = id) fun p =>
            { p with inStock := true } } sku := fun sku h =>
        h.of_same rfl (returnTotal_update fun product _ _ _ => rfl)
      exact ⟨fun sku h => hsame sku (hrecounted.kept sku h),
        fun sku h => hsame sku (hrecounted.anew sku h)⟩

theorem getByOuterId_run (outerSkuId outerId : String) (s : RefundDb) :
    ((ProductSku.getByOuterId outerSkuId outerId).run s).2 = s := by
  unfold ProductSku.getByOuterId
  rw [gets_bind_run]
  split
  · rfl
  · rfl
  · rfl

theorem Recounted.imp {counted counted' : Nat → Prop} (h : Recounted s t counted)
    (himp : ∀ sku, counted' sku → counted sku) : Recounted s t counted' where
  kept := h.kept
  anew sku hsku := h.anew sku (himp sku hsku)

theorem found_recounts (hrow : ∀ p ∈ s.products, p.id = product.id → p = product)
    (hsku : product.skuId = none) (found : Nat) :
    Recounted s ((modify (fun s : RefundDb => { s with
        products := s.products.update (fun p => p.id = product.id) fun p =>
          { p with skuId := some found } }) >>= fun _ =>
      (pure found : RefundTx Nat) >>= fun sku =>
        RefundProduct.addIntoStock { product with skuId := some sku } >>= fun _ =>
          modify fun s => { s with
            products := s.products.update (fun p => p.id = product.id) fun p =>
              { p with inStock := true } }).run s).2 fun _ => False := by
  rw [modify_bind_run, pure_bind_run]
  have hrecounted := stocked_recounts { product with skuId := some found } product.id
    { s with
      products := s.products.update (fun p => p.id = product.id) fun p =>
        { p with skuId := some found } }
  refine ⟨fun sku h => ?_, fun _ h => h.elim⟩
  by_cases hcounted : some found = some sku ∧ product.canReuse = true
  · exact hrecounted.anew sku hcounted
  · refine hrecounted.kept sku (h.of_same rfl (returnTotal_update fun p hp hid n => ?_))
    obtain rfl := hrow p hp (of_decide_eq_true hid)
    have hbefore : weight sku p = 0 := weight_of_not fun h =>
      nomatch hsku.symm.trans (isCounted_iff.mp h).1
    rw [hbefore]
    exact weight_of_not fun h => hcounted ⟨(isCounted_iff.mp h).1, (isCounted_iff.mp h).2.2⟩

theorem handler_recounts (hrow : ∀ p ∈ s.products, p.id = product.id → p = product) :
    Recounted s (product.updateProductskustatsRefundQuantity.run s).2 fun sku =>
      isCounted sku product = true := by
  unfold RefundProduct.updateProductskustatsRefundQuantity
  split
  · next hold =>
      refine ⟨fun _ h => h, fun sku h => ?_⟩
      exact absurd (hold.trans (isCounted_iff.mp h).2.1) (lt_irrefl _)
  · next hnew =>
      cases hsku : product.skuId with
      | some sku =>
        dsimp only
        rw [pure_bind_run]
        have hsame : { product with skuId := some sku } = product := by rw [← hsku]
        rw [hsame]
        have hrecounted := stocked_recounts product product.id s
        refine ⟨hrecounted.kept, fun sku' h => hrecounted.anew sku' ?_⟩
        exact ⟨(isCounted_iff.mp h).1, (isCounted_iff.mp h).2.2⟩
      | none =>
        dsimp only
        rw [bind_run]
        have hstate := getByOuterId_run product.outerSkuId product.outerId s
        cases hrun : (ProductSku.getByOuterId product.outerSkuId product.outerId).run s with
        | mk r t =>
          rw [hrun] at hstate
          obtain rfl : t = s := hstate
          have hnot : ∀ sku, ¬ isCounted sku product = true := fun sku h =>
            nomatch hsku.symm.trans (isCounted_iff.mp h).1
          cases r with
          | error e => exact ⟨fun _ h => h, fun sku h => absurd h (hnot sku)⟩
          | ok found => exact (found_recounts hrow hsku found.id).imp fun sku h => absurd h (hnot sku)

/-! ## One operation -/

theorem written_counted (hcounted : Counted s) (hstocks : t.stocks = s.stocks)
    (hrow : ∀ p ∈ t.products, p.id = product.id → p = product)
    (htotal : ∀ sku, ¬ isCounted sku product = true → s.stocks sku ≠ none →
      returnTotal t sku = returnTotal s sku) :
    Counted (product.updateProductskustatsRefundQuantity.run t).2 := by
  intro sku
  have hrecounted := handler_recounts hrow
  by_cases hproduct : isCounted sku product = true
  · exact hrecounted.anew sku hproduct
  · refine hrecounted.kept sku fun returnQuantity hstock => ?_
    have hstock' : s.stocks sku = some returnQuantity := hstocks ▸ hstock
    rw [htotal sku hproduct (hstock' ▸ Option.some_ne_none _)]
    exact hcounted sku returnQuantity hstock'

theorem counted_create (hcounted : Counted s) (product : RefundProduct) :
    Counted ((RefundOp.create product).exec s) := by
  change Counted ((s.products.stored product).updateProductskustatsRefundQuantity.run
    { s with products := s.products.insert product }).2
  refine written_counted hcounted rfl (fun p hp hid => ?_) fun sku hsku _ => ?_
  · exact Table.pk_inj hp (Table.mem_insert.mpr (.inr rfl)) hid
  · rw [returnTotal_eq, returnTotal_eq, Table.sum_insert, weight_of_not hsku, add_zero]

theorem save_counted (hcounted : Counted s) {old : RefundProduct} (hold : old ∈ s.products)
    (hid : old.id = product.id) (hweight : ∀ sku, ¬ isCounted sku product = true →
      s.stocks sku ≠ none → weight sku old = 0) :
    Counted (product.save.run s).2 := by
  change Counted (product.updateProductskustatsRefundQuantity.run
    { s with products := s.products.save product }).2
  refine written_counted hcounted rfl (fun p hp hpid => ?_) fun sku hsku hstock => ?_
  · exact Table.pk_inj hp (Table.mem_save_self hold hid) hpid
  · rw [returnTotal_eq, returnTotal_eq, Table.sum_save hold hid, hweight sku hsku hstock,
      weight_of_not hsku, sub_zero, add_zero]

theorem counted_addIntoStockSave (hcounted : Counted s) (id : Nat) (inStock : Bool) :
    Counted ((RefundOp.addIntoStockSave id inStock).exec s) := by
  change Counted ((RefundProduct.addIntoStockSave id inStock).run s).2
  unfold RefundProduct.addIntoStockSave
  cases hget : s.products.get? id with
  | none =>
    simp only [getOr_bind_run, hget]
    exact hcounted
  | some product =>
    simp only [getOr_bind_run, hget]
    split
    · obtain ⟨hproducts, hrecounted⟩ := addIntoStock_recounts product s
      rw [bind_run]
      cases hrun : product.addIntoStock.run s with
      | mk r t =>
        rw [hrun] at hproducts hrecounted
        have ht : Counted t := fun sku => hrecounted.kept sku (hcounted sku)
        cases r with
        | error e => exact ht
        | ok _ =>
          obtain ⟨hmem, -⟩ := Table.get?_eq_some.mp hget
          have hmem : product ∈ t.products := by
            rw [hproducts]
            exact hmem
          exact save_counted ht hmem rfl fun sku hsku _ => weight_of_not hsku
    · exact hcounted

theorem getBySku_spec (sku : Nat) (s : RefundDb) :
    ∃ t, t.products = s.products ∧ (∀ sku', sku' ≠ sku → t.stocks sku' = s.stocks sku') ∧
      (((getBySku sku).run s = (.error .doesNotExist, t) ∧ t.stocks sku = none) ∨
        ∃ returnQuantity, (getBySku sku).run s = (.ok returnQuantity, t) ∧
          t.stocks sku = some returnQuantity) := by
  unfold getBySku
  rw [gets_bind_run]
  cases hstock : s.stocks sku with
  | some returnQuantity => exact ⟨s, rfl, fun _ _ => rfl, .inr ⟨returnQuantity, rfl, hstock⟩⟩
  | none =>
    dsimp only
    cases hget : s.productSkus.get? sku with
    | none =>
      refine ⟨s, rfl, fun _ _ => rfl, .inl ⟨?_, hstock⟩⟩
      simp only [getOr_bind_run, hget]
    | some _ =>
      refine ⟨put sku 0 s, rfl, fun sku' hne => put_other hne 0 s, .inr ⟨0, ?_, ?_⟩⟩
      · simp only [getOr_bind_run, hget]
        rfl
      · exact Function.update_self _ _ _

theorem task_recounts (sku : Nat) (s : RefundDb) :
    Recounted s ((delay (taskRefundproductUpdateProductskustatsReturnQuantity sku)).run s).2
      fun sku' => sku' = sku := by
  obtain ⟨t, hproducts, hothers, hcase⟩ := getBySku_spec sku s
  have htotal : ∀ sku', returnTotal t sku' = returnTotal s sku' := fun sku' => by
    rw [returnTotal_eq, returnTotal_eq, hproducts]
  have hkept : ∀ sku', sku' ≠ sku → CountedAt s sku' → CountedAt t sku' := fun sku' hne h =>
    h.of_same (hothers sku' hne) (htotal sku')
  rcases hcase with ⟨hrun, hnone⟩ | ⟨returnQuantity, hrun, hsome⟩
  · have htask : (taskRefundproductUpdateProductskustatsReturnQuantity sku).run s =
        (.error .doesNotExist, t) := by
      unfold taskRefundproductUpdateProductskustatsReturnQuantity
      rw [gets_bind_run]
      exact bind_error hrun
    have hrecounted : CountedAt t sku := fun _ hstock => nomatch hnone.symm.trans hstock
    unfold delay
    rw [tryCatch_error htask]
    refine ⟨fun sku' h => ?_, fun sku' h => h ▸ hrecounted⟩
    by_cases hsku : sku' = sku
    · exact hsku ▸ hrecounted
    · exact hkept sku' hsku h
  · by_cases hquantity : returnQuantity = returnTotal s sku
    · have htask : (taskRefundproductUpdateProductskustatsReturnQuantity sku).run s = (.ok (), t) := by
        unfold taskRefundproductUpdateProductskustatsReturnQuantity
        rw [gets_bind_run, bind_ok hrun, if_neg (not_not.mpr hquantity)]
        rfl
      have hrecounted : CountedAt t sku := fun _ hstock =>
        (Option.some.inj (hstock.symm.trans hsome)).trans (hquantity.trans (htotal sku).symm)
      unfold delay
      rw [tryCatch_ok htask]
      refine ⟨fun sku' h => ?_, fun sku' h => h ▸ hrecounted⟩
      by_cases hsku : sku' = sku
      · exact hsku ▸ hrecounted
      · exact hkept sku' hsku h
    · have htask : (taskRefundproductUpdateProductskustatsReturnQuantity sku).run s =
          (.ok (), put sku (returnTotal t sku) t) := by
        unfold taskRefundproductUpdateProductskustatsReturnQuantity
        rw [gets_bind_run, bind_ok hrun, if_pos hquantity, htotal sku]
        rfl
      unfold delay
      rw [tryCatch_ok htask]
      have hput := Recounted.put t sku
      refine ⟨fun sku' h => ?_, hput.anew⟩
      by_cases hsku : sku' = sku
      · exact hput.anew sku' hsku
      · exact hput.kept sku' (hkept sku' hsku h)

theorem delay_ok (task : RefundTx Unit) (s : RefundDb) :
    ∃ t, (delay task).run s = (.ok (), t) := by
  cases hrun : task.run s with
  | mk r t =>
    cases r with
    | ok _ => exact ⟨t, tryCatch_ok hrun⟩
    | error e => exact ⟨t, tryCatch_error hrun⟩

theorem counted_refundChange (hcounted : Counted s) (originSkuId : Nat)
    (change : RefundProduct.Change) (refused : Bool) :
    Counted ((RefundOp.refundChange originSkuId change refused).exec s) := by
  change Counted ((RefundProduct.refundChange originSkuId change refused).run s).2
  unfold RefundProduct.refundChange
  rw [gets_bind_run]
  split
  · exact hcounted
  split
  · exact hcounted
  rw [modify_bind_run]
  generalize hmoved : { s with
    products := s.products.update (fun p => p.skuId = some originSkuId) fun p =>
      { p with
        skuId := some change.skuId
        outerId := change.outerId
        outerSkuId := change.outerSkuId
        title := change.title
        property := change.property } } = moved
  have hkept : ∀ sku, sku ≠ originSkuId → sku ≠ change.skuId → CountedAt moved sku := by
    intro sku horigin hchange
    subst hmoved
    refine (hcounted sku).of_same rfl (returnTotal_update fun p _ hp n => ?_)
    rw [weight_of_not, weight_of_not]
    · intro h
      exact horigin (Option.some.inj ((isCounted_iff.mp h).1.symm.trans (of_decide_eq_true hp)))
    · intro h
      exact hchange (Option.some.inj (isCounted_iff.mp h).1).symm
  have horigin := task_recounts originSkuId moved
  obtain ⟨t, ht⟩ := delay_ok (taskRefundproductUpdateProductskustatsReturnQuantity originSkuId) moved
  have hchange := task_recounts change.skuId t
  obtain ⟨u, hu⟩ := delay_ok (taskRefundproductUpdateProductskustatsReturnQuantity change.skuId) t
  rw [ht] at horigin
  rw [hu] at hchange
  rw [bind_ok ht, bind_ok hu]
  intro sku
  by_cases hsku : sku = change.skuId
  · exact hchange.anew sku hsku
  · refine hchange.kept sku ?_
    by_cases hsku' : sku = originSkuId
    · exact horigin.anew sku hsku'
    · exact horigin.kept sku (hkept sku hsku' hsku)

theorem handler_unusable (hsku : product.skuId = some sku) (hreuse : product.canReuse = false)
    (s : RefundDb) :
    (product.updateProductskustatsRefundQuantity.run s).2.stocks = s.stocks ∧
      ∀ sku', returnTotal (product.updateProductskustatsRefundQuantity.run s).2 sku' =
        returnTotal s sku' := by
  unfold RefundProduct.updateProductskustatsRefundQuantity
  split
  · exact ⟨rfl, fun _ => rfl⟩
  · rw [hsku]
    dsimp only
    rw [pure_bind_run]
    unfold RefundProduct.addIntoStock
    dsimp only
    rw [if_pos hreuse, pure_bind_run, modify_run]
    exact ⟨rfl, fun sku' => returnTotal_update fun _ _ _ _ => rfl⟩

theorem num_eq_zero_of_counted (hcounted : Counted s) (hafter : Counted (product.save.run s).2)
    {old : RefundProduct} (hold : old ∈ s.products) (hid : old.id = product.id) (hsku : product.skuId = some sku)
    (hreuse : product.canReuse = false) (hstock : s.stocks sku ≠ none)
    (hcount : isCounted sku old = true) : old.num = 0 := by
  obtain ⟨returnQuantity, hquantity⟩ := Option.ne_none_iff_exists'.mp hstock
  obtain ⟨hstocks, htotals⟩ :=
    handler_unusable hsku hreuse { s with products := s.products.save product }
  have hnew : weight sku product = 0 :=
    weight_of_not fun h => Bool.false_ne_true (hreuse.symm.trans (isCounted_iff.mp h).2.2)
  have hold' : weight sku old = old.num := if_pos hcount
  have htotal : returnTotal { s with products := s.products.save product } sku =
      returnTotal s sku - old.num := by
    rw [returnTotal_eq, returnTotal_eq, Table.sum_save hold hid, hnew, hold', add_zero]
  have hbefore := hcounted sku returnQuantity hquantity
  have hnow := hafter sku returnQuantity ((congrFun hstocks sku).trans hquantity)
  rw [hbefore] at hnow
  exact sub_eq_self.mp (hnow.trans ((htotals sku).trans htotal)).symm

theorem edit_counted_iff (hcounted : Counted s) (id : Nat) (num : Int) (canReuse : Bool) :
    Counted ((RefundOp.edit id num canReuse).exec s) ↔
      (RefundOp.edit id num canReuse).Recounts s := by
  change Counted ((RefundProduct.edit id num canReuse).run s).2 ↔ (canReuse = false → _)
  unfold RefundProduct.edit
  cases hget : s.products.get? id with
  | none =>
    simp only [getOr_bind_run, hget]
    refine iff_of_true hcounted fun _ product hproduct hid => ?_
    have hmiss := Table.first_eq_none.mp hget product hproduct
    exact absurd hid (of_decide_eq_false hmiss)
  | some old =>
    obtain ⟨hold, rfl⟩ := Table.get?_eq_some.mp hget
    simp only [getOr_bind_run, hget]
    constructor
    · rintro hafter rfl product hproduct hid sku hstock hcount
      obtain rfl := Table.pk_inj hproduct hold hid
      exact num_eq_zero_of_counted hcounted hafter hold rfl (isCounted_iff.mp hcount).1 rfl hstock
        hcount
    · intro hrecounts
      refine save_counted hcounted hold rfl fun sku hsku hstock => ?_
      by_cases hcount : isCounted sku old = true
      · unfold weight
        rw [if_pos hcount]
        obtain ⟨howner, hcreated, -⟩ := isCounted_iff.mp hcount
        refine hrecounts ?_ old hold rfl sku hstock hcount
        exact Bool.eq_false_of_not_eq_true fun hreuse =>
          hsku (isCounted_iff.mpr ⟨howner, hcreated, hreuse⟩)
      · exact weight_of_not hcount

theorem step_counted_iff (hcounted : Counted s) (op : RefundOp) :
    Counted (op.exec s) ↔ op.Recounts s := by
  cases op with
  | create product => exact iff_of_true (counted_create hcounted product) trivial
  | edit id num canReuse => exact edit_counted_iff hcounted id num canReuse
  | refundChange originSkuId change refused =>
    exact iff_of_true (counted_refundChange hcounted originSkuId change refused) trivial
  | addIntoStockSave id inStock =>
    exact iff_of_true (counted_addIntoStockSave hcounted id inStock) trivial

/-- The stocks are those of their products throughout a run exactly if no product with pieces in
a stock stops being one that can be sold again. -/
theorem counted_iff (ops : List RefundOp) (s : RefundDb) (h : Counted s) :
    Throughout RefundOp.exec Counted ops s ↔ Guarded RefundOp.exec RefundOp.Recounts ops s :=
  throughout_iff_guarded (fun _ _ (_ : True) => trivial)
    (fun _ op _ hcounted => step_counted_iff hcounted op) ops s trivial h

def openedDb : RefundDb where
  products := Table.empty.insert
    ⟨0, "p1", "s1", some 1, 2, "", "", true, commitTime + 1, true⟩
  productSkus := Table.empty.insert ⟨0, "s1", "p1"⟩
  stocks sku := if sku = 1 then some 2 else none

theorem counted_openedDb : Counted openedDb := by
  intro sku returnQuantity hstock
  by_cases hsku : sku = 1
  · subst hsku
    rw [← Option.some.inj hstock]
    decide
  · have hnone : openedDb.stocks sku = none := if_neg hsku
    exact nomatch hnone.symm.trans hstock

theorem counted_third_piece :
    Throughout RefundOp.exec Counted [.edit 1 3 true] openedDb := by
  refine (counted_iff [.edit 1 3 true] openedDb counted_openedDb).mpr ⟨?_, trivial⟩
  exact fun hreuse => nomatch hreuse

theorem counted_fails : ¬ Throughout RefundOp.exec Counted [.edit 1 2 false] openedDb := by
  intro h
  have hlast := h.last 1 2 (by decide)
  exact absurd hlast (by decide)

end ShopManager.Refunds
