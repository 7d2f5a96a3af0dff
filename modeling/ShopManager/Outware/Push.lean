import ShopManager.Outware.Model

/-!
# Pushing an order

A push that is complete, of an order that may be pushed and of items whose order numbers
are free, is sent to the gateway.  Its items take their rows before that, and keep them
when the gateway fails.
-/

namespace ShopManager.Outware

open Library Library.Tx

variable (account : Account)

def Push.code (push : Push) : String := OutwareOrder.formatOrderCode account push.orderCode

def OutwareDb.orderOf (s : OutwareDb) (push : Push) : Option OutwareOrder :=
  OutwareOrder.find (push.code account) push.orderType s

def Free (s : OutwareDb) (item : OrderItem) : Bool :=
  match OutwareOrderSku.find item.skuOrderCode s with
  | none => true
  | some sku => sku.skuCode = item.skuId && sku.isReproducible

def Takes (s : OutwareDb) (items : List OrderItem) : Prop :=
  (items.map OrderItem.skuOrderCode).Nodup ∧
    ∀ item ∈ items, item.skuId ∈ account.skuCodes ∧ Free s item = true

/-- The push has what `create_order` asks of it. -/
def Push.Complete (push : Push) : Prop :=
  ¬ (push.dictObj.receiverInfo = "" ∨ push.dictObj.orderItems = []) ∧
    ¬ (push.orderType = sourceTypeCrossboader ∧ (push.dictObj.declareType = 0 ∨
      push.dictObj.orderPersonIdname = "" ∨ push.dictObj.orderPersonIdcard = ""))

def Sends (s : OutwareDb) (push : Push) : Prop :=
  push.Complete ∧ (s.orderOf account push).all OutwareOrder.isReproducible = true ∧
    Takes account s push.dictObj.orderItems

section Decidable

variable (s : OutwareDb)

instance (items : List OrderItem) : Decidable (Takes account s items) :=
  inferInstanceAs (Decidable (_ ∧ ∀ item ∈ items, _ ∧ _))

instance (push : Push) : Decidable push.Complete := inferInstanceAs (Decidable (¬ _ ∧ ¬ _))

instance (push : Push) : Decidable (Sends account s push) :=
  inferInstanceAs (Decidable (_ ∧ _ ∧ _))

end Decidable

/-! ## The rows of the items -/

def Numbers (t : Table OutwareOrderSku) : Prop :=
  ∀ sku ∈ t, ∀ other ∈ t, sku.originSkuorderNo = other.originSkuorderNo → sku = other

/-- The row is the item's, for the order of the number `code`. -/
structure Taken (code : String) (item : OrderItem) (sku : OutwareOrderSku) : Prop where
  number : sku.originSkuorderNo = item.skuOrderCode
  product : sku.skuCode = item.skuId
  order : sku.unionOrderCode = code
  valid : sku.isValid = true

structure Takeover (code : String) (items : List OrderItem) (t t' : Table OutwareOrderSku) :
    Prop where
  has : ∀ item ∈ items, ∃ sku ∈ t', Taken code item sku
  only : ∀ sku ∈ t', (sku ∈ t ∧ ∀ item ∈ items, item.skuOrderCode ≠ sku.originSkuorderNo) ∨
    ∃ item ∈ items, Taken code item sku
  kept : ∀ sku ∈ t, ∃ sku' ∈ t', sku'.originSkuorderNo = sku.originSkuorderNo ∧
    sku'.skuCode = sku.skuCode
  others : ∀ sku ∈ t, (∀ item ∈ items, item.skuOrderCode ≠ sku.originSkuorderNo) → sku ∈ t'
  numbers : Numbers t'

section Items

variable {account} {code : String} {s : OutwareDb}

theorem find_eq_some (hnumbers : Numbers s.orderSkus) {no : String} {sku : OutwareOrderSku} :
    OutwareOrderSku.find no s = some sku ↔ sku ∈ s.orderSkus ∧ sku.originSkuorderNo = no := by
  constructor
  · intro h
    have hspec := Table.first_spec h
    exact ⟨Table.mem_of_first h, of_decide_eq_true hspec⟩
  · rintro ⟨hmem, hno⟩
    cases hfind : OutwareOrderSku.find no s with
    | none =>
      have hnone := Table.first_eq_none.1 hfind sku hmem
      simp [hno] at hnone
    | some other =>
      have hspec := Table.first_spec hfind
      have hother : other.originSkuorderNo = no := of_decide_eq_true hspec
      rw [hnumbers other (Table.mem_of_first hfind) sku hmem (hother.trans hno.symm)]

theorem find_eq_none {no : String} :
    OutwareOrderSku.find no s = none ↔ ∀ sku ∈ s.orderSkus, sku.originSkuorderNo ≠ no := by
  unfold OutwareOrderSku.find
  rw [Table.first_eq_none]
  simp

theorem Takeover.nil (t : Table OutwareOrderSku) (h : Numbers t) : Takeover code [] t t :=
  ⟨by simp, fun sku hsku => .inl ⟨hsku, by simp⟩, fun sku hsku => ⟨sku, hsku, rfl, rfl⟩,
    fun sku hsku _ => hsku, h⟩

variable {t : Table OutwareOrderSku} {item : OrderItem}

theorem Takeover.insert {sku : OutwareOrderSku}
    (h : Numbers t) (hnew : ∀ row ∈ t, row.originSkuorderNo ≠ item.skuOrderCode)
    (hsku : Taken code item sku) : Takeover code [item] t (t.insert sku) := by
  have hstored : Taken code item (t.stored sku) := ⟨hsku.number, hsku.product, hsku.order, hsku.valid⟩
  constructor
  · intro item' hitem
    rw [List.mem_singleton.1 hitem]
    exact ⟨_, Table.mem_insert.2 (.inr rfl), hstored⟩
  · intro row hrow
    rcases Table.mem_insert.1 hrow with hrow | rfl
    · left
      refine ⟨hrow, ?_⟩
      intro item' hitem heq
      rw [List.mem_singleton.1 hitem] at heq
      exact hnew row hrow heq.symm
    · exact .inr ⟨item, List.mem_singleton.2 rfl, hstored⟩
  · intro row hrow
    exact ⟨row, Table.mem_insert.2 (.inl hrow), rfl, rfl⟩
  · intro row hrow _
    exact Table.mem_insert.2 (.inl hrow)
  · intro row hrow other hother heq
    rcases Table.mem_insert.1 hrow with hrow | rfl <;>
      rcases Table.mem_insert.1 hother with hother | rfl
    · exact h row hrow other hother heq
    · exact absurd (heq.trans hstored.number) (hnew row hrow)
    · exact absurd (heq.symm.trans hstored.number) (hnew other hother)
    · rfl

theorem Takeover.save {row sku : OutwareOrderSku}
    (h : Numbers t) (hrow : row ∈ t) (hid : row.id = sku.id)
    (hno : row.originSkuorderNo = item.skuOrderCode) (hcode : row.skuCode = item.skuId)
    (hsku : Taken code item sku) : Takeover code [item] t (t.save sku) := by
  have hmem : sku ∈ t.save sku := Table.mem_save_self hrow hid
  have hother : ∀ other ∈ t, other.originSkuorderNo ≠ item.skuOrderCode →
      other ∈ t.save sku := by
    intro other hother hne
    refine Table.mem_update.2 (.inr ⟨hother, ?_⟩)
    have hne' : Row.pk other ≠ Row.pk sku := by
      intro heq
      rw [Table.pk_inj hother hrow (heq.trans hid.symm)] at hne
      exact hne hno
    simpa using hne'
  have hcases : ∀ other ∈ t.save sku, other = sku ∨
      (other ∈ t ∧ other.originSkuorderNo ≠ item.skuOrderCode) := by
    intro other hother
    rcases Table.mem_save hother with rfl | ⟨hother, hne⟩
    · exact .inl rfl
    · refine .inr ⟨hother, ?_⟩
      intro heq
      rw [h other hother row hrow (heq.trans hno.symm)] at hne
      exact hne hid
  constructor
  · intro item' hitem
    rw [List.mem_singleton.1 hitem]
    exact ⟨sku, hmem, hsku⟩
  · intro other hother
    rcases hcases other hother with rfl | ⟨hother, hne⟩
    · exact .inr ⟨item, List.mem_singleton.2 rfl, hsku⟩
    · left
      refine ⟨hother, ?_⟩
      intro item' hitem heq
      rw [List.mem_singleton.1 hitem] at heq
      exact hne heq.symm
  · intro other hmemOther
    by_cases hne : other.originSkuorderNo = item.skuOrderCode
    · rw [h other hmemOther row hrow (hne.trans hno.symm)]
      exact ⟨sku, hmem, hsku.number.trans hno.symm, hsku.product.trans hcode.symm⟩
    · exact ⟨other, hother other hmemOther hne, rfl, rfl⟩
  · intro other hmemOther hne
    exact hother other hmemOther fun heq => hne item (List.mem_singleton.2 rfl) heq.symm
  · intro a ha b hb heq
    rcases hcases a ha with rfl | ⟨ha, hane⟩ <;> rcases hcases b hb with rfl | ⟨hb, hbne⟩
    · rfl
    · exact absurd (heq.symm.trans hsku.number) hbne
    · exact absurd (heq.trans hsku.number) hane
    · exact h a ha b hb heq

theorem Takeover.cons {items : List OrderItem}
    {t' t'' : Table OutwareOrderSku} (hfirst : Takeover code [item] t t')
    (hrest : Takeover code items t' t'') (hnew : item.skuOrderCode ∉ items.map OrderItem.skuOrderCode) :
    Takeover code (item :: items) t t'' := by
  constructor
  · intro item' hitem
    rcases List.mem_cons.1 hitem with rfl | hitem
    · obtain ⟨sku, hsku, htaken⟩ := hfirst.has item' (List.mem_singleton.2 rfl)
      refine ⟨sku, hrest.others sku hsku ?_, htaken⟩
      intro other hother heq
      exact hnew (List.mem_map.2 ⟨other, hother, heq.trans htaken.number⟩)
    · exact hrest.has item' hitem
  · intro sku hsku
    rcases hrest.only sku hsku with ⟨hsku, hne⟩ | ⟨item', hitem, htaken⟩
    · rcases hfirst.only sku hsku with ⟨hsku, hne'⟩ | ⟨item', hitem, htaken⟩
      · left
        refine ⟨hsku, ?_⟩
        intro item' hitem
        rcases List.mem_cons.1 hitem with rfl | hitem
        · exact hne' item' (List.mem_singleton.2 rfl)
        · exact hne item' hitem
      · rw [List.mem_singleton.1 hitem] at htaken
        exact .inr ⟨item, List.mem_cons_self .., htaken⟩
    · exact .inr ⟨item', List.mem_cons_of_mem _ hitem, htaken⟩
  · intro sku hsku
    obtain ⟨sku', hsku', hno, hcode⟩ := hfirst.kept sku hsku
    obtain ⟨sku'', hsku'', hno', hcode'⟩ := hrest.kept sku' hsku'
    exact ⟨sku'', hsku'', hno'.trans hno, hcode'.trans hcode⟩
  · intro sku hsku hne
    have hfirst' := hfirst.others sku hsku fun item' hitem => by
      rw [List.mem_singleton.1 hitem]
      exact hne item (List.mem_cons_self ..)
    exact hrest.others sku hfirst' fun item' hitem => hne item' (List.mem_cons_of_mem _ hitem)
  · exact hrest.numbers

theorem push_ok (code : String) (hnumbers : Numbers s.orderSkus)
    (hknown : item.skuId ∈ account.skuCodes) (hfree : Free s item = true) :
    ∃ t, (OutwareOrderSku.push account code item).run s = (.ok (), { s with orderSkus := t }) ∧
      Takeover code [item] s.orderSkus t := by
  unfold OutwareOrderSku.push
  rw [raiseIf_bind_run, if_neg (not_not.2 hknown), gets_bind_run]
  unfold Free at hfree
  cases hfind : OutwareOrderSku.find item.skuOrderCode s with
  | none => exact ⟨_, rfl, Takeover.insert hnumbers (find_eq_none.1 hfind) ⟨rfl, rfl, rfl, rfl⟩⟩
  | some sku =>
    obtain ⟨hmem, hno⟩ := (find_eq_some hnumbers).1 hfind
    rw [hfind] at hfree
    simp only [Bool.and_eq_true, decide_eq_true_eq] at hfree
    simp only
    rw [raiseIf_bind_run, if_neg (not_not.2 hfree.1), raiseIf_bind_run, if_neg (by simp [hfree.2])]
    exact ⟨_, rfl, Takeover.save hnumbers hmem rfl hno hfree.1 ⟨hno, hfree.1, rfl, rfl⟩⟩

theorem push_error (code : String) (h : ¬ (item.skuId ∈ account.skuCodes ∧ Free s item = true)) :
    ∃ e, (OutwareOrderSku.push account code item).run s = (.error e, s) := by
  unfold OutwareOrderSku.push
  rw [raiseIf_bind_run]
  by_cases hknown : item.skuId ∈ account.skuCodes
  · rw [if_neg (not_not.2 hknown), gets_bind_run]
    have hfree : Free s item ≠ true := fun hfree => h ⟨hknown, hfree⟩
    unfold Free at hfree
    cases hfind : OutwareOrderSku.find item.skuOrderCode s with
    | none =>
      rw [hfind] at hfree
      exact absurd rfl hfree
    | some sku =>
      rw [hfind] at hfree
      simp only
      rw [raiseIf_bind_run]
      by_cases hcode : sku.skuCode = item.skuId
      · rw [if_neg (not_not.2 hcode), raiseIf_bind_run, if_pos (by simpa [hcode] using hfree)]
        exact ⟨_, rfl⟩
      · rw [if_pos hcode]
        exact ⟨_, rfl⟩
  · rw [if_pos hknown]
    exact ⟨_, rfl⟩

theorem find_takeover
    (hnumbers : Numbers s.orderSkus) (h : Takeover code [item] s.orderSkus t) {no : String}
    (hne : item.skuOrderCode ≠ no) :
    OutwareOrderSku.find no { s with orderSkus := t } = OutwareOrderSku.find no s := by
  cases hfind : OutwareOrderSku.find no s with
  | none =>
    rw [find_eq_none] at hfind ⊢
    intro sku hsku hno
    rcases h.only sku hsku with ⟨hsku, -⟩ | ⟨item', hitem, htaken⟩
    · exact hfind sku hsku hno
    · rw [List.mem_singleton.1 hitem] at htaken
      exact hne (htaken.number.symm.trans hno)
  | some sku =>
    obtain ⟨hmem, hno⟩ := (find_eq_some hnumbers).1 hfind
    refine (find_eq_some h.numbers).2 ⟨h.others sku hmem ?_, hno⟩
    intro item' hitem heq
    rw [List.mem_singleton.1 hitem] at heq
    exact hne (heq.trans hno)

theorem takes_cons {items : List OrderItem}
    (hnumbers : Numbers s.orderSkus) (hitem : item.skuId ∈ account.skuCodes ∧ Free s item = true)
    (h : Takeover code [item] s.orderSkus t) :
    Takes account s (item :: items) ↔
      item.skuOrderCode ∉ items.map OrderItem.skuOrderCode ∧
        Takes account { s with orderSkus := t } items := by
  have hfree : item.skuOrderCode ∉ items.map OrderItem.skuOrderCode → ∀ other ∈ items,
      Free { s with orderSkus := t } other = Free s other := by
    intro hnew other hother
    unfold Free
    rw [find_takeover hnumbers h fun heq => hnew (List.mem_map.2 ⟨other, hother, heq.symm⟩)]
  unfold Takes
  rw [List.map_cons, List.nodup_cons]
  constructor
  · rintro ⟨⟨hnew, hnodup⟩, htakes⟩
    refine ⟨hnew, hnodup, ?_⟩
    intro other hother
    rw [hfree hnew other hother]
    exact htakes other (List.mem_cons_of_mem _ hother)
  · rintro ⟨hnew, hnodup, htakes⟩
    refine ⟨⟨hnew, hnodup⟩, ?_⟩
    intro other hother
    rcases List.mem_cons.1 hother with rfl | hother
    · exact hitem
    · rw [← hfree hnew other hother]
      exact htakes other hother

theorem free_taken {other : OrderItem}
    (h : Takeover code [item] s.orderSkus t) (heq : other.skuOrderCode = item.skuOrderCode) :
    Free { s with orderSkus := t } other = false := by
  obtain ⟨sku, hsku, htaken⟩ := h.has item (List.mem_singleton.2 rfl)
  have hfind : OutwareOrderSku.find other.skuOrderCode { s with orderSkus := t } = some sku :=
    (find_eq_some h.numbers).2 ⟨hsku, htaken.number.trans heq.symm⟩
  unfold Free
  rw [hfind]
  simp [OutwareOrderSku.isReproducible, htaken.valid]

theorem forEach_push_ok (code : String) (items : List OrderItem) :
    ∀ s : OutwareDb, Numbers s.orderSkus → Takes account s items →
      ∃ t, (forEach items (OutwareOrderSku.push account code)).run s =
          (.ok (), { s with orderSkus := t }) ∧
        Takeover code items s.orderSkus t := by
  induction items with
  | nil =>
    intro s hnumbers _
    exact ⟨_, rfl, Takeover.nil _ hnumbers⟩
  | cons item items ih =>
    intro s hnumbers htakes
    have hitem := htakes.2 item (List.mem_cons_self ..)
    obtain ⟨t, hrun, hfirst⟩ := push_ok code hnumbers hitem.1 hitem.2
    obtain ⟨hnew, htakes'⟩ := (takes_cons hnumbers hitem hfirst).1 htakes
    obtain ⟨t', hrun', hrest⟩ := ih _ hfirst.numbers htakes'
    refine ⟨t', ?_, hfirst.cons hrest hnew⟩
    rw [forEach_cons, bind_ok hrun]
    exact hrun'

theorem forEach_push_error (code : String) (items : List OrderItem) :
    ∀ s : OutwareDb, Numbers s.orderSkus → ¬ Takes account s items →
      ∃ e s', (forEach items (OutwareOrderSku.push account code)).run s = (.error e, s') := by
  induction items with
  | nil =>
    intro s _ hnot
    exact absurd ⟨List.nodup_nil, by simp⟩ hnot
  | cons item items ih =>
    intro s hnumbers hnot
    rw [forEach_cons]
    by_cases hitem : item.skuId ∈ account.skuCodes ∧ Free s item = true
    · obtain ⟨t, hrun, hfirst⟩ := push_ok code hnumbers hitem.1 hitem.2
      rw [bind_ok hrun]
      apply ih _ hfirst.numbers
      intro htakes
      refine hnot ((takes_cons hnumbers hitem hfirst).2 ⟨?_, htakes⟩)
      intro hmem
      obtain ⟨other, hother, heq⟩ := List.mem_map.1 hmem
      have hfree := (htakes.2 other hother).2
      rw [free_taken hfirst heq] at hfree
      cases hfree
    · obtain ⟨e, hrun⟩ := push_error code hitem
      exact ⟨e, s, bind_error hrun⟩

end Items

/-! ## What a push does -/

def Replaced (t t' : Table OutwareOrder) (order : OutwareOrder) : Prop :=
  ∀ row, row ∈ t' ↔ row = order ∨ (row ∈ t ∧ row.id ≠ order.id)

variable {order : OutwareOrder}

theorem Replaced.save {t : Table OutwareOrder} {old : OutwareOrder} (hold : old ∈ t)
    (hid : old.id = order.id) : Replaced t (t.save order) order := by
  intro row
  exact Table.mem_save_iff hold hid

theorem Replaced.insert (t : Table OutwareOrder) (order : OutwareOrder) :
    Replaced t (t.insert order) (t.stored order) := by
  intro row
  rw [Table.mem_insert]
  constructor
  · rintro (hrow | rfl)
    · have hlt : row.id < t.nextId := Table.pk_lt_nextId hrow
      exact .inr ⟨hrow, hlt.ne⟩
    · exact .inl rfl
  · rintro (rfl | ⟨hrow, -⟩)
    · exact .inr rfl
    · exact .inl hrow

theorem Replaced.saveAgain {t t' : Table OutwareOrder} {order' : OutwareOrder}
    (h : Replaced t t' order) (hid : order.id = order'.id) :
    Replaced t (t'.save order') order' := by
  intro row
  rw [Table.mem_save_iff ((h order).2 (.inl rfl)) hid]
  constructor
  · rintro (rfl | ⟨hrow, hne⟩)
    · exact .inl rfl
    · rcases (h row).1 hrow with rfl | ⟨hrow, -⟩
      · exact absurd hid hne
      · exact .inr ⟨hrow, hne⟩
  · rintro (rfl | ⟨hrow, hne⟩)
    · exact .inl rfl
    · exact .inr ⟨(h row).2 (.inr ⟨hrow, hid ▸ hne⟩), hne⟩

section Pushes

variable {account} {s : OutwareDb} {push : Push}

structure OfPush (account : Account) (s : OutwareDb) (push : Push) (order : OutwareOrder) :
    Prop where
  code : order.unionOrderCode = push.code account
  type : order.orderType = push.orderType
  row : (s.orderOf account push = none ∧ order.status = .normal ∧
      ∀ row ∈ s.orders, row.id ≠ order.id) ∨
    ∃ old ∈ s.orders, s.orderOf account push = some old ∧ old.id = order.id ∧
      order.status = old.status

theorem orderOf_spec (h : s.orderOf account push = some order) :
    order ∈ s.orders ∧ order.unionOrderCode = push.code account ∧
      order.orderType = push.orderType := by
  have hspec := Table.first_spec h
  exact ⟨Table.mem_of_first h, of_decide_eq_true hspec⟩

theorem createOrGet_ok (h : (s.orderOf account push).all OutwareOrder.isReproducible = true) :
    ∃ order t, (OutwareOrder.createOrGet push (push.code account)).run s =
        (.ok (order, true), { s with orders := t }) ∧
      OfPush account s push order ∧ Replaced s.orders t order := by
  unfold OutwareOrder.createOrGet
  rw [gets_bind_run]
  change (s.orderOf account push).all _ = true at h
  cases hfind : s.orderOf account push with
  | none =>
    have hfind' : OutwareOrder.find (push.code account) push.orderType s = none := hfind
    rw [hfind']
    refine ⟨_, _, rfl, ⟨rfl, rfl, .inl ⟨hfind, rfl, ?_⟩⟩, Replaced.insert _ _⟩
    intro row hrow
    have hlt : row.id < s.orders.nextId := Table.pk_lt_nextId hrow
    exact hlt.ne
  | some old =>
    have hfind' : OutwareOrder.find (push.code account) push.orderType s = some old := hfind
    obtain ⟨hold, hcode, htype⟩ := orderOf_spec hfind
    rw [hfind, Option.all_some] at h
    rw [hfind']
    simp only
    rw [if_pos h]
    exact ⟨_, _, rfl, ⟨hcode, htype, .inr ⟨old, hold, hfind, rfl, rfl⟩⟩, Replaced.save hold rfl⟩

theorem createOrGet_held (hfind : s.orderOf account push = some order)
    (h : order.isReproducible = false) :
    (OutwareOrder.createOrGet push (push.code account)).run s = (.ok (order, false), s) := by
  unfold OutwareOrder.createOrGet
  have hfind' : OutwareOrder.find (push.code account) push.orderType s = some order := hfind
  rw [gets_bind_run, hfind']
  simp only
  rw [if_neg (by simp [h])]
  rfl

theorem check_ok (h : push.Complete) : push.check.run s = (.ok (), s) := by
  unfold Push.check
  rw [raiseIf_bind_run, if_neg h.1, raiseIf_run, if_neg h.2]

theorem check_error (h : ¬ push.Complete) : ∃ e, push.check.run s = (.error e, s) := by
  unfold Push.check
  rw [raiseIf_bind_run]
  by_cases haddress : push.dictObj.receiverInfo = "" ∨ push.dictObj.orderItems = []
  · rw [if_pos haddress]
    exact ⟨_, rfl⟩
  · rw [if_neg haddress, raiseIf_run, if_pos (not_not.1 fun hborder => h ⟨haddress, hborder⟩)]
    exact ⟨_, rfl⟩

/-- A push that is sent: its rows are stored, and the gateway and the records have it. -/
structure Sent (account : Account) (s s' : OutwareDb) (push : Push) (success : Bool)
    (order : OutwareOrder) : Prop where
  code : order.unionOrderCode = push.code account
  type : order.orderType = push.orderType
  row : (s.orderOf account push = none ∧ (success = false → order.status = .normal) ∧
      ∀ row ∈ s.orders, row.id ≠ order.id) ∨
    ∃ old ∈ s.orders, s.orderOf account push = some old ∧ old.id = order.id ∧
      (success = false → order.status = old.status)
  received : success = true → order.status = .received
  orders : Replaced s.orders s'.orders order
  skus : Takeover (push.code account) push.dictObj.orderItems s.orderSkus s'.orderSkus
  records : s'.records = s.records ++ [⟨order.id, .orderCreate, success⟩]
  requests : s'.requests = s.requests ++ [⟨order.id, .create push, success⟩]

theorem store_ok (hnumbers : Numbers s.orderSkus)
    (h : (s.orderOf account push).all OutwareOrder.isReproducible = true)
    (htakes : Takes account s push.dictObj.orderItems) :
    ∃ order t u, (push.store account (push.code account)).run s =
        (.ok (order, true), { s with
          orders := t
          orderSkus := u }) ∧
      OfPush account s push order ∧ Replaced s.orders t order ∧
      Takeover (push.code account) push.dictObj.orderItems s.orderSkus u := by
  obtain ⟨order, t, hrun, hof, hreplaced⟩ := createOrGet_ok h
  obtain ⟨u, hrun', htakeover⟩ := forEach_push_ok (push.code account)
    push.dictObj.orderItems { s with orders := t } hnumbers htakes
  refine ⟨order, t, u, ?_, hof, hreplaced, htakeover⟩
  apply atomic_ok
  rw [bind_ok hrun]
  simp only [if_true]
  rw [bind_ok hrun']
  rfl

theorem store_error (hnumbers : Numbers s.orderSkus)
    (h : (s.orderOf account push).all OutwareOrder.isReproducible = true)
    (htakes : ¬ Takes account s push.dictObj.orderItems) :
    ∃ e, (push.store account (push.code account)).run s = (.error e, s) := by
  obtain ⟨order, t, hrun, -, -⟩ := createOrGet_ok h
  obtain ⟨e, s', hrun'⟩ := forEach_push_error (push.code account)
    push.dictObj.orderItems { s with orders := t } hnumbers htakes
  refine ⟨e, ?_⟩
  unfold Push.store
  rw [atomic_error ((bind_ok hrun).trans ?_)]
  · exact s'
  · simp only [if_true]
    exact bind_error hrun'

theorem store_held (hfind : s.orderOf account push = some order)
    (h : order.isReproducible = false) :
    (push.store account (push.code account)).run s = (.ok (order, false), s) := by
  apply atomic_ok
  rw [bind_ok (createOrGet_held hfind h)]
  rfl

theorem logged_ok {actionCode : Action} {m : OutwareTx Response} {s s' : OutwareDb}
    {resp : Response} (h : m.run s = (.ok resp, s')) :
    (logged actionCode m).run s = (.ok resp, { s' with
      records := s'.records ++ [⟨resp.object.id, actionCode, resp.success⟩] }) := by
  unfold logged
  rw [bind_ok h]
  rfl

theorem logged_error {actionCode : Action} {m : OutwareTx Response} {s s' : OutwareDb} {e : Exn}
    (h : m.run s = (.error e, s')) : (logged actionCode m).run s = (.error e, s') := bind_error h

theorem createOrder_error (hnumbers : Numbers s.orderSkus)
    (h : ¬ (push.Complete ∧ ((s.orderOf account push).all OutwareOrder.isReproducible = true →
      Takes account s push.dictObj.orderItems))) (success : Bool) :
    ∃ e, (createOrder account success push).run s = (.error e, s) := by
  unfold createOrder
  by_cases hcomplete : push.Complete
  · have hall : (s.orderOf account push).all OutwareOrder.isReproducible = true := by
      by_contra hnot
      exact h ⟨hcomplete, fun hall => absurd hall hnot⟩
    have htakes : ¬ Takes account s push.dictObj.orderItems := fun htakes =>
      h ⟨hcomplete, fun _ => htakes⟩
    obtain ⟨e, hrun⟩ := store_error hnumbers hall htakes
    refine ⟨e, logged_error ?_⟩
    rw [bind_ok (check_ok hcomplete)]
    exact bind_error hrun
  · obtain ⟨e, hrun⟩ := check_error (s := s) hcomplete
    exact ⟨e, logged_error (bind_error hrun)⟩

theorem createOrder_held (hcomplete : push.Complete)
    (hfind : s.orderOf account push = some order) (h : order.isReproducible = false)
    (success : Bool) :
    (createOrder account success push).run s = (.ok ⟨true, order⟩, { s with
      records := s.records ++ [⟨order.id, .orderCreate, true⟩] }) := by
  unfold createOrder
  apply logged_ok
  rw [bind_ok (check_ok hcomplete)]
  change (push.store account (push.code account) >>= _).run s = _
  rw [bind_ok (store_held hfind h)]
  rfl

theorem createOrder_sent (hnumbers : Numbers s.orderSkus) (h : Sends account s push)
    (success : Bool) :
    ∃ order resp s', (createOrder account success push).run s = (.ok resp, s') ∧
      Sent account s s' push success order := by
  obtain ⟨hcomplete, hall, htakes⟩ := h
  obtain ⟨order, t, u, hrun, hof, hreplaced, htakeover⟩ := store_ok hnumbers hall htakes
  unfold createOrder
  cases success with
  | false =>
    refine ⟨order, _, _, logged_ok ((bind_ok (check_ok hcomplete)).trans
      ((bind_ok hrun).trans rfl)), ?_⟩
    refine ⟨hof.code, hof.type, ?_, nofun, hreplaced, htakeover, rfl, rfl⟩
    rcases hof.row with ⟨hnone, hstatus, hnew⟩ | ⟨old, hold, hfind, hid, hstatus⟩
    · exact .inl ⟨hnone, fun _ => hstatus, hnew⟩
    · exact .inr ⟨old, hold, hfind, hid, fun _ => hstatus⟩
  | true =>
    refine ⟨{ order with status := .received }, _, _, logged_ok ((bind_ok (check_ok hcomplete)).trans
      ((bind_ok hrun).trans rfl)), ?_⟩
    refine ⟨hof.code, hof.type, ?_, fun _ => rfl, hreplaced.saveAgain rfl, htakeover, rfl, rfl⟩
    rcases hof.row with ⟨hnone, -, hnew⟩ | ⟨old, hold, hfind, hid, -⟩
    · exact .inl ⟨hnone, nofun, hnew⟩
    · exact .inr ⟨old, hold, hfind, hid, nofun⟩

end Pushes

end ShopManager.Outware
