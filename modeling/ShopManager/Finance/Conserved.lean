import ShopManager.Finance.Settled

/-!
# Money in merged and split bills

A merge puts what is owed by several bills into one, and a split puts some of what was paid on a
bill into another one.  Neither is to change what is owed, nor what was paid, nor whom the bills
are about.
-/

namespace ShopManager.Finance

open Library Library.Tx

variable {s t : FinanceDb} {bills : List Bill} {bill : Bill} {amount : Int}

/-! ## What should be conserved -/

def Carries (s : FinanceDb) (bill : Nat) (r : BillRelation) : Prop :=
  ∃ r' ∈ s.relations, r'.billId = bill ∧ r'.objectId = r.objectId ∧ r'.type = r.type

structure MergedInto (s t : FinanceDb) (bills : List Bill) (merged : Bill) : Prop where
  mem : merged ∈ t.bills
  new : t.bills.rows.map Bill.id = s.bills.rows.map Bill.id ++ [merged.id]
  type : merged.type = .pay ∨ merged.type = .receive
  owed : merged.planAmount * merged.type.sign = Bill.balance bills
  paid : merged.amount = (bills.map Bill.amount).sum
  relations : ∀ bill ∈ bills, ∀ r ∈ bill.relations s, Carries t merged.id r

def MergeConserves (s : FinanceDb) (bills : List Bill) : Prop :=
  ∃ t merged, (Bill.merge bills).run s = (.ok (), t) ∧ MergedInto s t bills merged

structure SplitInto (s t : FinanceDb) (bill left new : Bill) : Prop where
  mem_left : left ∈ t.bills
  mem_new : new ∈ t.bills
  same : left.id = bill.id
  ids : t.bills.rows.map Bill.id = s.bills.rows.map Bill.id ++ [new.id]
  amounts : left.amount + new.amount = bill.amount
  planAmounts : left.planAmount + new.planAmount = bill.planAmount
  relations : ∀ r ∈ bill.relations s, Carries t left.id r ∧ Carries t new.id r

def SplitConserves (s : FinanceDb) (bill : Bill) (amount : Int) : Prop :=
  ∃ t left new, (Bill.split amount bill).run s = (.ok (), t) ∧ SplitInto s t bill left new

/-- There is something to merge, payments and receipts do not cancel out, and what was paid does. -/
structure MergeFits (bills : List Bill) : Prop where
  some : bills ≠ []
  owed : Bill.balance bills ≠ 0
  paid : (bills.map Bill.amount).sum = 0

structure SplitFits (s : FinanceDb) (bill : Bill) : Prop where
  planAmount : bill.planAmount = 0
  relations : bill.relations s = []

/-! ## Merges -/

theorem sign_ofAmount (amount : Int) :
    (amount.natAbs : Int) * (BillType.ofAmount amount).sign = amount := by
  unfold BillType.ofAmount
  split
  · next hneg =>
      change (amount.natAbs : Int) * -1 = amount
      omega
  · next hneg =>
      split
      · next hzero =>
          rw [hzero]
          rfl
      · next hzero =>
          change (amount.natAbs : Int) * 1 = amount
          omega

theorem ofAmount_iff (amount : Int) :
    (BillType.ofAmount amount = .pay ∨ BillType.ofAmount amount = .receive) ↔ amount ≠ 0 := by
  unfold BillType.ofAmount
  by_cases hneg : amount < 0
  · rw [if_pos hneg]
    exact iff_of_true (.inl rfl) hneg.ne
  · rw [if_neg hneg]
    by_cases hzero : amount = 0
    · rw [if_pos hzero]
      exact iff_of_false (fun h => h.elim nofun nofun) fun h => h hzero
    · rw [if_neg hzero]
      exact iff_of_true (.inr rfl) hzero

/-- What the loop over the bills leaves: the bills are those there were but for the voided ones,
and relations are only added. -/
structure MergeLoop (merged : Nat) (bills : List Bill) (s t : FinanceDb) : Prop where
  ids : t.bills.rows.map Bill.id = s.bills.rows.map Bill.id
  others : ∀ bill ∈ s.bills, bill.id ∉ bills.map Bill.id → bill ∈ t.bills
  relations : ∀ r ∈ s.relations, r ∈ t.relations
  carried : ∀ bill ∈ bills, ∀ r ∈ bill.relations s, Carries t merged r

theorem relateOnce_run (merged : Nat) (r : BillRelation) (s : FinanceDb) :
    ∃ relations, (Bill.relateOnce merged r).run s = (.ok (), { s with relations := relations }) ∧
      (∀ r' ∈ s.relations, r' ∈ relations) ∧ Carries { s with relations := relations } merged r := by
  unfold Bill.relateOnce
  rw [gets_bind_run]
  cases hfound : s.relations.first fun r' =>
      r'.billId = merged ∧ r'.objectId = r.objectId ∧ r'.type = r.type with
  | some r' =>
    have hspec := Table.first_spec hfound
    exact ⟨s.relations, rfl, fun _ h => h, r', Table.mem_of_first hfound,
      of_decide_eq_true hspec⟩
  | none =>
    refine ⟨s.relations.insert ⟨0, merged, r.objectId, r.type⟩, rfl,
      fun _ h => Table.mem_insert.mpr (.inl h), ?_⟩
    exact ⟨_, Table.mem_insert.mpr (.inr rfl), rfl, rfl, rfl⟩

theorem Carries.mono {merged : Nat} {r : BillRelation} (h : Carries s merged r)
    (hrelations : ∀ r ∈ s.relations, r ∈ t.relations) : Carries t merged r := by
  obtain ⟨r', hr', hfields⟩ := h
  exact ⟨r', hrelations r' hr', hfields⟩

theorem relateAll_run (merged : Nat) :
    ∀ (rs : List BillRelation) (s : FinanceDb),
      ∃ relations, (forEach rs (Bill.relateOnce merged)).run s =
          (.ok (), { s with relations := relations }) ∧
        (∀ r' ∈ s.relations, r' ∈ relations) ∧
        ∀ r ∈ rs, Carries { s with relations := relations } merged r := by
  intro rs
  induction rs with
  | nil => exact fun s => ⟨s.relations, rfl, fun _ h => h, fun _ h => nomatch h⟩
  | cons r rs ih =>
    intro s
    obtain ⟨relations, hrun, hkept, hcarried⟩ := relateOnce_run merged r s
    obtain ⟨relations', hrun', hkept', hcarried'⟩ := ih { s with relations := relations }
    refine ⟨relations', ?_, fun r' hr' => hkept' r' (hkept r' hr'), fun r' hr' => ?_⟩
    · rw [forEach_cons, bind_ok hrun]
      exact hrun'
    · rcases List.mem_cons.mp hr' with rfl | hr'
      · exact hcarried.mono hkept'
      · exact hcarried' r' hr'

theorem mergeAll_run (merged : Nat) :
    ∀ (bills : List Bill) (s : FinanceDb), (∀ bill ∈ bills, ∃ row ∈ s.bills, row.id = bill.id) →
      ∃ t, (forEach bills (Bill.mergeTo merged)).run s = (.ok (), t) ∧
        MergeLoop merged bills s t := by
  intro bills
  induction bills with
  | nil => exact fun s _ => ⟨s, rfl, rfl, fun _ h _ => h, fun _ h => h, fun _ h => nomatch h⟩
  | cons bill bills ih =>
    intro s hbills
    obtain ⟨row, hrow, hid⟩ := hbills bill List.mem_cons_self
    obtain ⟨relations, hrun, hkept, hcarried⟩ := relateAll_run merged (bill.relations s) s
    have hids : (s.bills.save { bill with type := .delete }).rows.map Bill.id =
        s.bills.rows.map Bill.id := Table.map_rows_save (a := { bill with type := .delete }) hrow hid hid.symm
    obtain ⟨t, hrest, hloop⟩ := ih
      { s with relations := relations, bills := s.bills.save { bill with type := .delete } } (by
        intro bill' hbill'
        obtain ⟨row', hrow', hid'⟩ := hbills bill' (List.mem_cons_of_mem _ hbill')
        exact Table.exists_pk_save _ ⟨row', hrow', hid'⟩)
    have hfirst : (bill.mergeTo merged).run s = (.ok (), { s with
        relations := relations, bills := s.bills.save { bill with type := .delete } }) := by
      unfold Bill.mergeTo
      rw [gets_bind_run, bind_ok hrun]
      rfl
    refine ⟨t, ?_, hloop.ids.trans hids, fun b hb hnot => ?_, fun r hr => ?_, fun b hb r hr => ?_⟩
    · rw [forEach_cons, bind_ok hfirst]
      exact hrest
    · rw [List.map_cons, List.mem_cons, not_or] at hnot
      refine hloop.others b ?_ hnot.2
      exact (Table.mem_save_iff (a := { bill with type := .delete }) hrow hid).mpr
        (.inr ⟨hb, hnot.1⟩)
    · exact hloop.relations r (hkept r hr)
    · rcases List.mem_cons.mp hb with rfl | hb
      · exact (hcarried r hr).mono hloop.relations
      · refine hloop.carried b hb r ?_
        obtain ⟨hmem, hown⟩ := List.mem_filter.mp hr
        exact List.mem_filter.mpr ⟨hkept r hmem, hown⟩

theorem merge_run (hbills : ∀ bill ∈ bills, bill ∈ s.bills) (hsome : bills ≠ []) :
    ∃ t, (Bill.merge bills).run s = (.ok (), t) ∧
      MergeLoop s.bills.nextId bills { s with bills := s.bills.insert (Bill.merged bills) } t := by
  obtain ⟨t, hrun, hloop⟩ := mergeAll_run s.bills.nextId bills
    { s with bills := s.bills.insert (Bill.merged bills) } fun bill hbill =>
      ⟨bill, Table.mem_insert.mpr (.inl (hbills bill hbill)), rfl⟩
  refine ⟨t, ?_, hloop⟩
  unfold Bill.merge
  rw [raiseIf_bind_run, if_neg hsome, gets_bind_run, modify_bind_run]
  exact hrun

theorem ids_insert (s : FinanceDb) (bill : Bill) :
    (s.bills.insert bill).rows.map Bill.id = s.bills.rows.map Bill.id ++ [s.bills.nextId] := by
  rw [Table.map_rows_insert]
  rfl

theorem mergeConserves_iff (hbills : ∀ bill ∈ bills, bill ∈ s.bills) :
    MergeConserves s bills ↔ MergeFits bills := by
  by_cases hsome : bills = []
  · refine iff_of_false ?_ fun h => h.some hsome
    rintro ⟨t, merged, hrun, -⟩
    unfold Bill.merge at hrun
    rw [raiseIf_bind_run, if_pos hsome] at hrun
    exact nomatch hrun
  obtain ⟨t, hrun, hloop⟩ := merge_run hbills hsome
  have hids : t.bills.rows.map Bill.id = s.bills.rows.map Bill.id ++ [s.bills.nextId] :=
    hloop.ids.trans (ids_insert s _)
  -- the row that was inserted is not one of those that are voided
  have hmem : s.bills.stored (Bill.merged bills) ∈ t.bills := by
    refine hloop.others _ (Table.mem_insert.mpr (.inr rfl)) fun hvoided => ?_
    obtain ⟨bill, hbill, hid⟩ := List.mem_map.mp hvoided
    exact absurd hid (Table.pk_lt_nextId (hbills bill hbill)).ne
  constructor
  · rintro ⟨t', merged, hrun', hmerged⟩
    obtain rfl : t = t' := congrArg Prod.snd (hrun.symm.trans hrun')
    have hid : merged.id = s.bills.nextId :=
      (List.singleton_inj.mp (List.append_cancel_left (hids.symm.trans hmerged.new))).symm
    obtain rfl : merged = s.bills.stored (Bill.merged bills) :=
      Table.pk_inj hmerged.mem hmem hid
    exact ⟨hsome, (ofAmount_iff _).mp hmerged.type, hmerged.paid.symm⟩
  · intro hfits
    refine ⟨t, s.bills.stored (Bill.merged bills), hrun, hmem, hids,
      (ofAmount_iff _).mpr hfits.owed, sign_ofAmount _, hfits.paid.symm, ?_⟩
    exact fun bill hbill r hr => hloop.carried bill hbill r hr

def leftOf (bill : Bill) (amount : Int) : Bill := { bill with amount := bill.amount - amount }

def splitDb (s : FinanceDb) (bill : Bill) (amount : Int) : FinanceDb :=
  { s with
    bills := (s.bills.insert { bill with id := 0, amount := amount }).save (leftOf bill amount) }

theorem split_run (s : FinanceDb) (bill : Bill) (amount : Int) :
    (Bill.split amount bill).run s = (.ok (), splitDb s bill amount) := rfl

theorem splitConserves_iff (hsound : Sound s) (hbill : bill ∈ s.bills) (amount : Int) :
    SplitConserves s bill amount ↔ SplitFits s bill := by
  have hrow : bill ∈ s.bills.insert { bill with id := 0, amount := amount } :=
    Table.mem_insert.mpr (.inl hbill)
  have hids : (splitDb s bill amount).bills.rows.map Bill.id =
      s.bills.rows.map Bill.id ++ [s.bills.nextId] :=
    (Table.map_rows_save (a := leftOf bill amount) hrow rfl rfl).trans (ids_insert s _)
  have hleft : leftOf bill amount ∈ (splitDb s bill amount).bills :=
    Table.mem_save_self (a := leftOf bill amount) hrow rfl
  have hnew : s.bills.stored { bill with id := 0, amount := amount } ∈
      (splitDb s bill amount).bills :=
    (Table.mem_save_iff (a := leftOf bill amount) hrow rfl).mpr (.inr ⟨Table.mem_insert.mpr (.inr rfl),
      (Table.pk_lt_nextId hbill).ne'⟩)
  constructor
  · rintro ⟨t, left, new, hrun, hsplit⟩
    obtain rfl : splitDb s bill amount = t :=
      congrArg Prod.snd ((split_run s bill amount).symm.trans hrun)
    have hid : new.id = s.bills.nextId :=
      (List.singleton_inj.mp (List.append_cancel_left (hids.symm.trans hsplit.ids))).symm
    obtain rfl : left = leftOf bill amount := Table.pk_inj hsplit.mem_left hleft hsplit.same
    obtain rfl : new = s.bills.stored { bill with id := 0, amount := amount } :=
      Table.pk_inj hsplit.mem_new hnew hid
    refine ⟨add_eq_left.mp hsplit.planAmounts, ?_⟩
    refine List.eq_nil_iff_forall_not_mem.mpr fun r hr => ?_
    -- no relation of the state before is one of the new bill
    obtain ⟨r', hr', hbillId, -⟩ := (hsplit.relations r hr).2
    obtain ⟨row, hrow, hrowId⟩ := hsound r' hr'
    exact absurd (hrowId.trans hbillId) (Table.pk_lt_nextId hrow).ne
  · intro hfits
    refine ⟨_, leftOf bill amount, _, split_run s bill amount, hleft, hnew, rfl, hids, ?_, ?_, ?_⟩
    · exact sub_add_cancel bill.amount amount
    · exact add_eq_left.mpr hfits.planAmount
    · rw [hfits.relations]
      exact fun r hr => nomatch hr

/-- A merge of stored bills that may be merged conserves the money exactly if there is a bill,
payments and receipts do not cancel out and nothing was paid, and a split exactly if nothing is
planned and nothing related. -/
theorem conserves_iff (s : FinanceDb) (hsound : Sound s) :
    (∀ bills : List Bill, (∀ bill ∈ bills, bill ∈ s.bills ∧ 0 ≤ bill.planAmount) →
      (Bill.checkMerge bills).run s = (.ok (), s) → (MergeConserves s bills ↔ MergeFits bills)) ∧
    ∀ bill ∈ s.bills, ∀ amount, 0 < amount → amount < bill.amount →
      (SplitConserves s bill amount ↔ SplitFits s bill) :=
  ⟨fun _ hbills _ => mergeConserves_iff fun bill hbill => (hbills bill hbill).1,
    fun _ hbill amount _ _ => splitConserves_iff hsound hbill amount⟩

def owedBill (id : Nat) (planAmount paid : Int) : Bill :=
  { sampleBill planAmount with id := id, amount := paid }

def owedFinance (paid : Int) : FinanceDb where
  orderLists := Table.empty
  orderDetails := Table.empty
  bills := ((Table.empty.insert (owedBill 0 500 paid)).insert (owedBill 0 300 0)).insert
    (owedBill 0 0 50)
  relations := (Table.empty.insert ⟨0, 1, 1, .dinghuoPay⟩).insert ⟨0, 2, 2, .dinghuoPay⟩

theorem mem_owedFinance (paid : Int) :
    owedBill 1 500 paid ∈ (owedFinance paid).bills ∧ owedBill 2 300 0 ∈ (owedFinance paid).bills ∧
      owedBill 3 0 50 ∈ (owedFinance paid).bills :=
  ⟨.head _, .tail _ (.head _), .tail _ (.tail _ (.head _))⟩

theorem owedFinance_sound (paid : Int) : Sound (owedFinance paid) := by
  obtain ⟨hfirst, hsecond, -⟩ := mem_owedFinance paid
  intro r hr
  change r ∈ [⟨1, 1, 1, .dinghuoPay⟩, ⟨2, 2, 2, .dinghuoPay⟩] at hr
  obtain rfl | rfl : r = ⟨1, 1, 1, .dinghuoPay⟩ ∨ r = ⟨2, 2, 2, .dinghuoPay⟩ := by
    simpa using hr
  · exact ⟨_, hfirst, rfl⟩
  · exact ⟨_, hsecond, rfl⟩

theorem conserves_unpaid :
    MergeConserves (owedFinance 0) [owedBill 1 500 0, owedBill 2 300 0] ∧
      SplitConserves (owedFinance 0) (owedBill 3 0 50) 20 := by
  obtain ⟨hfirst, hsecond, hthird⟩ := mem_owedFinance 0
  obtain ⟨hmerge, hsplit⟩ := conserves_iff (owedFinance 0) (owedFinance_sound 0)
  constructor
  · refine (hmerge _ ?_ rfl).mpr ⟨List.cons_ne_nil _ _, by decide, rfl⟩
    intro bill hbill
    obtain rfl | rfl : bill = owedBill 1 500 0 ∨ bill = owedBill 2 300 0 := by
      simpa using hbill
    · exact ⟨hfirst, by decide⟩
    · exact ⟨hsecond, by decide⟩
  · exact (hsplit _ hthird 20 (by decide) (by decide)).mpr ⟨rfl, rfl⟩

theorem conserves_fails :
    ¬ MergeConserves (owedFinance 100) [owedBill 1 500 100, owedBill 2 300 0] ∧
      ¬ SplitConserves (owedFinance 100) (owedBill 1 500 100) 40 := by
  obtain ⟨hfirst, hsecond, -⟩ := mem_owedFinance 100
  constructor
  · rw [mergeConserves_iff]
    · exact fun hfits => absurd hfits.paid (by decide)
    · intro bill hbill
      obtain rfl | rfl : bill = owedBill 1 500 100 ∨ bill = owedBill 2 300 0 := by
        simpa using hbill
      · exact hfirst
      · exact hsecond
  · rw [splitConserves_iff (owedFinance_sound 100) hfirst]
    exact fun hfits => absurd hfits.planAmount (by decide)

end ShopManager.Finance
