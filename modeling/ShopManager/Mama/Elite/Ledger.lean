import ShopManager.Mama.Elite.Model

/-!
# The amounts and the ledger

Each amount of a mama is to be the sum of the transfers it stands for, and the task is to write
that whatever it finds.
-/

namespace ShopManager.Mama.Elite

open Library Coupon

/-! ## The ledger -/

def Amount.inward : Amount → Bool
  | .purchaseAmountIn | .transferAmountIn | .returnAmountIn | .saleAmountIn
  | .refundCouponIn | .refundAmountIn | .exchgAmountIn | .giftAmountIn => true
  | _ => false

def Amount.transferType : Amount → TransferType
  | .purchaseAmountOut | .purchaseAmountIn => .inBuyCoupon
  | .transferAmountOut | .transferAmountIn => .outTransfer
  | .returnAmountOut | .returnAmountIn => .inReturnCoupon
  | .saleAmountOut | .saleAmountIn => .outConsumed
  | .refundCouponOut | .refundCouponIn => .inReturnGoods
  | .refundAmountOut | .refundAmountIn => .outCashout
  | .exchgAmountOut | .exchgAmountIn => .outExchgSaleorder
  | .giftAmountOut | .giftAmountIn => .inGiftCoupon

def Amount.mamaId (column : Amount) (record : CouponTransferRecord) : Nat :=
  if column.inward then record.couponToMamaId else record.couponFromMamaId

def entries (s : EliteDb) (mamaId : Nat) (column : Amount) : List CouponTransferRecord :=
  s.baseQs.filter fun record =>
    column.mamaId record = mamaId ∧ record.transferType = column.transferType

def ledger (s : EliteDb) (mamaId : Nat) (column : Amount) : ℚ :=
  ((entries s mamaId column).map CouponTransferRecord.recordAmount).sum

def Mentioned (s : EliteDb) (mamaId : Nat) : Prop :=
  ∃ record ∈ s.baseQs, record.couponToMamaId = mamaId ∨ record.couponFromMamaId = mamaId

structure Fresh (s t : EliteDb) : Prop where
  rows : ∀ mamaId, Mentioned s mamaId → t.statuses mamaId ≠ none
  amounts : ∀ mamaId status, t.statuses mamaId = some status →
    ∀ column, (status.amount column : ℚ) = ledger s mamaId column

def stored (s : EliteDb) (mamaId : Nat) (column : Amount) : Int :=
  match s.statuses mamaId with
  | some status => status.amount column
  | none => 0

/-- A column without records has to be zero before, the one of coupons given for returned goods
is not written at all, and the one of coupons got for them is written with what was given. -/
structure Fits (s : EliteDb) (mamaId : Nat) : Prop where
  written : ∀ column, column ≠ .refundCouponOut → column ≠ .refundCouponIn →
    if entries s mamaId column = [] then stored s mamaId column = 0
    else (ledger s mamaId column).den = 1
  given : (stored s mamaId .refundCouponOut : ℚ) = ledger s mamaId .refundCouponOut
  got : if entries s mamaId .refundCouponOut = [] then
      if entries s mamaId .refundCouponIn = [] then stored s mamaId .refundCouponIn = 0
      else (ledger s mamaId .refundCouponIn).den = 1
    else (truncate (ledger s mamaId .refundCouponOut) : ℚ) = ledger s mamaId .refundCouponIn

theorem truncate_intCast (n : Int) : truncate (n : ℚ) = n := by
  unfold truncate
  rw [Rat.num_intCast, Rat.den_intCast]
  exact Int.tdiv_one n

theorem truncate_eq_iff (q : ℚ) : (truncate q : ℚ) = q ↔ q.den = 1 := by
  constructor
  · intro h
    rw [← h]
    exact Rat.den_intCast _
  · intro h
    obtain ⟨n, rfl⟩ : ∃ n : Int, (n : ℚ) = q := ⟨q.num, (Rat.den_eq_one_iff q).mp h⟩
    rw [truncate_intCast]

/-! ## The dictionary -/

theorem inColumn_eq_some {t : TransferType} {column : Amount} :
    inColumn t = some column ↔ column.inward = true ∧ t = column.transferType := by
  cases t <;> cases column <;> decide

theorem outColumn_eq_some {t : TransferType} {column : Amount} :
    outColumn t = some column ↔
      (column.inward = false ∧ column ≠ .refundCouponOut ∧ t = column.transferType) ∨
        (column = .refundCouponIn ∧ t = .inReturnGoods) := by
  cases t <;> cases column <;> decide

theorem mem_aggregated {mama : CouponTransferRecord → Nat} {records : List CouponTransferRecord}
    {agg : Agg} :
    agg ∈ aggregated mama records ↔
      (∃ record ∈ records, mama record = agg.mamaId ∧ record.transferType = agg.transferType) ∧
      agg.recordAmount = ((records.filter fun record => mama record = agg.mamaId ∧
        record.transferType = agg.transferType).map CouponTransferRecord.recordAmount).sum := by
  unfold aggregated
  rw [List.mem_map]
  constructor
  · rintro ⟨key, hkey, rfl⟩
    obtain ⟨record, hrecord, rfl⟩ := List.mem_map.mp (List.mem_dedup.mp hkey)
    refine ⟨⟨record, hrecord, rfl, rfl⟩, ?_⟩
    simp only [Prod.mk.injEq]
  · rintro ⟨⟨record, hrecord, hmama, htype⟩, hamount⟩
    refine ⟨(agg.mamaId, agg.transferType), List.mem_dedup.mpr (List.mem_map.mpr
      ⟨record, hrecord, Prod.ext hmama htype⟩), ?_⟩
    simp only [Prod.mk.injEq]
    rw [← hamount]

variable {s t : EliteDb} {mamaId : Nat} {column : Amount}

namespace EliteMamas

theorem mem_keys_updateAll (c : TransferType → Option Amount) :
    ∀ (aggs : List Agg) (mamas : EliteMamas),
      mamaId ∈ (mamas.updateAll c aggs).keys ↔
        mamaId ∈ mamas.keys ∨ ∃ agg ∈ aggs, agg.mamaId = mamaId := by
  intro aggs
  induction aggs with
  | nil =>
    intro mamas
    exact (or_iff_left fun ⟨_, h, _⟩ => nomatch h).symm
  | cons agg aggs ih =>
    intro mamas
    have hupdate : mamaId ∈ (mamas.update c agg).keys ↔
        mamaId ∈ mamas.keys ∨ agg.mamaId = mamaId := by
      unfold EliteMamas.update
      dsimp only
      split
      · next hmem => exact ⟨.inl, fun h => h.elim id fun heq => heq ▸ hmem⟩
      · rw [List.mem_append, List.mem_singleton]
        exact or_congr_right eq_comm
    change mamaId ∈ ((mamas.update c agg).updateAll c aggs).keys ↔ _
    rw [ih, hupdate, or_assoc, List.exists_mem_cons_iff]

theorem nodup_keys_updateAll (c : TransferType → Option Amount) :
    ∀ (aggs : List Agg) (mamas : EliteMamas), mamas.keys.Nodup →
      (mamas.updateAll c aggs).keys.Nodup := by
  intro aggs
  induction aggs with
  | nil => exact fun _ h => h
  | cons agg aggs ih =>
    intro mamas hnodup
    refine ih (mamas.update c agg) ?_
    unfold EliteMamas.update
    dsimp only
    split
    · exact hnodup
    · next hmem =>
        rw [← List.concat_eq_append]
        exact List.Nodup.concat hmem hnodup

theorem data_updateAll (c : TransferType → Option Amount) (mamaId : Nat) (column : Amount)
    (amount : ℚ) :
    ∀ (aggs : List Agg) (mamas : EliteMamas),
      (∀ agg ∈ aggs, agg.mamaId = mamaId → c agg.transferType = some column →
        agg.recordAmount = amount) →
      ((∃ agg ∈ aggs, agg.mamaId = mamaId ∧ c agg.transferType = some column) →
        (mamas.updateAll c aggs).data mamaId column = some amount) ∧
      ((¬ ∃ agg ∈ aggs, agg.mamaId = mamaId ∧ c agg.transferType = some column) →
        (mamas.updateAll c aggs).data mamaId column = mamas.data mamaId column) := by
  intro aggs
  induction aggs with
  | nil => exact fun mamas _ => ⟨fun ⟨_, h, _⟩ => (nomatch h), fun _ => rfl⟩
  | cons agg aggs ih =>
    intro mamas hamount
    obtain ⟨hsome, hnone⟩ := ih (mamas.update c agg) fun agg' hagg =>
      hamount agg' (List.mem_cons_of_mem _ hagg)
    have hhead : (mamas.update c agg).data mamaId column =
        if agg.mamaId = mamaId ∧ c agg.transferType = some column then some agg.recordAmount
        else mamas.data mamaId column := by
      unfold EliteMamas.update
      dsimp only
      rw [Function.update_apply]
      by_cases hmama : mamaId = agg.mamaId
      · subst hmama
        rw [if_pos rfl]
        exact if_congr (and_iff_right rfl).symm rfl rfl
      · rw [if_neg hmama, if_neg fun h => hmama h.1.symm]
    change (_ → ((mamas.update c agg).updateAll c aggs).data mamaId column = _) ∧
      (_ → ((mamas.update c agg).updateAll c aggs).data mamaId column = _)
    rw [List.exists_mem_cons_iff]
    refine ⟨fun h => ?_, fun h => ?_⟩
    · by_cases hlater : ∃ agg ∈ aggs, agg.mamaId = mamaId ∧ c agg.transferType = some column
      · exact hsome hlater
      · have hfirst := h.resolve_right hlater
        rw [hnone hlater, hhead, if_pos hfirst,
          hamount agg List.mem_cons_self hfirst.1 hfirst.2]
    · rw [hnone fun hlater => h (.inr hlater), hhead, if_neg fun hfirst => h (.inl hfirst)]

end EliteMamas

theorem exists_aggregated_iff (mama : CouponTransferRecord → Nat) (mamaId : Nat)
    (p : TransferType → Prop) (records : List CouponTransferRecord) :
    (∃ agg ∈ aggregated mama records, agg.mamaId = mamaId ∧ p agg.transferType) ↔
      ∃ record ∈ records, mama record = mamaId ∧ p record.transferType := by
  constructor
  · rintro ⟨agg, hagg, rfl, hp⟩
    obtain ⟨⟨record, hrecord, hmama, htype⟩, -⟩ := mem_aggregated.mp hagg
    exact ⟨record, hrecord, hmama, htype ▸ hp⟩
  · rintro ⟨record, hrecord, rfl, hp⟩
    exact ⟨⟨mama record, record.transferType, ((records.filter fun r =>
      mama r = mama record ∧ r.transferType = record.transferType).map
        CouponTransferRecord.recordAmount).sum⟩,
      mem_aggregated.mpr ⟨⟨record, hrecord, rfl, rfl⟩, rfl⟩, rfl, hp⟩

theorem data_aggregated {mama : CouponTransferRecord → Nat} {c : TransferType → Option Amount}
    {type : TransferType} (records : List CouponTransferRecord) (mamas : EliteMamas)
    (htype : ∀ t, c t = some column ↔ t = type) :
    (mamas.updateAll c (aggregated mama records)).data mamaId column =
      if (records.filter fun record => mama record = mamaId ∧ record.transferType = type) = [] then
        mamas.data mamaId column
      else some ((records.filter fun record => mama record = mamaId ∧
        record.transferType = type).map CouponTransferRecord.recordAmount).sum := by
  obtain ⟨hsome, hnone⟩ := EliteMamas.data_updateAll c mamaId column
    ((records.filter fun record => mama record = mamaId ∧
      record.transferType = type).map CouponTransferRecord.recordAmount).sum
    (aggregated mama records) mamas (by
      intro agg hagg hmama hcolumn
      rw [(mem_aggregated.mp hagg).2, hmama, (htype _).mp hcolumn])
  have hexists : (∃ agg ∈ aggregated mama records, agg.mamaId = mamaId ∧
      c agg.transferType = some column) ↔
        (records.filter fun record => mama record = mamaId ∧ record.transferType = type) ≠ [] := by
    simp only [htype]
    rw [exists_aggregated_iff mama mamaId (fun t => t = type), ne_eq, List.filter_eq_nil_iff]
    simp only [decide_eq_true_eq, not_forall, not_not, exists_prop]
  by_cases hempty : (records.filter fun record =>
      mama record = mamaId ∧ record.transferType = type) = []
  · rw [if_pos hempty]
    exact hnone fun h => hexists.mp h hempty
  · rw [if_neg hempty]
    exact hsome (hexists.mpr hempty)

theorem data_untouched (mama : CouponTransferRecord → Nat) {c : TransferType → Option Amount}
    (mamaId : Nat) (records : List CouponTransferRecord) (mamas : EliteMamas) (hnone : ∀ t, c t ≠ some column) :
    (mamas.updateAll c (aggregated mama records)).data mamaId column =
      mamas.data mamaId column :=
  (EliteMamas.data_updateAll c mamaId column 0 _ mamas fun agg _ _ h => absurd h (hnone _)).2
    fun ⟨_, _, _, h⟩ => hnone _ h

theorem entries_inward (s : EliteDb) (mamaId : Nat) (h : column.inward = true) :
    entries s mamaId column = s.baseQs.filter fun record =>
      record.couponToMamaId = mamaId ∧ record.transferType = column.transferType := by
  unfold entries Amount.mamaId
  simp only [if_pos h]

theorem entries_outward (s : EliteDb) (mamaId : Nat) (h : column.inward = false) :
    entries s mamaId column = s.baseQs.filter fun record =>
      record.couponFromMamaId = mamaId ∧ record.transferType = column.transferType := by
  unfold entries Amount.mamaId
  simp only [h, Bool.false_eq_true, if_false]

def written (s : EliteDb) (mamaId : Nat) (column : Amount) : Option ℚ :=
  if entries s mamaId column = [] then none else some (ledger s mamaId column)

theorem data_inward (s : EliteDb) (mamas : EliteMamas) (h : column.inward = true) :
    (mamas.updateAll inColumn s.inDataSet).data mamaId column =
      (written s mamaId column).or (mamas.data mamaId column) := by
  unfold EliteDb.inDataSet
  rw [data_aggregated s.baseQs mamas fun t => inColumn_eq_some.trans (and_iff_right h)]
  unfold written ledger
  rw [entries_inward s mamaId h]
  split
  · rfl
  · rfl

theorem data_outward (s : EliteDb) (mamas : EliteMamas) (source : Amount)
    (h : source.inward = false)
    (hcolumn : ∀ t, outColumn t = some column ↔ t = source.transferType) :
    (mamas.updateAll outColumn s.outDataSet).data mamaId column =
      (written s mamaId source).or (mamas.data mamaId column) := by
  unfold EliteDb.outDataSet
  rw [data_aggregated s.baseQs mamas hcolumn]
  unfold written ledger
  rw [entries_outward s mamaId h]
  split
  · rfl
  · rfl

theorem data_eliteMamas (s : EliteDb) (mamaId : Nat) (column : Amount) :
    s.eliteMamas.data mamaId column =
      if column = .refundCouponOut then none
      else if column = .refundCouponIn then
        (written s mamaId .refundCouponOut).or (written s mamaId .refundCouponIn)
      else written s mamaId column := by
  have hempty : ∀ c, EliteMamas.empty.data mamaId c = none := fun _ => rfl
  unfold EliteDb.eliteMamas
  by_cases hout : column = .refundCouponOut
  · subst hout
    have hnot : ∀ t, outColumn t ≠ some .refundCouponOut := by
      intro t h
      exact (outColumn_eq_some.mp h).elim (fun h => h.2.1 rfl) fun h => nomatch h.1
    have hnotIn : ∀ t, inColumn t ≠ some .refundCouponOut := by
      intro t h
      exact nomatch (inColumn_eq_some.mp h).1
    rw [if_pos rfl]
    exact (data_untouched _ _ _ _ hnot).trans (data_untouched _ _ _ _ hnotIn)
  rw [if_neg hout]
  by_cases hin : column = .refundCouponIn
  · subst hin
    have hreturned : ∀ t, outColumn t = some .refundCouponIn ↔
        t = Amount.refundCouponOut.transferType := by
      intro t
      rw [outColumn_eq_some]
      exact ⟨fun h => h.elim (fun h => nomatch h.1) fun h => h.2, fun h => .inr ⟨rfl, h⟩⟩
    rw [if_pos rfl, data_outward s _ .refundCouponOut rfl hreturned,
      data_inward s _ rfl, hempty, Option.or_none]
  rw [if_neg hin]
  cases hdirection : column.inward with
  | true =>
    have hnot : ∀ t, outColumn t ≠ some column := by
      intro t h
      exact (outColumn_eq_some.mp h).elim
        (fun h => Bool.false_ne_true (h.1.symm.trans hdirection)) fun h => hin h.1
    have hout := data_untouched (·.couponFromMamaId) mamaId s.baseQs
      (EliteMamas.empty.updateAll inColumn s.inDataSet) hnot
    unfold EliteDb.outDataSet
    rw [hout, data_inward s _ hdirection, hempty, Option.or_none]
  | false =>
    have hcolumn : ∀ t, outColumn t = some column ↔ t = column.transferType := by
      intro t
      rw [outColumn_eq_some]
      exact ⟨fun h => h.elim (fun h => h.2.2) fun h => absurd h.1 hin,
        fun h => .inl ⟨hdirection, hout, h⟩⟩
    have hnotIn : ∀ t, inColumn t ≠ some column := by
      intro t h
      exact Bool.false_ne_true (hdirection.symm.trans (inColumn_eq_some.mp h).1)
    rw [data_outward s _ column hdirection hcolumn]
    unfold EliteDb.inDataSet
    rw [data_untouched _ _ _ _ hnotIn, hempty, Option.or_none]

theorem mem_keys_eliteMamas : mamaId ∈ s.eliteMamas.keys ↔ Mentioned s mamaId := by
  have hkeys : ∀ mama : CouponTransferRecord → Nat,
      (∃ agg ∈ aggregated mama s.baseQs, agg.mamaId = mamaId) ↔
        ∃ record ∈ s.baseQs, mama record = mamaId := by
    intro mama
    have h := exists_aggregated_iff mama mamaId (fun _ => True) s.baseQs
    simpa only [and_true] using h
  have hnil : mamaId ∉ EliteMamas.empty.keys := List.not_mem_nil
  unfold EliteDb.eliteMamas EliteDb.inDataSet EliteDb.outDataSet Mentioned
  rw [EliteMamas.mem_keys_updateAll, EliteMamas.mem_keys_updateAll, hkeys, hkeys,
    or_iff_right hnil, ← exists_or]
  simp only [← and_or_left]

theorem nodup_keys_eliteMamas (s : EliteDb) : s.eliteMamas.keys.Nodup :=
  EliteMamas.nodup_keys_updateAll _ _ _ (EliteMamas.nodup_keys_updateAll _ _ _ List.nodup_nil)

theorem statuses_fresh (s : EliteDb) (today now mamaId : Nat) (data : Amount → Option ℚ) :
    (s.fresh today now mamaId data).statuses =
      Function.update s.statuses mamaId (some (s.refreshed today now mamaId data).save) := rfl

theorem statuses_foldl (today now : Nat) (data : Nat → Amount → Option ℚ) :
    ∀ (keys : List Nat), keys.Nodup → ∀ s : EliteDb,
      let t := keys.foldl (fun t mamaId => t.fresh today now mamaId (data mamaId)) s
      t.records = s.records ∧ t.relationships = s.relationships ∧
        ∀ mamaId, t.statuses mamaId = if mamaId ∈ keys then
          some (s.refreshed today now mamaId (data mamaId)).save else s.statuses mamaId := by
  intro keys
  induction keys with
  | nil => exact fun _ s => ⟨rfl, rfl, fun _ => rfl⟩
  | cons key keys ih =>
    intro hnodup s
    obtain ⟨hkey, hkeys⟩ := List.nodup_cons.mp hnodup
    obtain ⟨hrecords, hrelationships, hstatuses⟩ := ih hkeys (s.fresh today now key (data key))
    refine ⟨hrecords, hrelationships, fun mamaId => (hstatuses mamaId).trans ?_⟩
    by_cases hmama : mamaId = key
    · subst hmama
      rw [if_neg hkey, if_pos List.mem_cons_self, statuses_fresh, Function.update_self]
    · have hother : (s.fresh today now key (data key)).statuses mamaId = s.statuses mamaId :=
        Function.update_of_ne hmama _ _
      have hsame : (s.fresh today now key (data key)).refreshed today now mamaId (data mamaId) =
          s.refreshed today now mamaId (data mamaId) := by
        unfold EliteDb.refreshed
        rw [hother]
        rfl
      rw [hsame, hother]
      exact if_congr (List.mem_cons.trans (or_iff_right hmama)).symm rfl rfl

theorem statuses_task (s : EliteDb) (today now mamaId : Nat) :
    (taskFreshElitemamaActiveStatus today now s).statuses mamaId =
      if mamaId ∈ s.eliteMamas.keys then
        some (s.refreshed today now mamaId (s.eliteMamas.data mamaId)).save
      else s.statuses mamaId :=
  (statuses_foldl today now s.eliteMamas.data _ (nodup_keys_eliteMamas s) s).2.2 mamaId

namespace EliteMamaStatus

variable {status : EliteMamaStatus ℚ}

theorem rated_amount (status : EliteMamaStatus ℚ) : status.rated.amount = status.amount := by
  unfold rated
  split
  · rfl
  · rfl

theorem rated_subMamacount (status : EliteMamaStatus ℚ) :
    status.rated.subMamacount = status.subMamacount := by
  unfold rated
  split
  · rfl
  · rfl

theorem rated_lastActiveTime (status : EliteMamaStatus ℚ) :
    status.rated.lastActiveTime = status.lastActiveTime := by
  unfold rated
  split
  · rfl
  · rfl

theorem rated_rated (status : EliteMamaStatus ℚ) : status.rated.rated = status.rated := by
  by_cases h : 0 < status.inAmount
  · have hrated : status.rated = _ := if_pos h
    rw [hrated]
    exact if_pos h
  · have hrated : status.rated = status := if_neg h
    rw [hrated, hrated]

theorem save_rated (status : EliteMamaStatus ℚ) : status.rated.save = status.save := by
  unfold save
  rw [rated_rated, rated_amount]

end EliteMamaStatus

theorem amount_refreshed (s : EliteDb) (today now mamaId : Nat) (data : Amount → Option ℚ)
    (column : Amount) :
    (s.refreshed today now mamaId data).amount column =
      (data column).getD (stored s mamaId column) := by
  unfold EliteDb.refreshed stored
  cases s.statuses mamaId with
  | some status => rfl
  | none => rfl

theorem refreshed_again {data : Amount → Option ℚ} {today now : Nat}
    (hrecords : t.records = s.records) (hrelationships : t.relationships = s.relationships)
    (hrow : t.statuses mamaId = some (s.refreshed today now mamaId data).save)
    (today' now' : Nat) :
    t.refreshed today' now' mamaId data = (s.refreshed today now mamaId data).rated := by
  have hactive : t.mamaActiveDate mamaId = s.mamaActiveDate mamaId := by
    unfold EliteDb.mamaActiveDate EliteDb.dates
    rw [hrecords]
  have hsub : t.subMamacount mamaId = s.subMamacount mamaId := by
    unfold EliteDb.subMamacount EliteDb.mamaJoinedDate EliteDb.dates
    rw [hrecords, hrelationships]
  have hlast : (s.refreshed today now mamaId data).lastActiveTime =
      ((s.mamaActiveDate mamaId).map atMidnight).getD
        (s.refreshed today now mamaId data).lastActiveTime := by
    cases hdate : s.mamaActiveDate mamaId with
    | none => rfl
    | some date =>
      unfold EliteDb.refreshed
      rw [hdate]
      rfl
  have hcount : (s.refreshed today now mamaId data).subMamacount = s.subMamacount mamaId := rfl
  have hamount := amount_refreshed s today now mamaId data
  generalize s.refreshed today now mamaId data = x at *
  unfold EliteDb.refreshed
  rw [hrow, hactive, hsub]
  refine EliteMamaStatus.ext ?_ ?_ rfl rfl rfl rfl ?_
  · rw [x.rated_amount]
    funext column
    change (data column).getD ((truncate (x.amount column) : Int) : ℚ) = x.amount column
    rw [hamount]
    cases data column with
    | some amount => rfl
    | none => exact congrArg Int.cast (truncate_intCast _)
  · exact hcount.symm.trans x.rated_subMamacount.symm
  · change ((s.mamaActiveDate mamaId).map atMidnight).getD x.rated.lastActiveTime = _
    rw [x.rated_lastActiveTime]
    exact hlast.symm

theorem task_again (s : EliteDb) (today now today' now' : Nat) :
    taskFreshElitemamaActiveStatus today' now' (taskFreshElitemamaActiveStatus today now s) =
      taskFreshElitemamaActiveStatus today now s := by
  obtain ⟨hrecords, hrelationships, -⟩ :=
    statuses_foldl today now s.eliteMamas.data _ (nodup_keys_eliteMamas s) s
  have hstatuses := statuses_task s today now
  change (taskFreshElitemamaActiveStatus today now s).records = s.records at hrecords
  change (taskFreshElitemamaActiveStatus today now s).relationships =
    s.relationships at hrelationships
  generalize taskFreshElitemamaActiveStatus today now s = t at *
  have hmamas : t.eliteMamas = s.eliteMamas := by
    unfold EliteDb.eliteMamas EliteDb.inDataSet EliteDb.outDataSet EliteDb.baseQs
    rw [hrecords]
  obtain ⟨hrecords', hrelationships', -⟩ :=
    statuses_foldl today' now' t.eliteMamas.data _ (nodup_keys_eliteMamas t) t
  refine EliteDb.ext hrecords' hrelationships' (funext fun mamaId => ?_)
  rw [statuses_task t today' now' mamaId, hmamas]
  by_cases hkey : mamaId ∈ s.eliteMamas.keys
  · have hrow := hstatuses mamaId
    rw [if_pos hkey] at hrow
    rw [if_pos hkey, hrow, refreshed_again hrecords hrelationships hrow,
      EliteMamaStatus.save_rated]
  · exact if_neg hkey

/-! ## The amounts after the task -/

theorem entries_not_mentioned (h : ¬ Mentioned s mamaId) (column : Amount) :
    entries s mamaId column = [] := by
  unfold entries
  rw [List.filter_eq_nil_iff]
  intro record hrecord hcounts
  have hmama := (of_decide_eq_true hcounts).1
  refine h ⟨record, hrecord, ?_⟩
  unfold Amount.mamaId at hmama
  split at hmama
  · exact .inl hmama
  · exact .inr hmama

def after (s : EliteDb) (mamaId : Nat) (column : Amount) : Int :=
  match s.eliteMamas.data mamaId column with
  | some amount => truncate amount
  | none => stored s mamaId column

theorem amount_task {today now : Nat} {status : EliteMamaStatus Int}
    (h : (taskFreshElitemamaActiveStatus today now s).statuses mamaId = some status)
    (column : Amount) : status.amount column = after s mamaId column := by
  rw [statuses_task] at h
  unfold after
  by_cases hkey : mamaId ∈ s.eliteMamas.keys
  · rw [if_pos hkey] at h
    rw [← Option.some.inj h]
    change truncate ((s.refreshed today now mamaId (s.eliteMamas.data mamaId)).amount column) = _
    rw [amount_refreshed]
    cases s.eliteMamas.data mamaId column with
    | some amount => rfl
    | none => exact truncate_intCast _
  · rw [if_neg hkey] at h
    have hempty := entries_not_mentioned fun hmentioned => hkey (mem_keys_eliteMamas.mpr hmentioned)
    have hnone : s.eliteMamas.data mamaId column = none := by
      rw [data_eliteMamas]
      unfold written
      simp only [hempty, if_true]
      split
      · rfl
      · exact ite_self none
    rw [hnone]
    unfold stored
    rw [h]

theorem ledger_eq_zero (h : entries s mamaId column = []) : ledger s mamaId column = 0 := by
  unfold ledger
  rw [h]
  rfl

theorem written_iff (s : EliteDb) (mamaId : Nat) (column : Amount) :
    (((match written s mamaId column with
      | some amount => truncate amount
      | none => stored s mamaId column) : Int) : ℚ) = ledger s mamaId column ↔
      if entries s mamaId column = [] then stored s mamaId column = 0
      else (ledger s mamaId column).den = 1 := by
  unfold written
  by_cases hempty : entries s mamaId column = []
  · rw [if_pos hempty, if_pos hempty, ledger_eq_zero hempty]
    exact Int.cast_eq_zero
  · rw [if_neg hempty, if_neg hempty]
    exact truncate_eq_iff _

theorem after_iff (hout : column ≠ .refundCouponOut) (hin : column ≠ .refundCouponIn) :
    (after s mamaId column : ℚ) = ledger s mamaId column ↔
      if entries s mamaId column = [] then stored s mamaId column = 0
      else (ledger s mamaId column).den = 1 := by
  unfold after
  rw [data_eliteMamas, if_neg hout, if_neg hin]
  exact written_iff s mamaId column

theorem after_given (s : EliteDb) (mamaId : Nat) :
    after s mamaId .refundCouponOut = stored s mamaId .refundCouponOut := by
  unfold after
  rw [data_eliteMamas, if_pos rfl]

theorem after_got_iff (s : EliteDb) (mamaId : Nat) :
    (after s mamaId .refundCouponIn : ℚ) = ledger s mamaId .refundCouponIn ↔
      if entries s mamaId .refundCouponOut = [] then
        if entries s mamaId .refundCouponIn = [] then stored s mamaId .refundCouponIn = 0
        else (ledger s mamaId .refundCouponIn).den = 1
      else (truncate (ledger s mamaId .refundCouponOut) : ℚ) = ledger s mamaId .refundCouponIn := by
  have hdata := data_eliteMamas s mamaId .refundCouponIn
  rw [if_neg (by decide), if_pos rfl] at hdata
  unfold after
  rw [hdata]
  by_cases hempty : entries s mamaId .refundCouponOut = []
  · have hnone : written s mamaId .refundCouponOut = none := if_pos hempty
    rw [hnone, if_pos hempty, Option.none_or]
    exact written_iff s mamaId .refundCouponIn
  · have hsome : written s mamaId .refundCouponOut =
        some (ledger s mamaId .refundCouponOut) := if_neg hempty
    rw [hsome, if_neg hempty, Option.some_or]

theorem fits_iff : Fits s mamaId ↔
    ∀ column, (after s mamaId column : ℚ) = ledger s mamaId column := by
  constructor
  · intro hfits column
    by_cases hout : column = .refundCouponOut
    · subst hout
      rw [after_given]
      exact hfits.given
    by_cases hin : column = .refundCouponIn
    · subst hin
      exact (after_got_iff s mamaId).mpr hfits.got
    · exact (after_iff hout hin).mpr (hfits.written column hout hin)
  · intro hafter
    refine ⟨fun column hout hin => (after_iff hout hin).mp (hafter column), ?_, ?_⟩
    · rw [← after_given]
      exact hafter .refundCouponOut
    · exact (after_got_iff s mamaId).mp (hafter .refundCouponIn)

def Known (s : EliteDb) (mamaId : Nat) : Prop := s.statuses mamaId ≠ none ∨ Mentioned s mamaId

theorem known_iff (s : EliteDb) (today now mamaId : Nat) :
    (taskFreshElitemamaActiveStatus today now s).statuses mamaId ≠ none ↔ Known s mamaId := by
  rw [statuses_task]
  unfold Known
  by_cases hkey : mamaId ∈ s.eliteMamas.keys
  · rw [if_pos hkey]
    exact iff_of_true (Option.some_ne_none _) (.inr (mem_keys_eliteMamas.mp hkey))
  · rw [if_neg hkey, ← mem_keys_eliteMamas, or_iff_left hkey]

/-- The task leaves the amounts of the ledger, and another run leaves everything as it is, exactly
if the columns fit for each mama. -/
theorem fresh_iff (s : EliteDb) (today now : Nat) :
    (Fresh s (taskFreshElitemamaActiveStatus today now s) ∧
      ∀ today' now', taskFreshElitemamaActiveStatus today' now'
        (taskFreshElitemamaActiveStatus today now s) = taskFreshElitemamaActiveStatus today now s) ↔
      ∀ mamaId, Known s mamaId → Fits s mamaId := by
  rw [and_iff_left fun today' now' => task_again s today now today' now']
  constructor
  · intro hfresh mamaId hknown
    obtain ⟨status, hstatus⟩ :=
      Option.ne_none_iff_exists'.mp ((known_iff s today now mamaId).mpr hknown)
    refine fits_iff.mpr fun column => ?_
    rw [← amount_task hstatus column]
    exact hfresh.amounts mamaId status hstatus column
  · intro hfits
    refine ⟨fun mamaId hmentioned => ?_, fun mamaId status hstatus column => ?_⟩
    · exact (known_iff s today now mamaId).mpr (.inr hmentioned)
    · rw [amount_task hstatus column]
      have hknown := (known_iff s today now mamaId).mp (hstatus ▸ Option.some_ne_none status)
      exact fits_iff.mp (hfits mamaId hknown) column

def returnedDb : EliteDb where
  records := [⟨0, 1, 128, 1, .inReturnGoods, .delivered, true, 0⟩]
  relationships := []
  statuses _ := none

def takenBackDb : EliteDb where
  records := [⟨0, 1, 128, 1, .inGiftCoupon, .delivered, false, 0⟩]
  relationships := []
  statuses mamaId := if mamaId = 1 then
    some ⟨fun column => if column = .giftAmountIn then 128 else 0, 0, 0, 0, 0, 0, 0⟩ else none

theorem fresh_fails :
    ¬ Fresh returnedDb (taskFreshElitemamaActiveStatus 0 0 returnedDb) ∧
      ¬ Fresh takenBackDb (taskFreshElitemamaActiveStatus 0 0 takenBackDb) := by
  constructor
  · intro hfresh
    have hmentioned : Mentioned returnedDb 0 := ⟨_, List.mem_singleton_self _, .inr rfl⟩
    obtain ⟨status, hstatus⟩ := Option.ne_none_iff_exists'.mp (hfresh.rows 0 hmentioned)
    have hamount := hfresh.amounts 0 status hstatus .refundCouponOut
    rw [amount_task hstatus, after_given] at hamount
    have hledger : ledger returnedDb 0 .refundCouponOut = 128 * 1 + 0 := rfl
    have hstored : stored returnedDb 0 .refundCouponOut = 0 := rfl
    rw [hledger, hstored] at hamount
    norm_num at hamount
  · intro hfresh
    have hempty : ∀ column, entries takenBackDb 1 column = [] := fun _ => rfl
    obtain ⟨status, hstatus⟩ := Option.ne_none_iff_exists'.mp
      ((known_iff takenBackDb 0 0 1).mpr (.inl (Option.some_ne_none _)))
    have hamount := hfresh.amounts 1 status hstatus .giftAmountIn
    rw [amount_task hstatus, after_iff (by decide) (by decide), if_pos (hempty _)] at hamount
    exact absurd hamount (by decide)

end ShopManager.Mama.Elite
