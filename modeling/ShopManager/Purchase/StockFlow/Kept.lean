import ShopManager.Library.Execution
import ShopManager.Purchase.StockFlow.Model

/-!
# Flows on record

Each order has a list of flows of each type.  A call puts its number on the list, or leaves the
first one there where the flow is not split, and the list is finished as a whole.  The keys of the
records follow that as long as the counter of a split is new.
-/

namespace ShopManager.Purchase.StockFlow

open Library Library.Tx Library.Text Library.Execution

/-! ## What the calls ask for -/

abbrev Flows := String × RecordType → List (Int × Bool)

def StockBatchFlowRecord.order (record : StockBatchFlowRecord) : String × RecordType :=
  (record.referalId, record.recordType)

def StockBatchFlowRecord.entry (record : StockBatchFlowRecord) : Int × Bool :=
  (record.recordNum, record.status)

def Flow.order (flow : Flow) : String × RecordType := (flow.referalId, flow.recordType)

def flows (s : FlowDb) : Flows := fun order =>
  (s.records.filter fun record => record.order = order).map StockBatchFlowRecord.entry

inductive FlowOp where
  | push (flow : Flow)
  | finish (now : Nat) (referalId : String) (recordType : RecordType)

def FlowOp.exec : FlowOp → FlowDb → FlowDb
  | push flow, s => ((getOrCreateStockBatchRecord flow).run s).2
  | finish now referalId recordType, s =>
      ((setStockBatchFlowRecordFinished now referalId recordType).run s).2

def Flow.appendTo (flow : Flow) (entries : List (Int × Bool)) : List (Int × Bool) :=
  if flow.rowSplit = true ∨ entries = [] then entries ++ [(flow.recordNum, false)] else entries

def FlowOp.specified (productSkus : Table ProductSku) : FlowOp → Flows → Flows
  | push flow, f =>
      if productSkus.get? flow.skuId = none then f
      else Function.update f flow.order (flow.appendTo (f flow.order))
  | finish _ referalId recordType, f =>
      Function.update f (referalId, recordType)
        ((f (referalId, recordType)).map fun entry => (entry.1, true))

def pushes (productSkus : Table ProductSku) (order : String × RecordType) :
    List FlowOp → List Flow
  | [] => []
  | .push flow :: ops =>
      if productSkus.get? flow.skuId ≠ none ∧ flow.order = order then
        flow :: pushes productSkus order ops
      else pushes productSkus order ops
  | .finish _ _ _ :: ops => pushes productSkus order ops

def start (productSkus : Table ProductSku) : FlowDb := ⟨productSkus, Table.empty⟩

/-- Every step does to the lists of flows what it asks for, and the numbers on record are the
first one of a flow that is not split, and all of a flow that is. -/
structure NoFlowLost (productSkus : Table ProductSku) (ops : List FlowOp) : Prop where
  stepwise : Guarded FlowOp.exec (fun s op => flows (op.exec s) = op.specified productSkus (flows s))
    ops (start productSkus)
  once : ∀ done, done <+: ops → ∀ order,
    (∀ flow ∈ pushes productSkus order done, flow.rowSplit = false) →
      (flows (run FlowOp.exec done (start productSkus)) order).map Prod.fst =
        ((pushes productSkus order done).map Flow.recordNum).take 1
  all : ∀ done, done <+: ops → ∀ order,
    (∀ flow ∈ pushes productSkus order done, flow.rowSplit = true) →
      (flows (run FlowOp.exec done (start productSkus)) order).map Prod.fst =
        (pushes productSkus order done).map Flow.recordNum

structure IsFirst (s : FlowDb) (uniKey : String) (first : StockBatchFlowRecord) : Prop where
  mem : first ∈ s.records
  begins : uniKey.toList <+: first.uniKey.toList
  least : ∀ record ∈ s.records, uniKey.toList <+: record.uniKey.toList →
    first.uniKey ≤ record.uniKey

def Taken (s : FlowDb) (uniKey : String) : Prop := ∃ record ∈ s.records, record.uniKey = uniKey

def Flow.Fits (s : FlowDb) (flow : Flow) : Prop :=
  if flow.rowSplit = true then
    ∀ first, IsFirst s (uniKeyOf flow.referalId flow.recordType) first →
      ∃ n, nextCounter first.uniKey = some n ∧
        ¬ Taken s (uniKeyOf flow.referalId flow.recordType ++ ("-" ++ toString n))
  else (∃ record ∈ s.records, record.order = flow.order) →
    Taken s (uniKeyOf flow.referalId flow.recordType)

def FlowOp.Fits (s : FlowDb) : FlowOp → Prop
  | push flow => s.productSkus.get? flow.skuId ≠ none → flow.Fits s
  | finish _ referalId recordType => ∀ record ∈ s.records,
      (uniKeyOf referalId recordType).toList <+: record.uniKey.toList → record.status = false →
        record.order = (referalId, recordType)

def Keyed (s : FlowDb) : Prop := ∀ record ∈ s.records,
  record.uniKey = uniKeyOf record.referalId record.recordType ∨
    ∃ n : Nat, record.uniKey =
      uniKeyOf record.referalId record.recordType ++ ("-" ++ toString n)

variable {s : FlowDb} {flow : Flow} {record first : StockBatchFlowRecord} {uniKey : String}

theorem free_value (recordType : RecordType) : Key.Free '-' recordType.value := by
  cases recordType with
  | saleOrder => decide
  | saleRefund => decide

theorem value_inj {recordType recordType' : RecordType} (h : recordType.value = recordType'.value) :
    recordType = recordType' := by
  cases recordType with
  | saleOrder =>
    cases recordType' with
    | saleOrder => rfl
    | saleRefund => exact absurd h (by decide)
  | saleRefund =>
    cases recordType' with
    | saleOrder => exact absurd h (by decide)
    | saleRefund => rfl

theorem toString_ne_value (n : Nat) (recordType : RecordType) : toString n ≠ recordType.value := by
  intro h
  have hdigits := isDigits_toString n
  rw [h] at hdigits
  cases recordType with
  | saleOrder => exact absurd hdigits (by decide)
  | saleRefund => exact absurd hdigits (by decide)

theorem Keyed.order (h : Keyed s) (hrecord : record ∈ s.records) {referalId : String}
    {recordType : RecordType} (hkey : record.uniKey = uniKeyOf referalId recordType) :
    record.order = (referalId, recordType) := by
  rcases h record hrecord with hown | ⟨n, hcounter⟩
  · obtain ⟨hid, htype⟩ := (Key.last_inj "-" rfl (free_value record.recordType)
      (free_value recordType)).mp (hown.symm.trans hkey)
    exact Prod.ext hid (value_inj htype)
  · obtain ⟨-, htype⟩ := (Key.last_inj "-" rfl (Key.free_toString (by decide) n)
      (free_value recordType)).mp (hcounter.symm.trans hkey)
    exact absurd htype (toString_ne_value n recordType)

theorem Keyed.begins (h : Keyed s) (hrecord : record ∈ s.records) :
    (uniKeyOf record.referalId record.recordType).toList <+: record.uniKey.toList := by
  rcases h record hrecord with hown | ⟨n, hcounter⟩
  · rw [hown]
  · rw [hcounter, String.toList_append]
    exact List.prefix_append _ _

/-! ## A call -/

theorem firstRecord_eq_none (h : firstRecord s uniKey = none) :
    ∀ record ∈ s.records, ¬ uniKey.toList <+: record.uniKey.toList := by
  intro record hrecord hbegins
  have hmem : record ∈ s.records.filter fun record => uniKey.toList <+: record.uniKey.toList :=
    List.mem_filter.mpr ⟨hrecord, decide_eq_true hbegins⟩
  rw [List.argmin_eq_none.mp h] at hmem
  exact absurd hmem List.not_mem_nil

theorem isFirst_of_firstRecord (h : firstRecord s uniKey = some first) :
    IsFirst s uniKey first := by
  obtain ⟨hmem, hbegins⟩ := List.mem_filter.mp (List.argmin_mem h)
  refine ⟨hmem, of_decide_eq_true hbegins, fun record hrecord hkey => ?_⟩
  exact List.le_of_mem_argmin (List.mem_filter.mpr ⟨hrecord, decide_eq_true hkey⟩) h

theorem IsFirst.uniKey_eq {first' : StockBatchFlowRecord} (h : IsFirst s uniKey first)
    (h' : IsFirst s uniKey first') : first.uniKey = first'.uniKey :=
  le_antisymm (h.least first' h'.mem h'.begins) (h'.least first h.mem h.begins)

theorem any_taken : (s.records.rows.any fun r => r.uniKey = uniKey) = true ↔ Taken s uniKey := by
  rw [List.any_eq_true]
  exact exists_congr fun r => and_congr_right fun _ => decide_eq_true_iff

theorem createOrGet_taken (h : Taken s record.uniKey) :
    ((createOrGet record).run s).2 = s := by
  have hcreate : record.create.run s = (.error .integrityError, s) := by
    unfold StockBatchFlowRecord.create
    rw [gets_bind_run, raiseIf_bind_run, if_pos (any_taken.mpr h)]
  unfold createOrGet
  rw [tryCatch_error hcreate, if_pos rfl]
  exact Keeps.getOr (R := fun a b => b = a) (fun _ => rfl) _ _ s

theorem createOrGet_new (h : ¬ Taken s record.uniKey) :
    ((createOrGet record).run s).2 = { s with records := s.records.insert record } := by
  have hcreate : record.create.run s =
      (.ok (s.records.stored record), { s with records := s.records.insert record }) := by
    unfold StockBatchFlowRecord.create
    rw [gets_bind_run, raiseIf_bind_run, if_neg (fun htaken => h (any_taken.mp htaken))]
    rfl
  unfold createOrGet
  rw [tryCatch_ok hcreate]

/-- The call is refused, or finds the record with its key, or makes a record. -/
inductive Pushed (s : FlowDb) (flow : Flow) : FlowDb → Prop
  | refused (h : s.productSkus.get? flow.skuId = none) : Pushed s flow s
  | found (hsku : s.productSkus.get? flow.skuId ≠ none) (hplain : flow.rowSplit = false)
      (htaken : Taken s (uniKeyOf flow.referalId flow.recordType)) : Pushed s flow s
  | lost (hsku : s.productSkus.get? flow.skuId ≠ none) (hsplit : flow.rowSplit = true)
      (hlost : ∃ first, IsFirst s (uniKeyOf flow.referalId flow.recordType) first ∧
        ∀ n, nextCounter first.uniKey = some n →
          Taken s (uniKeyOf flow.referalId flow.recordType ++ ("-" ++ toString n))) :
      Pushed s flow s
  | created (modelId : Nat) (uniKey : String) (hsku : s.productSkus.get? flow.skuId ≠ none)
      (hkey : uniKey = uniKeyOf flow.referalId flow.recordType ∨ flow.rowSplit = true ∧
        ∃ first n, IsFirst s (uniKeyOf flow.referalId flow.recordType) first ∧
          nextCounter first.uniKey = some n ∧
            uniKey = uniKeyOf flow.referalId flow.recordType ++ ("-" ++ toString n))
      (hnew : ¬ Taken s uniKey)
      (hfirst : flow.rowSplit = true → ∀ first,
        IsFirst s (uniKeyOf flow.referalId flow.recordType) first →
          ∃ n, nextCounter first.uniKey = some n ∧
            ¬ Taken s (uniKeyOf flow.referalId flow.recordType ++ ("-" ++ toString n))) :
      Pushed s flow { s with records := s.records.insert (flow.record modelId uniKey) }

theorem splitKey_none (h : firstRecord s uniKey = none) :
    (splitKey uniKey).run s = (.ok uniKey, s) := by
  unfold splitKey
  rw [gets_bind_run, h]
  rfl

theorem splitKey_some {n : Nat} (h : firstRecord s uniKey = some first)
    (hn : nextCounter first.uniKey = some n) :
    (splitKey uniKey).run s = (.ok (uniKey ++ ("-" ++ toString n)), s) := by
  unfold splitKey
  rw [gets_bind_run, h]
  exact bind_ok (getOr_some hn)

theorem splitKey_raises (h : firstRecord s uniKey = some first)
    (hn : nextCounter first.uniKey = none) :
    (splitKey uniKey).run s =
      (.error (.valueError "invalid literal for int() with base 10"), s) := by
  unfold splitKey
  rw [gets_bind_run, h]
  exact bind_error (getOr_none hn)

theorem exec_split (hsku : s.productSkus.get? flow.skuId ≠ none) (hsplit : flow.rowSplit = true)
    (modelId : Nat) : Pushed s flow
      ((flow.uniKey >>= fun uniKey => createOrGet (flow.record modelId uniKey)).run s).2 := by
  unfold Flow.uniKey
  rw [if_pos hsplit]
  cases hfirst : firstRecord s (uniKeyOf flow.referalId flow.recordType) with
  | none =>
    have hnew : ¬ Taken s (uniKeyOf flow.referalId flow.recordType) := by
      rintro ⟨record, hrecord, hkey⟩
      exact firstRecord_eq_none hfirst record hrecord (by rw [hkey])
    rw [bind_ok (splitKey_none hfirst), createOrGet_new hnew]
    exact .created modelId _ hsku (.inl rfl) hnew fun _ first hisFirst =>
      absurd hisFirst.begins (firstRecord_eq_none hfirst first hisFirst.mem)
  | some first =>
    have hisFirst := isFirst_of_firstRecord hfirst
    cases hn : nextCounter first.uniKey with
    | none =>
      rw [bind_error (splitKey_raises hfirst hn)]
      exact .lost hsku hsplit ⟨first, hisFirst, fun n hn' => nomatch hn.symm.trans hn'⟩
    | some n =>
      rw [bind_ok (splitKey_some hfirst hn)]
      by_cases htaken : Taken s
          (uniKeyOf flow.referalId flow.recordType ++ ("-" ++ toString n))
      · rw [createOrGet_taken htaken]
        refine .lost hsku hsplit ⟨first, hisFirst, fun n' hn' => ?_⟩
        rw [← Option.some.inj (hn.symm.trans hn')]
        exact htaken
      · rw [createOrGet_new htaken]
        refine .created modelId _ hsku (.inr ⟨hsplit, first, n, hisFirst, hn, rfl⟩) htaken
          fun _ first' hfirst' => ⟨n, ?_, htaken⟩
        rw [hfirst'.uniKey_eq hisFirst]
        exact hn

theorem exec_push (s : FlowDb) (flow : Flow) :
    Pushed s flow ((FlowOp.push flow).exec s) := by
  change Pushed s flow ((getOrCreateStockBatchRecord flow).run s).2
  unfold getOrCreateStockBatchRecord
  cases hget : s.productSkus.get? flow.skuId with
  | none =>
    simp only [getOr_bind_run, hget]
    exact .refused hget
  | some psku =>
    have hsku : s.productSkus.get? flow.skuId ≠ none := by
      rw [hget]
      exact Option.some_ne_none _
    simp only [getOr_bind_run, hget]
    by_cases hsplit : flow.rowSplit = true
    · exact exec_split hsku hsplit psku.modelId
    · unfold Flow.uniKey
      rw [if_neg hsplit, pure_bind_run]
      by_cases htaken : Taken s (uniKeyOf flow.referalId flow.recordType)
      · rw [createOrGet_taken htaken]
        exact .found hsku (Bool.eq_false_of_not_eq_true hsplit) htaken
      · rw [createOrGet_new htaken]
        exact .created psku.modelId _ hsku (.inl rfl) htaken fun h => absurd h hsplit

/-! ## What a step does to the lists -/

theorem flows_insert (s : FlowDb) (record : StockBatchFlowRecord) :
    flows { s with records := s.records.insert record } =
      Function.update (flows s) record.order (flows s record.order ++ [record.entry]) := by
  funext order
  have hrows : (s.records.insert record).rows = s.records.rows ++ [s.records.stored record] := rfl
  have hstored : (s.records.stored record).order = record.order := rfl
  unfold flows Table.filter
  rw [hrows, List.filter_append, List.map_append, List.filter_cons, List.filter_nil,
    hstored]
  by_cases horder : record.order = order
  · subst horder
    rw [Function.update_self, if_pos (decide_eq_true rfl)]
    rfl
  · rw [Function.update_of_ne (Ne.symm horder), if_neg (fun h => horder (of_decide_eq_true h)),
      List.map_nil, List.append_nil]

theorem flows_eq_nil {order : String × RecordType} :
    flows s order = [] ↔ ¬ ∃ record ∈ s.records, record.order = order := by
  unfold flows
  rw [List.map_eq_nil_iff]
  constructor
  · rintro hnil ⟨record, hrecord, horder⟩
    have hmem : record ∈ s.records.filter fun record => record.order = order :=
      List.mem_filter.mpr ⟨hrecord, decide_eq_true horder⟩
    rw [hnil] at hmem
    exact absurd hmem List.not_mem_nil
  · intro hnone
    exact List.filter_eq_nil_iff.mpr fun record hrecord horder =>
      hnone ⟨record, hrecord, of_decide_eq_true horder⟩

theorem Flow.appendTo_ne_self {entries : List (Int × Bool)}
    (h : flow.rowSplit = true ∨ entries = []) : flow.appendTo entries ≠ entries := by
  unfold Flow.appendTo
  rw [if_pos h]
  intro heq
  have hlength := congrArg List.length heq
  rw [List.length_append, List.length_singleton] at hlength
  exact absurd hlength (Nat.succ_ne_self _)

def FlowOp.Does (op : FlowOp) (s : FlowDb) : Prop :=
  flows (op.exec s) = op.specified s.productSkus (flows s)

theorem push_does_iff (hkeyed : Keyed s) (flow : Flow) :
    (FlowOp.push flow).Does s ↔ (FlowOp.push flow).Fits s := by
  unfold FlowOp.Does
  generalize hexec : (FlowOp.push flow).exec s = t
  have hpushed : Pushed s flow t := hexec ▸ exec_push s flow
  change (flows t = if s.productSkus.get? flow.skuId = none then flows s
    else Function.update (flows s) flow.order (flow.appendTo (flows s flow.order))) ↔
      (s.productSkus.get? flow.skuId ≠ none → flow.Fits s)
  unfold Flow.Fits
  cases hpushed with
  | refused hsku =>
    rw [if_pos hsku]
    exact iff_of_true rfl fun h => absurd hsku h
  | found hsku hplain htaken =>
    rw [if_neg hsku, if_neg (by rw [hplain]; exact Bool.false_ne_true)]
    refine iff_of_true ?_ fun _ _ => htaken
    obtain ⟨record, hrecord, hkey⟩ := htaken
    have hentries : flows s flow.order ≠ [] := by
      intro hnil
      exact flows_eq_nil.mp hnil ⟨record, hrecord, hkeyed.order hrecord hkey⟩
    have hsame : flow.appendTo (flows s flow.order) = flows s flow.order := by
      unfold Flow.appendTo
      rw [if_neg]
      rintro (hsplit | hnil)
      · exact Bool.false_ne_true (hplain.symm.trans hsplit)
      · exact hentries hnil
    rw [hsame, Function.update_eq_self]
  | lost hsku hsplit hlost =>
    rw [if_neg hsku, if_pos hsplit]
    refine iff_of_false (fun hdoes => ?_) fun hfits => ?_
    · have horder := congrFun hdoes flow.order
      rw [Function.update_self] at horder
      exact Flow.appendTo_ne_self (.inl hsplit) horder.symm
    · obtain ⟨first, hfirst, htaken⟩ := hlost
      obtain ⟨n, hn, hnew⟩ := hfits hsku first hfirst
      exact hnew (htaken n hn)
  | created modelId uniKey hsku hkey hnew hfirst =>
    rw [if_neg hsku, flows_insert]
    change Function.update (flows s) flow.order (flows s flow.order ++ [(flow.recordNum, false)]) =
      _ ↔ _
    by_cases hadds : flow.rowSplit = true ∨ flows s flow.order = []
    · have happend : flow.appendTo (flows s flow.order) =
          flows s flow.order ++ [(flow.recordNum, false)] := if_pos hadds
      rw [happend]
      refine iff_of_true rfl fun _ => ?_
      split
      · next hsplit => exact hfirst hsplit
      · next hsplit =>
          exact fun hexists => absurd hexists (flows_eq_nil.mp (hadds.resolve_left hsplit))
    · obtain ⟨hsplit, hentries⟩ := not_or.mp hadds
      have hsame : flow.appendTo (flows s flow.order) = flows s flow.order := if_neg hadds
      rw [hsame, Function.update_eq_self, if_neg hsplit]
      obtain rfl : uniKey = uniKeyOf flow.referalId flow.recordType :=
        hkey.resolve_right fun h => hsplit h.1
      refine iff_of_false (fun hdoes => ?_) fun hfits => ?_
      · have horder := congrFun hdoes flow.order
        rw [Function.update_self] at horder
        have hlength := congrArg List.length horder
        rw [List.length_append, List.length_singleton] at hlength
        exact Nat.succ_ne_self _ hlength
      · exact hnew (hfits hsku (not_not.mp fun hnone => hentries (flows_eq_nil.mpr hnone)))

def toFinish (referalId : String) (recordType : RecordType) (record : StockBatchFlowRecord) : Bool :=
  (uniKeyOf referalId recordType).toList <+: record.uniKey.toList ∧ record.status = false

theorem toFinish_iff {referalId : String} {recordType : RecordType} :
    toFinish referalId recordType record = true ↔
      (uniKeyOf referalId recordType).toList <+: record.uniKey.toList ∧ record.status = false :=
  decide_eq_true_iff

def finished (now : Nat) (referalId : String) (recordType : RecordType)
    (record : StockBatchFlowRecord) : StockBatchFlowRecord :=
  if toFinish referalId recordType record = true then record.asFinished now else record

theorem finished_order (now : Nat) (referalId : String) (recordType : RecordType)
    (record : StockBatchFlowRecord) :
    (finished now referalId recordType record).order = record.order := by
  unfold finished
  split
  · rfl
  · rfl

theorem exec_finish (now : Nat) (referalId : String) (recordType : RecordType) (s : FlowDb) :
    ((FlowOp.finish now referalId recordType).exec s).records.rows =
      s.records.rows.map (finished now referalId recordType) := rfl

theorem flows_finish (now : Nat) (referalId : String) (recordType : RecordType) (s : FlowDb)
    (order : String × RecordType) :
    flows ((FlowOp.finish now referalId recordType).exec s) order =
      (s.records.filter fun record => record.order = order).map fun record =>
        (finished now referalId recordType record).entry := by
  unfold flows Table.filter
  rw [exec_finish, List.filter_map, List.map_map]
  have hsame : ((fun record : StockBatchFlowRecord => decide (record.order = order)) ∘
      finished now referalId recordType) = fun record => decide (record.order = order) := by
    funext record
    exact congrArg (fun o => decide (o = order)) (finished_order now referalId recordType record)
  rw [hsame]
  rfl

theorem specified_finish_other (productSkus : Table ProductSku) (now : Nat) {referalId : String}
    {recordType : RecordType} (f : Flows) {order : String × RecordType}
    (horder : order ≠ (referalId, recordType)) :
    (FlowOp.finish now referalId recordType).specified productSkus f order = f order :=
  Function.update_of_ne horder _ _

theorem specified_finish_self (productSkus : Table ProductSku) (now : Nat) (referalId : String)
    (recordType : RecordType) (f : Flows) :
    (FlowOp.finish now referalId recordType).specified productSkus f (referalId, recordType) =
      (f (referalId, recordType)).map fun entry => (entry.1, true) :=
  Function.update_self _ _ _

theorem finish_does_iff (hkeyed : Keyed s) (now : Nat) (referalId : String)
    (recordType : RecordType) :
    (FlowOp.finish now referalId recordType).Does s ↔
      (FlowOp.finish now referalId recordType).Fits s := by
  constructor
  · intro hdoes record hrecord hbegins hstatus
    by_contra horder
    have hsame := congrFun hdoes record.order
    rw [flows_finish, specified_finish_other _ now _ horder] at hsame
    have hentry := List.map_inj_left.mp hsame record
      (List.mem_filter.mpr ⟨hrecord, decide_eq_true rfl⟩)
    unfold finished at hentry
    rw [if_pos (toFinish_iff.mpr ⟨hbegins, hstatus⟩)] at hentry
    exact Bool.false_ne_true (hstatus.symm.trans (congrArg Prod.snd hentry).symm)
  · intro hfits
    funext order
    rw [flows_finish]
    by_cases horder : order = (referalId, recordType)
    · subst horder
      rw [specified_finish_self]
      unfold flows
      rw [List.map_map]
      refine List.map_congr_left fun record hmem => ?_
      obtain ⟨hrecord, horder⟩ := List.mem_filter.mp hmem
      have hbegins := hkeyed.begins hrecord
      obtain ⟨rfl, rfl⟩ := Prod.mk.inj (of_decide_eq_true horder)
      unfold finished
      split
      · rfl
      · next hnot =>
          have hstatus : record.status = true :=
            Bool.eq_true_of_not_eq_false fun h => hnot (toFinish_iff.mpr ⟨hbegins, h⟩)
          exact Prod.ext rfl hstatus
    · rw [specified_finish_other _ now _ horder]
      refine List.map_congr_left fun record hmem => ?_
      obtain ⟨hrecord, hown⟩ := List.mem_filter.mp hmem
      unfold finished
      rw [if_neg fun htoFinish => ?_]
      obtain ⟨hbegins, hstatus⟩ := toFinish_iff.mp htoFinish
      exact horder ((of_decide_eq_true hown).symm.trans (hfits record hrecord hbegins hstatus))

theorem does_iff (hkeyed : Keyed s) (op : FlowOp) : op.Does s ↔ op.Fits s := by
  cases op with
  | push flow => exact push_does_iff hkeyed flow
  | finish now referalId recordType => exact finish_does_iff hkeyed now referalId recordType

/-! ## Runs -/

theorem Keyed.exec (hkeyed : Keyed s) (op : FlowOp) : Keyed (op.exec s) := by
  cases op with
  | push flow =>
    generalize hexec : (FlowOp.push flow).exec s = t
    have hpushed : Pushed s flow t := hexec ▸ exec_push s flow
    cases hpushed with
    | refused _ => exact hkeyed
    | found _ _ _ => exact hkeyed
    | lost _ _ _ => exact hkeyed
    | created modelId uniKey _ hkey _ _ =>
      intro record hrecord
      rcases Table.mem_insert.mp hrecord with hold | rfl
      · exact hkeyed record hold
      · exact hkey.imp id fun ⟨_, _, n, _, _, hcounter⟩ => ⟨n, hcounter⟩
  | finish now referalId recordType =>
    intro record hrecord
    rw [Table.mem_def, exec_finish] at hrecord
    obtain ⟨old, hold, rfl⟩ := List.mem_map.mp hrecord
    have hkey := hkeyed old hold
    unfold finished
    split
    · exact hkey
    · exact hkey

theorem exec_productSkus (op : FlowOp) (s : FlowDb) : (op.exec s).productSkus = s.productSkus := by
  cases op with
  | push flow =>
    generalize hexec : (FlowOp.push flow).exec s = t
    have hpushed : Pushed s flow t := hexec ▸ exec_push s flow
    cases hpushed with
    | refused _ => rfl
    | found _ _ _ => rfl
    | lost _ _ _ => rfl
    | created _ _ _ _ _ _ => rfl
  | finish now referalId recordType => rfl

theorem flows_run {productSkus : Table ProductSku} {ops : List FlowOp}
    (h : Guarded FlowOp.exec (fun s op => flows (op.exec s) = op.specified productSkus (flows s))
      ops s) :
    flows (run FlowOp.exec ops s) = run (FlowOp.specified productSkus) ops (flows s) := by
  induction ops generalizing s with
  | nil => rfl
  | cons op ops ih =>
    obtain ⟨hop, hrest⟩ := h
    rw [run_cons, run_cons, ih hrest, hop]

theorem specified_push (productSkus : Table ProductSku) (flow : Flow) (f : Flows)
    (order : String × RecordType) :
    (FlowOp.push flow).specified productSkus f order =
      if productSkus.get? flow.skuId ≠ none ∧ flow.order = order then flow.appendTo (f order)
      else f order := by
  change (if productSkus.get? flow.skuId = none then f
    else Function.update f flow.order (flow.appendTo (f flow.order))) order = _
  by_cases hsku : productSkus.get? flow.skuId = none
  · rw [if_pos hsku, if_neg fun h => h.1 hsku]
  · rw [if_neg hsku]
    by_cases horder : flow.order = order
    · subst horder
      rw [if_pos ⟨hsku, rfl⟩, Function.update_self]
    · rw [if_neg fun h => horder h.2, Function.update_of_ne (Ne.symm horder)]

theorem numbers_finish (productSkus : Table ProductSku) (now : Nat) (referalId : String)
    (recordType : RecordType) (f : Flows) (order : String × RecordType) :
    ((FlowOp.finish now referalId recordType).specified productSkus f order).map Prod.fst =
      (f order).map Prod.fst := by
  by_cases horder : order = (referalId, recordType)
  · subst horder
    rw [specified_finish_self, List.map_map]
    rfl
  · rw [specified_finish_other _ now _ horder]

theorem numbers_split (productSkus : Table ProductSku) (order : String × RecordType) :
    ∀ (ops : List FlowOp) (f : Flows),
      (∀ flow ∈ pushes productSkus order ops, flow.rowSplit = true) →
        (run (FlowOp.specified productSkus) ops f order).map Prod.fst =
          (f order).map Prod.fst ++ (pushes productSkus order ops).map Flow.recordNum := by
  intro ops
  induction ops with
  | nil => exact fun f _ => (List.append_nil _).symm
  | cons op ops ih =>
    intro f hsplit
    rw [run_cons]
    cases op with
    | push flow =>
      unfold pushes at hsplit ⊢
      by_cases hflow : productSkus.get? flow.skuId ≠ none ∧ flow.order = order
      · rw [if_pos hflow] at hsplit ⊢
        have hfirst := hsplit flow List.mem_cons_self
        rw [ih _ fun flow' h => hsplit flow' (List.mem_cons_of_mem flow h), specified_push,
          if_pos hflow]
        unfold Flow.appendTo
        rw [if_pos (Or.inl hfirst), List.map_append, List.append_assoc]
        rfl
      · rw [if_neg hflow] at hsplit ⊢
        rw [ih _ hsplit, specified_push, if_neg hflow]
    | finish now referalId recordType =>
      rw [ih _ hsplit, numbers_finish]
      rfl

theorem numbers_plain (productSkus : Table ProductSku) (order : String × RecordType) :
    ∀ (ops : List FlowOp) (f : Flows),
      (∀ flow ∈ pushes productSkus order ops, flow.rowSplit = false) →
        (run (FlowOp.specified productSkus) ops f order).map Prod.fst =
          if f order = [] then ((pushes productSkus order ops).map Flow.recordNum).take 1
          else (f order).map Prod.fst := by
  intro ops
  induction ops with
  | nil =>
    intro f _
    split
    · next hnil =>
        rw [run_nil, hnil]
        rfl
    · rfl
  | cons op ops ih =>
    intro f hplain
    rw [run_cons]
    cases op with
    | push flow =>
      unfold pushes at hplain ⊢
      by_cases hflow : productSkus.get? flow.skuId ≠ none ∧ flow.order = order
      · rw [if_pos hflow] at hplain ⊢
        have hfirst := hplain flow List.mem_cons_self
        rw [ih _ fun flow' h => hplain flow' (List.mem_cons_of_mem flow h), specified_push,
          if_pos hflow]
        unfold Flow.appendTo
        by_cases hnil : f order = []
        · rw [if_pos (Or.inr hnil), hnil, if_neg (List.append_ne_nil_of_right_ne_nil _
            (List.cons_ne_nil _ _)), if_pos rfl]
          rfl
        · have hkept : ¬ (flow.rowSplit = true ∨ f order = []) := by
            rintro (hsplit | hempty)
            · exact Bool.false_ne_true (hfirst.symm.trans hsplit)
            · exact hnil hempty
          rw [if_neg hkept, if_neg hnil, if_neg hnil]
      · rw [if_neg hflow] at hplain ⊢
        rw [ih _ hplain, specified_push, if_neg hflow]
    | finish now referalId recordType =>
      have hempty : (FlowOp.finish now referalId recordType).specified productSkus f order = [] ↔
          f order = [] := by
        rw [← List.map_eq_nil_iff (f := Prod.fst), numbers_finish, List.map_eq_nil_iff]
      rw [ih _ hplain, numbers_finish]
      exact if_congr hempty rfl rfl

/-- No flow of a run is lost exactly where every step fits. -/
theorem no_flow_lost_iff (productSkus : Table ProductSku) (ops : List FlowOp) :
    NoFlowLost productSkus ops ↔ Guarded FlowOp.exec FlowOp.Fits ops (start productSkus) := by
  have hstepwise : Guarded FlowOp.exec
      (fun s op => flows (op.exec s) = op.specified productSkus (flows s)) ops
        (start productSkus) ↔ Guarded FlowOp.exec FlowOp.Fits ops (start productSkus) := by
    refine guarded_iff_guarded (I := fun s => Keyed s ∧ s.productSkus = productSkus) ?_ ?_ ops
      (start productSkus) ⟨fun record hrecord => absurd hrecord List.not_mem_nil, rfl⟩
    · rintro s op ⟨hkeyed, rfl⟩
      exact does_iff hkeyed op
    · rintro s op ⟨hkeyed, hskus⟩ -
      exact ⟨hkeyed.exec op, (exec_productSkus op s).trans hskus⟩
  rw [← hstepwise]
  constructor
  · exact NoFlowLost.stepwise
  · intro h
    have hrun : ∀ done, done <+: ops → flows (run FlowOp.exec done (start productSkus)) =
        run (FlowOp.specified productSkus) done fun _ => [] := by
      rintro done ⟨rest, rfl⟩
      exact flows_run h.append.1
    refine ⟨h, fun done hdone order hplain => ?_, fun done hdone order hsplit => ?_⟩
    · rw [hrun done hdone, numbers_plain productSkus order done _ hplain, if_pos rfl]
    · rw [hrun done hdone, numbers_split productSkus order done _ hsplit]
      rfl

/-! ## Orders without a dash -/

def secondKey (referalId : String) (recordType : RecordType) : String :=
  uniKeyOf referalId recordType ++ ("-" ++ toString 1)

def Plain (s : FlowDb) : Prop := ∀ record ∈ s.records, Key.Free '-' record.referalId ∧
  (record.uniKey = uniKeyOf record.referalId record.recordType ∨
    record.uniKey = secondKey record.referalId record.recordType ∧
      Taken s (uniKeyOf record.referalId record.recordType))

def FlowOp.referalId : FlowOp → String
  | push flow => flow.referalId
  | finish _ referalId _ => referalId

theorem toList_uniKeyOf (referalId : String) (recordType : RecordType) :
    (uniKeyOf referalId recordType).toList =
      referalId.toList ++ '-' :: recordType.value.toList := by
  unfold uniKeyOf
  rw [String.toList_append, String.toList_append]
  rfl

theorem value_begins {recordType recordType' : RecordType} {l l' : List Char}
    (h : recordType.value.toList ++ l = recordType'.value.toList ++ l') :
    recordType = recordType' := by
  have hsecond := congrArg (fun cs : List Char => cs[1]?) h
  cases recordType with
  | saleOrder =>
    cases recordType' with
    | saleOrder => rfl
    | saleRefund => exact absurd (Option.some.inj hsecond) (by decide)
  | saleRefund =>
    cases recordType' with
    | saleOrder => exact absurd (Option.some.inj hsecond) (by decide)
    | saleRefund => rfl

theorem Plain.order (h : Plain s) (hrecord : record ∈ s.records) {referalId : String}
    {recordType : RecordType} (hid : Key.Free '-' referalId)
    (hbegins : (uniKeyOf referalId recordType).toList <+: record.uniKey.toList) :
    record.order = (referalId, recordType) := by
  obtain ⟨hfree, hkey⟩ := h record hrecord
  obtain ⟨behind, hbehind⟩ : ∃ behind : List Char, record.uniKey.toList =
      record.referalId.toList ++ '-' :: (record.recordType.value.toList ++ behind) := by
    rcases hkey with hkey | ⟨hkey, -⟩
    · exact ⟨[], by rw [hkey, toList_uniKeyOf, List.append_nil]⟩
    · refine ⟨("-" ++ toString 1).toList, ?_⟩
      rw [hkey]
      unfold secondKey
      rw [String.toList_append, toList_uniKeyOf, List.append_assoc, List.cons_append]
  obtain ⟨rest, hrest⟩ := hbegins
  rw [hbehind, toList_uniKeyOf, List.append_assoc, List.cons_append] at hrest
  obtain ⟨hids, htypes⟩ := Key.append_cons_inj hid hfree hrest
  exact Prod.ext (String.toList_inj.mp hids.symm) (value_begins htypes).symm

theorem secondKey_ne (referalId : String) (recordType : RecordType) :
    secondKey referalId recordType ≠ uniKeyOf referalId recordType := by
  intro h
  have hlength := congrArg String.length h
  unfold secondKey at hlength
  rw [String.length_append] at hlength
  have hone : ("-" ++ toString 1).length = 2 := by decide
  omega

theorem Plain.first_uniKey (h : Plain s) {referalId : String} {recordType : RecordType}
    (hid : Key.Free '-' referalId) (hfirst : IsFirst s (uniKeyOf referalId recordType) first) :
    first.uniKey = uniKeyOf referalId recordType := by
  have horder := h.order hfirst.mem hid hfirst.begins
  obtain ⟨hreferal, htype⟩ := Prod.mk.inj horder
  rcases (h first hfirst.mem).2 with hkey | ⟨hkey, base, hbase, hbaseKey⟩
  · rw [hkey, hreferal, htype]
  · rw [hreferal, htype] at hkey hbaseKey
    have hle := hfirst.least base hbase (by rw [hbaseKey])
    rw [hbaseKey, hkey] at hle
    have hge : uniKeyOf referalId recordType ≤ secondKey referalId recordType := by
      unfold secondKey
      rw [String.le_iff_toList_le, String.toList_append]
      exact not_lt.mp fun hlt => List.le_append_left hlt
    exact absurd (le_antisymm hle hge) (secondKey_ne referalId recordType)

theorem nextCounter_uniKeyOf {referalId : String} (hid : Key.Free '-' referalId)
    (recordType : RecordType) : nextCounter (uniKeyOf referalId recordType) = some 1 := by
  have hsplit : split '-' (uniKeyOf referalId recordType) = [referalId, recordType.value] := by
    have hboth := split_append '-' referalId recordType.value
    unfold uniKeyOf
    rw [← String.append_assoc]
    refine hboth.trans ?_
    unfold split
    rw [List.splitOn_eq_singleton hid, List.splitOn_eq_singleton (free_value recordType),
      List.map_singleton, List.map_singleton, String.ofList_toList, String.ofList_toList]
    rfl
  unfold nextCounter
  rw [hsplit]

def FlowOp.SplitsThird (s : FlowDb) : FlowOp → Prop
  | push flow => s.productSkus.get? flow.skuId ≠ none ∧ flow.rowSplit = true ∧
      Taken s (secondKey flow.referalId flow.recordType)
  | finish _ _ _ => False

theorem Plain.fits_iff (h : Plain s) (op : FlowOp) (hid : Key.Free '-' op.referalId) :
    op.Fits s ↔ ¬ op.SplitsThird s := by
  cases op with
  | finish now referalId recordType =>
    exact iff_of_true (fun record hrecord hbegins _ => h.order hrecord hid hbegins) not_false
  | push flow =>
    have hid : Key.Free '-' flow.referalId := hid
    unfold FlowOp.Fits FlowOp.SplitsThird
    rw [not_and]
    refine imp_congr_right fun _ => ?_
    rw [not_and]
    unfold Flow.Fits
    split
    · next hsplit =>
        rw [imp_iff_right hsplit]
        constructor
        · rintro hfits ⟨second, hsecond, hkey⟩
          obtain ⟨hreferal, htype⟩ := Prod.mk.inj (h.order hsecond hid (by
            rw [hkey]
            unfold secondKey
            rw [String.toList_append]
            exact List.prefix_append _ _))
          rcases (h second hsecond).2 with hbase | ⟨-, base, hbase, hbaseKey⟩
          · rw [hreferal, htype] at hbase
            exact secondKey_ne _ _ (hkey.symm.trans hbase)
          · rw [hreferal, htype] at hbaseKey
            cases hleast : firstRecord s (uniKeyOf flow.referalId flow.recordType) with
            | none =>
              exact absurd (by rw [hbaseKey]) (firstRecord_eq_none hleast base hbase)
            | some first =>
              have hfirst := isFirst_of_firstRecord hleast
              obtain ⟨n, hn, hnew⟩ := hfits first hfirst
              rw [h.first_uniKey hid hfirst, nextCounter_uniKeyOf hid] at hn
              obtain rfl := Option.some.inj hn
              exact hnew ⟨second, hsecond, hkey⟩
        · intro hnew first hfirst
          refine ⟨1, ?_, hnew⟩
          rw [h.first_uniKey hid hfirst, nextCounter_uniKeyOf hid]
    · next hsplit =>
        refine iff_of_true ?_ fun hsplits => absurd hsplits hsplit
        rintro ⟨record, hrecord, horder⟩
        obtain ⟨hreferal, htype⟩ := Prod.mk.inj horder
        rw [← hreferal, ← htype]
        rcases (h record hrecord).2 with hbase | ⟨-, hbase⟩
        · exact ⟨record, hrecord, hbase⟩
        · exact hbase

theorem Plain.exec (h : Plain s) (op : FlowOp) (hid : Key.Free '-' op.referalId) :
    Plain (op.exec s) := by
  cases op with
  | push flow =>
    generalize hexec : (FlowOp.push flow).exec s = t
    have hpushed : Pushed s flow t := hexec ▸ exec_push s flow
    cases hpushed with
    | refused _ => exact h
    | found _ _ _ => exact h
    | lost _ _ _ => exact h
    | created modelId uniKey _ hkey _ _ =>
      intro record hrecord
      rcases Table.mem_insert.mp hrecord with hold | rfl
      · obtain ⟨hfree, hkey⟩ := h record hold
        refine ⟨hfree, hkey.imp id fun ⟨hsecond, base, hbase, hbaseKey⟩ =>
          ⟨hsecond, base, Table.mem_insert.mpr (.inl hbase), hbaseKey⟩⟩
      · refine ⟨hid, hkey.imp id ?_⟩
        rintro ⟨-, first, n, hfirst, hn, hcounter⟩
        have hfirstKey := h.first_uniKey hid hfirst
        rw [hfirstKey, nextCounter_uniKeyOf hid] at hn
        obtain rfl := Option.some.inj hn
        exact ⟨hcounter, first, Table.mem_insert.mpr (.inl hfirst.mem), hfirstKey⟩
  | finish now referalId recordType =>
    have hkeys : ∀ record ∈ s.records,
        ∃ record' ∈ ((FlowOp.finish now referalId recordType).exec s).records,
          record'.uniKey = record.uniKey := by
      intro record hrecord
      refine ⟨finished now referalId recordType record, ?_, ?_⟩
      · rw [Table.mem_def, exec_finish]
        exact List.mem_map_of_mem hrecord
      · unfold finished
        split
        · rfl
        · rfl
    intro record hrecord
    rw [Table.mem_def, exec_finish] at hrecord
    obtain ⟨old, hold, rfl⟩ := List.mem_map.mp hrecord
    obtain ⟨hfree, hkey⟩ := h old hold
    have hkept : Key.Free '-' old.referalId ∧
        (old.uniKey = uniKeyOf old.referalId old.recordType ∨
          old.uniKey = secondKey old.referalId old.recordType ∧
            Taken ((FlowOp.finish now referalId recordType).exec s)
              (uniKeyOf old.referalId old.recordType)) := by
      refine ⟨hfree, hkey.imp id fun ⟨hsecond, base, hbase, hbaseKey⟩ => ⟨hsecond, ?_⟩⟩
      obtain ⟨base', hbase', hsame⟩ := hkeys base hbase
      exact ⟨base', hbase', hsame.trans hbaseKey⟩
    unfold finished
    split
    · exact hkept
    · exact hkept

/-- Where no referal id has a `-`, the flow of a step is lost where an order is split again. -/
theorem no_flow_lost_plain_iff (productSkus : Table ProductSku) (ops : List FlowOp)
    (hids : ∀ op ∈ ops, Key.Free '-' op.referalId) :
    Guarded FlowOp.exec (fun s op => op.Does s) ops (start productSkus) ↔
      Guarded FlowOp.exec (fun s op => ¬ op.SplitsThird s) ops (start productSkus) := by
  have hguards : ∀ (ops : List FlowOp) (s : FlowDb), (∀ op ∈ ops, Key.Free '-' op.referalId) →
      Keyed s → Plain s → (Guarded FlowOp.exec (fun s op => op.Does s) ops s ↔
        Guarded FlowOp.exec (fun s op => ¬ op.SplitsThird s) ops s) := by
    intro ops
    induction ops with
    | nil => exact fun _ _ _ _ => Iff.rfl
    | cons op ops ih =>
      intro s hids hkeyed hplain
      have hid := hids op List.mem_cons_self
      exact and_congr ((does_iff hkeyed op).trans (hplain.fits_iff op hid))
        (ih _ (fun op' hop' => hids op' (List.mem_cons_of_mem op hop')) (hkeyed.exec op)
          (hplain.exec op hid))
  have hnone : ∀ P : StockBatchFlowRecord → Prop, ∀ record ∈ (start productSkus).records,
      P record := fun _ record hrecord => absurd hrecord List.not_mem_nil
  exact hguards ops _ hids (hnone _) (hnone _)

def shelfSkus : Table ProductSku := Table.empty.insert ⟨1, 7⟩

def post (num : Int) (batchNo : String) : FlowOp :=
  .push ⟨1, num, batchNo, "xo160801", .saleOrder, true⟩

theorem two_splits_kept :
    Guarded FlowOp.exec (fun s op => op.Does s) [post 2 "b1", post 3 "b2"] (start shelfSkus) := by
  refine (no_flow_lost_plain_iff shelfSkus _ (by decide)).mpr ⟨?_, ?_, trivial⟩
  · exact fun ⟨_, _, _, hrecord, _⟩ => List.not_mem_nil hrecord
  · rintro ⟨-, -, record, hrecord, hkey⟩
    obtain rfl := List.mem_singleton.mp hrecord
    exact absurd hkey (by decide)

theorem no_flow_lost_fails :
    ¬ NoFlowLost shelfSkus [post 2 "b1", post 3 "b2", post 4 "b3"] := by
  intro h
  have hall := h.all _ List.prefix_rfl ("xo160801", .saleOrder) (by decide)
  exact absurd hall (by decide +kernel)

end ShopManager.Purchase.StockFlow
