import Mathlib.Data.List.Perm.Subperm
import ShopManager.Mama.Rank.Model

/-!
# The ranks in an activity

A rank is one more than the number of rows with a greater value, and zero without a value.  The
loop of a reset works that out from the ordered rows, and the sorted set from its scores.
-/

namespace ShopManager.Mama.Rank

open Library Library.Tx

/-! ## The loop -/

def greater (l : List (Nat × Int)) (value : Int) : Nat := (l.filter fun e => value < e.2).length

def competition (l : List (Nat × Int)) (value : Int) : Int :=
  if 0 < value then greater l value + 1 else 0

theorem greater_concat (l : List (Nat × Int)) (m : Nat × Int) {value : Int} (h : m.2 ≤ value) :
    greater (l ++ [m]) value = greater l value := by
  unfold greater
  rw [List.filter_append, List.filter_cons, if_neg fun hlt => absurd (of_decide_eq_true hlt)
    (not_lt.mpr h), List.filter_nil, List.append_nil]

theorem competition_concat (l : List (Nat × Int)) (m : Nat × Int) {value : Int}
    (h : m.2 ≤ value) : competition (l ++ [m]) value = competition l value := by
  unfold competition
  rw [greater_concat l m h]

structure Ranked (pre : List (Nat × Int)) (loop : RankLoop) : Prop where
  i : loop.i = pre.length + 1
  first : loop.lastValue = none → pre = []
  last : ∀ value, loop.lastValue = some value →
    (∃ e ∈ pre, e.2 = value) ∧ (∀ e ∈ pre, value ≤ e.2) ∧ loop.rank = greater pre value + 1
  res : loop.res = pre.map fun e => (e.1, competition pre e.2)

theorem Ranked.start : Ranked [] .start := ⟨rfl, fun _ => rfl, fun _ h => (nomatch h), rfl⟩

theorem Ranked.next {pre : List (Nat × Int)} {loop : RankLoop} {m : Nat × Int}
    (h : Ranked pre loop) (hm : ∀ e ∈ pre, m.2 ≤ e.2) : Ranked (pre ++ [m]) (loop.next m) := by
  -- whichever branch is taken, the value and the rank are those of `m`
  have hnext : loop.next m = ⟨loop.i + 1, greater pre m.2 + 1, some m.2,
      loop.res ++ [(m.1, competition pre m.2)]⟩ := by
    unfold RankLoop.next competition
    cases hlast : loop.lastValue with
    | none =>
      have hpre := h.first hlast
      have hi := h.i
      subst hpre
      simp only [if_true, hi]
      rfl
    | some value =>
      obtain ⟨⟨e, he, hvalue⟩, hlow, hrank⟩ := h.last value hlast
      by_cases hlower : m.2 < value
      · have hall : greater pre m.2 = pre.length := by
          unfold greater
          rw [List.filter_eq_self.mpr fun e he => decide_eq_true (hlower.trans_le (hlow e he))]
        simp only [decide_eq_true hlower, if_true, h.i, hall]
      · have hsame : value = m.2 := le_antisymm (not_lt.mp hlower) (hvalue ▸ hm e he)
        simp only [decide_eq_false hlower, Bool.false_eq_true, if_false, Option.getD_some, hrank]
        rw [hsame]
  rw [hnext]
  refine ⟨?_, fun hnone => (nomatch hnone), fun value hvalue => ?_, ?_⟩
  · dsimp only
    rw [h.i, List.length_append, List.length_singleton]
    push_cast
    rfl
  · obtain rfl : m.2 = value := Option.some.inj hvalue
    refine ⟨⟨m, List.mem_append_right _ (List.mem_singleton_self m), rfl⟩, fun e he => ?_, ?_⟩
    · rcases List.mem_append.mp he with he | he
      · exact hm e he
      · exact (congrArg Prod.snd (List.mem_singleton.mp he)).ge
    · rw [greater_concat pre m le_rfl]
  · dsimp only
    rw [h.res, List.map_append, List.map_singleton, competition_concat pre m le_rfl]
    congr 1
    refine List.map_congr_left fun e he => ?_
    rw [competition_concat pre m (hm e he)]

theorem Ranked.foldl :
    ∀ (post pre : List (Nat × Int)) (loop : RankLoop), Ranked pre loop →
      (pre ++ post).Pairwise (fun a b => b.2 ≤ a.2) →
      Ranked (pre ++ post) (post.foldl RankLoop.next loop) := by
  intro post
  induction post with
  | nil =>
    intro pre loop h _
    rw [List.append_nil]
    exact h
  | cons m post ih =>
    intro pre loop h hsorted
    have hm : ∀ e ∈ pre, m.2 ≤ e.2 := fun e he =>
      (List.pairwise_append.mp hsorted).2.2 e he m List.mem_cons_self
    rw [List.append_cons] at hsorted ⊢
    exact ih (pre ++ [m]) _ (h.next hm) hsorted

theorem res_loop {ms : List (Nat × Int)} (hsorted : ms.Pairwise fun a b => b.2 ≤ a.2) :
    (ms.foldl RankLoop.next .start).res = ms.map fun e => (e.1, competition ms e.2) :=
  (Ranked.foldl ms [] .start .start hsorted).res

/-! ## The stored ranks -/

namespace ActivityMamaCarryTotal

variable (target target' : Target) (rank : Int) (row : ActivityMamaCarryTotal)

theorem withPk_setDelay : Row.withPk (Row.pk row) (row.setDelay target rank) =
    row.setDelay target rank := by
  cases target
  · rfl
  · rfl
  · rfl

theorem setDelay_mamaId : (row.setDelay target rank).mamaId = row.mamaId := by
  cases target
  · rfl
  · rfl
  · rfl

theorem setDelay_activityId : (row.setDelay target rank).activityId = row.activityId := by
  cases target
  · rfl
  · rfl
  · rfl

theorem delay_setDelay : (row.setDelay target rank).delay target = rank := by
  cases target
  · rfl
  · rfl
  · rfl

theorem setDelay_setDelay (rank' : Int) :
    (row.setDelay target rank).setDelay target rank' = row.setDelay target rank' := by
  cases target
  · rfl
  · rfl
  · rfl

theorem value_setDelay : (row.setDelay target rank).value target' = row.value target' := by
  cases target
  · rfl
  · rfl
  · rfl

theorem targetCondition_setDelay (activity : Nat) :
    (row.setDelay target rank).targetCondition activity target' ↔
      row.targetCondition activity target' := by
  cases target
  · rfl
  · rfl
  · rfl

end ActivityMamaCarryTotal

section MultiUpdate

variable {activity : Nat} {target : Target} {res : List (Nat × Int)}

def marked (activity : Nat) (target : Target) (res : List (Nat × Int)) (keys : List Nat)
    (row : ActivityMamaCarryTotal) : ActivityMamaCarryTotal :=
  if row.mamaId ∈ keys ∧ row.activityId = activity then
    row.setDelay target (rankOf res row.mamaId)
  else row

theorem marked_marked (keys keys' : List Nat) (row : ActivityMamaCarryTotal) :
    marked activity target res keys' (marked activity target res keys row) =
      marked activity target res (keys ++ keys') row := by
  unfold marked
  by_cases hkeys : row.mamaId ∈ keys ∧ row.activityId = activity
  · rw [if_pos hkeys, row.setDelay_mamaId, row.setDelay_activityId, row.setDelay_setDelay, ite_self,
      if_pos ⟨List.mem_append_left _ hkeys.1, hkeys.2⟩]
  · rw [if_neg hkeys]
    refine if_congr (and_congr_left fun hactivity => ?_) rfl rfl
    rw [List.mem_append, or_iff_right fun hmem => hkeys ⟨hmem, hactivity⟩]

theorem updateSlice_run (activity : Nat) (target : Target) (res : List (Nat × Int))
    (item : List Nat) (s : RankDb) :
    ∃ rows, (updateSlice activity target res item).run s = (.ok (), { s with rows := rows }) ∧
      rows.rows = s.rows.rows.map (marked activity target res item) := by
  unfold updateSlice
  by_cases hitem : item = []
  · rw [if_pos hitem]
    refine ⟨s.rows, rfl, ?_⟩
    have hid : ∀ row ∈ s.rows.rows, marked activity target res item row = row := by
      intro row _
      unfold marked
      rw [hitem, if_neg fun h => List.not_mem_nil h.1]
    rw [List.map_congr_left hid, List.map_id']
  · rw [if_neg hitem]
    refine ⟨_, rfl, List.map_congr_left fun row _ => ?_⟩
    unfold marked
    rw [row.withPk_setDelay]
    exact if_congr decide_eq_true_iff rfl rfl

theorem updateAll_run (activity : Nat) (target : Target) (res : List (Nat × Int)) :
    ∀ (items : List (List Nat)) (s : RankDb),
      ∃ rows, (forEach items (updateSlice activity target res)).run s =
          (.ok (), { s with rows := rows }) ∧
        rows.rows = s.rows.rows.map (marked activity target res items.flatten) := by
  intro items
  induction items with
  | nil =>
    intro s
    refine ⟨s.rows, rfl, ?_⟩
    have hid : ∀ row ∈ s.rows.rows, marked activity target res [].flatten row = row :=
      fun row _ => if_neg fun h => List.not_mem_nil h.1
    rw [List.map_congr_left hid, List.map_id']
  | cons item items ih =>
    intro s
    obtain ⟨rows, hrun, hrows⟩ := updateSlice_run activity target res item s
    obtain ⟨rows', hrun', hrows'⟩ := ih { s with rows := rows }
    refine ⟨rows', ?_, ?_⟩
    · rw [forEach_cons, bind_ok hrun]
      exact hrun'
    · rw [hrows', hrows, List.map_map, List.flatten_cons]
      exact List.map_congr_left fun row _ => marked_marked item items.flatten row

theorem flatten_slices (keys : List Nat) :
    (slices keys).flatten = keys.take (sliceCount * sliceLen) := by
  unfold slices
  induction sliceCount with
  | zero => rw [Nat.zero_mul]; rfl
  | succ n ih =>
    rw [List.range_succ, List.map_append, List.flatten_append, ih, List.map_singleton,
      List.flatten_singleton, Nat.succ_mul, List.take_add]

theorem multiUpdate_run (order : HashOrder) (activity : Nat) (target : Target) (s : RankDb)
    (hres : res ≠ []) :
    ∃ rows, (multiUpdate order activity target res).run s = (.ok (), { s with rows := rows }) ∧
      rows.rows = s.rows.rows.map (marked activity target res
        ((order.arrange (res.map Prod.fst)).take (sliceCount * sliceLen))) := by
  unfold multiUpdate
  rw [raiseIf_bind_run, if_neg hres, ← flatten_slices]
  exact updateAll_run activity target res _ s

end MultiUpdate

/-! ## A reset -/

def Unique (s : RankDb) : Prop :=
  (s.rows.rows.map fun row => (row.activityId, row.mamaId)).Nodup

def rankIn (s : RankDb) (activity : Nat) (target : Target) (row : ActivityMamaCarryTotal) : Int :=
  if 0 < row.value target then
    ((s.rows.filter fun other => other.targetCondition activity target ∧
      row.value target < other.value target).length : Int) + 1
  else 0

section Reset

variable {s t : RankDb} {activity : Nat} {target : Target} {row : ActivityMamaCarryTotal}

theorem sorted_ranking (s : RankDb) (activity : Nat) (target : Target) :
    (ranking s activity target).Pairwise fun a b => b.2 ≤ a.2 := by
  have htrans : ∀ a b c : Nat × Int, decide (b.2 ≤ a.2) = true → decide (c.2 ≤ b.2) = true →
      decide (c.2 ≤ a.2) = true := fun a b c hab hbc =>
    decide_eq_true ((of_decide_eq_true hbc).trans (of_decide_eq_true hab))
  have htotal : ∀ a b : Nat × Int, (decide (b.2 ≤ a.2) || decide (a.2 ≤ b.2)) = true := by
    intro a b
    rw [Bool.or_eq_true, decide_eq_true_iff, decide_eq_true_iff]
    exact le_total b.2 a.2
  have h := List.pairwise_mergeSort htrans htotal ((s.rows.filter fun row =>
    row.targetCondition activity target).map fun row => (row.mamaId, row.value target))
  exact h.imp fun h => of_decide_eq_true h

theorem mem_ranking {e : Nat × Int} : e ∈ ranking s activity target ↔
    ∃ row ∈ s.rows, row.targetCondition activity target ∧
      (row.mamaId, row.value target) = e := by
  unfold ranking
  rw [List.mem_mergeSort, List.mem_map]
  constructor
  · rintro ⟨row, hrow, he⟩
    obtain ⟨hmem, hcounts⟩ := List.mem_filter.mp hrow
    exact ⟨row, hmem, of_decide_eq_true hcounts, he⟩
  · rintro ⟨row, hrow, hcounts, he⟩
    exact ⟨row, List.mem_filter.mpr ⟨hrow, decide_eq_true hcounts⟩, he⟩

theorem activityId_of_targetCondition (h : row.targetCondition activity target) :
    row.activityId = activity := by
  cases target
  · exact h
  · exact h.1
  · exact h

theorem row_eq (hunique : Unique s) {row' : ActivityMamaCarryTotal} (hrow : row ∈ s.rows)
    (hrow' : row' ∈ s.rows) (hactivity : row.activityId = row'.activityId)
    (hmama : row.mamaId = row'.mamaId) : row = row' :=
  List.inj_on_of_nodup_map hunique hrow hrow' (Prod.ext hactivity hmama)

theorem nodup_mamas (hunique : Unique s) (activity : Nat) (p : ActivityMamaCarryTotal → Bool)
    (hp : ∀ row, p row = true → row.activityId = activity) :
    ((s.rows.filter p).map ActivityMamaCarryTotal.mamaId).Nodup := by
  have hrows : (s.rows.filter p).Nodup := s.rows.nodup_rows.filter _
  refine List.Nodup.map_on (fun row hrow row' hrow' hmama => ?_) hrows
  obtain ⟨hmem, hcounts⟩ := List.mem_filter.mp hrow
  obtain ⟨hmem', hcounts'⟩ := List.mem_filter.mp hrow'
  exact row_eq hunique hmem hmem' ((hp row hcounts).trans (hp row' hcounts').symm) hmama

theorem nodup_ranking (hunique : Unique s) (activity : Nat) (target : Target) :
    ((ranking s activity target).map Prod.fst).Nodup := by
  have hperm := (List.mergeSort_perm ((s.rows.filter fun row =>
    row.targetCondition activity target).map fun row => (row.mamaId, row.value target))
      fun a b => b.2 ≤ a.2).map Prod.fst
  refine hperm.nodup_iff.mpr ?_
  rw [List.map_map]
  exact nodup_mamas hunique activity _ fun row h => activityId_of_targetCondition (of_decide_eq_true h)

theorem competition_ranking (s : RankDb) (activity : Nat) (target : Target)
    (row : ActivityMamaCarryTotal) :
    competition (ranking s activity target) (row.value target) = rankIn s activity target row := by
  unfold competition rankIn greater
  have hperm := (List.mergeSort_perm ((s.rows.filter fun row =>
    row.targetCondition activity target).map fun row => (row.mamaId, row.value target))
      fun a b => b.2 ≤ a.2).filter fun e => decide (row.value target < e.2)
  have hlength := hperm.length_eq
  rw [List.filter_map, List.length_map] at hlength
  unfold ranking
  rw [hlength]
  unfold Table.filter
  rw [List.filter_filter]
  simp only [Function.comp_apply, Bool.decide_and, Bool.and_comm]

theorem rankOf_map {f : Nat × Int → Int} :
    ∀ {ms : List (Nat × Int)}, (ms.map Prod.fst).Nodup → ∀ e ∈ ms,
      rankOf (ms.map fun e => (e.1, f e)) e.1 = f e := by
  intro ms
  induction ms with
  | nil => exact fun _ e he => nomatch he
  | cons m ms ih =>
    intro hnodup e he
    obtain ⟨hm, hms⟩ := List.nodup_cons.mp hnodup
    unfold rankOf
    rw [List.map_cons, List.lookup_cons]
    rcases List.mem_cons.mp he with rfl | he
    · rw [beq_self_eq_true]
      rfl
    · have hne : (e.1 == m.1) = false :=
        beq_false_of_ne fun heq => hm (heq ▸ List.mem_map_of_mem he)
      rw [hne]
      exact ih hms e he

def reached (order : HashOrder) (s : RankDb) (activity : Nat) (target : Target) : List Nat :=
  (order.arrange ((ranking s activity target).map Prod.fst)).take (sliceCount * sliceLen)

theorem mem_reached (order : HashOrder) (hrow : row ∈ s.rows)
    (hcounts : row.targetCondition activity target)
    (hfew : (s.rows.filter fun row => row.targetCondition activity target).length ≤
      sliceCount * sliceLen) : row.mamaId ∈ reached order s activity target := by
  have hlength : (order.arrange ((ranking s activity target).map Prod.fst)).length ≤
      sliceCount * sliceLen := by
    rw [(order.perm _).length_eq, List.length_map]
    unfold ranking
    rw [List.length_mergeSort, List.length_map]
    exact hfew
  unfold reached
  rw [List.take_of_length_le hlength, (order.perm _).mem_iff]
  exact List.mem_map_of_mem (mem_ranking.mpr ⟨row, hrow, hcounts, rfl⟩)

def rankedRow (order : HashOrder) (s : RankDb) (activity : Nat) (target : Target)
    (row : ActivityMamaCarryTotal) : ActivityMamaCarryTotal :=
  marked activity target ((ranking s activity target).map fun e =>
    (e.1, competition (ranking s activity target) e.2)) (reached order s activity target) row

theorem rankedRow_value (order : HashOrder) (s : RankDb) (activity : Nat) (target target' : Target)
    (row : ActivityMamaCarryTotal) :
    (rankedRow order s activity target row).value target' = row.value target' := by
  unfold rankedRow marked
  split
  · exact row.value_setDelay _ _ _
  · rfl

theorem rankedRow_targetCondition (order : HashOrder) (s : RankDb) (activity : Nat)
    (target : Target) (row : ActivityMamaCarryTotal) :
    (rankedRow order s activity target row).targetCondition activity target ↔
      row.targetCondition activity target := by
  unfold rankedRow marked
  split
  · exact row.targetCondition_setDelay _ _ _ _
  · rfl

theorem rankedRow_delay (order : HashOrder) (hunique : Unique s) (hrow : row ∈ s.rows)
    (hcounts : row.targetCondition activity target) :
    (rankedRow order s activity target row).delay target =
      if row.mamaId ∈ reached order s activity target then rankIn s activity target row
      else row.delay target := by
  unfold rankedRow marked
  have hactivity := activityId_of_targetCondition hcounts
  by_cases hreached : row.mamaId ∈ reached order s activity target
  · have he : (row.mamaId, row.value target) ∈ ranking s activity target :=
      mem_ranking.mpr ⟨row, hrow, hcounts, rfl⟩
    have hrank := rankOf_map (f := fun e => competition (ranking s activity target) e.2)
      (nodup_ranking hunique activity target) _ he
    rw [if_pos ⟨hreached, hactivity⟩, if_pos hreached, row.delay_setDelay]
    exact hrank.trans (competition_ranking s activity target row)
  · rw [if_neg fun h => hreached h.1, if_neg hreached]

theorem rankIn_ranked (order : HashOrder) {rows : Table ActivityMamaCarryTotal}
    (hrows : rows.rows = s.rows.rows.map (rankedRow order s activity target))
    (row : ActivityMamaCarryTotal) :
    rankIn { s with rows := rows } activity target (rankedRow order s activity target row) =
      rankIn s activity target row := by
  unfold rankIn Table.filter
  dsimp only
  rw [rankedRow_value, hrows, List.filter_map, List.length_map]
  have hfilter : ((fun other : ActivityMamaCarryTotal => decide
      (other.targetCondition activity target ∧ row.value target < other.value target)) ∘
        rankedRow order s activity target) = fun other => decide
      (other.targetCondition activity target ∧ row.value target < other.value target) := by
    funext other
    simp only [Function.comp_apply, rankedRow_targetCondition, rankedRow_value]
  rw [hfilter]

end Reset

section Generation

variable {s t : RankDb} {activity : RankActivity} {target : Target}

def generatedDb (order : HashOrder) (s : RankDb) (activity : RankActivity) : RankDb :=
  { s with
    rows := ((mamaIds order s activity).filterMap (generated s activity)).foldl Table.insert
      s.rows }

theorem generated_eq_some {mama : Nat} {row : ActivityMamaCarryTotal}
    (h : generated s activity mama = some row) :
    row.activityId = activity.id ∧ row.mamaId = mama := by
  unfold generated at h
  obtain ⟨data, -, h⟩ := Option.bind_eq_some_iff.mp h
  obtain ⟨inviteTrialNum, -, h⟩ := Option.bind_eq_some_iff.mp h
  rw [← Option.some.inj h]
  exact ⟨rfl, rfl⟩

theorem keys_insertAll :
    ∀ (records : List ActivityMamaCarryTotal) (rows : Table ActivityMamaCarryTotal),
      (records.foldl Table.insert rows).rows.map (fun row => (row.activityId, row.mamaId)) =
        rows.rows.map (fun row => (row.activityId, row.mamaId)) ++
          records.map fun row => (row.activityId, row.mamaId) := by
  intro records
  induction records with
  | nil => exact fun rows => (List.append_nil _).symm
  | cons record records ih =>
    intro rows
    rw [List.foldl_cons, ih, Table.map_rows_insert, List.append_assoc]
    rfl

theorem keys_generated (s : RankDb) (activity : RankActivity) (mamas : List Nat) :
    ((mamas.filterMap (generated s activity)).map fun row => (row.activityId, row.mamaId)).Sublist
      (mamas.map fun mama => (activity.id, mama)) := by
  induction mamas with
  | nil => exact .slnil
  | cons mama mamas ih =>
    cases hrow : generated s activity mama with
    | none =>
      rw [List.filterMap_cons_none hrow]
      exact ih.cons _
    | some row =>
      obtain ⟨hactivity, hmama⟩ := generated_eq_some hrow
      rw [List.filterMap_cons_some hrow, List.map_cons, hactivity, hmama]
      exact ih.cons_cons _

theorem unique_generated (order : HashOrder) (hunique : Unique s) (activity : RankActivity) :
    Unique (generatedDb order s activity) := by
  unfold Unique generatedDb
  dsimp only
  rw [keys_insertAll, List.nodup_append']
  have hsub := keys_generated s activity (mamaIds order s activity)
  have hperm := order.perm (((s.mamas.filter fun mama => mama.serving = true).map
    XiaoluMama.id).filter fun mama => s.fortunes mama ≠ none ∧
      mama ∉ (s.rows.filter fun row => row.activityId = activity.id).map
        ActivityMamaCarryTotal.mamaId)
  refine ⟨hunique, hsub.nodup ?_, ?_⟩
  · have hids : (mamaIds order s activity).Nodup :=
      hperm.nodup_iff.mpr ((s.mamas.nodup_pk_filter _).filter _)
    exact hids.map fun _ _ h => congrArg Prod.snd h
  · intro key hold hnew
    obtain ⟨row, hrow, rfl⟩ := List.mem_map.mp hold
    obtain ⟨mama, hmama, hkey⟩ := List.mem_map.mp (hsub.subset hnew)
    have hfresh := (of_decide_eq_true (List.mem_filter.mp (hperm.mem_iff.mp hmama)).2).2
    refine hfresh (List.mem_map.mpr ⟨row, List.mem_filter.mpr ⟨hrow, decide_eq_true ?_⟩, ?_⟩)
    · exact (congrArg Prod.fst hkey).symm
    · exact (congrArg Prod.snd hkey).symm

/-! ## Checks -/

/-- A check of a set does not fail: it is locked, or there is an activity now, and some row to put
into a set that has to be made anew. -/
def Passes (s : RankDb) (target : Target) : Prop :=
  s.locked target = true ∨ ∃ activity, RankActivity.nowActivity s = some activity ∧
    (realCount s activity.id target = 0 → (s.sets target).zcard = 0)

structure Checked (s t : RankDb) (target : Target) : Prop where
  same : t = { s with sets := t.sets, locked := t.locked }
  sets : ∀ other, other ≠ target → t.sets other = s.sets other
  locked : ∀ other, other ≠ target → t.locked other = s.locked other

theorem Checked.passes_iff (h : Checked s t target) {other : Target} (hother : other ≠ target) :
    Passes t other ↔ Passes s other := by
  unfold Passes
  rw [h.sets other hother, h.locked other hother, h.same]
  rfl

theorem missing_nil (s : RankDb) (activity : Nat) (target : Target) :
    (missing s activity target []).length = realCount s activity target := by
  unfold missing realCount
  rw [List.length_map]
  simp only [List.not_mem_nil, not_false_eq_true, and_true]

theorem missing_ne_nil (hunique : Unique s) {activity : Nat}
    (h : (s.sets target).zcard < realCount s activity target) :
    missing s activity target (s.sets target).members ≠ [] := by
  intro hnil
  unfold missing at hnil
  rw [List.map_eq_nil_iff] at hnil
  unfold Table.filter at hnil
  rw [List.filter_eq_nil_iff] at hnil
  have hnodup := nodup_mamas hunique activity
    (fun row => row.filters target ∧ row.activityId = activity)
    fun row h => (of_decide_eq_true h).2
  have hsub : (s.rows.filter fun row => row.filters target ∧ row.activityId = activity).map
      ActivityMamaCarryTotal.mamaId ⊆ (s.sets target).members := by
    intro mama hmama
    obtain ⟨row, hrow, rfl⟩ := List.mem_map.mp hmama
    obtain ⟨hmem, hcounts⟩ := List.mem_filter.mp hrow
    obtain ⟨hfilters, hactivity⟩ := of_decide_eq_true hcounts
    by_contra hnot
    exact hnil row hmem (decide_eq_true ⟨hfilters, hactivity, hnot⟩)
  have hle := (hnodup.subperm hsub).length_le
  rw [List.length_map] at hle
  unfold SortedSet.members at hle
  rw [List.length_map] at hle
  exact absurd h (not_lt.mpr hle)

theorem batchUpdateCache_run {res : List (Nat × Int)} (hres : res ≠ []) (target : Target)
    (s : RankDb) :
    ∃ set, (batchUpdateCache res target).run s =
      (.ok (), { s with sets := Function.update s.sets target set }) := by
  unfold batchUpdateCache
  rw [raiseIf_bind_run, if_neg hres]
  exact ⟨_, rfl⟩

theorem repairCache_run (hunique : Unique s) (activity : Nat) (target : Target) :
    ((realCount s activity target = 0 → (s.sets target).zcard = 0) →
      ∃ set, (repairCache activity target).run s =
        (.ok (), { s with sets := Function.update s.sets target set })) ∧
    (¬ (realCount s activity target = 0 → (s.sets target).zcard = 0) →
      ∃ e set, (repairCache activity target).run s =
        (.error e, { s with sets := Function.update s.sets target set })) := by
  unfold repairCache
  rw [gets_bind_run, gets_bind_run]
  have hlength := missing_nil s activity target
  by_cases hmore : realCount s activity target < (s.sets target).zcard
  · rw [if_pos hmore, modify_bind_run, gets_bind_run]
    have hsame : missing { s with sets := Function.update s.sets target .empty } activity target [] =
        missing s activity target [] := rfl
    rw [hsame]
    by_cases hcount : realCount s activity target = 0
    · have hnil : missing s activity target [] = [] :=
        List.length_eq_zero_iff.mp (hlength.trans hcount)
      have hcard : (s.sets target).zcard ≠ 0 := hcount ▸ hmore.ne'
      refine ⟨fun h => absurd (h hcount) hcard, fun _ => ?_⟩
      unfold batchUpdateCache
      rw [raiseIf_bind_run, if_pos hnil]
      exact ⟨_, _, rfl⟩
    · have hne : missing s activity target [] ≠ [] := by
        intro hnil
        rw [hnil] at hlength
        exact hcount hlength.symm
      refine ⟨fun _ => ?_, fun h => absurd (fun h' => absurd h' hcount) h⟩
      obtain ⟨set, hrun⟩ := batchUpdateCache_run hne target
        { s with sets := Function.update s.sets target .empty }
      refine ⟨set, hrun.trans ?_⟩
      rw [Function.update_idem]
  · rw [if_neg hmore]
    have hcond : realCount s activity target = 0 → (s.sets target).zcard = 0 := fun h =>
      Nat.le_zero.mp (h ▸ not_lt.mp hmore)
    refine ⟨fun _ => ?_, fun h => absurd hcond h⟩
    by_cases hless : (s.sets target).zcard < realCount s activity target
    · rw [if_pos hless, gets_bind_run, gets_bind_run]
      exact batchUpdateCache_run (missing_ne_nil hunique hless) target s
    · rw [if_neg hless]
      exact ⟨s.sets target, by rw [Function.update_eq_self]; rfl⟩

theorem checkUpdateCache_run (hunique : Unique s) (target : Target) :
    (Passes s target → ∃ t, (checkUpdateCache target).run s = (.ok (), t) ∧ Checked s t target) ∧
    (¬ Passes s target → ∃ e t, (checkUpdateCache target).run s = (.error e, t) ∧
      t.rows = s.rows) := by
  unfold checkUpdateCache
  rw [gets_bind_run]
  by_cases hlocked : s.locked target = true
  · rw [if_pos hlocked]
    exact ⟨fun _ => ⟨s, rfl, rfl, fun _ _ => rfl, fun _ _ => rfl⟩, fun h => absurd (.inl hlocked) h⟩
  rw [if_neg hlocked]
  cases hactivity : RankActivity.nowActivity s with
  | none =>
    simp only [getOr_bind_run, hactivity]
    refine ⟨fun h => ?_, fun _ => ⟨_, _, rfl, rfl⟩⟩
    obtain ⟨activity, hnow, -⟩ := h.resolve_left hlocked
    exact nomatch hactivity.symm.trans hnow
  | some activity =>
    simp only [getOr_bind_run, hactivity]
    obtain ⟨hok, herror⟩ := repairCache_run hunique activity.id target
    constructor
    · intro h
      obtain ⟨activity', hnow, hcond⟩ := h.resolve_left hlocked
      obtain rfl := Option.some.inj (hactivity.symm.trans hnow)
      obtain ⟨set, hrun⟩ := hok hcond
      refine ⟨_, bind_ok hrun, rfl, fun other hother => ?_, fun other hother => ?_⟩
      · exact Function.update_of_ne hother _ _
      · exact Function.update_of_ne hother _ _
    · intro h
      obtain ⟨e, set, hrun⟩ := herror fun hcond => h (.inr ⟨activity, hactivity, hcond⟩)
      exact ⟨e, _, bind_error hrun, rfl⟩

theorem batchGenerate_run (order : HashOrder) (hunique : Unique s) (activity : RankActivity) :
    ((∀ target, Passes (generatedDb order s activity) target) →
      ∃ t, (batchGenerate order activity).run s = (.ok (), t) ∧
        t = { generatedDb order s activity with sets := t.sets, locked := t.locked }) ∧
    ((¬ ∀ target, Passes (generatedDb order s activity) target) →
      ∃ e t, (batchGenerate order activity).run s = (.error e, t) ∧
        t.rows = (generatedDb order s activity).rows) := by
  have hstart := unique_generated order hunique activity
  unfold batchGenerate
  rw [gets_bind_run, modify_bind_run]
  change (_ → ∃ t, _ ∧ _) ∧ _
  have hgenerated : ({ s with
      rows := ((mamaIds order s activity).filterMap (generated s activity)).foldl Table.insert
        s.rows } : RankDb) = generatedDb order s activity := rfl
  rw [hgenerated]
  generalize generatedDb order s activity = g at *
  obtain ⟨hinvite, hinviteError⟩ := checkUpdateCache_run hstart .inviteTrialNum
  by_cases hpinvite : Passes g .inviteTrialNum
  · obtain ⟨t₁, hrun₁, h₁⟩ := hinvite hpinvite
    rw [bind_ok hrun₁]
    have hunique₁ : Unique t₁ := by
      rw [h₁.same]
      exact hstart
    obtain ⟨hduration, hdurationError⟩ := checkUpdateCache_run hunique₁ .durationTotal
    rw [h₁.passes_iff (by decide)] at hduration hdurationError
    by_cases hpduration : Passes g .durationTotal
    · obtain ⟨t₂, hrun₂, h₂⟩ := hduration hpduration
      rw [bind_ok hrun₂]
      have hunique₂ : Unique t₂ := by
        rw [h₂.same]
        exact hunique₁
      obtain ⟨htrial, htrialError⟩ := checkUpdateCache_run hunique₂ .activityDurationTotal
      rw [h₂.passes_iff (by decide), h₁.passes_iff (by decide)] at htrial htrialError
      by_cases hptrial : Passes g .activityDurationTotal
      · obtain ⟨t₃, hrun₃, h₃⟩ := htrial hptrial
        refine ⟨fun _ => ⟨t₃, hrun₃, ?_⟩, fun h => ?_⟩
        · rw [h₃.same, h₂.same, h₁.same]
        · refine absurd (fun target => ?_) h
          cases target
          · exact hpduration
          · exact hptrial
          · exact hpinvite
      · obtain ⟨e, t₃, hrun₃, hrows⟩ := htrialError hptrial
        refine ⟨fun h => absurd (h _) hptrial, fun _ => ⟨e, t₃, hrun₃, ?_⟩⟩
        rw [hrows, h₂.same, h₁.same]
    · obtain ⟨e, t₂, hrun₂, hrows⟩ := hdurationError hpduration
      refine ⟨fun h => absurd (h _) hpduration, fun _ => ⟨e, t₂, bind_error hrun₂, ?_⟩⟩
      rw [hrows, h₁.same]
  · obtain ⟨e, t₁, hrun₁, hrows⟩ := hinviteError hpinvite
    exact ⟨fun h => absurd (h _) hpinvite, fun _ => ⟨e, t₁, bind_error hrun₁, hrows⟩⟩

/-! ## Ranks after a reset -/

def ResetsRanks (order : HashOrder) (s : RankDb) (activity : RankActivity) (target : Target) :
    Prop :=
  ∀ row ∈ ((resetRank order activity target).run s).2.rows,
    row.targetCondition activity.id target →
      ((resetRank order activity target).run s).1 = .ok () ∧
        row.delay target = rankIn ((resetRank order activity target).run s).2 activity.id target row

/-- If there is a row to rank, the target has a column of its own, no set fails its check, and
rows beyond those that the statements reach have their rank as it is. -/
def ResetFits (order : HashOrder) (s : RankDb) (activity : RankActivity) (target : Target) : Prop :=
  (∃ row ∈ (generatedDb order s activity).rows, row.targetCondition activity.id target) →
    target ≠ .activityDurationTotal ∧ (∀ other, Passes (generatedDb order s activity) other) ∧
      ∀ row ∈ (generatedDb order s activity).rows, row.targetCondition activity.id target →
        row.mamaId ∉ reached order (generatedDb order s activity) activity.id target →
          row.delay target = rankIn (generatedDb order s activity) activity.id target row

theorem resetRank_error (order : HashOrder) (target : Target) (hunique : Unique s)
    (h : (∀ other, Passes (generatedDb order s activity) other) →
      target = .activityDurationTotal ∨
        ranking (generatedDb order s activity) activity.id target = []) :
    ∃ e t, (resetRank order activity target).run s = (.error e, t) ∧
      t.rows = (generatedDb order s activity).rows := by
  obtain ⟨hok, herror⟩ := batchGenerate_run order hunique activity
  unfold resetRank
  by_cases hpasses : ∀ other, Passes (generatedDb order s activity) other
  · obtain ⟨t, hrun, hsame⟩ := hok hpasses
    have hrows : t.rows = (generatedDb order s activity).rows := by rw [hsame]
    rw [bind_ok hrun, raiseIf_bind_run]
    by_cases htarget : target = .activityDurationTotal
    · rw [if_pos htarget]
      exact ⟨_, t, rfl, hrows⟩
    · have hranking : ranking t activity.id target = [] := by
        rw [← (h hpasses).resolve_left htarget]
        unfold ranking
        rw [hrows]
      rw [if_neg htarget, gets_bind_run, hranking]
      exact ⟨_, t, rfl, hrows⟩
  · obtain ⟨e, t, hrun, hrows⟩ := herror hpasses
    exact ⟨e, t, bind_error hrun, hrows⟩

theorem ranking_ne_nil {activityId : Nat}
    (h : ∃ row ∈ s.rows, row.targetCondition activityId target) :
    ranking s activityId target ≠ [] := by
  obtain ⟨row, hrow, hcounts⟩ := h
  exact List.ne_nil_of_mem (mem_ranking.mpr ⟨row, hrow, hcounts, rfl⟩)

theorem resetRank_ok (order : HashOrder) (hunique : Unique s)
    (htarget : target ≠ .activityDurationTotal)
    (hpasses : ∀ other, Passes (generatedDb order s activity) other)
    (hsome : ∃ row ∈ (generatedDb order s activity).rows,
      row.targetCondition activity.id target) :
    ∃ t rows, (resetRank order activity target).run s = (.ok (), t) ∧ t.rows = rows ∧
      rows.rows = (generatedDb order s activity).rows.rows.map
        (rankedRow order (generatedDb order s activity) activity.id target) := by
  obtain ⟨t, hrun, hsame⟩ := (batchGenerate_run order hunique activity).1 hpasses
  have hne := ranking_ne_nil hsome
  unfold resetRank
  rw [bind_ok hrun, raiseIf_bind_run, if_neg htarget, gets_bind_run]
  have hranking : ranking t activity.id target =
      ranking (generatedDb order s activity) activity.id target := by
    rw [hsame]
    rfl
  have hres := res_loop (sorted_ranking (generatedDb order s activity) activity.id target)
  rw [hranking, hres]
  have hresNe : ((ranking (generatedDb order s activity) activity.id target).map fun e =>
      (e.1, competition (ranking (generatedDb order s activity) activity.id target) e.2)) ≠ [] :=
    fun hnil => hne (List.map_eq_nil_iff.mp hnil)
  obtain ⟨rows, hupdate, hrows⟩ := multiUpdate_run order activity.id target t hresNe
  refine ⟨_, rows, hupdate, rfl, ?_⟩
  have hkeys : ((ranking (generatedDb order s activity) activity.id target).map fun e =>
      (e.1, competition (ranking (generatedDb order s activity) activity.id target) e.2)).map
        Prod.fst = (ranking (generatedDb order s activity) activity.id target).map Prod.fst := by
    rw [List.map_map]
    rfl
  rw [hrows, hkeys, hsame]
  rfl

theorem resetsRanks_iff (order : HashOrder) (hunique : Unique s) (activity : RankActivity)
    (target : Target) : ResetsRanks order s activity target ↔ ResetFits order s activity target := by
  unfold ResetsRanks ResetFits
  by_cases hsome : ∃ row ∈ (generatedDb order s activity).rows,
      row.targetCondition activity.id target
  · rw [imp_iff_right hsome]
    by_cases hok : target ≠ .activityDurationTotal ∧
        ∀ other, Passes (generatedDb order s activity) other
    · obtain ⟨t, rows, hrun, hrows, hranked⟩ := resetRank_ok order hunique hok.1 hok.2 hsome
      have hgenerated := unique_generated order hunique activity
      rw [hrun, ← and_assoc, and_iff_right hok, hrows]
      have hrank : ∀ row, rankIn t activity.id target (rankedRow order
          (generatedDb order s activity) activity.id target row) =
            rankIn (generatedDb order s activity) activity.id target row := by
        intro row
        rw [← rankIn_ranked order hranked]
        unfold rankIn
        rw [hrows]
      constructor
      · intro hafter row hrow hcounts hreached
        have hmem : rankedRow order (generatedDb order s activity) activity.id target row ∈
            rows := by
          rw [Table.mem_def, hranked]
          exact List.mem_map_of_mem hrow
        obtain ⟨-, hdelay⟩ := hafter _ hmem ((rankedRow_targetCondition _ _ _ _ _).mpr hcounts)
        rw [rankedRow_delay order hgenerated hrow hcounts, if_neg hreached, hrank] at hdelay
        exact hdelay
      · intro hfits row' hrow' hcounts'
        rw [Table.mem_def, hranked] at hrow'
        obtain ⟨row, hrow, rfl⟩ := List.mem_map.mp hrow'
        have hcounts := (rankedRow_targetCondition _ _ _ _ _).mp hcounts'
        refine ⟨rfl, ?_⟩
        rw [rankedRow_delay order hgenerated hrow hcounts, hrank]
        split
        · rfl
        · next hreached => exact hfits row hrow hcounts hreached
    · obtain ⟨e, t, hrun, hrows⟩ := resetRank_error order target hunique
        fun hpasses => .inl (not_ne_iff.mp fun htarget => hok ⟨htarget, hpasses⟩)
      rw [hrun, hrows]
      obtain ⟨row, hrow, hcounts⟩ := hsome
      exact iff_of_false (fun h => nomatch (h row hrow hcounts).1) fun h => hok ⟨h.1, h.2.1⟩
  · refine iff_of_true ?_ fun h => absurd h hsome
    have hnil : ranking (generatedDb order s activity) activity.id target = [] := by
      refine List.eq_nil_iff_forall_not_mem.mpr fun e he => ?_
      obtain ⟨row, hrow, hcounts, -⟩ := mem_ranking.mp he
      exact hsome ⟨row, hrow, hcounts⟩
    obtain ⟨e, t, hrun, hrows⟩ := resetRank_error order target hunique fun _ => .inr hnil
    rw [hrun, hrows]
    exact fun row hrow hcounts => absurd ⟨row, hrow, hcounts⟩ hsome

end Generation

/-! ## Ranks from the sorted set -/

namespace SortedSet

theorem score_of_mem {set : SortedSet} {e : Nat × Int} (he : e ∈ set.entries) :
    set.score e.1 = some e.2 := by
  unfold score
  cases hfind : set.entries.find? fun e' => e'.1 = e.1 with
  | none =>
    have hnone := List.find?_eq_none.mp hfind e he
    exact absurd (decide_eq_true rfl) hnone
  | some e' =>
    have hspec := List.find?_some hfind
    have heq : e' = e := List.inj_on_of_nodup_map set.nodup (List.mem_of_find?_eq_some hfind) he
      (of_decide_eq_true hspec)
    rw [heq, Option.map_some]

theorem score_of_not_mem {set : SortedSet} {member : Nat} (h : member ∉ set.members) :
    set.score member = none := by
  unfold score
  rw [Option.map_eq_none_iff, List.find?_eq_none]
  intro e he heq
  exact h (List.mem_map.mpr ⟨e, he, of_decide_eq_true heq⟩)

end SortedSet

section Live

variable {s : RankDb} {activity : RankActivity} {target : Target}

def Holds (s : RankDb) (activity : RankActivity) (target : Target) : Prop :=
  ∀ e ∈ (s.sets target).entries, ∃ row ∈ s.rows, row.targetCondition activity.id target ∧
    e = (row.mamaId, row.value target)

structure Distinct (s : RankDb) (activity : RankActivity) (target : Target) : Prop where
  pos : ∀ row ∈ s.rows, row.targetCondition activity.id target → 0 < row.value target
  inj : ∀ row ∈ s.rows, row.targetCondition activity.id target → ∀ row' ∈ s.rows,
    row'.targetCondition activity.id target → row.value target = row'.value target → row = row'

structure Live (s : RankDb) (activity : RankActivity) (target : Target) : Prop where
  active : activity.isActive s
  unlisted : ∀ mama, s.rankDict target mama = none
  holds : Holds s activity target
  distinct : Distinct s activity target

/-- A row in the set is read with its rank, and no other one of the activity with the first. -/
structure LiveRanks (s : RankDb) (activity : RankActivity) (target : Target) : Prop where
  same : ∀ row ∈ s.rows, row.targetCondition activity.id target →
    row.mamaId ∈ (s.sets target).members →
      liveRank s activity target row = rankIn s activity.id target row
  absent : ∀ row ∈ s.rows, row.activityId = activity.id →
    row.mamaId ∉ (s.sets target).members → liveRank s activity target row ≠ 1

theorem liveRank_eq (h : Live s activity target) (row : ActivityMamaCarryTotal) :
    liveRank s activity target row = getRank s target row.mamaId := by
  unfold liveRank
  rw [if_neg fun hinactive => hinactive h.active, h.unlisted row.mamaId]

theorem liveRank_absent (h : Live s activity target) {row : ActivityMamaCarryTotal}
    (habsent : row.mamaId ∉ (s.sets target).members) : liveRank s activity target row = 1 := by
  rw [liveRank_eq h]
  unfold getRank SortedSet.zrevrank
  rw [SortedSet.score_of_not_mem habsent]
  rfl

theorem entries_perm (hunique : Unique s) (hholds : Holds s activity target)
    (hall : ∀ row ∈ s.rows, row.activityId = activity.id →
      row.mamaId ∈ (s.sets target).members) :
    (s.sets target).entries.Perm ((s.rows.filter fun row =>
      row.targetCondition activity.id target).map fun row => (row.mamaId, row.value target)) := by
  have hmamas := nodup_mamas hunique activity.id
    (fun row => row.targetCondition activity.id target)
    fun row h => activityId_of_targetCondition (of_decide_eq_true h)
  have hnodup : ((s.rows.filter fun row => row.targetCondition activity.id target).map
      fun row => (row.mamaId, row.value target)).Nodup := by
    refine List.Nodup.of_map Prod.fst ?_
    rw [List.map_map]
    exact hmamas
  refine (List.perm_ext_iff_of_nodup (List.Nodup.of_map Prod.fst (s.sets target).nodup)
    hnodup).mpr fun e => ?_
  constructor
  · intro he
    obtain ⟨row, hrow, hcounts, rfl⟩ := hholds e he
    exact List.mem_map.mpr ⟨row, List.mem_filter.mpr ⟨hrow, decide_eq_true hcounts⟩, rfl⟩
  · intro he
    obtain ⟨row, hrow, rfl⟩ := List.mem_map.mp he
    obtain ⟨hmem, hcounts⟩ := List.mem_filter.mp hrow
    have hactivity := activityId_of_targetCondition (of_decide_eq_true hcounts)
    obtain ⟨entry, hentry, hmama⟩ := List.mem_map.mp (hall row hmem hactivity)
    -- the score in the set is the value of the only row of the mama
    obtain ⟨row', hrow', hcounts', rfl⟩ := hholds entry hentry
    obtain rfl := row_eq hunique hrow' hmem
      ((activityId_of_targetCondition hcounts').trans hactivity.symm) hmama
    exact hentry

theorem liveRank_present (hunique : Unique s) (h : Live s activity target)
    (hall : ∀ row ∈ s.rows, row.activityId = activity.id →
      row.mamaId ∈ (s.sets target).members)
    {row : ActivityMamaCarryTotal} (hrow : row ∈ s.rows)
    (hcounts : row.targetCondition activity.id target) :
    liveRank s activity target row = rankIn s activity.id target row := by
  have hperm := entries_perm hunique h.holds hall
  have he : (row.mamaId, row.value target) ∈ (s.sets target).entries :=
    hperm.mem_iff.mpr (List.mem_map.mpr
      ⟨row, List.mem_filter.mpr ⟨hrow, decide_eq_true hcounts⟩, rfl⟩)
  have hscore := SortedSet.score_of_mem he
  have hahead : (s.sets target).ahead row.mamaId (row.value target) =
      (s.rows.filter fun other => other.targetCondition activity.id target ∧
        row.value target < other.value target).length := by
    unfold SortedSet.ahead
    rw [(hperm.filter _).length_eq, List.filter_map, List.length_map]
    unfold Table.filter
    rw [List.filter_filter]
    congr 1
    refine List.filter_congr fun other hother => ?_
    rw [Bool.eq_iff_iff, Bool.and_eq_true, Function.comp_apply, decide_eq_true_iff,
      decide_eq_true_iff, decide_eq_true_iff]
    constructor
    · rintro ⟨hgreater | ⟨hsame, htext⟩, hother'⟩
      · exact ⟨hother', hgreater⟩
      · obtain rfl := h.distinct.inj other hother hother' row hrow hcounts hsame
        exact absurd htext (String.lt_irrefl _)
    · exact fun ⟨hother', hgreater⟩ => ⟨.inl hgreater, hother'⟩
  rw [liveRank_eq h]
  unfold getRank SortedSet.zrevrank rankIn
  rw [hscore, Option.map_some, Option.getD_some, hahead, if_pos (h.distinct.pos row hrow hcounts)]
  push_cast
  rfl

theorem liveRanks_iff (hunique : Unique s) (h : Live s activity target) :
    LiveRanks s activity target ↔
      ∀ row ∈ s.rows, row.activityId = activity.id → row.mamaId ∈ (s.sets target).members := by
  constructor
  · intro hranks row hrow hactivity
    by_contra habsent
    exact hranks.absent row hrow hactivity habsent (liveRank_absent h habsent)
  · intro hall
    refine ⟨fun row hrow hcounts _ => liveRank_present hunique h hall hrow hcounts, ?_⟩
    exact fun row hrow hactivity habsent => absurd (hall row hrow hactivity) habsent

end Live

/-- A reset ranks the rows exactly if it fits, and while the activity runs the ranks are read from
the set exactly if each row of the activity is in it. -/
theorem ranks_iff (order : HashOrder) (s : RankDb) (hunique : Unique s) (activity : RankActivity)
    (target : Target) :
    (ResetsRanks order s activity target ↔ ResetFits order s activity target) ∧
    (Live s activity target → (LiveRanks s activity target ↔
      ∀ row ∈ s.rows, row.activityId = activity.id →
        row.mamaId ∈ (s.sets target).members)) :=
  ⟨resetsRanks_iff order hunique activity target, liveRanks_iff hunique⟩

def sampleOrder : HashOrder := ⟨id, fun _ => .refl _⟩

def sampleActivity : RankActivity := ⟨1, 1, 9, .valid⟩

def firstRow : ActivityMamaCarryTotal := ⟨1, 1, 1, trial, 2, 100, 3, 0, 0, 0⟩

def secondRow : ActivityMamaCarryTotal := ⟨2, 1, 2, trial, 2, 50, 4, 0, 0, 0⟩

def sampleDb (set : SortedSet) : RankDb where
  today := 5
  activities := Table.empty.insert sampleActivity
  rows := (Table.empty.insert firstRow).insert secondRow
  mamas := Table.empty
  fortunes _ := none
  carryRecords := []
  sets _ := set
  locked _ := true
  rankDict _ _ := none

theorem mem_sampleDb {set : SortedSet} {row : ActivityMamaCarryTotal}
    (h : row ∈ (sampleDb set).rows) : row = firstRow ∨ row = secondRow := by
  change row ∈ [firstRow, secondRow] at h
  simpa using h

theorem unique_sampleDb (set : SortedSet) : Unique (sampleDb set) := by
  change [(1, 1), (1, 2)].Nodup
  decide

theorem live_sampleDb {set : SortedSet}
    (hholds : Holds (sampleDb set) sampleActivity .durationTotal) :
    Live (sampleDb set) sampleActivity .durationTotal where
  active := ⟨show 1 ≤ 5 by decide, show 5 ≤ 9 by decide⟩
  unlisted _ := rfl
  holds := hholds
  distinct := {
    pos := by
      intro row hrow _
      obtain rfl | rfl := mem_sampleDb hrow
      · decide
      · decide
    inj := by
      intro row hrow _ row' hrow' _ hvalue
      obtain rfl | rfl := mem_sampleDb hrow
      · obtain rfl | rfl := mem_sampleDb hrow'
        · rfl
        · exact absurd hvalue (by decide)
      · obtain rfl | rfl := mem_sampleDb hrow'
        · exact absurd hvalue (by decide)
        · rfl }

theorem ranks_sample :
    ResetsRanks sampleOrder (sampleDb ⟨[(1, 100), (2, 50)], by decide⟩) sampleActivity
        .durationTotal ∧
      LiveRanks (sampleDb ⟨[(1, 100), (2, 50)], by decide⟩) sampleActivity .durationTotal := by
  obtain ⟨hreset, hlive⟩ := ranks_iff sampleOrder (sampleDb ⟨[(1, 100), (2, 50)], by decide⟩)
    (unique_sampleDb _) sampleActivity .durationTotal
  constructor
  · refine hreset.mpr fun _ => ⟨by decide, fun _ => .inl rfl, fun row hrow hcounts hout => ?_⟩
    exact absurd (mem_reached sampleOrder hrow hcounts (by decide)) hout
  · refine (hlive (live_sampleDb fun e he => ?_)).mpr fun row hrow _ => ?_
    · obtain rfl | rfl : e = (1, 100) ∨ e = (2, 50) := by
        change e ∈ [(1, 100), (2, 50)] at he
        simpa using he
      · exact ⟨firstRow, .head _, rfl, rfl⟩
      · exact ⟨secondRow, .tail _ (.head _), rfl, rfl⟩
    · obtain rfl | rfl := mem_sampleDb hrow
      · decide
      · decide

theorem ranks_fail :
    ¬ ResetsRanks sampleOrder (sampleDb .empty) sampleActivity .activityDurationTotal ∧
      ¬ LiveRanks (sampleDb .empty) sampleActivity .durationTotal := by
  constructor
  · rw [resetsRanks_iff sampleOrder (unique_sampleDb _)]
    intro hfits
    exact (hfits ⟨firstRow, .head _, rfl, rfl⟩).1 rfl
  · rw [liveRanks_iff (unique_sampleDb _) (live_sampleDb fun _ he => absurd he List.not_mem_nil)]
    intro hall
    exact absurd (hall firstRow (.head _) rfl) (by decide)

end ShopManager.Mama.Rank
