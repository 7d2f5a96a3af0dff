import ShopManager.Library.Execution
import ShopManager.Pay.Group.Model

/-!
# A group is complete or fails

No customer has two places in a group, whatever happens.  A group that has failed is
left alone, and one that succeeds has its members, exactly in the runs in which no
late payment names a failed group and nobody declares an incomplete one complete.
-/

namespace ShopManager.Pay.Group

open Library Library.Tx Library.Execution

namespace TeamBuyDb

def statusOf (s : TeamBuyDb) (id : Nat) : Option TeamStatus :=
  (s.teambuys.get? id).map TeamBuy.status

def members (s : TeamBuyDb) (id : Nat) : List Nat :=
  (s.detailsOf id).map TeamBuyDetail.customerId

def memberNum (s : TeamBuyDb) (id : Nat) : Nat := (s.members id).dedup.length

end TeamBuyDb

open TeamBuyDb

/-- A step leaves failed groups alone and lets a group succeed only when it has its
members. -/
structure AllOrNothing (s s' : TeamBuyDb) : Prop where
  failed : ∀ id, s.statusOf id = some .failed →
    s'.statusOf id = some .failed ∧ s'.members id = s.members id
  succeeded : ∀ teambuy ∈ s'.teambuys, teambuy.status = .succeeded →
    s.statusOf teambuy.id = some .succeeded ∨
      teambuy.limitPersonNum ≤ s'.memberNum teambuy.id

def OncePerGroup (s : TeamBuyDb) : Prop := ∀ id, (s.members id).Nodup

def Placed (s : TeamBuyDb) : Prop :=
  ∀ detail ∈ s.details, ∃ teambuy ∈ s.teambuys, teambuy.id = detail.teambuy

/-! ## Changes that obey the law -/

/-- What the writes of a lawful step have in common: places are only added, groups
keep their limits, and the law holds. -/
structure Change (s s' : TeamBuyDb) : Prop where
  members : ∀ id, s.members id <+: s'.members id
  limits : ∀ id, ∀ teambuy ∈ s.teambuys.get? id, ∃ teambuy' ∈ s'.teambuys.get? id,
    teambuy'.limitPersonNum = teambuy.limitPersonNum
  law : AllOrNothing s s'

theorem memberNum_le {s s' : TeamBuyDb} {id : Nat} (h : s.members id <+: s'.members id) :
    s.memberNum id ≤ s'.memberNum id := by
  obtain ⟨rest, hrest⟩ := h
  have hsub : (s.members id).dedup ⊆ (s'.members id).dedup := by
    intro customer hcustomer
    rw [List.mem_dedup] at hcustomer ⊢
    rw [← hrest]
    exact List.mem_append_left rest hcustomer
  exact (List.subperm_of_subset (List.nodup_dedup _) hsub).length_le

variable {teambuy : TeamBuy}

theorem TeamBuy.id_of_get {s : TeamBuyDb} {id : Nat}
    (h : s.teambuys.get? id = some teambuy) : teambuy.id = id := (Table.get?_eq_some.1 h).2

theorem TeamBuy.get_of_mem {s : TeamBuyDb} (h : teambuy ∈ s.teambuys) :
    s.teambuys.get? teambuy.id = some teambuy := Table.get?_eq_some.2 ⟨h, rfl⟩

theorem AllOrNothing.refl (s : TeamBuyDb) : AllOrNothing s s where
  failed _ h := ⟨h, rfl⟩
  succeeded teambuy hmem hstatus := by
    left
    rw [statusOf, TeamBuy.get_of_mem hmem, Option.map_some, hstatus]

theorem Change.refl (s : TeamBuyDb) : Change s s where
  members _ := List.prefix_refl _
  limits _ teambuy h := ⟨teambuy, h, rfl⟩
  law := AllOrNothing.refl s

theorem Change.trans {s s' s'' : TeamBuyDb} (h : Change s s') (h' : Change s' s'') :
    Change s s'' where
  members id := (h.members id).trans (h'.members id)
  limits id teambuy hget := by
    obtain ⟨teambuy', hget', hlimit⟩ := h.limits id teambuy hget
    obtain ⟨teambuy'', hget'', hlimit'⟩ := h'.limits id teambuy' hget'
    exact ⟨teambuy'', hget'', hlimit'.trans hlimit⟩
  law := by
    refine ⟨?_, ?_⟩
    · intro id hfailed
      obtain ⟨hfailed', hmembers⟩ := h.law.failed id hfailed
      obtain ⟨hfailed'', hmembers'⟩ := h'.law.failed id hfailed'
      exact ⟨hfailed'', hmembers'.trans hmembers⟩
    · intro teambuy hmem hstatus
      rcases h'.law.succeeded teambuy hmem hstatus with hbefore | hlimit
      · obtain ⟨teambuy', hget', hstatus'⟩ := Option.map_eq_some_iff.1 hbefore
        have hid := TeamBuy.id_of_get hget'
        rcases h.law.succeeded teambuy' (Table.get?_eq_some.1 hget').1 hstatus' with
          hold | hlimit
        · left
          rw [← hid]
          exact hold
        · right
          obtain ⟨teambuy'', hget'', hsame⟩ := h'.limits teambuy.id teambuy' hget'
          have hteambuy : teambuy'' = teambuy :=
            Option.some.inj (hget''.symm.trans (TeamBuy.get_of_mem hmem))
          have hgrow := memberNum_le (h'.members teambuy.id)
          rw [hid] at hlimit
          rw [← hteambuy, hsame, hteambuy]
          omega
      · exact Or.inr hlimit

/-! ## The writes -/

structure WellFormed (s : TeamBuyDb) : Prop where
  once : OncePerGroup s
  placed : Placed s

variable {s : TeamBuyDb}

def TeamBuyDb.restated (s : TeamBuyDb) (teambuy : TeamBuy) (status : TeamStatus) : TeamBuyDb :=
  { s with teambuys := s.teambuys.save (teambuy.withStatus status) }

def Stored (s : TeamBuyDb) (teambuy old : TeamBuy) : Prop :=
  s.teambuys.get? teambuy.id = some old ∧ teambuy.limitPersonNum = old.limitPersonNum

theorem get?_restated (teambuy : TeamBuy) (status : TeamStatus) (id : Nat) :
    (s.restated teambuy status).teambuys.get? id =
      if id = teambuy.id then (s.teambuys.get? id).map fun _ => teambuy.withStatus status
      else s.teambuys.get? id :=
  Table.get?_save s.teambuys (teambuy.withStatus status) id

def Allows (s : TeamBuyDb) (old : TeamBuy) (status : TeamStatus) : Prop :=
  status = .failed ∨
    (status = .succeeded ∧ old.status ≠ .failed ∧
      (old.status = .succeeded ∨ old.limitPersonNum ≤ s.memberNum old.id))

variable {old : TeamBuy}

theorem change_restated {status : TeamStatus}
    (hstored : Stored s teambuy old) (h : Allows s old status) :
    Change s (s.restated teambuy status) := by
  obtain ⟨hget, hlimit⟩ := hstored
  have hid : old.id = teambuy.id := TeamBuy.id_of_get hget
  refine ⟨fun _ => List.prefix_refl _, ?_, ?_, ?_⟩
  · intro id teambuy' hget'
    rw [get?_restated]
    by_cases hcase : id = teambuy.id
    · subst hcase
      have hsame : teambuy' = old := Option.some.inj (hget'.symm.trans hget)
      refine ⟨teambuy.withStatus status, by rw [if_pos rfl, hget]; rfl, ?_⟩
      rw [hsame]
      exact hlimit
    · exact ⟨teambuy', by rw [if_neg hcase]; exact hget', rfl⟩
  · intro id hfailed
    refine ⟨?_, rfl⟩
    rw [statusOf, get?_restated]
    by_cases hcase : id = teambuy.id
    · subst hcase
      have hold : old.status = .failed := by
        rw [statusOf, hget, Option.map_some] at hfailed
        exact Option.some.inj hfailed
      rw [if_pos rfl, hget]
      rcases h with rfl | ⟨-, hnot, -⟩
      · rfl
      · exact absurd hold hnot
    · rw [if_neg hcase]
      exact hfailed
  · intro teambuy' hmem hstatus
    rcases Table.mem_save hmem with rfl | ⟨hold, _⟩
    · rcases h with rfl | ⟨rfl, -, hcases⟩
      · exact TeamStatus.noConfusion hstatus
      · rcases hcases with hsucceeded | hfull
        · left
          show s.statusOf teambuy.id = some .succeeded
          rw [statusOf, hget, Option.map_some, hsucceeded]
        · right
          show teambuy.limitPersonNum ≤ s.memberNum teambuy.id
          rw [hlimit, ← hid]
          exact hfull
    · left
      rw [statusOf, TeamBuy.get_of_mem hold, Option.map_some, hstatus]

theorem wellFormed_restated (status : TeamStatus)
    (hw : WellFormed s) (hstored : Stored s teambuy old) :
    WellFormed (s.restated teambuy status) := by
  refine ⟨hw.once, ?_⟩
  intro detail hdetail
  obtain ⟨teambuy', hmem, hid⟩ := hw.placed detail hdetail
  have hget := TeamBuy.get_of_mem hmem
  by_cases hcase : teambuy'.id = teambuy.id
  · refine ⟨teambuy.withStatus status, ?_, hcase.symm.trans hid⟩
    have hnew : (s.restated teambuy status).teambuys.get? teambuy.id =
        some (teambuy.withStatus status) := by
      rw [get?_restated, if_pos rfl, hstored.1]
      rfl
    exact (Table.get?_eq_some.1 hnew).1
  · refine ⟨teambuy', ?_, hid⟩
    have hkept : (s.restated teambuy status).teambuys.get? teambuy'.id = some teambuy' := by
      rw [get?_restated, if_neg hcase, hget]
    exact (Table.get?_eq_some.1 hkept).1

def TeamBuyDb.enrolled (s : TeamBuyDb) (detail : TeamBuyDetail) : TeamBuyDb :=
  { s with details := s.details.insert detail }

theorem members_enrolled (detail : TeamBuyDetail) (id : Nat) :
    (s.enrolled detail).members id =
      s.members id ++ if detail.teambuy = id then [detail.customerId] else [] := by
  have hstored : (s.details.stored detail).teambuy = detail.teambuy := rfl
  by_cases h : detail.teambuy = id
  · simp only [members, detailsOf, enrolled, Table.filter, Table.insert, List.filter_append,
      List.map_append, hstored, h, if_true, List.filter_cons, decide_true, List.filter_nil]
    rfl
  · simp only [members, detailsOf, enrolled, Table.filter, Table.insert, List.filter_append,
      List.map_append, hstored, h, if_false, List.filter_cons, decide_false, List.filter_nil,
      Bool.false_eq_true, List.map_nil]

theorem change_enrolled {detail : TeamBuyDetail}
    (hopen : s.statusOf detail.teambuy ≠ some .failed) : Change s (s.enrolled detail) := by
  have hgrows : ∀ id, s.members id <+: (s.enrolled detail).members id := by
    intro id
    rw [members_enrolled]
    exact List.prefix_append _ _
  refine ⟨hgrows, fun _ teambuy h => ⟨teambuy, h, rfl⟩, ?_, ?_⟩
  · intro id hfailed
    refine ⟨hfailed, ?_⟩
    have hne : detail.teambuy ≠ id := by
      rintro rfl
      exact hopen hfailed
    rw [members_enrolled, if_neg hne, List.append_nil]
  · intro teambuy hmem hstatus
    exact (AllOrNothing.refl s).succeeded teambuy hmem hstatus |>.imp_right fun hle => by
      have hgrow := memberNum_le (hgrows teambuy.id)
      omega

theorem wellFormed_enrolled {detail : TeamBuyDetail} (hw : WellFormed s)
    (hnew : detail.customerId ∉ s.members detail.teambuy)
    (hplaced : ∃ teambuy ∈ s.teambuys, teambuy.id = detail.teambuy) :
    WellFormed (s.enrolled detail) := by
  refine ⟨?_, ?_⟩
  · intro id
    rw [members_enrolled]
    by_cases h : detail.teambuy = id
    · subst h
      rw [if_pos rfl]
      exact List.Nodup.append (hw.once _) (List.nodup_singleton _) (by simpa using hnew)
    · rw [if_neg h, List.append_nil]
      exact hw.once id
  · intro other hother
    rcases Table.mem_insert.1 hother with hold | rfl
    · exact hw.placed other hold
    · exact hplaced

def TeamBuyDb.founded (s : TeamBuyDb) (teambuy : TeamBuy) : TeamBuyDb :=
  { s with teambuys := s.teambuys.insert teambuy }

theorem get?_founded (teambuy : TeamBuy) (id : Nat) :
    (s.founded teambuy).teambuys.get? id =
      if id = s.teambuys.nextId then some (s.teambuys.stored teambuy)
      else s.teambuys.get? id :=
  Table.get?_insert s.teambuys teambuy id

theorem ne_nextId_of_get {id : Nat}
    (h : s.teambuys.get? id = some teambuy) : id ≠ s.teambuys.nextId := by
  have hid := TeamBuy.id_of_get h
  have hlt : teambuy.id < s.teambuys.nextId := Table.pk_lt_nextId (Table.get?_eq_some.1 h).1
  omega

theorem change_founded (hopen : teambuy.status = .opened) :
    Change s (s.founded teambuy) := by
  refine ⟨fun _ => List.prefix_refl _, ?_, ?_, ?_⟩
  · intro id old hget
    refine ⟨old, ?_, rfl⟩
    rw [get?_founded, if_neg (ne_nextId_of_get hget)]
    exact hget
  · intro id hfailed
    obtain ⟨old, hget, hstatus⟩ := Option.map_eq_some_iff.1 hfailed
    refine ⟨?_, rfl⟩
    rw [statusOf, get?_founded, if_neg (ne_nextId_of_get hget)]
    exact hfailed
  · intro other hmem hstatus
    rcases Table.mem_insert.1 hmem with hold | rfl
    · left
      rw [statusOf, TeamBuy.get_of_mem hold, Option.map_some, hstatus]
    · exact absurd (hopen.symm.trans hstatus) (by decide)

theorem wellFormed_founded (teambuy : TeamBuy) (hw : WellFormed s) :
    WellFormed (s.founded teambuy) := by
  refine ⟨hw.once, ?_⟩
  intro detail hdetail
  obtain ⟨old, hmem, hid⟩ := hw.placed detail hdetail
  exact ⟨old, Table.mem_insert.2 (Or.inl hmem), hid⟩

theorem members_next (hw : WellFormed s) : s.members s.teambuys.nextId = [] := by
  have hnone : s.detailsOf s.teambuys.nextId = [] := by
    apply List.filter_eq_nil_iff.2
    intro detail hdetail hin
    obtain ⟨teambuy, hmem, hid⟩ := hw.placed detail hdetail
    have hlt : teambuy.id < s.teambuys.nextId := Table.pk_lt_nextId hmem
    have hnext : detail.teambuy = s.teambuys.nextId := by simpa using hin
    omega
  rw [members, hnone]
  rfl

/-! ## The methods -/

structure Lawful (s s' : TeamBuyDb) : Prop where
  change : Change s s'
  wellFormed : WellFormed s'

theorem Lawful.refl (hw : WellFormed s) : Lawful s s := ⟨Change.refl s, hw⟩

theorem Lawful.trans {s' s'' : TeamBuyDb} (h : Lawful s s') (h' : Lawful s' s'') :
    Lawful s s'' := ⟨h.change.trans h'.change, h'.wellFormed⟩

theorem lawful_restated {status : TeamStatus} (hw : WellFormed s)
    (hstored : Stored s teambuy old) (h : Allows s old status) :
    Lawful s (s.restated teambuy status) :=
  ⟨change_restated hstored h, wellFormed_restated status hw hstored⟩

theorem ofExcept_run {α : Type} (r : Except Exn α) :
    (ofExcept r : TeamBuyTx α).run s = (r, s) := by
  cases r with
  | ok a => rfl
  | error e => rfl

theorem memberNum_eq_count (hw : WellFormed s) (id : Nat) : s.memberNum id = s.count id := by
  rw [memberNum, (hw.once id).dedup, members, List.length_map, count]

variable {saletrade : SaleTrade}

namespace TeamBuy

theorem setStatusSuccess_snd (around : Surroundings) (teambuy : TeamBuy) :
    ((teambuy.setStatusSuccess around).run s).2 = s.restated teambuy .succeeded := by
  rw [setStatusSuccess, save, modify_bind_run, ofExcept_run]
  rfl

theorem checkFinishTeambuy_snd (around : Surroundings) (teambuy : TeamBuy) :
    ((teambuy.checkFinishTeambuy around).run s).2 =
      if (s.count teambuy.id : Int) ≥ teambuy.limitPersonNum then
        s.restated teambuy .succeeded
      else s := by
  rw [checkFinishTeambuy, gets_bind_run]
  by_cases h : (s.count teambuy.id : Int) ≥ teambuy.limitPersonNum
  · rw [if_pos h, if_pos h, setStatusSuccess_snd]
  · rw [if_neg h, if_neg h]
    rfl

theorem members_checkFinishTeambuy (around : Surroundings) (teambuy : TeamBuy) (id : Nat) :
    ((teambuy.checkFinishTeambuy around).run s).2.members id = s.members id := by
  rw [checkFinishTeambuy_snd]
  split
  · rfl
  · rfl

theorem lawful_checkFinishTeambuy (around : Surroundings)
    (hw : WellFormed s) (hstored : Stored s teambuy old) (hopen : old.status ≠ .failed) :
    Lawful s ((teambuy.checkFinishTeambuy around).run s).2 := by
  rw [checkFinishTeambuy_snd]
  by_cases h : (s.count teambuy.id : Int) ≥ teambuy.limitPersonNum
  · rw [if_pos h]
    apply lawful_restated hw hstored
    refine Or.inr ⟨rfl, hopen, Or.inr ?_⟩
    rw [memberNum_eq_count hw, id_of_get hstored.1, ← hstored.2]
    exact h
  · rw [if_neg h]
    exact Lawful.refl hw

theorem setStatusFailed_snd (around : Surroundings) (teambuy : TeamBuy) :
    ((teambuy.setStatusFailed around).run s).2 = s ∨
      ((teambuy.setStatusFailed around).run s).2 = s.restated teambuy .failed := by
  have hrefunds : ∀ details : List TeamBuyDetail,
      ((forEach details fun detail => (ofExcept (around.refund detail) : TeamBuyTx Unit)).run
        s).2 = s := by
    intro details
    induction details with
    | nil => rfl
    | cons detail details ih =>
      rw [forEach_cons, bind_run, ofExcept_run]
      cases around.refund detail with
      | ok u => exact ih
      | error e => rfl
  unfold setStatusFailed
  rw [gets_bind_run, bind_run]
  have hsame := hrefunds (s.detailsOf teambuy.id)
  cases hrun : (forEach (s.detailsOf teambuy.id) fun detail =>
      (ofExcept (around.refund detail) : TeamBuyTx Unit)).run s with
  | mk r s' =>
    rw [hrun] at hsame
    have hstate : s' = s := hsame
    subst hstate
    cases r with
    | error e => exact Or.inl rfl
    | ok u =>
      simp only [raiseIf_bind_run]
      split
      · exact Or.inl rfl
      · exact Or.inr rfl

theorem lawful_setStatusFailed {around : Surroundings}
    (hw : WellFormed s) (hstored : Stored s teambuy old) :
    Lawful s ((teambuy.setStatusFailed around).run s).2 := by
  rcases setStatusFailed_snd (s := s) around teambuy with h | h
  · rw [h]
    exact Lawful.refl hw
  · rw [h]
    exact lawful_restated hw hstored (Or.inl rfl)

theorem settle_snd (around : Surroundings) (teambuy : TeamBuy) :
    ((teambuy.settle around).run s).2 = s ∨
      ∃ status, ((teambuy.settle around).run s).2 = s.restated teambuy status := by
  rw [settle, gets_bind_run]
  by_cases h : (s.count teambuy.id : Int) ≥ teambuy.limitPersonNum
  · rw [if_pos h, setStatusSuccess_snd]
    exact Or.inr ⟨_, rfl⟩
  · rw [if_neg h]
    exact (setStatusFailed_snd around teambuy).imp_right fun hrun => ⟨_, hrun⟩

theorem lawful_settle (around : Surroundings) (hw : WellFormed s)
    (hget : s.teambuys.get? teambuy.id = some teambuy) (hopen : teambuy.status = .opened) :
    Lawful s ((teambuy.settle around).run s).2 := by
  rw [settle, gets_bind_run]
  by_cases h : (s.count teambuy.id : Int) ≥ teambuy.limitPersonNum
  · rw [if_pos h, setStatusSuccess_snd]
    apply lawful_restated hw ⟨hget, rfl⟩
    refine Or.inr ⟨rfl, by rw [hopen]; decide, Or.inr ?_⟩
    rw [memberNum_eq_count hw]
    exact h
  · rw [if_neg h]
    exact lawful_setStatusFailed hw ⟨hget, rfl⟩

theorem lawful_forEach_settle {around : Surroundings} (teambuys : List TeamBuy)
    (hw : WellFormed s) (hids : (teambuys.map TeamBuy.id).Nodup)
    (hrows : ∀ teambuy ∈ teambuys, s.teambuys.get? teambuy.id = some teambuy ∧
      teambuy.status = .opened) :
    Lawful s ((forEach teambuys (settle around)).run s).2 := by
  induction teambuys generalizing s with
  | nil => exact Lawful.refl hw
  | cons teambuy teambuys ih =>
    obtain ⟨hget, hopen⟩ := hrows teambuy List.mem_cons_self
    have hfirst := lawful_settle around hw hget hopen
    have hnodup := List.nodup_cons.1 hids
    rw [forEach_cons, bind_run]
    cases hrun : (settle around teambuy).run s with
    | mk r s' =>
      rw [hrun] at hfirst
      cases r with
      | error e => exact hfirst
      | ok u =>
        refine hfirst.trans (ih hfirst.wellFormed hnodup.2 ?_)
        intro other hother
        obtain ⟨hget', hopen'⟩ := hrows other (List.mem_cons_of_mem _ hother)
        refine ⟨?_, hopen'⟩
        have hne : other.id ≠ teambuy.id := by
          intro heq
          exact hnodup.1 (heq ▸ List.mem_map_of_mem hother)
        have hstate := settle_snd (s := s) around teambuy
        rw [hrun] at hstate
        rcases hstate with h | ⟨status, h⟩
        · have hs : s' = s := h
          rw [hs, hget']
        · have hs : s' = s.restated teambuy status := h
          rw [hs, get?_restated, if_neg hne, hget']

def enters (s : TeamBuyDb) (saletrade : SaleTrade) : Bool :=
  saletrade.saleOrder.any fun saleorder =>
    (s.details.first fun d => d.tid = saletrade.tid ∨ d.oid = saleorder.oid).isNone

def placeOf (saletrade : SaleTrade) (originizer : Bool) (teambuy : TeamBuy) (oid : String) :
    TeamBuyDetail where
  id := 0
  teambuy := teambuy.id
  tid := saletrade.tid
  oid := oid
  customerId := saletrade.buyerId
  originizer := originizer

theorem addMember_cases (around : Surroundings) (saletrade : SaleTrade) (originizer : Bool)
    (teambuy : TeamBuy) :
    (enters s saletrade = false ∧
      ((addMember around saletrade originizer teambuy).run s).2 = s) ∨
    (enters s saletrade = true ∧ ∃ oid,
      ((addMember around saletrade originizer teambuy).run s).2 =
        ((teambuy.checkFinishTeambuy around).run
          (s.enrolled (placeOf saletrade originizer teambuy oid))).2) := by
  unfold addMember enters
  cases horder : saletrade.saleOrder with
  | none => exact Or.inl ⟨rfl, rfl⟩
  | some saleorder =>
    simp only [Option.elim_some, Option.any_some, ofExcept_bind_run]
    cases htaken : s.details.first fun d => d.tid = saletrade.tid ∨ d.oid = saleorder.oid with
    | some d =>
      left
      refine ⟨rfl, ?_⟩
      rw [TeamBuyDetail.insert, bind_run, gets_bind_run, raiseIf_bind_run]
      simp only [htaken, Option.isSome_some, if_true]
    | none =>
      right
      refine ⟨rfl, saleorder.oid, ?_⟩
      rw [TeamBuyDetail.insert, bind_run, gets_bind_run, raiseIf_bind_run]
      simp only [htaken, Option.isSome_none, Bool.false_eq_true, if_false]
      rfl

theorem mem_of_stored (h : Stored s teambuy old) :
    ∃ other ∈ s.teambuys, other.id = teambuy.id :=
  ⟨old, (Table.get?_eq_some.1 h.1).1, id_of_get h.1⟩

theorem lawful_addMember (around : Surroundings) (saletrade : SaleTrade) (originizer : Bool)
    (hw : WellFormed s) (hstored : Stored s teambuy old)
    (hopen : old.status ≠ .failed) (hnew : saletrade.buyerId ∉ s.members teambuy.id) :
    Lawful s ((addMember around saletrade originizer teambuy).run s).2 := by
  rcases addMember_cases (s := s) around saletrade originizer teambuy with
    ⟨-, hrun⟩ | ⟨-, oid, hrun⟩
  · rw [hrun]
    exact Lawful.refl hw
  · rw [hrun]
    have hstatus : s.statusOf teambuy.id ≠ some .failed := by
      rw [statusOf, hstored.1, Option.map_some]
      simpa using hopen
    have henrolled : Lawful s (s.enrolled (placeOf saletrade originizer teambuy oid)) :=
      ⟨change_enrolled hstatus, wellFormed_enrolled hw hnew (mem_of_stored hstored)⟩
    exact henrolled.trans (lawful_checkFinishTeambuy _ henrolled.wellFormed hstored hopen)

theorem unlawful_addMember (around : Surroundings) (saletrade : SaleTrade) (originizer : Bool)
    (hfailed : s.statusOf teambuy.id = some .failed) (henters : enters s saletrade = true) :
    ¬ AllOrNothing s ((addMember around saletrade originizer teambuy).run s).2 := by
  intro hlaw
  rcases addMember_cases (s := s) around saletrade originizer teambuy with
    ⟨hnot, -⟩ | ⟨-, oid, hrun⟩
  · rw [henters] at hnot
    exact Bool.noConfusion hnot
  · have hplace : (placeOf saletrade originizer teambuy oid).teambuy = teambuy.id := rfl
    have hmembers := (hlaw.failed teambuy.id hfailed).2
    rw [hrun, members_checkFinishTeambuy, members_enrolled, if_pos hplace] at hmembers
    simpa using congrArg List.length hmembers

theorem lawful_insert (around : Surroundings) (hw : WellFormed s)
    (hopen : teambuy.status = .opened) :
    Lawful s ((insert around teambuy).run s).2 ∧
      ∀ stored, ((insert around teambuy).run s).1 = .ok stored →
        (∃ old, Stored ((insert around teambuy).run s).2 stored old ∧ old.status ≠ .failed) ∧
          ((insert around teambuy).run s).2.members stored.id = [] := by
  have hget : (s.founded teambuy).teambuys.get? s.teambuys.nextId =
      some (s.teambuys.stored teambuy) := by
    rw [get?_founded, if_pos rfl]
  have hstored : Stored (s.founded teambuy) (s.teambuys.stored teambuy)
      (s.teambuys.stored teambuy) := ⟨hget, rfl⟩
  have hnot : (s.teambuys.stored teambuy).status ≠ .failed := by
    have hsame : (s.teambuys.stored teambuy).status = teambuy.status := rfl
    rw [hsame, hopen]
    decide
  have hfounded : Lawful s (s.founded teambuy) :=
    ⟨change_founded hopen, wellFormed_founded teambuy hw⟩
  have hcheck := lawful_checkFinishTeambuy around hfounded.wellFormed hstored hnot
  have hrun : (insert around teambuy).run s =
      ((checkFinishTeambuy around (s.teambuys.stored teambuy) >>= fun _ =>
        pure (s.teambuys.stored teambuy)).run (s.founded teambuy)) := rfl
  rw [hrun, bind_pure_run]
  refine ⟨hfounded.trans hcheck, ?_⟩
  intro stored hok
  have hsame : s.teambuys.stored teambuy = stored := by
    cases hcheckrun : ((checkFinishTeambuy around (s.teambuys.stored teambuy)).run
        (s.founded teambuy)).1 with
    | error e =>
      rw [hcheckrun] at hok
      cases hok
    | ok u =>
      rw [hcheckrun] at hok
      exact Except.ok.inj hok
  subst hsame
  refine ⟨?_, ?_⟩
  · rw [checkFinishTeambuy_snd]
    split
    · refine ⟨(s.teambuys.stored teambuy).withStatus .succeeded, ⟨?_, rfl⟩, nofun⟩
      rw [get?_restated, if_pos rfl, hstored.1]
      rfl
    · exact ⟨_, hstored, hnot⟩
  · rw [members_checkFinishTeambuy]
    exact members_next hw

theorem lawful_openTeambuy (around : Surroundings) (saletrade : SaleTrade)
    (hw : WellFormed s) :
    Lawful s ((openTeambuy around saletrade).run s).2 ∧
      ∀ stored, ((openTeambuy around saletrade).run s).1 = .ok stored →
        (∃ old, Stored ((openTeambuy around saletrade).run s).2 stored old ∧
          old.status ≠ .failed) ∧
          ((openTeambuy around saletrade).run s).2.members stored.id = [] := by
  have hraised : ∀ (e : Exn), Lawful s (((.error e, s) : Except Exn TeamBuy × TeamBuyDb)).2 ∧
      ∀ stored, (((.error e, s) : Except Exn TeamBuy × TeamBuyDb)).1 = .ok stored →
        (∃ old, Stored s stored old ∧ old.status ≠ .failed) ∧ s.members stored.id = [] :=
    fun e => ⟨Lawful.refl hw, fun _ h => nomatch h⟩
  unfold openTeambuy
  cases saletrade.saleOrder with
  | none => exact hraised _
  | some saleorder =>
    simp only [Option.elim_some, ofExcept_bind_run, getOr_bind_run]
    cases s.teambuyPersonNum saleorder.itemId with
    | none => exact hraised _
    | some personNum =>
      cases s.customers.find? fun customer => customer = saletrade.buyerId with
      | none => exact hraised _
      | some customer => exact lawful_insert around hw rfl

def joins (s : TeamBuyDb) (saletrade : SaleTrade) : Option TeamBuy :=
  (saletrade.teambuyId.bind s.teambuys.get?).filter fun teambuy =>
    joinable s saletrade teambuy

theorem joins_spec (h : joins s saletrade = some teambuy) :
    s.teambuys.get? teambuy.id = some teambuy ∧
      saletrade.buyerId ∉ s.members teambuy.id := by
  obtain ⟨hbind, hjoinable⟩ := Option.filter_eq_some_iff.1 h
  obtain ⟨teambuyId, -, hget⟩ := Option.bind_eq_some_iff.1 hbind
  refine ⟨by rw [id_of_get hget, hget], ?_⟩
  simp only [joinable, Bool.and_eq_true, Bool.not_eq_true', List.any_eq_false] at hjoinable
  intro hmem
  obtain ⟨detail, hdetail, hcustomer⟩ := List.mem_map.1 hmem
  exact hjoinable.2 detail hdetail (decide_eq_true hcustomer)

theorem findTeambuy_cases (saletrade : SaleTrade) :
    (∃ e, (findTeambuy saletrade).run s = (.error e, s) ∧ joins s saletrade = none) ∨
      (findTeambuy saletrade).run s = (.ok (joins s saletrade), s) := by
  unfold findTeambuy joins
  cases saletrade.teambuyId with
  | none => exact Or.inr rfl
  | some teambuyId =>
    simp only [getOr_bind_run, Option.bind_some]
    cases s.teambuys.get? teambuyId with
    | none => exact Or.inl ⟨_, rfl, rfl⟩
    | some teambuy =>
      right
      cases hjoinable : joinable s saletrade teambuy with
      | true => simp [hjoinable, Option.filter]
      | false => simp [hjoinable, Option.filter]

def joined (s : TeamBuyDb) (saletrade : SaleTrade) : Bool :=
  (s.details.first fun d => d.tid = saletrade.tid).isSome

def breaks (s : TeamBuyDb) (saletrade : SaleTrade) : Bool :=
  !joined s saletrade && enters s saletrade &&
    (joins s saletrade).any fun teambuy => teambuy.status = .failed

theorem createOrJoin_lawful (around : Surroundings)
    (hw : WellFormed s) (hkeeps : breaks s saletrade = false) :
    Lawful s ((createOrJoin around saletrade).run s).2 := by
  unfold createOrJoin
  rw [gets_bind_run]
  by_cases hjoined : (s.details.first fun d => d.tid = saletrade.tid).isSome = true
  · rw [if_pos hjoined]
    exact Lawful.refl hw
  · rw [if_neg hjoined]
    rcases findTeambuy_cases (s := s) saletrade with ⟨e, hrun, -⟩ | hrun
    · rw [bind_error hrun]
      exact Lawful.refl hw
    · rw [bind_ok hrun]
      cases hjoins : joins s saletrade with
      | some teambuy =>
        obtain ⟨hget, hnew⟩ := joins_spec hjoins
        by_cases hfailed : teambuy.status = .failed
        · have henters : enters s saletrade = false := by
            have hnot : joined s saletrade = false := by simpa [joined] using hjoined
            simpa [breaks, hnot, hjoins, hfailed] using hkeeps
          rcases addMember_cases (s := s) around saletrade false teambuy with
            ⟨-, hsame⟩ | ⟨htrue, -⟩
          · simp only [hsame]
            exact Lawful.refl hw
          · rw [henters] at htrue
            exact Bool.noConfusion htrue
        · exact lawful_addMember around saletrade false hw ⟨hget, rfl⟩ hfailed hnew
      | none =>
        obtain ⟨hopened, hstored⟩ := lawful_openTeambuy around saletrade hw
        simp only
        cases hopen : (openTeambuy around saletrade).run s with
        | mk r s' =>
          rw [hopen] at hopened hstored
          cases r with
          | error e =>
            rw [bind_error hopen]
            exact hopened
          | ok stored =>
            rw [bind_ok hopen]
            obtain ⟨⟨old, hold, hstatus⟩, hempty⟩ := hstored stored rfl
            refine hopened.trans (lawful_addMember around saletrade true
              hopened.wellFormed hold hstatus ?_)
            have hnobody : s'.members stored.id = [] := hempty
            rw [hnobody]
            exact List.not_mem_nil

theorem createOrJoin_breaks (around : Surroundings) (hbreaks : breaks s saletrade = true) :
    ∃ teambuy, joins s saletrade = some teambuy ∧ s.statusOf teambuy.id = some .failed ∧
      (createOrJoin around saletrade).run s = (addMember around saletrade false teambuy).run s := by
  simp only [breaks, Bool.and_eq_true, Bool.not_eq_true'] at hbreaks
  obtain ⟨⟨hjoined, -⟩, hany⟩ := hbreaks
  cases hjoins : joins s saletrade with
  | none =>
    rw [hjoins] at hany
    exact absurd hany (by decide)
  | some teambuy =>
    obtain ⟨hget, -⟩ := joins_spec hjoins
    refine ⟨teambuy, rfl, ?_, ?_⟩
    · rw [hjoins] at hany
      have hstatus : teambuy.status = .failed := by simpa using hany
      rw [statusOf, hget, Option.map_some, hstatus]
    · have hfind : (findTeambuy saletrade).run s = (.ok (some teambuy), s) := by
        rcases findTeambuy_cases (s := s) saletrade with ⟨e, -, hnone⟩ | hrun
        · rw [hjoins] at hnone
          exact Option.noConfusion rfl (heq_of_eq hnone)
        · rw [hrun, hjoins]
      have hnot : ¬ (s.details.first fun d => d.tid = saletrade.tid).isSome = true := by
        simpa [joined] using hjoined
      rw [createOrJoin, gets_bind_run, if_neg hnot, bind_ok hfind]

theorem createOrJoin_unlawful (around : Surroundings) (hbreaks : breaks s saletrade = true) :
    ¬ AllOrNothing s ((createOrJoin around saletrade).run s).2 := by
  obtain ⟨teambuy, -, hfailed, hrun⟩ := createOrJoin_breaks around hbreaks
  simp only [breaks, Bool.and_eq_true] at hbreaks
  rw [hrun]
  exact unlawful_addMember around saletrade false hfailed hbreaks.1.2

theorem createOrJoin_wellFormed (around : Surroundings) (saletrade : SaleTrade)
    (hw : WellFormed s) : WellFormed ((createOrJoin around saletrade).run s).2 := by
  cases hbreaks : breaks s saletrade with
  | false => exact (createOrJoin_lawful around hw hbreaks).wellFormed
  | true =>
    obtain ⟨teambuy, hjoins, -, hrun⟩ := createOrJoin_breaks around hbreaks
    obtain ⟨hget, hnew⟩ := joins_spec hjoins
    have hstored : Stored s teambuy teambuy := ⟨hget, rfl⟩
    rw [hrun]
    rcases addMember_cases (s := s) around saletrade false teambuy with
      ⟨-, hsame⟩ | ⟨-, oid, hadded⟩
    · rw [hsame]
      exact hw
    · have henrolled : WellFormed (s.enrolled (placeOf saletrade false teambuy oid)) :=
        wellFormed_enrolled hw hnew (mem_of_stored hstored)
      rw [hadded, checkFinishTeambuy_snd]
      split
      · exact wellFormed_restated .succeeded henrolled hstored
      · exact henrolled

end TeamBuy

/-! ## Runs -/

/-- A payment, the end of the groups of a product or of those that are too late, or
one of the two methods on a stored group. -/
inductive TeamOp where
  | updateTeambuy (around : Surroundings) (saletrade : SaleTrade)
  | endTeambuy (around : Surroundings) (sku : Nat)
  | taskScheduleCheckTeambuy (around : Surroundings)
  | setStatusSuccess (around : Surroundings) (id : Nat)
  | setStatusFailed (around : Surroundings) (id : Nat)

def onTeambuy (id : Nat) (method : TeamBuy → TeamBuyTx Unit) : TeamBuyTx Unit := do
  let teambuy ← getOr .doesNotExist fun s => s.teambuys.get? id
  method teambuy

namespace TeamOp

def exec : TeamOp → TeamBuyDb → TeamBuyDb
  | .updateTeambuy around saletrade, s => ((saletrade.updateTeambuy around).run s).2
  | .endTeambuy around sku, s => ((TeamBuy.endTeambuy around sku).run s).2
  | .taskScheduleCheckTeambuy around, s => ((TeamBuy.taskScheduleCheckTeambuy around).run s).2
  | .setStatusSuccess around id, s => ((onTeambuy id (TeamBuy.setStatusSuccess around)).run s).2
  | .setStatusFailed around id, s => ((onTeambuy id (TeamBuy.setStatusFailed around)).run s).2

def complete (s : TeamBuyDb) (teambuy : TeamBuy) : Bool :=
  teambuy.status = .succeeded ||
    (teambuy.status = .opened && teambuy.limitPersonNum ≤ s.memberNum teambuy.id)

/-- No payment takes a place in a failed group, and no incomplete group is declared
complete. -/
def Allowed (s : TeamBuyDb) : TeamOp → Prop
  | .updateTeambuy _ saletrade =>
      (saletrade.isTeambuyOrder && saletrade.payTime.isSome &&
        TeamBuy.breaks s saletrade) = false
  | .setStatusSuccess _ id => (s.teambuys.get? id).all (complete s) = true
  | _ => True

instance (s : TeamBuyDb) : (op : TeamOp) → Decidable (Allowed s op)
  | .updateTeambuy _ _ => inferInstanceAs (Decidable (_ = false))
  | .setStatusSuccess _ _ => inferInstanceAs (Decidable (_ = true))
  | .endTeambuy _ _ => isTrue trivial
  | .taskScheduleCheckTeambuy _ => isTrue trivial
  | .setStatusFailed _ _ => isTrue trivial

theorem onTeambuy_some {id : Nat} (method : TeamBuy → TeamBuyTx Unit)
    (h : s.teambuys.get? id = some teambuy) :
    (onTeambuy id method).run s = (method teambuy).run s := by
  rw [onTeambuy, getOr_bind_run]
  simp only [h]

theorem onTeambuy_none {id : Nat} (method : TeamBuy → TeamBuyTx Unit)
    (h : s.teambuys.get? id = none) :
    (onTeambuy id method).run s = (.error .doesNotExist, s) := by
  rw [onTeambuy, getOr_bind_run]
  simp only [h]

theorem lawful_loop (around : Surroundings) (hw : WellFormed s) (p : TeamBuy → Bool)
    (hp : ∀ teambuy, p teambuy = true → teambuy.status = .opened) :
    Lawful s ((forEach (s.teambuys.filter p) (TeamBuy.settle around)).run s).2 := by
  apply TeamBuy.lawful_forEach_settle _ hw
  · have hsorted : (s.teambuys.rows.map TeamBuy.id).Nodup := s.teambuys.sorted.imp ne_of_lt
    exact hsorted.sublist (List.filter_sublist.map _)
  · intro teambuy hmem
    obtain ⟨hrow, hopen⟩ := List.mem_filter.1 hmem
    exact ⟨TeamBuy.get_of_mem hrow, hp teambuy hopen⟩

theorem updateTeambuy_lawful (around : Surroundings)
    (hw : WellFormed s) (h : Allowed s (.updateTeambuy around saletrade)) :
    Lawful s ((saletrade.updateTeambuy around).run s).2 := by
  unfold SaleTrade.updateTeambuy
  by_cases hpaid : saletrade.isTeambuyOrder = true ∧ saletrade.payTime.isSome = true
  · have hkeeps : TeamBuy.breaks s saletrade = false := by
      simpa [Allowed, hpaid.1, hpaid.2] using h
    rw [if_pos hpaid, gets_bind_run]
    split
    · exact Lawful.refl hw
    · exact TeamBuy.createOrJoin_lawful around hw hkeeps
  · rw [if_neg hpaid]
    exact Lawful.refl hw

theorem updateTeambuy_unlawful (around : Surroundings)
    (h : ¬ Allowed s (.updateTeambuy around saletrade)) :
    ¬ AllOrNothing s ((saletrade.updateTeambuy around).run s).2 := by
  have hboth : (saletrade.isTeambuyOrder = true ∧ saletrade.payTime.isSome = true) ∧
      TeamBuy.breaks s saletrade = true := by
    simpa [Allowed, Bool.and_eq_true, and_assoc] using h
  obtain ⟨hpaid, hbreaks⟩ := hboth
  have hnot : ¬ (s.details.first fun d => d.tid = saletrade.tid).isSome = true := by
    simp only [TeamBuy.breaks, Bool.and_eq_true, Bool.not_eq_true'] at hbreaks
    simpa [TeamBuy.joined] using hbreaks.1.1
  rw [SaleTrade.updateTeambuy, if_pos hpaid, gets_bind_run, if_neg hnot]
  exact TeamBuy.createOrJoin_unlawful around hbreaks

theorem setStatusSuccess_iff (around : Surroundings) {id : Nat} (hw : WellFormed s) :
    (Allowed s (.setStatusSuccess around id) →
      Lawful s ((onTeambuy id (TeamBuy.setStatusSuccess around)).run s).2) ∧
    (¬ Allowed s (.setStatusSuccess around id) →
      ¬ AllOrNothing s ((onTeambuy id (TeamBuy.setStatusSuccess around)).run s).2) := by
  cases hget : s.teambuys.get? id with
  | none =>
    have hallowed : Allowed s (.setStatusSuccess around id) := by simp [Allowed, hget]
    rw [onTeambuy_none _ hget]
    exact ⟨fun _ => Lawful.refl hw, fun h => absurd hallowed h⟩
  | some teambuy =>
    have hstored : Stored s teambuy teambuy := by
      refine ⟨?_, rfl⟩
      rw [TeamBuy.id_of_get hget, hget]
    have hallowed : Allowed s (.setStatusSuccess around id) ↔ complete s teambuy = true := by
      simp [Allowed, hget]
    rw [onTeambuy_some _ hget, TeamBuy.setStatusSuccess_snd, hallowed]
    refine ⟨?_, ?_⟩
    · intro hcomplete
      apply lawful_restated hw hstored
      right
      refine ⟨rfl, ?_⟩
      simp only [complete, Bool.or_eq_true, Bool.and_eq_true, decide_eq_true_eq] at hcomplete
      rcases hcomplete with hsucceeded | ⟨hopen, hfull⟩
      · exact ⟨by rw [hsucceeded]; decide, Or.inl hsucceeded⟩
      · exact ⟨by rw [hopen]; decide, Or.inr hfull⟩
    · intro hincomplete hlaw
      have hnew : (s.restated teambuy .succeeded).teambuys.get? teambuy.id =
          some (teambuy.withStatus .succeeded) := by
        rw [get?_restated, if_pos rfl, hstored.1]
        rfl
      have hbefore : s.statusOf teambuy.id = some teambuy.status := by
        rw [statusOf, hstored.1, Option.map_some]
      cases hstatus : teambuy.status with
      | succeeded => exact hincomplete (by simp [complete, hstatus])
      | failed =>
        rw [hstatus] at hbefore
        have hafter := (hlaw.failed teambuy.id hbefore).1
        rw [statusOf, hnew] at hafter
        exact absurd (Option.some.inj hafter) nofun
      | opened =>
        rcases hlaw.succeeded _ (Table.get?_eq_some.1 hnew).1 rfl with hsucceeded | hfull
        · have hsame : s.statusOf teambuy.id = some .succeeded := hsucceeded
          rw [hbefore, hstatus] at hsame
          exact absurd (Option.some.inj hsame) (by decide)
        · have hmembers : teambuy.limitPersonNum ≤ s.memberNum teambuy.id := hfull
          exact hincomplete (by simp [complete, hstatus, hmembers])

theorem exec_lawful {op : TeamOp} (hw : WellFormed s) (h : Allowed s op) :
    Lawful s (exec op s) := by
  cases op with
  | updateTeambuy around saletrade => exact updateTeambuy_lawful around hw h
  | endTeambuy around sku =>
    exact lawful_loop around hw _ fun teambuy hp => (of_decide_eq_true hp).1
  | taskScheduleCheckTeambuy around =>
    exact lawful_loop around hw _ fun teambuy hp => (of_decide_eq_true hp).2
  | setStatusSuccess around id => exact (setStatusSuccess_iff around hw).1 h
  | setStatusFailed around id =>
    cases hget : s.teambuys.get? id with
    | none =>
      rw [exec, onTeambuy_none _ hget]
      exact Lawful.refl hw
    | some teambuy =>
      rw [exec, onTeambuy_some _ hget]
      exact TeamBuy.lawful_setStatusFailed hw ⟨by rw [TeamBuy.id_of_get hget, hget], rfl⟩

theorem exec_unlawful {op : TeamOp} (hw : WellFormed s) (h : ¬ Allowed s op) :
    ¬ AllOrNothing s (exec op s) := by
  cases op with
  | updateTeambuy around saletrade => exact updateTeambuy_unlawful around h
  | endTeambuy around sku => exact absurd trivial h
  | taskScheduleCheckTeambuy around => exact absurd trivial h
  | setStatusSuccess around id => exact (setStatusSuccess_iff around hw).2 h
  | setStatusFailed around id => exact absurd trivial h

theorem exec_wellFormed (s : TeamBuyDb) (op : TeamOp) (hw : WellFormed s) :
    WellFormed (exec op s) := by
  by_cases h : Allowed s op
  · exact (exec_lawful hw h).wellFormed
  · cases op with
    | updateTeambuy around saletrade =>
      rw [exec, SaleTrade.updateTeambuy]
      split
      · rw [gets_bind_run]
        split
        · exact hw
        · exact TeamBuy.createOrJoin_wellFormed around saletrade hw
      · exact hw
    | setStatusSuccess around id =>
      cases hget : s.teambuys.get? id with
      | none =>
        rw [exec, onTeambuy_none _ hget]
        exact hw
      | some teambuy =>
        rw [exec, onTeambuy_some _ hget, TeamBuy.setStatusSuccess_snd]
        have hstored : Stored s teambuy teambuy :=
          ⟨by rw [TeamBuy.id_of_get hget, hget], rfl⟩
        exact wellFormed_restated .succeeded hw hstored
    | endTeambuy around sku => exact absurd trivial h
    | taskScheduleCheckTeambuy around => exact absurd trivial h
    | setStatusFailed around id => exact absurd trivial h

end TeamOp

open TeamOp

theorem wellFormed_throughout (ops : List TeamOp) (s : TeamBuyDb) (hw : WellFormed s) :
    Throughout exec WellFormed ops s :=
  throughout_of_step exec_wellFormed ops s hw

def newShop : TeamBuyDb where
  teambuys := Table.empty
  details := Table.empty
  customers := [1, 2]
  mamas := fun _ => none
  teambuyPersonNum := fun _ => some 2

theorem wellFormed_newShop : WellFormed newShop :=
  ⟨fun _ => List.nodup_nil, fun _ h => absurd h List.not_mem_nil⟩

def smooth (now : Nat) : Surroundings := ⟨now, fun _ => .ok (), fun _ => .ok ()⟩

def placeTrade (customer : Nat) (tid oid : String) (teambuyId : Option Nat) : SaleTrade :=
  ⟨tid, true, some 0, customer, teambuyId, none, some ⟨oid, 5, 6⟩⟩

/-- The first customer opens a group, it expires and fails, and the second pays for a
trade that names it. -/
def latePayment : List TeamOp :=
  [.updateTeambuy (smooth 0) (placeTrade 1 "xd1" "xo1" none),
    .taskScheduleCheckTeambuy (smooth 4000),
    .updateTeambuy (smooth 4100) (placeTrade 2 "xd2" "xo2" (some 1))]

theorem wellFormed_late : Throughout exec WellFormed latePayment newShop :=
  wellFormed_throughout latePayment newShop wellFormed_newShop

end ShopManager.Pay.Group
