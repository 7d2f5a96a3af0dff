import ShopManager.Finance.Model
import ShopManager.Library.Execution

/-!
# Completed and settled order lists

An order list should be completed when its goods have arrived and, if it is paid on
delivery, its bills are finished, and then by two updates at the most.  The last arrival
completes it without a look at the bills, the last bill without a look at the goods, and
a bill that a merge has voided is waited for and never finished.
-/

namespace ShopManager.Finance

open Library Library.Tx Library.Execution

def Bill.closed (bill : Bill) : Bool := bill.type = .delete || bill.isFinished

def Arrived (s : FinanceDb) (list : Nat) : Prop :=
  ∀ od ∈ s.orderDetails.rows, od.orderListId = list → od.needArrivalQuantity = 0

/-- Each bill of the list that one of `types` relates is void or finished. -/
def Closed (types : List RelationType) (s : FinanceDb) (list : Nat) : Prop :=
  ∀ r ∈ s.relations.rows, r.objectId = list → r.type ∈ types →
    (s.bills.get? r.billId).all Bill.closed = true

def Paid (s : FinanceDb) (list : Nat) : Prop := Closed [.dinghuoPay] s list

def Complete (list : Nat) (s : FinanceDb) : Prop :=
  ∀ ol ∈ s.orderLists.rows, ol.id = list → ol.stage = .completed →
    Arrived s list ∧ (ol.isPostpay = true → Paid s list)

def Settled (list : Nat) (s : FinanceDb) : Prop :=
  Arrived s list ∧ Closed [.dinghuoPay, .dinghuoReceive] s list

def CompletesInTwo (list : Nat) (s : FinanceDb) : Prop :=
  ∃ ol ∈ (run Event.exec [.updateStage list, .updateStage list] s).orderLists.rows,
    ol.id = list ∧ ol.stage = .completed

def OrderList.AllFinished (ol : OrderList) (s : FinanceDb) : Prop :=
  ol.bills s ≠ [] ∧ (ol.bills s).all Bill.isFinished = true

def OrderList.Received (ol : OrderList) (s : FinanceDb) : Prop :=
  ((ol.details s).map fun od => od.arrivalQuantity + od.inferiorQuantity).sum ≠ 0

/-- A settled list that two updates complete: it is past its payment, something has
arrived for it, and it is not paid on delivery or no bill of it is void and unfinished. -/
def OrderList.Ready (ol : OrderList) (s : FinanceDb) : Prop :=
  match ol.stage with
  | .completed => True
  | .state => ol.Received s ∧ ol.isPostpay = false ∨ ol.AllFinished s
  | .receive => ol.Received s ∧ (ol.isPostpay = false ∨ ol.AllFinished s)
  | .draft | .checked | .pay | .deleted => False

def FinanceDb.arrive (s : FinanceDb) (od : OrderDetail) (arrival inferior : Int) : FinanceDb :=
  { s with
    orderDetails := s.orderDetails.save { od with
      arrivalQuantity := arrival
      inferiorQuantity := inferior } }

def Awaited (list : Nat) (s : FinanceDb) (finished : OrderList → Prop) : Prop :=
  ∀ ol ∈ s.orderLists.rows, ol.id = list → ol.stage = .state → finished ol → Arrived s list

def Timely (list : Nat) (s : FinanceDb) : Event → Prop
  | .setStagePay _ _ | .setStageReceive _ _ | .mergeBills _ => True
  | .updateStage id => id = list → Awaited list s fun ol => ol.AllFinished s
  | .setArrivalQuantity detail arrival inferior =>
      ∀ od ∈ s.orderDetails.rows, od.id = detail → od.orderListId = list →
        ∀ ol ∈ s.orderLists.rows, ol.id = list →
          (ol.stage = .completed → Arrived (s.arrive od arrival inferior) list) ∧
          ((ol.details (s.arrive od arrival inferior)).all
              (fun od => od.arrivalQuantity = od.buyQuantity) = true →
            ol.isPostpay = true → Paid s list)
  | .createBill lists relation bill =>
      list ∈ lists → relation = .dinghuoPay → ∀ ol ∈ s.orderLists.rows, ol.id = list →
        ol.stage = .completed → ol.isPostpay = true → bill.closed = true
  | .finishBill bill =>
      (∃ r ∈ s.relations.rows, r.billId = bill ∧ r.objectId = list ∧
        r.type ≠ .returngoodsReceive) →
      Awaited list s fun ol => ∀ other ∈ ol.bills s, other.id ≠ bill → other.isFinished = true

section Decidable

variable (list : Nat) (s : FinanceDb)

instance : Decidable (Arrived s list) :=
  inferInstanceAs (Decidable (∀ od ∈ s.orderDetails.rows, od.orderListId = list → _))

instance (types : List RelationType) : Decidable (Closed types s list) :=
  inferInstanceAs (Decidable (∀ r ∈ s.relations.rows, r.objectId = list → r.type ∈ types → _))

instance : Decidable (Paid s list) := inferInstanceAs (Decidable (Closed _ s list))

instance : Decidable (Complete list s) :=
  inferInstanceAs (Decidable (∀ ol ∈ s.orderLists.rows, ol.id = list → _ → _ ∧ _))

instance : Decidable (Settled list s) := inferInstanceAs (Decidable (_ ∧ _))

instance : Decidable (CompletesInTwo list s) :=
  inferInstanceAs (Decidable (∃ ol ∈ (run Event.exec _ s).orderLists.rows, _))

instance (ol : OrderList) : Decidable (ol.AllFinished s) := inferInstanceAs (Decidable (_ ∧ _))

instance (finished : OrderList → Prop) [DecidablePred finished] :
    Decidable (Awaited list s finished) :=
  inferInstanceAs (Decidable (∀ ol ∈ s.orderLists.rows, ol.id = list → _ → finished ol → _))

instance : ∀ event, Decidable (Timely list s event)
  | .setStagePay _ _ | .setStageReceive _ _ | .mergeBills _ => isTrue trivial
  | .updateStage id =>
      inferInstanceAs (Decidable (id = list → Awaited list s fun ol => ol.AllFinished s))
  | .setArrivalQuantity detail arrival inferior =>
      inferInstanceAs (Decidable (∀ od ∈ s.orderDetails.rows, od.id = detail →
        od.orderListId = list → ∀ ol ∈ s.orderLists.rows, ol.id = list →
          (ol.stage = .completed → Arrived (s.arrive od arrival inferior) list) ∧ (_ → _ → _)))
  | .createBill lists relation bill =>
      inferInstanceAs (Decidable (list ∈ lists → relation = .dinghuoPay →
        ∀ ol ∈ s.orderLists.rows, ol.id = list → _ → _ → bill.closed = true))
  | .finishBill bill =>
      inferInstanceAs (Decidable ((∃ r ∈ s.relations.rows, r.billId = bill ∧ _) →
        Awaited list s fun ol => ∀ other ∈ ol.bills s, other.id ≠ bill → _))

end Decidable

def Sound (s : FinanceDb) : Prop := ∀ r ∈ s.relations, ∃ bill ∈ s.bills, bill.id = r.billId

/-! ## Updates of a stage -/

section Update

variable {s : FinanceDb} {list : Nat}

theorem mem_saved {ol row : OrderList} (h : ol ∈ (s.orderLists.save row).rows) :
    ol = row ∨ ol ∈ s.orderLists.rows := by
  rcases Table.mem_save h with rfl | ⟨hol, _⟩
  · exact .inl rfl
  · exact .inr hol

theorem lackOf_false {ol : OrderList} (h : OrderList.lackOf (ol.details s) = some false) :
    Arrived s ol.id := by
  unfold OrderList.lackOf at h
  split at h
  · cases h
  · have hnone : (ol.details s).any (fun od => 0 < od.needArrivalQuantity) = false := by
      simpa using h
    intro od hod hlist
    have hmem : od ∈ ol.details s := List.mem_filter.2 ⟨hod, decide_eq_true hlist⟩
    have hle := List.any_eq_false.1 hnone od hmem
    simp only [decide_eq_true_eq, not_lt] at hle
    exact le_antisymm hle (le_max_right _ _)

theorem setStat_id (ol : OrderList) : (ol.setStat s).1.id = ol.id := by
  unfold OrderList.setStat
  split <;> rfl

theorem setStat_isPostpay (ol : OrderList) : (ol.setStat s).1.isPostpay = ol.isPostpay := by
  unfold OrderList.setStat
  split <;> rfl

theorem setStat_stage (ol : OrderList) : (ol.setStat s).1.stage = ol.stage := by
  unfold OrderList.setStat
  split <;> rfl

theorem setStat_lack {ol : OrderList} (h : ol.stage = .receive ∨ ol.stage = .state) :
    (ol.setStat s).1.lack = OrderList.lackOf (ol.details s) := by
  unfold OrderList.setStat
  rcases h with h | h <;> rw [h]

/-- The rows that an update of the stage of `ol` may save. -/
inductive Updated (s : FinanceDb) (ol : OrderList) : OrderList → Prop where
  | received {row : OrderList} (hid : row.id = ol.id) (hstage : row.stage = .receive) :
      Updated s ol row
  | stated {row : OrderList} (hid : row.id = ol.id) (hstage : row.stage = .state)
      (hlack : OrderList.lackOf (ol.details s) = some false ∨ ol.stage = .state) :
      Updated s ol row
  | completed {row : OrderList} (hid : row.id = ol.id) (hstage : row.stage = .completed)
      (hstate : ol.stage = .state)
      (hdone : OrderList.lackOf (ol.details s) = some false ∧ row.isPostpay = false ∨
        ol.AllFinished s) : Updated s ol row

theorem updateStage_cases (ol : OrderList) (s : FinanceDb) :
    (ol.updateStage.run s).2 = s ∨ ∃ row, Updated s ol row ∧
      (ol.updateStage.run s).2 = { s with orderLists := s.orderLists.save row } := by
  unfold OrderList.updateStage
  cases hstage : ol.stage with
  | pay =>
    simp only
    rw [getOr_bind_run]
    cases ol.bill s with
    | none => exact .inl rfl
    | some bill =>
      by_cases hfinished : bill.isFinished = true
      · simp only [if_pos hfinished]
        exact .inr ⟨{ ol with stage := .receive, isPostpay := ol.billMethod = .cod },
          .received rfl rfl, rfl⟩
      · simp only [if_neg hfinished]
        exact .inl rfl
  | receive =>
    simp only
    rw [gets_bind_run, setStat_lack (.inl hstage)]
    by_cases hlack : OrderList.lackOf (ol.details s) = some false
    · rw [if_pos hlack]
      exact .inr ⟨{ (ol.setStat s).1 with
        stage := .state
        arrivalProcess := .finished }, .stated (setStat_id ol) rfl (.inl hlack), rfl⟩
    · rw [if_neg hlack]
      by_cases hchange : (ol.setStat s).2 = true
      · rw [if_pos hchange]
        exact .inr ⟨(ol.setStat s).1, .received (setStat_id ol)
          ((setStat_stage ol).trans hstage), rfl⟩
      · rw [if_neg hchange]
        exact .inl rfl
  | state =>
    simp only
    rw [gets_bind_run, gets_bind_run, setStat_lack (.inr hstage), setStat_isPostpay]
    by_cases hlack : OrderList.lackOf (ol.details s) = some false ∧ ol.isPostpay = false
    · rw [if_pos hlack]
      have hpostpay : (ol.setStat s).1.isPostpay = false :=
        (setStat_isPostpay ol).trans hlack.2
      exact .inr ⟨{ (ol.setStat s).1 with stage := .completed }, .completed (setStat_id ol) rfl
        hstage (.inl ⟨hlack.1, hpostpay⟩), rfl⟩
    · rw [if_neg hlack]
      by_cases hbills : ol.bills s ≠ [] ∧ (ol.bills s).all Bill.isFinished = true
      · rw [if_pos hbills]
        exact .inr ⟨{ (ol.setStat s).1 with stage := .completed }, .completed (setStat_id ol)
          rfl hstage (.inr hbills), rfl⟩
      · rw [if_neg hbills]
        by_cases hchange : (ol.setStat s).2 = true
        · rw [if_pos hchange]
          exact .inr ⟨(ol.setStat s).1, .stated (setStat_id ol)
            ((setStat_stage ol).trans hstage) (.inr hstage), rfl⟩
        · rw [if_neg hchange]
          exact .inl rfl
  | draft => exact .inl rfl
  | checked => exact .inl rfl
  | completed => exact .inl rfl
  | deleted => exact .inl rfl

end Update

theorem OrderList.AllFinished.of_id {s : FinanceDb} {ol row : OrderList} (h : row.AllFinished s)
    (hid : row.id = ol.id) : ol.AllFinished s := by
  unfold OrderList.AllFinished OrderList.bills at h ⊢
  rw [← hid]
  exact h

theorem OrderList.AllFinished.paid {s : FinanceDb} {ol : OrderList} (h : ol.AllFinished s) :
    Paid s ol.id := by
  intro r hr hobject htype
  cases hbill : s.bills.get? r.billId with
  | none => rfl
  | some bill =>
    have hpay : r.type = .dinghuoPay := List.mem_singleton.1 htype
    have hrelated : r ∈ s.relations.filter fun r => r.objectId = ol.id ∧
        (r.type = .dinghuoPay ∨ r.type = .dinghuoReceive) :=
      List.mem_filter.2 ⟨hr, decide_eq_true ⟨hobject, .inl hpay⟩⟩
    have hmem : bill ∈ ol.bills s := List.mem_filterMap.2 ⟨r, hrelated, hbill⟩
    have hfinished := List.all_eq_true.1 h.2 bill hmem
    simp [Bill.closed, hfinished]

structure Orderly (list : Nat) (s : FinanceDb) : Prop where
  complete : Complete list s
  awaited : Awaited list s fun ol => ol.AllFinished s

section Steps

variable {s : FinanceDb} {list : Nat} {ol : OrderList}

theorem updateStage_orderly (hol : ol ∈ s.orderLists) (h : Orderly list s) :
    Orderly list (ol.updateStage.run s).2 := by
  rcases updateStage_cases ol s with hsame | ⟨row, hrow, hsaved⟩
  · rw [hsame]
    exact h
  · rw [hsaved]
    have hawaited : ol.id = list → ol.stage = .state → ol.AllFinished s → Arrived s list :=
      fun hid hstage hfinished => h.awaited ol hol hid hstage hfinished
    constructor
    · intro ol' hol' hid hstage
      rcases mem_saved hol' with rfl | hol'
      · cases hrow with
        | received _ hother =>
          rw [hother] at hstage
          cases hstage
        | stated _ hother _ =>
          rw [hother] at hstage
          cases hstage
        | completed hrowId _ hstate hdone =>
          have holId : ol.id = list := hrowId.symm.trans hid
          rcases hdone with ⟨hlack, hpostpay⟩ | hfinished
          · refine ⟨holId ▸ lackOf_false hlack, ?_⟩
            intro htrue
            rw [hpostpay] at htrue
            cases htrue
          · exact ⟨hawaited holId hstate hfinished, fun _ =>
              holId ▸ OrderList.AllFinished.paid hfinished⟩
      · exact h.complete ol' hol' hid hstage
    · intro ol' hol' hid hstage hfinished
      rcases mem_saved hol' with rfl | hol'
      · cases hrow with
        | received _ hother =>
          rw [hother] at hstage
          cases hstage
        | stated hrowId _ hlack =>
          have holId : ol.id = list := hrowId.symm.trans hid
          rcases hlack with hlack | hstate
          · exact holId ▸ lackOf_false hlack
          · exact hawaited holId hstate (OrderList.AllFinished.of_id hfinished hrowId)
        | completed _ hother _ _ =>
          rw [hother] at hstage
          cases hstage
      · exact h.awaited ol' hol' hid hstage hfinished

theorem updateStage_other (hne : ol.id ≠ list) (h : Complete list s) :
    Complete list (ol.updateStage.run s).2 := by
  rcases updateStage_cases ol s with hsame | ⟨row, hrow, hsaved⟩
  · rw [hsame]
    exact h
  · rw [hsaved]
    intro ol' hol' hid hstage
    rcases mem_saved hol' with rfl | hol'
    · have hrowId : ol'.id = ol.id := by cases hrow <;> assumption
      exact absurd (hrowId.symm.trans hid) hne
    · exact h ol' hol' hid hstage

end Steps

/-! ## Events -/

section Events

variable {s : FinanceDb} {list : Nat}

theorem save_complete {row : OrderList} (hrow : row.stage ≠ .completed) (h : Complete list s) :
    Complete list { s with orderLists := s.orderLists.save row } := by
  intro ol hol hid hstage
  rcases mem_saved hol with rfl | hol
  · exact absurd hstage hrow
  · exact h ol hol hid hstage

theorem get_cases (id : Nat) (f : OrderList → FinanceTx Unit) (s : FinanceDb) :
    ((OrderList.get id >>= f).run s).2 = s ∨ ∃ ol ∈ s.orderLists, ol.id = id ∧
      (OrderList.get id >>= f).run s = (f ol).run s := by
  unfold OrderList.get
  rw [getOr_bind_run]
  cases hget : s.orderLists.get? id with
  | none => exact .inl rfl
  | some ol =>
    obtain ⟨hmem, hid⟩ := Table.get?_eq_some.1 hget
    exact .inr ⟨ol, hmem, hid, rfl⟩

theorem setStagePay_complete (id : Nat) (payWay : PayWay) (h : Complete list s) :
    Complete list ((Event.setStagePay id payWay).exec s) := by
  rcases get_cases id (OrderList.setStagePay payWay) s with hsame | ⟨ol, _, _, hrun⟩
  · rw [Event.exec, Event.program, hsame]
    exact h
  · rw [Event.exec, Event.program, hrun]
    exact save_complete (by simp) h

theorem setStageReceive_complete (id : Nat) (payWay : PayWay) (h : Complete list s) :
    Complete list ((Event.setStageReceive id payWay).exec s) := by
  rcases get_cases id (OrderList.setStageReceive payWay) s with hsame | ⟨ol, _, _, hrun⟩
  · rw [Event.exec, Event.program, hsame]
    exact h
  · rw [Event.exec, Event.program, hrun]
    exact save_complete (by simp) h

theorem updateStage_complete (id : Nat) (h : Complete list s)
    (htimely : Timely list s (.updateStage id)) :
    Complete list ((Event.updateStage id).exec s) := by
  rcases get_cases id OrderList.updateStage s with hsame | ⟨ol, hol, hid, hrun⟩
  · rw [Event.exec, Event.program, hsame]
    exact h
  · rw [Event.exec, Event.program, hrun]
    by_cases hlist : ol.id = list
    · exact (updateStage_orderly hol ⟨h, htimely (hid.symm.trans hlist)⟩).complete
    · exact updateStage_other hlist h

end Events

section Arrivals

variable {s : FinanceDb} {list : Nat}

theorem setArrivalQuantity_cases (detail : Nat) (arrival inferior : Int) (s : FinanceDb) :
    (Event.setArrivalQuantity detail arrival inferior).exec s = s ∨
      ∃ od ∈ s.orderDetails, od.id = detail ∧
        ((Event.setArrivalQuantity detail arrival inferior).exec s =
            s.arrive od arrival inferior ∨
          ∃ ol ∈ s.orderLists, ol.id = od.orderListId ∧
            (ol.details (s.arrive od arrival inferior)).all
              (fun od => od.arrivalQuantity = od.buyQuantity) = true ∧
            (Event.setArrivalQuantity detail arrival inferior).exec s =
              { s.arrive od arrival inferior with
                orderLists := s.orderLists.save { ol with stage := .completed } }) := by
  cases hget : s.orderDetails.get? detail with
  | none =>
    left
    unfold Event.exec Event.program
    rw [getOr_bind_run, hget]
  | some od =>
    right
    obtain ⟨hod, hdetail⟩ := Table.get?_eq_some.1 hget
    refine ⟨od, hod, hdetail, ?_⟩
    have hprogram : (Event.setArrivalQuantity detail arrival inferior).exec s =
        ((OrderList.get od.orderListId >>= fun ol => do
          let details ← gets ol.details
          if details.all (fun od => od.arrivalQuantity = od.buyQuantity) = true then
            ol.setStageComplete
          else pure ()).run (s.arrive od arrival inferior)).2 := by
      unfold Event.exec Event.program
      rw [getOr_bind_run, hget]
      rfl
    rw [hprogram]
    rcases get_cases od.orderListId (fun ol => do
        let details ← gets ol.details
        if details.all (fun od => od.arrivalQuantity = od.buyQuantity) = true then
          ol.setStageComplete
        else pure ()) (s.arrive od arrival inferior) with hsame | ⟨ol, hol, hid, hrun⟩
    · exact .inl hsame
    · rw [hrun, gets_bind_run]
      by_cases hall : (ol.details (s.arrive od arrival inferior)).all
          (fun od => od.arrivalQuantity = od.buyQuantity) = true
      · rw [if_pos hall]
        exact .inr ⟨ol, hol, hid, hall, rfl⟩
      · rw [if_neg hall]
        exact .inl rfl

theorem arrived_of_all {ol : OrderList} (h : (ol.details s).all
    (fun od => od.arrivalQuantity = od.buyQuantity) = true) : Arrived s ol.id := by
  intro od hod hlist
  have hmem : od ∈ ol.details s := List.mem_filter.2 ⟨hod, decide_eq_true hlist⟩
  have heq := of_decide_eq_true (List.all_eq_true.1 h od hmem)
  simp [OrderDetail.needArrivalQuantity, heq]

theorem arrived_arrive {od : OrderDetail} {arrival inferior : Int} (hne : od.orderListId ≠ list)
    (h : Arrived s list) : Arrived (s.arrive od arrival inferior) list := by
  intro od' hod' hlist
  rcases Table.mem_save hod' with rfl | ⟨hod', _⟩
  · exact absurd hlist hne
  · exact h od' hod' hlist

theorem setArrivalQuantity_complete (detail : Nat) (arrival inferior : Int)
    (h : Complete list s) (htimely : Timely list s (.setArrivalQuantity detail arrival inferior)) :
    Complete list ((Event.setArrivalQuantity detail arrival inferior).exec s) := by
  rcases setArrivalQuantity_cases detail arrival inferior s with hsame | ⟨od, hod, hdetail, hrun⟩
  · rw [hsame]
    exact h
  · have hkept : Complete list (s.arrive od arrival inferior) := by
      intro ol hol hid hstage
      obtain ⟨harrived, hpaid⟩ := h ol hol hid hstage
      refine ⟨?_, hpaid⟩
      by_cases hlist : od.orderListId = list
      · exact (htimely od hod hdetail hlist ol hol hid).1 hstage
      · exact arrived_arrive hlist harrived
    rcases hrun with hrun | ⟨ol, hol, hid, hall, hrun⟩
    · rw [hrun]
      exact hkept
    · rw [hrun]
      intro ol' hol' hid' hstage
      rcases mem_saved (s := s) hol' with rfl | hol'
      · have hlist : od.orderListId = list := hid.symm.trans hid'
        have harrived := arrived_of_all hall
        refine ⟨?_, (htimely od hod hdetail hlist ol hol hid').2 hall⟩
        rw [← hid']
        exact harrived
      · exact hkept ol' hol' hid' hstage

end Arrivals

/-! ## Bills -/

section Bills

variable {s : FinanceDb} {list : Nat}

theorem get?_insert_of_sound (hsound : Sound s) {r : BillRelation} (hr : r ∈ s.relations)
    (bill : Bill) : (s.bills.insert bill).get? r.billId = s.bills.get? r.billId := by
  obtain ⟨b, hb, hid⟩ := hsound r hr
  have hlt : b.id < s.bills.nextId := Table.pk_lt_nextId hb
  rw [Table.get?_insert, if_neg (by omega)]

theorem relate_run (bill : Nat) (relation : RelationType) (lists : List Nat) (s : FinanceDb) :
    ∃ relations, ((forEach lists (Bill.relate bill relation)).run s) =
        (.ok (), { s with relations := relations }) ∧
      ∀ r ∈ relations, r ∈ s.relations ∨
        (r.billId = bill ∧ r.type = relation ∧ r.objectId ∈ lists) := by
  induction lists generalizing s with
  | nil => exact ⟨s.relations, rfl, fun r hr => .inl hr⟩
  | cons id lists ih =>
    obtain ⟨relations, hrun, hspec⟩ := ih { s with
      relations := s.relations.insert ⟨0, bill, id, relation⟩ }
    refine ⟨relations, ?_, ?_⟩
    · rw [forEach_cons]
      unfold Bill.relate
      rw [modify_bind_run]
      exact hrun
    · intro r hr
      rcases hspec r hr with hr | ⟨hbill, htype, hmem⟩
      · rcases Table.mem_insert.1 hr with hr | rfl
        · exact .inl hr
        · exact .inr ⟨rfl, rfl, List.mem_cons_self ..⟩
      · exact .inr ⟨hbill, htype, List.mem_cons_of_mem _ hmem⟩

theorem createBill_run (lists : List Nat) (relation : RelationType) (bill : Bill)
    (s : FinanceDb) :
    ∃ relations, (Event.createBill lists relation bill).exec s =
        { s with bills := s.bills.insert bill, relations := relations } ∧
      ∀ r ∈ relations, r ∈ s.relations ∨
        (r.billId = s.bills.nextId ∧ r.type = relation ∧ r.objectId ∈ lists) := by
  obtain ⟨relations, hrun, hspec⟩ := relate_run s.bills.nextId relation lists
    { s with bills := s.bills.insert bill }
  refine ⟨relations, ?_, hspec⟩
  unfold Event.exec Event.program Bill.create
  rw [gets_bind_run, modify_bind_run]
  exact congrArg Prod.snd hrun

theorem createBill_complete (lists : List Nat) (relation : RelationType) (bill : Bill)
    (hsound : Sound s) (h : Complete list s)
    (htimely : Timely list s (.createBill lists relation bill)) :
    Complete list ((Event.createBill lists relation bill).exec s) := by
  obtain ⟨relations, hrun, hspec⟩ := createBill_run lists relation bill s
  rw [hrun]
  intro ol hol hid hstage
  obtain ⟨harrived, hpaid⟩ := h ol hol hid hstage
  refine ⟨harrived, ?_⟩
  intro hpostpay r hr hobject htype
  rcases hspec r hr with hold | ⟨hbill, hrelation, hmem⟩
  · have hbills : ({ s with
        bills := s.bills.insert bill, relations := relations } : FinanceDb).bills.get? r.billId =
          s.bills.get? r.billId := get?_insert_of_sound hsound hold bill
    rw [hbills]
    exact hpaid hpostpay r hold hobject htype
  · have hpay : relation = .dinghuoPay := hrelation ▸ List.mem_singleton.1 htype
    have hclosed : bill.closed = true :=
      htimely (hobject ▸ hmem) hpay ol hol hid hstage hpostpay
    simp only [hbill, Table.get?_insert, if_true, Option.all_some]
    exact hclosed

end Bills

section Merging

variable {s : FinanceDb} {list : Nat} {bills : List Bill}

def Unrelated (s : FinanceDb) (list : Nat) (bills : List Bill) : Prop :=
  ∀ r ∈ s.relations, r.objectId = list → r.type = .dinghuoPay → ∀ bill ∈ bills, bill.id ≠ r.billId

structure Merging (s : FinanceDb) (list : Nat) (bills : List Bill) (s' : FinanceDb) : Prop where
  lists : s'.orderLists = s.orderLists
  details : s'.orderDetails = s.orderDetails
  relations : Unrelated s list bills → ∀ r ∈ s'.relations, r.objectId = list →
    r.type = .dinghuoPay → r ∈ s.relations
  bills : Unrelated s list bills → ∀ r ∈ s.relations, r.objectId = list →
    r.type = .dinghuoPay → s'.bills.get? r.billId = s.bills.get? r.billId

theorem relateOnce_merging {r : BillRelation} (merged : Nat)
    (hr : Unrelated s list bills → ¬ (r.objectId = list ∧ r.type = .dinghuoPay)) :
    Preserves (Merging s list bills) (Bill.relateOnce merged r) := by
  intro s' h
  unfold Bill.relateOnce
  rw [gets_bind_run]
  split
  · exact h
  · refine ⟨h.lists, h.details, ?_, h.bills⟩
    intro hunrelated r' hr' hobject htype
    rcases Table.mem_insert.1 hr' with hr' | rfl
    · exact h.relations hunrelated r' hr' hobject htype
    · exact absurd ⟨hobject, htype⟩ (hr hunrelated)

theorem mergeTo_merging {bill : Bill} (merged : Nat) (hbill : bill ∈ bills) :
    Preserves (Merging s list bills) (bill.mergeTo merged) := by
  intro s' h
  unfold Bill.mergeTo
  rw [gets_bind_run]
  refine Preserves.after ?_ ?_
  · refine Preserves.forEach ?_ s' h
    intro r hr
    obtain ⟨hmem, hown⟩ := List.mem_filter.1 hr
    apply relateOnce_merging
    rintro hunrelated ⟨hobject, htype⟩
    have hold := h.relations hunrelated r hmem hobject htype
    exact hunrelated r hold hobject htype bill hbill (of_decide_eq_true hown).symm
  · intro _
    apply Preserves.modify
    intro t ht
    refine ⟨ht.lists, ht.details, ht.relations, ?_⟩
    intro hunrelated r hr hobject htype
    have hne := hunrelated r hr hobject htype bill hbill
    rw [← ht.bills hunrelated r hr hobject htype]
    exact (Table.get?_save t.bills _ r.billId).trans (if_neg hne.symm)

theorem checkMerge_run (bills : List Bill) (s : FinanceDb) :
    (∃ e, (Bill.checkMerge bills).run s = (.error e, s)) ∨
      (Bill.checkMerge bills).run s = (.ok (), s) ∧
        ∀ bill ∈ bills, bill.type ≠ .delete ∧ bill.status ≠ .completed := by
  unfold Bill.checkMerge
  simp only [raiseIf_bind_run, raiseIf_run]
  by_cases hvoid : ∃ bill ∈ bills, bill.type = .delete
  · rw [if_pos hvoid]
    exact .inl ⟨_, rfl⟩
  · rw [if_neg hvoid]
    split
    · exact .inl ⟨_, rfl⟩
    · by_cases hcompleted : ∃ bill ∈ bills, bill.status = .completed
      · rw [if_pos hcompleted]
        exact .inl ⟨_, rfl⟩
      · rw [if_neg hcompleted]
        split
        · exact .inl ⟨_, rfl⟩
        · refine .inr ⟨rfl, ?_⟩
          intro bill hbill
          exact ⟨fun h => hvoid ⟨bill, hbill, h⟩, fun h => hcompleted ⟨bill, hbill, h⟩⟩

theorem mergeBills_cases (ids : List Nat) (s : FinanceDb) :
    (Event.mergeBills ids).exec s = s ∨ ∃ bills : List Bill,
      (∀ bill ∈ bills, bill ∈ s.bills ∧ bill.type ≠ .delete ∧ bill.status ≠ .completed) ∧
      (Event.mergeBills ids).exec s =
        ((forEach bills (Bill.mergeTo s.bills.nextId)).run
          { s with bills := s.bills.insert (Bill.merged bills) }).2 := by
  unfold Event.exec Event.program
  rw [gets_bind_run]
  rcases checkMerge_run (s.bills.filter fun bill => bill.id ∈ ids) s with ⟨e, hrun⟩ | ⟨hrun, hbills⟩
  · rw [bind_error hrun]
    exact .inl rfl
  · rw [bind_ok hrun]
    unfold Bill.merge
    rw [raiseIf_bind_run]
    split
    · exact .inl rfl
    · refine .inr ⟨s.bills.filter fun bill => bill.id ∈ ids, ?_, rfl⟩
      intro bill hbill
      exact ⟨(List.mem_filter.1 hbill).1, hbills bill hbill⟩

theorem mergeBills_complete (ids : List Nat) (hsound : Sound s) (h : Complete list s) :
    Complete list ((Event.mergeBills ids).exec s) := by
  rcases mergeBills_cases ids s with hsame | ⟨bills, hbills, hrun⟩
  · rw [hsame]
    exact h
  · rw [hrun]
    have hstart : Merging s list bills { s with bills := s.bills.insert (Bill.merged bills) } :=
      ⟨rfl, rfl, fun _ _ hr _ _ => hr, fun _ r hr _ _ => get?_insert_of_sound hsound hr _⟩
    have hmerge : Preserves (Merging s list bills) (forEach bills (Bill.mergeTo s.bills.nextId)) :=
      Preserves.forEach fun bill hbill => mergeTo_merging s.bills.nextId hbill
    have hend := hmerge _ hstart
    intro ol hol hid hstage
    rw [hend.lists] at hol
    obtain ⟨harrived, hpaid⟩ := h ol hol hid hstage
    constructor
    · intro od hod
      rw [hend.details] at hod
      exact harrived od hod
    · intro hpostpay r hr hobject htype
      have hunrelated : Unrelated s list bills := by
        intro r hr hobject htype bill hbill hid
        obtain ⟨hmem, hvalid, hopen⟩ := hbills bill hbill
        have hclosed := hpaid hpostpay r hr hobject (by rw [htype]; exact List.mem_singleton.2 rfl)
        rw [Table.get?_eq_some.2 ⟨hmem, hid⟩] at hclosed
        simp [Bill.closed, Bill.isFinished, hvalid, hopen] at hclosed
      have hpay := List.mem_singleton.1 htype
      have hold := hend.relations hunrelated r hr hobject hpay
      rw [hend.bills hunrelated r hold hobject hpay]
      exact hpaid hpostpay r hold hobject htype

end Merging

section Finishing

variable {s : FinanceDb} {list : Nat}

def updateOf (r : BillRelation) : FinanceTx Unit :=
  match r.type with
  | .dinghuoPay | .dinghuoReceive => do
      let ol ← OrderList.get r.objectId
      ol.updateStage
  | .returngoodsReceive => pure ()

def FinanceDb.finish (s : FinanceDb) (bill : Bill) : FinanceDb :=
  { s with bills := s.bills.save { bill with status := .completed } }

theorem finishBill_cases (id : Nat) (s : FinanceDb) :
    (Event.finishBill id).exec s = s ∨ ∃ bill ∈ s.bills, bill.id = id ∧
      (Event.finishBill id).exec s =
        ((forEach (bill.relations s) updateOf).run (s.finish bill)).2 := by
  unfold Event.exec Event.program
  rw [getOr_bind_run]
  cases hget : s.bills.get? id with
  | none => exact .inl rfl
  | some bill =>
    obtain ⟨hmem, hid⟩ := Table.get?_eq_some.1 hget
    exact .inr ⟨bill, hmem, hid, rfl⟩

theorem get?_finish (bill : Bill) (n : Nat) :
    (s.finish bill).bills.get? n =
      if n = bill.id then (s.bills.get? n).map fun _ => { bill with status := .completed }
      else s.bills.get? n := Table.get?_save _ _ _

theorem finish_complete (bill : Bill) (h : Complete list s) : Complete list (s.finish bill) := by
  intro ol hol hid hstage
  obtain ⟨harrived, hpaid⟩ := h ol hol hid hstage
  refine ⟨harrived, ?_⟩
  intro hpostpay r hr hobject htype
  rw [get?_finish]
  split
  · cases s.bills.get? r.billId with
    | none => rfl
    | some other => simp [Bill.closed, Bill.isFinished]
  · exact hpaid hpostpay r hr hobject htype

theorem updateOf_orderly (r : BillRelation) : Preserves (Orderly list) (updateOf r) := by
  have hupdate : Preserves (Orderly list) (do
      let ol ← OrderList.get r.objectId
      ol.updateStage) := by
    intro s' h
    rcases get_cases r.objectId OrderList.updateStage s' with hsame | ⟨ol, hol, _, hrun⟩
    · rw [hsame]
      exact h
    · rw [hrun]
      exact updateStage_orderly hol h
  unfold updateOf
  cases r.type with
  | dinghuoPay => exact hupdate
  | dinghuoReceive => exact hupdate
  | returngoodsReceive => exact Preserves.pure ()

theorem updateOf_other {r : BillRelation}
    (hr : r.objectId = list → r.type = .returngoodsReceive) :
    Preserves (Complete list) (updateOf r) := by
  have hupdate : r.type ≠ .returngoodsReceive → Preserves (Complete list) (do
      let ol ← OrderList.get r.objectId
      ol.updateStage) := by
    intro htype s' h
    rcases get_cases r.objectId OrderList.updateStage s' with hsame | ⟨ol, _, hid, hrun⟩
    · rw [hsame]
      exact h
    · rw [hrun]
      exact updateStage_other (fun heq => htype (hr (hid.symm.trans heq))) h
  unfold updateOf
  cases htype : r.type with
  | dinghuoPay => exact hupdate (by rw [htype]; simp)
  | dinghuoReceive => exact hupdate (by rw [htype]; simp)
  | returngoodsReceive => exact Preserves.pure ()

theorem finish_awaited {bill : Bill} (hawaited : Awaited list s fun ol =>
      ∀ other ∈ ol.bills s, other.id ≠ bill.id → other.isFinished = true) :
    Awaited list (s.finish bill) fun ol => ol.AllFinished (s.finish bill) := by
  intro ol hol hid hstage hfinished
  apply hawaited ol hol hid hstage
  intro other hother hne
  obtain ⟨r, hr, hget⟩ := List.mem_filterMap.1 hother
  have hbillId : other.id = r.billId := (Table.get?_eq_some.1 hget).2
  have hsame : (s.finish bill).bills.get? r.billId = some other := by
    rw [get?_finish, if_neg (fun heq => hne (hbillId.trans heq)), hget]
  exact List.all_eq_true.1 hfinished.2 other (List.mem_filterMap.2 ⟨r, hr, hsame⟩)

theorem finishBill_complete (id : Nat) (h : Complete list s)
    (htimely : Timely list s (.finishBill id)) :
    Complete list ((Event.finishBill id).exec s) := by
  rcases finishBill_cases id s with hsame | ⟨bill, _, rfl, hrun⟩
  · rw [hsame]
    exact h
  · rw [hrun]
    by_cases hrelated : ∃ r ∈ s.relations.rows, r.billId = bill.id ∧ r.objectId = list ∧
        r.type ≠ .returngoodsReceive
    · have hstart : Orderly list (s.finish bill) :=
        ⟨finish_complete bill h, finish_awaited (htimely hrelated)⟩
      have hend : Preserves (Orderly list) (forEach (bill.relations s) updateOf) :=
        Preserves.forEach fun r _ => updateOf_orderly r
      exact (hend _ hstart).complete
    · refine Preserves.forEach ?_ _ (finish_complete bill h)
      intro r hr
      obtain ⟨hmem, hown⟩ := List.mem_filter.1 hr
      apply updateOf_other
      intro hobject
      by_contra htype
      exact hrelated ⟨r, hmem, of_decide_eq_true hown, hobject, htype⟩

end Finishing

section Relations

variable {s : FinanceDb}

theorem Sound.of_lists {s' : FinanceDb} (h : Sound s) (hbills : s'.bills = s.bills)
    (hrelations : s'.relations = s.relations) : Sound s' := by
  unfold Sound
  rw [hbills, hrelations]
  exact h

theorem updateStage_sound (ol : OrderList) : Preserves Sound ol.updateStage := by
  intro s h
  rcases updateStage_cases ol s with hsame | ⟨row, _, hsaved⟩
  · rw [hsame]
    exact h
  · rw [hsaved]
    exact h.of_lists rfl rfl

theorem get_sound (id : Nat) {f : OrderList → FinanceTx Unit} (hf : ∀ ol, Preserves Sound (f ol)) :
    Preserves Sound (OrderList.get id >>= f) :=
  Preserves.getOr_bind fun s ol h _ => hf ol s h

theorem save_sound (bill : Bill) (h : Sound s) : Sound { s with bills := s.bills.save bill } :=
  fun r hr => Table.exists_pk_save bill (h r hr)

theorem relateOnce_sound (merged : Nat) (r : BillRelation) :
    Preserves (fun s => Sound s ∧ ∃ bill ∈ s.bills, bill.id = merged)
      (Bill.relateOnce merged r) := by
  rintro s ⟨h, hmerged⟩
  unfold Bill.relateOnce
  rw [gets_bind_run]
  split
  · exact ⟨h, hmerged⟩
  · refine ⟨?_, hmerged⟩
    intro r' hr'
    rcases Table.mem_insert.1 hr' with hr' | rfl
    · exact h r' hr'
    · exact hmerged

theorem mergeTo_sound (merged : Nat) (bill : Bill) :
    Preserves (fun s => Sound s ∧ ∃ bill ∈ s.bills, bill.id = merged) (bill.mergeTo merged) := by
  intro s h
  unfold Bill.mergeTo
  rw [gets_bind_run]
  have hcopy : Preserves (fun s => Sound s ∧ ∃ bill ∈ s.bills, bill.id = merged)
      (forEach (bill.relations s) (Bill.relateOnce merged)) :=
    Preserves.forEach fun r _ => relateOnce_sound merged r
  refine Preserves.after (I := fun s => Sound s ∧ ∃ bill ∈ s.bills, bill.id = merged)
    (hcopy s h) ?_
  intro _
  apply Preserves.modify
  rintro t ⟨ht, hmerged⟩
  exact ⟨save_sound _ ht, Table.exists_pk_save _ hmerged⟩

theorem updateOf_sound (r : BillRelation) : Preserves Sound (updateOf r) := by
  unfold updateOf
  cases r.type with
  | dinghuoPay => exact get_sound r.objectId updateStage_sound
  | dinghuoReceive => exact get_sound r.objectId updateStage_sound
  | returngoodsReceive => exact Preserves.pure ()

theorem sound_exec (event : Event) (h : Sound s) : Sound (event.exec s) := by
  cases event with
  | setStagePay id payWay => exact get_sound id (fun _ _ h => h.of_lists rfl rfl) s h
  | setStageReceive id payWay => exact get_sound id (fun _ _ h => h.of_lists rfl rfl) s h
  | updateStage id => exact get_sound id updateStage_sound s h
  | setArrivalQuantity detail arrival inferior =>
    rcases setArrivalQuantity_cases detail arrival inferior s with
      hrun | ⟨od, _, _, hrun | ⟨ol, _, _, _, hrun⟩⟩
    · rw [hrun]
      exact h
    · rw [hrun]
      exact h.of_lists rfl rfl
    · rw [hrun]
      exact h.of_lists rfl rfl
  | createBill lists relation bill =>
    obtain ⟨relations, hrun, hspec⟩ := createBill_run lists relation bill s
    rw [hrun]
    intro r hr
    rcases hspec r hr with hr | ⟨hbill, _, _⟩
    · obtain ⟨b, hb, hid⟩ := h r hr
      exact ⟨b, Table.mem_insert.2 (.inl hb), hid⟩
    · exact ⟨s.bills.stored bill, Table.mem_insert.2 (.inr rfl), hbill.symm⟩
  | mergeBills ids =>
    rcases mergeBills_cases ids s with hrun | ⟨bills, _, hrun⟩
    · rw [hrun]
      exact h
    · rw [hrun]
      have hmerge : Preserves (fun t => Sound t ∧ ∃ bill ∈ t.bills, bill.id = s.bills.nextId)
          (forEach bills (Bill.mergeTo s.bills.nextId)) :=
        Preserves.forEach fun bill _ => mergeTo_sound _ bill
      refine (hmerge _ ⟨?_, ?_⟩).1
      · intro r hr
        obtain ⟨b, hb, hid⟩ := h r hr
        exact ⟨b, Table.mem_insert.2 (.inl hb), hid⟩
      · exact ⟨_, Table.mem_insert.2 (.inr rfl), rfl⟩
  | finishBill id =>
    rcases finishBill_cases id s with hrun | ⟨bill, _, _, hrun⟩
    · rw [hrun]
      exact h
    · rw [hrun]
      have hupdate : Preserves Sound (forEach (bill.relations s) updateOf) :=
        Preserves.forEach fun r _ => updateOf_sound r
      exact hupdate _ (save_sound _ h)

theorem complete_exec {list : Nat} (event : Event) (hsound : Sound s) (h : Complete list s)
    (htimely : Timely list s event) : Complete list (event.exec s) := by
  cases event with
  | setStagePay id payWay => exact setStagePay_complete id payWay h
  | setStageReceive id payWay => exact setStageReceive_complete id payWay h
  | updateStage id => exact updateStage_complete id h htimely
  | setArrivalQuantity detail arrival inferior =>
    exact setArrivalQuantity_complete detail arrival inferior h htimely
  | createBill lists relation bill => exact createBill_complete lists relation bill hsound h htimely
  | mergeBills ids => exact mergeBills_complete ids hsound h
  | finishBill id => exact finishBill_complete id h htimely

end Relations

/-! ## Two updates -/

section Live

variable {s : FinanceDb} {list : Nat} {ol : OrderList}

def OrderList.Closing (ol : OrderList) (s : FinanceDb) : Prop :=
  ol.Received s ∧ ol.isPostpay = false ∨ ol.AllFinished s

structure Next (s : FinanceDb) (ol row : OrderList) : Prop where
  pay : ol.stage = .pay → row.stage = .pay ∨ row.stage = .receive
  postpay : ol.stage = .receive ∨ ol.stage = .state → row.isPostpay = ol.isPostpay
  receive : ol.stage = .receive →
    ol.Received s ∧ row.stage = .state ∨ ¬ ol.Received s ∧ row.stage = .receive
  state : ol.stage = .state →
    ol.Closing s ∧ row.stage = .completed ∨ ¬ ol.Closing s ∧ row.stage = .state
  other : ol.stage = .draft ∨ ol.stage = .checked ∨ ol.stage = .completed ∨ ol.stage = .deleted →
    row.stage = ol.stage

theorem lackOf_eq_iff (harrived : Arrived s ol.id) :
    OrderList.lackOf (ol.details s) = some false ↔ ol.Received s := by
  unfold OrderList.lackOf OrderList.Received
  have hnone : (ol.details s).any (fun od => 0 < od.needArrivalQuantity) = false := by
    rw [List.any_eq_false]
    intro od hod
    obtain ⟨hmem, hlist⟩ := List.mem_filter.1 hod
    have hzero := harrived od hmem (of_decide_eq_true hlist)
    simp [hzero]
  rw [hnone]
  split <;> simp_all

theorem next_saved {m : FinanceTx Unit} (hol : ol ∈ s.orderLists) (row : OrderList)
    (hid : row.id = ol.id) (hnext : Next s ol row)
    (hrun : (m.run s).2 = { s with orderLists := s.orderLists.save row }) :
    ∃ lists : Table OrderList, ∃ row ∈ lists, row.id = ol.id ∧ Next s ol row ∧
      (m.run s).2 = { s with orderLists := lists } :=
  ⟨_, row, Table.mem_save_self hol hid.symm, hid, hnext, hrun⟩

theorem next_same {m : FinanceTx Unit} (hol : ol ∈ s.orderLists) (hnext : Next s ol ol)
    (hrun : (m.run s).2 = s) :
    ∃ lists : Table OrderList, ∃ row ∈ lists, row.id = ol.id ∧ Next s ol row ∧
      (m.run s).2 = { s with orderLists := lists } :=
  ⟨s.orderLists, ol, hol, rfl, hnext, hrun⟩

theorem updateStage_next (hol : ol ∈ s.orderLists) (harrived : Arrived s ol.id) :
    ∃ lists : Table OrderList, ∃ row ∈ lists, row.id = ol.id ∧ Next s ol row ∧
      (ol.updateStage.run s).2 = { s with orderLists := lists } := by
  cases hstage : ol.stage with
  | pay =>
    have hpay : ∀ row : OrderList, row.stage = .pay ∨ row.stage = .receive → Next s ol row := by
      intro row hrow
      constructor <;> simp [hstage, hrow]
    unfold OrderList.updateStage
    rw [hstage]
    simp only
    rw [getOr_bind_run]
    cases ol.bill s with
    | none => exact ⟨s.orderLists, ol, hol, rfl, hpay ol (.inl hstage), rfl⟩
    | some bill =>
      by_cases hfinished : bill.isFinished = true
      · simp only [if_pos hfinished]
        exact next_saved hol { ol with stage := .receive, isPostpay := ol.billMethod = .cod }
          rfl (hpay _ (.inr rfl)) rfl
      · simp only [if_neg hfinished]
        exact next_same hol (hpay ol (.inl hstage)) rfl
  | receive =>
    unfold OrderList.updateStage
    rw [hstage]
    simp only
    rw [gets_bind_run, setStat_lack (.inl hstage)]
    by_cases hreceived : ol.Received s
    · rw [if_pos ((lackOf_eq_iff harrived).2 hreceived)]
      refine next_saved hol { (ol.setStat s).1 with
        stage := .state
        arrivalProcess := .finished } (setStat_id ol) ?_ rfl
      constructor <;> simp [hstage, hreceived, setStat_isPostpay]
    · have hwaits : ∀ row : OrderList, row.stage = .receive → row.isPostpay = ol.isPostpay →
          Next s ol row := by
        intro row hrow hpostpay
        constructor <;> simp [hstage, hreceived, hrow, hpostpay]
      rw [if_neg (fun h => hreceived ((lackOf_eq_iff harrived).1 h))]
      by_cases hchange : (ol.setStat s).2 = true
      · rw [if_pos hchange]
        exact next_saved hol (ol.setStat s).1 (setStat_id ol)
          (hwaits _ ((setStat_stage ol).trans hstage) (setStat_isPostpay ol)) rfl
      · rw [if_neg hchange]
        exact next_same hol (hwaits ol hstage rfl) rfl
  | state =>
    unfold OrderList.updateStage
    rw [hstage]
    simp only
    rw [gets_bind_run, gets_bind_run, setStat_lack (.inr hstage), setStat_isPostpay]
    have hcloses : ol.Closing s → Next s ol { (ol.setStat s).1 with stage := .completed } := by
      intro hclosing
      constructor <;> simp [hstage, hclosing, setStat_isPostpay]
    have hlack := lackOf_eq_iff harrived
    by_cases hprepaid : OrderList.lackOf (ol.details s) = some false ∧ ol.isPostpay = false
    · rw [if_pos hprepaid]
      exact next_saved hol { (ol.setStat s).1 with stage := .completed } (setStat_id ol)
        (hcloses (.inl ⟨hlack.1 hprepaid.1, hprepaid.2⟩)) rfl
    · rw [if_neg hprepaid]
      by_cases hbills : ol.bills s ≠ [] ∧ (ol.bills s).all Bill.isFinished = true
      · rw [if_pos hbills]
        exact next_saved hol { (ol.setStat s).1 with stage := .completed } (setStat_id ol)
          (hcloses (.inr hbills)) rfl
      · rw [if_neg hbills]
        have hopen : ¬ ol.Closing s := by
          rintro (⟨hreceived, hpostpay⟩ | hfinished)
          · exact hprepaid ⟨hlack.2 hreceived, hpostpay⟩
          · exact hbills hfinished
        have hwaits : ∀ row : OrderList, row.stage = .state → row.isPostpay = ol.isPostpay →
            Next s ol row := by
          intro row hrow hpostpay
          constructor <;> simp [hstage, hopen, hrow, hpostpay]
        by_cases hchange : (ol.setStat s).2 = true
        · rw [if_pos hchange]
          exact next_saved hol (ol.setStat s).1 (setStat_id ol)
            (hwaits _ ((setStat_stage ol).trans hstage) (setStat_isPostpay ol)) rfl
        · rw [if_neg hchange]
          exact next_same hol (hwaits ol hstage rfl) rfl
  | draft =>
    refine next_same hol ?_ ?_
    · constructor <;> simp [hstage]
    · simp [OrderList.updateStage, hstage]
  | checked =>
    refine next_same hol ?_ ?_
    · constructor <;> simp [hstage]
    · simp [OrderList.updateStage, hstage]
  | completed =>
    refine next_same hol ?_ ?_
    · constructor <;> simp [hstage]
    · simp [OrderList.updateStage, hstage]
  | deleted =>
    refine next_same hol ?_ ?_
    · constructor <;> simp [hstage]
    · simp [OrderList.updateStage, hstage]

theorem update_next (hol : ol ∈ s.orderLists) (hid : ol.id = list) (harrived : Arrived s list) :
    ∃ lists : Table OrderList, ∃ row ∈ lists, row.id = list ∧ Next s ol row ∧
      (Event.updateStage list).exec s = { s with orderLists := lists } := by
  subst hid
  obtain ⟨lists, row, hrow, hrowId, hnext, hrun⟩ := updateStage_next hol harrived
  refine ⟨lists, row, hrow, hrowId, hnext, ?_⟩
  unfold Event.exec Event.program OrderList.get
  have hget : s.orderLists.get? ol.id = some ol := Table.get?_eq_some.2 ⟨hol, rfl⟩
  rw [getOr_bind_run, hget]
  exact hrun

theorem received_of_id {lists : Table OrderList} {row : OrderList} (hid : row.id = ol.id) :
    row.Received { s with orderLists := lists } ↔ ol.Received s := by
  unfold OrderList.Received OrderList.details
  rw [hid]

theorem closing_of_id {lists : Table OrderList} {row : OrderList} (hid : row.id = ol.id)
    (hpostpay : row.isPostpay = ol.isPostpay) :
    row.Closing { s with orderLists := lists } ↔ ol.Closing s := by
  unfold OrderList.Closing OrderList.AllFinished OrderList.bills
  rw [received_of_id hid, hpostpay, hid]

theorem completesInTwo_iff (hol : ol ∈ s.orderLists) (hid : ol.id = list)
    (harrived : Arrived s list) : CompletesInTwo list s ↔ ol.Ready s := by
  obtain ⟨lists, row, hrow, hrowId, hfirst, hrun⟩ := update_next hol hid harrived
  obtain ⟨lists', row', hrow', hrowId', hsecond, hrun'⟩ :=
    update_next (s := { s with orderLists := lists }) hrow hrowId harrived
  have hend : CompletesInTwo list s ↔ row'.stage = .completed := by
    unfold CompletesInTwo
    simp only [run_cons, run_nil, hrun, hrun']
    constructor
    · rintro ⟨found, hfound, hfoundId, hcompleted⟩
      rw [← Table.pk_inj hfound hrow' (hfoundId.trans hrowId'.symm)]
      exact hcompleted
    · intro hcompleted
      exact ⟨row', hrow', hrowId', hcompleted⟩
  have hsame : row.id = ol.id := hrowId.trans hid.symm
  rw [hend]
  unfold OrderList.Ready
  cases hstage : ol.stage with
  | pay =>
    simp only [iff_false]
    rcases hfirst.pay hstage with hrowStage | hrowStage
    · rcases hsecond.pay hrowStage with h | h <;> rw [h] <;> simp
    · rcases hsecond.receive hrowStage with ⟨_, h⟩ | ⟨_, h⟩ <;> rw [h] <;> simp
  | receive =>
    simp only
    rcases hfirst.receive hstage with ⟨hreceived, hrowStage⟩ | ⟨hreceived, hrowStage⟩
    · have hclosing : row.Closing { s with orderLists := lists } ↔ ol.Closing s :=
        closing_of_id hsame (hfirst.postpay (.inl hstage))
      have hready : ol.Closing s ↔ ol.Received s ∧ (ol.isPostpay = false ∨ ol.AllFinished s) := by
        unfold OrderList.Closing
        tauto
      rw [← hready, ← hclosing]
      rcases hsecond.state hrowStage with ⟨hclose, h⟩ | ⟨hclose, h⟩ <;> simp [h, hclose]
    · rcases hsecond.receive hrowStage with ⟨_, h⟩ | ⟨_, h⟩ <;> simp [h, hreceived]
  | state =>
    simp only
    rcases hfirst.state hstage with ⟨hclose, hrowStage⟩ | ⟨hclose, hrowStage⟩
    · rw [hsecond.other (.inr (.inr (.inl hrowStage))), hrowStage]
      exact iff_of_true rfl hclose
    · have hclosing : row.Closing { s with orderLists := lists } ↔ ol.Closing s :=
        closing_of_id hsame (hfirst.postpay (.inr hstage))
      have hready : ol.Closing s ↔ ol.Received s ∧ ol.isPostpay = false ∨ ol.AllFinished s :=
        Iff.rfl
      rw [← hready, ← hclosing]
      rcases hsecond.state hrowStage with ⟨hagain, h⟩ | ⟨hagain, h⟩ <;> simp [h, hagain]
  | draft =>
    rw [hsecond.other (.inl ((hfirst.other (.inl hstage)).trans hstage)),
      hfirst.other (.inl hstage), hstage]
    simp
  | checked =>
    rw [hsecond.other (.inr (.inl ((hfirst.other (.inr (.inl hstage))).trans hstage))),
      hfirst.other (.inr (.inl hstage)), hstage]
    simp
  | completed =>
    have hfirstStage := hfirst.other (.inr (.inr (.inl hstage)))
    rw [hsecond.other (.inr (.inr (.inl (hfirstStage.trans hstage)))), hfirstStage, hstage]
    simp
  | deleted =>
    have hfirstStage := hfirst.other (.inr (.inr (.inr hstage)))
    rw [hsecond.other (.inr (.inr (.inr (hfirstStage.trans hstage)))), hfirstStage, hstage]
    simp

end Live

/-- In a run of timely events a list is completed only with its goods and payments; and in
every state of it two updates complete a settled list exactly if it is ready. -/
theorem settlement_throughout (list : Nat) (events : List Event) (s : FinanceDb)
    (hsound : Sound s) (h : Complete list s)
    (htimely : Guarded Event.exec (Timely list) events s) :
    Throughout Event.exec (fun s => Complete list s ∧
      ∀ ol ∈ s.orderLists, ol.id = list → Settled list s →
        (CompletesInTwo list s ↔ ol.Ready s)) events s := by
  have hrun : Throughout Event.exec (fun s => Sound s ∧ Complete list s) events s := by
    refine throughout_of_guarded ?_ events s ⟨hsound, h⟩ htimely
    rintro s event ⟨hsound, h⟩ htimely
    exact ⟨sound_exec event hsound, complete_exec event hsound h htimely⟩
  intro done hdone
  refine ⟨(hrun done hdone).2, ?_⟩
  intro ol hol hid hsettled
  exact completesInTwo_iff hol hid hsettled.1

def sampleList : OrderList where
  id := 1
  stage := .receive
  billMethod := .cod
  isPostpay := true
  lack := none
  inferior := false
  arrivalProcess := .notArrived

def sampleBill (amount : Int) : Bill where
  id := 0
  type := .pay
  status := .pending
  planAmount := amount
  payMethod := .transferPay
  supplierId := some 7

def sampleFinance : FinanceDb where
  orderLists := Table.empty.insert sampleList
  orderDetails := Table.empty.insert ⟨1, 1, 2, 0, 0⟩
  bills := Table.empty
  relations := Table.empty

theorem sampleFinance_sound : Sound sampleFinance := by
  intro r hr
  cases hr

theorem settlement_paid_first :
    Throughout Event.exec (fun s => Complete 1 s ∧
      ∀ ol ∈ s.orderLists, ol.id = 1 → Settled 1 s → (CompletesInTwo 1 s ↔ ol.Ready s))
      [.createBill [1] .dinghuoPay (sampleBill 500), .finishBill 1, .setArrivalQuantity 1 2 0]
      sampleFinance :=
  settlement_throughout 1 _ sampleFinance sampleFinance_sound (by decide +kernel)
    (by decide +kernel)

/-- The last arrival completes the list while its bill is pending; and a list whose two
bills were merged, the merged one finished and the goods arrived, is not completed by two
updates. -/
theorem settlement_fail :
    ¬ Complete 1 (run Event.exec
        [.createBill [1] .dinghuoPay (sampleBill 500), .setArrivalQuantity 1 2 0]
        sampleFinance) ∧
      Settled 1 (run Event.exec
        [.createBill [1] .dinghuoPay (sampleBill 300), .createBill [1] .dinghuoPay (sampleBill 200),
          .mergeBills [1, 2], .finishBill 3, .setArrivalQuantity 1 3 0] sampleFinance) ∧
      ¬ CompletesInTwo 1 (run Event.exec
        [.createBill [1] .dinghuoPay (sampleBill 300), .createBill [1] .dinghuoPay (sampleBill 200),
          .mergeBills [1, 2], .finishBill 3, .setArrivalQuantity 1 3 0] sampleFinance) := by
  refine ⟨?_, ?_, ?_⟩ <;> decide +kernel

end ShopManager.Finance
