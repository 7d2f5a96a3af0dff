import ShopManager.Basic
import ShopManager.Library.Aggregate
import ShopManager.Library.Execution
import ShopManager.Library.Transaction

/-!
# Cash-outs

A mama's fortune keeps a counter of what she has cashed out.  Each request works on a
copy of the cash-out it read earlier: the check of the status is made on the copy, and
the whole copy is written back.
-/

namespace ShopManager.Mama

open Library Library.Tx Library.Execution

inductive CashOutStatus where
  | pending
  | approved
  | rejected
  | completed
  | cancel
  | sendfail
  deriving DecidableEq, Repr

inductive CashOutType where
  | renew
  | budget
  | red
  | coupon
  deriving DecidableEq, Repr

def CashOutType.code : CashOutType → String
  | renew => "renew"
  | budget => "budget"
  | red => "red"
  | coupon => "coupon"

structure CashOut where
  id : Nat
  xlmm : Nat
  value : Int
  status : CashOutStatus
  approveTime : Option Nat
  cashOutType : CashOutType
  dateField : Date
  uniKey : String
  deriving DecidableEq, Repr

instance : Row CashOut where
  pk := CashOut.id
  withPk n cashOut := { cashOut with id := n }

/-- The cash-outs, and the column `carry_cashout` of the fortune of each mama who has one. -/
structure CashOutDb where
  cashOuts : Table CashOut
  fortunes : Nat → Option Int

abbrev CashOutTx (α : Type) := Tx CashOutDb Exn α

namespace CashOutDb

def saveCashOut (s : CashOutDb) (cashOut : CashOut) : CashOutDb :=
  { s with cashOuts := s.cashOuts.save cashOut }

def addCashOut (s : CashOutDb) (cashOut : CashOut) : CashOutDb :=
  { s with cashOuts := s.cashOuts.insert cashOut }

def moveCarry (s : CashOutDb) (mamaId : Nat) (delta : Int) : CashOutDb :=
  { s with fortunes := Function.update s.fortunes mamaId ((s.fortunes mamaId).map (· + delta)) }

end CashOutDb

namespace CashOut

/-- The write `F('carry_cashout') + delta`, for a mama who must have a fortune. -/
def addCarryCashout (mamaId : Nat) (delta : Int) : CashOutTx Unit := do
  let _ ← getOr .attributeError fun s => s.fortunes mamaId
  modify fun s => s.moveCarry mamaId delta

def genUniKey (s : CashOutDb) (today : Date) (mamaId : Nat) (cashOutType : CashOutType) :
    String :=
  let count := (s.cashOuts.filter fun cashOut =>
    cashOut.xlmm = mamaId ∧ cashOut.cashOutType = cashOutType ∧ cashOut.dateField = today).length
  cashOutType.code ++ "-" ++ toString mamaId ++ "-" ++ toString (count + 1) ++ "|" ++
    today.isoformat

/-- The object that `create` makes, pending from the start. -/
def requested (s : CashOutDb) (today : Date) (mamaId : Nat) (value : Int)
    (cashOutType : CashOutType) (uniKey : Option String) : CashOut where
  id := 0
  xlmm := mamaId
  value := value
  status := .pending
  approveTime := none
  cashOutType := cashOutType
  dateField := today
  uniKey := (uniKey.filter (· ≠ "")).getD (genUniKey s today mamaId cashOutType)

def create (today : Date) (mamaId : Nat) (value : Int) (cashOutType : CashOutType)
    (uniKey : Option String) : CashOutTx CashOut := do
  let cashOut ← gets fun s => requested s today mamaId value cashOutType uniKey
  atomic do
    let taken ← gets fun s =>
      (s.cashOuts.first fun row => row.uniKey = cashOut.uniKey).isSome
    raiseIf (taken = true) .integrityError
    let stored ← gets fun s => s.cashOuts.stored cashOut
    modify fun s => s.addCashOut cashOut
    addCarryCashout mamaId value
    pure stored

/-- The three ways to end a cash-out: the copy must have the `required` status, and the
value leaves the counter. -/
def close (required next : CashOutStatus) (self : CashOut) : CashOutTx Bool :=
  if self.status ≠ required then pure false
  else atomic do
    modify fun s => s.saveCashOut { self with status := next }
    addCarryCashout self.xlmm (-self.value)
    pure true

def cancelCashout (self : CashOut) : CashOutTx Bool := close .pending .cancel self

def rejectCashout (self : CashOut) : CashOutTx Bool := close .pending .rejected self

def failAndReturn (self : CashOut) : CashOutTx Bool := close .approved .sendfail self

def approveCashout (now : Nat) (self : CashOut) : CashOutTx Bool :=
  if self.status ≠ .pending then pure false
  else do
    modify fun s => s.saveCashOut { self with status := .approved, approveTime := some now }
    pure true

def isEnded (cashOut : CashOut) : Bool :=
  cashOut.status = .cancel || cashOut.status = .rejected || cashOut.status = .sendfail

def liveValue (cashOut : CashOut) : Int := if cashOut.isEnded then 0 else cashOut.value

end CashOut

/-! ## Requests on copies -/

inductive CashOutOp where
  | create (request : Nat) (today : Date) (mamaId : Nat) (value : Int)
      (cashOutType : CashOutType) (uniKey : Option String)
  | read (request cashOutId : Nat)
  | cancel (request : Nat)
  | reject (request : Nat)
  | approve (request now : Nat)
  | fail (request : Nat)
  deriving Repr

/-- The tables, the copy that each request holds, and the cash-outs that have ever been
cancelled, rejected or failed. -/
structure CashOutRequests where
  db : CashOutDb
  copies : Nat → Option CashOut
  ended : Nat → Bool

namespace CashOutRequests

def start (db : CashOutDb) : CashOutRequests where
  db := db
  copies _ := none
  ended cashOutId := (db.cashOuts.get? cashOutId).any CashOut.isEnded

/-- The state after a request wrote `db` and holds `copy`. -/
def next (st : CashOutRequests) (request : Nat) (db : CashOutDb) (copy : Option CashOut) :
    CashOutRequests where
  db := db
  copies := Function.update st.copies request copy
  ended cashOutId := st.ended cashOutId || (db.cashOuts.get? cashOutId).any CashOut.isEnded

/-- A method runs on the copy of the request, whose status it changes whether or not the
transaction goes through. -/
def act (st : CashOutRequests) (request : Nat) (method : CashOut → CashOutTx Bool)
    (changed : CashOut → CashOut) : CashOutRequests :=
  match st.copies request with
  | none => st
  | some self => st.next request ((method self).run st.db).2 (some (changed self))

end CashOutRequests

namespace CashOutOp

/-- The status that the copy has after a method that requires `required`. -/
def copyAfter (required next : CashOutStatus) (self : CashOut) : CashOut :=
  if self.status = required then { self with status := next } else self

def exec (op : CashOutOp) (st : CashOutRequests) : CashOutRequests :=
  match op with
  | create request today mamaId value cashOutType uniKey =>
      let program := CashOut.create today mamaId value cashOutType uniKey
      st.next request (program.run st.db).2 ((program.run st.db).1.toOption)
  | read request cashOutId => st.next request st.db (st.db.cashOuts.get? cashOutId)
  | cancel request => st.act request CashOut.cancelCashout (copyAfter .pending .cancel)
  | reject request => st.act request CashOut.rejectCashout (copyAfter .pending .rejected)
  | approve request now =>
      st.act request (CashOut.approveCashout now) fun self =>
        if self.status = .pending then
          { self with status := .approved, approveTime := some now }
        else self
  | fail request => st.act request CashOut.failAndReturn (copyAfter .approved .sendfail)

end CashOutOp

namespace CashOutDb

def liveTotal (s : CashOutDb) (mamaId : Nat) : Int :=
  s.cashOuts.groupTotal CashOut.xlmm (fun (_ : Unit) cashOut => cashOut.liveValue) mamaId ()

def CarryAgrees (s : CashOutDb) : Prop :=
  ∀ mamaId carry, s.fortunes mamaId = some carry → carry = s.liveTotal mamaId

end CashOutDb

structure CashOutRequests.Settled (st : CashOutRequests) : Prop where
  carry : st.db.CarryAgrees
  ended : ∀ cashOutId cashOut, st.db.cashOuts.get? cashOutId = some cashOut →
    st.ended cashOutId = true → cashOut.status ≠ .approved

/-- A copy that passes the check of `close` belongs to a cash-out that has not ended, unless
nothing is at stake or there is no fortune. -/
def CloseSound (st : CashOutRequests) (request : Nat) (required : CashOutStatus) : Prop :=
  ∀ self row, st.copies request = some self → self.status = required →
    st.db.cashOuts.get? self.id = some row → (st.db.fortunes self.xlmm).isSome →
      row.isEnded = false ∨ self.value = 0

/-- A copy that passes the check of `approve_cashout` belongs to a cash-out that has not
ended. -/
def ApproveSound (st : CashOutRequests) (request : Nat) : Prop :=
  ∀ self row, st.copies request = some self → self.status = .pending →
    st.db.cashOuts.get? self.id = some row → row.isEnded = false

def CashOutOp.Sound (st : CashOutRequests) : CashOutOp → Prop
  | .create .. | .read .. => True
  | .cancel request | .reject request => CloseSound st request .pending
  | .approve request _ => ApproveSound st request
  | .fail request => CloseSound st request .approved

/-! ## What an operation leaves behind -/

namespace CashOutDb

variable {s : CashOutDb}

theorem get?_saveCashOut {cashOut row : CashOut} (h : s.cashOuts.get? cashOut.id = some row)
    (cashOutId : Nat) : (s.saveCashOut cashOut).cashOuts.get? cashOutId =
      if cashOutId = cashOut.id then some cashOut else s.cashOuts.get? cashOutId := by
  show (s.cashOuts.save cashOut).get? cashOutId = _
  rw [Table.get?_save]
  by_cases heq : cashOutId = cashOut.id
  · have hpk : cashOutId = Row.pk cashOut := heq
    rw [if_pos hpk, if_pos heq, heq, h]
    rfl
  · have hpk : ¬ cashOutId = Row.pk cashOut := heq
    rw [if_neg hpk, if_neg heq]

theorem liveTotal_saveCashOut {cashOut row : CashOut}
    (h : s.cashOuts.get? cashOut.id = some row) (hxlmm : cashOut.xlmm = row.xlmm)
    (mamaId : Nat) : (s.saveCashOut cashOut).liveTotal mamaId =
      s.liveTotal mamaId + if row.xlmm = mamaId then cashOut.liveValue - row.liveValue else 0 := by
  obtain ⟨hrow, hpk⟩ := Table.get?_eq_some.1 h
  exact Table.groupTotal_save hrow hpk hxlmm mamaId ()

theorem moveCarry_self {mamaId : Nat} {carry delta : Int} (h : s.fortunes mamaId = some carry) :
    (s.moveCarry mamaId delta).fortunes mamaId = some (carry + delta) := by
  show Function.update s.fortunes mamaId _ mamaId = _
  rw [Function.update_self, h]
  rfl

theorem moveCarry_of_ne {mamaId other : Nat} {delta : Int} (h : other ≠ mamaId) :
    (s.moveCarry mamaId delta).fortunes other = s.fortunes other :=
  Function.update_of_ne h ..

theorem carryAgrees_save_iff {cashOut row : CashOut} {carry delta : Int} (hs : s.CarryAgrees)
    (h : s.cashOuts.get? cashOut.id = some row) (hxlmm : cashOut.xlmm = row.xlmm)
    (hcarry : s.fortunes row.xlmm = some carry) :
    ((s.saveCashOut cashOut).moveCarry row.xlmm delta).CarryAgrees ↔
      delta = cashOut.liveValue - row.liveValue := by
  have hold := hs row.xlmm carry hcarry
  have hself : (s.saveCashOut cashOut).fortunes row.xlmm = some carry := hcarry
  have htotal : ∀ mamaId, ((s.saveCashOut cashOut).moveCarry row.xlmm delta).liveTotal mamaId =
      s.liveTotal mamaId + if row.xlmm = mamaId then cashOut.liveValue - row.liveValue else 0 :=
    liveTotal_saveCashOut h hxlmm
  constructor
  · intro hagrees
    have hnew := hagrees row.xlmm (carry + delta) (moveCarry_self hself)
    rw [htotal, if_pos rfl] at hnew
    omega
  · intro hdelta mamaId carry' hcarry'
    rw [htotal]
    by_cases hm : mamaId = row.xlmm
    · subst hm
      rw [moveCarry_self hself] at hcarry'
      have hvalue := Option.some.inj hcarry'
      rw [if_pos rfl]
      omega
    · rw [moveCarry_of_ne hm] at hcarry'
      rw [if_neg (Ne.symm hm), add_zero]
      exact hs mamaId carry' hcarry'

theorem carryAgrees_save_of_eq {cashOut row : CashOut} (hs : s.CarryAgrees)
    (h : s.cashOuts.get? cashOut.id = some row) (hxlmm : cashOut.xlmm = row.xlmm)
    (hvalue : cashOut.liveValue = row.liveValue) : (s.saveCashOut cashOut).CarryAgrees := by
  intro mamaId carry hcarry
  rw [liveTotal_saveCashOut h hxlmm, hvalue, sub_self, ite_self, add_zero]
  exact hs mamaId carry hcarry

end CashOutDb

namespace CashOut

theorem liveValue_of_ended {cashOut : CashOut} (h : cashOut.isEnded = true) :
    cashOut.liveValue = 0 := if_pos h

theorem liveValue_of_live {cashOut : CashOut} (h : cashOut.isEnded = false) :
    cashOut.liveValue = cashOut.value := by
  unfold liveValue
  rw [h]
  rfl

theorem addCarryCashout_some {s : CashOutDb} {mamaId : Nat} {carry : Int} (delta : Int)
    (h : s.fortunes mamaId = some carry) :
    (addCarryCashout mamaId delta).run s = (.ok (), s.moveCarry mamaId delta) := by
  unfold addCarryCashout
  rw [getOr_bind_run, h]
  rfl

theorem addCarryCashout_none {s : CashOutDb} {mamaId : Nat} (delta : Int)
    (h : s.fortunes mamaId = none) :
    (addCarryCashout mamaId delta).run s = (.error .attributeError, s) := by
  unfold addCarryCashout
  rw [getOr_bind_run, h]

theorem close_db (required next : CashOutStatus) (self : CashOut) (s : CashOutDb) :
    ((close required next self).run s).2 =
      if self.status = required ∧ (s.fortunes self.xlmm).isSome then
        (s.saveCashOut { self with status := next }).moveCarry self.xlmm (-self.value)
      else s := by
  unfold close
  by_cases hstatus : self.status = required
  · rw [if_neg (not_not_intro hstatus)]
    cases hfortune : s.fortunes self.xlmm with
    | none =>
      rw [if_neg (by simp), atomic_error]
      rw [modify_bind_run]
      exact bind_error (addCarryCashout_none _ hfortune)
    | some carry =>
      rw [if_pos ⟨hstatus, rfl⟩, atomic_ok]
      rw [modify_bind_run]
      exact bind_ok (addCarryCashout_some _ hfortune)
  · rw [if_pos hstatus, if_neg (fun h => hstatus h.1), pure_run]

theorem approve_db (now : Nat) (self : CashOut) (s : CashOutDb) :
    ((approveCashout now self).run s).2 =
      if self.status = .pending then
        s.saveCashOut { self with status := .approved, approveTime := some now }
      else s := by
  unfold approveCashout
  by_cases hstatus : self.status = .pending
  · rw [if_neg (not_not_intro hstatus), if_pos hstatus]
    rfl
  · rw [if_pos hstatus, if_neg hstatus, pure_run]

theorem create_cases (today : Date) (mamaId : Nat) (value : Int) (cashOutType : CashOutType)
    (uniKey : Option String) (s : CashOutDb) :
    (∃ cashOut carry, cashOut.status = .pending ∧ cashOut.xlmm = mamaId ∧
      cashOut.value = value ∧ s.fortunes mamaId = some carry ∧
        (create today mamaId value cashOutType uniKey).run s =
          (.ok (s.cashOuts.stored cashOut),
            (s.addCashOut cashOut).moveCarry mamaId value)) ∨
      (∃ e, (create today mamaId value cashOutType uniKey).run s = (.error e, s)) := by
  unfold create
  rw [gets_bind_run]
  generalize hrequested : requested s today mamaId value cashOutType uniKey = cashOut
  by_cases htaken : (s.cashOuts.first fun row => row.uniKey = cashOut.uniKey).isSome = true
  · refine Or.inr ⟨.integrityError, atomic_raise ?_⟩
    rw [gets_bind_run, raiseIf_bind_run, if_pos htaken]
  · cases hfortune : s.fortunes mamaId with
    | none =>
      refine Or.inr ⟨.attributeError, ?_⟩
      rw [atomic_error]
      rw [gets_bind_run, raiseIf_bind_run, if_neg htaken, gets_bind_run, modify_bind_run]
      exact bind_error (addCarryCashout_none _ hfortune)
    | some carry =>
      have hstatus : cashOut.status = .pending := by
        rw [← hrequested]
        rfl
      have hxlmm : cashOut.xlmm = mamaId := by
        rw [← hrequested]
        rfl
      have hvalue : cashOut.value = value := by
        rw [← hrequested]
        rfl
      refine Or.inl ⟨cashOut, carry, hstatus, hxlmm, hvalue, rfl, atomic_ok ?_⟩
      rw [gets_bind_run, raiseIf_bind_run, if_neg htaken, gets_bind_run, modify_bind_run]
      exact bind_ok (addCarryCashout_some _ hfortune)

end CashOut

/-! ## One operation -/

def CopyOf (s : CashOutDb) (self : CashOut) : Prop :=
  ∃ row, s.cashOuts.get? self.id = some row ∧ self.xlmm = row.xlmm ∧ self.value = row.value

namespace CashOutRequests

/-- What holds between operations: the copies name their cash-outs, and the cash-outs that
have ended once are ended or approved. -/
structure Tracked (st : CashOutRequests) : Prop where
  copies : ∀ request self, st.copies request = some self → CopyOf st.db self
  ended : ∀ cashOutId, st.ended cashOutId = true → ∃ row,
    st.db.cashOuts.get? cashOutId = some row ∧ (row.isEnded = true ∨ row.status = .approved)
  noted : ∀ cashOutId row, st.db.cashOuts.get? cashOutId = some row → row.isEnded = true →
    st.ended cashOutId = true

theorem start_tracked (db : CashOutDb) : (start db).Tracked where
  copies _ _ h := by cases h
  ended cashOutId h := by
    obtain ⟨row, hrow, hended⟩ := (Option.any_eq_true ..).1 h
    exact ⟨row, hrow, Or.inl hended⟩
  noted cashOutId row hrow hended := (Option.any_eq_true ..).2 ⟨row, hrow, hended⟩

theorem start_settled {db : CashOutDb} (h : db.CarryAgrees) : (start db).Settled where
  carry := h
  ended cashOutId cashOut hget hended := by
    obtain ⟨row, hrow, hrowended⟩ := (Option.any_eq_true ..).1 hended
    obtain rfl := Option.some.inj (hrow.symm.trans hget)
    intro happroved
    simp [CashOut.isEnded, happroved] at hrowended

variable {st : CashOutRequests} {request : Nat}

theorem next_ended {db : CashOutDb} {copy : Option CashOut} {cashOutId : Nat} :
    (st.next request db copy).ended cashOutId = true ↔ st.ended cashOutId = true ∨
      ∃ row, db.cashOuts.get? cashOutId = some row ∧ row.isEnded = true := by
  show (st.ended cashOutId || (db.cashOuts.get? cashOutId).any CashOut.isEnded) = true ↔ _
  rw [Bool.or_eq_true, Option.any_eq_true]

theorem Tracked.next_same (ht : st.Tracked) {copy : Option CashOut}
    (hcopy : ∀ self, copy = some self → CopyOf st.db self) :
    (st.next request st.db copy).Tracked where
  copies r self h := by
    by_cases hr : r = request
    · have hself : Function.update st.copies request copy r = some self := h
      rw [hr, Function.update_self] at hself
      exact hcopy self hself
    · have hself : Function.update st.copies request copy r = some self := h
      rw [Function.update_of_ne hr] at hself
      exact ht.copies r self hself
  ended cashOutId h := by
    rcases next_ended.1 h with hold | ⟨row, hrow, hended⟩
    · exact ht.ended cashOutId hold
    · exact ⟨row, hrow, Or.inl hended⟩
  noted cashOutId row hrow hended := next_ended.2 (Or.inl (ht.noted cashOutId row hrow hended))

theorem Settled.next_same (hs : st.Settled) (ht : st.Tracked) (copy : Option CashOut) :
    (st.next request st.db copy).Settled where
  carry := hs.carry
  ended cashOutId cashOut hget h := by
    rcases next_ended.1 h with hold | ⟨row, hrow, hended⟩
    · exact hs.ended cashOutId cashOut hget hold
    · exact hs.ended cashOutId cashOut hget (ht.noted cashOutId row hrow hended)

section Save

variable {cashOut row : CashOut} {db : CashOutDb} (hrow : st.db.cashOuts.get? cashOut.id = some row)
  (hdb : db.cashOuts = (st.db.saveCashOut cashOut).cashOuts)

include hrow hdb

theorem get?_of_save (cashOutId : Nat) : db.cashOuts.get? cashOutId =
    if cashOutId = cashOut.id then some cashOut else st.db.cashOuts.get? cashOutId := by
  rw [hdb]
  exact CashOutDb.get?_saveCashOut hrow cashOutId

theorem copyOf_save (hxlmm : cashOut.xlmm = row.xlmm) (hvalue : cashOut.value = row.value)
    {self : CashOut} (h : CopyOf st.db self) : CopyOf db self := by
  obtain ⟨row', hrow', hxlmm', hvalue'⟩ := h
  by_cases hid : self.id = cashOut.id
  · rw [hid] at hrow'
    obtain rfl := Option.some.inj (hrow.symm.trans hrow')
    refine ⟨cashOut, ?_, hxlmm'.trans hxlmm.symm, hvalue'.trans hvalue.symm⟩
    rw [get?_of_save hrow hdb, if_pos hid]
  · refine ⟨row', ?_, hxlmm', hvalue'⟩
    rw [get?_of_save hrow hdb, if_neg hid, hrow']

theorem Tracked.next_save (ht : st.Tracked) (hxlmm : cashOut.xlmm = row.xlmm)
    (hvalue : cashOut.value = row.value)
    (hstatus : cashOut.isEnded = true ∨ cashOut.status = .approved) :
    (st.next request db (some cashOut)).Tracked where
  copies r self h := by
    by_cases hr : r = request
    · have hself : Function.update st.copies request (some cashOut) r = some self := h
      rw [hr, Function.update_self] at hself
      obtain rfl := Option.some.inj hself
      exact copyOf_save hrow hdb hxlmm hvalue ⟨row, hrow, hxlmm, hvalue⟩
    · have hself : Function.update st.copies request (some cashOut) r = some self := h
      rw [Function.update_of_ne hr] at hself
      exact copyOf_save hrow hdb hxlmm hvalue (ht.copies r self hself)
  ended cashOutId h := by
    rcases next_ended.1 h with hold | ⟨row', hrow', hended⟩
    · obtain ⟨row', hrow', hended⟩ := ht.ended cashOutId hold
      by_cases hid : cashOutId = cashOut.id
      · refine ⟨cashOut, ?_, hstatus⟩
        show db.cashOuts.get? cashOutId = _
        rw [get?_of_save hrow hdb, if_pos hid]
      · refine ⟨row', ?_, hended⟩
        show db.cashOuts.get? cashOutId = _
        rw [get?_of_save hrow hdb, if_neg hid, hrow']
    · exact ⟨row', hrow', Or.inl hended⟩
  noted cashOutId row' hrow' hended := next_ended.2 (Or.inr ⟨row', hrow', hended⟩)

theorem settled_next_save_iff (hs : st.Settled) (ht : st.Tracked) :
    (st.next request db (some cashOut)).Settled ↔ db.CarryAgrees ∧
      (st.ended cashOut.id = true → cashOut.status ≠ .approved) := by
  constructor
  · intro hs'
    refine ⟨hs'.carry, fun hended => ?_⟩
    apply hs'.ended cashOut.id cashOut
    · show db.cashOuts.get? cashOut.id = _
      rw [get?_of_save hrow hdb, if_pos rfl]
    · exact next_ended.2 (Or.inl hended)
  · rintro ⟨hcarry, hpast⟩
    refine ⟨hcarry, ?_⟩
    intro cashOutId cashOut' hget h
    have hget' : db.cashOuts.get? cashOutId = some cashOut' := hget
    rw [get?_of_save hrow hdb] at hget'
    by_cases hid : cashOutId = cashOut.id
    · rw [if_pos hid] at hget'
      obtain rfl := Option.some.inj hget'
      rcases next_ended.1 h with hold | ⟨row', hrow', hended⟩
      · exact hpast (hid ▸ hold)
      · rw [get?_of_save hrow hdb, if_pos hid] at hrow'
        obtain rfl := Option.some.inj hrow'
        intro happroved
        simp [CashOut.isEnded, happroved] at hended
    · rw [if_neg hid] at hget'
      rcases next_ended.1 h with hold | ⟨row', hrow', hended⟩
      · exact hs.ended cashOutId cashOut' hget' hold
      · rw [get?_of_save hrow hdb, if_neg hid] at hrow'
        exact hs.ended cashOutId cashOut' hget' (ht.noted cashOutId row' hrow' hended)

end Save

theorem Settled.ended_iff (hs : st.Settled) (ht : st.Tracked) {cashOutId : Nat} {row : CashOut}
    (h : st.db.cashOuts.get? cashOutId = some row) :
    st.ended cashOutId = true ↔ row.isEnded = true := by
  constructor
  · intro hended
    obtain ⟨row', hrow', hstatus⟩ := ht.ended cashOutId hended
    obtain rfl := Option.some.inj (h.symm.trans hrow')
    exact hstatus.resolve_right (hs.ended cashOutId row h hended)
  · exact ht.noted cashOutId row h

end CashOutRequests

def CashOutStatus.Ends (status : CashOutStatus) : Prop :=
  ∀ cashOut : CashOut, ({ cashOut with status := status } : CashOut).isEnded = true

section Close

open CashOutOp CashOutRequests

variable {st : CashOutRequests} {request : Nat} {required next : CashOutStatus}

theorem copyAfter_copyOf {s : CashOutDb} {self : CashOut} (h : CopyOf s self) :
    CopyOf s (copyAfter required next self) := by
  unfold copyAfter
  split
  · exact h
  · exact h

theorem act_close_cases (request : Nat) (required next : CashOutStatus) (ht : st.Tracked) :
    (∃ copy, (∀ self, copy = some self → CopyOf st.db self) ∧
      (st.act request (CashOut.close required next) (copyAfter required next) =
        st.next request st.db copy ∨
        st.act request (CashOut.close required next) (copyAfter required next) = st) ∧
      CloseSound st request required) ∨
    ∃ self row carry, st.copies request = some self ∧ self.status = required ∧
      st.db.cashOuts.get? self.id = some row ∧ self.xlmm = row.xlmm ∧ self.value = row.value ∧
      st.db.fortunes row.xlmm = some carry ∧
        st.act request (CashOut.close required next) (copyAfter required next) =
          st.next request
            ((st.db.saveCashOut { self with status := next }).moveCarry row.xlmm (-row.value))
            (some { self with status := next }) := by
  unfold act CloseSound
  cases hcopy : st.copies request with
  | none =>
    left
    refine ⟨none, ?_, Or.inr rfl, ?_⟩
    · intro self h
      cases h
    · intro self row h
      cases h
  | some self =>
    have hcopyof := ht.copies request self hcopy
    obtain ⟨row, hrow, hxlmm, hvalue⟩ := id hcopyof
    dsimp only
    rw [CashOut.close_db]
    by_cases hpass : self.status = required ∧ (st.db.fortunes self.xlmm).isSome
    · obtain ⟨hstatus, hsome⟩ := hpass
      obtain ⟨carry, hcarry⟩ := Option.isSome_iff_exists.1 hsome
      refine Or.inr ⟨self, row, carry, rfl, hstatus, hrow, hxlmm, hvalue, ?_, ?_⟩
      · rw [← hxlmm, hcarry]
      · rw [if_pos ⟨hstatus, hsome⟩, copyAfter, if_pos hstatus, hxlmm, hvalue]
    · left
      refine ⟨some (copyAfter required next self), ?_, Or.inl ?_, ?_⟩
      · intro self' h
        obtain rfl := Option.some.inj h
        exact copyAfter_copyOf hcopyof
      · rw [if_neg hpass]
      · intro self' row' h hstatus _ hsome
        obtain rfl := Option.some.inj h
        exact absurd ⟨hstatus, hsome⟩ hpass

theorem act_close_tracked (hends : next.Ends) (ht : st.Tracked) :
    (st.act request (CashOut.close required next) (copyAfter required next)).Tracked := by
  rcases act_close_cases request required next ht with
    ⟨copy, hcopy, heq | heq, _⟩ | ⟨self, row, carry, _, _, hrow, hxlmm, hvalue, _, heq⟩
  · rw [heq]
    exact ht.next_same hcopy
  · rw [heq]
    exact ht
  · rw [heq]
    have hdb : ((st.db.saveCashOut { self with status := next }).moveCarry row.xlmm
        (-row.value)).cashOuts = (st.db.saveCashOut { self with status := next }).cashOuts := rfl
    have hid : st.db.cashOuts.get? ({ self with status := next } : CashOut).id = some row := hrow
    exact Tracked.next_save hid hdb ht hxlmm hvalue (Or.inl (hends self))

theorem act_close_settled_iff (hends : next.Ends) (ht : st.Tracked) (hs : st.Settled) :
    (st.act request (CashOut.close required next) (copyAfter required next)).Settled ↔
      CloseSound st request required := by
  rcases act_close_cases request required next ht with
    ⟨copy, _, heq | heq, hsound⟩ | ⟨self, row, carry, hcopy, hstatus, hrow, hxlmm, hvalue,
      hcarry, heq⟩
  · rw [heq]
    exact iff_of_true (hs.next_same ht copy) hsound
  · rw [heq]
    exact iff_of_true hs hsound
  · have hended := hends self
    have hpast : st.ended self.id = true →
        ({ self with status := next } : CashOut).status ≠ .approved := by
      intro _ happroved
      simp only [CashOut.isEnded] at hended
      simp only at happroved
      rw [happroved] at hended
      cases hended
    have hdb : ((st.db.saveCashOut { self with status := next }).moveCarry row.xlmm
        (-row.value)).cashOuts = (st.db.saveCashOut { self with status := next }).cashOuts := rfl
    have hid : st.db.cashOuts.get? ({ self with status := next } : CashOut).id = some row := hrow
    rw [heq, settled_next_save_iff hid hdb hs ht, and_iff_left hpast,
      CashOutDb.carryAgrees_save_iff hs.carry hid hxlmm hcarry,
      CashOut.liveValue_of_ended hended]
    constructor
    · intro hdelta self' row' hself' _ hrow' _
      obtain rfl := Option.some.inj (hcopy.symm.trans hself')
      obtain rfl := Option.some.inj (hrow.symm.trans hrow')
      cases hlive : row.isEnded with
      | false => exact Or.inl rfl
      | true =>
        rw [CashOut.liveValue_of_ended hlive] at hdelta
        exact Or.inr (by omega)
    · intro hsound
      rcases hsound self row hcopy hstatus hrow (by rw [hxlmm, hcarry]; rfl) with hlive | hzero
      · rw [CashOut.liveValue_of_live hlive, zero_sub]
      · unfold CashOut.liveValue
        split
        · omega
        · omega

end Close

section Approve

open CashOutRequests

variable {st : CashOutRequests} {request now : Nat}

/-- The copy as `approve_cashout` leaves it. -/
def approvedCopy (now : Nat) (self : CashOut) : CashOut :=
  { self with status := .approved, approveTime := some now }

theorem exec_approve_cases (request now : Nat) (ht : st.Tracked) :
    ((∃ copy, (∀ self, copy = some self → CopyOf st.db self) ∧
      (CashOutOp.approve request now).exec st = st.next request st.db copy) ∨
        (CashOutOp.approve request now).exec st = st) ∧ ApproveSound st request ∨
    ∃ self row, st.copies request = some self ∧ self.status = .pending ∧
      st.db.cashOuts.get? self.id = some row ∧ self.xlmm = row.xlmm ∧ self.value = row.value ∧
        (CashOutOp.approve request now).exec st =
          st.next request (st.db.saveCashOut (approvedCopy now self))
            (some (approvedCopy now self)) := by
  simp only [CashOutOp.exec, act]
  unfold ApproveSound
  cases hcopy : st.copies request with
  | none =>
    left
    refine ⟨Or.inr rfl, ?_⟩
    intro self row h
    cases h
  | some self =>
    have hcopyof := ht.copies request self hcopy
    obtain ⟨row, hrow, hxlmm, hvalue⟩ := id hcopyof
    dsimp only
    rw [CashOut.approve_db]
    by_cases hstatus : self.status = .pending
    · refine Or.inr ⟨self, row, rfl, hstatus, hrow, hxlmm, hvalue, ?_⟩
      rw [if_pos hstatus, if_pos hstatus]
      rfl
    · left
      refine ⟨Or.inl ⟨some self, ?_, ?_⟩, ?_⟩
      · intro self' h
        obtain rfl := Option.some.inj h
        exact hcopyof
      · rw [if_neg hstatus, if_neg hstatus]
      · intro self' row' h hstatus'
        obtain rfl := Option.some.inj h
        exact absurd hstatus' hstatus

theorem exec_approve_tracked (ht : st.Tracked) :
    ((CashOutOp.approve request now).exec st).Tracked := by
  rcases exec_approve_cases request now ht with
    ⟨⟨copy, hcopy, heq⟩ | heq, _⟩ | ⟨self, row, _, _, hrow, hxlmm, hvalue, heq⟩
  · rw [heq]
    exact ht.next_same hcopy
  · rw [heq]
    exact ht
  · rw [heq]
    have hid : st.db.cashOuts.get? (approvedCopy now self).id = some row := hrow
    exact Tracked.next_save hid rfl ht hxlmm hvalue (Or.inr rfl)

theorem exec_approve_settled_iff (ht : st.Tracked) (hs : st.Settled) :
    ((CashOutOp.approve request now).exec st).Settled ↔ ApproveSound st request := by
  rcases exec_approve_cases request now ht with
    ⟨⟨copy, _, heq⟩ | heq, hsound⟩ | ⟨self, row, hcopy, hstatus, hrow, hxlmm, hvalue, heq⟩
  · rw [heq]
    exact iff_of_true (hs.next_same ht copy) hsound
  · rw [heq]
    exact iff_of_true hs hsound
  · have hid : st.db.cashOuts.get? (approvedCopy now self).id = some row := hrow
    have hsound : ApproveSound st request ↔ row.isEnded = false := by
      constructor
      · intro hsound
        exact hsound self row hcopy hstatus hrow
      · intro hlive self' row' hself' _ hrow'
        obtain rfl := Option.some.inj (hcopy.symm.trans hself')
        obtain rfl := Option.some.inj (hrow.symm.trans hrow')
        exact hlive
    rw [heq, settled_next_save_iff hid rfl hs ht, hsound]
    constructor
    · rintro ⟨_, hpast⟩
      cases hlive : row.isEnded with
      | false => rfl
      | true => exact absurd rfl (hpast ((hs.ended_iff ht hrow).2 hlive))
    · intro hlive
      refine ⟨?_, fun hended => ?_⟩
      · apply CashOutDb.carryAgrees_save_of_eq hs.carry hid hxlmm
        rw [CashOut.liveValue_of_live hlive, ← hvalue]
        rfl
      · have hcontra := (hs.ended_iff ht hrow).1 hended
        rw [hlive] at hcontra
        cases hcontra

end Approve

section Create

open CashOutRequests

variable {st : CashOutRequests}

theorem get?_insert_of_some {t : Table CashOut} {cashOut row : CashOut} {cashOutId : Nat}
    (h : t.get? cashOutId = some row) : (t.insert cashOut).get? cashOutId = some row := by
  have hlt := Table.pk_lt_nextId (Table.get?_eq_some.1 h).1
  have hpk := (Table.get?_eq_some.1 h).2
  rw [Table.get?_insert, if_neg (by omega), h]

theorem next_insert_tracked (ht : st.Tracked) {request : Nat} {cashOut : CashOut}
    {db : CashOutDb} (hdb : db.cashOuts = st.db.cashOuts.insert cashOut)
    (hstatus : cashOut.status = .pending) :
    (st.next request db (some (st.db.cashOuts.stored cashOut))).Tracked := by
  have hcopyof : ∀ {self}, CopyOf st.db self → CopyOf db self := by
    rintro self ⟨row, hrow, hrest⟩
    exact ⟨row, by rw [hdb]; exact get?_insert_of_some hrow, hrest⟩
  constructor
  · intro r self h
    by_cases hr : r = request
    · have hself : Function.update st.copies request _ r = some self := h
      rw [hr, Function.update_self] at hself
      obtain rfl := Option.some.inj hself
      refine ⟨st.db.cashOuts.stored cashOut, ?_, rfl, rfl⟩
      show db.cashOuts.get? _ = _
      rw [hdb]
      show (st.db.cashOuts.insert cashOut).get? st.db.cashOuts.nextId = _
      rw [Table.get?_insert, if_pos rfl]
    · have hself : Function.update st.copies request _ r = some self := h
      rw [Function.update_of_ne hr] at hself
      exact hcopyof (ht.copies r self hself)
  · intro cashOutId h
    rcases next_ended.1 h with hold | ⟨row, hrow, hended⟩
    · obtain ⟨row, hrow, hrest⟩ := ht.ended cashOutId hold
      refine ⟨row, ?_, hrest⟩
      show db.cashOuts.get? cashOutId = _
      rw [hdb]
      exact get?_insert_of_some hrow
    · exact ⟨row, hrow, Or.inl hended⟩
  · intro cashOutId row hrow hended
    exact next_ended.2 (Or.inr ⟨row, hrow, hended⟩)

theorem next_insert_settled (ht : st.Tracked) (hs : st.Settled) {request mamaId : Nat}
    {carry : Int} {cashOut : CashOut} (hstatus : cashOut.status = .pending)
    (hxlmm : cashOut.xlmm = mamaId) (hcarry : st.db.fortunes mamaId = some carry) :
    (st.next request ((st.db.addCashOut cashOut).moveCarry mamaId cashOut.value)
      (some (st.db.cashOuts.stored cashOut))).Settled := by
  have hlive : (st.db.cashOuts.stored cashOut).liveValue = cashOut.value := by
    apply CashOut.liveValue_of_live
    simp [CashOut.isEnded, Table.stored, Row.withPk, hstatus]
  have htotal : ∀ other, ((st.db.addCashOut cashOut).moveCarry mamaId cashOut.value).liveTotal
      other = st.db.liveTotal other + if mamaId = other then cashOut.value else 0 := by
    intro other
    have hinsert : (st.db.addCashOut cashOut).liveTotal other = st.db.liveTotal other +
        if cashOut.xlmm = other then (st.db.cashOuts.stored cashOut).liveValue else 0 :=
      Table.groupTotal_insert cashOut other ()
    rw [hlive, hxlmm] at hinsert
    exact hinsert
  constructor
  · show ((st.db.addCashOut cashOut).moveCarry mamaId cashOut.value).CarryAgrees
    intro other carry' hcarry'
    rw [htotal]
    by_cases hm : other = mamaId
    · subst hm
      have hself : (st.db.addCashOut cashOut).fortunes other = some carry := hcarry
      rw [CashOutDb.moveCarry_self hself] at hcarry'
      have hvalue := Option.some.inj hcarry'
      have hold := hs.carry other carry hcarry
      rw [if_pos rfl]
      omega
    · rw [if_neg (Ne.symm hm), add_zero]
      apply hs.carry other carry'
      rw [← hcarry']
      exact (CashOutDb.moveCarry_of_ne hm).symm
  · intro cashOutId row hrow h
    have hget : (st.db.cashOuts.insert cashOut).get? cashOutId = some row := hrow
    rw [Table.get?_insert] at hget
    by_cases hid : cashOutId = st.db.cashOuts.nextId
    · rw [if_pos hid] at hget
      obtain rfl := Option.some.inj hget
      simp [Table.stored, Row.withPk, hstatus]
    · rw [if_neg hid] at hget
      rcases next_ended.1 h with hold | ⟨row', hrow', hended⟩
      · exact hs.ended cashOutId row hget hold
      · have heq := Option.some.inj (hrow.symm.trans hrow')
        exact hs.ended cashOutId row hget (ht.noted cashOutId row hget (heq ▸ hended))

end Create

namespace CashOutOp

open CashOutRequests

variable {st : CashOutRequests}

theorem ends_cancel : CashOutStatus.cancel.Ends := fun _ => rfl

theorem ends_rejected : CashOutStatus.rejected.Ends := fun _ => rfl

theorem ends_sendfail : CashOutStatus.sendfail.Ends := fun _ => rfl

theorem exec_create_tracked (ht : st.Tracked) (request : Nat) (today : Date) (mamaId : Nat)
    (value : Int) (cashOutType : CashOutType) (uniKey : Option String) :
    ((create request today mamaId value cashOutType uniKey).exec st).Tracked := by
  simp only [exec]
  rcases CashOut.create_cases today mamaId value cashOutType uniKey st.db with
    ⟨cashOut, carry, hstatus, _, _, _, hrun⟩ | ⟨e, hrun⟩
  · rw [hrun]
    exact next_insert_tracked ht rfl hstatus
  · rw [hrun]
    exact ht.next_same fun _ h => by cases h

theorem exec_create_settled (ht : st.Tracked) (hs : st.Settled) (request : Nat) (today : Date)
    (mamaId : Nat) (value : Int) (cashOutType : CashOutType) (uniKey : Option String) :
    ((create request today mamaId value cashOutType uniKey).exec st).Settled := by
  simp only [exec]
  rcases CashOut.create_cases today mamaId value cashOutType uniKey st.db with
    ⟨cashOut, carry, hstatus, hxlmm, hvalue, hcarry, hrun⟩ | ⟨e, hrun⟩
  · rw [hrun, ← hvalue]
    exact next_insert_settled ht hs hstatus hxlmm hcarry
  · rw [hrun]
    exact hs.next_same ht none

theorem copyOf_get {s : CashOutDb} {cashOutId : Nat} {self : CashOut}
    (h : s.cashOuts.get? cashOutId = some self) : CopyOf s self := by
  have hid : self.id = cashOutId := (Table.get?_eq_some.1 h).2
  exact ⟨self, hid ▸ h, rfl, rfl⟩

theorem exec_tracked (ht : st.Tracked) (op : CashOutOp) : (op.exec st).Tracked := by
  cases op with
  | create request today mamaId value cashOutType uniKey =>
    exact exec_create_tracked ht request today mamaId value cashOutType uniKey
  | read request cashOutId => exact ht.next_same fun _ h => copyOf_get h
  | cancel request => exact act_close_tracked ends_cancel ht
  | reject request => exact act_close_tracked ends_rejected ht
  | approve request now => exact exec_approve_tracked ht
  | fail request => exact act_close_tracked ends_sendfail ht

theorem exec_settled_iff (ht : st.Tracked) (hs : st.Settled) (op : CashOutOp) :
    (op.exec st).Settled ↔ op.Sound st := by
  cases op with
  | create request today mamaId value cashOutType uniKey =>
    exact iff_of_true
      (exec_create_settled ht hs request today mamaId value cashOutType uniKey) trivial
  | read request cashOutId => exact iff_of_true (hs.next_same ht _) trivial
  | cancel request => exact act_close_settled_iff ends_cancel ht hs
  | reject request => exact act_close_settled_iff ends_rejected ht hs
  | approve request now => exact exec_approve_settled_iff ht hs
  | fail request => exact act_close_settled_iff ends_sendfail ht hs

end CashOutOp

/-- Over every interleaving of requests the counters agree with the cash-outs and no
cash-out that has ended is approved, exactly when every operation is sound. -/
theorem cashouts_settled_iff (ops : List CashOutOp) (db : CashOutDb) (h : db.CarryAgrees) :
    Throughout CashOutOp.exec CashOutRequests.Settled ops (CashOutRequests.start db) ↔
      Guarded CashOutOp.exec (fun st op => op.Sound st) ops (CashOutRequests.start db) := by
  have halways : ∀ (st : CashOutRequests) (op : CashOutOp), st.Tracked → (op.exec st).Tracked :=
    fun _ op ht => CashOutOp.exec_tracked ht op
  have hstep : ∀ (st : CashOutRequests) (op : CashOutOp), st.Tracked → st.Settled →
      ((op.exec st).Settled ↔ op.Sound st) :=
    fun _ op ht hs => CashOutOp.exec_settled_iff ht hs op
  exact throughout_iff_guarded halways hstep ops _ (CashOutRequests.start_tracked db)
    (CashOutRequests.start_settled h)

def noCashOuts : CashOutDb where
  cashOuts := Table.empty
  fortunes mamaId := if mamaId = 1 then some 0 else none

theorem noCashOuts_agrees : noCashOuts.CarryAgrees := by
  intro mamaId carry hcarry
  have htotal : noCashOuts.liveTotal mamaId = 0 := rfl
  rw [htotal]
  simp only [noCashOuts] at hcarry
  split at hcarry
  · exact (Option.some.inj hcarry).symm
  · cases hcarry

def askTwoHundred : CashOutOp :=
  .create 1 { isoformat := "2017-05-01" } 1 20000 .red none

theorem cashouts_settled_sample :
    Throughout CashOutOp.exec CashOutRequests.Settled
      [askTwoHundred, .cancel 1, .read 2 1, .approve 2 9] (CashOutRequests.start noCashOuts) := by
  apply (cashouts_settled_iff _ _ noCashOuts_agrees).2
  refine ⟨trivial, ?_, trivial, ?_, trivial⟩
  · intro self row hself _ hrow _
    left
    obtain rfl := Option.some.inj hself
    obtain rfl := Option.some.inj hrow
    rfl
  · intro self row hself hstatus _
    obtain rfl := Option.some.inj hself
    cases hstatus

/-- Two requests read the pending cash-out: the first cancels it, and the second, on its
own copy, then approves it. -/
theorem cashouts_settled_fails :
    ¬ Throughout CashOutOp.exec CashOutRequests.Settled
      [askTwoHundred, .read 2 1, .cancel 1, .approve 2 9]
      (CashOutRequests.start noCashOuts) := by
  intro h
  exact h.last.ended 1 _ rfl rfl rfl

end ShopManager.Mama
