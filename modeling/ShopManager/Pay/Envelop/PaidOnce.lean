import ShopManager.Library.Execution
import ShopManager.Pay.Envelop.Model
import ShopManager.Pay.Wallet.Keys

/-!
# An envelope is paid or given back

The value of an envelope is given back by `refund_envelop`, which its callers
reach without looking at what has been given back before.  A run keeps to one
repayment, and to none for an envelope that ends confirmed, exactly when no
repaying notice and no confirmation meets an envelope that has been given back.
-/

namespace ShopManager.Pay

open Library Library.Tx Library.Execution Wallet

/-! ## Giving back -/

/-- `confirm_budget_log` goes through. -/
def confirmable (s : WalletDb) (bg : BudgetLog) : Bool :=
  bg.status = .confirmed || (s.userBudgets bg.customerId).isSome

theorem confirm_of_confirmable {s : WalletDb} {bg : BudgetLog} (hbg : bg ∈ s.budgetLogs)
    (h : confirmable s bg = true) :
    ∃ r s', (BudgetLog.confirmBudgetLog bg).run s = (.ok r, s') ∧
      ∀ today args, args.uniKey = none →
        BudgetLog.createError s' today args = BudgetLog.createError s today args := by
  rw [BudgetLog.confirmBudgetLog_run]
  by_cases hstatus : bg.status = .confirmed
  · rw [if_pos hstatus]
    exact ⟨false, s, rfl, fun _ _ _ => rfl⟩
  · have hrow : (s.userBudgets bg.customerId).isSome = true := by
      simpa [confirmable, hstatus] using h
    obtain ⟨budget, hbudget⟩ := Option.isSome_iff_exists.1 hrow
    have hsettle := BudgetLog.settle_run bg (confirmChange bg) .confirmed s
    rw [hbudget] at hsettle
    rw [if_neg hstatus]
    exact ⟨true, _, hsettle, fun _ _ hkey => BudgetLog.createError_settle hkey hbg hsettle⟩

theorem confirm_of_not_confirmable {s : WalletDb} {bg : BudgetLog}
    (h : confirmable s bg = false) :
    (BudgetLog.confirmBudgetLog bg).run s = (.error .doesNotExist, s) := by
  obtain ⟨hstatus, hrow⟩ : bg.status ≠ .confirmed ∧ s.userBudgets bg.customerId = none := by
    simpa [confirmable] using h
  rw [BudgetLog.confirmBudgetLog_run, if_neg hstatus, BudgetLog.settle_run, hrow]

def EnvelopStatus.Closed (status : EnvelopStatus) : Prop := status = .fail ∨ status = .cancel

theorem EnvelopStatus.Closed.ne_confirmSend {status : EnvelopStatus} (h : status.Closed) :
    status ≠ .confirmSend := by
  rcases h with rfl | rfl
  · decide
  · decide

theorem EnvelopStatus.Closed.ne_waitSend {status : EnvelopStatus} (h : status.Closed) :
    status ≠ .waitSend := by
  rcases h with rfl | rfl
  · decide
  · decide

variable {s' : EnvelopDb}

namespace Envelop

open EnvelopDb

/-- `refund_envelop` gives the value back: the expense is there and the income
can be created, or the cash-out is open and the mama has a fortune. -/
def refundPays (today : Date) (s : EnvelopDb) (envelop : Envelop) : Bool :=
  match envelop.subject with
  | .xlappCashout => (cashoutLog s envelop).any fun bg =>
      confirmable s.wallet bg &&
        (BudgetLog.createError s.wallet today (returnArgs bg)).isNone
  | .cashout => (s.cashOuts.get? envelop.referalId).any fun cashout =>
      (cashout.status = .pending || cashout.status = .approved) &&
        (s.fortunes cashout.xlmm).isSome
  | _ => false

structure Untouched (s s' : EnvelopDb) : Prop where
  envelop : s'.envelop = s.envelop
  credits : s'.credits = s.credits

structure Credited (s s' : EnvelopDb) : Prop where
  envelop : s'.envelop = s.envelop
  credits : s'.credits = s.credits + 1

theorem Untouched.refl (s : EnvelopDb) : Untouched s s := ⟨rfl, rfl⟩

def givenBack (s : EnvelopDb) (status : CashOutStatus) (cashout : CashOut) (carry : Int) :
    EnvelopDb :=
  { s with
    cashOuts := s.cashOuts.save { cashout with status := status }
    fortunes := Function.update s.fortunes cashout.xlmm (some (carry - cashout.value))
    credits := s.credits + 1 }

theorem giveBack_cases (status : CashOutStatus) (cashout : CashOut) (s : EnvelopDb) :
    ((s.fortunes cashout.xlmm).isSome = true ∧
      ∃ s', (cashout.giveBack status).run s = (.ok (), s') ∧ Credited s s') ∨
    ((s.fortunes cashout.xlmm).isSome = false ∧
      (cashout.giveBack status).run s = (.error .attributeError, s)) := by
  unfold CashOut.giveBack
  cases hcarry : s.fortunes cashout.xlmm with
  | none =>
    right
    refine ⟨rfl, ?_⟩
    apply atomic_error
    rw [CashOut.save, modify_bind_run, getOr_bind_run]
    simp only [hcarry]
    rfl
  | some carry =>
    left
    refine ⟨rfl, givenBack s status cashout carry, atomic_ok ?_, ⟨rfl, rfl⟩⟩
    rw [CashOut.save, modify_bind_run, getOr_bind_run]
    simp only [hcarry, modify_bind_run]
    rfl

theorem refundEnvelop_cases (today : Date) (s : EnvelopDb) (envelop : Envelop) :
    (refundPays today s envelop = true ∧
      ∃ s', (refundEnvelop today envelop).run s = (.ok (), s') ∧ Credited s s') ∨
    (refundPays today s envelop = false ∧
      ∃ r s', (refundEnvelop today envelop).run s = (r, s') ∧ Untouched s s') := by
  unfold refundEnvelop refundPays
  cases hsubject : envelop.subject with
  | xlappCashout =>
    simp only [getOr_bind_run]
    cases hlog : cashoutLog s envelop with
    | none => exact Or.inr ⟨rfl, _, s, rfl, Untouched.refl s⟩
    | some bg =>
      simp only [Option.any_some, inWallet, zoom_bind_run]
      cases hconfirm : confirmable s.wallet bg with
      | false =>
        rw [confirm_of_not_confirmable hconfirm]
        exact Or.inr ⟨rfl, _, _, rfl, ⟨rfl, rfl⟩⟩
      | true =>
        obtain ⟨r, wallet, hrun, herror⟩ := confirm_of_confirmable
          (Table.mem_of_first hlog) hconfirm
        simp only [hrun, BudgetLog.create_run, herror today (returnArgs bg) rfl]
        cases BudgetLog.createError s.wallet today (returnArgs bg) with
        | some e => exact Or.inr ⟨rfl, _, _, rfl, ⟨rfl, rfl⟩⟩
        | none => exact Or.inl ⟨rfl, _, rfl, ⟨rfl, rfl⟩⟩
  | cashout =>
    simp only [gets_bind_run]
    cases hcashout : s.cashOuts.get? envelop.referalId with
    | none => exact Or.inr ⟨rfl, _, s, rfl, Untouched.refl s⟩
    | some cashout =>
      simp only [Option.any_some]
      by_cases hpending : cashout.status = .pending
      · simp only [hpending, if_true, CashOut.cancelCashout, ne_eq, not_true_eq_false,
          if_false]
        rcases giveBack_cases .cancel cashout s with ⟨hcarry, s', hrun, h⟩ | ⟨hcarry, hrun⟩
        · exact Or.inl ⟨by simp [hcarry], s', hrun, h⟩
        · exact Or.inr ⟨by simp [hcarry], _, s, hrun, Untouched.refl s⟩
      · by_cases happroved : cashout.status = .approved
        · simp only [happroved, if_false, CashOut.failAndReturn, ne_eq, not_true_eq_false,
            reduceCtorEq]
          rcases giveBack_cases .sendfail cashout s with
            ⟨hcarry, s', hrun, h⟩ | ⟨hcarry, hrun⟩
          · exact Or.inl ⟨by simp [hcarry], s', hrun, h⟩
          · exact Or.inr ⟨by simp [hcarry], _, s, hrun, Untouched.refl s⟩
        · simp only [hpending, happroved, if_false, CashOut.failAndReturn, ne_eq,
            not_false_eq_true, if_true]
          exact Or.inr ⟨by simp, _, s, rfl, Untouched.refl s⟩
  | orderRedPac => exact Or.inr ⟨rfl, _, s, rfl, Untouched.refl s⟩
  | level1 => exact Or.inr ⟨rfl, _, s, rfl, Untouched.refl s⟩
  | level2 => exact Or.inr ⟨rfl, _, s, rfl, Untouched.refl s⟩

def referalConfirmable (s : EnvelopDb) (envelop : Envelop) : Bool :=
  (s.wallet.budgetLogs.get? envelop.referalId).all fun bg => confirmable s.wallet bg

theorem confirmReferal_cases (s : EnvelopDb) (envelop : Envelop) :
    (referalConfirmable s envelop = true ∧
      ∃ s', (confirmReferal envelop).run s = (.ok (), s') ∧ Untouched s s') ∨
    (referalConfirmable s envelop = false ∧
      ∃ e s', (confirmReferal envelop).run s = (.error e, s') ∧ Untouched s s') := by
  unfold confirmReferal referalConfirmable
  rw [gets_bind_run]
  cases hlog : s.wallet.budgetLogs.get? envelop.referalId with
  | none => exact Or.inl ⟨rfl, s, rfl, Untouched.refl s⟩
  | some bg =>
    simp only [Option.all_some, inWallet, zoom_bind_run]
    cases hconfirm : confirmable s.wallet bg with
    | false =>
      rw [confirm_of_not_confirmable hconfirm]
      exact Or.inr ⟨rfl, _, _, rfl, ⟨rfl, rfl⟩⟩
    | true =>
      obtain ⟨r, wallet, hrun, -⟩ := confirm_of_confirmable
        (Table.mem_of_first hlog) hconfirm
      rw [hrun]
      exact Or.inl ⟨rfl, _, rfl, ⟨rfl, rfl⟩⟩

theorem approveReferal_run (s : EnvelopDb) (envelop : Envelop) :
    ∃ s', (approveReferal envelop).run s = (.ok (), s') ∧ Untouched s s' := by
  unfold approveReferal
  rw [gets_bind_run]
  cases s.cashOuts.get? envelop.referalId with
  | none => exact ⟨s, rfl, Untouched.refl s⟩
  | some cashout =>
    by_cases hpending : cashout.status = .pending
    · exact ⟨{ s with cashOuts := s.cashOuts.save { cashout with status := .approved } },
        by simp [CashOut.approveCashout, hpending, CashOut.save], ⟨rfl, rfl⟩⟩
    · exact ⟨s, by simp [CashOut.approveCashout, hpending], Untouched.refl s⟩

/-! ## What a method leaves behind -/

structure GivenBack (s s' : EnvelopDb) : Prop where
  credits : s'.credits = s.credits + 1
  status : s'.envelop.status.Closed

structure Confirmed (s s' : EnvelopDb) : Prop where
  credits : s'.credits = s.credits
  status : s'.envelop.status = .confirmSend

structure Idle (s s' : EnvelopDb) : Prop where
  credits : s'.credits = s.credits
  status : s'.envelop.status = s.envelop.status ∨ s'.envelop.status.Closed

theorem Untouched.idle {s : EnvelopDb} (h : Untouched s s') : Idle s s' :=
  ⟨h.credits, Or.inl (by rw [h.envelop])⟩

variable {s : EnvelopDb}

variable {envelop : Envelop}

theorem refundPays_congr (today : Date) {envelop' : Envelop}
    (hsubject : envelop.subject = envelop'.subject)
    (hreferal : envelop.referalId = envelop'.referalId) :
    refundPays today s envelop = refundPays today s envelop' := by
  simp only [refundPays, cashoutLog, hsubject, hreferal]

theorem refund_save_cases (today : Date) (hstatus : envelop.status = .fail)
    (hsubject : envelop.subject = s.envelop.subject)
    (hreferal : envelop.referalId = s.envelop.referalId) :
    (refundPays today s s.envelop = true ∧
      GivenBack s ((refundEnvelop today envelop >>= fun _ => envelop.save).run s).2) ∨
    (refundPays today s s.envelop = false ∧
      Idle s ((refundEnvelop today envelop >>= fun _ => envelop.save).run s).2) := by
  rw [← refundPays_congr today hsubject hreferal]
  rcases refundEnvelop_cases today s envelop with ⟨hpays, s', hrun, h⟩ | ⟨hpays, r, s', hrun, h⟩
  · left
    rw [bind_ok hrun]
    exact ⟨hpays, h.credits, Or.inl hstatus⟩
  · right
    refine ⟨hpays, ?_⟩
    cases r with
    | error e =>
      rw [bind_error hrun]
      exact h.idle
    | ok u =>
      rw [bind_ok hrun]
      exact ⟨h.credits, Or.inr (Or.inl hstatus)⟩

/-- A program that goes through exactly if `p` holds and leaves the envelope alone. -/
def Settles (p : Bool) (m : EnvelopTx Unit) (s : EnvelopDb) : Prop :=
  (p = true ∧ ∃ s', m.run s = (.ok (), s') ∧ Untouched s s') ∨
    (p = false ∧ ∃ e s', m.run s = (.error e, s') ∧ Untouched s s')

theorem settles_pure : Settles true (pure ()) s := Or.inl ⟨rfl, s, rfl, Untouched.refl s⟩

theorem settles_approveReferal (envelop : Envelop) :
    Settles true (approveReferal envelop) s :=
  Or.inl ⟨rfl, approveReferal_run s envelop⟩

theorem settle_save_cases {p : Bool} {m : EnvelopTx Unit} (hm : Settles p m s)
    (hstatus : envelop.status = .confirmSend) :
    (p = true ∧ Confirmed s ((m >>= fun _ => envelop.save).run s).2) ∨
      (p = false ∧ Idle s ((m >>= fun _ => envelop.save).run s).2) := by
  rcases hm with ⟨hp, s', hrun, h⟩ | ⟨hp, e, s', hrun, h⟩
  · left
    rw [bind_ok hrun]
    exact ⟨hp, h.credits, hstatus⟩
  · right
    rw [bind_error hrun]
    exact ⟨hp, h.idle⟩

/-- A confirmation of the envelope by `handle_envelop` goes through. -/
def confirmationPasses (s : EnvelopDb) : Bool :=
  s.envelop.subject ≠ .xlappCashout || referalConfirmable s s.envelop

theorem settles_settleReferal (hsubject : envelop.subject = s.envelop.subject)
    (hreferal : envelop.referalId = s.envelop.referalId) :
    Settles (confirmationPasses s) (settleReferal envelop) s := by
  have hsame : referalConfirmable s s.envelop = referalConfirmable s envelop := by
    simp only [referalConfirmable, hreferal]
  unfold settleReferal confirmationPasses
  rw [← hsubject, hsame]
  cases envelop.subject with
  | xlappCashout => exact confirmReferal_cases s envelop
  | cashout => exact settles_approveReferal envelop
  | orderRedPac => exact settles_pure
  | level1 => exact settles_pure
  | level2 => exact settles_pure

/-- What a notice does, by whether it repays and whether it confirms. -/
inductive Notice (repays confirms : Bool) (s s' : EnvelopDb) : Prop where
  | givenBack (hr : repays = true) (hc : confirms = false) (h : GivenBack s s')
  | confirmed (hr : repays = false) (hc : confirms = true) (h : Confirmed s s')
  | idle (hr : repays = false) (hc : confirms = false) (h : Idle s s')

theorem notice_failed {repays confirms : Bool}
    (h : (repays = true ∧ GivenBack s s') ∨ (repays = false ∧ Idle s s')) :
    Notice (true && repays) (false && confirms) s s' := by
  rcases h with ⟨hr, h⟩ | ⟨hr, h⟩
  · exact Notice.givenBack hr rfl h
  · exact Notice.idle hr rfl h

theorem notice_sent {repays confirms : Bool}
    (h : (confirms = true ∧ Confirmed s s') ∨ (confirms = false ∧ Idle s s')) :
    Notice (false && repays) (true && confirms) s s' := by
  rcases h with ⟨hc, h⟩ | ⟨hc, h⟩
  · exact Notice.confirmed rfl hc h
  · exact Notice.idle rfl hc h

def failing : WeixinStatus → Bool
  | .failed | .refund => true
  | _ => false

def validSend : WeixinStatus → Bool
  | .sending | .sent | .received => true
  | _ => false

theorem handleEnvelop_notice (today : Date) (now : Nat) (envelopd : WeixinRedEnvelope) :
    Notice (failing envelopd.status && refundPays today s s.envelop)
      (validSend envelopd.status && confirmationPasses s) s
      ((handleEnvelop today now envelopd s.envelop).run s).2 := by
  unfold handleEnvelop
  cases envelopd.status with
  | failed => exact notice_failed (refund_save_cases today rfl rfl rfl)
  | refund => exact notice_failed (refund_save_cases today rfl rfl rfl)
  | sending => exact notice_sent (settle_save_cases (settles_settleReferal rfl rfl) rfl)
  | sent => exact notice_sent (settle_save_cases (settles_settleReferal rfl rfl) rfl)
  | received => exact notice_sent (settle_save_cases (settles_settleReferal rfl rfl) rfl)
  | unsend => exact Notice.idle rfl rfl ⟨rfl, Or.inl rfl⟩
  | rfundIng => exact Notice.idle rfl rfl ⟨rfl, Or.inl rfl⟩

theorem settles_settleReferalByPingpp (hsubject : envelop.subject = s.envelop.subject) :
    Settles (s.envelop.subject ≠ .xlappCashout) (settleReferalByPingpp envelop) s := by
  unfold settleReferalByPingpp
  rw [← hsubject]
  cases envelop.subject with
  | xlappCashout => exact Or.inr ⟨rfl, _, s, rfl, Untouched.refl s⟩
  | cashout => exact settles_approveReferal envelop
  | orderRedPac => exact settles_pure
  | level1 => exact settles_pure
  | level2 => exact settles_pure

def failingByPingpp (now : Nat) (envelop : Envelop) : SendStatus → Bool
  | .sendFailed | .refund => true
  | .sending => envelop.overdue now
  | _ => false

def validSendByPingpp (now : Nat) (envelop : Envelop) : SendStatus → Bool
  | .sent | .received => true
  | .sending => !envelop.overdue now
  | _ => false

theorem handleEnvelopByPingpp_notice (today : Date) (now : Nat) (envelopd : PingppEnvelope) :
    Notice (failingByPingpp now s.envelop envelopd.status && refundPays today s s.envelop)
      (validSendByPingpp now s.envelop envelopd.status &&
        (s.envelop.subject ≠ .xlappCashout : Bool)) s
      ((handleEnvelopByPingpp today now envelopd s.envelop).run s).2 := by
  unfold handleEnvelopByPingpp
  cases envelopd.status with
  | sending =>
    simp only [failingByPingpp, validSendByPingpp]
    cases hover : s.envelop.overdue now with
    | true => exact notice_failed (refund_save_cases today rfl rfl rfl)
    | false =>
      exact notice_sent (settle_save_cases (settles_settleReferalByPingpp rfl) rfl)
  | sendFailed => exact notice_failed (refund_save_cases today rfl rfl rfl)
  | refund => exact notice_failed (refund_save_cases today rfl rfl rfl)
  | sent => exact notice_sent (settle_save_cases (settles_settleReferalByPingpp rfl) rfl)
  | received => exact notice_sent (settle_save_cases (settles_settleReferalByPingpp rfl) rfl)
  | unsend => exact Notice.idle rfl rfl ⟨rfl, Or.inl rfl⟩
  | rfundIng => exact Notice.idle rfl rfl ⟨rfl, Or.inl rfl⟩
  | other text => exact Notice.idle rfl rfl ⟨rfl, Or.inl rfl⟩

def Sent (s s' : EnvelopDb) : Prop := GivenBack s s' ∨ s'.credits = s.credits

def resaved (s : EnvelopDb) (envelop : Envelop) : EnvelopDb := { s with envelop := envelop }

theorem tryCatch_pure_snd (m : EnvelopTx Unit) (s : EnvelopDb) :
    ((tryCatch m fun _ => pure ()).run s).2 = (m.run s).2 := by
  cases hrun : m.run s with
  | mk r s' =>
    cases r with
    | ok u => rw [tryCatch_ok hrun]
    | error e =>
      rw [tryCatch_error hrun]
      rfl

theorem bind_raise_snd (m : EnvelopTx Unit) (exc : Exn) (s : EnvelopDb) :
    ((m >>= fun _ => (raise exc : EnvelopTx Unit)).run s).2 = (m.run s).2 := by
  cases hrun : m.run s with
  | mk r s' =>
    cases r with
    | ok u =>
      rw [bind_ok hrun]
      rfl
    | error e => rw [bind_error hrun]

theorem refund_sent (today : Date) (envelop : Envelop) {envelop' : Envelop}
    (hclosed : envelop'.status.Closed) :
    Sent s ((refundEnvelop today envelop).run (resaved s envelop')).2 := by
  rcases refundEnvelop_cases today (resaved s envelop') envelop with
    ⟨_, s', hrun, h⟩ | ⟨_, r, s', hrun, h⟩
  · left
    rw [hrun]
    refine ⟨h.credits, ?_⟩
    rw [h.envelop]
    exact hclosed
  · right
    rw [hrun]
    exact h.credits

theorem sendTransfer_sent (today : Date) (now : Nat) (provider : Provider)
    (envelop : Envelop) :
    Sent s ((sendTransfer today now provider envelop).run s).2 := by
  rw [sendTransfer, tryCatch_pure_snd, ofExcept_bind_run]
  cases provider.transfer with
  | error e => exact Or.inr rfl
  | ok success =>
    cases success with
    | true =>
      right
      rcases confirmReferal_cases
        (resaved s (envelop.transferred now .confirmSend .received)) envelop with
        ⟨_, s', hrun, h⟩ | ⟨_, e, s', hrun, h⟩
      · exact (congrArg (fun r => r.2.credits) hrun).trans h.credits
      · exact (congrArg (fun r => r.2.credits) hrun).trans h.credits
    | false => exact refund_sent today envelop (Or.inl rfl)

theorem sendRedEnvelope_sent (today : Date) (now : Nat) (provider : Provider)
    (envelop : Envelop) :
    Sent s ((sendRedEnvelope today now provider envelop).run s).2 := by
  unfold sendRedEnvelope
  cases provider.create with
  | error exc =>
    simp only [save, modify_bind_run, bind_raise_snd]
    exact refund_sent today envelop (Or.inl rfl)
  | ok redenvelope =>
    have h := handleEnvelop_notice (s := resaved s { envelop with status := .confirmSend })
      today now redenvelope
    rcases h with ⟨-, -, h⟩ | ⟨-, -, h⟩ | ⟨-, -, h⟩
    · exact Or.inl ⟨h.credits, h.status⟩
    · exact Or.inr h.credits
    · exact Or.inr h.credits

theorem sendEnvelop_sent (today : Date) (now : Nat) (provider : Provider) :
    Sent s ((sendEnvelop today now provider s.envelop).run s).2 ∧
      (s.envelop.status ≠ .waitSend →
        ((sendEnvelop today now provider s.envelop).run s).2 = s) := by
  unfold sendEnvelop
  rw [raiseIf_bind_run]
  by_cases h : s.envelop.envelopId ≠ "" ∨ s.envelop.status ≠ .waitSend
  · rw [if_pos h]
    exact ⟨Or.inr rfl, fun _ => rfl⟩
  · rw [if_neg h]
    refine ⟨?_, fun hne => absurd (Or.inr hne) h⟩
    cases s.envelop.platform with
    | wxTransfer => exact sendTransfer_sent today now provider s.envelop
    | wxpub => exact sendRedEnvelope_sent today now provider s.envelop

theorem cancelEnvelop_notice (today : Date) :
    Notice (s.envelop.envelopId = "" && refundPays today s s.envelop) false s
      ((cancelEnvelop today s.envelop).run s).2 := by
  unfold cancelEnvelop
  by_cases hid : s.envelop.envelopId = ""
  · rw [if_pos hid, modify_bind_run]
    rcases refundEnvelop_cases today (resaved s { s.envelop with status := .cancel })
      s.envelop with ⟨hpays, s', hrun, h⟩ | ⟨hpays, r, s', hrun, h⟩
    · have hrepays : refundPays today s s.envelop = true := hpays
      refine Notice.givenBack (by simp [hid, hrepays]) rfl ?_
      refine ⟨(congrArg (fun r => r.2.credits) hrun).trans h.credits, Or.inr ?_⟩
      exact (congrArg (fun r => r.2.envelop.status) hrun).trans (congrArg status h.envelop)
    · have hspares : refundPays today s s.envelop = false := hpays
      refine Notice.idle (by simp [hspares]) rfl ?_
      refine ⟨(congrArg (fun r => r.2.credits) hrun).trans h.credits, Or.inr (Or.inr ?_)⟩
      exact (congrArg (fun r => r.2.envelop.status) hrun).trans (congrArg status h.envelop)
  · rw [if_neg hid]
    exact Notice.idle (by simp [hid]) rfl ⟨rfl, Or.inl rfl⟩

end Envelop

/-! ## Runs -/

open Envelop

/-- A method of the envelope or a notice of a provider, on the stored row. -/
inductive EnvelopOp where
  | sendEnvelop (today : Date) (now : Nat) (provider : Provider)
  | handleEnvelop (today : Date) (now : Nat) (envelopd : WeixinRedEnvelope)
  | handleEnvelopByPingpp (today : Date) (now : Nat) (envelopd : PingppEnvelope)
  | cancelEnvelop (today : Date)

namespace EnvelopOp

def exec : EnvelopOp → EnvelopDb → EnvelopDb
  | .sendEnvelop today now provider, s =>
      ((Envelop.sendEnvelop today now provider s.envelop).run s).2
  | .handleEnvelop today now envelopd, s =>
      ((Envelop.handleEnvelop today now envelopd s.envelop).run s).2
  | .handleEnvelopByPingpp today now envelopd, s =>
      ((Envelop.handleEnvelopByPingpp today now envelopd s.envelop).run s).2
  | .cancelEnvelop today, s => ((Envelop.cancelEnvelop today s.envelop).run s).2

def repays (s : EnvelopDb) : EnvelopOp → Bool
  | .sendEnvelop .. => false
  | .handleEnvelop today _ envelopd =>
      failing envelopd.status && refundPays today s s.envelop
  | .handleEnvelopByPingpp today now envelopd =>
      failingByPingpp now s.envelop envelopd.status && refundPays today s s.envelop
  | .cancelEnvelop today => s.envelop.envelopId = "" && refundPays today s s.envelop

/-- The step would confirm the envelope, whether or not its value has been given
back. -/
def confirms (s : EnvelopDb) : EnvelopOp → Bool
  | .sendEnvelop .. => false
  | .handleEnvelop _ _ envelopd => validSend envelopd.status && confirmationPasses s
  | .handleEnvelopByPingpp _ now envelopd =>
      validSendByPingpp now s.envelop envelopd.status &&
        (s.envelop.subject ≠ .xlappCashout : Bool)
  | .cancelEnvelop _ => false

def Allowed (s : EnvelopDb) (op : EnvelopOp) : Prop :=
  s.credits = 0 ∨ (repays s op = false ∧ confirms s op = false)

instance (s : EnvelopDb) (op : EnvelopOp) : Decidable (Allowed s op) :=
  inferInstanceAs (Decidable (_ ∨ _))

end EnvelopOp

namespace EnvelopDb

structure CreditedOnce (s : EnvelopDb) : Prop where
  once : s.credits ≤ 1
  paid : s.envelop.status = .confirmSend → s.credits = 0

def Fresh (s : EnvelopDb) : Prop := s.envelop.status = .waitSend → s.credits = 0

end EnvelopDb

open EnvelopDb

namespace EnvelopOp

theorem fresh_of_notice {repays confirms : Bool} {s : EnvelopDb}
    (h : Notice repays confirms s s') (hs : Fresh s) : Fresh s' := by
  intro hwait
  cases h with
  | givenBack hr hc h => exact absurd hwait h.status.ne_waitSend
  | confirmed hr hc h => exact absurd (h.status.symm.trans hwait) (by decide)
  | idle hr hc h =>
    rw [h.credits]
    rcases h.status with hsame | hclosed
    · exact hs (hsame.symm.trans hwait)
    · exact absurd hwait hclosed.ne_waitSend

theorem exec_fresh (s : EnvelopDb) (op : EnvelopOp) (hs : Fresh s) : Fresh (exec op s) := by
  cases op with
  | sendEnvelop today now provider =>
    obtain ⟨hsent, hkept⟩ := sendEnvelop_sent (s := s) today now provider
    intro hwait
    by_cases hstatus : s.envelop.status = .waitSend
    · rcases hsent with h | h
      · exact absurd hwait h.status.ne_waitSend
      · exact h.trans (hs hstatus)
    · have hsame : exec (.sendEnvelop today now provider) s = s := hkept hstatus
      rw [hsame] at hwait ⊢
      exact hs hwait
  | handleEnvelop today now envelopd =>
    exact fresh_of_notice (handleEnvelop_notice today now envelopd) hs
  | handleEnvelopByPingpp today now envelopd =>
    exact fresh_of_notice (handleEnvelopByPingpp_notice today now envelopd) hs
  | cancelEnvelop today => exact fresh_of_notice (cancelEnvelop_notice today) hs

end EnvelopOp

open EnvelopOp

theorem creditedOnce_of_notice {repays confirms : Bool} {s : EnvelopDb}
    (h : Notice repays confirms s s') (hs : CreditedOnce s) :
    CreditedOnce s' ↔ s.credits = 0 ∨ (repays = false ∧ confirms = false) := by
  have honce := hs.once
  cases h with
  | givenBack hr hc h =>
    have hcredits := h.credits
    constructor
    · intro hs'
      have honce' := hs'.once
      left
      omega
    · rintro (hzero | ⟨hr', -⟩)
      · refine ⟨by omega, ?_⟩
        intro hconfirm
        exact absurd hconfirm h.status.ne_confirmSend
      · rw [hr] at hr'
        exact absurd hr' (by decide)
  | confirmed hr hc h =>
    have hcredits := h.credits
    constructor
    · intro hs'
      have hzero := hs'.paid h.status
      left
      omega
    · rintro (hzero | ⟨-, hc'⟩)
      · exact ⟨by omega, fun _ => by omega⟩
      · rw [hc] at hc'
        exact absurd hc' (by decide)
  | idle hr hc h =>
    have hcredits := h.credits
    refine iff_of_true ⟨by omega, ?_⟩ (Or.inr ⟨hr, hc⟩)
    intro hconfirm
    rcases h.status with hsame | hclosed
    · have hzero := hs.paid (hsame.symm.trans hconfirm)
      omega
    · exact absurd hconfirm hclosed.ne_confirmSend

theorem creditedOnce_of_sent {s : EnvelopDb} (h : Sent s s') (hzero : s.credits = 0) :
    CreditedOnce s' := by
  rcases h with h | h
  · have hcredits := h.credits
    refine ⟨by omega, ?_⟩
    intro hconfirm
    exact absurd hconfirm h.status.ne_confirmSend
  · exact ⟨by omega, fun _ => by omega⟩

theorem creditedOnce_exec (s : EnvelopDb) (op : EnvelopOp) (hfresh : Fresh s)
    (hs : CreditedOnce s) : CreditedOnce (exec op s) ↔ Allowed s op := by
  cases op with
  | sendEnvelop today now provider =>
    obtain ⟨hsent, hkept⟩ := sendEnvelop_sent (s := s) today now provider
    refine iff_of_true ?_ (Or.inr ⟨rfl, rfl⟩)
    by_cases hstatus : s.envelop.status = .waitSend
    · exact creditedOnce_of_sent hsent (hfresh hstatus)
    · have hsame : exec (.sendEnvelop today now provider) s = s := hkept hstatus
      rw [hsame]
      exact hs
  | handleEnvelop today now envelopd =>
    exact creditedOnce_of_notice (handleEnvelop_notice today now envelopd) hs
  | handleEnvelopByPingpp today now envelopd =>
    exact creditedOnce_of_notice (handleEnvelopByPingpp_notice today now envelopd) hs
  | cancelEnvelop today => exact creditedOnce_of_notice (cancelEnvelop_notice today) hs

def cashoutExpense : BudgetLog where
  id := 0
  customerId := 1
  flowAmount := 20000
  balance := 0
  budgetType := .budgetOut
  budgetLogType := .cashout
  budgetDate := ⟨"2016-11-01"⟩
  referalId := ""
  status := .pending
  uniKey := some "cashout-1-1-1|2016-11-01"

def waitingEnvelop : EnvelopDb where
  envelop := ⟨7, "", .wxpub, .xlappCashout, .waitSend, .unsend, 1, none⟩
  wallet := ⟨[1], fun _ => some 0, Table.empty.insert cashoutExpense⟩
  cashOuts := Table.empty
  fortunes := fun _ => none
  credits := 0

def accepted : Provider := ⟨.ok true, .ok ⟨"xlmm7", .sending⟩⟩

end ShopManager.Pay
