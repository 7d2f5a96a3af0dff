import ShopManager.Library.Execution
import ShopManager.Xiaolupay.Model

/-!
# Refunds at the providers

A refund is asked for when it is created and looked up until the provider has answered.
The amount is set back to nothing before it is asked for, and the method that books a
success raises, so no success is ever booked.
-/

namespace ShopManager.Xiaolupay

open Library Library.Tx Library.Execution

/-! ## The providers -/

/-- Alipay's answer to a refund; the fee is in cents, none if it is no number. -/
structure AlipayAnswer where
  code : String
  refundFee : Option Int
  gmtRefundPay : Option Nat
  deriving DecidableEq, Repr

/-- WeChat Pay's answer; a query has a fee for each of its refunds. -/
structure WxpayAnswer where
  returnCode : String
  resultCode : Option String
  refundFees : List Int
  transactionId : Option String
  deriving DecidableEq, Repr

/-- What each provider answers, if it is asked. -/
structure Answers where
  alipay : Except Exn AlipayAnswer
  wxpay : Except Exn WxpayAnswer

/-- A success that a provider reported. -/
structure Success where
  refundAmount : Int
  timeSucceed : Nat
  transactionNo : String
  deriving DecidableEq, Repr

def AlipayAnswer.accepted (answer : AlipayAnswer) : Bool := answer.code = "10000"

def WxpayAnswer.accepted (answer : WxpayAnswer) : Bool :=
  answer.returnCode = "SUCCESS" && answer.resultCode = some "SUCCESS"

/-- The provider accepts the refund. -/
def Answers.accepted (answers : Answers) : Provider → Bool
  | .alipay => match answers.alipay with
    | .ok answer => answer.accepted
    | .error _ => false
  | .wxpay => match answers.wxpay with
    | .ok answer => answer.accepted
    | .error _ => false

/-- `AlipayConf.AMOUNT_SETTER`, by which an amount is divided as an integer. -/
def amountSetter : Int := 100

/-- `resp['result_code']` is read only after a successful return code. -/
def wxpaySuccess (answer : WxpayAnswer) : XiaolupayTx Bool :=
  if answer.returnCode = "SUCCESS" then do
    let resultCode ← getOr (keyError "result_code") fun _ => answer.resultCode
    pure (decide (resultCode = "SUCCESS"))
  else pure false

/-- The provider is asked to refund, and its answer read. -/
def askRefund (now : Nat) (answers : Answers) (outRefundNo : String) (refundAmount : Int) :
    Provider → XiaolupayTx (Option Success)
  | .alipay => do
      modify fun s => { s with requests := s.requests ++
        [{ outRefundNo := outRefundNo, refundFee := refundAmount / amountSetter * amountSetter }] }
      let answer ← ofExcept answers.alipay
      if answer.accepted then do
        let refundFee ← getOr (keyError "refund_fee") fun _ => answer.refundFee
        let timeSucceed ← getOr (keyError "gmt_refund_pay") fun _ => answer.gmtRefundPay
        pure (some ⟨refundFee, timeSucceed, ""⟩)
      else pure none
  | .wxpay => do
      modify fun s => { s with requests := s.requests ++
        [{ outRefundNo := outRefundNo, refundFee := refundAmount }] }
      let answer ← ofExcept answers.wxpay
      if ← wxpaySuccess answer then do
        let refundFee ← getOr (keyError "refund_fee") fun _ => answer.refundFees.head?
        pure (some ⟨refundFee, now, answer.transactionId.getD ""⟩)
      else pure none

/-- `AliPayException`, which a query catches. -/
def alipayException : Exn := .exception "AliPayException"

/-- The provider is asked what became of a refund. -/
def queryRefund (now : Nat) (answers : Answers) : Provider → XiaolupayTx (Option Success)
  | .alipay =>
      match answers.alipay with
      | .error e => if e = alipayException then pure none else raise e
      | .ok answer =>
          if answer.accepted then do
            let refundAmount ← getOr (keyError "refund_amount") fun _ => answer.refundFee
            pure (some ⟨refundAmount, now, ""⟩)
          else pure none
  | .wxpay => do
      let answer ← ofExcept answers.wxpay
      if ← wxpaySuccess answer then
        pure (some ⟨answer.refundFees.sum, now, answer.transactionId.getD ""⟩)
      else pure none

/-- The arguments of `create_refund` beside the charge. -/
structure RefundArgs where
  refundAmount : Int
  description : String
  outRefundNo : Option String
  deriving DecidableEq, Repr

def RefundArgs.refundNo (args : RefundArgs) (charge : ChargeOrder) : String :=
  (args.outRefundNo.filter (· ≠ "")).getD charge.orderNo

def newRefund (charge : ChargeOrder) (args : RefundArgs) : RefundOrder where
  id := 0
  refundNo := args.refundNo charge
  amount := args.refundAmount
  succeed := false
  status := .pending
  timeSucceed := none
  description := args.description
  failureCode := ""
  failureMsg := ""
  chargeId := charge.id
  chargeOrderNo := charge.orderNo
  transactionNo := ""

namespace RefundOrder

/-- A new row; `refund_no` is unique. -/
def create (refund : RefundOrder) : XiaolupayTx RefundOrder := do
  let taken ← gets fun s => (s.refunds.first fun r => r.refundNo = refund.refundNo).isSome
  raiseIf (taken = true) .integrityError
  let stored ← gets fun s => s.refunds.stored refund
  modify fun s => { s with refunds := s.refunds.insert refund }
  pure stored

def find (refundNo : String) (s : XiaolupayDb) : Option RefundOrder :=
  s.refunds.first fun refund => refund.refundNo = refundNo ∨ digits refundNo = some refund.id

def bookSuccess (refund : RefundOrder) : Option Success → XiaolupayTx Unit
  | none => pure ()
  | some success => do
      let charge ← ChargeOrder.get refund.chargeId
      charge.confirmRefund success.refundAmount
      refund.confirmRefunded success.timeSucceed success.transactionNo

end RefundOrder

def createRefund (now : Nat) (answers : Answers) (charge : ChargeOrder) (args : RefundArgs) :
    XiaolupayTx Unit := inBlock do
  let refundOrder ← (newRefund charge args).create
  match charge.channel.provider with
  | none => pure ()
  | some provider => do
      -- `refund_amount = 0` comes before the request that reads it
      let refundAmount : Int := 0
      let success ← askRefund now answers (args.outRefundNo.getD "") refundAmount provider
      refundOrder.bookSuccess success

def retrieveOrUpdateRefund (now : Nat) (answers : Answers) (refundNo : String) :
    XiaolupayTx Unit := inBlock do
  match ← gets (RefundOrder.find refundNo) with
  | none => pure ()
  | some refundOrder =>
      if refundOrder.status ≠ .pending then pure ()
      else do
        let charge ← ChargeOrder.get refundOrder.chargeId
        match charge.channel.provider with
        | none => pure ()
        | some provider => do
            let success ← queryRefund now answers provider
            refundOrder.bookSuccess success

inductive RefundCall where
  | create (now : Nat) (answers : Answers) (charge : ChargeOrder) (args : RefundArgs)
  | retrieve (now : Nat) (answers : Answers) (refundNo : String)

namespace RefundCall

def program : RefundCall → XiaolupayTx Unit
  | create now answers charge args => createRefund now answers charge args
  | retrieve now answers refundNo => retrieveOrUpdateRefund now answers refundNo

def exec (call : RefundCall) (s : XiaolupayDb) : XiaolupayDb := (call.program.run s).2

def raised (call : RefundCall) (s : XiaolupayDb) : Bool :=
  match (call.program.run s).1 with
  | .ok _ => false
  | .error _ => true

/-- The provider that a call asks: not for a number that is taken, nor for a refund that
is no longer pending. -/
def asks (call : RefundCall) (s : XiaolupayDb) : Option Provider :=
  match call with
  | create _ _ charge args =>
      if (s.refunds.first fun r => r.refundNo = args.refundNo charge).isSome then none
      else charge.channel.provider
  | retrieve _ _ refundNo =>
      match (RefundOrder.find refundNo s).filter fun refund => refund.status = .pending with
      | none => none
      | some refund => (s.charges.get? refund.chargeId).bind fun charge =>
          charge.channel.provider

def answers : RefundCall → Answers
  | create _ answers _ _ => answers
  | retrieve _ answers _ => answers

def accepted (call : RefundCall) (s : XiaolupayDb) : Bool :=
  match call.asks s with
  | none => false
  | some provider => call.answers.accepted provider

def owed (call : RefundCall) (s : XiaolupayDb) : List RefundRequest :=
  match call with
  | create _ _ _ args =>
      if (call.asks s).isSome then [⟨args.outRefundNo.getD "", args.refundAmount⟩] else []
  | retrieve _ _ _ => []

end RefundCall

def RefundOrder.refunded (refund : RefundOrder) (charge : Nat) : Int :=
  if refund.succeed = true ∧ refund.chargeId = charge then refund.amount else 0

/-- The charges and their refunds agree, and a success is final and was signalled once. -/
structure Booked (s : XiaolupayDb) : Prop where
  total : ∀ charge ∈ s.charges, charge.amountRefunded = s.refunds.sum fun refund =>
    refund.refunded charge.id
  within : ∀ charge ∈ s.charges, charge.amountRefunded ≤ charge.amount
  final : ∀ refund ∈ s.refunds, refund.succeed = true → refund.status = .successed
  signalled : ∀ refund ∈ s.refunds,
    s.signals.count (.refundSuccess refund.id) = if refund.succeed = true then 1 else 0

/-- A call asks for the amount of its refund, does not raise once the provider has
accepted, and leaves the books in order. -/
structure Lawful (s : XiaolupayDb) (call : RefundCall) : Prop where
  requests : (call.exec s).requests = s.requests ++ call.owed s
  kept : call.accepted s = true → call.raised s = false
  booked : Booked (call.exec s)

/-- Nothing waits for a commit, and what was signalled is a refund of the store. -/
structure Quiet (s : XiaolupayDb) : Prop where
  waiting : s.onCommit = []
  sent : ∀ id, .refundSuccess id ∈ s.signals → ∃ refund ∈ s.refunds, refund.id = id

def Unanswered (s : XiaolupayDb) (call : RefundCall) : Prop :=
  call.accepted s = false ∧ ∀ request ∈ call.owed s, request.refundFee = 0

instance (s : XiaolupayDb) (call : RefundCall) : Decidable (Unanswered s call) :=
  inferInstanceAs (Decidable (_ ∧ _))

/-! ## What a call does -/

variable {s' : XiaolupayDb}

section Calls

variable {s : XiaolupayDb}

theorem inBlock_requested {α : Type} {m : XiaolupayTx α} {e : Exn}
    {request : RefundRequest} (h : m.run s = (.error e, s')) (hsignals : s'.signals = s.signals)
    (hrequests : s'.requests = s.requests ++ [request]) :
    (inBlock m).run s = (.error e, requested s request) := by
  rw [inBlock_error h, hsignals, hrequests]
  rfl

theorem askRefund_run (now : Nat) (answers : Answers) (outRefundNo : String)
    (provider : Provider) (s : XiaolupayDb) :
    ∃ res, (askRefund now answers outRefundNo 0 provider).run s =
        (res, requested s ⟨outRefundNo, 0⟩) ∧
      (answers.accepted provider = true → res ≠ .ok none) ∧
      (answers.accepted provider = false → ∀ success, res ≠ .ok (some success)) := by
  cases provider with
  | alipay =>
    simp only [askRefund, modify_bind_run, ofExcept_bind_run, Answers.accepted]
    cases answers.alipay with
    | error e => exact ⟨_, rfl, by simp, by simp⟩
    | ok answer =>
      simp only
      by_cases haccepted : answer.accepted = true
      · simp only [haccepted, if_true, getOr_bind_run]
        cases answer.refundFee with
        | none => exact ⟨_, rfl, by simp, by simp⟩
        | some refundFee =>
          cases answer.gmtRefundPay with
          | none => exact ⟨_, rfl, by simp, by simp⟩
          | some time => exact ⟨_, rfl, by simp, by simp⟩
      · rw [if_neg haccepted]
        exact ⟨_, rfl, fun h => absurd h haccepted, by simp⟩
  | wxpay =>
    simp only [askRefund, modify_bind_run, ofExcept_bind_run, Answers.accepted]
    cases answers.wxpay with
    | error e => exact ⟨_, rfl, by simp, by simp⟩
    | ok answer =>
      simp only [wxpaySuccess, WxpayAnswer.accepted]
      by_cases hreturn : answer.returnCode = "SUCCESS"
      · rw [if_pos hreturn]
        cases hresult : answer.resultCode with
        | none => exact ⟨_, rfl, by simp, by simp⟩
        | some resultCode =>
          by_cases hsuccess : resultCode = "SUCCESS"
          · cases hfees : answer.refundFees with
            | nil =>
              refine ⟨.error (keyError "refund_fee"), ?_, by simp, by simp⟩
              simp [bind_run, getOr, hsuccess, requested]
            | cons fee fees =>
              refine ⟨.ok (some ⟨fee, now, answer.transactionId.getD ""⟩), ?_, by simp,
                by simp [hreturn, hsuccess]⟩
              simp [bind_run, getOr, hsuccess, requested]
          · refine ⟨.ok none, ?_, by simp [hsuccess], by simp⟩
            simp [bind_run, getOr, hsuccess, requested]
      · rw [if_neg hreturn]
        exact ⟨_, rfl, by simp [hreturn], by simp⟩

theorem queryRefund_run (now : Nat) (answers : Answers) (provider : Provider)
    (s : XiaolupayDb) :
    ∃ res, (queryRefund now answers provider).run s = (res, s) ∧
      (answers.accepted provider = true → res ≠ .ok none) ∧
      (answers.accepted provider = false → ∀ success, res ≠ .ok (some success)) := by
  cases provider with
  | alipay =>
    simp only [queryRefund, Answers.accepted]
    cases answers.alipay with
    | error e =>
      simp only
      split
      · exact ⟨_, rfl, by simp, by simp⟩
      · exact ⟨_, rfl, by simp, by simp⟩
    | ok answer =>
      simp only
      by_cases haccepted : answer.accepted = true
      · simp only [haccepted, if_true, getOr_bind_run]
        cases answer.refundFee with
        | none => exact ⟨_, rfl, by simp, by simp⟩
        | some refundFee => exact ⟨_, rfl, by simp, by simp⟩
      · rw [if_neg haccepted]
        exact ⟨_, rfl, fun h => absurd h haccepted, by simp⟩
  | wxpay =>
    simp only [queryRefund, ofExcept_bind_run, Answers.accepted]
    cases answers.wxpay with
    | error e => exact ⟨_, rfl, by simp, by simp⟩
    | ok answer =>
      simp only [wxpaySuccess, WxpayAnswer.accepted]
      by_cases hreturn : answer.returnCode = "SUCCESS"
      · rw [if_pos hreturn]
        cases hresult : answer.resultCode with
        | none => exact ⟨_, rfl, by simp, by simp⟩
        | some resultCode =>
          by_cases hsuccess : resultCode = "SUCCESS"
          · refine ⟨.ok (some ⟨answer.refundFees.sum, now,
              answer.transactionId.getD ""⟩), ?_, by simp, by simp [hreturn, hsuccess]⟩
            simp [bind_run, getOr, hsuccess]
          · refine ⟨.ok none, ?_, by simp [hsuccess], by simp⟩
            simp [bind_run, getOr, hsuccess]
      · rw [if_neg hreturn]
        exact ⟨_, rfl, by simp [hreturn], by simp⟩

theorem bookSuccess_raises (refund : RefundOrder) (success : Success) (s : XiaolupayDb) :
    ∃ e s', (refund.bookSuccess (some success)).run s = (.error e, s') ∧
      s'.signals = s.signals ∧ s'.requests = s.requests := by
  unfold RefundOrder.bookSuccess ChargeOrder.get
  simp only
  rw [getOr_bind_run]
  cases s.charges.get? refund.chargeId with
  | none => exact ⟨_, _, rfl, rfl, rfl⟩
  | some charge => exact ⟨_, _, rfl, rfl, rfl⟩

theorem book_accepted {m : XiaolupayTx (Option Success)} (refund : RefundOrder)
    {res : Except Exn (Option Success)} {s : XiaolupayDb} (hrun : m.run s = (res, s'))
    (hres : res ≠ .ok none) :
    ∃ e t, (m >>= fun success => refund.bookSuccess success).run s = (.error e, t) ∧
      t.signals = s'.signals ∧ t.requests = s'.requests := by
  cases res with
  | error e => exact ⟨e, s', bind_error hrun, rfl, rfl⟩
  | ok success =>
    cases success with
    | none => exact absurd rfl hres
    | some success =>
      obtain ⟨e, t, hbook, hsignals, hrequests⟩ := bookSuccess_raises refund success s'
      exact ⟨e, t, by rw [bind_ok hrun, hbook], hsignals, hrequests⟩

theorem book_refused {m : XiaolupayTx (Option Success)} (refund : RefundOrder)
    {res : Except Exn (Option Success)} {s : XiaolupayDb} (hrun : m.run s = (res, s'))
    (hres : ∀ success, res ≠ .ok (some success)) :
    ∃ res', (m >>= fun success => refund.bookSuccess success).run s = (res', s') := by
  cases res with
  | error e => exact ⟨.error e, bind_error hrun⟩
  | ok success =>
    cases success with
    | none => exact ⟨.ok (), by rw [bind_ok hrun]; rfl⟩
    | some success => exact absurd rfl (hres success)

end Calls

/-! ## Calls and the books -/

def inserted (s : XiaolupayDb) (refund : RefundOrder) : XiaolupayDb :=
  { s with refunds := s.refunds.insert refund }

theorem create_taken {s : XiaolupayDb} {refund : RefundOrder}
    (h : (s.refunds.first fun r => r.refundNo = refund.refundNo).isSome = true) :
    refund.create.run s = (.error .integrityError, s) := by
  unfold RefundOrder.create
  rw [gets_bind_run, raiseIf_bind_run, if_pos h]

theorem create_free {s : XiaolupayDb} {refund : RefundOrder}
    (h : (s.refunds.first fun r => r.refundNo = refund.refundNo).isSome = false) :
    refund.create.run s = (.ok (s.refunds.stored refund), inserted s refund) := by
  unfold RefundOrder.create
  rw [gets_bind_run, raiseIf_bind_run, if_neg (by simp [h])]
  rfl

theorem Booked.requested {s : XiaolupayDb} (h : Booked s) (request : RefundRequest) :
    Booked (requested s request) := ⟨h.total, h.within, h.final, h.signalled⟩

theorem Quiet.requested {s : XiaolupayDb} (h : Quiet s) (request : RefundRequest) :
    Quiet (requested s request) := ⟨h.waiting, h.sent⟩

section Inserted

variable {s : XiaolupayDb} {refund : RefundOrder}

theorem Booked.inserted (h : Booked s) (hquiet : Quiet s) (hnew : refund.succeed = false) :
    Booked (inserted s refund) := by
  constructor
  · intro charge hcharge
    have hzero : (s.refunds.stored refund).refunded charge.id = 0 := by
      have hsucceed : (s.refunds.stored refund).succeed = false := hnew
      simp [RefundOrder.refunded, hsucceed]
    simp only [Xiaolupay.inserted, Table.sum_insert, hzero, add_zero]
    exact h.total charge hcharge
  · exact h.within
  · intro r hr hsucceed
    rcases Table.mem_insert.1 hr with hr | rfl
    · exact h.final r hr hsucceed
    · have hfalse : (s.refunds.stored refund).succeed = false := hnew
      rw [hfalse] at hsucceed
      cases hsucceed
  · intro r hr
    rcases Table.mem_insert.1 hr with hr | rfl
    · exact h.signalled r hr
    · have hfalse : (s.refunds.stored refund).succeed = false := hnew
      rw [hfalse, if_neg (by simp)]
      apply List.count_eq_zero.2
      intro hmem
      obtain ⟨r, hr, hid⟩ := hquiet.sent _ hmem
      have hlt : r.id < s.refunds.nextId := Table.pk_lt_nextId hr
      have heq : r.id = s.refunds.nextId := hid
      omega

theorem Quiet.inserted (h : Quiet s) : Quiet (inserted s refund) := by
  constructor
  · exact h.waiting
  · intro id hid
    obtain ⟨r, hr, hrid⟩ := h.sent id hid
    exact ⟨r, Table.mem_insert.2 (.inl hr), hrid⟩

end Inserted

/-- What a call does to the store: it asks for a refund of nothing if it asks for one,
and the books stay as they are unless the provider has accepted. -/
structure CallSpec (s : XiaolupayDb) (call : RefundCall) : Prop where
  requests : (call.exec s).requests = s.requests ++ (call.owed s).map fun request =>
    { request with refundFee := 0 }
  raises : call.accepted s = true → call.raised s = true
  booked : call.accepted s = false → Booked (call.exec s) ∧ Quiet (call.exec s)

namespace RefundCall

variable {s : XiaolupayDb}

theorem exec_of_error (call : RefundCall) {e : Exn}
    (h : call.program.run s = (.error e, s')) : call.exec s = s' ∧ call.raised s = true := by
  simp only [exec, raised, h, and_self]

theorem exec_of_ok (call : RefundCall)
    (h : call.program.run s = (.ok (), s')) : call.exec s = s' := by
  simp only [exec, h]

theorem spec_of_unasked {call : RefundCall} (hasks : call.asks s = none)
    (hexec : call.exec s = s') (hrequests : s'.requests = s.requests) (hbooked : Booked s')
    (hquiet : Quiet s') : CallSpec s call := by
  refine ⟨?_, ?_, ?_⟩
  · have howed : call.owed s = [] := by cases call <;> simp [owed, hasks]
    rw [hexec, hrequests, howed, List.map_nil, List.append_nil]
  · simp [accepted, hasks]
  · rw [hexec]
    exact fun _ => ⟨hbooked, hquiet⟩

theorem createRefund_spec (now : Nat) (answers : Answers) (charge : ChargeOrder)
    (args : RefundArgs) (h : Booked s) (hquiet : Quiet s) :
    CallSpec s (.create now answers charge args) := by
  have hnew : Booked (inserted s (newRefund charge args)) := h.inserted hquiet rfl
  have hnewQuiet : Quiet (inserted s (newRefund charge args)) := hquiet.inserted
  cases htaken : (s.refunds.first fun r => r.refundNo = args.refundNo charge).isSome with
  | true =>
    have hrun : (createRefund now answers charge args).run s = (.error .integrityError, s) := by
      unfold createRefund
      rw [inBlock_error (bind_error (create_taken htaken))]
    refine spec_of_unasked ?_ (exec_of_error (.create now answers charge args) hrun).1 rfl h
      hquiet
    simp [asks, htaken]
  | false =>
    have hasks : asks (.create now answers charge args) s = charge.channel.provider := by
      simp [asks, htaken]
    cases hprovider : charge.channel.provider with
    | none =>
      have hrun : (createRefund now answers charge args).run s =
          (.ok (), inserted s (newRefund charge args)) := by
        unfold createRefund
        apply inBlock_quiet hnewQuiet.waiting
        rw [bind_ok (create_free htaken), hprovider]
        rfl
      exact spec_of_unasked (hasks.trans hprovider)
        (exec_of_ok (.create now answers charge args) hrun) rfl hnew hnewQuiet
    | some provider =>
      rw [hprovider] at hasks
      have howed : owed (.create now answers charge args) s =
          [⟨args.outRefundNo.getD "", args.refundAmount⟩] := by
        simp [owed, hasks]
      have haccepted : accepted (.create now answers charge args) s =
          answers.accepted provider := by
        simp [accepted, hasks, RefundCall.answers]
      obtain ⟨res, hask, hyes, hno⟩ := askRefund_run now answers
        (args.outRefundNo.getD "") provider (inserted s (newRefund charge args))
      cases hanswer : answers.accepted provider with
      | true =>
        obtain ⟨e, t, hbook, hsignals, hrequests⟩ := book_accepted
          (s.refunds.stored (newRefund charge args)) hask (hyes hanswer)
        have hrun : (createRefund now answers charge args).run s =
            (.error e, { s with signals := t.signals, requests := t.requests }) := by
          unfold createRefund
          apply inBlock_error
          rw [bind_ok (create_free htaken), hprovider]
          exact hbook
        obtain ⟨hexec, hraised⟩ :=
          exec_of_error (.create now answers charge args) hrun
        refine ⟨?_, fun _ => hraised, ?_⟩
        · rw [hexec, howed]
          exact hrequests
        · rw [haccepted, hanswer]
          intro hfalse
          cases hfalse
      | false =>
        obtain ⟨res', hbook⟩ := book_refused
          (s.refunds.stored (newRefund charge args)) hask (hno hanswer)
        have hfalse : accepted (.create now answers charge args) s = false :=
          haccepted.trans hanswer
        cases res' with
        | ok u =>
          have hrun : (createRefund now answers charge args).run s =
              (.ok (), requested (inserted s (newRefund charge args))
                ⟨args.outRefundNo.getD "", 0⟩) := by
            unfold createRefund
            apply inBlock_quiet (hnewQuiet.requested _).waiting
            rw [bind_ok (create_free htaken), hprovider]
            exact hbook
          have hexec := exec_of_ok (.create now answers charge args) hrun
          refine ⟨?_, ?_, ?_⟩
          · rw [hexec, howed]
            rfl
          · simp [hfalse]
          · rw [hexec]
            exact fun _ => ⟨hnew.requested _, hnewQuiet.requested _⟩
        | error e =>
          have hrun : (createRefund now answers charge args).run s =
              (.error e, requested s ⟨args.outRefundNo.getD "", 0⟩) := by
            unfold createRefund
            apply inBlock_requested
            · rw [bind_ok (create_free htaken), hprovider]
              exact hbook
            · rfl
            · rfl
          have hexec := (exec_of_error (.create now answers charge args) hrun).1
          refine ⟨?_, ?_, ?_⟩
          · rw [hexec, howed]
            rfl
          · simp [hfalse]
          · rw [hexec]
            exact fun _ => ⟨h.requested _, hquiet.requested _⟩

theorem retrieve_asked (now : Nat) (answers : Answers) {refundNo : String}
    {refund : RefundOrder} {charge : ChargeOrder} {provider : Provider}
    (hfind : RefundOrder.find refundNo s = some refund) (hpending : refund.status = .pending)
    (hcharge : s.charges.get? refund.chargeId = some charge)
    (hprovider : charge.channel.provider = some provider) :
    (retrieveOrUpdateRefund now answers refundNo).run s =
      (inBlock (queryRefund now answers provider >>= fun success =>
        refund.bookSuccess success)).run s := by
  unfold retrieveOrUpdateRefund
  apply inBlock_congr
  rw [gets_bind_run, hfind]
  simp only [ne_eq, hpending, not_true_eq_false, if_false]
  rw [ChargeOrder.get, getOr_bind_run, hcharge]
  simp only [hprovider]

theorem retrieveOrUpdateRefund_spec (now : Nat) (answers : Answers) (refundNo : String)
    (h : Booked s) (hquiet : Quiet s) : CallSpec s (.retrieve now answers refundNo) := by
  have hidle : (retrieveOrUpdateRefund now answers refundNo).run s = (.ok (), s) →
      asks (.retrieve now answers refundNo) s = none →
      CallSpec s (.retrieve now answers refundNo) := fun hrun hasks =>
    spec_of_unasked hasks (exec_of_ok (.retrieve now answers refundNo) hrun) rfl h hquiet
  cases hfind : RefundOrder.find refundNo s with
  | none =>
    refine hidle ?_ (by simp [asks, hfind])
    unfold retrieveOrUpdateRefund
    apply inBlock_quiet hquiet.waiting
    rw [gets_bind_run, hfind]
    rfl
  | some refund =>
    by_cases hpending : refund.status = .pending
    · have hasks : asks (.retrieve now answers refundNo) s =
          (s.charges.get? refund.chargeId).bind fun charge => charge.channel.provider := by
        simp [asks, hfind, Option.filter, hpending]
      cases hcharge : s.charges.get? refund.chargeId with
      | none =>
        have hrun : (retrieveOrUpdateRefund now answers refundNo).run s =
            (.error .doesNotExist, s) := by
          unfold retrieveOrUpdateRefund
          apply inBlock_raised
          rw [gets_bind_run, hfind]
          simp only [ne_eq, hpending, not_true_eq_false, if_false]
          rw [ChargeOrder.get, getOr_bind_run, hcharge]
        refine spec_of_unasked ?_ (exec_of_error (.retrieve now answers refundNo) hrun).1 rfl
          h hquiet
        rw [hasks, hcharge]
        rfl
      | some charge =>
        rw [hcharge, Option.bind_some] at hasks
        cases hprovider : charge.channel.provider with
        | none =>
          refine hidle ?_ (hasks.trans hprovider)
          unfold retrieveOrUpdateRefund
          apply inBlock_quiet hquiet.waiting
          rw [gets_bind_run, hfind]
          simp only [ne_eq, hpending, not_true_eq_false, if_false]
          rw [ChargeOrder.get, getOr_bind_run, hcharge]
          simp only [hprovider]
          rfl
        | some provider =>
          have haccepted : accepted (.retrieve now answers refundNo) s =
              answers.accepted provider := by
            simp [accepted, hasks, hprovider, RefundCall.answers]
          have hasked := retrieve_asked now answers hfind hpending hcharge hprovider
          obtain ⟨res, hquery, hyes, hno⟩ := queryRefund_run now answers provider s
          cases hanswer : answers.accepted provider with
          | true =>
            obtain ⟨e, t, hbook, hsignals, hrequests⟩ :=
              book_accepted refund hquery (hyes hanswer)
            obtain ⟨hexec, hraised⟩ := exec_of_error (.retrieve now answers refundNo)
              (hasked.trans (inBlock_error hbook))
            refine ⟨?_, fun _ => hraised, ?_⟩
            · rw [hexec]
              simpa [owed] using hrequests
            · rw [haccepted, hanswer]
              intro hfalse
              cases hfalse
          | false =>
            obtain ⟨res', hbook⟩ := book_refused refund hquery (hno hanswer)
            have hexec : exec (.retrieve now answers refundNo) s = s := by
              cases res' with
              | ok u =>
                exact exec_of_ok (.retrieve now answers refundNo)
                  (hasked.trans (inBlock_quiet hquiet.waiting hbook))
              | error e =>
                exact (exec_of_error (.retrieve now answers refundNo)
                  (hasked.trans (inBlock_raised hbook))).1
            refine ⟨?_, ?_, ?_⟩
            · rw [hexec]
              simp [owed]
            · simp [haccepted, hanswer]
            · rw [hexec]
              exact fun _ => ⟨h, hquiet⟩
    · refine hidle ?_ (by simp [asks, hfind, Option.filter, hpending])
      unfold retrieveOrUpdateRefund
      apply inBlock_quiet hquiet.waiting
      rw [gets_bind_run, hfind]
      simp only [ne_eq, hpending, not_false_eq_true, if_true]
      rfl

theorem spec (call : RefundCall) (h : Booked s) (hquiet : Quiet s) : CallSpec s call := by
  cases call with
  | create now answers charge args => exact createRefund_spec now answers charge args h hquiet
  | retrieve now answers refundNo => exact retrieveOrUpdateRefund_spec now answers refundNo h hquiet

theorem lawful_iff (call : RefundCall) (h : Booked s) (hquiet : Quiet s) :
    Lawful s call ↔ Unanswered s call := by
  have hspec := spec call h hquiet
  constructor
  · rintro ⟨hrequests, hkept, _⟩
    constructor
    · cases haccepted : call.accepted s with
      | true =>
        have hraised := hspec.raises haccepted
        rw [hkept haccepted] at hraised
        cases hraised
      | false => rfl
    · have heq := hspec.requests.symm.trans hrequests
      intro request hrequest
      have hmap := (List.append_cancel_left heq).trans (List.map_id _).symm
      have hsame := List.map_inj_left.1 hmap request hrequest
      exact (congrArg RefundRequest.refundFee hsame).symm
  · rintro ⟨haccepted, hnothing⟩
    refine ⟨?_, ?_, (hspec.booked haccepted).1⟩
    · rw [hspec.requests]
      congr 1
      refine (List.map_inj_left.2 ?_).trans (List.map_id _)
      intro request hrequest
      rw [← hnothing request hrequest]
      rfl
    · rw [haccepted]
      intro hfalse
      cases hfalse

end RefundCall

/-- Every call of a run is lawful exactly when no provider accepts a refund and no refund
of a provider is of more than nothing. -/
theorem refunds_lawful_iff (calls : List RefundCall) (s : XiaolupayDb) (h : Booked s)
    (hquiet : Quiet s) :
    Guarded RefundCall.exec Lawful calls s ↔ Guarded RefundCall.exec Unanswered calls s := by
  refine guarded_iff_guarded (I := fun s => Booked s ∧ Quiet s) ?_ ?_ calls s ⟨h, hquiet⟩
  · rintro s call ⟨h, hquiet⟩
    exact RefundCall.lawful_iff call h hquiet
  · rintro s call ⟨h, hquiet⟩ ⟨haccepted, _⟩
    exact (RefundCall.spec call h hquiet).booked haccepted

theorem Booked.fresh {s : XiaolupayDb} (hrefunds : s.refunds = Table.empty)
    (hcharges : ∀ charge ∈ s.charges, charge.amountRefunded = 0 ∧ 0 ≤ charge.amount) :
    Booked s := by
  constructor
  · intro charge hcharge
    rw [hrefunds, (hcharges charge hcharge).1]
    rfl
  · intro charge hcharge
    rw [(hcharges charge hcharge).1]
    exact (hcharges charge hcharge).2
  · rw [hrefunds]
    intro refund hrefund
    cases hrefund
  · rw [hrefunds]
    intro refund hrefund
    cases hrefund

theorem Quiet.fresh {s : XiaolupayDb} (hwaiting : s.onCommit = []) (hsignals : s.signals = []) :
    Quiet s := by
  refine ⟨hwaiting, ?_⟩
  rw [hsignals]
  intro id hid
  cases hid

/-- A charge of five yuan that was paid over WeChat Pay. -/
def samplePaid : ChargeOrder where
  id := 1
  orderNo := "xd1"
  channel := .wx
  paid := true
  refunded := false
  amount := 500
  timePaid := some 10
  transactionNo := "wx1"
  amountRefunded := 0
  failureCode := ""
  failureMsg := ""

def sampleDb : XiaolupayDb where
  charges := Table.empty.insert samplePaid
  credentials := Table.empty
  refunds := Table.empty
  onCommit := []
  signals := []
  requests := []

def wxpayAnswers (resultCode : String) (fee : Int) : Answers where
  alipay := .error alipayException
  wxpay := .ok ⟨"SUCCESS", some resultCode, [fee], some "wx1"⟩

theorem sampleDb_booked : Booked sampleDb := by
  apply Booked.fresh rfl
  intro charge hcharge
  rcases Table.mem_insert.1 hcharge with hcharge | rfl
  · cases hcharge
  · exact ⟨rfl, by decide⟩

/-- A refund of nothing that WeChat Pay turns down, at once and when it is looked up. -/
theorem refunds_lawful_refused :
    Guarded RefundCall.exec Lawful
      [.create 20 (wxpayAnswers "FAIL" 0) samplePaid ⟨0, "", some "RD1"⟩,
        .retrieve 30 (wxpayAnswers "FAIL" 0) "RD1"] sampleDb :=
  (refunds_lawful_iff _ _ sampleDb_booked (Quiet.fresh rfl rfl)).2 (by decide +kernel)

/-- One yuan is to go back: nothing is asked for, WeChat Pay accepts, and the call raises
and leaves no refund. -/
theorem refunds_lawful_fail :
    ¬ Guarded RefundCall.exec Lawful
        [.create 20 (wxpayAnswers "SUCCESS" 0) samplePaid ⟨100, "", some "RD1"⟩] sampleDb ∧
      (RefundCall.create 20 (wxpayAnswers "SUCCESS" 0) samplePaid
        ⟨100, "", some "RD1"⟩).raised sampleDb = true ∧
      ((RefundCall.create 20 (wxpayAnswers "SUCCESS" 0) samplePaid
        ⟨100, "", some "RD1"⟩).exec sampleDb).requests = [⟨"RD1", 0⟩] := by
  refine ⟨?_, by decide +kernel, by decide +kernel⟩
  rintro ⟨hlawful, _⟩
  have hkept := hlawful.kept (by decide +kernel)
  revert hkept
  decide +kernel

end ShopManager.Xiaolupay
