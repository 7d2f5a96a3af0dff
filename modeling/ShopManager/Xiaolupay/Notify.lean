import Mathlib.Data.List.MinMax
import ShopManager.Library.Execution
import ShopManager.Xiaolupay.Model

/-!
# Payment notifications

Anybody may post a notification to the URL of a channel.  Its fields are taken as they
come: no signature, no result code and no amount is looked at before the charge whose
number or row id they name is paid.
-/

namespace ShopManager.Xiaolupay

open Library Library.Tx Library.Execution

/-! ## What the notified reads -/

/-- The parsers that the code is given, and the signatures, which it does not check. -/
structure Surroundings where
  xml2dict : String → Except Exn Fields
  strptime : String → String → Option Nat
  signed : Channel → Fields → Bool

/-- `AliPayAPIError`, which a query may end in. -/
def alipayApiError : Exn := .exception "AliPayAPIError"

/-- What became of a payment: if it succeeded, the time it was made at. -/
structure Outcome where
  timePaid : Option (Option Nat)
  transactionNo : String
  deriving DecidableEq, Repr

def statusSuccess : String := "TRADE_SUCCESS"

namespace Surroundings

variable (env : Surroundings)

def parseTime (format text : String) : Except Exn Nat :=
  match env.strptime text format with
  | some time => .ok time
  | none => .error (.valueError text)

def alipayTime (resp : Content) : Except Exn (Option Nat) :=
  match (resp.get "gmt_payment").filter (· ≠ "") <|>
      (resp.get "send_pay_date").filter (· ≠ "") with
  | none => .ok none
  | some text => (env.parseTime "%Y-%m-%d %H:%M:%S" text).map some

def alipayOutcome (resp : Content) : Except Exn Outcome := do
  let status ← resp.item "trade_status"
  let transactionNo := (resp.get "trade_no").getD ""
  if status = statusSuccess then do
    let time ← env.alipayTime resp
    pure ⟨some time, transactionNo⟩
  else pure ⟨none, transactionNo⟩

/-- The time is asked for whether there is one, not whether the payment succeeded. -/
def wxpayOutcome (resp : Content) : Except Exn Outcome := do
  let returnCode ← resp.item "return_code"
  let transactionNo := (resp.get "transaction_id").getD ""
  match (resp.get "time_end").filter fun time => returnCode = "SUCCESS" ∧ time ≠ "" with
  | some time => do
      let timePaid ← env.parseTime "%Y%m%d%H%M%S" time
      pure ⟨some (some timePaid), transactionNo⟩
  | none => do
      let _ ← resp.item "return_msg"
      pure ⟨none, transactionNo⟩

def outcome : Provider → Content → Except Exn Outcome
  | .alipay => env.alipayOutcome
  | .wxpay => env.wxpayOutcome

/-- A notification is taken for the answer; without one the provider is asked, and an
error of Alipay's is a failure. -/
def answered (query : Except Exn Fields) (notifyOrderInfo : Option Content)
    (provider : Provider) : Except Exn Outcome :=
  match notifyOrderInfo, query with
  | some info, _ => env.outcome provider info
  | none, .ok fields => env.outcome provider (.form fields)
  | none, .error e =>
      if provider = .alipay ∧ e = alipayApiError then .ok ⟨none, ""⟩ else .error e

/-- `WXPay.process_wxpay_response`: a form is no XML. -/
def processWxpayResponse : Content → Except Exn Fields
  | .form _ => .error (.exception "TypeError")
  | .body text => do
      let fields ← env.xml2dict text
      if (fields.get "return_code").isSome then pure fields
      else .error (.exception ("no return_code in response data: " ++ text))

end Surroundings

def ChargeOrder.book (charge : ChargeOrder) (channel : Channel) (outcome : Outcome) :
    XiaolupayTx Unit :=
  match outcome.timePaid with
  | some timePaid => charge.confirmPaid timePaid channel outcome.transactionNo
  | none => charge.failurePaid outcome.transactionNo

def retrieveOrUpdateOrder (env : Surroundings) (query : Except Exn Fields) (orderNo : String)
    (channel : Option String) (notifyOrderInfo : Option Content) : XiaolupayTx Unit :=
  inBlock do
    match ← gets (ChargeOrder.find orderNo) with
    | none => pure ()
    | some charge =>
        if charge.paid = true then pure ()
        else
          let channel := match channel with
            | some name => Channel.ofName name
            | none => some charge.channel
          match channel.bind fun channel => channel.provider.map (channel, ·) with
          | none => charge.failurePaid ""
          | some (channel, provider) => do
              let outcome ← ofExcept (env.answered query notifyOrderInfo provider)
              charge.book channel outcome

def Credential.latest (orderNo : String) (s : XiaolupayDb) : Option Credential :=
  (s.credentials.filter fun credential => credential.orderNo = orderNo ∧
    (credential.channel = .alipay ∨ credential.channel = .alipayWap)).argmax Credential.created

def unqueried : Except Exn Fields := .error alipayApiError

def notifyAlipay (env : Surroundings) (content : Content) : XiaolupayTx Unit := do
  let orderNo ← ofExcept (content.item "out_trade_no")
  let credential ← getOr .attributeError (Credential.latest orderNo)
  retrieveOrUpdateOrder env unqueried orderNo (some credential.channel.name) (some content)

def notifyWxpay (env : Surroundings) (channel : String) (content : Content) :
    XiaolupayTx Unit := do
  let fields ← ofExcept (env.processWxpayResponse content)
  let orderNo ← ofExcept ((Content.form fields).item "out_trade_no")
  retrieveOrUpdateOrder env unqueried orderNo (some channel) (some (.form fields))

def payChannelNotify (env : Surroundings) (channel : String) (content : Content) :
    XiaolupayTx Unit :=
  if content.isEmpty = true then pure ()
  else
    match Channel.ofName channel with
    | some .alipay | some .alipayWap => notifyAlipay env content
    | some .wx | some .wxPub => notifyWxpay env channel content
    | _ => retrieveOrUpdateOrder env unqueried "" (some channel) (some content)

/-! ## Notifications and what they say -/

structure Notification where
  channel : String
  content : Content
  deriving DecidableEq, Repr

/-- The cents of a number of yuan, which has at most two decimals. -/
def yuan (text : String) : Option Nat :=
  match text.toList.splitOn '.' with
  | [whole] => (digits (String.ofList whole)).map (100 * ·)
  | [whole, [d]] => do
      let n ← digits (String.ofList whole)
      let m ← digits (String.ofList [d])
      some (100 * n + 10 * m)
  | [whole, [d, e]] => do
      let n ← digits (String.ofList whole)
      let m ← digits (String.ofList [d, e])
      some (100 * n + m)
  | _ => none

def Fields.reportsSuccess (fields : Fields) : Provider → Bool
  | .alipay => fields.get "trade_status" = some statusSuccess
  | .wxpay => fields.get "return_code" = some "SUCCESS" && fields.get "result_code" = some "SUCCESS"

def Fields.statedAmount (fields : Fields) : Provider → Option Int
  | .alipay => ((fields.get "total_amount").bind yuan).map Nat.cast
  | .wxpay => ((fields.get "total_fee").bind digits).map Nat.cast

namespace Surroundings

variable (env : Surroundings)

def timed (fields : Fields) : Provider → Bool
  | .alipay => (env.alipayTime (.form fields)).isOk
  | .wxpay => match (fields.get "time_end").filter (· ≠ "") with
    | none => false
    | some time => (env.parseTime "%Y%m%d%H%M%S" time).isOk

/-- All that the code asks of a success: the result code of WeChat Pay is not read. -/
def claimsSuccess (fields : Fields) : Provider → Bool
  | .alipay => fields.get "trade_status" = some statusSuccess && env.timed fields .alipay
  | .wxpay => fields.get "return_code" = some "SUCCESS" && env.timed fields .wxpay

end Surroundings

def Channel.named (fields : Fields) : Channel → Option String
  | alipay | alipayWap | wx | wxPub => fields.get "out_trade_no"
  | weapp => some ""
  | upmpWap => none

namespace Notification

section

variable (env : Surroundings) (n : Notification)

def program : XiaolupayTx Unit := payChannelNotify env n.channel n.content

def exec (s : XiaolupayDb) : XiaolupayDb := ((n.program env).run s).2

def message : Option (Channel × Fields) :=
  match Channel.ofName n.channel, n.content with
  | some channel, .form fields => some (channel, fields)
  | some channel, .body text => (env.xml2dict text).toOption.map (channel, ·)
  | none, _ => none

/-- The message is the provider's, and says that the charge was paid in full. -/
def authentic (charge : ChargeOrder) : Bool :=
  match n.message env with
  | none => false
  | some (channel, fields) =>
      match channel.provider with
      | none => false
      | some provider =>
          env.signed channel fields && fields.get "out_trade_no" = some charge.orderNo &&
            fields.reportsSuccess provider &&
            fields.statedAmount provider = some charge.amount

/-- The fields that the code reads from the message: of a form for Alipay and for the
applet, of a body for WeChat Pay. -/
def reading : Option (Channel × Fields) :=
  if n.content.isEmpty = true then none
  else
    match Channel.ofName n.channel, n.content with
    | some .alipay, .form fields => some (.alipay, fields)
    | some .alipayWap, .form fields => some (.alipayWap, fields)
    | some .weapp, .form fields => some (.weapp, fields)
    | some .wx, content => (env.processWxpayResponse content).toOption.map (.wx, ·)
    | some .wxPub, content => (env.processWxpayResponse content).toOption.map (.wxPub, ·)
    | _, _ => none

variable (s : XiaolupayDb) (charge : ChargeOrder)

/-- The message reads as a success for the charge. -/
def claims : Bool :=
  match n.reading env with
  | none => false
  | some (channel, fields) =>
      match channel.provider, channel.named fields with
      | some provider, some orderNo =>
          env.claimsSuccess fields provider && ChargeOrder.find orderNo s = some charge &&
            (provider = .wxpay || (Credential.latest orderNo s).isSome)
      | _, _ => false

/-- The charge has a credential for the channel, and the provider posts the message as it
does: Alipay a form, WeChat Pay a body, each with a time that can be read. -/
def delivered : Bool :=
  match Channel.ofName n.channel, n.content with
  | some channel, .form fields =>
      channel.provider = some .alipay && env.timed fields .alipay &&
        s.credentials.rows.any fun credential =>
          credential.orderNo = charge.orderNo && credential.channel.provider = some .alipay
  | some channel, .body text =>
      channel.provider = some .wxpay && text ≠ "" &&
        (match env.xml2dict text with
        | .ok fields => env.timed fields .wxpay
        | .error _ => false) &&
        s.credentials.rows.any fun credential =>
          credential.orderNo = charge.orderNo && credential.channel = channel
  | none, _ => false

end

end Notification

def PaidIn (s : XiaolupayDb) (id : Nat) : Prop := ∃ charge ∈ s.charges, charge.id = id ∧ charge.paid = true

/-- A charge becomes paid by an authentic message, and by each that is delivered, and no
charge is signalled twice. -/
structure Believed (env : Surroundings) (s : XiaolupayDb) (n : Notification) : Prop where
  authentic : ∀ charge ∈ s.charges, charge.paid = false → PaidIn (n.exec env s) charge.id →
    n.authentic env charge = true
  paid : ∀ charge ∈ s.charges, charge.paid = false → n.authentic env charge = true →
    n.delivered env s charge = true → PaidIn (n.exec env s) charge.id
  once : ∀ id, (n.exec env s).signals.count (.chargeSuccess id) ≤ 1

/-- No charge was signalled twice, and none that is not paid. -/
structure Signalled (s : XiaolupayDb) : Prop where
  waiting : s.onCommit = []
  once : ∀ id, s.signals.count (.chargeSuccess id) ≤ 1
  unpaid : ∀ charge ∈ s.charges, charge.paid = false →
    s.signals.count (.chargeSuccess charge.id) = 0

/-- What reads as a success for an unpaid charge is authentic, and an authentic success
comes neither on the applet's channel nor under a number that finds another charge. -/
def Trusted (env : Surroundings) (s : XiaolupayDb) (n : Notification) : Prop :=
  ∀ charge ∈ s.charges.rows, charge.paid = false →
    (n.claims env s charge = true → n.authentic env charge = true) ∧
    (n.authentic env charge = true → n.delivered env s charge = true →
      Channel.ofName n.channel ≠ some .weapp ∧ ChargeOrder.find charge.orderNo s = some charge)

instance (env : Surroundings) (s : XiaolupayDb) (n : Notification) :
    Decidable (Trusted env s n) :=
  inferInstanceAs (Decidable (∀ charge ∈ s.charges.rows, _))

/-! ## What a notification does -/

def succeeds : Except Exn Outcome → Bool
  | .ok outcome => outcome.timePaid.isSome
  | .error _ => false

theorem succeeds_outcome (env : Surroundings) (provider : Provider) (fields : Fields) :
    succeeds (env.outcome provider (.form fields)) = env.claimsSuccess fields provider := by
  cases provider with
  | alipay =>
    simp only [Surroundings.outcome, Surroundings.alipayOutcome, Content.item,
      Surroundings.claimsSuccess, Surroundings.timed]
    cases fields.get "trade_status" with
    | none => rfl
    | some status =>
      by_cases hstatus : status = statusSuccess
      · subst hstatus
        cases env.alipayTime (.form fields) <;> simp [succeeds, Except.isOk, bind,
          Except.bind, pure, Except.pure, Except.toBool]
      · simp [succeeds, hstatus, bind, Except.bind, pure, Except.pure]
  | wxpay =>
    simp only [Surroundings.outcome, Surroundings.wxpayOutcome, Content.item,
      Surroundings.claimsSuccess, Surroundings.timed, Content.get]
    cases fields.get "return_code" with
    | none => rfl
    | some returnCode =>
      by_cases hreturn : returnCode = "SUCCESS"
      · subst hreturn
        cases fields.get "time_end" with
        | none => cases fields.get "return_msg" <;> rfl
        | some time =>
          by_cases htime : time = ""
          · subst htime
            cases fields.get "return_msg" <;> rfl
          · cases hparse : env.parseTime "%Y%m%d%H%M%S" time <;>
              simp [succeeds, Option.filter, htime, hparse, Except.isOk, bind, Except.bind,
                pure, Except.pure, Except.toBool]
      · have hnone : ((fields.get "time_end").filter fun time =>
            returnCode = "SUCCESS" ∧ time ≠ "") = none := by
          rw [Option.filter_eq_none_iff]
          simp [hreturn]
        simp only [bind, Except.bind, hnone]
        cases fields.get "return_msg" <;> simp [succeeds, pure, Except.pure, hreturn]

/-- A step of the store in which the charge `paid` becomes paid, if there is one. -/
inductive Step (s : XiaolupayDb) : Option ChargeOrder → XiaolupayDb → Prop where
  | kept : Step s none s
  | failed {charge row : ChargeOrder} (hmem : charge ∈ s.charges) (hunpaid : charge.paid = false)
      (hid : row.id = charge.id) (hrow : row.paid = false) :
      Step s none { s with charges := s.charges.save row }
  | confirmed {charge row : ChargeOrder} (hmem : charge ∈ s.charges)
      (hunpaid : charge.paid = false) (hid : row.id = charge.id) (hrow : row.paid = true) :
      Step s (some charge) { s with
        charges := s.charges.save row
        signals := s.signals ++ [.chargeSuccess charge.id] }

def providerOf (name : String) : Option Provider := (Channel.ofName name).bind Channel.provider

section

variable {s : XiaolupayDb} {charge : ChargeOrder} (hwaiting : s.onCommit = [])
  (hmem : charge ∈ s.charges) (hunpaid : charge.paid = false)

include hwaiting hmem hunpaid

theorem failurePaid_step (transactionNo : String) :
    Step s none ((inBlock (charge.failurePaid transactionNo)).run s).2 := by
  have hrun : (inBlock (charge.failurePaid transactionNo)).run s =
      (.ok (), { s with
        charges := s.charges.save { charge with transactionNo := transactionNo } }) :=
    inBlock_quiet hwaiting rfl
  rw [hrun]
  exact .failed hmem hunpaid rfl hunpaid

theorem confirmPaid_step (timePaid : Option Nat) (channel : Channel) (transactionNo : String) :
    Step s (some charge)
      ((inBlock (charge.confirmPaid timePaid channel transactionNo)).run s).2 := by
  unfold ChargeOrder.confirmPaid ChargeOrder.save
  rw [inBlock_ok (modify_bind_run _ _ _)]
  simp only [hwaiting, List.nil_append]
  have hstep : Step s (some charge) { s with
      charges := s.charges.save { charge with
        channel := channel
        transactionNo := if transactionNo ≠ "" then transactionNo else charge.transactionNo
        paid := true
        timePaid := timePaid }
      signals := s.signals ++ [.chargeSuccess charge.id] } := .confirmed hmem hunpaid rfl rfl
  rw [hwaiting] at hstep
  exact hstep

end

theorem retrieve_step (env : Surroundings) {s : XiaolupayDb} (hwaiting : s.onCommit = [])
    (orderNo name : String) (info : Content) :
    Step s ((ChargeOrder.find orderNo s).filter fun charge => !charge.paid &&
        (providerOf name).any fun provider => succeeds (env.outcome provider info))
      ((retrieveOrUpdateOrder env unqueried orderNo (some name) (some info)).run s).2 := by
  cases hfind : ChargeOrder.find orderNo s with
  | none =>
    have hrun : (retrieveOrUpdateOrder env unqueried orderNo (some name) (some info)).run s =
        (.ok (), s) := by
      unfold retrieveOrUpdateOrder
      apply inBlock_quiet hwaiting
      rw [gets_bind_run, hfind]
      rfl
    rw [hrun]
    exact .kept
  | some charge =>
    have hmem : charge ∈ s.charges := Table.mem_of_first hfind
    cases hpaid : charge.paid with
    | true =>
      have hrun : (retrieveOrUpdateOrder env unqueried orderNo (some name)
          (some info)).run s = (.ok (), s) := by
        unfold retrieveOrUpdateOrder
        apply inBlock_quiet hwaiting
        rw [gets_bind_run, hfind]
        simp only [hpaid, if_true]
        rfl
      rw [hrun, Option.filter_some_neg (by simp [hpaid])]
      exact .kept
    | false =>
      have hlookup : (retrieveOrUpdateOrder env unqueried orderNo (some name)
          (some info)).run s = (inBlock (match (Channel.ofName name).bind fun channel =>
            channel.provider.map (channel, ·) with
          | none => charge.failurePaid ""
          | some (channel, provider) => do
              let outcome ← ofExcept (env.outcome provider info)
              charge.book channel outcome)).run s := by
        unfold retrieveOrUpdateOrder
        apply inBlock_congr
        rw [gets_bind_run, hfind]
        simp only [hpaid, Bool.false_eq_true, if_false]
        rfl
      rw [hlookup]
      have hfailed := failurePaid_step hwaiting hmem hpaid
      cases hchannel : Channel.ofName name with
      | none =>
        rw [Option.filter_some_neg (by simp [providerOf, hchannel])]
        exact hfailed ""
      | some channel =>
        cases hprovider : channel.provider with
        | none =>
          rw [Option.filter_some_neg (by simp [providerOf, hchannel, hprovider])]
          simp only [Option.bind_some, hprovider, Option.map_none]
          exact hfailed ""
        | some provider =>
          simp only [Option.bind_some, hprovider, Option.map_some]
          cases houtcome : env.outcome provider info with
          | error e =>
            rw [Option.filter_some_neg
              (by simp [providerOf, hchannel, hprovider, houtcome, succeeds])]
            rw [inBlock_raised (ofExcept_bind_run _ _ _)]
            exact .kept
          | ok outcome =>
            have hbook : (ofExcept (Except.ok outcome) >>= fun outcome =>
                charge.book channel outcome).run s = (charge.book channel outcome).run s :=
              rfl
            rw [inBlock_congr hbook]
            obtain ⟨timePaid, transactionNo⟩ := outcome
            cases timePaid with
            | none =>
              rw [Option.filter_some_neg
                (by simp [providerOf, hchannel, hprovider, houtcome, succeeds])]
              exact hfailed transactionNo
            | some timePaid =>
              rw [Option.filter_some_pos
                (by simp [providerOf, hchannel, hprovider, houtcome, succeeds, hpaid])]
              exact confirmPaid_step hwaiting hmem hpaid timePaid channel
                transactionNo

theorem Credential.latest_provider {orderNo : String} {s : XiaolupayDb} {credential : Credential}
    (h : Credential.latest orderNo s = some credential) :
    credential.channel.provider = some .alipay := by
  have hmem := List.argmax_mem h
  have hspec := (List.mem_filter.1 hmem).2
  simp only [decide_eq_true_eq] at hspec
  rcases hspec.2 with hchannel | hchannel <;> rw [hchannel] <;> rfl

namespace Notification

variable {env : Surroundings} {n : Notification} {s : XiaolupayDb}

def Pays (env : Surroundings) (n : Notification) (s : XiaolupayDb) (paid : Option ChargeOrder) :
    Prop :=
  ∀ charge, paid = some charge ↔ n.claims env s charge = true ∧ charge.paid = false

theorem pays_none (h : ∀ charge, n.claims env s charge = false) : Pays env n s none := by
  intro charge
  simp [h charge]

theorem pays_filter {channel : Channel} {fields : Fields} {provider : Provider}
    {orderNo name : String} (hreading : n.reading env = some (channel, fields))
    (hchannel : channel.provider = some provider) (hname : providerOf name = some provider)
    (hnamed : channel.named fields = some orderNo)
    (hlatest : provider = .wxpay ∨ (Credential.latest orderNo s).isSome = true) :
    Pays env n s ((ChargeOrder.find orderNo s).filter fun charge => !charge.paid &&
      (providerOf name).any fun provider => succeeds (env.outcome provider (.form fields))) := by
  intro charge
  have hcredential : (decide (provider = .wxpay) || (Credential.latest orderNo s).isSome) = true := by
    simpa using hlatest
  simp only [Option.filter_eq_some_iff, hname, Option.any_some, succeeds_outcome, claims, hreading,
    hchannel, hnamed, hcredential]
  simp only [Bool.and_eq_true, Bool.not_eq_true', decide_eq_true_eq, Bool.and_true]
  tauto

theorem alipay_step (hwaiting : s.onCommit = []) (channel : Channel)
    (hprovider : channel.provider = some .alipay)
    (hreading : ∀ fields, n.content = .form fields → n.reading env = some (channel, fields))
    (hbody : ∀ text, n.content = .body text → n.reading env = none)
    (hnamed : ∀ fields, channel.named fields = fields.get "out_trade_no") :
    ∃ paid, Step s paid ((notifyAlipay env n.content).run s).2 ∧ Pays env n s paid := by
  unfold notifyAlipay
  cases hcontent : n.content with
  | body text =>
    refine ⟨none, .kept, pays_none ?_⟩
    intro charge
    simp [claims, hbody text hcontent]
  | form fields =>
    have hread := hreading fields hcontent
    rw [ofExcept_bind_run]
    cases hget : fields.get "out_trade_no" with
    | none =>
      simp only [Content.item, hget]
      refine ⟨none, .kept, pays_none ?_⟩
      intro charge
      simp [claims, hread, hprovider, hnamed, hget]
    | some orderNo =>
      simp only [Content.item, hget]
      rw [getOr_bind_run]
      cases hlatest : Credential.latest orderNo s with
      | none =>
        refine ⟨none, .kept, pays_none ?_⟩
        intro charge
        simp [claims, hread, hprovider, hnamed, hget, hlatest]
      | some credential =>
        refine ⟨_, retrieve_step env hwaiting orderNo credential.channel.name _, ?_⟩
        refine pays_filter hread hprovider ?_ ((hnamed fields).trans hget) ?_
        · rw [providerOf, Channel.ofName_name, Option.bind_some,
            Credential.latest_provider hlatest]
        · right
          rw [hlatest]
          rfl

theorem wxpay_step (hwaiting : s.onCommit = []) {channel : Channel}
    (hname : Channel.ofName n.channel = some channel)
    (hprovider : channel.provider = some .wxpay)
    (hreading : n.reading env = (env.processWxpayResponse n.content).toOption.map (channel, ·))
    (hnamed : ∀ fields, channel.named fields = fields.get "out_trade_no") :
    ∃ paid, Step s paid ((notifyWxpay env n.channel n.content).run s).2 ∧
      Pays env n s paid := by
  unfold notifyWxpay
  rw [ofExcept_bind_run]
  cases hprocess : env.processWxpayResponse n.content with
  | error e =>
    refine ⟨none, .kept, pays_none ?_⟩
    intro charge
    simp [claims, hreading, hprocess, Except.toOption]
  | ok fields =>
    have hread : n.reading env = some (channel, fields) := by
      rw [hreading, hprocess]
      rfl
    simp only
    rw [ofExcept_bind_run]
    cases hget : fields.get "out_trade_no" with
    | none =>
      simp only [Content.item, hget]
      refine ⟨none, .kept, pays_none ?_⟩
      intro charge
      simp [claims, hread, hprovider, hnamed, hget]
    | some orderNo =>
      simp only [Content.item, hget]
      refine ⟨_, retrieve_step env hwaiting orderNo n.channel _, ?_⟩
      refine pays_filter hread hprovider ?_ ((hnamed fields).trans hget) (.inl rfl)
      rw [providerOf, hname, Option.bind_some, hprovider]

theorem unread_step (hwaiting : s.onCommit = []) (hreading : n.reading env = none)
    (houtcome : ∀ provider, providerOf n.channel = some provider →
      succeeds (env.outcome provider n.content) = false) :
    ∃ paid, Step s paid
      ((retrieveOrUpdateOrder env unqueried "" (some n.channel) (some n.content)).run s).2 ∧
        Pays env n s paid := by
  refine ⟨none, ?_, pays_none ?_⟩
  · have hstep := retrieve_step env hwaiting "" n.channel n.content
    have hnone : ((ChargeOrder.find "" s).filter fun charge => !charge.paid &&
        (providerOf n.channel).any fun provider =>
          succeeds (env.outcome provider n.content)) = none := by
      rw [Option.filter_eq_none_iff]
      intro charge _
      cases hprovider : providerOf n.channel with
      | none => simp
      | some provider => simp [houtcome provider hprovider]
    rw [hnone] at hstep
    exact hstep
  · intro charge
    simp [claims, hreading]

theorem notify_step (env : Surroundings) (n : Notification) (hwaiting : s.onCommit = []) :
    ∃ paid, Step s paid (n.exec env s) ∧ Pays env n s paid := by
  unfold exec program payChannelNotify
  by_cases hempty : n.content.isEmpty = true
  · rw [if_pos hempty]
    refine ⟨none, .kept, pays_none ?_⟩
    intro charge
    simp [claims, reading, hempty]
  · rw [if_neg hempty]
    cases hname : Channel.ofName n.channel with
    | none =>
      refine unread_step hwaiting ?_ ?_
      · rw [reading, if_neg hempty, hname]
      · simp [providerOf, hname]
    | some channel =>
      cases channel with
      | alipay =>
        refine alipay_step hwaiting .alipay rfl ?_ ?_ fun _ => rfl
        · intro fields hcontent
          rw [reading, if_neg hempty, hname, hcontent]
        · intro text hcontent
          rw [reading, if_neg hempty, hname, hcontent]
      | alipayWap =>
        refine alipay_step hwaiting .alipayWap rfl ?_ ?_ fun _ => rfl
        · intro fields hcontent
          rw [reading, if_neg hempty, hname, hcontent]
        · intro text hcontent
          rw [reading, if_neg hempty, hname, hcontent]
      | wx =>
        refine wxpay_step hwaiting hname rfl ?_ fun _ => rfl
        rw [reading, if_neg hempty, hname]
      | wxPub =>
        refine wxpay_step hwaiting hname rfl ?_ fun _ => rfl
        rw [reading, if_neg hempty, hname]
      | weapp =>
        cases hcontent : n.content with
        | form fields =>
          refine ⟨_, retrieve_step env hwaiting "" n.channel _, ?_⟩
          have hread : n.reading env = some (.weapp, fields) := by
            rw [reading, if_neg hempty, hname, hcontent]
          refine pays_filter hread rfl ?_ rfl (.inl rfl)
          rw [providerOf, hname]
          rfl
        | body text =>
          rw [← hcontent]
          refine unread_step hwaiting ?_ ?_
          · rw [reading, if_neg hempty, hname, hcontent]
          · intro provider _
            rw [hcontent]
            cases provider <;> rfl
      | upmpWap =>
        refine unread_step hwaiting ?_ ?_
        · rw [reading, if_neg hempty, hname]
        · simp [providerOf, hname, Channel.provider]

theorem pays_iff (hwaiting : s.onCommit = []) {charge : ChargeOrder}
    (hmem : charge ∈ s.charges) (hunpaid : charge.paid = false) :
    PaidIn (n.exec env s) charge.id ↔ n.claims env s charge = true := by
  obtain ⟨paid, hstep, hpays⟩ := notify_step env n hwaiting
  have hstill : ∀ row ∈ s.charges, row.id = charge.id → row.paid = true → False := by
    intro row hrow hid hpaid
    rw [Table.pk_inj hrow hmem hid, hunpaid] at hpaid
    cases hpaid
  constructor
  · rintro ⟨row, hrow, hid, hpaid⟩
    generalize n.exec env s = s' at hstep hrow
    cases hstep with
    | kept => exact (hstill row hrow hid hpaid).elim
    | failed _ _ _ hfailed =>
      rcases Table.mem_save hrow with rfl | ⟨hrow, _⟩
      · rw [hfailed] at hpaid
        cases hpaid
      · exact (hstill row hrow hid hpaid).elim
    | confirmed hcharge _ hsaved _ =>
      rcases Table.mem_save hrow with rfl | ⟨hrow, _⟩
      · have heq := Table.pk_inj hcharge hmem (hsaved.symm.trans hid)
        exact ((hpays charge).1 (by rw [heq])).1
      · exact (hstill row hrow hid hpaid).elim
  · intro hclaims
    rw [(hpays charge).2 ⟨hclaims, hunpaid⟩] at hstep
    generalize n.exec env s = s' at hstep
    cases hstep with
    | @confirmed _ row _ _ hid hrow =>
      exact ⟨row, Table.mem_save_self hmem hid.symm, hid, hrow⟩

theorem signalled_exec (h : Signalled s) : Signalled (n.exec env s) := by
  obtain ⟨paid, hstep, _⟩ := notify_step env n h.waiting
  generalize n.exec env s = s' at hstep
  cases hstep with
  | kept => exact h
  | @failed charge row hmem hunpaid hid _ =>
    refine ⟨h.waiting, h.once, ?_⟩
    intro c hc hpaid
    rcases Table.mem_save hc with rfl | ⟨hc, _⟩
    · rw [hid]
      exact h.unpaid charge hmem hunpaid
    · exact h.unpaid c hc hpaid
  | @confirmed charge row hmem hunpaid hid hrow =>
    have hzero := h.unpaid charge hmem hunpaid
    refine ⟨h.waiting, ?_, ?_⟩
    · intro id
      rw [List.count_append, List.count_singleton]
      by_cases heq : charge.id = id
      · rw [← heq, hzero]
        simp
      · have honce := h.once id
        simpa [heq] using honce
    · intro c hc hpaid
      rcases Table.mem_save hc with rfl | ⟨hc, hne⟩
      · rw [hrow] at hpaid
        cases hpaid
      · have hother : charge.id ≠ c.id := fun heq => hne (heq.symm.trans hid.symm)
        rw [List.count_append, h.unpaid c hc hpaid, List.count_singleton]
        simp [hother]

theorem authentic_iff {charge : ChargeOrder} :
    n.authentic env charge = true ↔ ∃ channel fields provider,
      n.message env = some (channel, fields) ∧ channel.provider = some provider ∧
        env.signed channel fields = true ∧ fields.get "out_trade_no" = some charge.orderNo ∧
        fields.reportsSuccess provider = true ∧
        fields.statedAmount provider = some charge.amount := by
  unfold authentic
  cases hmessage : n.message env with
  | none => simp
  | some message =>
    obtain ⟨channel, fields⟩ := message
    cases hprovider : channel.provider with
    | none => simp [hprovider]
    | some provider => simp [hprovider, and_assoc]

theorem claims_of_reading {charge : ChargeOrder} {channel : Channel} {fields : Fields}
    {provider : Provider} {orderNo : String} (hreading : n.reading env = some (channel, fields))
    (hprovider : channel.provider = some provider) (hnamed : channel.named fields = some orderNo)
    (hsuccess : env.claimsSuccess fields provider = true)
    (hcredential : provider = .wxpay ∨ (Credential.latest orderNo s).isSome = true) :
    n.claims env s charge = true ↔ ChargeOrder.find orderNo s = some charge := by
  unfold claims
  rw [hreading]
  simp only [hprovider, hnamed, hsuccess]
  simpa using fun _ => hcredential

theorem latest_isSome {orderNo : String}
    (h : s.credentials.rows.any (fun credential => credential.orderNo = orderNo &&
      credential.channel.provider = some .alipay) = true) :
    (Credential.latest orderNo s).isSome = true := by
  obtain ⟨credential, hmem, hspec⟩ := List.any_eq_true.1 h
  simp only [Bool.and_eq_true, decide_eq_true_eq] at hspec
  have hchannel : credential.channel = .alipay ∨ credential.channel = .alipayWap := by
    cases hcase : credential.channel <;> simp [hcase, Channel.provider] at hspec ⊢
  rw [Option.isSome_iff_ne_none]
  intro hnone
  have hempty := List.argmax_eq_none.1 hnone
  have hfiltered : credential ∈ s.credentials.filter fun credential =>
      credential.orderNo = orderNo ∧
        (credential.channel = .alipay ∨ credential.channel = .alipayWap) :=
    List.mem_filter.2 ⟨hmem, decide_eq_true ⟨hspec.1, hchannel⟩⟩
  rw [hempty] at hfiltered
  cases hfiltered

theorem claims_iff {charge : ChargeOrder} (hauthentic : n.authentic env charge = true)
    (hdelivered : n.delivered env s charge = true) :
    n.claims env s charge = true ↔
      Channel.ofName n.channel ≠ some .weapp ∧
        ChargeOrder.find charge.orderNo s = some charge := by
  obtain ⟨channel, fields, provider, hmessage, hprovider, _, hnumber, hreports, _⟩ :=
    authentic_iff.1 hauthentic
  cases hname : Channel.ofName n.channel with
  | none => simp [message, hname] at hmessage
  | some named =>
    cases hcontent : n.content with
    | form posted =>
      have hsame : named = channel ∧ posted = fields := by
        simpa [message, hname, hcontent] using hmessage
      obtain ⟨rfl, rfl⟩ := hsame
      simp only [delivered, hname, hcontent, Bool.and_eq_true, decide_eq_true_eq] at hdelivered
      obtain ⟨⟨halipay, htimed⟩, hcredential⟩ := hdelivered
      have hone : provider = .alipay := Option.some.inj (hprovider.symm.trans halipay)
      subst hone
      have hfields : n.content.isEmpty ≠ true := by
        rw [hcontent]
        intro hempty
        rw [List.isEmpty_iff.1 hempty] at hnumber
        cases hnumber
      have hread : n.reading env = some (named, posted) := by
        rw [reading, if_neg hfields, hname, hcontent]
        cases named <;> simp [Channel.provider] at halipay ⊢
      have hnamed : named.named posted = some charge.orderNo := by
        rw [← hnumber]
        cases named <;> simp [Channel.provider] at halipay ⊢ <;> rfl
      have hsuccess : env.claimsSuccess posted .alipay = true := by
        simp only [Fields.reportsSuccess] at hreports
        simp [Surroundings.claimsSuccess, hreports, htimed]
      rw [claims_of_reading hread hprovider hnamed hsuccess (.inr (latest_isSome hcredential))]
      have hne : named ≠ .weapp := by
        rintro rfl
        cases halipay
      simp [hne]
    | body text =>
      cases hparse : env.xml2dict text with
      | error e => simp [message, hname, hcontent, hparse, Except.toOption] at hmessage
      | ok parsed =>
        have hsame : named = channel ∧ parsed = fields := by
          simpa [message, hname, hcontent, hparse, Except.toOption] using hmessage
        obtain ⟨rfl, rfl⟩ := hsame
        simp only [delivered, hname, hcontent, hparse, Bool.and_eq_true,
          decide_eq_true_eq] at hdelivered
        obtain ⟨⟨⟨hwxpay, htext⟩, htimed⟩, _⟩ := hdelivered
        have hone : provider = .wxpay := Option.some.inj (hprovider.symm.trans hwxpay)
        subst hone
        have hreturn : parsed.get "return_code" = some "SUCCESS" := by
          simp only [Fields.reportsSuccess, Bool.and_eq_true, decide_eq_true_eq] at hreports
          exact hreports.1
        have hbody : n.content.isEmpty ≠ true := by simpa [hcontent, Content.isEmpty] using htext
        by_cases happlet : named = .weapp
        · subst happlet
          have hnothing : n.reading env = none := by
            rw [reading, if_neg hbody, hname, hcontent]
          simp [claims, hnothing]
        · have hread : n.reading env = some (named, parsed) := by
            rw [reading, if_neg hbody, hname, hcontent]
            have hprocess : env.processWxpayResponse (.body text) = .ok parsed := by
              simp [Surroundings.processWxpayResponse, hparse, hreturn, bind, Except.bind,
                pure, Except.pure]
            cases named <;>
              simp [Channel.provider, hprocess, Except.toOption] at hwxpay happlet ⊢
          have hnamed : named.named parsed = some charge.orderNo := by
            rw [← hnumber]
            cases named <;> simp [Channel.provider] at hwxpay happlet ⊢ <;> rfl
          have hsuccess : env.claimsSuccess parsed .wxpay = true := by
            simp [Surroundings.claimsSuccess, hreturn, htimed]
          rw [claims_of_reading hread hprovider hnamed hsuccess (.inl rfl)]
          simp [happlet]

theorem believed_iff (h : Signalled s) : Believed env s n ↔ Trusted env s n := by
  constructor
  · rintro ⟨hauthentic, hpaid, _⟩ charge hmem hunpaid
    constructor
    · intro hclaims
      exact hauthentic charge hmem hunpaid ((pays_iff h.waiting hmem hunpaid).2 hclaims)
    · intro hgenuine hdelivered
      rw [← claims_iff hgenuine hdelivered]
      exact (pays_iff h.waiting hmem hunpaid).1 (hpaid charge hmem hunpaid hgenuine hdelivered)
  · intro htrusted
    refine ⟨?_, ?_, (signalled_exec h).once⟩
    · intro charge hmem hunpaid hpaid
      exact (htrusted charge hmem hunpaid).1 ((pays_iff h.waiting hmem hunpaid).1 hpaid)
    · intro charge hmem hunpaid hgenuine hdelivered
      rw [pays_iff h.waiting hmem hunpaid, claims_iff hgenuine hdelivered]
      exact (htrusted charge hmem hunpaid).2 hgenuine hdelivered

end Notification

theorem signalled_throughout (env : Surroundings) (calls : List Notification) (s : XiaolupayDb)
    (h : Signalled s) : Throughout (Notification.exec env) Signalled calls s :=
  throughout_of_step (fun _ _ h => Notification.signalled_exec h) calls s h

/-- A charge of five yuan that waits for its payment over Alipay. -/
def sampleUnpaid : ChargeOrder where
  id := 1
  orderNo := "xd1"
  channel := .alipay
  paid := false
  refunded := false
  amount := 500
  timePaid := none
  transactionNo := ""
  amountRefunded := 0
  failureCode := ""
  failureMsg := ""

def unpaidDb : XiaolupayDb where
  charges := Table.empty.insert sampleUnpaid
  credentials := Table.empty.insert ⟨1, "xd1", .alipay, 5⟩
  refunds := Table.empty
  onCommit := []
  signals := []
  requests := []

def sampleSurroundings : Surroundings where
  xml2dict := fun _ => .error (.exception "ExpatError")
  strptime := fun text _ => if text = "2017-03-01 10:00:00" then some 1488333600 else none
  signed := fun _ fields => fields.get "sign" = some "signed"

/-- Alipay's message that `xd1` was paid, with a sign. -/
def samplePosted (sign : String) : Notification where
  channel := "alipay"
  content := .form [("out_trade_no", "xd1"), ("trade_status", "TRADE_SUCCESS"),
    ("total_amount", "5.00"), ("gmt_payment", "2017-03-01 10:00:00"), ("sign", sign)]

theorem unpaidDb_signalled : Signalled unpaidDb := by
  refine ⟨rfl, fun _ => Nat.zero_le _, fun _ _ _ => rfl⟩

theorem signalled_forged : Throughout (Notification.exec sampleSurroundings) Signalled
    [samplePosted "forged", samplePosted "signed"] unpaidDb :=
  signalled_throughout _ _ unpaidDb unpaidDb_signalled

end ShopManager.Xiaolupay
