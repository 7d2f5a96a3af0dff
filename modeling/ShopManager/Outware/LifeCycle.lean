import ShopManager.Library.Execution
import ShopManager.Outware.Push

/-!
# The life of a pushed order

What the gateway has accepted is not sent again, and a push that raises leaves nothing
behind.  A push that failed cannot be repeated before a cancellation, since its rows stay
valid; a cancellation asks the gateway once a push was ever good; and a lack of goods or a
delivery takes an order out of its last status.
-/

namespace ShopManager.Outware

open Library Library.Tx Library.Execution

/-! ## Runs -/

inductive Event where
  | createOrder (success : Bool) (push : Push)
  | cancelOrder (success : Bool) (orderCode : String)
  | delivery (orderCode : String)
  | goodlacks (orderCode lackGoods : String)
  | stateChange (orderCode : String) (orderStatus : Nat)
  deriving DecidableEq, Repr

variable (account : Account)

namespace Event

/-- Of a delivery only the status matters here: its packages are in other tables. -/
def program : Event → OutwareTx Unit
  | createOrder success push => do
      let _ ← Outware.createOrder account success push
  | cancelOrder success orderCode => do
      let _ ← Outware.cancelOrder account success orderCode
  | delivery orderCode => markSended orderCode
  | goodlacks orderCode lackGoods => do
      let _ ← updateOutwareOrderByOrderGoodlacks orderCode lackGoods
  | stateChange orderCode orderStatus => do
      let _ ← updateOutwareOrderByOrderStateChange orderCode orderStatus

def exec (event : Event) (s : OutwareDb) : OutwareDb := ((event.program account).run s).2

def raised (event : Event) (s : OutwareDb) : Bool :=
  match ((event.program account).run s).1 with
  | .ok _ => false
  | .error _ => true

end Event

namespace OutwareDb

variable (s : OutwareDb)

def held (id : Nat) : Bool :=
  match (s.requests.filter fun r => r.order = id && r.success).getLast? with
  | some r => r.asked ≠ .cancel
  | none => false

def lastFailed (id : Nat) (push : Push) : Bool :=
  (s.requests.filter fun r => r.order = id).getLast? = some ⟨id, .create push, false⟩

end OutwareDb

/-- The order is not cancelled and has a valid row for the order number of a SKU. -/
def Owns (s : OutwareDb) (order : OutwareOrder) (originSkuorderNo : String) : Prop :=
  order.status ≠ .cancel ∧ ∃ sku ∈ s.orderSkus, sku.isValid = true ∧
    sku.originSkuorderNo = originSkuorderNo ∧ sku.unionOrderCode = order.unionOrderCode

def Unique (s : OutwareDb) : Prop :=
  ∀ originSkuorderNo, ∀ order ∈ s.orders, ∀ other ∈ s.orders,
    Owns s order originSkuorderNo → Owns s other originSkuorderNo → order = other

structure Lawful (s : OutwareDb) (event : Event) : Prop where
  sentOnce : ∀ id push success,
    (event.exec account s).requests = s.requests ++ [⟨id, .create push, success⟩] →
      s.held id = false
  again : ∀ success push order, event = .createOrder success push →
    s.orderOf account push = some order → s.lastFailed order.id push = true →
      (event.exec account s).requests = s.requests ++ [⟨order.id, .create push, success⟩]
  unique : Unique (event.exec account s)
  unchanged : ∀ success push, event = .createOrder success push →
    event.raised account s = true → event.exec account s = s
  offline : ∀ success orderCode, event = .cancelOrder success orderCode →
    ∀ order ∈ s.orders, order.unionOrderCode = OutwareOrder.formatOrderCode account orderCode →
      s.held order.id = false → (event.exec account s).requests = s.requests
  final : ∀ order ∈ s.orders, ∀ order' ∈ (event.exec account s).orders, order'.id = order.id →
    (order.status = .sended → order'.status = .sended) ∧
    (order.status = .cancel → order'.status = .cancel ∨ ∃ push,
      (event.exec account s).requests = s.requests ++ [⟨order.id, .create push, true⟩])

def Only (s : OutwareDb) (orderCode : String) (order : OutwareOrder) : Prop :=
  (s.orders.filter fun order => order.unionOrderCode = orderCode) = [order]

def Orderly (s : OutwareDb) : Event → Prop
  | .createOrder success push =>
      (∀ order ∈ s.orders.rows, s.orderOf account push = some order →
        s.lastFailed order.id push = true → order.isReproducible = true ∧
          ∀ item ∈ push.dictObj.orderItems,
            (OutwareOrderSku.find item.skuOrderCode s).all OutwareOrderSku.isReproducible = true) ∧
      (Sends account s push →
        ((s.orderOf account push).all (fun order => order.status ≠ .cancel) = true ∨
          success = true) →
        ∀ other ∈ s.orders.rows, other.unionOrderCode = push.code account →
          other.orderType ≠ push.orderType → other.status = .cancel)
  | .cancelOrder success orderCode =>
      ∀ order ∈ s.orders.rows, Only s (OutwareOrder.formatOrderCode account orderCode) order →
        (s.held order.id = false → order.isActionSuccess .orderCreate s = false) ∧
        (order.status = .sended → order.isActionSuccess .orderCreate s = true ∧ success = false)
  | .delivery orderCode =>
      (OutwareOrder.find orderCode orderSale s).all (fun order => order.status ≠ .cancel) = true
  | .goodlacks orderCode _ =>
      ∀ order ∈ s.orders.rows, Only s orderCode order →
        order.status ≠ .sended ∧ order.status ≠ .cancel
  | .stateChange _ _ => True

section Decidable

variable (s : OutwareDb)

instance (orderCode : String) (order : OutwareOrder) : Decidable (Only s orderCode order) :=
  inferInstanceAs (Decidable (_ = [order]))

instance : ∀ event, Decidable (Orderly account s event)
  | .createOrder success push =>
      inferInstanceAs (Decidable ((∀ order ∈ s.orders.rows, s.orderOf account push = some order →
        s.lastFailed order.id push = true → _ ∧ ∀ item ∈ push.dictObj.orderItems, _) ∧
          (_ → _ → ∀ other ∈ s.orders.rows, _ → _ → other.status = .cancel)))
  | .cancelOrder success orderCode =>
      inferInstanceAs (Decidable (∀ order ∈ s.orders.rows, _ → (_ → _) ∧ (_ → _ ∧ success = false)))
  | .delivery orderCode => inferInstanceAs (Decidable (_ = true))
  | .goodlacks orderCode _ => inferInstanceAs (Decidable (∀ order ∈ s.orders.rows, _ → _ ∧ _))
  | .stateChange _ _ => isTrue trivial

end Decidable

/-! ## What holds between events -/

structure Kept (t t' : Table OutwareOrderSku) : Prop where
  numbers : Numbers t'
  rows : ∀ sku ∈ t, ∃ sku' ∈ t', sku'.originSkuorderNo = sku.originSkuorderNo ∧
    sku'.skuCode = sku.skuCode

def Stocked (t : Table OutwareOrderSku) (items : List OrderItem) : Prop :=
  (items.map OrderItem.skuOrderCode).Nodup ∧ ∀ item ∈ items, item.skuId ∈ account.skuCodes ∧
    ∃ sku ∈ t, sku.originSkuorderNo = item.skuOrderCode ∧ sku.skuCode = item.skuId

structure Sound (s : OutwareDb) : Prop where
  key : ∀ order ∈ s.orders, ∀ other ∈ s.orders, order.unionOrderCode = other.unionOrderCode →
    order.orderType = other.orderType → order = other
  numbers : Numbers s.orderSkus
  live : ∀ order ∈ s.orders, ∀ other ∈ s.orders, order.unionOrderCode = other.unionOrderCode →
    order.status ≠ .cancel → other.status ≠ .cancel → order = other
  known : ∀ r ∈ s.requests, ∃ order ∈ s.orders, order.id = r.order
  held : ∀ order ∈ s.orders, s.held order.id = true →
    order.isReproducible = false ∧ order.isActionSuccess .orderCreate s = true
  asked : ∀ r ∈ s.requests, ∀ push, r.asked = .create push →
    push.Complete ∧ Stocked account s.orderSkus push.dictObj.orderItems

section Invariant

variable {account} {s s' : OutwareDb}

theorem held_append {r : Request} (h : s'.requests = s.requests ++ [r]) (id : Nat) :
    s'.held id = if r.order = id ∧ r.success = true then decide (r.asked ≠ .cancel)
      else s.held id := by
  unfold OutwareDb.held
  rw [h, List.filter_append]
  by_cases hr : r.order = id ∧ r.success = true
  · rw [if_pos hr, List.filter_cons_of_pos (by simpa using hr), List.filter_nil,
      List.getLast?_concat]
  · rw [if_neg hr, List.filter_cons_of_neg (by simpa using hr), List.filter_nil,
      List.append_nil]

theorem held_congr (h : s'.requests = s.requests) (id : Nat) : s'.held id = s.held id := by
  unfold OutwareDb.held
  rw [h]

theorem held_eq_false {id : Nat} (h : ∀ r ∈ s.requests, r.order ≠ id) : s.held id = false := by
  have hnil : (s.requests.filter fun r => r.order = id && r.success) = [] := by
    rw [List.filter_eq_nil_iff]
    intro r hr
    simp [h r hr]
  unfold OutwareDb.held
  rw [hnil]
  rfl

theorem mem_of_lastFailed {id : Nat} {push : Push} (h : s.lastFailed id push = true) :
    ⟨id, .create push, false⟩ ∈ s.requests := by
  have hlast := of_decide_eq_true h
  exact (List.mem_filter.1 (List.mem_of_getLast? hlast)).1

theorem isActionSuccess_iff {order : OutwareOrder} {actionCode : Action} :
    order.isActionSuccess actionCode s = true ↔
      ∃ r ∈ s.records, r.objectId = order.id ∧ r.actionCode = actionCode ∧ r.good = true := by
  simp [OutwareOrder.isActionSuccess, and_assoc]

theorem Stocked.kept {t t' : Table OutwareOrderSku} {items : List OrderItem}
    (h : Stocked account t items) (hkept : Kept t t') : Stocked account t' items := by
  refine ⟨h.1, ?_⟩
  intro item hitem
  obtain ⟨hknown, sku, hsku, hno, hcode⟩ := h.2 item hitem
  obtain ⟨sku', hsku', hno', hcode'⟩ := hkept.rows sku hsku
  exact ⟨hknown, sku', hsku', hno'.trans hno, hcode'.trans hcode⟩

structure Turn (account : Account) (s s' : OutwareDb) (order : OutwareOrder) : Prop where
  orders : Replaced s.orders s'.orders order
  key : ∀ row ∈ s.orders, row.unionOrderCode = order.unionOrderCode →
    row.orderType = order.orderType → row.id = order.id
  skus : Kept s.orderSkus s'.orderSkus
  records : ∀ r ∈ s.records, r ∈ s'.records
  live : order.status ≠ .cancel → ∀ row ∈ s.orders, row.id ≠ order.id →
    row.unionOrderCode = order.unionOrderCode → row.status = .cancel
  requests : s'.requests = s.requests ∨ ∃ asked success,
    s'.requests = s.requests ++ [⟨order.id, asked, success⟩] ∧ ∀ push, asked = .create push →
      push.Complete ∧ Stocked account s'.orderSkus push.dictObj.orderItems
  held : s'.held order.id = true →
    order.isReproducible = false ∧ order.isActionSuccess .orderCreate s' = true

theorem Turn.held_other {order : OutwareOrder} (h : Turn account s s' order) {id : Nat}
    (hne : id ≠ order.id) : s'.held id = s.held id := by
  rcases h.requests with heq | ⟨asked, success, heq, -⟩
  · exact held_congr heq id
  · rw [held_append heq, if_neg fun hr => hne hr.1.symm]

theorem Turn.sound {order : OutwareOrder} (h : Turn account s s' order) (hs : Sound account s) :
    Sound account s' := by
  have hmem : order ∈ s'.orders := (h.orders order).2 (.inl rfl)
  constructor
  · intro a ha b hb hcode htype
    rcases (h.orders a).1 ha with rfl | ⟨ha, hane⟩ <;> rcases (h.orders b).1 hb with rfl | ⟨hb, hbne⟩
    · rfl
    · exact absurd (h.key b hb hcode.symm htype.symm) hbne
    · exact absurd (h.key a ha hcode htype) hane
    · exact hs.key a ha b hb hcode htype
  · exact h.skus.numbers
  · intro a ha b hb hcode halive hblive
    rcases (h.orders a).1 ha with rfl | ⟨ha, hane⟩ <;> rcases (h.orders b).1 hb with rfl | ⟨hb, hbne⟩
    · rfl
    · exact absurd (h.live halive b hb hbne hcode.symm) hblive
    · exact absurd (h.live hblive a ha hane hcode) halive
    · exact hs.live a ha b hb hcode halive hblive
  · intro r hr
    have hold : r ∈ s.requests ∨ r.order = order.id := by
      rcases h.requests with heq | ⟨asked, success, heq, -⟩
      · exact .inl (heq ▸ hr)
      · rw [heq] at hr
        rcases List.mem_append.1 hr with hr | hr
        · exact .inl hr
        · rw [List.mem_singleton.1 hr]
          exact .inr rfl
    rcases hold with hr | hid
    · obtain ⟨row, hrow, hid⟩ := hs.known r hr
      by_cases heq : row.id = order.id
      · exact ⟨order, hmem, heq.symm.trans hid⟩
      · exact ⟨row, (h.orders row).2 (.inr ⟨hrow, heq⟩), hid⟩
    · exact ⟨order, hmem, hid.symm⟩
  · intro row hrow hheld
    rcases (h.orders row).1 hrow with rfl | ⟨hrow, hne⟩
    · exact h.held hheld
    · rw [h.held_other hne] at hheld
      obtain ⟨hstatus, hgood⟩ := hs.held row hrow hheld
      obtain ⟨r, hr, hrecord⟩ := isActionSuccess_iff.1 hgood
      exact ⟨hstatus, isActionSuccess_iff.2 ⟨r, h.records r hr, hrecord⟩⟩
  · intro r hr push hasked
    have hkept : r ∈ s.requests →
        push.Complete ∧ Stocked account s'.orderSkus push.dictObj.orderItems := by
      intro hr
      obtain ⟨hcomplete, hstocked⟩ := hs.asked r hr push hasked
      exact ⟨hcomplete, hstocked.kept h.skus⟩
    rcases h.requests with heq | ⟨asked, success, heq, hnew⟩
    · exact hkept (heq ▸ hr)
    · rw [heq] at hr
      rcases List.mem_append.1 hr with hr | hr
      · exact hkept hr
      · rw [List.mem_singleton.1 hr] at hasked
        exact hnew push hasked

theorem Sound.unique (h : Sound account s) : Unique s := by
  rintro no order horder other hother ⟨hlive, sku, hsku, -, hno, hcode⟩
    ⟨hlive', sku', hsku', -, hno', hcode'⟩
  have hsame : sku = sku' := h.numbers sku hsku sku' hsku' (hno.trans hno'.symm)
  exact h.live order horder other hother (by rw [← hcode, hsame, hcode']) hlive hlive'

end Invariant

/-! ## Each event -/

structure Idle (s s' : OutwareDb) : Prop where
  orders : s'.orders = s.orders
  skus : s'.orderSkus = s.orderSkus
  requests : s'.requests = s.requests
  records : ∀ r ∈ s.records, r ∈ s'.records

section Steps

variable {account} {s s' : OutwareDb}

theorem Idle.refl (s : OutwareDb) : Idle s s := ⟨rfl, rfl, rfl, fun _ h => h⟩

theorem Idle.record (s : OutwareDb) (r : ActionRecord) :
    Idle s { s with records := s.records ++ [r] } :=
  ⟨rfl, rfl, rfl, fun _ h => List.mem_append_left _ h⟩

theorem Idle.sound (h : Idle s s') (hs : Sound account s) : Sound account s' := by
  constructor
  · rw [h.orders]
    exact hs.key
  · rw [h.skus]
    exact hs.numbers
  · rw [h.orders]
    exact hs.live
  · rw [h.orders, h.requests]
    exact hs.known
  · rw [h.orders]
    intro order horder hheld
    rw [held_congr h.requests] at hheld
    obtain ⟨hstatus, hgood⟩ := hs.held order horder hheld
    obtain ⟨r, hr, hrecord⟩ := isActionSuccess_iff.1 hgood
    exact ⟨hstatus, isActionSuccess_iff.2 ⟨r, h.records r hr, hrecord⟩⟩
  · rw [h.skus, h.requests]
    exact hs.asked

theorem ne_append_singleton {α : Type} (l : List α) (a : α) : l ≠ l ++ [a] := by
  simp

theorem Idle.lawful {event : Event} (hs : Sound account s) (h : Idle s (event.exec account s))
    (hagain : ∀ success push order, event = .createOrder success push →
      s.orderOf account push = some order → s.lastFailed order.id push = false)
    (hunchanged : ∀ success push, event = .createOrder success push →
      event.raised account s = true → event.exec account s = s) :
    Lawful account s event := by
  constructor
  · intro id push success hrequests
    rw [h.requests] at hrequests
    exact absurd hrequests (ne_append_singleton _ _)
  · intro success push order hevent hfind hfailed
    rw [hagain success push order hevent hfind] at hfailed
    cases hfailed
  · exact (h.sound hs).unique
  · exact hunchanged
  · intro success orderCode _ order _ _ _
    exact h.requests
  · intro order horder order' horder' hid
    rw [h.orders] at horder'
    rw [Table.pk_inj horder' horder hid]
    exact ⟨fun hsended => hsended, fun hcancel => .inl hcancel⟩

theorem takes_of_stocked {items : List OrderItem} (hnumbers : Numbers s.orderSkus)
    (h : Stocked account s.orderSkus items)
    (hfree : ∀ item ∈ items,
      (OutwareOrderSku.find item.skuOrderCode s).all OutwareOrderSku.isReproducible = true) :
    Takes account s items := by
  refine ⟨h.1, ?_⟩
  intro item hitem
  obtain ⟨hknown, sku, hsku, hno, hcode⟩ := h.2 item hitem
  have hfind := (find_eq_some hnumbers).2 ⟨hsku, hno⟩
  have hitemFree := hfree item hitem
  rw [hfind, Option.all_some] at hitemFree
  refine ⟨hknown, ?_⟩
  unfold Free
  rw [hfind]
  simp [hcode, hitemFree]

theorem all_of_takes {items : List OrderItem} (h : Takes account s items) {item : OrderItem}
    (hitem : item ∈ items) :
    (OutwareOrderSku.find item.skuOrderCode s).all OutwareOrderSku.isReproducible = true := by
  have hfree := (h.2 item hitem).2
  unfold Free at hfree
  cases hfind : OutwareOrderSku.find item.skuOrderCode s with
  | none => rfl
  | some sku =>
    rw [hfind] at hfree
    simp only [Bool.and_eq_true] at hfree
    exact hfree.2

theorem sends_again_iff (hs : Sound account s) {push : Push} {order : OutwareOrder}
    (hfind : s.orderOf account push = some order) (hfailed : s.lastFailed order.id push = true) :
    Sends account s push ↔ order.isReproducible = true ∧ ∀ item ∈ push.dictObj.orderItems,
      (OutwareOrderSku.find item.skuOrderCode s).all OutwareOrderSku.isReproducible = true := by
  obtain ⟨hcomplete, hstocked⟩ := hs.asked _ (mem_of_lastFailed hfailed) push rfl
  unfold Sends
  rw [hfind, Option.all_some]
  constructor
  · rintro ⟨-, hrepro, htakes⟩
    exact ⟨hrepro, fun item hitem => all_of_takes htakes hitem⟩
  · rintro ⟨hrepro, hfree⟩
    exact ⟨hcomplete, hrepro, takes_of_stocked hs.numbers hstocked hfree⟩

def Alone (account : Account) (s : OutwareDb) (push : Push) (success : Bool) : Prop :=
  ((s.orderOf account push).all (fun order => order.status ≠ .cancel) = true ∨ success = true) →
    ∀ other ∈ s.orders, other.unionOrderCode = push.code account →
      other.orderType ≠ push.orderType → other.status = .cancel

theorem Sent.key {push : Push} {success : Bool} {order : OutwareOrder}
    (hs : Sound account s) (h : Sent account s s' push success order) {row : OutwareOrder}
    (hrow : row ∈ s.orders) :
    (row.unionOrderCode = order.unionOrderCode ∧ row.orderType = order.orderType) ↔
      row.id = order.id := by
  rcases h.row with ⟨hnone, -, hnew⟩ | ⟨old, hold, hfind, hid, -⟩
  · constructor
    · rintro ⟨hcode, htype⟩
      have hnot := Table.first_eq_none.1 hnone row hrow
      simp [hcode, htype, h.code, h.type] at hnot
    · intro heq
      exact absurd heq (hnew row hrow)
  · obtain ⟨-, hcode, htype⟩ := orderOf_spec hfind
    constructor
    · rintro ⟨hcode', htype'⟩
      rw [hs.key row hrow old hold (by rw [hcode', h.code, hcode]) (by rw [htype', h.type, htype])]
      exact hid
    · intro heq
      rw [Table.pk_inj hrow hold (heq.trans hid.symm), hcode, htype, h.code, h.type]
      exact ⟨rfl, rfl⟩

theorem Sent.becomesLive {push : Push} {success : Bool} {order : OutwareOrder}
    (h : Sent account s s' push success order) :
    order.status ≠ .cancel ↔
      ((s.orderOf account push).all (fun order => order.status ≠ .cancel) = true ∨
        success = true) := by
  cases success with
  | true => simp [h.received rfl]
  | false =>
    rcases h.row with ⟨hnone, hstatus, -⟩ | ⟨old, hold, hfind, hid, hstatus⟩
    · simp [hnone, hstatus rfl]
    · simp [hfind, hstatus rfl]

theorem Sent.turn {push : Push} {success : Bool} {order : OutwareOrder} (hs : Sound account s)
    (hsends : Sends account s push) (h : Sent account s s' push success order)
    (halone : Alone account s push success) : Turn account s s' order := by
  constructor
  · exact h.orders
  · intro row hrow hcode htype
    exact (h.key hs hrow).1 ⟨hcode, htype⟩
  · exact ⟨h.skus.numbers, h.skus.kept⟩
  · intro r hr
    rw [h.records]
    exact List.mem_append_left _ hr
  · intro hlive row hrow hne hcode
    refine halone (h.becomesLive.1 hlive) row hrow (hcode.trans h.code) ?_
    intro htype
    exact hne ((h.key hs hrow).1 ⟨hcode, htype.trans h.type.symm⟩)
  · refine .inr ⟨_, _, h.requests, ?_⟩
    rintro push' heq
    cases heq
    refine ⟨hsends.1, hsends.2.2.1, ?_⟩
    intro item hitem
    obtain ⟨sku, hsku, htaken⟩ := h.skus.has item hitem
    exact ⟨(hsends.2.2.2 item hitem).1, sku, hsku, htaken.number, htaken.product⟩
  · intro hheld
    rw [held_append h.requests] at hheld
    cases success with
    | true =>
      refine ⟨by simp [OutwareOrder.isReproducible, h.received rfl], isActionSuccess_iff.2 ?_⟩
      exact ⟨⟨order.id, .orderCreate, true⟩, by simp [h.records], rfl, rfl, rfl⟩
    | false =>
      rw [if_neg (by simp)] at hheld
      rcases h.row with ⟨-, -, hnew⟩ | ⟨old, hold, hfind, hid, -⟩
      · rw [held_eq_false] at hheld
        · cases hheld
        · intro r hr heq
          obtain ⟨row, hrow, hrowId⟩ := hs.known r hr
          exact hnew row hrow (hrowId.trans heq)
      · rw [← hid] at hheld
        have hrepro := hsends.2.1
        rw [hfind, Option.all_some, (hs.held old hold hheld).1] at hrepro
        cases hrepro

end Steps

section Created

variable {account} {s : OutwareDb} {push : Push} {success : Bool}

theorem exec_createOrder (success : Bool) :
    (Event.createOrder success push).exec account s =
      ((createOrder account success push).run s).2 := by
  unfold Event.exec Event.program
  rw [bind_run]
  cases (createOrder account success push).run s with
  | mk r s' => cases r <;> rfl

theorem raised_createOrder (success : Bool) :
    (Event.createOrder success push).raised account s = true ↔
      ∃ e s', (createOrder account success push).run s = (.error e, s') := by
  unfold Event.raised Event.program
  rw [bind_run]
  cases (createOrder account success push).run s with
  | mk r s' =>
    cases r with
    | ok resp => simp
    | error e => simp

theorem exec_sent (success : Bool) (hs : Sound account s) (hsends : Sends account s push) :
    (Event.createOrder success push).raised account s = false ∧ ∃ order,
      Sent account s ((Event.createOrder success push).exec account s) push success order := by
  obtain ⟨order, resp, s', hrun, hsent⟩ := createOrder_sent hs.numbers hsends success
  rw [exec_createOrder, hrun]
  refine ⟨?_, order, hsent⟩
  rw [Bool.eq_false_iff]
  intro hraised
  obtain ⟨e, s'', herror⟩ := (raised_createOrder success).1 hraised
  rw [hrun] at herror
  cases herror

theorem exec_not_sent (success : Bool) (hs : Sound account s) (hnot : ¬ Sends account s push) :
    Idle s ((Event.createOrder success push).exec account s) ∧
      ((Event.createOrder success push).raised account s = true →
        (Event.createOrder success push).exec account s = s) := by
  rw [exec_createOrder, raised_createOrder]
  by_cases h : push.Complete ∧ ((s.orderOf account push).all OutwareOrder.isReproducible = true →
      Takes account s push.dictObj.orderItems)
  · cases hfind : s.orderOf account push with
    | none => exact absurd ⟨h.1, by rw [hfind]; rfl, h.2 (by rw [hfind]; rfl)⟩ hnot
    | some order =>
      have hrepro : order.isReproducible = false := by
        rw [Bool.eq_false_iff]
        intro hrepro
        have hall : (s.orderOf account push).all OutwareOrder.isReproducible = true := by
          rw [hfind, Option.all_some, hrepro]
        exact hnot ⟨h.1, hall, h.2 hall⟩
      rw [createOrder_held h.1 hfind hrepro success]
      refine ⟨Idle.record s _, ?_⟩
      rintro ⟨e, s', herror⟩
      cases herror
  · obtain ⟨e, hrun⟩ := createOrder_error hs.numbers h success
    rw [hrun]
    exact ⟨Idle.refl s, fun _ => rfl⟩

theorem lawful_sent (hs : Sound account s) (hsends : Sends account s push) :
    Lawful account s (.createOrder success push) ↔ Alone account s push success := by
  obtain ⟨hreturned, order, hsent⟩ := exec_sent success hs hsends
  constructor
  · intro hlawful hlives other hother hcode htype
    by_contra hlive
    have hne : other.id ≠ order.id := fun heq =>
      htype (((hsent.key hs hother).2 heq).2.trans hsent.type)
    have hitems : push.dictObj.orderItems ≠ [] := fun hnil => hsends.1.1 (.inr hnil)
    obtain ⟨item, hitem⟩ := List.exists_mem_of_ne_nil _ hitems
    obtain ⟨sku, hsku, htaken⟩ := hsent.skus.has item hitem
    have howns : Owns _ order item.skuOrderCode :=
      ⟨hsent.becomesLive.2 hlives, sku, hsku, htaken.valid, htaken.number,
        htaken.order.trans hsent.code.symm⟩
    have howns' : Owns _ other item.skuOrderCode :=
      ⟨hlive, sku, hsku, htaken.valid, htaken.number, htaken.order.trans hcode.symm⟩
    have heq := hlawful.unique _ order ((hsent.orders order).2 (.inl rfl)) other
      ((hsent.orders other).2 (.inr ⟨hother, hne⟩)) howns howns'
    exact hne (by rw [heq])
  · intro halone
    have hturn := hsent.turn hs hsends halone
    constructor
    · intro id push' success' hrequests
      rw [hsent.requests] at hrequests
      have hlast := List.append_cancel_left hrequests
      simp only [List.cons.injEq, Request.mk.injEq, and_true] at hlast
      obtain ⟨rfl, -⟩ := hlast
      rcases hsent.row with ⟨-, -, hnew⟩ | ⟨old, hold, hfind, hid, -⟩
      · apply held_eq_false
        intro r hr heq
        obtain ⟨row, hrow, hrowId⟩ := hs.known r hr
        exact hnew row hrow (hrowId.trans heq)
      · rw [Bool.eq_false_iff, ← hid]
        intro hheld
        have hrepro := hsends.2.1
        rw [hfind, Option.all_some, (hs.held old hold hheld).1] at hrepro
        cases hrepro
    · rintro success' push' order' heq hfind -
      cases heq
      rw [hsent.requests]
      rcases hsent.row with ⟨hnone, -, -⟩ | ⟨old, -, hfind', hid, -⟩
      · rw [hnone] at hfind
        cases hfind
      · rw [hfind] at hfind'
        cases hfind'
        rw [hid]
    · exact (hturn.sound hs).unique
    · rintro success' push' heq hraised
      cases heq
      rw [hreturned] at hraised
      cases hraised
    · rintro success' orderCode heq
      cases heq
    · intro row hrow row' hrow' hid
      rcases (hsent.orders row').1 hrow' with rfl | ⟨hrow', -⟩
      · have hrepro := hsends.2.1
        rcases hsent.row with ⟨-, -, hnew⟩ | ⟨old, hold, hfind, hid', hstatus⟩
        · exact absurd hid.symm (hnew row hrow)
        · rw [Table.pk_inj hrow hold (hid.symm.trans hid'.symm)]
          rw [hfind, Option.all_some] at hrepro
          constructor
          · intro hsended
            simp [OutwareOrder.isReproducible, hsended] at hrepro
          · intro hcancel
            cases success with
            | true =>
              refine .inr ⟨push, ?_⟩
              rw [hsent.requests, hid']
            | false => exact .inl ((hstatus rfl).trans hcancel)
      · rw [Table.pk_inj hrow' hrow hid]
        exact ⟨fun hsended => hsended, fun hcancel => .inl hcancel⟩

theorem lawful_not_sent (hs : Sound account s) (hnot : ¬ Sends account s push) :
    Lawful account s (.createOrder success push) ↔ ∀ order,
      s.orderOf account push = some order → s.lastFailed order.id push = false := by
  obtain ⟨hidle, hunchanged⟩ := exec_not_sent success hs hnot
  constructor
  · intro hlawful order hfind
    rw [Bool.eq_false_iff]
    intro hfailed
    have hrequests := hlawful.again success push order rfl hfind hfailed
    rw [hidle.requests] at hrequests
    exact ne_append_singleton _ _ hrequests
  · intro hnever
    refine hidle.lawful hs ?_ ?_
    · rintro success' push' order heq hfind
      cases heq
      exact hnever order hfind
    · rintro success' push' heq
      cases heq
      exact hunchanged

theorem step_createOrder (hs : Sound account s) :
    (Lawful account s (.createOrder success push) ↔ Orderly account s (.createOrder success push)) ∧
      (Orderly account s (.createOrder success push) →
        Sound account ((Event.createOrder success push).exec account s)) := by
  by_cases hsends : Sends account s push
  · have horderly : Orderly account s (.createOrder success push) ↔ Alone account s push success := by
      constructor
      · rintro ⟨-, halone⟩
        exact halone hsends
      · intro halone
        refine ⟨?_, fun _ => halone⟩
        intro order _ hfind hfailed
        exact (sends_again_iff hs hfind hfailed).1 hsends
    refine ⟨(lawful_sent hs hsends).trans horderly.symm, ?_⟩
    intro h
    obtain ⟨-, order, hsent⟩ := exec_sent success hs hsends
    exact (hsent.turn hs hsends (horderly.1 h)).sound hs
  · refine ⟨(lawful_not_sent hs hsends).trans ?_, fun _ => (exec_not_sent success hs hsends).1.sound hs⟩
    constructor
    · intro hnever
      refine ⟨?_, fun h => absurd h hsends⟩
      intro order _ hfind hfailed
      rw [hnever order hfind] at hfailed
      cases hfailed
    · rintro ⟨hagain, -⟩ order hfind
      rw [Bool.eq_false_iff]
      intro hfailed
      exact hsends ((sends_again_iff hs hfind hfailed).2
        (hagain order (orderOf_spec hfind).1 hfind hfailed))

end Created

section Moves

variable {account} {s s' : OutwareDb} {event : Event} {order order' : OutwareOrder}

theorem Kept.refl {t : Table OutwareOrderSku} (h : Numbers t) : Kept t t :=
  ⟨h, fun sku hsku => ⟨sku, hsku, rfl, rfl⟩⟩

theorem Kept.release {t : Table OutwareOrderSku} (h : Numbers t) (p : OutwareOrderSku → Bool) :
    Kept t (t.update p fun sku => { sku with isValid := false }) := by
  constructor
  · intro a ha b hb heq
    obtain ⟨x, hx, rfl⟩ := Table.exists_of_mem_update ha
    obtain ⟨y, hy, rfl⟩ := Table.exists_of_mem_update hb
    have hsame : x.originSkuorderNo = y.originSkuorderNo := by
      by_cases hpx : p x = true <;> by_cases hpy : p y = true <;>
        simp only [hpx, hpy, if_true, if_false, Bool.false_eq_true] at heq <;> exact heq
    rw [h x hx y hy hsame]
  · intro sku hsku
    refine ⟨_, Table.mem_update_of_mem hsku, ?_⟩
    by_cases hp : p sku = true
    · rw [if_pos hp]
      exact ⟨rfl, rfl⟩
    · rw [if_neg hp]
      exact ⟨rfl, rfl⟩

/-- An order is saved under its key, and the gateway is asked to cancel it at most. -/
structure Move (s s' : OutwareDb) (order order' : OutwareOrder) : Prop where
  mem : order ∈ s.orders
  id : order.id = order'.id
  code : order.unionOrderCode = order'.unionOrderCode
  type : order.orderType = order'.orderType
  orders : s'.orders = s.orders.save order'
  skus : Kept s.orderSkus s'.orderSkus
  records : ∀ r ∈ s.records, r ∈ s'.records
  requests : s'.requests = s.requests ∨ ∃ success,
    s'.requests = s.requests ++ [⟨order'.id, .cancel, success⟩]
  held : s'.held order'.id = true → s.held order.id = true ∧
    (order.isReproducible = false → order'.isReproducible = false)

theorem Move.turn (hs : Sound account s) (h : Move s s' order order')
    (hlive : order.status = .cancel → order'.status = .cancel) : Turn account s s' order' := by
  constructor
  · rw [h.orders]
    exact Replaced.save h.mem h.id
  · intro row hrow hcode htype
    rw [hs.key row hrow order h.mem (hcode.trans h.code.symm) (htype.trans h.type.symm)]
    exact h.id
  · exact h.skus
  · exact h.records
  · intro hlive' row hrow hne hcode
    by_contra hrowLive
    have heq := hs.live row hrow order h.mem (hcode.trans h.code.symm) hrowLive
      fun hcancel => hlive' (hlive hcancel)
    exact hne (heq ▸ h.id)
  · rcases h.requests with heq | ⟨success, heq⟩
    · exact .inl heq
    · exact .inr ⟨_, _, heq, nofun⟩
  · intro hheld
    obtain ⟨hheld, hrepro⟩ := h.held hheld
    obtain ⟨hfalse, hgood⟩ := hs.held order h.mem hheld
    obtain ⟨r, hr, hobject, hrecord⟩ := isActionSuccess_iff.1 hgood
    exact ⟨hrepro hfalse, isActionSuccess_iff.2
      ⟨r, h.records r hr, hobject.trans h.id, hrecord⟩⟩

theorem Move.requests_ne_create (h : Move s s' order order') (id : Nat) (push : Push)
    (success : Bool) : s'.requests ≠ s.requests ++ [⟨id, .create push, success⟩] := by
  intro heq
  rcases h.requests with heq' | ⟨success', heq'⟩
  · exact ne_append_singleton _ _ (heq'.symm.trans heq)
  · have hlast := List.append_cancel_left (heq'.symm.trans heq)
    simp at hlast

theorem Move.lawful_iff (hs : Sound account s) (h : Move s (event.exec account s) order order')
    (hevent : ∀ success push, event ≠ .createOrder success push) :
    Lawful account s event ↔
      ((∀ success orderCode, event = .cancelOrder success orderCode → ∀ order ∈ s.orders,
        order.unionOrderCode = OutwareOrder.formatOrderCode account orderCode →
          s.held order.id = false → (event.exec account s).requests = s.requests) ∧
      (order.status = .sended → order'.status = .sended) ∧
      (order.status = .cancel → order'.status = .cancel)) := by
  have hmem : order' ∈ (event.exec account s).orders := by
    rw [h.orders]
    exact Table.mem_save_self h.mem h.id
  constructor
  · intro hlawful
    obtain ⟨hsended, hcancel⟩ := hlawful.final order h.mem order' hmem h.id.symm
    refine ⟨hlawful.offline, hsended, ?_⟩
    intro hstatus
    rcases hcancel hstatus with hstatus' | ⟨push, hrequests⟩
    · exact hstatus'
    · exact absurd hrequests (h.requests_ne_create _ _ _)
  · rintro ⟨hoffline, hsended, hcancel⟩
    constructor
    · intro id push success hrequests
      exact absurd hrequests (h.requests_ne_create _ _ _)
    · intro success push _ heq
      exact absurd heq (hevent success push)
    · exact ((h.turn hs hcancel).sound hs).unique
    · intro success push heq
      exact absurd heq (hevent success push)
    · exact hoffline
    · intro row hrow row' hrow' hid
      rw [h.orders] at hrow'
      rcases Table.mem_save hrow' with rfl | ⟨hrow', -⟩
      · rw [Table.pk_inj hrow h.mem (hid.symm.trans h.id.symm)]
        exact ⟨hsended, fun hstatus => .inl (hcancel hstatus)⟩
      · rw [Table.pk_inj hrow' hrow hid]
        exact ⟨fun hstatus => hstatus, fun hstatus => .inl hstatus⟩

theorem get_ok {orderCode : String} (h : Only s orderCode order) :
    (OutwareOrder.get orderCode).run s = (.ok order, s) := by
  unfold OutwareOrder.get
  unfold Only at h
  rw [gets_bind_run, h]
  rfl

theorem get_error {orderCode : String} (h : ∀ order, ¬ Only s orderCode order) :
    ∃ e, (OutwareOrder.get orderCode).run s = (.error e, s) := by
  unfold OutwareOrder.get
  rw [gets_bind_run]
  split
  · next order hfilter => exact absurd hfilter (h order)
  · exact ⟨_, rfl⟩
  · exact ⟨_, rfl⟩

theorem only_mem {orderCode : String} (h : Only s orderCode order) :
    order ∈ s.orders ∧ order.unionOrderCode = orderCode := by
  have hmem : order ∈ s.orders.filter fun order => order.unionOrderCode = orderCode := by
    rw [show s.orders.filter _ = [order] from h]
    exact List.mem_singleton.2 rfl
  obtain ⟨hrow, hcode⟩ := List.mem_filter.1 hmem
  exact ⟨hrow, of_decide_eq_true hcode⟩

theorem only_unique {orderCode : String} (h : Only s orderCode order)
    (h' : Only s orderCode order') : order = order' := by
  have heq : [order] = [order'] := h.symm.trans h'
  exact List.singleton_inj.1 heq

theorem discard_run (m : OutwareTx Response) (s : OutwareDb) :
    ((do let _ ← m : OutwareTx Unit).run s).2 = (m.run s).2 := by
  rw [bind_run]
  cases m.run s with
  | mk r s' => cases r <;> rfl

end Moves

section Notices

variable {account} {s : OutwareDb} {order : OutwareOrder} {orderCode : String}

theorem forall_only {P : OutwareOrder → Prop} (h : Only s orderCode order) :
    (∀ order ∈ s.orders.rows, Only s orderCode order → P order) ↔ P order := by
  constructor
  · intro hall
    exact hall order (only_mem h).1 h
  · intro hP other _ hother
    rw [← only_unique h hother]
    exact hP

theorem Idle.step {event : Event} (hs : Sound account s) (h : Idle s (event.exec account s))
    (hevent : ∀ success push, event ≠ .createOrder success push) (horderly : Orderly account s event) :
    (Lawful account s event ↔ Orderly account s event) ∧
      (Orderly account s event → Sound account (event.exec account s)) := by
  refine ⟨⟨fun _ => horderly, fun _ => h.lawful hs ?_ ?_⟩, fun _ => h.sound hs⟩
  · intro success push order heq
    exact absurd heq (hevent success push)
  · intro success push heq
    exact absurd heq (hevent success push)

theorem step_delivery (hs : Sound account s) :
    (Lawful account s (.delivery orderCode) ↔ Orderly account s (.delivery orderCode)) ∧
      (Orderly account s (.delivery orderCode) →
        Sound account ((Event.delivery orderCode).exec account s)) := by
  cases hfind : OutwareOrder.find orderCode orderSale s with
  | none =>
    have hexec : (Event.delivery orderCode).exec account s = s := by
      unfold Event.exec Event.program markSended
      rw [bind_error (getOr_none hfind)]
    refine Idle.step hs (hexec.symm ▸ Idle.refl s) nofun ?_
    change (OutwareOrder.find orderCode orderSale s).all _ = true
    rw [hfind]
    rfl
  | some order =>
    have hexec : (Event.delivery orderCode).exec account s =
        { s with orders := s.orders.save { order with status := .sended } } := by
      unfold Event.exec Event.program markSended
      rw [bind_ok (getOr_some hfind)]
      rfl
    have hmove : Move s ((Event.delivery orderCode).exec account s) order
        { order with status := .sended } := by
      rw [hexec]
      exact ⟨Table.mem_of_first hfind, rfl, rfl, rfl, rfl, Kept.refl hs.numbers, fun _ h => h,
        .inl rfl, fun hheld => ⟨hheld, fun _ => rfl⟩⟩
    have horderly : Orderly account s (.delivery orderCode) ↔ order.status ≠ .cancel := by
      change (OutwareOrder.find orderCode orderSale s).all _ = true ↔ _
      rw [hfind]
      simp
    rw [horderly, hmove.lawful_iff hs nofun]
    refine ⟨⟨?_, ?_⟩, ?_⟩
    · rintro ⟨-, -, hcancel⟩ hstatus
      cases hcancel hstatus
    · intro hlive
      exact ⟨nofun, fun _ => rfl, fun hstatus => absurd hstatus hlive⟩
    · intro hlive
      exact (hmove.turn hs fun hstatus => absurd hstatus hlive).sound hs

theorem step_goodlacks (hs : Sound account s) (lackGoods : String) :
    (Lawful account s (.goodlacks orderCode lackGoods) ↔
      Orderly account s (.goodlacks orderCode lackGoods)) ∧
      (Orderly account s (.goodlacks orderCode lackGoods) →
        Sound account ((Event.goodlacks orderCode lackGoods).exec account s)) := by
  by_cases honly : ∃ order, Only s orderCode order
  · obtain ⟨order, honly⟩ := honly
    have hmove : Move s ((Event.goodlacks orderCode lackGoods).exec account s) order
        { order with
          lackgoods := some lackGoods
          status := .lackgoods } := by
      unfold Event.exec Event.program updateOutwareOrderByOrderGoodlacks
      rw [discard_run, logged_ok (atomic_ok ((bind_ok (get_ok honly)).trans rfl))]
      exact ⟨(only_mem honly).1, rfl, rfl, rfl, rfl, Kept.refl hs.numbers,
        fun _ h => List.mem_append_left _ h, .inl rfl, fun hheld => ⟨hheld, fun _ => rfl⟩⟩
    have horderly : Orderly account s (.goodlacks orderCode lackGoods) ↔
        order.status ≠ .sended ∧ order.status ≠ .cancel := forall_only honly
    rw [horderly, hmove.lawful_iff hs nofun]
    refine ⟨⟨?_, ?_⟩, ?_⟩
    · rintro ⟨-, hsended, hcancel⟩
      constructor
      · intro hstatus
        cases hsended hstatus
      · intro hstatus
        cases hcancel hstatus
    · rintro ⟨hsended, hcancel⟩
      exact ⟨nofun, fun hstatus => absurd hstatus hsended, fun hstatus => absurd hstatus hcancel⟩
    · rintro ⟨-, hcancel⟩
      exact (hmove.turn hs fun hstatus => absurd hstatus hcancel).sound hs
  · have hnone : ∀ order, ¬ Only s orderCode order := fun order h => honly ⟨order, h⟩
    have hexec : (Event.goodlacks orderCode lackGoods).exec account s = s := by
      obtain ⟨e, hrun⟩ := get_error hnone
      unfold Event.exec Event.program updateOutwareOrderByOrderGoodlacks
      rw [discard_run, logged_error (atomic_error (bind_error hrun))]
    exact Idle.step hs (hexec.symm ▸ Idle.refl s) nofun fun order _ h => absurd h (hnone order)

theorem step_stateChange (hs : Sound account s) (orderStatus : Nat) :
    Lawful account s (.stateChange orderCode orderStatus) ∧
      Sound account ((Event.stateChange orderCode orderStatus).exec account s) := by
  by_cases honly : ∃ order, Only s orderCode order
  · obtain ⟨order, honly⟩ := honly
    have hmove : Move s ((Event.stateChange orderCode orderStatus).exec account s) order
        { order with state := orderStatus } := by
      unfold Event.exec Event.program updateOutwareOrderByOrderStateChange
      rw [discard_run, logged_ok (atomic_ok ((bind_ok (get_ok honly)).trans rfl))]
      exact ⟨(only_mem honly).1, rfl, rfl, rfl, rfl, Kept.refl hs.numbers,
        fun _ h => List.mem_append_left _ h, .inl rfl, fun hheld => ⟨hheld, fun hrepro => hrepro⟩⟩
    exact ⟨(hmove.lawful_iff hs nofun).2 ⟨nofun, fun h => h, fun h => h⟩,
      (hmove.turn hs fun h => h).sound hs⟩
  · have hexec : (Event.stateChange orderCode orderStatus).exec account s = s := by
      obtain ⟨e, hrun⟩ := get_error fun order h => honly ⟨order, h⟩
      unfold Event.exec Event.program updateOutwareOrderByOrderStateChange
      rw [discard_run, logged_error (atomic_error (bind_error hrun))]
    have hidle : Idle s ((Event.stateChange orderCode orderStatus).exec account s) := by
      rw [hexec]
      exact Idle.refl s
    have hstep := hidle.step hs nofun trivial
    exact ⟨hstep.1.2 trivial, hstep.2 trivial⟩

end Notices

section Cancels

variable {account} {s : OutwareDb} {order : OutwareOrder} {orderCode : String} {success : Bool}

theorem only_of_mem {code : String} {other : OutwareOrder} (h : Only s code order)
    (hother : other ∈ s.orders) (hcode : other.unionOrderCode = code) : other = order := by
  have hmem : other ∈ s.orders.filter fun order => order.unionOrderCode = code :=
    List.mem_filter.2 ⟨hother, decide_eq_true hcode⟩
  rw [show s.orders.filter _ = [order] from h] at hmem
  exact List.mem_singleton.1 hmem

theorem exec_cancel_unpushed (honly : Only s (OutwareOrder.formatOrderCode account orderCode) order)
    (hpushed : order.isActionSuccess .orderCreate s = false) :
    (Event.cancelOrder success orderCode).exec account s =
      { ((order.changeOrderStatus .cancel).run s).2 with
        records := s.records ++ [⟨order.id, .orderCancel, true⟩] } := by
  unfold Event.exec Event.program cancelOrder
  rw [discard_run]
  refine congrArg Prod.snd (@logged_ok .orderCancel _ s
    ((order.changeOrderStatus .cancel).run s).2 ⟨true, order⟩ ?_)
  rw [bind_ok (get_ok honly), gets_bind_run, hpushed]
  rfl

theorem exec_cancel_pushed (honly : Only s (OutwareOrder.formatOrderCode account orderCode) order)
    (hpushed : order.isActionSuccess .orderCreate s = true) :
    (Event.cancelOrder success orderCode).exec account s =
      { (if success = true then ((order.changeOrderStatus .cancel).run s).2 else s) with
        records := s.records ++ [⟨order.id, .orderCancel, success⟩]
        requests := s.requests ++ [⟨order.id, .cancel, success⟩] } := by
  unfold Event.exec Event.program cancelOrder
  rw [discard_run]
  cases success with
  | false =>
    refine congrArg Prod.snd (@logged_ok .orderCancel _ s
      ((requestGetway order .cancel false).run s).2 ⟨false, order⟩ ?_)
    rw [bind_ok (get_ok honly), gets_bind_run, hpushed]
    rfl
  | true =>
    refine congrArg Prod.snd (@logged_ok .orderCancel _ s
      { ((order.changeOrderStatus .cancel).run s).2 with
        requests := s.requests ++ [⟨order.id, .cancel, true⟩] } ⟨true, order⟩ ?_)
    rw [bind_ok (get_ok honly), gets_bind_run, hpushed]
    rfl

theorem cancel_move (success : Bool) (hs : Sound account s)
    (honly : Only s (OutwareOrder.formatOrderCode account orderCode) order) :
    Move s ((Event.cancelOrder success orderCode).exec account s) order
      (if order.isActionSuccess .orderCreate s = true ∧ success = false then order
        else { order with status := .cancel }) := by
  obtain ⟨hmem, -⟩ := only_mem honly
  have hrelease := Kept.release hs.numbers fun sku =>
    sku.unionOrderCode = order.unionOrderCode ∧ sku.isValid = true
  cases hpushed : order.isActionSuccess .orderCreate s with
  | false =>
    rw [if_neg (by simp), exec_cancel_unpushed honly hpushed]
    refine ⟨hmem, rfl, rfl, rfl, rfl, hrelease, fun _ h => List.mem_append_left _ h, .inl rfl, ?_⟩
    intro hheld
    have hgood := (hs.held order hmem hheld).2
    rw [hpushed] at hgood
    cases hgood
  | true =>
    rw [exec_cancel_pushed honly hpushed]
    cases success with
    | false =>
      rw [if_neg (by simp), if_pos ⟨rfl, rfl⟩]
      refine ⟨hmem, rfl, rfl, rfl, (Table.save_of_mem hmem).symm, Kept.refl hs.numbers,
        fun _ h => List.mem_append_left _ h, .inr ⟨_, rfl⟩, ?_⟩
      intro hheld
      rw [held_append rfl, if_neg (by simp)] at hheld
      exact ⟨hheld, fun hrepro => hrepro⟩
    | true =>
      rw [if_pos rfl, if_neg (by simp)]
      refine ⟨hmem, rfl, rfl, rfl, rfl, hrelease, fun _ h => List.mem_append_left _ h,
        .inr ⟨_, rfl⟩, ?_⟩
      intro hheld
      rw [held_append rfl, if_pos ⟨rfl, rfl⟩] at hheld
      simp at hheld

theorem cancel_requests_iff (honly : Only s (OutwareOrder.formatOrderCode account orderCode) order) :
    ((Event.cancelOrder success orderCode).exec account s).requests = s.requests ↔
      order.isActionSuccess .orderCreate s = false := by
  cases hpushed : order.isActionSuccess .orderCreate s with
  | false =>
    rw [exec_cancel_unpushed honly hpushed]
    exact ⟨fun _ => rfl, fun _ => rfl⟩
  | true =>
    rw [exec_cancel_pushed honly hpushed]
    simp

theorem step_cancelOrder (hs : Sound account s) :
    (Lawful account s (.cancelOrder success orderCode) ↔
      Orderly account s (.cancelOrder success orderCode)) ∧
      (Orderly account s (.cancelOrder success orderCode) →
        Sound account ((Event.cancelOrder success orderCode).exec account s)) := by
  by_cases honly : ∃ order, Only s (OutwareOrder.formatOrderCode account orderCode) order
  · obtain ⟨order, honly⟩ := honly
    have hmove := cancel_move success hs honly
    have horderly : Orderly account s (.cancelOrder success orderCode) ↔
        (s.held order.id = false → order.isActionSuccess .orderCreate s = false) ∧
        (order.status = .sended → order.isActionSuccess .orderCreate s = true ∧ success = false) :=
      forall_only honly
    have hsound := (hmove.turn hs ?_).sound hs
    · refine ⟨?_, fun _ => hsound⟩
      rw [horderly, hmove.lawful_iff hs nofun]
      constructor
      · rintro ⟨hoffline, hsended, -⟩
        constructor
        · intro hheld
          obtain ⟨hmem, hcode⟩ := only_mem honly
          exact (cancel_requests_iff honly).1 (hoffline success orderCode rfl order hmem hcode hheld)
        · intro hstatus
          by_contra hnot
          rw [if_neg hnot] at hsended
          cases hsended hstatus
      · rintro ⟨hasked, hsended⟩
        refine ⟨?_, ?_, ?_⟩
        · rintro success' orderCode' heq other hother hcode hheld
          cases heq
          rw [only_of_mem honly hother hcode] at hheld
          exact (cancel_requests_iff honly).2 (hasked hheld)
        · intro hstatus
          rw [if_pos (hsended hstatus)]
          exact hstatus
        · intro hstatus
          split
          · exact hstatus
          · rfl
    · intro hstatus
      split
      · exact hstatus
      · rfl
  · have hnone : ∀ order, ¬ Only s (OutwareOrder.formatOrderCode account orderCode) order :=
      fun order h => honly ⟨order, h⟩
    have hidle : Idle s ((Event.cancelOrder success orderCode).exec account s) := by
      obtain ⟨e, hrun⟩ := get_error hnone
      unfold Event.exec Event.program cancelOrder
      rw [discard_run, logged_error (bind_error hrun)]
      exact Idle.refl s
    exact hidle.step hs nofun fun order _ h => absurd h (hnone order)

end Cancels

theorem orderly_step (s : OutwareDb) (event : Event) (hs : Sound account s) :
    (Lawful account s event ↔ Orderly account s event) ∧
      (Orderly account s event → Sound account (event.exec account s)) := by
  cases event with
  | createOrder success push => exact step_createOrder hs
  | cancelOrder success orderCode => exact step_cancelOrder hs
  | delivery orderCode => exact step_delivery hs
  | goodlacks orderCode lackGoods => exact step_goodlacks hs lackGoods
  | stateChange orderCode orderStatus =>
    obtain ⟨hlawful, hsound⟩ := step_stateChange hs orderStatus
    exact ⟨⟨fun _ => trivial, fun _ => hlawful⟩, fun _ => hsound⟩

/-- Every event of a run is lawful exactly if every event of it is orderly. -/
theorem life_cycle_iff (s : OutwareDb) (hs : Sound account s) (events : List Event) :
    Guarded (Event.exec account) (Lawful account) events s ↔
      Guarded (Event.exec account) (Orderly account) events s :=
  guarded_iff_guarded (fun s event hs => (orderly_step account s event hs).1)
    (fun s event hs => (orderly_step account s event hs).2) events s hs

def OutwareDb.initial : OutwareDb where
  orders := Table.empty
  orderSkus := Table.empty
  records := []
  requests := []

theorem sound_initial : Sound account OutwareDb.initial := by
  constructor <;> exact nofun

def fengchaoAccount : Account where
  orderPrefix := "xlmm"
  skuCodes := ["SP111111AA"]

def saleOrderPush : Push where
  orderCode := "xd16111358284ace3a74f"
  storeCode := "SZWH01"
  orderType := sourceTypeUsual
  dictObj := {
    receiverInfo := "上海市杨浦区"
    orderItems := [⟨"xo1611135828", "SP111111AA", 2⟩]
    declareType := 0
    orderPersonIdname := ""
    orderPersonIdcard := ""
    data := "" }

theorem life_cycle_pushed_again :
    Guarded (Event.exec fengchaoAccount) (Lawful fengchaoAccount)
      [.createOrder true saleOrderPush, .cancelOrder true saleOrderPush.orderCode,
        .createOrder true saleOrderPush, .stateChange saleOrderPush.orderCode 2]
      OutwareDb.initial :=
  (life_cycle_iff fengchaoAccount OutwareDb.initial (sound_initial _) _).2 (by decide +kernel)

theorem life_cycle_fail :
    ¬ Guarded (Event.exec fengchaoAccount) (Lawful fengchaoAccount)
      [.createOrder false saleOrderPush, .createOrder true saleOrderPush] OutwareDb.initial := by
  rintro ⟨-, hlawful, -⟩
  have hfind : (OutwareDb.orderOf fengchaoAccount ((Event.createOrder false saleOrderPush).exec
      fengchaoAccount OutwareDb.initial) saleOrderPush).map OutwareOrder.id = some 1 := by
    decide +kernel
  obtain ⟨order, horder, hid⟩ := Option.map_eq_some_iff.1 hfind
  have hrequests := congrArg List.length (hlawful.again true saleOrderPush order rfl horder
    (by rw [hid]; decide +kernel))
  rw [List.length_append, List.length_singleton] at hrequests
  exact absurd hrequests (by decide +kernel)

end ShopManager.Outware
