import ShopManager.Library.Execution
import ShopManager.Outware.Inbound.Booking

/-!
# Goods that came in are booked once

The arrival stays when the booking fails, and every repetition is answered like a success.
So a notification is booked, once, exactly when its booking goes through at the first try.
-/

namespace ShopManager.Outware.Inbound

open Library Library.Tx Library.Execution

variable {μ : Type} (mall : Mall μ)

/-! ## Runs -/

def Notice.exec (notice : Notice) (s : InboundDb μ) : InboundDb μ := (poConfirm mall notice s).2

def BookedRefund (s s' : InboundDb μ) (refundNo : String) (lines : List Line) : Prop :=
  ∃ refund refund', refundOf s refundNo = some refund ∧ refundOf s' refundNo = some refund' ∧
    refund'.status =
      if refund.refundNum = (lines.map Line.pullGoodQty).sum then .success else .refuseBuyer

/-- The notification is applied, once, since `s`. -/
structure Applied (order : OutwareInboundOrder) (notice : Notice) (s s' : InboundDb μ) : Prop where
  arrived : ∃ row ∈ s'.inboundOrders, row.id = order.id ∧ row.status = .arrived
  stocked : ∀ skuCode, pushed skuCode s' = pushed skuCode s + skuQty skuCode notice.inboundSkus
  booked : match notice.orderType with
    | .purchase => BookedPurchase s s' notice.inboundSkus
    | .refund => BookedRefund s s' notice.orderCode notice.inboundSkus

structure Untouched (order : OutwareInboundOrder) (s s' : InboundDb μ) : Prop where
  status : ∀ row' ∈ s'.inboundOrders, row'.id = order.id →
    ∃ row ∈ s.inboundOrders, row.id = order.id ∧ row.status = row'.status
  stock : ∀ skuCode, pushed skuCode s' = pushed skuCode s
  inbounds : s'.inbounds = s.inbounds
  inboundDetails : s'.inboundDetails = s.inboundDetails
  saleRefunds : s'.saleRefunds = s.saleRefunds

/-- An answer of 0 is for a notification that is applied since `start`, and any other answer
for one that has done nothing. -/
def Answered (order : OutwareInboundOrder) (start s : InboundDb μ) (notice : Notice) : Prop :=
  ((poConfirm mall notice s).1 = 0 → Applied order notice start (poConfirm mall notice s).2) ∧
    ((poConfirm mall notice s).1 ≠ 0 → Untouched order s (poConfirm mall notice s).2)

def BookedOnce (order : OutwareInboundOrder) (notices : List Notice) (s : InboundDb μ) : Prop :=
  Guarded (Notice.exec mall) (Answered mall order s) notices s

def Bookable (s : InboundDb μ) (notice : Notice) : Prop :=
  match notice.orderType with
  | .purchase => ∃ orderlist, Purchasable mall s notice.orderCode notice.inboundSkus orderlist
  | .refund => Refundable mall s notice.orderCode notice.inboundSkus ∧
      ∀ refund, refundOf s notice.orderCode = some refund →
        refund.refundNum = (notice.inboundSkus.map Line.pullGoodQty).sum

def Alike (lines lines' : List Line) : Prop :=
  ∀ skuCode, skuQty skuCode lines = skuQty skuCode lines'

/-- The first notification finds an inbound that is open and can be booked as it comes, and
the others repeat it. -/
def OpenAndBookable (order : OutwareInboundOrder) (s : InboundDb μ) : List Notice → Prop
  | [] => True
  | notice :: notices =>
      (order.status = .normal ∨ order.status = .received) ∧
        OutwareInboundSku.Storable order.id notice.inboundSkus s ∧ Bookable mall s notice ∧
        ∀ again ∈ notices, Alike again.inboundSkus notice.inboundSkus

section Pieces

variable {lines lines' : List Line}

theorem skuQty_eq (skuCode : String) (lines : List Line) :
    skuQty skuCode lines =
      ((lines.filter fun line => line.skuCode = skuCode).map Line.qty).sum := by
  unfold skuQty
  induction lines with
  | nil => rfl
  | cons line lines ih =>
    rw [List.map_cons, List.sum_cons, ih]
    by_cases h : line.skuCode = skuCode <;> simp [h]

theorem Alike.total (h : Alike lines lines') :
    (lines.map Line.pullGoodQty).sum = (lines'.map Line.pullGoodQty).sum := by
  let codes := ((lines ++ lines').map Line.skuCode).dedup
  have htotal : ∀ some : List Line, (∀ line ∈ some, line.skuCode ∈ codes) →
      (some.map Line.qty).sum = (codes.map fun code => skuQty code some).sum := by
    intro some hsome
    have hgroups := Table.sum_groups Line.skuCode Line.qty
      (List.nodup_dedup ((lines ++ lines').map Line.skuCode)) some
    simp only [skuQty_eq]
    rw [hgroups, List.filter_eq_self.2 fun line hline => decide_eq_true (hsome line hline)]
  have hleft : ∀ line ∈ lines, line.skuCode ∈ codes := by
    intro line hline
    exact List.mem_dedup.2 (List.mem_map_of_mem (List.mem_append_left _ hline))
  have hright : ∀ line ∈ lines', line.skuCode ∈ codes := by
    intro line hline
    exact List.mem_dedup.2 (List.mem_map_of_mem (List.mem_append_right _ hline))
  have hqty : (lines.map Line.qty).sum = (lines'.map Line.qty).sum := by
    rw [htotal lines hleft, htotal lines' hright]
    congr 1
    exact List.map_congr_left fun code _ => h code
  have hgood : ∀ some : List Line,
      ((some.map Line.qty).sum).1 = (some.map Line.pullGoodQty).sum := by
    intro some
    induction some with
    | nil => rfl
    | cons line some ih =>
      rw [List.map_cons, List.sum_cons, Prod.fst_add, ih]
      rfl
  rw [← hgood, hqty, hgood]

theorem Alike.ordered (h : Alike lines lines') (s : InboundDb μ) (sku : Nat) :
    orderedQty s sku lines = orderedQty s sku lines' := by
  by_cases hsome : ∃ code, (skuOf s code).map ProductSku.id = some sku
  · obtain ⟨code, hcode⟩ := hsome
    obtain ⟨row, hrow, hid⟩ := Option.map_eq_some_iff.1 hcode
    have hspec := Table.first_spec hrow
    have houter : row.outerId = code := of_decide_eq_true hspec
    have hiff : ∀ other, (skuOf s other).map ProductSku.id = some sku ↔ other = code := by
      intro other
      constructor
      · intro hother
        obtain ⟨row', hrow', hid'⟩ := Option.map_eq_some_iff.1 hother
        have hspec' := Table.first_spec hrow'
        have heq : row = row' := Table.pk_inj (Table.mem_of_first hrow) (Table.mem_of_first hrow')
          (hid.trans hid'.symm)
        rw [← houter, heq]
        exact (of_decide_eq_true hspec').symm
      · rintro rfl
        exact hcode
    have hqty : ∀ some : List Line, orderedQty s sku some = skuQty code some := by
      intro some
      unfold orderedQty skuQty
      congr 1
      refine List.map_congr_left fun line _ => ?_
      simp only [hiff]
    rw [hqty, hqty, h code]
  · have hzero : ∀ some : List Line, orderedQty s sku some = 0 := by
      intro some
      refine List.sum_eq_zero fun q hq => ?_
      obtain ⟨line, -, rfl⟩ := List.mem_map.1 hq
      exact if_neg fun heq => hsome ⟨line.skuCode, heq⟩
    rw [hzero, hzero]

end Pieces

/-! ## One notification -/

section Step

variable {mall} {order : OutwareInboundOrder} {s : InboundDb μ} {notice : Notice}

theorem receive_run
    (h : OutwareInboundSku.Storable order.id notice.inboundSkus s) :
    ∃ storeCode t t', (receive order notice).run s = (.ok (), { s with
        inboundOrders := s.inboundOrders.save { order with
          storeCode := storeCode
          status := .arrived }
        inboundSkus := t
        skuStocks := t' }) ∧
      ∀ skuCode, pushed skuCode { s with skuStocks := t' } =
        pushed skuCode s + skuQty skuCode notice.inboundSkus := by
  let row : OutwareInboundOrder := { order with
    storeCode := if order.storeCode = "" then notice.storeCode else order.storeCode
    status := .arrived }
  obtain ⟨t, hpull⟩ := OutwareInboundSku.pullAll_of_storable
    (s := { s with inboundOrders := s.inboundOrders.save row }) h
  obtain ⟨t', hpush, hpushed⟩ := OutwareSkuStock.pushAll_run notice.inboundSkus { s with
    inboundOrders := s.inboundOrders.save row
    inboundSkus := t }
  refine ⟨row.storeCode, t, t', ?_, hpushed⟩
  exact (bind_ok hpull).trans hpush

theorem storable_of_receive {s' : InboundDb μ} {u : Unit}
    (h : (receive order notice).run s = (.ok u, s')) :
    OutwareInboundSku.Storable order.id notice.inboundSkus s := by
  unfold receive at h
  rw [modify_bind_run] at h
  obtain ⟨_, s1, hpull, -⟩ := bind_eq_ok.1 h
  have hstorable := OutwareInboundSku.storable_of_pullAll hpull
  exact hstorable

theorem poConfirm_error {e : Exn}
    (h : (updateOutwareInboundByPoConfirm mall notice).run s = (.error e, s)) :
    poConfirm mall notice s = (0, s) := by
  unfold poConfirm
  rw [h]

theorem poConfirm_closed (hfind : find notice s = some order)
    (hstatus : ¬ (order.status = .normal ∨ order.status = .received)) :
    poConfirm mall notice s = (0, s) := by
  refine poConfirm_error (e := .exception "外仓通知单对应内部外仓入仓单状态异常") (atomic_raise ?_)
  rw [getOr_bind_run, hfind]
  dsimp only
  rw [raiseIf_bind_run, if_pos (not_or.1 hstatus)]

section Open

variable (hfind : find notice s = some order)
  (hstatus : order.status = .normal ∨ order.status = .received)

include hfind hstatus

theorem poConfirm_unstorable
    (h : ¬ OutwareInboundSku.Storable order.id notice.inboundSkus s) :
    poConfirm mall notice s = (0, s) := by
  cases hreceive : (receive order notice).run s with
  | mk res s' =>
    cases res with
    | ok u => exact absurd (storable_of_receive hreceive) h
    | error e =>
      refine poConfirm_error (atomic_error (?_ : _ = (Except.error e, s')))
      rw [getOr_bind_run, hfind]
      dsimp only
      rw [raiseIf_bind_run, if_neg fun hne => hstatus.elim hne.1 hne.2]
      exact bind_error hreceive

theorem poConfirm_received {s1 : InboundDb μ}
    (hreceive : (receive order notice).run s = (.ok (), s1)) :
    (∀ s2, (book mall notice).run s1 = (.ok (), s2) → poConfirm mall notice s = (0, s2)) ∧
      ∀ e s2, (book mall notice).run s1 = (.error e, s2) → poConfirm mall notice s = (1, s2) := by
  have hstart : ∀ {b : Bool} {s2 : InboundDb μ},
      (tryCatch (do
        book mall notice
        pure true) fun _ => pure false).run s1 = (.ok b, s2) →
      (updateOutwareInboundByPoConfirm mall notice).run s = (.ok b, s2) := by
    intro b s2 hbook
    refine atomic_ok ?_
    rw [getOr_bind_run, hfind]
    dsimp only
    rw [raiseIf_bind_run, if_neg fun hne => hstatus.elim hne.1 hne.2]
    exact (bind_ok hreceive).trans hbook
  constructor
  · intro s2 hbook
    unfold poConfirm
    rw [hstart (tryCatch_ok (bind_ok hbook))]
  · intro e s2 hbook
    unfold poConfirm
    rw [hstart ((tryCatch_error (bind_error hbook)).trans rfl)]

end Open

theorem Linked.received {t t' t''} (h : Linked s) : Linked { s with
    inboundOrders := t
    inboundSkus := t'
    skuStocks := t'' } := ⟨h.details, h.records⟩

theorem book_iff (hlinked : Linked s) (t : Table OutwareInboundOrder)
    (t' : Table OutwareInboundSku) (t'' : Table OutwareSkuStock) :
    (∃ s2, (book mall notice).run { s with
        inboundOrders := t
        inboundSkus := t'
        skuStocks := t'' } = (.ok (), s2) ∧
      match notice.orderType with
      | .purchase => BookedPurchase s s2 notice.inboundSkus
      | .refund => BookedRefund s s2 notice.orderCode notice.inboundSkus) ↔
      Bookable mall s notice := by
  unfold book Bookable
  cases notice.orderType with
  | purchase =>
    constructor
    · rintro ⟨s2, hrun, -⟩
      obtain ⟨⟨orderlist, h⟩, -⟩ := purchase_ok mall hlinked.received _ _ hrun
      exact ⟨orderlist, h.forecast, h.distinct, h.ordered, h.sound, h.synced⟩
    · rintro ⟨orderlist, h⟩
      have h' : Purchasable mall { s with
          inboundOrders := t
          inboundSkus := t'
          skuStocks := t'' } notice.orderCode notice.inboundSkus orderlist :=
        ⟨h.forecast, h.distinct, h.ordered, h.sound, h.synced⟩
      obtain ⟨s2, hrun⟩ := purchase_run mall hlinked.received _ _ h'
      exact ⟨s2, hrun, (purchase_ok mall hlinked.received _ _ hrun).2⟩
  | refund =>
    constructor
    · rintro ⟨s2, hrun, refund, refund', hrefund, hrefund', hstatus⟩
      obtain ⟨hrefundable, confirmed, hconfirmed, hsuccess⟩ := refund_ok mall _ _ hrun
      refine ⟨hrefundable, ?_⟩
      intro other hother
      obtain rfl : refund = other := Option.some.inj (hrefund.symm.trans hother)
      obtain rfl : refund' = confirmed := Option.some.inj (hrefund'.symm.trans hconfirmed)
      rw [hsuccess] at hstatus
      by_contra hne
      rw [if_neg hne] at hstatus
      cases hstatus
    · rintro ⟨hrefundable, htotal⟩
      obtain ⟨line, refund, hline, hrefund, hnum, hclose⟩ := hrefundable
      obtain ⟨s2, hrun⟩ := refund_run mall (s := { s with
          inboundOrders := t
          inboundSkus := t'
          skuStocks := t'' }) _ _ ⟨line, refund, hline, hrefund, hnum, hclose⟩
      obtain ⟨-, refund', hrefund', hsuccess⟩ := refund_ok mall _ _ hrun
      refine ⟨s2, hrun, refund, refund', hrefund, hrefund', ?_⟩
      rw [if_pos (htotal refund hrefund)]
      exact hsuccess

end Step

/-! ## Runs of notifications -/

section Runs

variable {mall} {order : OutwareInboundOrder} {s : InboundDb μ} {notice : Notice}

theorem Applied.alike {again : Notice} {s' : InboundDb μ} (h : Applied order notice s s')
    (hcode : again.orderCode = notice.orderCode) (htype : again.orderType = notice.orderType) :
    Applied order again s s' ↔ Alike again.inboundSkus notice.inboundSkus := by
  constructor
  · intro hagain skuCode
    have hgrown := (hagain.stocked skuCode).symm.trans (h.stocked skuCode)
    exact add_left_cancel hgrown
  · intro halike
    refine ⟨h.arrived, ?_, ?_⟩
    · intro skuCode
      rw [halike skuCode]
      exact h.stocked skuCode
    · have hbooked := h.booked
      rw [htype]
      cases htypes : notice.orderType with
      | purchase =>
        rw [htypes] at hbooked
        obtain ⟨inbound, hids, hqty⟩ := hbooked
        refine ⟨inbound, hids, ?_⟩
        intro sku
        rw [halike.ordered]
        exact hqty sku
      | refund =>
        rw [htypes] at hbooked
        obtain ⟨refund, refund', hrefund, hrefund', hbooked⟩ := hbooked
        rw [← halike.total] at hbooked
        dsimp only
        rw [hcode]
        exact ⟨refund, refund', hrefund, hrefund', hbooked⟩

theorem applied_first (hfind : find notice s = some order) (hlinked : Linked s)
    (hopen : order.status = .normal ∨ order.status = .received)
    (hstorable : OutwareInboundSku.Storable order.id notice.inboundSkus s)
    (hbookable : Bookable mall s notice) :
    ∃ s' row, poConfirm mall notice s = (0, s') ∧ Applied order notice s s' ∧
      find notice s' = some row ∧ row.status = .arrived := by
  obtain ⟨storeCode, t, t', hreceive, hpushed⟩ := receive_run hstorable
  let row : OutwareInboundOrder := { order with
    storeCode := storeCode
    status := .arrived }
  obtain ⟨s', hbook, hbooked⟩ :=
    (book_iff hlinked (s.inboundOrders.save row) t t').2 hbookable
  have hframe := (keeps_book mall notice).of_run hbook
  have hfound : find notice s' = some row := by
    have hspec := Table.first_spec hfind
    unfold find
    rw [hframe.1]
    exact Table.first_save_self (a := row) (b := order) rfl hspec hfind
  refine ⟨s', row, (poConfirm_received hfind hopen hreceive).1 s' hbook, ⟨?_, ?_, hbooked⟩, hfound,
    rfl⟩
  · exact ⟨_, Table.mem_of_first hfound, rfl, rfl⟩
  · intro skuCode
    refine Eq.trans ?_ (hpushed skuCode)
    unfold pushed
    rw [hframe.2]

theorem answered_first (hfind : find notice s = some order) (hstatus : order.status ≠ .arrived)
    (hlinked : Linked s) :
    Answered mall order s s notice ↔
      (order.status = .normal ∨ order.status = .received) ∧
        OutwareInboundSku.Storable order.id notice.inboundSkus s ∧ Bookable mall s notice := by
  have hmem : order ∈ s.inboundOrders := Table.mem_of_first hfind
  constructor
  · intro hanswered
    -- nothing has arrived as long as the tables are as they were
    have hsame : poConfirm mall notice s ≠ (0, s) := by
      intro hrun
      have hok := hanswered.1
      rw [hrun] at hok
      obtain ⟨row, hrow, hid, harrived⟩ := (hok rfl).arrived
      obtain rfl : row = order := Table.pk_inj hrow hmem hid
      exact hstatus harrived
    have hopen : order.status = .normal ∨ order.status = .received := by
      by_contra hclosed
      exact hsame (poConfirm_closed hfind hclosed)
    have hstorable : OutwareInboundSku.Storable order.id notice.inboundSkus s := by
      by_contra hunstorable
      exact hsame (poConfirm_unstorable hfind hopen hunstorable)
    refine ⟨hopen, hstorable, ?_⟩
    obtain ⟨storeCode, t, t', hreceive, -⟩ := receive_run hstorable
    have hanswer := @poConfirm_received _ mall _ _ _ hfind hopen _ hreceive
    obtain ⟨hok, hother⟩ := hanswered
    cases hbook : (book mall notice).run { s with
        inboundOrders := s.inboundOrders.save { order with
          storeCode := storeCode
          status := .arrived }
        inboundSkus := t
        skuStocks := t' } with
    | mk res s' =>
      cases res with
      | ok u =>
        rw [hanswer.1 s' hbook] at hok
        exact (book_iff hlinked _ _ _).1 ⟨s', hbook, (hok rfl).booked⟩
      | error e =>
        -- the arrival has stayed
        exfalso
        rw [hanswer.2 e s' hbook] at hother
        have huntouched := hother Nat.one_ne_zero
        have hframe := (keeps_book mall notice).of_run hbook
        have hrow : ({ order with
            storeCode := storeCode
            status := .arrived } : OutwareInboundOrder) ∈ s'.inboundOrders := by
          rw [hframe.1]
          exact Table.mem_save_self hmem rfl
        obtain ⟨row', hrow', hid', hstatus'⟩ := huntouched.status _ hrow rfl
        obtain rfl : row' = order := Table.pk_inj hrow' hmem hid'
        exact hstatus hstatus'
  · rintro ⟨hopen, hstorable, hbookable⟩
    obtain ⟨s', row, hrun, happlied, -⟩ := applied_first hfind hlinked hopen hstorable hbookable
    unfold Answered
    rw [hrun]
    exact ⟨fun _ => happlied, fun hne => absurd rfl hne⟩

theorem guarded_arrived {start : InboundDb μ} {row : OutwareInboundOrder}
    (hfind : find notice s = some row) (harrived : row.status = .arrived) (happlied : Applied order notice start s) :
    ∀ notices : List Notice, (∀ again ∈ notices, again.orderCode = notice.orderCode ∧
      again.orderType = notice.orderType) →
      (Guarded (Notice.exec mall) (Answered mall order start) notices s ↔
        ∀ again ∈ notices, Alike again.inboundSkus notice.inboundSkus) := by
  intro notices
  induction notices with
  | nil =>
    intro _
    constructor
    · intro _ again hagain
      cases hagain
    · intro _
      trivial
  | cons again notices ih =>
    intro hsame
    obtain ⟨hcode, htype⟩ := hsame again (List.mem_cons_self ..)
    have hfindAgain : find again s = some row := by
      unfold find
      rw [hcode, htype]
      exact hfind
    have hrun : poConfirm mall again s = (0, s) := by
      refine poConfirm_closed hfindAgain ?_
      rw [harrived]
      rintro (h | h) <;> cases h
    have hexec : again.exec mall s = s := by
      unfold Notice.exec
      rw [hrun]
    have hanswered : Answered mall order start s again ↔ Applied order again start s := by
      unfold Answered
      rw [hrun]
      exact ⟨fun h => h.1 rfl, fun h => ⟨fun _ => h, fun hne => absurd rfl hne⟩⟩
    have hrest := ih fun other hother => hsame other (List.mem_cons_of_mem _ hother)
    rw [List.forall_mem_cons]
    change Answered mall order start s again ∧
      Guarded (Notice.exec mall) (Answered mall order start) notices (again.exec mall s) ↔ _
    rw [hanswered, happlied.alike hcode htype, hexec, hrest]

end Runs

/-- The notifications for an inbound that has not arrived yet are booked once exactly when
the first one can be booked as it comes and the others repeat it. -/
theorem booked_once_iff (s : InboundDb μ) (order : OutwareInboundOrder) (notices : List Notice)
    (hfind : ∀ notice ∈ notices, find notice s = some order)
    (hstatus : order.status ≠ .arrived) (hlinked : Linked s) :
    BookedOnce mall order notices s ↔ OpenAndBookable mall order s notices := by
  cases notices with
  | nil => exact ⟨fun _ => trivial, fun _ => trivial⟩
  | cons notice notices =>
      have hfirst := hfind notice (List.mem_cons_self ..)
      have hsame : ∀ again ∈ notices, again.orderCode = notice.orderCode ∧
          again.orderType = notice.orderType := by
        intro again hagain
        have hspec := Table.first_spec hfirst
        have hspecAgain := Table.first_spec (hfind again (List.mem_cons_of_mem _ hagain))
        obtain ⟨hcode, htype⟩ := of_decide_eq_true hspec
        obtain ⟨hcodeAgain, htypeAgain⟩ := of_decide_eq_true hspecAgain
        exact ⟨hcodeAgain.symm.trans hcode, htypeAgain.symm.trans htype⟩
      change Answered mall order s s notice ∧
        Guarded (Notice.exec mall) (Answered mall order s) notices (notice.exec mall s) ↔ _
      rw [answered_first hfirst hstatus hlinked]
      unfold OpenAndBookable
      rw [and_assoc, and_assoc]
      refine and_congr_right fun hopen => and_congr_right fun hstorable =>
        and_congr_right fun hbookable => ?_
      obtain ⟨s', row, hrun, happlied, hrow, harrived⟩ :=
        applied_first hfirst hlinked hopen hstorable hbookable
      have hexec : notice.exec mall s = s' := congrArg Prod.snd hrun
      rw [hexec]
      exact guarded_arrived hrow harrived happlied notices hsame

def plainMall : Mall Unit where
  syncStock _ := pure ()
  closeOrder _ := pure ()

def purchaseOrder : OutwareInboundOrder := ⟨1, "fid201702055896", .purchase, "", .normal⟩

def expectingDb : InboundDb Unit where
  inboundOrders := ⟨[purchaseOrder], by decide⟩
  inboundSkus := Table.empty
  skuStocks := Table.empty
  productSkus := ⟨[⟨279, "SP111111AA"⟩], by decide⟩
  forecasts := ⟨[⟨3, "fid201702055896", [5]⟩], by decide⟩
  orderDetails := ⟨[⟨9, 5, 279, 0⟩], by decide⟩
  inbounds := Table.empty
  inboundDetails := Table.empty
  records := Table.empty
  saleRefunds := Table.empty
  mall := ()

def purchaseNotice (lines : List Line) : Notice where
  orderCode := "fid201702055896"
  orderType := .purchase
  storeCode := "SZWH01"
  inboundSkus := lines

def oneBatch : Notice := purchaseNotice [⟨"SP111111AA", "AJEV", 4, 1⟩]

def twoBatches : Notice := purchaseNotice [⟨"SP111111AA", "AJEV", 2, 0⟩, ⟨"SP111111AA", "AJEW", 3, 0⟩]

theorem linked_expectingDb : Linked expectingDb := by
  constructor
  · intro d hd
    cases hd
  · intro r hr
    cases hr

theorem booked_once_repeated : BookedOnce plainMall purchaseOrder [oneBatch, oneBatch] expectingDb := by
  refine (booked_once_iff plainMall expectingDb purchaseOrder [oneBatch, oneBatch] ?_ (by decide)
    linked_expectingDb).2 ⟨by decide, ?_, ⟨5, ?_, by decide, ?_, ?_, ?_⟩, ?_⟩
  · decide +kernel
  · intro line hline
    refine .inr ⟨by simp [OutwareInboundSku.Taken, expectingDb], ?_⟩
    intro other hother _
    rw [List.mem_singleton.1 hline, List.mem_singleton.1 hother]
  · exact ⟨⟨3, "fid201702055896", [5]⟩, by decide +kernel, rfl⟩
  · intro line hline
    rw [List.mem_singleton.1 hline]
    exact ⟨⟨279, "SP111111AA"⟩, ⟨9, 5, 279, 0⟩, by decide +kernel, by decide +kernel⟩
  · decide
  · exact ⟨(), (), rfl⟩
  · intro again hagain
    rw [List.mem_singleton.1 hagain]
    exact fun _ => rfl

theorem booked_once_fail : ¬ BookedOnce plainMall purchaseOrder [twoBatches] expectingDb := by
  rintro ⟨⟨-, hother⟩, -⟩
  have hstock := (hother (by decide +kernel)).stock "SP111111AA"
  exact absurd hstock (by decide +kernel)

end ShopManager.Outware.Inbound
