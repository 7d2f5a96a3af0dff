import ShopManager.Coupon.Operations
import ShopManager.Pay.Cart.Splitting

/-!
# The coupons of a request are used once

The price is lowered by the numerals among the coupon texts, one after the other; the trade
keeps every text that is not empty, and each number that they name is used once.  The two
agree exactly when no numeral is repeated and no other text names a coupon of value.
-/

namespace ShopManager.Pay.Cart

open Library Library.Tx
open Coupon (CouponDb CouponTx UserCoupon)
open Trade (Entry parseEntryParams parsePayExtrasToDict parseCouponIdsFromPayExtras splitChars
  pairs etsCoupon)

/-! ## The texts -/

section Ids

variable (rules : CouponRules)

def recordedIds (payExtras : String) : List Int :=
  (parseCouponIdsFromPayExtras payExtras).filterMap rules.int

def countedIds (payExtras : String) : List Int :=
  ((parseCouponIdsFromPayExtras payExtras).filter rules.isdigit).filterMap rules.int

def IsUsed (id : Nat) (s : CouponDb) : Prop :=
  ∃ c ∈ s.userCoupons, c.id = id ∧ c.status = .used

variable (s : CouponDb)

def couponValue (id : Int) : Int :=
  match s.userCoupons.first fun c => (c.id : Int) = id with
  | none => 0
  | some coupon => rules.value coupon.id

def grantedByCoupons (args : CouponArgs) (payExtras : String) : Int :=
  match entriesDiscount rules args s (parseEntryParams payExtras) with
  | .error _ => 0
  | .ok discount => discount.1

/-- The coupons that lower the price do so once, for what the coupons are worth that the
trade keeps; and when they are used, each of these is. -/
structure ConsumedOnce (prepared : Prepared) (granted : Int) : Prop where
  once : (countedIds rules prepared.payExtras).Nodup
  total : granted = ((recordedIds rules prepared.payExtras).dedup.map (couponValue rules s)).sum
  used : ∀ now today ids t t', ids.map Int.ofNat = recordedIds rules prepared.payExtras →
    (Coupon.setCoupon2UseByTradeConfirm now today ids prepared.customer
      (prepared.uuid.getD "")).run t = (.ok (), t') → ∀ id ∈ ids, IsUsed id t'

/-- No numeral is repeated, and the texts that are no numerals name no coupons of value that
no numeral names. -/
structure PlainNumerals (payExtras : String) : Prop where
  distinct : (countedIds rules payExtras).Nodup
  worthless : (((recordedIds rules payExtras).dedup.filter
    fun id => id ∉ countedIds rules payExtras).map (couponValue rules s)).sum = 0

end Ids

/-! ## One entry for each payment -/

def pidOf (entry : Entry) : Option String := entry.get? "pid"

theorem parseEntryParams_distinct (payExtras : String) :
    ((parseEntryParams payExtras).map pidOf).Nodup := by
  unfold parseEntryParams
  refine List.foldlRecOn (motive := fun extras : List Entry => (extras.map pidOf).Nodup) _ _
    List.nodup_nil ?_
  intro extras h piece _
  dsimp only
  split
  · exact h
  · next pid hpid =>
      split
      · exact h
      · next hnew =>
          rw [List.map_append, List.nodup_append]
          refine ⟨h, List.nodup_singleton _, ?_⟩
          intro known hknown last hlast heq
          obtain ⟨entry, hentry, rfl⟩ := List.mem_map.1 hknown
          rw [List.map_cons, List.map_nil, List.mem_singleton] at hlast
          refine hnew (.inr (List.any_eq_true.2 ⟨entry, hentry, decide_eq_true ?_⟩))
          exact heq.trans (hlast.trans hpid)

section Discount

variable {rules : CouponRules} {args : CouponArgs} {s : CouponDb}

theorem entriesDiscount_cons {entry : Entry} {entries : List Entry} {d : Int × Int}
    (h : entriesDiscount rules args s (entry :: entries) = .ok d) :
    ∃ coupons rest, couponEntryDiscount rules args s entry = .ok coupons ∧
      entriesDiscount rules args s entries = .ok rest ∧ d.1 = coupons + rest.1 := by
  unfold entriesDiscount at h
  cases hcoupons : couponEntryDiscount rules args s entry with
  | error e =>
    rw [hcoupons] at h
    cases h
  | ok coupons =>
    rw [hcoupons] at h
    cases happcut : appcutDiscount rules entry with
    | error e =>
      rw [happcut] at h
      cases h
    | ok appcut =>
      rw [happcut] at h
      cases hrest : entriesDiscount rules args s entries with
      | error e =>
        rw [hrest] at h
        cases h
      | ok rest =>
        rw [hrest] at h
        obtain rfl := Except.ok.inj h
        exact ⟨coupons, rest, rfl, rfl, rfl⟩

theorem entriesDiscount_other {entries : List Entry} (h : some etsCoupon ∉ entries.map pidOf) :
    ∀ {d : Int × Int}, entriesDiscount rules args s entries = .ok d → d.1 = 0 := by
  induction entries with
  | nil =>
    intro d hrun
    obtain rfl := Except.ok.inj hrun
    rfl
  | cons entry entries ih =>
    intro d hrun
    rw [List.map_cons, List.mem_cons, not_or] at h
    obtain ⟨coupons, rest, hcoupons, hrest, hsum⟩ := entriesDiscount_cons hrun
    have hnone : couponEntryDiscount rules args s entry = .ok 0 := if_neg (Ne.symm h.1)
    obtain rfl := Except.ok.inj (hnone.symm.trans hcoupons)
    rw [hsum, ih h.2 hrest, add_zero]

theorem entriesDiscount_coupons {entries : List Entry} (h : (entries.map pidOf).Nodup) :
    ∀ {d : Int × Int}, entriesDiscount rules args s entries = .ok d →
      couponsDiscount rules args s
        (couponPieces ((entries.find? fun entry => pidOf entry = some etsCoupon).getD [])) =
          .ok d.1 := by
  induction entries with
  | nil =>
    intro d hrun
    obtain rfl := Except.ok.inj hrun
    rfl
  | cons entry entries ih =>
    intro d hrun
    rw [List.map_cons, List.nodup_cons] at h
    obtain ⟨coupons, rest, hcoupons, hrest, hsum⟩ := entriesDiscount_cons hrun
    by_cases hpid : pidOf entry = some etsCoupon
    · rw [List.find?_cons_of_pos (by simpa using hpid), Option.getD_some]
      have hothers : rest.1 = 0 := entriesDiscount_other (hpid ▸ h.1) hrest
      rw [hsum, hothers, add_zero]
      unfold couponEntryDiscount at hcoupons
      have hpid' : entry.get? "pid" = some etsCoupon := hpid
      rw [if_pos hpid'] at hcoupons
      cases htemplates : getCouponTemplateIds rules s (couponPieces entry) with
      | error e =>
        rw [htemplates] at hcoupons
        cases hcoupons
      | ok templateIds =>
        rw [htemplates] at hcoupons
        change (if 1 < templateIds.length then Except.error _ else _) = _ at hcoupons
        split at hcoupons
        · cases hcoupons
        · exact hcoupons
    · rw [List.find?_cons_of_neg (by simpa using hpid), hsum]
      have hnone : couponEntryDiscount rules args s entry = .ok 0 := if_neg hpid
      obtain rfl := Except.ok.inj (hnone.symm.trans hcoupons)
      rw [zero_add]
      exact ih h.2 hrest

theorem calcCounponDiscount_ok {n value : Int}
    (h : calcCounponDiscount rules args s n = .ok value) :
    value = couponValue rules s n := by
  unfold calcCounponDiscount at h
  split at h
  · cases h
  · next coupon hfirst =>
      have hspec := Table.first_spec hfirst
      obtain ⟨hid, -⟩ := of_decide_eq_true hspec
      have hmem : coupon ∈ s.userCoupons := Table.mem_of_first hfirst
      have hvalue : couponValue rules s n = rules.value coupon.id := by
        unfold couponValue
        cases hother : s.userCoupons.first fun c => (c.id : Int) = n with
        | none =>
          have hfalse := Table.first_eq_none.1 hother coupon hmem
          exact absurd hid (of_decide_eq_false hfalse)
        | some other =>
          have hspec' := Table.first_spec hother
          have hid' : (other.id : Int) = n := of_decide_eq_true hspec'
          have heq : other = coupon := by
            refine Table.pk_inj (Table.mem_of_first hother) hmem ?_
            exact Int.ofNat.inj (hid'.trans hid.symm)
          rw [heq]
      rw [hvalue]
      split at h
      · exact (Except.ok.inj h).symm
      · cases htemplate : rules.templateCheck coupon.templateId args.itemIds args.payment with
        | error e =>
          rw [htemplate] at h
          cases h
        | ok _ =>
          rw [htemplate] at h
          cases hbasic : coupon.couponBasicCheck rules.now with
          | error e =>
            rw [hbasic] at h
            cases h
          | ok _ =>
            rw [hbasic] at h
            exact (Except.ok.inj h).symm

theorem couponsDiscount_ok : ∀ {texts : List String} {d : Int},
    couponsDiscount rules args s texts = .ok d →
      d = ((((texts.filter fun text => text ≠ "").filter rules.isdigit).filterMap
        rules.int).map (couponValue rules s)).sum := by
  intro texts
  induction texts with
  | nil =>
    intro d h
    exact (Except.ok.inj h).symm
  | cons text texts ih =>
    intro d h
    unfold couponsDiscount at h
    split at h
    · next hskip =>
        rw [ih h]
        rcases hskip with rfl | hdigit
        · simp
        · by_cases hempty : text = ""
          · simp [hempty]
          · simp [hempty, hdigit]
    · next hkeep =>
        rw [not_or] at hkeep
        split at h
        · cases h
        · next n hint =>
            cases hvalue : calcCounponDiscount rules args s n with
            | error e =>
              rw [hvalue] at h
              cases h
            | ok value =>
              rw [hvalue] at h
              cases hrest : couponsDiscount rules args s texts with
              | error e =>
                rw [hrest] at h
                cases h
              | ok rest =>
                rw [hrest] at h
                obtain rfl := Except.ok.inj h
                have hdigit : rules.isdigit text = true := by simpa using hkeep.2
                rw [ih hrest, calcCounponDiscount_ok hvalue]
                simp [hkeep.1, hdigit, hint]

end Discount

theorem useCoupon_ok {tid : String} {id : Nat} {s s' : CouponDb}
    (h : (Coupon.useCoupon tid id).run s = (.ok (), s')) : IsUsed id s' := by
  obtain ⟨coupon, hcoupon, h⟩ := getOr_bind_eq_ok.1 (atomic_eq_ok.1 h)
  obtain ⟨-, h⟩ := raiseIf_bind_eq_ok.1 h
  obtain ⟨hmem, hid⟩ := Table.get?_eq_some.1 hcoupon
  refine ⟨{ coupon with status := .used, tradeTid := some tid }, ?_, hid, rfl⟩
  obtain rfl := congrArg Prod.snd h
  exact Table.mem_update.2 (.inl ⟨coupon, hmem, decide_eq_true rfl, rfl⟩)

theorem useCoupon_keeps (tid : String) (other id : Nat) :
    Preserves (IsUsed id) (Coupon.useCoupon tid other) := by
  refine Preserves.atomic (Preserves.getOr_bind fun s coupon hs hget => ?_)
  refine Preserves.raiseIf_bind (I := IsUsed id) (fun _ => ?_) s hs
  rintro s ⟨c, hmem, hid, hused⟩
  by_cases hpk : Row.pk c = coupon.id
  · exact ⟨_, Table.mem_update.2 (.inl ⟨c, hmem, decide_eq_true hpk, rfl⟩), hid, rfl⟩
  · exact ⟨c, Table.mem_update.2 (.inr ⟨hmem, decide_eq_false hpk⟩), hid, hused⟩

theorem forEach_useCoupon_ok {tid : String} : ∀ {ids : List Nat} {s s' : CouponDb},
    (forEach ids (Coupon.useCoupon tid)).run s = (.ok (), s') → ∀ id ∈ ids, IsUsed id s' := by
  intro ids
  induction ids with
  | nil =>
    intro s s' _ id hid
    cases hid
  | cons other ids ih =>
    intro s s' h id hid
    rw [forEach_cons] at h
    obtain ⟨u, t, hother, hrest⟩ := bind_eq_ok.1 h
    rcases List.mem_cons.1 hid with rfl | hid
    · have hkeeps : Preserves (IsUsed id) (forEach ids (Coupon.useCoupon tid)) :=
        Preserves.forEach fun other _ => useCoupon_keeps tid other id
      exact hkeeps.of_run (useCoupon_ok hother) hrest
    · exact ih hrest id hid

theorem setCoupon2UseByTradeConfirm_ok {now : Nat} {today : Date} {ids : List Nat}
    {buyerId : Nat} {tid : String} {s s' : CouponDb}
    (h : (Coupon.setCoupon2UseByTradeConfirm now today ids buyerId tid).run s = (.ok (), s')) :
    ∀ id ∈ ids, IsUsed id s' := by
  intro id hid
  unfold Coupon.setCoupon2UseByTradeConfirm at h
  rw [if_neg (List.ne_nil_of_mem hid)] at h
  obtain ⟨u, t, huse, h⟩ := bind_eq_ok.1 h
  have hused : IsUsed id t := by
    unfold Coupon.useCouponByIds at huse
    rw [gets_bind_run] at huse
    obtain ⟨v, t', hchecks, huse⟩ := bind_eq_ok.1 huse
    exact forEach_useCoupon_ok huse id hid
  rw [gets_bind_run] at h
  have hsame : t.userCoupons = s'.userCoupons := by
    split at h
    · obtain ⟨-, rfl⟩ := pure_eq_ok.1 h
      rfl
    · obtain ⟨transfer, t', hrecord, hdetail⟩ := bind_eq_ok.1 h
      have hmade := (Coupon.SameUserCoupons.createConsumeRecord _ _ _ _ _).of_run hrecord
      have hnoted := (Coupon.SameUserCoupons.createTransferCouponDetail _ _).of_run hdetail
      exact hmade.symm.trans hnoted.symm
  obtain ⟨c, hmem, hc⟩ := hused
  exact ⟨c, hsame ▸ hmem, hc⟩

section Readings

variable {rules : CouponRules}

theorem countedIds_subset (payExtras : String) {id : Int}
    (h : id ∈ countedIds rules payExtras) : id ∈ recordedIds rules payExtras := by
  obtain ⟨text, htext, hint⟩ := List.mem_filterMap.1 h
  exact List.mem_filterMap.2 ⟨text, List.mem_of_mem_filter htext, hint⟩

theorem recordedIds_worth (payExtras : String) (worth : Int → Int)
    (hdistinct : (countedIds rules payExtras).Nodup) :
    ((recordedIds rules payExtras).dedup.map worth).sum =
      ((countedIds rules payExtras).map worth).sum +
        (((recordedIds rules payExtras).dedup.filter
          fun id => id ∉ countedIds rules payExtras).map worth).sum := by
  have hparts := List.filter_append_perm (fun id => decide (id ∈ countedIds rules payExtras))
    (recordedIds rules payExtras).dedup
  have hcounted : List.Perm ((recordedIds rules payExtras).dedup.filter
      fun id => id ∈ countedIds rules payExtras) (countedIds rules payExtras) := by
    apply (List.perm_ext_iff_of_nodup ((List.nodup_dedup _).filter _) hdistinct).2
    intro id
    rw [List.mem_filter, List.mem_dedup, decide_eq_true_iff]
    exact ⟨fun h => h.2, fun h => ⟨countedIds_subset payExtras h, h⟩⟩
  rw [← (hparts.map worth).sum_eq, List.map_append, List.sum_append,
    (hcounted.map worth).sum_eq]
  simp only [decide_not]

variable {args : CouponArgs} {s : CouponDb}

theorem grantedByCoupons_eq {payExtras : String} {discount : Int}
    (h : calcExtraDiscount rules args s payExtras = .ok discount) :
    grantedByCoupons rules s args payExtras =
      ((countedIds rules payExtras).map (couponValue rules s)).sum := by
  unfold calcExtraDiscount at h
  unfold grantedByCoupons
  cases hentries : entriesDiscount rules args s (parseEntryParams payExtras) with
  | error e =>
    rw [hentries] at h
    cases h
  | ok d =>
    have hcoupons := entriesDiscount_coupons (parseEntryParams_distinct payExtras) hentries
    exact couponsDiscount_ok hcoupons

end Readings

def plainInt (text : String) : Option Int :=
  if text ≠ "" ∧ text.toList.all Char.isDigit then
    some (text.toList.foldl (fun n c => 10 * n + ((c.toNat : Int) - 48)) 0)
  else none

def tenYuanRules : CouponRules where
  isdigit text := (plainInt text).isSome
  int := plainInt
  float := Trade.decimalText
  now := 0
  value _ := 1000
  templateCheck _ _ _ := .ok ()

def plainSurroundings : Surroundings where
  uuidOk _ := true
  agencylevel _ := none
  userSkunum _ _ := 0
  otherChecks _ := none
  tradeParams _ := .ok ()
  afterwards _ := .ok ()

def couponShop : CartDb where
  customers := threeLinesDb.customers
  products := threeLinesDb.products
  productSkus := threeLinesDb.productSkus
  carts := threeLinesDb.carts
  trades := Table.empty
  orders := Table.empty
  coupon := {
    userCoupons := ⟨[⟨305463, 5, .normal, 1, none, 9, "", .unused, none, none, none, false⟩],
      by decide⟩
    transferRecords := Table.empty
    details := []
    templates := [5]
    openMama := fun _ => none
    chargedMama := fun _ => none }

def threeLinesFor (payment discountFee : Int) (payExtras : String) : CartRequest where
  uuid := some "xd170101abcdefghij"
  customer := 1
  amounts := ⟨some 11970, some payment, some 0, some discountFee⟩
  payExtras := payExtras
  couponId := none
  cartIds := [1, 2, 3]

def threeLinesArgs : CouponArgs := ⟨[7, 7, 7], 1, 1197000, some "xd170101abcdefghij"⟩

def couponRequest : CartRequest := threeLinesFor 10970 1000 "pid:2:couponid:305463"

def repeatedRequest : CartRequest := threeLinesFor 9970 2000 "pid:2:couponid:305463/305463"

end ShopManager.Pay.Cart
