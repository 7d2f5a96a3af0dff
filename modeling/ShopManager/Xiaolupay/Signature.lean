import Mathlib.Data.List.Sort
import Mathlib.Data.String.Basic
import ShopManager.Basic
import ShopManager.Library.Text

/-!
# Signatures over parameter maps

Three partners sign the fields of a message, joined in the order of their names.  The digest of
a text and the RSA functions are parameters.
-/

namespace ShopManager.Xiaolupay.Signature

open Library Library.Key Library.Text

/-- The fields of a message but for its signature. -/
structure Params (ν : Type) where
  items : List (String × ν)
  nodup : (items.map Prod.fst).Nodup
  unsigned : "sign" ∉ items.map Prod.fst

def pairText (p : String × String) : String := p.1 ++ "=" ++ p.2

def sortedItems {ν : Type} (items : List (String × ν)) : List (String × ν) :=
  items.insertionSort fun a b => a.1 ≤ b.1

/-- `serial_dict`, the form in which a partner signs a map. -/
def serialDict (items : List (String × String)) : String :=
  join '&' ((sortedItems items).map pairText)

/-- A scheme signs messages and accepts or refuses them; `Same` leaves out what it does
not sign. -/
structure Scheme (π : Type) where
  sign : π → String
  accepts : π → String → Except Exn Bool
  Same : π → π → Prop

/-- What is signed is accepted, and no signature is good for two messages. -/
structure Scheme.Binds {π : Type} (scheme : Scheme π) (p q : π) : Prop where
  accepted : scheme.accepts p (scheme.sign p) = .ok true
  bound : ∀ sign, scheme.accepts p sign = .ok true → scheme.accepts q sign = .ok true →
    scheme.Same p q

/-! ## Outware accounts -/

structure OutwareAccount where
  signMethod : String
  appSecret : String

def OutwareAccount.signVerify (md5 : String → String) (account : OutwareAccount)
    (dictParams : List (String × String)) (sign : String) : Bool :=
  let keyPairs := join '&' ((dictParams.map pairText).insertionSort fun a b => a ≤ b)
  if account.signMethod = "md5" then md5 (keyPairs ++ account.appSecret) = sign else false

def outware (md5 : String → String) (account : OutwareAccount) : Scheme (Params String) where
  sign p := md5 (serialDict p.items ++ account.appSecret)
  accepts p sign := .ok (account.signVerify md5 p.items sign)
  Same p q := p.items.Perm q.items

/-- Fields without a value are skipped, and so is the signature. -/
def signedField (p : String × Option String) : Option (String × String) :=
  match p with
  | (k, some v) => if k = "sign" ∨ v = "" then none else some (k, v)
  | (_, none) => none

def combine (items : List (String × String)) : String :=
  items.foldl (fun text p => text ++ (pairText p ++ "&")) ""

/-- `md5Upper` gives the digest in capital letters. -/
def generateSignature (md5Upper : String → String) (dataDict : List (String × Option String))
    (key : String) : String :=
  md5Upper (combine ((sortedItems dataDict).filterMap signedField) ++ ("key=" ++ key))

def isSignatureValid (md5Upper : String → String) (dataDict : List (String × Option String))
    (key : String) : Bool :=
  match dataDict.find? fun p => p.1 = "sign" with
  | none => false
  | some p => some (generateSignature md5Upper dataDict key) = p.2

def wxpay (md5Upper : String → String) (key : String) : Scheme (Params (Option String)) where
  sign p := generateSignature md5Upper p.items key
  accepts p sign := .ok (isSignatureValid md5Upper (("sign", some sign) :: p.items) key)
  Same p q := (p.items.filterMap signedField).Perm (q.items.filterMap signedField)

def update (params others : List (String × String)) : List (String × String) :=
  others.foldl (fun params p => (params.filter fun q => q.1 ≠ p.1) ++ [p]) params

def defaultParams (appId timestamp : String) : List (String × String) :=
  [("app_id", appId), ("charset", "utf-8"), ("timestamp", timestamp), ("version", "1.0"),
    ("format", "JSON"), ("sign_type", "RSA")]

structure Request where
  appId : String
  timestamp : String
  headParams : List (String × String)
  bizContent : String

/-- The fields before the signature is added. -/
def buildRequestParams (request : Request) : List (String × String) :=
  update (update (defaultParams request.appId request.timestamp) request.headParams)
    [("biz_content", request.bizContent)]

/-- The loop variables `k, v` take the characters of a name. -/
def unpack (name : String) : Except Exn String :=
  match name.toList with
  | [k, v] => .ok (pairText (String.singleton k, String.singleton v))
  | _ => .error (.valueError "need 2 values to unpack")

def contentOf : List String → Except Exn (List String)
  | [] => .ok []
  | name :: names => do
      let text ← unpack name
      let texts ← contentOf names
      .ok (text :: texts)

/-- The fields have lost their signature; the names alone are sorted, by their first
characters, and read. -/
def checkNotifySign (verify : String → String → Bool) (params : List (String × String))
    (sign : String) : Except Exn Bool := do
  let names := (params.filter fun p => p.1 ≠ "sign_type").map Prod.fst
  if "" ∈ names then .error (.exception "string index out of range")
  else do
    let texts ← contentOf (names.insertionSort fun a b => a.toList.headD ' ' ≤ b.toList.headD ' ')
    .ok (verify (join '&' texts) sign)

def alipay (createSign : String → String) (verify : String → String → Bool) : Scheme Request where
  sign request := createSign (serialDict (buildRequestParams request))
  accepts request sign := checkNotifySign verify (buildRequestParams request) sign
  Same request request' := (buildRequestParams request).Perm (buildRequestParams request')

/-- The first `=` ends the name, the first `&` behind it the value. -/
def Plain (p : String × String) : Prop := Free '=' p.1 ∧ Free '&' p.2

def flat (l : List (String × String)) : List Char :=
  l.flatMap fun p => p.1.toList ++ '=' :: (p.2.toList ++ ['&'])

theorem flat_cons (p : String × String) (l : List (String × String)) :
    flat (p :: l) = p.1.toList ++ '=' :: (p.2.toList ++ '&' :: flat l) := by
  simp [flat]

theorem flat_inj {l l' : List (String × String)} (hl : ∀ p ∈ l, Plain p)
    (hl' : ∀ p ∈ l', Plain p) (h : flat l = flat l') : l = l' := by
  induction l generalizing l' with
  | nil =>
    cases l' with
    | nil => rfl
    | cons p l' =>
      rw [flat_cons] at h
      simp [flat] at h
  | cons p l ih =>
    cases l' with
    | nil =>
      rw [flat_cons] at h
      simp [flat] at h
    | cons p' l' =>
      rw [List.forall_mem_cons] at hl hl'
      rw [flat_cons, flat_cons] at h
      obtain ⟨hname, hrest⟩ := append_cons_inj hl.1.1 hl'.1.1 h
      obtain ⟨hvalue, hrest⟩ := append_cons_inj hl.1.2 hl'.1.2 hrest
      rw [ih hl.2 hl'.2 hrest]
      congr 1
      exact Prod.ext (String.toList_inj.1 hname) (String.toList_inj.1 hvalue)

theorem join_append {l : List (String × String)} (hl : l ≠ []) :
    (join '&' (l.map pairText)).toList ++ ['&'] = flat l := by
  induction l with
  | nil => exact absurd rfl hl
  | cons p l ih =>
    rw [flat_cons]
    cases l with
    | nil => simp [join, pairText, flat]
    | cons p' l =>
      have hrest := ih (List.cons_ne_nil _ _)
      simp only [toList_join, List.map_cons, List.intercalate_cons_cons] at hrest ⊢
      rw [List.append_assoc, hrest]
      simp [pairText]

theorem join_nil : (join '&' (([] : List (String × String)).map pairText)).toList = [] := by
  simp [join]

theorem join_inj {l l' : List (String × String)} (hl : ∀ p ∈ l, Plain p)
    (hl' : ∀ p ∈ l', Plain p) (h : join '&' (l.map pairText) = join '&' (l'.map pairText)) :
    l = l' := by
  have hmem : ∀ (p : String × String) l, join '&' (([] : List (String × String)).map pairText)
      ≠ join '&' ((p :: l).map pairText) := by
    intro p l heq
    have hflat := join_append (List.cons_ne_nil p l)
    rw [← heq, join_nil, flat_cons] at hflat
    have hsep : '=' ∈ [] ++ ['&'] := by
      rw [hflat]
      simp
    simp at hsep
  cases l with
  | nil =>
    cases l' with
    | nil => rfl
    | cons p l' => exact absurd h (hmem p l')
  | cons p l =>
    cases l' with
    | nil => exact absurd h.symm (hmem p l)
    | cons p' l' =>
      apply flat_inj hl hl'
      rw [← join_append (List.cons_ne_nil _ _), h, join_append (List.cons_ne_nil _ _)]

theorem toList_foldl (l : List (String × String)) (text : String) :
    (l.foldl (fun text p => text ++ (pairText p ++ "&")) text).toList = text.toList ++ flat l := by
  induction l generalizing text with
  | nil => simp [flat]
  | cons p l ih =>
    rw [List.foldl_cons, ih, flat_cons]
    simp [pairText]

theorem append_right_inj {x x' : String} (y : String) (h : x ++ y = x' ++ y) :
    x.toList = x'.toList := by
  have hlist := congrArg String.toList h
  rw [String.toList_append, String.toList_append] at hlist
  exact List.append_cancel_right hlist

/-! ## What binds -/

/-- The digest is the one that the account names, the fields stand in the order of their
names also with their values, and no separator stands where it could be misread. -/
def OutwareFits (account : OutwareAccount) (p : Params String) : Prop :=
  account.signMethod = "md5" ∧ (∀ a ∈ p.items, Plain a) ∧
    ∀ a ∈ p.items, ∀ b ∈ p.items, a.1 ≤ b.1 ↔ pairText a ≤ pairText b

def WxpayFits (p : Params (Option String)) : Prop := ∀ a ∈ p.items.filterMap signedField, Plain a

theorem perm_sortedItems {ν : Type} (items : List (String × ν)) : (sortedItems items).Perm items :=
  List.perm_insertionSort _ _

theorem signVerify_eq {md5 : String → String} {account : OutwareAccount} {p : Params String}
    (hp : OutwareFits account p) (sign : String) :
    account.signVerify md5 p.items sign =
      decide (md5 (serialDict p.items ++ account.appSecret) = sign) := by
  unfold OutwareAccount.signVerify serialDict sortedItems
  rw [if_pos hp.1, List.map_insertionSort _ _ pairText p.items hp.2.2]

theorem outware_binds {md5 : String → String} (hmd5 : Function.Injective md5)
    {account : OutwareAccount} {p q : Params String} (hp : OutwareFits account p)
    (hq : OutwareFits account q) : (outware md5 account).Binds p q where
  accepted := congrArg Except.ok ((signVerify_eq hp _).trans (decide_eq_true rfl))
  bound sign hsign hsign' := by
    change Except.ok (account.signVerify md5 p.items _) = _ at hsign
    change Except.ok (account.signVerify md5 q.items _) = _ at hsign'
    rw [signVerify_eq hp, Except.ok.injEq, decide_eq_true_iff] at hsign
    rw [signVerify_eq hq, Except.ok.injEq, decide_eq_true_iff] at hsign'
    have htext := append_right_inj _ (hmd5 (hsign.trans hsign'.symm))
    have hsorted := join_inj (fun a ha => hp.2.1 a ((perm_sortedItems _).mem_iff.1 ha))
      (fun a ha => hq.2.1 a ((perm_sortedItems _).mem_iff.1 ha)) (String.toList_inj.1 htext)
    change p.items.Perm q.items
    exact (perm_sortedItems p.items).symm.trans (hsorted ▸ perm_sortedItems q.items)

/-- A skipped field makes no difference. -/
theorem signed_cons {x : String × Option String} (hx : signedField x = none)
    (items : List (String × Option String)) :
    (sortedItems (x :: items)).filterMap signedField =
      (sortedItems items).filterMap signedField := by
  unfold sortedItems
  rw [List.insertionSort_cons]
  induction List.insertionSort (fun a b => a.1 ≤ b.1) items with
  | nil => simp [hx]
  | cons y l ih =>
    rw [List.orderedInsert_cons]
    split
    · rw [List.filterMap_cons_none hx]
    · simp only [List.filterMap_cons, ih]

theorem isSignatureValid_eq (md5Upper : String → String) (key sign : String)
    (items : List (String × Option String)) :
    isSignatureValid md5Upper (("sign", some sign) :: items) key =
      decide (generateSignature md5Upper items key = sign) := by
  have hskipped : signedField ("sign", some sign) = none := by simp [signedField]
  have hvalid : isSignatureValid md5Upper (("sign", some sign) :: items) key = decide
      (some (generateSignature md5Upper (("sign", some sign) :: items) key) = some sign) := rfl
  rw [hvalid, decide_eq_decide, Option.some.injEq, generateSignature, signed_cons hskipped,
    generateSignature]

theorem wxpay_binds {md5Upper : String → String} (hmd5 : Function.Injective md5Upper)
    (key : String) {p q : Params (Option String)} (hp : WxpayFits p) (hq : WxpayFits q) :
    (wxpay md5Upper key).Binds p q where
  accepted := congrArg Except.ok ((isSignatureValid_eq md5Upper key _ _).trans (decide_eq_true rfl))
  bound sign hsign hsign' := by
    change Except.ok (isSignatureValid md5Upper _ key) = _ at hsign
    change Except.ok (isSignatureValid md5Upper _ key) = _ at hsign'
    rw [isSignatureValid_eq, Except.ok.injEq, decide_eq_true_iff] at hsign hsign'
    have htext := append_right_inj _ (hmd5 (hsign.trans hsign'.symm))
    rw [combine, combine, toList_foldl, toList_foldl] at htext
    have hperm := fun items : List (String × Option String) =>
      (perm_sortedItems items).filterMap signedField
    have hsorted := flat_inj (fun a ha => hp a ((hperm _).mem_iff.1 ha))
      (fun a ha => hq a ((hperm _).mem_iff.1 ha)) (List.append_cancel_left htext)
    exact (hperm p.items).symm.trans (hsorted ▸ hperm q.items)

theorem mem_update {params others : List (String × String)} {name : String}
    (h : name ∈ params.map Prod.fst) : name ∈ (update params others).map Prod.fst := by
  induction others generalizing params with
  | nil => exact h
  | cons p others ih =>
    apply ih
    obtain ⟨q, hq, rfl⟩ := List.mem_map.1 h
    rw [List.map_append, List.mem_append]
    by_cases hname : q.1 = p.1
    · exact Or.inr (by simp [hname])
    · exact Or.inl (List.mem_map_of_mem (List.mem_filter.2 ⟨hq, by simpa using hname⟩))

/-- A name of more than two characters cannot be taken apart. -/
theorem contentOf_error {names : List String} (h : "app_id" ∈ names) :
    ∀ texts, contentOf names ≠ .ok texts := by
  induction names with
  | nil => simp at h
  | cons name names ih =>
    intro texts hok
    unfold contentOf at hok
    rcases List.mem_cons.1 h with rfl | h
    · simp [unpack, Bind.bind, Except.bind] at hok
    · cases hname : unpack name with
      | error e => simp [hname, Bind.bind, Except.bind] at hok
      | ok text =>
        cases hrest : contentOf names with
        | error e => simp [hname, hrest, Bind.bind, Except.bind] at hok
        | ok texts => exact ih h texts hrest

/-- Each request names its application. -/
theorem app_id_mem (request : Request) : "app_id" ∈
    ((buildRequestParams request).filter fun p => p.1 ≠ "sign_type").map Prod.fst := by
  have hmem : "app_id" ∈ (buildRequestParams request).map Prod.fst := by
    apply mem_update
    apply mem_update
    simp [defaultParams]
  obtain ⟨p, hp, hname⟩ := List.mem_map.1 hmem
  refine List.mem_map.2 ⟨p, List.mem_filter.2 ⟨hp, ?_⟩, hname⟩
  rw [hname]
  decide

theorem alipay_refuses (verify : String → String → Bool) (request : Request) (sign : String) :
    checkNotifySign verify (buildRequestParams request) sign ≠ .ok true := by
  unfold checkNotifySign
  dsimp only
  split
  · simp
  · intro hok
    have hmem := (List.perm_insertionSort (fun a b : String =>
      a.toList.headD ' ' ≤ b.toList.headD ' ') _).mem_iff.2 (app_id_mem request)
    cases hcontent : contentOf (List.insertionSort (fun a b : String =>
        a.toList.headD ' ' ≤ b.toList.headD ' ')
        (((buildRequestParams request).filter fun p => p.1 ≠ "sign_type").map Prod.fst)) with
    | error e =>
      rw [hcontent] at hok
      simp [Bind.bind, Except.bind] at hok
    | ok texts => exact contentOf_error hmem texts hcontent

/-- Where digests do not collide, outware and WeChat signatures bind the messages that can be
read back; no signed Alipay request passes the check. -/
theorem signatures_bind {md5 md5Upper : String → String} (hmd5 : Function.Injective md5)
    (hupper : Function.Injective md5Upper) (createSign : String → String)
    (verify : String → String → Bool) :
    (∀ account p q, OutwareFits account p → OutwareFits account q →
        (outware md5 account).Binds p q) ∧
      (∀ key p q, WxpayFits p → WxpayFits q → (wxpay md5Upper key).Binds p q) ∧
      ∀ request request', ¬ (alipay createSign verify).Binds request request' :=
  ⟨fun _ _ _ => outware_binds hmd5, fun key _ _ => wxpay_binds hupper key,
    fun request _ h => alipay_refuses verify request _ h.accepted⟩

/-- A digest that is known of one text. -/
def digestOf (text digest : String) (other : String) : String :=
  if other = text then digest else other ++ "-"

theorem digestOf_injective {text digest : String} (h : digest.toList.getLast? ≠ some '-') :
    Function.Injective (digestOf text digest) := by
  have hne : ∀ other : String, digest ≠ other ++ "-" := by
    rintro other rfl
    simp at h
  intro a b hab
  unfold digestOf at hab
  split at hab <;> split at hab
  · rename_i ha hb
    exact ha.trans hb.symm
  · exact absurd hab (hne b)
  · exact absurd hab.symm (hne a)
  · exact String.toList_inj.1 (append_right_inj _ hab)

def sampleParams : Params String := ⟨[("b", "2"), ("a", "1")], by decide, by decide⟩

def sampleFields : Params (Option String) :=
  ⟨[("b", some "2"), ("a", some "1"), ("c", none)], by decide, by decide⟩

theorem signatures_bind_sample :
    (outware (digestOf "a=1&b=2secret" "8d9f51949e440aa629fd1a035708473a")
        ⟨"md5", "secret"⟩).Binds sampleParams sampleParams ∧
      (wxpay (digestOf "a=1&b=2&key=secret" "9F565CCD686CFA5DC3B06B3A89E4E3AD")
        "secret").Binds sampleFields sampleFields ∧
      ¬ (alipay id fun content sign => content = sign).Binds ⟨"1", "2016-12-01", [], "{}"⟩
        ⟨"1", "2016-12-01", [], "{}"⟩ := by
  obtain ⟨houtware, hwxpay, halipay⟩ := signatures_bind
    (@digestOf_injective "a=1&b=2secret" "8d9f51949e440aa629fd1a035708473a" (by decide))
    (@digestOf_injective "a=1&b=2&key=secret" "9F565CCD686CFA5DC3B06B3A89E4E3AD" (by decide))
    id fun content sign => content = sign
  have hparams : OutwareFits ⟨"md5", "secret"⟩ sampleParams := by
    unfold OutwareFits Plain
    decide +kernel
  have hfields : WxpayFits sampleFields := by
    unfold WxpayFits Plain
    decide +kernel
  exact ⟨houtware _ _ _ hparams hparams, hwxpay _ _ _ hfields hfields, halipay _ _⟩

/-- The fields `a` and `b` are taken for one field `a`. -/
theorem signatures_bind_fails :
    ¬ ∃ md5Upper : String → String, (wxpay md5Upper "secret").Binds
      ⟨[("a", some "1&b=2")], by decide, by decide⟩
      ⟨[("a", some "1"), ("b", some "2")], by decide, by decide⟩ := by
  rintro ⟨md5Upper, h⟩
  have hsame : generateSignature md5Upper [("a", some "1"), ("b", some "2")] "secret" =
      generateSignature md5Upper [("a", some "1&b=2")] "secret" :=
    congrArg md5Upper (by decide +kernel)
  have hother := (isSignatureValid_eq md5Upper "secret" _ _).trans (decide_eq_true hsame)
  exact absurd (h.bound _ h.accepted (congrArg Except.ok hother)).length_eq (by decide)

end ShopManager.Xiaolupay.Signature
