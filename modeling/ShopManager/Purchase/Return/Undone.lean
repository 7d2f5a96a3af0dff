import Mathlib.Data.List.TakeWhile
import ShopManager.Purchase.Return.Model

/-!
# Failed returns

A return that fails gives all its pieces back.  Verification has taken them, as far as there were
any, and delivery has taken those that are to be paid back a second time.
-/

namespace ShopManager.Purchase.Return

open Library Library.Tx

/-! ## What should come back -/

def stock (s : ReturnDb) (sku : Nat) : Option (Int × Int) :=
  (s.productSkus.get? sku).map fun psk => (psk.quantity, psk.skuInferiorNum)

structure Bounced (id : Nat) (s verified sent failed : ReturnDb) : Prop where
  verify : ∃ userId now username,
    (changeDuihuoStatusOk id userId now username).run s = (.ok (), verified)
  send : ∃ company no consigner now,
    (setReturnGoodsSkuSend id company no consigner now).run verified = (.ok .done, sent)
  fail : (setReturnGoodsFailed id).run sent = (.ok (), failed)

structure Undone (id : Nat) (s verified sent failed : ReturnDb) : Prop where
  restored : ∀ sku, stock failed sku = stock s sku
  others : ∀ sku, (∀ d ∈ ReturnGoods.rgDetails s id, d.skuid ≠ sku) →
    stock verified sku = stock s sku ∧ stock sent sku = stock s sku

def verifiedDetails (s : ReturnDb) (rg : ReturnGoods) : List RGDetail :=
  if s.products.get? rg.productId = none then []
  else (ReturnGoods.rgDetails s rg.id).takeWhile fun rd => (s.productSkus.get? rd.skuid).isSome

def ofSku (sku : Nat) (rds : List RGDetail) : List RGDetail := rds.filter fun rd => rd.skuid = sku

def total (w : RGDetail → Int) (rds : List RGDetail) : Int := (rds.map w).sum

def changes (s : ReturnDb) (rg : ReturnGoods) (sku : Nat) : List RGDetail :=
  (ofSku sku (ReturnGoods.rgDetails s rg.id)).filter fun rd => rd.type = .change

def Undoable (s : ReturnDb) (rg : ReturnGoods) : Prop :=
  ∀ sku quantity inferior, stock s sku = some (quantity, inferior) →
    ((ofSku sku (verifiedDetails s rg)).map RGDetail.num).foldl reduced quantity =
      quantity - total RGDetail.num (changes s rg sku) ∧
    ((ofSku sku (verifiedDetails s rg)).map RGDetail.inferiorNum).foldl reduced inferior =
      inferior - total RGDetail.inferiorNum (ofSku sku (ReturnGoods.rgDetails s rg.id))

variable {s t u : ReturnDb} {f : RGDetail → Int × Int → Int × Int} {rd : RGDetail}
  {rds : List RGDetail} {sku : Nat}

def effect (f : RGDetail → Int × Int → Int × Int) (rds : List RGDetail) (sku : Nat)
    (pieces : Int × Int) : Int × Int :=
  (ofSku sku rds).foldl (fun pieces rd => f rd pieces) pieces

structure Acts (f : RGDetail → Int × Int → Int × Int) (rds : List RGDetail)
    (s t : ReturnDb) : Prop where
  stocks : ∀ sku, stock t sku = (stock s sku).map (effect f rds sku)
  details : t.rgDetails = s.rgDetails

theorem Acts.of_same (hskus : t.productSkus = s.productSkus) (hdetails : t.rgDetails = s.rgDetails) :
    Acts f [] s t where
  stocks sku := by
    have hid : effect f [] sku = id := rfl
    unfold stock
    rw [hskus, hid, Option.map_id_fun, id_eq]
  details := hdetails

theorem effect_append (rds rds' : List RGDetail) (sku : Nat) :
    effect f (rds ++ rds') sku = effect f rds' sku ∘ effect f rds sku := by
  funext pieces
  unfold effect ofSku
  rw [List.filter_append, List.foldl_append]
  rfl

theorem Acts.append {rds' : List RGDetail} (h : Acts f rds s t) (h' : Acts f rds' t u) :
    Acts f (rds ++ rds') s u where
  stocks sku := by
    rw [h'.stocks, h.stocks, Option.map_map, effect_append]
  details := h'.details.trans h.details

theorem Acts.isSome (h : Acts f rds s t) (sku : Nat) :
    (t.productSkus.get? sku).isSome = (s.productSkus.get? sku).isSome := by
  have hstock := congrArg Option.isSome (h.stocks sku)
  unfold stock at hstock
  rw [Option.isSome_map, Option.isSome_map, Option.isSome_map] at hstock
  exact hstock

theorem effect_one (f : RGDetail → Int × Int → Int × Int) (rd : RGDetail) (sku : Nat) :
    effect f [rd] sku = if sku = rd.skuid then f rd else id := by
  funext pieces
  unfold effect ofSku
  rw [List.filter_cons, List.filter_nil]
  by_cases hsku : rd.skuid = sku
  · rw [if_pos (decide_eq_true hsku), if_pos hsku.symm]
    rfl
  · rw [if_neg (fun h => hsku (of_decide_eq_true h)), if_neg (Ne.symm hsku)]
    rfl

theorem updateSku_acts (rd : RGDetail) {g : ProductSku → ProductSku} (hg : ∀ psk : ProductSku,
    ((g psk).quantity, (g psk).skuInferiorNum) = f rd (psk.quantity, psk.skuInferiorNum))
    (s : ReturnDb) : Acts f [rd] s ((updateSku rd.skuid g).run s).2 where
  stocks sku := by
    change ((s.productSkus.update (fun psk => psk.id = rd.skuid) g).get? sku).map _ = _
    have hupdate := Table.get?_update s.productSkus rd.skuid sku g
    have hget : (s.productSkus.update (fun psk => psk.id = rd.skuid) g).get? sku =
      if sku = rd.skuid then (s.productSkus.get? rd.skuid).map fun psk =>
        Row.withPk rd.skuid (g psk) else s.productSkus.get? sku := hupdate
    rw [hget, effect_one]
    unfold stock
    by_cases hsku : sku = rd.skuid
    · subst hsku
      rw [if_pos rfl, if_pos rfl, Option.map_map, Option.map_map]
      exact Option.map_congr fun psk _ => hg psk
    · rw [if_neg hsku, if_neg hsku, Option.map_id_fun, id_eq]
  details := rfl

theorem Acts.comp {g : RGDetail → Int × Int → Int × Int} (h : Acts f [rd] s t)
    (h' : Acts g [rd] t u) : Acts (fun rd => g rd ∘ f rd) [rd] s u where
  stocks sku := by
    rw [h'.stocks, h.stocks, Option.map_map, effect_one, effect_one, effect_one]
    by_cases hsku : sku = rd.skuid
    · rw [if_pos hsku, if_pos hsku, if_pos hsku]
    · rw [if_neg hsku, if_neg hsku, if_neg hsku]
      rfl
  details := h'.details.trans h.details

theorem forEach_acts {body : RGDetail → ReturnTx Unit}
    (hbody : ∀ rd s, ∃ t, (body rd).run s = (.ok (), t) ∧ Acts f [rd] s t) :
    ∀ (rds : List RGDetail) (s : ReturnDb),
      ∃ t, (forEach rds body).run s = (.ok (), t) ∧ Acts f rds s t := by
  intro rds
  induction rds with
  | nil => exact fun s => ⟨s, rfl, Acts.of_same rfl rfl⟩
  | cons rd rds ih =>
    intro s
    obtain ⟨t, hrun, hacts⟩ := hbody rd s
    obtain ⟨u, hrest, hactsRest⟩ := ih t
    refine ⟨u, ?_, hacts.append hactsRest⟩
    rw [forEach_cons, bind_ok hrun]
    exact hrest

def taken (rd : RGDetail) (pieces : Int × Int) : Int × Int :=
  (reduced pieces.1 rd.num, reduced pieces.2 rd.inferiorNum)

def shipped (rd : RGDetail) (pieces : Int × Int) : Int × Int := (pieces.1 - rd.num, pieces.2)

def givenBack (rd : RGDetail) (pieces : Int × Int) : Int × Int :=
  (pieces.1 + rd.num, pieces.2 + rd.inferiorNum)

theorem acrionInvenctoryNum_acts (product : Product) {psk : ProductSku} (hpsk : psk.id = rd.skuid)
    (s : ReturnDb) : ∃ t, (acrionInvenctoryNum product psk rd).run s = (.ok (), t) ∧
      Acts taken [rd] s t := by
  refine ⟨_, rfl, ?_⟩
  rw [hpsk]
  have hgood := updateSku_acts rd (f := fun rd pieces => (reduced pieces.1 rd.num, pieces.2))
    (g := fun k => { k with quantity := reduced k.quantity rd.num }) (fun _ => rfl) s
  generalize hmid : ((updateSku rd.skuid fun k =>
    { k with quantity := reduced k.quantity rd.num }).run s).2 = mid at hgood
  have hinferior := updateSku_acts rd
    (f := fun rd pieces => (pieces.1, reduced pieces.2 rd.inferiorNum))
    (g := fun k => { k with skuInferiorNum := reduced k.skuInferiorNum rd.inferiorNum })
    (fun _ => rfl) { mid with
      products := mid.products.update (fun p => p.id = product.id) fun p =>
        { p with collectNum := reduced p.collectNum rd.num } }
  have hboth := hgood.comp ⟨hinferior.stocks, hinferior.details⟩
  subst hmid
  exact hboth

theorem reduceEach_acts (product : Product) : ∀ (rds : List RGDetail) (s : ReturnDb),
    ∃ t, (reduceEach product rds).run s = (.ok (), t) ∧
      Acts taken (rds.takeWhile fun rd => (s.productSkus.get? rd.skuid).isSome) s t := by
  intro rds
  induction rds with
  | nil => exact fun s => ⟨s, rfl, Acts.of_same rfl rfl⟩
  | cons rd rds ih =>
    intro s
    unfold reduceEach
    rw [gets_bind_run, List.takeWhile_cons]
    cases hget : s.productSkus.get? rd.skuid with
    | none => exact ⟨s, rfl, Acts.of_same rfl rfl⟩
    | some psk =>
      have hpsk : psk.id = rd.skuid := (Table.get?_eq_some.mp hget).2
      obtain ⟨t, hrun, hacts⟩ := acrionInvenctoryNum_acts product hpsk s
      obtain ⟨u, hrest, hactsRest⟩ := ih t
      refine ⟨u, (bind_ok hrun).trans hrest, ?_⟩
      have hsame : (rds.takeWhile fun rd => (t.productSkus.get? rd.skuid).isSome) =
          rds.takeWhile fun rd => (s.productSkus.get? rd.skuid).isSome :=
        congrArg (rds.takeWhile ·) (funext fun rd => hacts.isSome rd.skuid)
      rw [hsame] at hactsRest
      rw [if_pos (Option.isSome_some)]
      exact hacts.append hactsRest

theorem rgDetails_eq (h : t.rgDetails = s.rgDetails) (id : Nat) :
    ReturnGoods.rgDetails t id = ReturnGoods.rgDetails s id := by
  unfold ReturnGoods.rgDetails
  rw [h]

theorem Acts.after {mid : ReturnDb} {m : ReturnTx Unit} (hrun : m.run mid = (.ok (), t))
    (hskus : mid.productSkus = s.productSkus) (hdetails : mid.rgDetails = s.rgDetails)
    (hm : ∃ t, m.run mid = (.ok (), t) ∧ Acts f rds mid t) : Acts f rds s t := by
  obtain ⟨u, hu, hacts⟩ := hm
  obtain rfl : u = t := (Prod.mk.inj (hu.symm.trans hrun)).2
  have hboth := (Acts.of_same (f := f) hskus hdetails).append hacts
  rwa [List.nil_append] at hboth

theorem verify_acts {id userId now : Nat} {username : String}
    (h : (changeDuihuoStatusOk id userId now username).run s = (.ok (), t)) :
    ∃ rg, s.returnGoods.get? id = some rg ∧ Acts taken (verifiedDetails s rg) s t := by
  obtain ⟨rg, s', hfound, hrun⟩ := bind_eq_ok.mp h
  obtain ⟨hget, rfl⟩ := getOr_eq_ok.mp hfound
  refine ⟨rg, hget, ?_⟩
  unfold ReturnGoods.verify ReturnGoods.save changeProductInventory at hrun
  rw [modify_bind_run, modify_bind_run, gets_bind_run, gets_bind_run] at hrun
  unfold verifiedDetails
  cases hproduct : s.products.get? rg.productId with
  | none =>
    dsimp only at hrun
    rw [hproduct] at hrun
    obtain ⟨-, rfl⟩ := pure_eq_ok.mp hrun
    rw [if_pos rfl]
    exact Acts.of_same rfl rfl
  | some product =>
    dsimp only at hrun
    rw [hproduct] at hrun
    dsimp only at hrun
    rw [if_neg (Option.some_ne_none _)]
    exact Acts.after hrun rfl rfl (reduceEach_acts product _ _)

theorem send_acts {id now : Nat} {name no consigner : String}
    (h : (setReturnGoodsSkuSend id name no consigner now).run s = (.ok .done, t)) :
    Acts shipped ((ReturnGoods.rgDetails s id).filter fun d => d.type = .refund) s t := by
  obtain ⟨company, s', hcompany, hrest⟩ := bind_eq_ok.mp h
  obtain ⟨-, rfl⟩ := getOr_eq_ok.mp hcompany
  obtain ⟨rg, s', hfound, hrun⟩ := bind_eq_ok.mp hrest
  obtain ⟨hget, rfl⟩ := getOr_eq_ok.mp hfound
  obtain ⟨-, rfl⟩ := Table.get?_eq_some.mp hget
  split at hrun
  · exact nomatch (pure_eq_ok.mp hrun).1
  split at hrun
  · obtain ⟨⟨⟩, s', hdelivery, hdone⟩ := bind_eq_ok.mp hrun
    obtain ⟨-, rfl⟩ := pure_eq_ok.mp hdone
    unfold ReturnGoods.deliveryBy ReturnGoods.save at hdelivery
    rw [modify_bind_run, gets_bind_run] at hdelivery
    refine Acts.after hdelivery rfl rfl (forEach_acts (fun rd s => ⟨_, rfl, ?_⟩) _ _)
    exact updateSku_acts rd (fun _ => rfl) s
  · exact nomatch (pure_eq_ok.mp hrun).1

theorem fail_acts {id : Nat} (h : (setReturnGoodsFailed id).run s = (.ok (), t)) :
    Acts givenBack (ReturnGoods.rgDetails s id) s t := by
  obtain ⟨rg, s', hfound, hrun⟩ := bind_eq_ok.mp h
  obtain ⟨hget, rfl⟩ := getOr_eq_ok.mp hfound
  obtain ⟨-, rfl⟩ := Table.get?_eq_some.mp hget
  split at hrun
  · unfold ReturnGoods.setFailed at hrun
    rw [gets_bind_run] at hrun
    refine Acts.after hrun rfl rfl (forEach_acts (fun rd s => ⟨_, rfl, ?_⟩) _ _)
    have hback := updateSku_acts rd (f := givenBack) (g := fun k => { k with
      quantity := k.quantity + rd.num
      skuInferiorNum := k.skuInferiorNum + rd.inferiorNum }) (fun _ => rfl) s
    exact ⟨hback.stocks, hback.details⟩
  · exact nomatch hrun

theorem effect_taken (rds : List RGDetail) (sku : Nat) (pieces : Int × Int) :
    effect taken rds sku pieces =
      (((ofSku sku rds).map RGDetail.num).foldl reduced pieces.1,
        ((ofSku sku rds).map RGDetail.inferiorNum).foldl reduced pieces.2) := by
  unfold effect
  induction ofSku sku rds generalizing pieces with
  | nil => rfl
  | cons rd rds ih =>
    rw [List.foldl_cons, ih]
    rfl

theorem effect_shipped (rds : List RGDetail) (sku : Nat) (pieces : Int × Int) :
    effect shipped rds sku pieces = (pieces.1 - total RGDetail.num (ofSku sku rds), pieces.2) := by
  unfold effect total
  induction ofSku sku rds generalizing pieces with
  | nil => exact Prod.ext (sub_zero _).symm rfl
  | cons rd rds ih =>
    rw [List.foldl_cons, ih, List.map_cons, List.sum_cons]
    exact Prod.ext (sub_sub _ _ _) rfl

theorem effect_givenBack (rds : List RGDetail) (sku : Nat) (pieces : Int × Int) :
    effect givenBack rds sku pieces = (pieces.1 + total RGDetail.num (ofSku sku rds),
      pieces.2 + total RGDetail.inferiorNum (ofSku sku rds)) := by
  unfold effect total
  induction ofSku sku rds generalizing pieces with
  | nil => exact Prod.ext (add_zero _).symm (add_zero _).symm
  | cons rd rds ih =>
    rw [List.foldl_cons, ih, List.map_cons, List.sum_cons, List.map_cons, List.sum_cons]
    exact Prod.ext (add_assoc _ _ _) (add_assoc _ _ _)

theorem total_num (rds : List RGDetail) (sku : Nat) :
    total RGDetail.num (ofSku sku rds) =
      total RGDetail.num (ofSku sku (rds.filter fun d => d.type = .refund)) +
        total RGDetail.num ((ofSku sku rds).filter fun d => d.type = .change) := by
  unfold ofSku
  rw [List.filter_comm]
  generalize rds.filter (fun rd => rd.skuid = sku) = own
  unfold total
  induction own with
  | nil => rfl
  | cons rd rds ih =>
    rw [List.map_cons, List.sum_cons, ih, List.filter_cons, List.filter_cons]
    cases htype : rd.type with
    | refund =>
      rw [if_pos (decide_eq_true rfl), if_neg (by decide), List.map_cons, List.sum_cons,
        add_assoc]
    | change =>
      rw [if_neg (by decide), if_pos (decide_eq_true rfl), List.map_cons, List.sum_cons,
        add_left_comm]

theorem ofSku_eq_nil (h : ∀ d ∈ rds, d.skuid ≠ sku) : ofSku sku rds = [] :=
  List.filter_eq_nil_iff.mpr fun d hd hsku => h d hd (of_decide_eq_true hsku)

theorem effect_none (f : RGDetail → Int × Int → Int × Int) (h : ∀ d ∈ rds, d.skuid ≠ sku) :
    effect f rds sku = id := by
  funext pieces
  unfold effect
  rw [ofSku_eq_nil h]
  rfl

theorem Acts.other (h : Acts f rds s t) (hrds : ∀ d ∈ rds, d.skuid ≠ sku) :
    stock t sku = stock s sku := by
  rw [h.stocks, effect_none f hrds, Option.map_id_fun, id_eq]

theorem mem_verifiedDetails {rg : ReturnGoods} (h : rd ∈ verifiedDetails s rg) :
    rd ∈ ReturnGoods.rgDetails s rg.id := by
  unfold verifiedDetails at h
  split at h
  · exact absurd h List.not_mem_nil
  · exact List.IsPrefix.subset ( List.takeWhile_prefix _) h

/-- The stock of every SKU comes back exactly where verification took what is exchanged. -/
theorem undone_iff {id : Nat} {s verified sent failed : ReturnDb} {rg : ReturnGoods}
    (hrg : s.returnGoods.get? id = some rg) (h : Bounced id s verified sent failed) :
    Undone id s verified sent failed ↔ Undoable s rg := by
  obtain ⟨userId, now, username, hverify⟩ := h.verify
  obtain ⟨company, no, consigner, now', hsend⟩ := h.send
  obtain ⟨rg', hrg', hverified⟩ := verify_acts hverify
  obtain rfl := Option.some.inj (hrg.symm.trans hrg')
  obtain ⟨-, rfl⟩ := Table.get?_eq_some.mp hrg
  have hsent := send_acts hsend
  have hfailed := fail_acts h.fail
  rw [rgDetails_eq hverified.details] at hsent
  rw [rgDetails_eq (hsent.details.trans hverified.details)] at hfailed
  have hothers : ∀ sku, (∀ d ∈ ReturnGoods.rgDetails s (Row.pk rg), d.skuid ≠ sku) →
      stock verified sku = stock s sku ∧ stock sent sku = stock s sku := by
    intro sku hsku
    have hverifiedStock := hverified.other fun d hd => hsku d (mem_verifiedDetails hd)
    exact ⟨hverifiedStock,
      (hsent.other fun d hd => hsku d (List.mem_filter.mp hd).1).trans hverifiedStock⟩
  have hstock : ∀ sku, stock failed sku = (stock s sku).map fun pieces =>
      (((ofSku sku (verifiedDetails s rg)).map RGDetail.num).foldl reduced pieces.1 +
          total RGDetail.num (changes s rg sku),
        ((ofSku sku (verifiedDetails s rg)).map RGDetail.inferiorNum).foldl reduced pieces.2 +
          total RGDetail.inferiorNum (ofSku sku (ReturnGoods.rgDetails s rg.id))) := by
    intro sku
    rw [hfailed.stocks, hsent.stocks, hverified.stocks, Option.map_map, Option.map_map]
    refine congrArg (fun g => (stock s sku).map g) (funext fun pieces => ?_)
    rw [Function.comp_apply, Function.comp_apply, effect_givenBack, effect_shipped, effect_taken]
    refine Prod.ext ?_ rfl
    have htotal := total_num (ReturnGoods.rgDetails s (Row.pk rg)) sku
    dsimp only
    rw [htotal, ← add_assoc, sub_add_cancel]
    rfl
  constructor
  · intro hundone sku quantity inferior hpieces
    have hrestored := hundone.restored sku
    rw [hstock, hpieces] at hrestored
    obtain ⟨hgood, hinferior⟩ := Prod.mk.inj (Option.some.inj hrestored)
    exact ⟨eq_sub_of_add_eq hgood, eq_sub_of_add_eq hinferior⟩
  · intro hundoable
    refine ⟨fun sku => ?_, hothers⟩
    rw [hstock]
    cases hpieces : stock s sku with
    | none => rfl
    | some pieces =>
        obtain ⟨hgood, hinferior⟩ := hundoable sku pieces.1 pieces.2 hpieces
        exact congrArg some (Prod.ext (add_eq_of_eq_sub hgood) (add_eq_of_eq_sub hinferior))

theorem foldl_reduced {nums : List Int} (hnums : ∀ n ∈ nums, 0 ≤ n) (hsome : nums ≠ [])
    (quantity : Int) :
    nums.foldl reduced quantity = if nums.sum ≤ quantity then quantity - nums.sum else 0 := by
  induction nums generalizing quantity with
  | nil => exact absurd rfl hsome
  | cons n nums ih =>
    have hn : 0 ≤ n := hnums n List.mem_cons_self
    have hrest : ∀ m ∈ nums, 0 ≤ m := fun m hm => hnums m (List.mem_cons_of_mem n hm)
    have hsum : 0 ≤ nums.sum := List.sum_nonneg hrest
    have hstep : reduced quantity n = if n ≤ quantity then quantity - n else 0 := rfl
    rw [List.foldl_cons, List.sum_cons, hstep]
    by_cases hnil : nums = []
    · subst hnil
      rw [List.foldl_nil, List.sum_nil, add_zero]
    · rw [ih hrest hnil]
      by_cases hfirst : n ≤ quantity
      · rw [if_pos hfirst]
        by_cases hall : n + nums.sum ≤ quantity
        · rw [if_pos hall, if_pos (by omega), sub_sub]
        · rw [if_neg hall, if_neg (by omega)]
      · rw [if_neg hfirst, if_neg (by omega : ¬ n + nums.sum ≤ quantity)]
        split
        · omega
        · rfl

theorem undoable_iff_of_pieces {s : ReturnDb} {rg : ReturnGoods}
    (hproduct : s.products.get? rg.productId ≠ none)
    (hknown : ∀ d ∈ ReturnGoods.rgDetails s rg.id, (s.productSkus.get? d.skuid).isSome = true)
    (hpieces : ∀ d ∈ ReturnGoods.rgDetails s rg.id, 0 ≤ d.num ∧ 0 ≤ d.inferiorNum) :
    Undoable s rg ↔ ∀ sku quantity inferior, stock s sku = some (quantity, inferior) →
      ofSku sku (ReturnGoods.rgDetails s rg.id) ≠ [] →
        min (total RGDetail.num (ofSku sku (ReturnGoods.rgDetails s rg.id))) quantity =
          total RGDetail.num (changes s rg sku) ∧
        total RGDetail.inferiorNum (ofSku sku (ReturnGoods.rgDetails s rg.id)) ≤ inferior := by
  have hall : verifiedDetails s rg = ReturnGoods.rgDetails s rg.id := by
    unfold verifiedDetails
    rw [if_neg hproduct]
    exact List.takeWhile_eq_self_iff.mpr hknown
  unfold Undoable
  rw [hall]
  refine forall_congr' fun sku => forall_congr' fun quantity => forall_congr' fun inferior =>
    imp_congr_right fun _ => ?_
  unfold changes
  by_cases hnone : ofSku sku (ReturnGoods.rgDetails s rg.id) = []
  · rw [hnone]
    exact iff_of_true ⟨(sub_zero quantity).symm, (sub_zero inferior).symm⟩ fun h => absurd rfl h
  · rw [imp_iff_right hnone]
    generalize hown : ofSku sku (ReturnGoods.rgDetails s rg.id) = own at hnone
    have hown' : ∀ d ∈ own, 0 ≤ d.num ∧ 0 ≤ d.inferiorNum := fun d hd =>
      hpieces d (List.mem_filter.mp (hown ▸ hd)).1
    have hgood : ∀ n ∈ own.map RGDetail.num, 0 ≤ n := by
      rintro n hn
      obtain ⟨d, hd, rfl⟩ := List.mem_map.mp hn
      exact (hown' d hd).1
    have hinferior : ∀ n ∈ own.map RGDetail.inferiorNum, 0 ≤ n := by
      rintro n hn
      obtain ⟨d, hd, rfl⟩ := List.mem_map.mp hn
      exact (hown' d hd).2
    have hchanges : 0 ≤ total RGDetail.num (own.filter fun rd => rd.type = .change) := by
      refine List.sum_nonneg fun n hn => ?_
      obtain ⟨d, hd, rfl⟩ := List.mem_map.mp hn
      exact (hown' d (List.mem_filter.mp hd).1).1
    have hsum : 0 ≤ total RGDetail.num own := List.sum_nonneg hgood
    have hsum' : 0 ≤ total RGDetail.inferiorNum own := List.sum_nonneg hinferior
    have hmap : own.map RGDetail.num ≠ [] := mt List.map_eq_nil_iff.mp hnone
    have hmap' : own.map RGDetail.inferiorNum ≠ [] := mt List.map_eq_nil_iff.mp hnone
    rw [foldl_reduced hgood hmap, foldl_reduced hinferior hmap']
    change (if total RGDetail.num own ≤ quantity then quantity - total RGDetail.num own else 0) =
      _ ∧ (if total RGDetail.inferiorNum own ≤ inferior then
        inferior - total RGDetail.inferiorNum own else 0) = _ ↔ _
    refine and_congr ?_ ?_
    · split
      · omega
      · omega
    · split
      · omega
      · omega

def billDb (type : DetailType) : ReturnDb where
  returnGoods := Table.empty.insert ⟨0, 1, .create, none, none, "", none, none, none⟩
  rgDetails := Table.empty.insert ⟨0, 1, 1, 2, 1, type⟩
  products := Table.empty.insert ⟨0, 9⟩
  productSkus := Table.empty.insert ⟨0, 5, 3⟩
  logisticsCompanies := Table.empty.insert ⟨0, "sf"⟩

def verifiedDb (s : ReturnDb) : ReturnDb := ((changeDuihuoStatusOk 1 7 0 "staff").run s).2

def sentDb (s : ReturnDb) : ReturnDb :=
  ((setReturnGoodsSkuSend 1 "sf" "no1" "staff" 1).run (verifiedDb s)).2

def failedDb (s : ReturnDb) : ReturnDb := ((setReturnGoodsFailed 1).run (sentDb s)).2

theorem bounced_billDb (type : DetailType) :
    Bounced 1 (billDb type) (verifiedDb (billDb type)) (sentDb (billDb type))
      (failedDb (billDb type)) where
  verify := ⟨7, 0, "staff", Prod.ext rfl rfl⟩
  send := by
    cases type with
    | refund => exact ⟨"sf", "no1", "staff", 1, Prod.ext rfl rfl⟩
    | change => exact ⟨"sf", "no1", "staff", 1, Prod.ext rfl rfl⟩
  fail := by
    cases type with
    | refund => exact Prod.ext rfl rfl
    | change => exact Prod.ext rfl rfl

theorem undone_exchange : Undone 1 (billDb .change) (verifiedDb (billDb .change))
    (sentDb (billDb .change)) (failedDb (billDb .change)) := by
  have hrg : (billDb .change).returnGoods.get? 1 =
      some ⟨1, 1, .create, none, none, "", none, none, none⟩ := rfl
  refine (undone_iff hrg (bounced_billDb .change)).mpr fun sku quantity inferior hstock => ?_
  by_cases hsku : sku = 1
  · subst hsku
    obtain ⟨rfl, rfl⟩ := Prod.mk.inj (Option.some.inj hstock)
    decide
  · have hget : (billDb .change).productSkus.get? sku = none :=
      Table.first_eq_none.mpr fun psk hpsk => by
        obtain rfl := List.mem_singleton.mp hpsk
        exact decide_eq_false (Ne.symm hsku)
    have hnone : stock (billDb .change) sku = none := by
      unfold stock
      rw [hget]
      rfl
    exact nomatch hnone.symm.trans hstock

theorem undone_fails : ¬ ∀ id s verified sent failed, Bounced id s verified sent failed →
    Undone id s verified sent failed := by
  intro h
  have hundone := h 1 _ _ _ _ (bounced_billDb .refund)
  exact absurd (hundone.restored 1) (by decide)

end ShopManager.Purchase.Return
