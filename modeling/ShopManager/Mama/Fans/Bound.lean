import ShopManager.Mama.Fans.Model

/-!
# The rules of the fans relation

A fan has one mama and is not her own, and a mama becomes nobody's fan.  The task of the download
records does not ask whether its customer is a mama, and a changed mama is saved before a record
that cannot be saved.
-/

namespace ShopManager.Mama.Fans

open Library Library.Tx Library.Execution

/-! ## The rules -/

def CustomerOf (s : FansDb) (mamaId cusid : Nat) : Prop :=
  ∃ mama ∈ s.mamas, mama.id = mamaId ∧
    ∃ customer ∈ s.customers, customer.id = cusid ∧ customer.unionid = mama.openid

structure Related (s : FansDb) : Prop where
  once : (s.fans.map XlmmFans.fansCusid).Nodup
  notSelf : ∀ fan ∈ s.fans, fan.xlmmCusid ≠ fan.fansCusid
  owner : ∀ fan ∈ s.fans, CustomerOf s fan.xlmm fan.xlmmCusid

def Recorded (s : FansDb) (fansCusid mamaId : Nat) : Prop :=
  match (FansOp.changeMama fansCusid mamaId).call.run s with
  | (.ok (), s') => ∃ fan fan', s.fansOf fansCusid = some fan ∧ s'.fansOf fansCusid = some fan' ∧
      fan'.xlmm = mamaId ∧ ∃ record, s'.changes = s.changes ++ [record] ∧
        record.fans = .fans fan' ∧ record.oldXlmm = .number fan.xlmm ∧
        record.newXlmm = .number mamaId
  | (.error _, s') => s' = s

structure Rules (s : FansDb) (op : FansOp) : Prop where
  related : Related (op.exec s)
  noMama : ∀ customer ∈ s.customers, (customer.getXiaolumm s).isSome = true →
    ((op.exec s).fansOf customer.id).isSome = true → (s.fansOf customer.id).isSome = true
  recorded : ∀ fansCusid mamaId, op = .changeMama fansCusid mamaId → Recorded s fansCusid mamaId

def Links (s : FansDb) (record : AppDownloadRecord) (customer : Customer) : Prop :=
  record.activated = true ∧ record.customer s = some customer ∧
    (s.fansOf customer.id).isSome = false ∧ ∃ found ∈ record.mama s, found.2 ≠ customer.id

instance (s : FansDb) (record : AppDownloadRecord) (customer : Customer) :
    Decidable (Links s record customer) := by
  unfold Links
  infer_instance

/-- Nobody who is a mama is linked by a record, and a fan changes to the mama that she has, or to
one without a customer. -/
def Fits (s : FansDb) : FansOp → Prop
  | .activate record => ∀ customer ∈ s.customers, Links s record customer →
      customer.getXiaolumm s = none
  | .changeMama fansCusid mamaId => ∀ fan ∈ s.fansOf fansCusid, ∀ mama ∈ s.mamas.get? mamaId,
      ∀ customer ∈ mama.getMamaCustomer s, fan.withMama mama customer = fan
  | .bindMama .. => True
  | .saveMama .. => True

instance (s : FansDb) (op : FansOp) : Decidable (Fits s op) := by
  cases op <;> unfold Fits <;> infer_instance

variable {s s' : FansDb} {fan : XlmmFans} {customer : Customer} {mama : XiaoluMama}

theorem fansOf_eq_none {cusid : Nat} :
    s.fansOf cusid = none ↔ ∀ fan ∈ s.fans, fan.fansCusid ≠ cusid := by
  unfold FansDb.fansOf
  rw [List.find?_eq_none]
  simp only [decide_eq_true_eq, ne_eq]

theorem mem_of_fansOf {cusid : Nat} (h : s.fansOf cusid = some fan) :
    fan ∈ s.fans ∧ fan.fansCusid = cusid := by
  unfold FansDb.fansOf at h
  have hspec := List.find?_some h
  exact ⟨List.mem_of_find?_eq_some h, of_decide_eq_true hspec⟩

def FansDb.addFan (s : FansDb) (fan : XlmmFans) : FansDb :=
  { s with fans := s.fans ++ [fan] }

theorem create_run (h : s.fansOf fan.fansCusid = none) :
    fan.create.run s = (.ok (), s.addFan fan) := by
  unfold XlmmFans.create
  rw [gets_bind_run, raiseIf_bind_run, h, if_neg (by decide)]
  rfl

theorem Related.addFan (h : Related s) (hnew : s.fansOf fan.fansCusid = none)
    (hself : fan.xlmmCusid ≠ fan.fansCusid) (howner : CustomerOf s fan.xlmm fan.xlmmCusid) :
    Related (s.addFan fan) where
  once := by
    unfold FansDb.addFan
    dsimp only
    rw [List.map_append, List.map_singleton, ← List.concat_eq_append]
    refine List.Nodup.concat (fun hmem => ?_) h.once
    obtain ⟨other, hother, heq⟩ := List.mem_map.mp hmem
    exact fansOf_eq_none.mp hnew other hother heq
  notSelf := by
    intro other hother
    rcases List.mem_append.mp hother with hother | hother
    · exact h.notSelf other hother
    · rw [List.mem_singleton.mp hother]
      exact hself
  owner := by
    intro other hother
    rcases List.mem_append.mp hother with hother | hother
    · exact h.owner other hother
    · rw [List.mem_singleton.mp hother]
      exact howner

theorem isSome_fansOf_addFan {cusid : Nat}
    (h : ((s.addFan fan).fansOf cusid).isSome = true) :
    fan.fansCusid = cusid ∨ (s.fansOf cusid).isSome = true := by
  unfold FansDb.addFan FansDb.fansOf at h
  rw [List.find?_append] at h
  unfold FansDb.fansOf
  cases hfind : s.fans.find? fun fan => fan.fansCusid = cusid with
  | some other => exact .inr rfl
  | none =>
    rw [hfind, Option.none_or, List.find?_singleton] at h
    by_cases heq : fan.fansCusid = cusid
    · exact .inl heq
    · rw [if_neg (by simpa using heq)] at h
      cases h

theorem getXiaolumm_mem (h : customer.getXiaolumm s = some mama) :
    mama ∈ s.mamas ∧ mama.openid = customer.unionid := by
  unfold Customer.getXiaolumm at h
  by_cases hunion : customer.unionid = ""
  · rw [if_pos hunion] at h
    cases h
  · rw [if_neg hunion] at h
    have hspec := Table.first_spec h
    exact ⟨Table.mem_of_first h, (of_decide_eq_true hspec).1⟩

theorem getMamaCustomer_mem (h : mama.getMamaCustomer s = some customer) :
    customer ∈ s.customers ∧ customer.unionid = mama.openid := by
  have hspec := List.find?_some h
  exact ⟨List.mem_of_find?_eq_some h, (of_decide_eq_true hspec).1⟩

theorem customerOf_record {record : AppDownloadRecord} {found : Nat × Nat} (h : Related s)
    (hfound : record.mama s = some found) : CustomerOf s found.1 found.2 := by
  unfold AppDownloadRecord.mama at hfound
  obtain ⟨referal, hreferal, hmama⟩ := Option.bind_eq_some_iff.mp hfound
  have hmem : referal ∈ s.customers := List.mem_of_find?_eq_some hreferal
  unfold mamaOf at hmama
  cases hown : referal.getXiaolumm s with
  | some mama =>
    rw [hown] at hmama
    obtain rfl := Option.some.inj hmama
    obtain ⟨hin, hopenid⟩ := getXiaolumm_mem hown
    exact ⟨mama, hin, rfl, referal, hmem, rfl, hopenid.symm⟩
  | none =>
    rw [hown] at hmama
    obtain ⟨fan, hfan, rfl⟩ := Option.map_eq_some_iff.mp hmama
    exact h.owner fan (mem_of_fansOf hfan).1

/-! ## One step -/

theorem exec_activate (s : FansDb) (record : AppDownloadRecord) :
    (∃ customer found, Links s record customer ∧ record.mama s = some found ∧
      found.2 ≠ customer.id ∧ (FansOp.activate record).exec s =
        s.addFan ⟨found.1, found.2, record.fromCustomer, customer.id⟩) ∨
    ((∀ customer, ¬ Links s record customer) ∧ (FansOp.activate record).exec s = s) := by
  have hexec : (FansOp.activate record).exec s = ((appdownloadrecordUpdateFans record).run s).2 :=
    rfl
  rw [hexec]
  unfold appdownloadrecordUpdateFans
  by_cases hactivated : record.activated = false
  · right
    rw [if_pos hactivated]
    refine ⟨fun customer hlinks => ?_, rfl⟩
    exact Bool.false_ne_true (hactivated.symm.trans hlinks.1)
  rw [if_neg hactivated, gets_bind_run, gets_bind_run]
  cases hcustomer : record.customer s with
  | none =>
    right
    refine ⟨fun customer hlinks => ?_, rfl⟩
    exact nomatch hcustomer.symm.trans hlinks.2.1
  | some customer =>
    cases hmama : record.mama s with
    | none =>
      right
      refine ⟨fun customer hlinks => ?_, rfl⟩
      obtain ⟨found, hfound, -⟩ := hlinks.2.2.2
      exact nomatch hmama.symm.trans hfound
    | some found =>
      dsimp only
      rw [gets_bind_run]
      cases hfans : s.fansOf customer.id with
      | some fan =>
        right
        refine ⟨fun other hlinks => ?_, rfl⟩
        obtain rfl := Option.some.inj (hcustomer.symm.trans hlinks.2.1)
        have hnone := hlinks.2.2.1
        rw [hfans] at hnone
        cases hnone
      | none =>
        rw [if_neg (by decide)]
        by_cases hself : found.2 = customer.id
        · right
          rw [if_pos hself]
          refine ⟨fun other hlinks => ?_, rfl⟩
          obtain rfl := Option.some.inj (hcustomer.symm.trans hlinks.2.1)
          obtain ⟨found', hfound', hne⟩ := hlinks.2.2.2
          obtain rfl := Option.some.inj (hmama.symm.trans hfound')
          exact hne hself
        · left
          rw [if_neg hself]
          refine ⟨customer, found, ⟨Bool.of_not_eq_false hactivated, hcustomer, ?_, found,
            hmama, hself⟩, rfl, hself, ?_⟩
          · rw [hfans]
            rfl
          · rw [create_run (s := s) hfans]

theorem exec_bindMama (s : FansDb) (customerId mamaId : Nat) :
    (FansOp.bindMama customerId mamaId).exec s = s ∨
      ∃ customer ∈ s.customers, ∃ mama ∈ s.mamas, ∃ mamaCustomer,
        customer.getXiaolumm s = none ∧ s.fansOf customer.id = none ∧
        mama.getMamaCustomer s = some mamaCustomer ∧ mamaCustomer.id ≠ customer.id ∧
        (FansOp.bindMama customerId mamaId).exec s =
          s.addFan ⟨mama.id, mamaCustomer.id, mamaCustomer.id, customer.id⟩ := by
  unfold FansOp.exec FansOp.call
  dsimp only
  rw [getOr_bind_run]
  cases hcustomer : s.customers.find? fun customer => customer.id = customerId with
  | none => exact .inl rfl
  | some customer =>
    dsimp only
    rw [getOr_bind_run]
    cases hmama : s.mamas.get? mamaId with
    | none => exact .inl rfl
    | some mama =>
      dsimp only
      unfold bindMama
      rw [gets_bind_run, raiseIf_bind_run]
      cases hown : customer.getXiaolumm s with
      | some own => exact .inl rfl
      | none =>
        rw [if_neg (by decide), gets_bind_run, raiseIf_bind_run]
        cases hfans : s.fansOf customer.id with
        | some fan => exact .inl rfl
        | none =>
          rw [if_neg (by decide), getOr_bind_run]
          cases hfound : mama.getMamaCustomer s with
          | none => exact .inl rfl
          | some mamaCustomer =>
            dsimp only
            rw [raiseIf_bind_run]
            by_cases hself : mamaCustomer.id = customer.id
            · rw [if_pos hself]
              exact .inl rfl
            · rw [if_neg hself]
              refine .inr ⟨customer, List.mem_of_find?_eq_some hcustomer, mama,
                Table.mem_of_first hmama, mamaCustomer, hown, hfans, hfound, hself, ?_⟩
              rw [create_run (s := s) hfans]

def FansDb.setFan (s : FansDb) (fan : XlmmFans) : FansDb :=
  { s with fans := s.fans.map fun row => if row.fansCusid = fan.fansCusid then fan else row }

theorem run_changeMama (s : FansDb) (fansCusid mamaId : Nat) :
    ∃ e, ((∀ fan mama, s.fansOf fansCusid = some fan → s.mamas.get? mamaId = some mama →
        mama.getMamaCustomer s = none) ∧
        (FansOp.changeMama fansCusid mamaId).call.run s = (.error e, s)) ∨
      ∃ fan mama customer, s.fansOf fansCusid = some fan ∧ s.mamas.get? mamaId = some mama ∧
        mama.getMamaCustomer s = some customer ∧
        (FansOp.changeMama fansCusid mamaId).call.run s =
          (.error e, s.setFan (fan.withMama mama customer)) := by
  unfold FansOp.call
  dsimp only
  rw [getOr_bind_run]
  cases hfan : s.fansOf fansCusid with
  | none => exact ⟨_, .inl ⟨fun _ _ h => (nomatch h), rfl⟩⟩
  | some fan =>
    dsimp only
    rw [getOr_bind_run]
    cases hmama : s.mamas.get? mamaId with
    | none => exact ⟨_, .inl ⟨fun _ _ _ h => (nomatch h), rfl⟩⟩
    | some mama =>
      dsimp only
      unfold changeMama
      rw [getOr_bind_run]
      cases hcustomer : mama.getMamaCustomer s with
      | none =>
        refine ⟨_, .inl ⟨fun _ mama' _ h => ?_, rfl⟩⟩
        obtain rfl := Option.some.inj h
        exact hcustomer
      | some customer => exact ⟨_, .inr ⟨fan, mama, customer, rfl, rfl, hcustomer, rfl⟩⟩

theorem recorded_iff {fansCusid mamaId : Nat} :
    Recorded s fansCusid mamaId ↔ (FansOp.changeMama fansCusid mamaId).exec s = s := by
  obtain ⟨e, hrun⟩ := run_changeMama s fansCusid mamaId
  unfold Recorded FansOp.exec
  rcases hrun with ⟨-, hrun⟩ | ⟨fan, mama, customer, -, -, -, hrun⟩
  · rw [hrun]
  · rw [hrun]

theorem setFan_eq_self_iff {fansCusid : Nat} (h : Related s)
    (hfan : s.fansOf fansCusid = some fan) :
    s.setFan (fan.withMama mama customer) = s ↔ fan.withMama mama customer = fan := by
  obtain ⟨hmem, -⟩ := mem_of_fansOf hfan
  have hsame : (fan.withMama mama customer).fansCusid = fan.fansCusid := rfl
  constructor
  · intro heq
    have hrows : s.fans.map (fun row => if row.fansCusid = fan.fansCusid then
        fan.withMama mama customer else row) = s.fans := congrArg FansDb.fans heq
    have hrow := List.map_inj_left.mp (hrows.trans (List.map_id _).symm) fan hmem
    rwa [if_pos rfl] at hrow
  · intro heq
    have hrows : s.fans.map (fun row => if row.fansCusid = fan.fansCusid then fan else row) =
        s.fans := by
      refine (List.map_congr_left fun row hrow => ?_).trans (List.map_id _)
      split
      · next hid => exact (List.inj_on_of_nodup_map h.once hrow hmem hid).symm
      · rfl
    unfold FansDb.setFan
    rw [heq, hrows]

theorem exec_saveMama (s : FansDb) (openid : String) (effect charged : Bool) :
    ∃ mamas, (FansOp.saveMama openid effect charged).exec s = { s with mamas := mamas } ∧
      ∀ mama ∈ s.mamas, ∃ mama' ∈ mamas, mama'.id = mama.id ∧ mama'.openid = mama.openid := by
  unfold FansOp.exec FansOp.call
  dsimp only
  rw [gets_bind_run]
  cases hknown : s.mamas.first fun mama => mama.openid = openid with
  | none =>
    refine ⟨_, rfl, fun mama hmama => ⟨mama, ?_, rfl, rfl⟩⟩
    exact Table.mem_insert.mpr (.inl hmama)
  | some known =>
    have hmem := Table.mem_of_first hknown
    refine ⟨_, rfl, fun mama hmama => ?_⟩
    by_cases hid : mama.id = known.id
    · obtain rfl := Table.pk_inj hmama hmem hid
      exact ⟨_, Table.mem_save_self hmama rfl, rfl, rfl⟩
    · refine ⟨mama, (Table.mem_save_iff hmem (by rfl)).mpr (.inr ⟨hmama, hid⟩), rfl, rfl⟩

theorem Rules.of_addFan {op : FansOp} (h : Related s) (hexec : op.exec s = s.addFan fan)
    (hcustomer : customer ∈ s.customers) (hid : fan.fansCusid = customer.id)
    (hnew : s.fansOf fan.fansCusid = none) (hself : fan.xlmmCusid ≠ fan.fansCusid)
    (howner : CustomerOf s fan.xlmm fan.xlmmCusid) (hmama : customer.getXiaolumm s = none)
    (hop : ∀ fansCusid mamaId, op ≠ .changeMama fansCusid mamaId) : Rules s op where
  related := by
    rw [hexec]
    exact h.addFan hnew hself howner
  noMama := by
    rw [hexec]
    intro other hother hown hfan
    refine (isSome_fansOf_addFan hfan).resolve_left fun heq => ?_
    obtain rfl := List.inj_on_of_nodup_map s.ids hcustomer hother (hid.symm.trans heq)
    rw [hmama] at hown
    cases hown
  recorded fansCusid mamaId heq := absurd heq (hop fansCusid mamaId)

theorem Rules.of_same {op : FansOp} (hrelated : Related (op.exec s))
    (hfans : (op.exec s).fans = s.fans)
    (hrecorded : ∀ fansCusid mamaId, op = .changeMama fansCusid mamaId →
      Recorded s fansCusid mamaId) : Rules s op where
  related := hrelated
  noMama other _ _ hfan := by
    unfold FansDb.fansOf at *
    rw [hfans] at hfan
    exact hfan
  recorded := hrecorded

theorem Related.saveMama (h : Related s) {mamas : Table XiaoluMama}
    (hkept : ∀ mama ∈ s.mamas, ∃ mama' ∈ mamas, mama'.id = mama.id ∧
      mama'.openid = mama.openid) : Related { s with mamas := mamas } where
  once := h.once
  notSelf := h.notSelf
  owner fan hfan := by
    obtain ⟨mama, hmama, hid, customer, hcustomer, hcusid, hunion⟩ := h.owner fan hfan
    obtain ⟨mama', hmama', hid', hopenid⟩ := hkept mama hmama
    exact ⟨mama', hmama', hid'.trans hid, customer, hcustomer, hcusid,
      hunion.trans hopenid.symm⟩

theorem rules_iff_fits (s : FansDb) (op : FansOp) (h : Related s) : Rules s op ↔ Fits s op := by
  cases op with
  | activate record =>
    rcases exec_activate s record with ⟨customer, found, hlinks, hfound, hself, hexec⟩ | ⟨hnot, hexec⟩
    · have hmem : customer ∈ s.customers := by
        have hcustomer := hlinks.2.1
        unfold AppDownloadRecord.customer at hcustomer
        split at hcustomer
        · exact List.mem_of_find?_eq_some hcustomer
        · split at hcustomer
          · exact List.mem_of_find?_eq_some hcustomer
          · cases hcustomer
      have hnew : s.fansOf customer.id = none := by
        have hnone := hlinks.2.2.1
        rwa [Option.isSome_eq_false_iff, Option.isNone_iff_eq_none] at hnone
      constructor
      · intro hrules other _ hother
        obtain rfl := Option.some.inj (hlinks.2.1.symm.trans hother.2.1)
        by_contra hmama
        have hfan : ((FansOp.activate record).exec s).fansOf customer.id ≠ none := by
          rw [hexec, ne_eq, fansOf_eq_none]
          intro hall
          exact hall _ (List.mem_append_right _ List.mem_cons_self) rfl
        have hbefore := hrules.noMama customer hmem (Option.isSome_iff_ne_none.mpr hmama)
          (Option.isSome_iff_ne_none.mpr hfan)
        rw [hnew] at hbefore
        cases hbefore
      · intro hfits
        exact Rules.of_addFan h hexec hmem rfl hnew hself (customerOf_record h hfound)
          (hfits customer hmem hlinks) fun _ _ heq => (nomatch heq)
    · refine iff_of_true (Rules.of_same (hexec.symm ▸ h) (by rw [hexec]) ?_) ?_
      · exact fun _ _ heq => (nomatch heq)
      · exact fun customer _ hlinks => absurd hlinks (hnot customer)
  | bindMama customerId mamaId =>
    refine iff_of_true ?_ trivial
    rcases exec_bindMama s customerId mamaId with hexec |
      ⟨customer, hcustomer, mama, hmama, mamaCustomer, hown, hnew, hfound, hself, hexec⟩
    · exact Rules.of_same (hexec.symm ▸ h) (by rw [hexec]) fun _ _ heq => (nomatch heq)
    · obtain ⟨hmem, hunion⟩ := getMamaCustomer_mem hfound
      exact Rules.of_addFan h hexec hcustomer rfl hnew hself
        ⟨mama, hmama, rfl, mamaCustomer, hmem, rfl, hunion⟩ hown fun _ _ heq => (nomatch heq)
  | changeMama fansCusid mamaId =>
    have hsame : (FansOp.changeMama fansCusid mamaId).exec s = s ↔
        Fits s (.changeMama fansCusid mamaId) := by
      obtain ⟨e, hrun⟩ := run_changeMama s fansCusid mamaId
      unfold FansOp.exec
      rcases hrun with ⟨hnone, hrun⟩ | ⟨fan, mama, customer, hfan, hmama, hcustomer, hrun⟩
      · rw [hrun]
        refine iff_of_true rfl fun fan hfan mama hmama customer hcustomer => ?_
        exact nomatch (hnone fan mama hfan hmama).symm.trans hcustomer
      · rw [hrun]
        refine (setFan_eq_self_iff h hfan).trans ⟨fun heq => ?_, fun hfits => ?_⟩
        · intro fan' hfan' mama' hmama' customer' hcustomer'
          obtain rfl := Option.some.inj (hfan.symm.trans hfan')
          obtain rfl := Option.some.inj (hmama.symm.trans hmama')
          obtain rfl := Option.some.inj (hcustomer.symm.trans hcustomer')
          exact heq
        · exact hfits fan hfan mama hmama customer hcustomer
    constructor
    · intro hrules
      exact hsame.mp (recorded_iff.mp (hrules.recorded fansCusid mamaId rfl))
    · intro hfits
      have hexec := hsame.mpr hfits
      refine Rules.of_same (hexec.symm ▸ h) (by rw [hexec]) fun cusid mama heq => ?_
      obtain ⟨rfl, rfl⟩ := FansOp.changeMama.inj heq
      exact recorded_iff.mpr hexec
  | saveMama openid effect charged =>
    refine iff_of_true ?_ trivial
    obtain ⟨mamas, hexec, hkept⟩ := exec_saveMama s openid effect charged
    refine Rules.of_same ?_ (by rw [hexec]) fun _ _ heq => (nomatch heq)
    rw [hexec]
    exact h.saveMama hkept

/-- The rules are kept in a run exactly when no record links a mama and every change of mama
leaves the fan as she is. -/
theorem rules_iff {s : FansDb} (hs : Related s) (ops : List FansOp) :
    Guarded FansOp.exec Rules ops s ↔ Guarded FansOp.exec Fits ops s :=
  guarded_iff_guarded (fun s op h => rules_iff_fits s op h)
    (fun s op h hfits => ((rules_iff_fits s op h).mpr hfits).related) ops s hs

def sampleDb : FansDb where
  customers := [⟨4, "u4", "", true⟩, ⟨3, "u3", "", true⟩, ⟨2, "u2", "", true⟩, ⟨1, "u1", "", true⟩]
  ids := by decide
  mamas := (Table.empty.insert ⟨0, "u1", true, true⟩).insert ⟨0, "u2", true, true⟩
  fans := []
  changes := []

theorem related_sampleDb : Related sampleDb where
  once := List.nodup_nil
  notSelf _ h := nomatch h
  owner _ h := nomatch h

/-- A customer follows a record of a mama, another one a record of hers, a third is refused
herself, and a fan becomes a mama. -/
theorem rules_sample :
    Guarded FansOp.exec Rules [.activate ⟨true, "u3", "", 1⟩, .activate ⟨true, "u4", "", 3⟩,
      .bindMama 2 2, .changeMama 3 1, .saveMama "u3" true true] sampleDb :=
  (rules_iff related_sampleDb _).mpr (by decide +kernel)

theorem rules_fail : ¬ Guarded FansOp.exec Rules [.activate ⟨true, "u2", "", 1⟩] sampleDb := by
  rintro ⟨hrules, -⟩
  have hfits := (rules_iff_fits _ _ related_sampleDb).mp hrules
  revert hfits
  decide +kernel

end ShopManager.Mama.Fans
