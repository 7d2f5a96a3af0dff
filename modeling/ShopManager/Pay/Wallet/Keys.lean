import ShopManager.Library.Key
import ShopManager.Pay.Wallet.Spec

/-!
# Generated wallet keys

`gen_uni_key` numbers the logs of a customer, a direction, a type and a day.  As
long as every log with such a key is one of those that were counted, the next
number is free, and `create` without a key of its own cannot clash.
-/

namespace ShopManager.Pay.Wallet

open Library Library.Tx Library.Key

/-- What `gen_uni_key` numbers together. -/
structure KeyGroup where
  customerId : Nat
  budgetType : BudgetType
  budgetLogType : BudgetLogType
  budgetDate : Date
  deriving DecidableEq, Repr

def KeyGroup.key (group : KeyGroup) (n : Nat) : String :=
  group.budgetLogType.code ++ "-" ++ toString group.budgetType.code ++ "-" ++
    toString group.customerId ++ "-" ++ toString n ++ "|" ++ group.budgetDate.isoformat

def BudgetLog.group (log : BudgetLog) : KeyGroup :=
  ⟨log.customerId, log.budgetType, log.budgetLogType, log.budgetDate⟩

theorem free_code (budgetLogType : BudgetLogType) : Free '-' budgetLogType.code := by
  cases budgetLogType <;> decide

theorem budgetLogType_code_inj {a b : BudgetLogType} (h : a.code = b.code) : a = b := by
  cases a <;> cases b <;> first | rfl | exact absurd h (by decide)

theorem budgetType_code_inj {a b : BudgetType} (h : a.code = b.code) : a = b := by
  cases a <;> cases b <;> first | rfl | exact absurd h (by decide)

theorem KeyGroup.key_inj {g g' : KeyGroup} {n n' : Nat} (h : g.key n = g'.key n') :
    g = g' ∧ n = n' := by
  obtain ⟨customer, budgetType, logType, date⟩ := g
  obtain ⟨customer', budgetType', logType', date'⟩ := g'
  have hdash : ∀ m : Nat, Free '-' (toString m) := free_toString (by decide)
  have hbar : ∀ m : Nat, Free '|' (toString m) := free_toString (by decide)
  simp only [KeyGroup.key, String.append_assoc] at h
  obtain ⟨hcode, h⟩ := (field_inj "-" rfl (free_code _) (free_code _)).1 h
  obtain ⟨htype, h⟩ := (field_inj "-" rfl (hdash _) (hdash _)).1 h
  obtain ⟨hcustomer, h⟩ := (field_inj "-" rfl (hdash _) (hdash _)).1 h
  obtain ⟨hn, hdate⟩ := (field_inj "|" rfl (hbar _) (hbar _)).1 h
  have hcustomer : customer = customer' := toString_inj.1 hcustomer
  have htype : budgetType = budgetType' := budgetType_code_inj (toString_inj.1 htype)
  have hlog : logType = logType' := budgetLogType_code_inj hcode
  have hdate : date = date' := congrArg Date.mk hdate
  exact ⟨by rw [hcustomer, htype, hlog, hdate], toString_inj.1 hn⟩

variable {log old : BudgetLog}

namespace WalletDb

def groupCount (s : WalletDb) (group : KeyGroup) : Nat :=
  (s.budgetLogs.filter fun log => log.group = group).length

def KeysCounted (s : WalletDb) : Prop :=
  ∀ log ∈ s.budgetLogs, ∀ (group : KeyGroup) (n : Nat),
    log.uniKey = some (group.key n) → n ≤ s.groupCount group

theorem KeysCounted.next_free {s : WalletDb} (h : s.KeysCounted) (group : KeyGroup) :
    s.keyTaken (some (group.key (s.groupCount group + 1))) = false := by
  rw [WalletDb.keyTaken, Option.isSome_some, Bool.true_and, List.any_eq_false]
  intro log hlog hkey
  have hle := h log hlog group _ (by simpa using hkey)
  omega

theorem groupCount_insert (s : WalletDb) (log : BudgetLog) (budgets) (customers)
    (group : KeyGroup) :
    groupCount ⟨customers, budgets, s.budgetLogs.insert log⟩ group =
      s.groupCount group + if log.group = group then 1 else 0 := by
  have hstored : (s.budgetLogs.stored log).group = log.group := rfl
  by_cases h : log.group = group
  · simp [groupCount, Table.filter, Table.insert, List.filter_append, hstored, h]
  · simp [groupCount, Table.filter, Table.insert, List.filter_append, hstored, h]

theorem KeysCounted.insert {s : WalletDb} (h : s.KeysCounted)
    (hkey : log.uniKey = some (log.group.key (s.groupCount log.group + 1))) (budgets) (customers) :
    KeysCounted ⟨customers, budgets, s.budgetLogs.insert log⟩ := by
  intro log' hlog' group n hn
  rw [groupCount_insert]
  rcases Table.mem_insert.1 hlog' with hold | rfl
  · have hle := h log' hold group n hn
    omega
  · have hnew : (s.budgetLogs.stored log).uniKey = log.uniKey := rfl
    rw [hnew, hkey] at hn
    obtain ⟨hgroup, hcount⟩ := KeyGroup.key_inj (Option.some.inj hn)
    rw [if_pos hgroup, ← hcount, hgroup]

theorem groupCount_save {s : WalletDb} (hold : old ∈ s.budgetLogs)
    (hid : old.id = log.id) (hgroup : log.group = old.group) (budgets) (customers)
    (group : KeyGroup) :
    groupCount ⟨customers, budgets, s.budgetLogs.save log⟩ group = s.groupCount group := by
  have hlen : ∀ l : List BudgetLog, (∀ r ∈ l, r ∈ s.budgetLogs) →
      ((l.map fun r => if Row.pk r = Row.pk log then Row.withPk (Row.pk r) log else r).filter
        fun r => r.group = group).length = (l.filter fun r => r.group = group).length := by
    intro l
    induction l with
    | nil => simp
    | cons r l ih =>
      intro hl
      have htail := ih fun r' hr' => hl r' (List.mem_cons_of_mem _ hr')
      by_cases hr : Row.pk r = Row.pk log
      · have heq : r = old := Table.pk_inj (hl r (by simp)) hold (hr.trans hid.symm)
        have hsame : (Row.withPk (Row.pk r) log : BudgetLog).group = r.group := by
          rw [heq]
          exact hgroup
        rw [List.map_cons, if_pos hr, List.filter_cons, List.filter_cons, hsame]
        split
        · rw [List.length_cons, List.length_cons, htail]
        · exact htail
      · rw [List.map_cons, if_neg hr, List.filter_cons, List.filter_cons]
        split
        · rw [List.length_cons, List.length_cons, htail]
        · exact htail
  have hrows := hlen s.budgetLogs.rows fun r hr => hr
  simpa [groupCount, Table.filter, Table.save, Table.update] using hrows

theorem KeysCounted.save {s : WalletDb} (h : s.KeysCounted) (log : BudgetLog)
    (hold : old ∈ s.budgetLogs) (hid : old.id = log.id) (hgroup : log.group = old.group)
    (hkey : log.uniKey = old.uniKey) (budgets) (customers) :
    KeysCounted ⟨customers, budgets, s.budgetLogs.save log⟩ := by
  intro log' hlog' group n hn
  rw [groupCount_save hold hid hgroup]
  rcases Table.mem_save hlog' with rfl | ⟨hmem, _⟩
  · rw [hkey] at hn
    exact h old hold group n hn
  · exact h log' hmem group n hn

theorem keyTaken_save {s : WalletDb} (hold : old ∈ s.budgetLogs)
    (hid : old.id = log.id) (hkey : log.uniKey = old.uniKey) (budgets) (customers)
    (key : Option String) :
    keyTaken ⟨customers, budgets, s.budgetLogs.save log⟩ key = s.keyTaken key := by
  have hsame : decide (log.uniKey = key) = decide (old.uniKey = key) := by rw [hkey]
  have hfirst := Table.first_save (q := fun r => decide (r.uniKey = key)) hold hid hsame
  have hany : ∀ t : Table BudgetLog,
      (t.rows.any fun r => decide (r.uniKey = key)) =
        (t.first fun r => decide (r.uniKey = key)).isSome := by
    intro t
    rw [Bool.eq_iff_iff, Table.first, List.find?_isSome, List.any_eq_true]
  simp only [keyTaken, hany, hfirst, Option.isSome_map]

end WalletDb

variable {today : Date}

namespace BudgetLog

def CreateArgs.group (today : Date) (args : CreateArgs) : KeyGroup :=
  ⟨args.customerId, args.budgetType, args.budgetLogType, today⟩

structure CreateArgs.Generated (today : Date) (s : WalletDb) (args : CreateArgs) : Prop where
  date : args.budgetDate = none
  key : createKey s today args =
    (args.group today).key (s.groupCount (args.group today) + 1)

variable {args : CreateArgs}

theorem generated_of_none {s : WalletDb}
    (hdate : args.budgetDate = none) (hkey : args.uniKey = none) :
    args.Generated today s := by
  refine ⟨hdate, ?_⟩
  simp only [createKey, hkey, Option.filter_none, KeyGroup.key, CreateArgs.group,
    WalletDb.groupCount, BudgetLog.group, KeyGroup.mk.injEq]

theorem keysCounted_create {s : WalletDb} (h : s.KeysCounted) (hgen : args.Generated today s) :
    ((create today args).run s).2.KeysCounted := by
  rw [create_run]
  cases createError s today args with
  | some e => exact h
  | none =>
    refine h.insert ?_ _ _
    have hgroup : (createdLog s today args).group = args.group today := by
      simp [BudgetLog.group, createdLog, CreateArgs.group, hgen.date]
    rw [hgroup, ← hgen.key]
    rfl

theorem createError_generated {s : WalletDb} (h : s.KeysCounted) (hgen : args.Generated today s)
    (hcustomer : args.customerId ∈ s.customers)
    (hstatus : args.status.getD .confirmed ≠ .canceled) :
    createError s today args = none := by
  have hfree := h.next_free (args.group today)
  rw [← hgen.key] at hfree
  simp [createError, hcustomer, hstatus, hfree]

theorem create_generated_run {s : WalletDb} (h : s.KeysCounted) (hgen : args.Generated today s)
    (hcustomer : args.customerId ∈ s.customers)
    (hstatus : args.status.getD .confirmed ≠ .canceled) :
    (create today args).run s =
      (.ok (s.budgetLogs.stored (createdLog s today args)),
        s.post args.customerId args.change
          (s.budgetLogs.insert (createdLog s today args))) := by
  rw [create_run, createError_generated h hgen hcustomer hstatus]

theorem createError_post_save {s : WalletDb} (hkey : args.uniKey = none) (hold : old ∈ s.budgetLogs)
    (hid : old.id = log.id) (hgroup : log.group = old.group)
    (huni : log.uniKey = old.uniKey) (customer : Nat) (change : UserBudget.Column → Option Int) :
    createError (s.post customer change (s.budgetLogs.save log)) today args =
      createError s today args := by
  have hcreate : createKey (s.post customer change (s.budgetLogs.save log)) today args =
      createKey s today args := by
    have hcount := WalletDb.groupCount_save hold hid hgroup
      (s.post customer change (s.budgetLogs.save log)).userBudgets s.customers
      (args.group today)
    simp only [WalletDb.groupCount, BudgetLog.group, CreateArgs.group, KeyGroup.mk.injEq]
      at hcount
    simp only [createKey, hkey, Option.filter_none]
    rw [← hcount]
    rfl
  have htaken := WalletDb.keyTaken_save hold hid huni
    (s.post customer change (s.budgetLogs.save log)).userBudgets s.customers
    (some (createKey s today args))
  rw [createError, createError, hcreate, ← htaken]
  rfl

theorem createError_settle {s s' : WalletDb}
    {change : UserBudget.Column → Option Int} {status : Status}
    {r : Except Exn Bool} (hkey : args.uniKey = none) (hlog : log ∈ s.budgetLogs)
    (h : (settle log (RowObject.assign change) status).run s = (r, s')) :
    createError s' today args = createError s today args := by
  rw [settle_run] at h
  cases hrow : s.userBudgets log.customerId with
  | none =>
    simp only [hrow] at h
    rw [← (Prod.mk.inj h).2]
  | some budget =>
    simp only [hrow] at h
    rw [← (Prod.mk.inj h).2]
    refine createError_post_save hkey hlog ?_ ?_ ?_ _ _
    · rfl
    · rfl
    · rfl

theorem keysCounted_settle {s : WalletDb}
    (change : UserBudget.Column → Option Int) (status : Status) (h : s.KeysCounted)
    (hold : old ∈ s.budgetLogs) (hid : old.id = log.id) (hgroup : log.group = old.group)
    (hkey : log.uniKey = old.uniKey) :
    ((settle log (RowObject.assign change) status).run s).2.KeysCounted := by
  rw [settle_run]
  cases s.userBudgets log.customerId with
  | none => exact h
  | some budget =>
    exact h.save { log with balance := _, status := status } hold hid hgroup hkey _ _

theorem keysCounted_chnagePedingIncomeAmount {s : WalletDb}
    (newAmount : Int) (h : s.KeysCounted) (hlog : log ∈ s.budgetLogs) :
    ((chnagePedingIncomeAmount log newAmount).run s).2.KeysCounted := by
  rw [chnagePedingIncomeAmount_run]
  split
  · exact h
  · exact h.save { log with flowAmount := newAmount } hlog rfl rfl rfl _ _

end BudgetLog

/-! ## What every method keeps -/

/-- A later state of the wallets: no customer or wallet row is lost, and the keys
stay counted. -/
structure WalletDb.Grows (s s' : WalletDb) : Prop where
  customers : s'.customers = s.customers
  rows : ∀ c, (s.userBudgets c).isSome = true → (s'.userBudgets c).isSome = true
  keys : s.KeysCounted → s'.KeysCounted

namespace WalletDb.Grows

variable {s s' s'' : WalletDb}

theorem refl (s : WalletDb) : Grows s s := ⟨rfl, fun _ h => h, id⟩

theorem trans (h : Grows s s') (h' : Grows s' s'') : Grows s s'' :=
  ⟨h'.customers.trans h.customers, fun c hc => h'.rows c (h.rows c hc),
    fun hk => h'.keys (h.keys hk)⟩

theorem rows_post (s : WalletDb) (customer : Nat) (change : UserBudget.Column → Option Int)
    (logs : Table BudgetLog) (c : Nat) (h : (s.userBudgets c).isSome = true) :
    ((s.post customer change logs).userBudgets c).isSome = true := by
  by_cases hc : c = customer
  · subst hc
    simp [WalletDb.post]
  · simpa [WalletDb.post, WalletDb.setBudget, Function.update_of_ne hc] using h

theorem create {args : BudgetLog.CreateArgs} (hgen : args.Generated today s) :
    Grows s ((BudgetLog.create today args).run s).2 := by
  have hkeys := fun hk : s.KeysCounted => BudgetLog.keysCounted_create hk hgen
  rw [BudgetLog.create_run] at hkeys ⊢
  cases herror : BudgetLog.createError s today args with
  | some e => exact refl s
  | none =>
    simp only [herror] at hkeys ⊢
    exact ⟨rfl, rows_post s _ _ _, hkeys⟩

theorem settle {change : UserBudget.Column → Option Int}
    {status : Status} (hlog : log ∈ s.budgetLogs) :
    Grows s ((BudgetLog.settle log (RowObject.assign change) status).run s).2 := by
  have hkeys := fun hk : s.KeysCounted =>
    BudgetLog.keysCounted_settle change status hk hlog rfl rfl rfl
  rw [BudgetLog.settle_run] at hkeys ⊢
  cases hrow : s.userBudgets log.customerId with
  | none => exact refl s
  | some budget =>
    simp only [hrow] at hkeys ⊢
    exact ⟨rfl, rows_post s _ _ _, hkeys⟩

theorem confirmBudgetLog (hlog : log ∈ s.budgetLogs) :
    Grows s ((BudgetLog.confirmBudgetLog log).run s).2 := by
  rw [BudgetLog.confirmBudgetLog_run]
  split
  · exact refl s
  · exact settle hlog

theorem chnagePedingIncomeAmount (newAmount : Int) (hlog : log ∈ s.budgetLogs) :
    Grows s ((BudgetLog.chnagePedingIncomeAmount log newAmount).run s).2 := by
  have hkeys := fun hk : s.KeysCounted =>
    BudgetLog.keysCounted_chnagePedingIncomeAmount newAmount hk hlog
  rw [BudgetLog.chnagePedingIncomeAmount_run] at hkeys ⊢
  split
  · exact refl s
  · next h =>
    rw [if_neg h] at hkeys
    exact ⟨rfl, fun c hc => hc, hkeys⟩

end WalletDb.Grows

def WalletDb.referred (s : WalletDb) (referalId : String) : Option BudgetLog :=
  s.budgetLogs.first fun log => log.referalId = referalId

namespace WalletDb

variable {s : WalletDb} {referalId : String}

theorem referalId_of_referred (h : s.referred referalId = some log) :
    log.referalId = referalId := by
  simpa using Table.first_spec h

theorem referred_post_insert (log : BudgetLog) (h : s.referred log.referalId = none)
    (customer : Nat) (change : UserBudget.Column → Option Int) :
    (s.post customer change (s.budgetLogs.insert log)).referred log.referalId =
      some (s.budgetLogs.stored log) := by
  have hnone : (s.budgetLogs.first fun r => r.referalId = log.referalId) = none := h
  have hkey : decide ((s.budgetLogs.stored log).referalId = log.referalId) = true :=
    decide_eq_true rfl
  rw [referred, budgetLogs_post, Table.first_insert, hnone, if_pos hkey, Option.none_or]

theorem first_save_referred (new : BudgetLog)
    (h : s.referred referalId = some log) (hid : log.id = new.id)
    (hnew : new.referalId = log.referalId) :
    ((s.budgetLogs.save new).first fun r => r.referalId = referalId) = some new := by
  have hkey : decide (new.referalId = referalId) = true := by
    rw [hnew]
    exact decide_eq_true (referalId_of_referred h)
  exact Table.first_save_self hid hkey h

theorem referred_create_other (today : Date) (args : BudgetLog.CreateArgs)
    (h : args.referalId ≠ referalId) :
    ((BudgetLog.create today args).run s).2.referred referalId = s.referred referalId := by
  rw [BudgetLog.create_run]
  cases BudgetLog.createError s today args with
  | some e => rfl
  | none =>
    have hstored : ¬ decide ((s.budgetLogs.stored
        (BudgetLog.createdLog s today args)).referalId = referalId) = true := by
      rw [decide_eq_true_iff]
      exact h
    simp only [referred, budgetLogs_post, Table.first_insert, if_neg hstored, Option.or_none]

theorem first_save_referal (new : BudgetLog) (hlog : log ∈ s.budgetLogs)
    (hid : log.id = new.id) (hnew : new.referalId = log.referalId) (h : log.referalId ≠ referalId) :
    ((s.budgetLogs.save new).first fun log => log.referalId = referalId) =
      s.referred referalId := by
  have hold : decide (log.referalId = referalId) = false := decide_eq_false h
  have hsaved : decide (new.referalId = referalId) = false := by
    rw [hnew]
    exact hold
  exact Table.first_save_other hlog hid hsaved hold

theorem referred_settle_other {change : UserBudget.Column → Option Int}
    {status : Status} (hlog : log ∈ s.budgetLogs) (h : log.referalId ≠ referalId) :
    ((BudgetLog.settle log (RowObject.assign change) status).run s).2.referred referalId =
      s.referred referalId := by
  rw [BudgetLog.settle_run]
  cases s.userBudgets log.customerId with
  | none => rfl
  | some budget =>
    exact first_save_referal { log with balance := _, status := status } hlog rfl rfl h

theorem referred_confirm_other (hlog : log ∈ s.budgetLogs) (h : log.referalId ≠ referalId) :
    ((BudgetLog.confirmBudgetLog log).run s).2.referred referalId = s.referred referalId := by
  rw [BudgetLog.confirmBudgetLog_run]
  split
  · rfl
  · exact referred_settle_other hlog h

theorem referred_chnage_other (newAmount : Int) (hlog : log ∈ s.budgetLogs)
    (h : log.referalId ≠ referalId) :
    ((BudgetLog.chnagePedingIncomeAmount log newAmount).run s).2.referred referalId =
      s.referred referalId := by
  rw [BudgetLog.chnagePedingIncomeAmount_run]
  split
  · rfl
  · exact first_save_referal { log with flowAmount := newAmount } hlog rfl rfl h

end WalletDb

theorem BudgetLog.confirmBudgetLog_pending {s : WalletDb}
    (hin : log.budgetType = .budgetIn) (hpending : log.status = .pending)
    (hrow : (s.userBudgets log.customerId).isSome = true) :
    (confirmBudgetLog log).run s =
      (.ok true, s.post log.customerId (incomeChange log.flowAmount)
        (s.budgetLogs.save
          { log with
            balance := (s.budget log.customerId +
              RowObject.moved (incomeChange log.flowAmount)) .amount
            status := .confirmed })) := by
  obtain ⟨budget, hbudget⟩ := Option.isSome_iff_exists.1 hrow
  have hnot : ¬ log.status = .confirmed := by rw [hpending]; decide
  have hchange : confirmChange log = incomeChange log.flowAmount := by
    simp only [confirmChange, hin, hpending, true_or, if_true]
  rw [confirmBudgetLog_run, if_neg hnot, settle_run, hbudget, hchange]

end ShopManager.Pay.Wallet
