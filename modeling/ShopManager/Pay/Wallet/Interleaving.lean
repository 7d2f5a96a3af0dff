import ShopManager.Pay.Wallet.Spec

/-!
# Two wallet requests at the same time

`create`, `confirm_budget_log` and `cancel_budget_log` load the wallet row and
save all of its columns.  Which columns they increment depends on the direction
and the status of the log alone; a request that increments none writes the
whole row back as it was loaded.
-/

namespace ShopManager.Pay.Wallet

open Library ColumnWrite BudgetLog UserBudget

/-- A request to the wallet of one customer, each on a log of its own. -/
inductive WalletWrite where
  | create (budgetType : BudgetType) (status : Status) (flowAmount : Int)
  | confirmBudgetLog (log : BudgetLog)
  | cancelBudgetLog (log : BudgetLog)

namespace WalletWrite

def request : WalletWrite → Request Column Int
  | create budgetType status flowAmount =>
      if status = .canceled then none
      else some (createAssign budgetType status flowAmount)
  | confirmBudgetLog log =>
      if log.status = .confirmed then none else some (confirmAssign log)
  | cancelBudgetLog log =>
      if log.status = .canceled then none else some (cancelAssign log)

def runAlone (op : WalletWrite) (row : UserBudget) : UserBudget :=
  match op.request with
  | none => row
  | some compute => RowObject.store (compute (RowObject.load row)) row

/-- Which columns a request increments. -/
inductive Kind where
  | income
  | expense
  | writeBack
  deriving DecidableEq

def kind : WalletWrite → Option Kind
  | create budgetType status _ =>
      match budgetType, status with
      | _, .canceled => none
      | .budgetIn, .confirmed => some .income
      | .budgetIn, .pending => some .writeBack
      | .budgetOut, _ => some .expense
  | confirmBudgetLog log =>
      match log.budgetType, log.status with
      | _, .confirmed => none
      | .budgetIn, _ => some .income
      | .budgetOut, .canceled => some .expense
      | .budgetOut, .pending => some .writeBack
  | cancelBudgetLog log =>
      match log.budgetType, log.status with
      | _, .canceled => none
      | .budgetIn, .confirmed => some .income
      | .budgetIn, .pending => some .writeBack
      | .budgetOut, _ => some .expense

def flowAmount : WalletWrite → Int
  | create _ _ flowAmount => flowAmount
  | confirmBudgetLog log => log.flowAmount
  | cancelBudgetLog log => log.flowAmount

def moves (op : WalletWrite) : Prop :=
  (op.kind = some .income ∨ op.kind = some .expense) ∧ op.flowAmount ≠ 0

/-- Both requests get to the wallet row, one of them changes a total and they do
not increment the same columns. -/
def Conflict (op op' : WalletWrite) : Prop :=
  op.kind.isSome ∧ op'.kind.isSome ∧ op.kind ≠ op'.kind ∧ (op.moves ∨ op'.moves)

end WalletWrite

def requests (op op' : WalletWrite) : Side → Request Column Int
  | .left => op.request
  | .right => op'.request

/-! ## Alone -/

/-! ## The increments of a request -/

def Kind.change (delta : Int) : WalletWrite.Kind → Column → Option Int
  | .income => incomeChange delta
  | .expense => expenseChange delta
  | .writeBack => noChange

def WalletWrite.delta : WalletWrite → Int
  | .create _ _ flowAmount => flowAmount
  | .confirmBudgetLog log => log.flowAmount
  | .cancelBudgetLog log => -log.flowAmount

def WalletWrite.change (op : WalletWrite) : Option (Column → Option Int) :=
  op.kind.map (Kind.change op.delta)

theorem request_eq (op : WalletWrite) :
    op.request = op.change.map RowObject.assign := by
  cases op with
  | create budgetType status flowAmount =>
    cases budgetType <;> cases status <;>
      simp [WalletWrite.request, WalletWrite.change, WalletWrite.kind,
        WalletWrite.delta, Kind.change, createAssign_eq, createChange]
  | confirmBudgetLog log =>
    cases hb : log.budgetType <;> cases hs : log.status <;>
      simp [WalletWrite.request, WalletWrite.change, WalletWrite.kind,
        WalletWrite.delta, Kind.change, confirmAssign_eq, confirmChange, hb, hs]
  | cancelBudgetLog log =>
    cases hb : log.budgetType <;> cases hs : log.status <;>
      simp [WalletWrite.request, WalletWrite.change, WalletWrite.kind,
        WalletWrite.delta, Kind.change, cancelAssign_eq, cancelChange, hb, hs]

theorem delta_eq_zero (op : WalletWrite) : op.delta = 0 ↔ op.flowAmount = 0 := by
  cases op <;> simp [WalletWrite.delta, WalletWrite.flowAmount]

def changes (op op' : WalletWrite) : Side → Option (Column → Option Int)
  | .left => op.change
  | .right => op'.change

theorem assigns (op op' : WalletWrite) : Assigns (requests op op') (changes op op') := by
  intro side
  cases side
  · exact request_eq op
  · exact request_eq op'

def Spares (op op' : WalletWrite) : Prop :=
  ∀ change, op.change = some change → ∀ column, change column = none →
    movedBy op'.change column = 0

theorem compatible_iff (op op' : WalletWrite) :
    Compatible (changes op op') ↔ Spares op op' ∧ Spares op' op := by
  constructor
  · intro h
    exact ⟨h .left, h .right⟩
  · rintro ⟨hleft, hright⟩ side
    cases side
    · exact hleft
    · exact hright

theorem spares_iff (op op' : WalletWrite) :
    Spares op op' ↔
      (op.kind.isSome → op'.moves → op.kind = op'.kind) := by
  unfold Spares WalletWrite.moves WalletWrite.change
  rw [ne_eq, ← delta_eq_zero op']
  cases hk : op.kind with
  | none => simp
  | some k =>
    cases hk' : op'.kind with
    | none => simp [movedBy]
    | some k' =>
      simp only [Option.map_some, Option.some.injEq, forall_eq', movedBy,
        Option.elim_some, Option.isSome_some, true_implies]
      cases k <;> cases k'
      all_goals
        constructor
        · intro h
          have hamount := h .amount
          have hincome := h .totalIncome
          have hexpense := h .totalExpense
          simp_all [Kind.change, incomeChange, expenseChange, noChange,
            RowObject.moved]
        · intro h column
          cases column <;>
            simp_all [Kind.change, incomeChange, expenseChange, noChange,
              RowObject.moved]

/-- Two requests leave the totals of a serial run under every schedule exactly
when they do not conflict. -/
theorem interleaving_safe_iff (op op' : WalletWrite) :
    Safe (requests op op') ↔ ¬ WalletWrite.Conflict op op' := by
  rw [safe_iff_compatible (assigns op op'), compatible_iff, spares_iff, spares_iff]
  unfold WalletWrite.Conflict
  constructor
  · rintro ⟨hleft, hright⟩ ⟨hop, hop', hne, hmoves | hmoves⟩
    · exact hne (hright hop' hmoves).symm
    · exact hne (hleft hop hmoves)
  · intro h
    constructor
    · intro hop hmoves
      by_contra hne
      have hop' : op'.kind.isSome := by
        rcases hmoves.1 with hk | hk <;> rw [hk] <;> rfl
      exact h ⟨hop, hop', hne, Or.inr hmoves⟩
    · intro hop' hmoves
      by_contra hne
      have hop : op.kind.isSome := by
        rcases hmoves.1 with hk | hk <;> rw [hk] <;> rfl
      exact h ⟨hop, hop', fun heq => hne heq.symm, Or.inl hmoves⟩

def pendingPayment : BudgetLog where
  id := 1
  customerId := 1
  flowAmount := 30
  balance := 70
  budgetType := .budgetOut
  budgetLogType := .consum
  budgetDate := ⟨"2016-11-01"⟩
  referalId := "7"
  status := .pending
  uniKey := some "st_7"

/-- The confirmation of a pending payment loads the wallet, an income of 100 is
saved, and the confirmation writes the old totals back. -/
theorem confirmation_undoes_income :
    ¬ Safe (requests (.confirmBudgetLog pendingPayment)
      (.create .budgetIn .confirmed 100)) := by
  intro h
  have hfinished : Finished (interleave (requests (.confirmBudgetLog pendingPayment)
      (.create .budgetIn .confirmed 100)) [.left, .right, .right, .left] 0) := by
    intro side
    cases side <;> rfl
  exact absurd (congrFun (h 0 _ hfinished) .amount) (by decide)

end ShopManager.Pay.Wallet
