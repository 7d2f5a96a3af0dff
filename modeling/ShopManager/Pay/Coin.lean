import ShopManager.Basic
import ShopManager.Library.Table
import ShopManager.Library.Transaction

/-!
# The coin account of a mama

`XiaoluCoin` holds an amount in cents and `XiaoluCoinLog` its movements.  Every
movement changes both in one transaction; the key of a log holds its day, so a
second log with the same subject and reference fails on that day only.
-/

namespace ShopManager.Pay.Coin

open Library Library.Tx

inductive IroType where
  | incoming
  | outgoing
  deriving DecidableEq, Repr

inductive Subject where
  | recharge
  | consume
  | refund
  | gift
  deriving DecidableEq, Repr

def Subject.code : Subject → String
  | recharge => "recharge"
  | consume => "consume"
  | refund => "refund"
  | gift => "gift"

structure XiaoluCoinLog where
  id : Nat
  mamaId : Nat
  iroType : IroType
  amount : Int
  balance : Int
  subject : Subject
  referalId : String
  uniKey : String
  deriving DecidableEq, Repr

instance : Row XiaoluCoinLog where
  pk := XiaoluCoinLog.id
  withPk n log := { log with id := n }

/-- The coin tables.  `mama_id` is unique, so an account is found by its mama;
the amount is its only other column. -/
structure CoinDb where
  xiaoluCoins : Nat → Option Int
  coinLogs : Table XiaoluCoinLog

abbrev CoinTx (α : Type) := Tx CoinDb Exn α

namespace CoinDb

def amount (s : CoinDb) (mama : Nat) : Int := (s.xiaoluCoins mama).getD 0

def keyTaken (s : CoinDb) (uniKey : String) : Bool :=
  s.coinLogs.rows.any fun log => log.uniKey = uniKey

end CoinDb

namespace XiaoluCoinLog

def genUniKey (today : Date) (mamaId : Nat) (subject : Subject) (referalId : String) :
    String :=
  toString mamaId ++ "-" ++ subject.code ++ "-" ++ referalId ++ "|" ++ today.isoformat

def create (today : Date) (mamaId : Nat) (iroType : IroType) (amount : Int)
    (subject : Subject) (balance : Int) (referalId : String) : CoinTx Unit := do
  let uniKey := genUniKey today mamaId subject referalId
  let taken ← gets fun s => s.keyTaken uniKey
  raiseIf (taken = true) .integrityError
  modify fun s => { s with
    coinLogs := s.coinLogs.insert
      { id := 0
        mamaId := mamaId
        iroType := iroType
        amount := amount
        balance := balance
        subject := subject
        referalId := referalId
        uniKey := uniKey } }

end XiaoluCoinLog

namespace XiaoluCoin

def getOrCreate (mamaId : Nat) : CoinTx Unit :=
  modify fun s => if (s.xiaoluCoins mamaId).isSome then s
    else { s with xiaoluCoins := Function.update s.xiaoluCoins mamaId (some 0) }

/-- The four movements of an account: the amount by an `F()` increment, and a log
with the balance after it. -/
def move (today : Date) (mamaId : Nat) (delta : Int) (iroType : IroType)
    (amount : Int) (subject : Subject) (referalId : String) : CoinTx Unit :=
  atomic do
    modify fun s => { s with
      xiaoluCoins := Function.update s.xiaoluCoins mamaId (some (s.amount mamaId + delta)) }
    let coin ← getOr .doesNotExist fun s => s.xiaoluCoins mamaId
    XiaoluCoinLog.create today mamaId iroType amount subject coin referalId

def recharge (today : Date) (mamaId : Nat) (amount : Int) (referalId : String) :
    CoinTx Unit :=
  move today mamaId amount .incoming amount .recharge referalId

def consume (today : Date) (mamaId : Nat) (amount : Int) (referalId : String) :
    CoinTx Unit :=
  move today mamaId (-amount) .outgoing amount .consume referalId

def refund (today : Date) (mamaId : Nat) (amount : Int) (referalId : String) :
    CoinTx Unit :=
  move today mamaId amount .incoming amount .refund referalId

def change (today : Date) (mamaId : Nat) (amount : Int) (subject : Subject)
    (referalId : String) : CoinTx Unit :=
  move today mamaId amount (if amount > 0 then .incoming else .outgoing)
    amount.natAbs subject referalId

end XiaoluCoin

/-! ## What a movement does -/

def XiaoluCoinLog.signed (log : XiaoluCoinLog) : Int :=
  match log.iroType with
  | .incoming => log.amount
  | .outgoing => -log.amount

def movedLog (s : CoinDb) (today : Date) (mamaId : Nat) (delta : Int)
    (iroType : IroType) (amount : Int) (subject : Subject) (referalId : String) :
    XiaoluCoinLog where
  id := 0
  mamaId := mamaId
  iroType := iroType
  amount := amount
  balance := s.amount mamaId + delta
  subject := subject
  referalId := referalId
  uniKey := XiaoluCoinLog.genUniKey today mamaId subject referalId

namespace XiaoluCoin

theorem move_run (today : Date) (mamaId : Nat) (delta : Int) (iroType : IroType)
    (amount : Int) (subject : Subject) (referalId : String) (s : CoinDb) :
    (move today mamaId delta iroType amount subject referalId).run s =
      if s.keyTaken (XiaoluCoinLog.genUniKey today mamaId subject referalId) then
        (.error .integrityError, s)
      else
        (.ok (),
          { xiaoluCoins :=
              Function.update s.xiaoluCoins mamaId (some (s.amount mamaId + delta))
            coinLogs := s.coinLogs.insert
              (movedLog s today mamaId delta iroType amount subject referalId) }) := by
  unfold move
  cases htaken : s.keyTaken (XiaoluCoinLog.genUniKey today mamaId subject referalId) with
  | true =>
    simp only [if_true]
    apply atomic_error
    · rw [modify_bind_run, getOr_bind_run]
      simp only [Function.update_self]
      rw [XiaoluCoinLog.create, gets_bind_run, raiseIf_bind_run]
      exact if_pos htaken
  | false =>
    simp only [Bool.false_eq_true, if_false]
    apply atomic_ok
    rw [modify_bind_run, getOr_bind_run]
    simp only [Function.update_self]
    rw [XiaoluCoinLog.create, gets_bind_run, raiseIf_bind_run]
    rw [if_neg (fun h => absurd (h.symm.trans htaken) (by decide))]
    rfl

end XiaoluCoin

namespace CoinDb

def logTotal (s : CoinDb) (mama : Nat) : Int :=
  s.coinLogs.sum fun log => if log.mamaId = mama then log.signed else 0

structure Sound (s : CoinDb) (mama : Nat) : Prop where
  amount_eq : s.amount mama = s.logTotal mama
  nonneg : 0 ≤ s.amount mama

end CoinDb

theorem CoinDb.Sound.move {s : CoinDb} {mama mamaId : Nat} {delta amount : Int}
    {iroType : IroType} (today : Date) (subject : Subject) (referalId : String)
    (h : s.Sound mama)
    (hsigned : delta = match iroType with
      | .incoming => amount
      | .outgoing => -amount)
    (hamount : mamaId = mama → 0 ≤ s.amount mama + delta) :
    (((XiaoluCoin.move today mamaId delta iroType amount subject referalId).run
      s).2).Sound mama := by
  rw [XiaoluCoin.move_run]
  split
  · exact h
  · by_cases hmama : mamaId = mama
    · subst hmama
      have hlog : (s.coinLogs.stored
          (movedLog s today mamaId delta iroType amount subject referalId)).signed =
          delta := by
        rw [hsigned]
        rfl
      have hid : (s.coinLogs.stored
          (movedLog s today mamaId delta iroType amount subject referalId)).mamaId =
          mamaId := rfl
      constructor
      · simp only [CoinDb.amount, CoinDb.logTotal, Function.update_self,
          Option.getD_some, Table.sum_insert, hlog, hid, if_true]
        have := h.amount_eq
        simp only [CoinDb.amount, CoinDb.logTotal] at this
        omega
      · simpa [CoinDb.amount] using hamount rfl
    · have hid : (s.coinLogs.stored
          (movedLog s today mamaId delta iroType amount subject referalId)).mamaId ≠
          mama := hmama
      constructor
      · simpa [CoinDb.amount, CoinDb.logTotal, Function.update_of_ne (Ne.symm hmama),
          hid] using h.amount_eq
      · simpa [CoinDb.amount, Function.update_of_ne (Ne.symm hmama)] using h.nonneg

end ShopManager.Pay.Coin
