import ShopManager.Basic
import ShopManager.Library.Execution
import ShopManager.Library.Table
import ShopManager.Library.Transaction

/-!
# Fans of a mama

A customer becomes a fan through a download record, directly or through a referrer who is only a
fan herself, or by binding to a mama; and a fan can change her mama.
-/

namespace ShopManager.Mama.Fans

open Library Library.Tx Library.Execution

/-- `normal` says that the status of the customer is `NORMAL`. -/
structure Customer where
  id : Nat
  unionid : String
  mobile : String
  normal : Bool
  deriving DecidableEq, Repr

/-- `effect` and `charged` say that the two status columns are `EFFECT` and `CHARGED`. -/
structure XiaoluMama where
  id : Nat
  openid : String
  effect : Bool
  charged : Bool
  deriving DecidableEq, Repr

instance : Row XiaoluMama where
  pk := XiaoluMama.id
  withPk n mama := { mama with id := n }

structure XlmmFans where
  xlmm : Nat
  xlmmCusid : Nat
  refrealCusid : Nat
  fansCusid : Nat
  deriving DecidableEq, Repr

/-- What a field of an instance may hold before it is saved. -/
inductive FieldValue where
  | none
  | number (n : Nat)
  | fans (row : XlmmFans)
  deriving DecidableEq, Repr

structure FansChangeMamaRecord where
  id : FieldValue
  created : FieldValue
  modified : FieldValue
  fans : FieldValue
  oldXlmm : FieldValue
  newXlmm : FieldValue
  deriving DecidableEq, Repr

/-- Customers are listed as `normal_customer` orders them, the newest first. -/
structure FansDb where
  customers : List Customer
  ids : (customers.map Customer.id).Nodup
  mamas : Table XiaoluMama
  fans : List XlmmFans
  changes : List FansChangeMamaRecord

abbrev FansTx (α : Type) := Tx FansDb Exn α

structure AppDownloadRecord where
  activated : Bool
  unionid : String
  mobile : String
  fromCustomer : Nat
  deriving DecidableEq, Repr

variable (s : FansDb)

def Customer.getXiaolumm (customer : Customer) : Option XiaoluMama :=
  if customer.unionid = "" then none
  else s.mamas.first fun mama =>
    mama.openid = customer.unionid ∧ mama.effect = true ∧ mama.charged = true

def XiaoluMama.getMamaCustomer (mama : XiaoluMama) : Option Customer :=
  s.customers.find? fun customer => customer.unionid = mama.openid ∧ customer.normal = true

/-- `XlmmFans.objects.filter(fans_cusid=…)`. -/
def FansDb.fansOf (cusid : Nat) : Option XlmmFans :=
  s.fans.find? fun fan => fan.fansCusid = cusid

/-- The column `fans_cusid` is unique. -/
def XlmmFans.create (fan : XlmmFans) : FansTx Unit := do
  let taken ← gets fun s => s.fansOf fan.fansCusid
  raiseIf (taken.isSome = true) .integrityError
  modify fun s => { s with fans := s.fans ++ [fan] }

/-! ## Download records -/

def AppDownloadRecord.customer (record : AppDownloadRecord) : Option Customer :=
  if record.unionid ≠ "" then
    s.customers.find? fun customer => customer.normal = true ∧ customer.unionid = record.unionid
  else if record.mobile ≠ "" then
    s.customers.find? fun customer =>
      customer.normal = true ∧ customer.mobile = record.mobile ∧ customer.unionid = ""
  else none

def AppDownloadRecord.referalCustomer (record : AppDownloadRecord) : Option Customer :=
  s.customers.find? fun customer => customer.normal = true ∧ customer.id = record.fromCustomer

/-- `mama_id` and `mama_customer_id`: of the referrer, or of the mama she is a fan of. -/
def mamaOf (referal : Customer) : Option (Nat × Nat) :=
  match referal.getXiaolumm s with
  | some mama => some (mama.id, referal.id)
  | none => (s.fansOf referal.id).map fun fan => (fan.xlmm, fan.xlmmCusid)

def AppDownloadRecord.mama (record : AppDownloadRecord) : Option (Nat × Nat) :=
  (record.referalCustomer s).bind (mamaOf s)

variable {s}

def appdownloadrecordUpdateFans (record : AppDownloadRecord) : FansTx Unit := do
  if record.activated = false then pure ()
  else
    let customer ← gets fun s => record.customer s
    let mama ← gets fun s => record.mama s
    match customer, mama with
    | some customer, some (mamaId, mamaCustomerId) => do
        let fans ← gets fun s => s.fansOf customer.id
        if fans.isSome = true then pure ()
        else if mamaCustomerId = customer.id then pure ()
        else XlmmFans.create ⟨mamaId, mamaCustomerId, record.fromCustomer, customer.id⟩
    | _, _ => pure ()

def bindMama (customer : Customer) (mama : XiaoluMama) : FansTx Unit := do
  let own ← gets fun s => customer.getXiaolumm s
  raiseIf (own.isSome = true) (.exception "你的铺子妈妈不能成为粉丝")
  let fans ← gets fun s => s.fansOf customer.id
  raiseIf (fans.isSome = true) (.exception "此粉丝已经绑定过你的铺子妈妈")
  let mamaCustomer ← getOr .attributeError fun s => mama.getMamaCustomer s
  raiseIf (mamaCustomer.id = customer.id) (.exception "自己不能成为自己的粉丝哦~")
  XlmmFans.create ⟨mama.id, mamaCustomer.id, mamaCustomer.id, customer.id⟩

namespace FansChangeMamaRecord

/-- An instance takes its positional arguments in the order of its columns. -/
def ofArgs (args : List FieldValue) : FansChangeMamaRecord where
  id := args.getD 0 .none
  created := args.getD 1 .none
  modified := args.getD 2 .none
  fans := args.getD 3 .none
  oldXlmm := args.getD 4 .none
  newXlmm := args.getD 5 .none

/-- A row is looked up under its `id`, which has to be a number, and a new one needs its
columns. -/
def save (record : FansChangeMamaRecord) : FansTx Unit :=
  match record.id with
  | .fans _ => raise (.exception "int() argument must be a string or a number")
  | _ =>
      if record.fans = .none ∨ record.oldXlmm = .none ∨ record.newXlmm = .none then
        raise .integrityError
      else modify fun s => { s with changes := s.changes ++ [record] }

def create (fans : XlmmFans) (oldXlmm newXlmm : Nat) : FansTx Unit :=
  (ofArgs [.fans fans, .number oldXlmm, .number newXlmm]).save

end FansChangeMamaRecord

def XlmmFans.save (fan : XlmmFans) : FansTx Unit :=
  modify fun s => { s with
    fans := s.fans.map fun row => if row.fansCusid = fan.fansCusid then fan else row }

/-- The fan that `change_mama` saves. -/
def XlmmFans.withMama (fan : XlmmFans) (mama : XiaoluMama) (customer : Customer) : XlmmFans :=
  { fan with xlmm := mama.id, xlmmCusid := customer.id }

def changeMama (fan : XlmmFans) (mama : XiaoluMama) : FansTx Unit := do
  let customer ← getOr .attributeError fun s => mama.getMamaCustomer s
  (fan.withMama mama customer).save
  FansChangeMamaRecord.create (fan.withMama mama customer) fan.xlmm mama.id

/-- A customer becomes a mama when the row of her `openid` is written. -/
inductive FansOp where
  | activate (record : AppDownloadRecord)
  | bindMama (customerId mamaId : Nat)
  | changeMama (fansCusid mamaId : Nat)
  | saveMama (openid : String) (effect charged : Bool)
  deriving Repr

namespace FansOp

/-- The rows a call is made on are read first. -/
def call : FansOp → FansTx Unit
  | activate record => appdownloadrecordUpdateFans record
  | bindMama customerId mamaId => do
      let customer ← getOr .doesNotExist fun s =>
        s.customers.find? fun customer => customer.id = customerId
      let mama ← getOr .doesNotExist fun s => s.mamas.get? mamaId
      Fans.bindMama customer mama
  | changeMama fansCusid mamaId => do
      let fan ← getOr .attributeError fun s => s.fansOf fansCusid
      let mama ← getOr .doesNotExist fun s => s.mamas.get? mamaId
      Fans.changeMama fan mama
  | saveMama openid effect charged => do
      let known ← gets fun s => s.mamas.first fun mama => mama.openid = openid
      match known with
      | some mama => modify fun s => { s with
          mamas := s.mamas.save { mama with effect := effect, charged := charged } }
      | none => modify fun s => { s with
          mamas := s.mamas.insert ⟨0, openid, effect, charged⟩ }

def exec (op : FansOp) (s : FansDb) : FansDb := (op.call.run s).2

end FansOp

end ShopManager.Mama.Fans
