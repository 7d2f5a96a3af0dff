import ShopManager.Library.Key
import ShopManager.Mama.Referal.Model

/-!
# Awards

An `AwardCarry` is money for a mama beside her orders: for a mama she recommended, for a
week of sales, for a fan.  The unique key says what it is for.
-/

namespace ShopManager.Mama

open Library

inductive AwardStatus where
  | staging
  | confirmed
  | cancel
  deriving DecidableEq, Repr

/-- An award without its `uni_key`, which is the key of the table. -/
structure AwardCarry where
  mamaId : Nat
  carryNum : Int
  carryType : Nat
  carryDescription : String
  contributorNick : String
  contributorImg : String
  contributorMamaId : Nat
  dateField : Date
  status : AwardStatus
  deriving DecidableEq, Repr

namespace AwardCarry

def awardIndirectInvite : Nat := 12

def genUniKey (contributorMamaId awardType : Nat) : String :=
  "awardcarry-" ++ (toString contributorMamaId ++ ("-" ++ toString awardType))

theorem genUniKey_inj {mamaId mamaId' awardType awardType' : Nat} :
    genUniKey mamaId awardType = genUniKey mamaId' awardType' ↔
      mamaId = mamaId' ∧ awardType = awardType' := by
  unfold genUniKey
  rw [Key.append_left_inj,
    Key.field_inj "-" (c := '-') rfl (Key.free_toString rfl _) (Key.free_toString rfl _),
    Key.toString_inj, Key.toString_inj]

end AwardCarry

end ShopManager.Mama
