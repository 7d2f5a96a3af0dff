import Mathlib.Data.List.Basic
import ShopManager.Basic

/-!
# The additional payments of a request

`pay_extras` is a text such as `pid:2:couponid:12/13,pid:3:budget:46.00` that
the client sends.  Two functions read the wallet and the coin amount from it:
the one that creates the trade looks for `budget` before `value`, the one that
charges it looks for `value` before `budget`.
-/

namespace ShopManager.Pay.Trade

/-- What the code asks of `float(text)`: whether it is positive and how many
cents it is.  Both may raise. -/
structure FloatText where
  positive : String → Except Exn Bool
  cents : String → Except Exn Int

def etsCoupon : String := "2"

def etsBudget : String := "3"

def etsXiaolucoin : String := "4"

/-- Pieces between the characters that satisfy `isSeparator`. -/
def splitChars (isSeparator : Char → Bool) : List Char → List (List Char)
  | [] => [[]]
  | c :: cs =>
      match splitChars isSeparator cs with
      | [] => [[c]]
      | piece :: pieces =>
          if isSeparator c then [] :: piece :: pieces else (c :: piece) :: pieces

abbrev Entry := List (String × String)

def Entry.get? (entry : Entry) (key : String) : Option String :=
  (entry.find? fun pair => pair.1 = key).map Prod.snd

/-- The pairs `key:value` of an entry; a last key without a value is dropped. -/
def pairs : List (List Char) → Entry → Entry
  | key :: value :: rest, entry =>
      pairs rest ((String.ofList key, String.ofList value) :: entry)
  | _, entry => entry

def parseEntryParams (payExtras : String) : List Entry :=
  let pieces := (splitChars (fun c => c = ',' ∨ c = ';') payExtras.toList).filter
    fun piece => piece.any fun c => !c.isWhitespace
  pieces.foldl
    (fun extras piece =>
      let entry := pairs (splitChars (fun c => c = ':') piece) []
      match entry.get? "pid" with
      | none => extras
      | some pid =>
          if pid = "" ∨ extras.any fun known => known.get? "pid" = some pid then extras
          else extras ++ [entry])
    []

def parsePayExtrasToDict (payExtras : String) (pid : String) : Entry :=
  ((parseEntryParams payExtras).find? fun entry => entry.get? "pid" = some pid).getD []

/-- The texts after `couponid`, between slashes. -/
def parseCouponIdsFromPayExtras (payExtras : String) : List String :=
  let couponid := ((parsePayExtrasToDict payExtras etsCoupon).get? "couponid").getD ""
  ((splitChars (fun c => c = '/') couponid.toList).map String.ofList).filter
    fun id => id ≠ ""

def truthy (text : Option String) : Option String := text.filter fun t => t ≠ ""

/-- The cents of one additional payment when the trade is created: `budget`, else
`value`, else 0. -/
def calcExtraBudget (float : FloatText) (payExtras pid : String) : Except Exn Int :=
  let entry := parsePayExtrasToDict payExtras pid
  match truthy (entry.get? "budget"), truthy (entry.get? "value") with
  | some text, _ => float.cents text
  | none, some text => float.cents text
  | none, none => .ok 0

/-- Whether one additional payment is positive when the trade is charged:
`value` if there is one, else `budget`, else 0. -/
def payValuePositive (float : FloatText) (payExtras pid : String) : Except Exn Bool :=
  let entry := parsePayExtrasToDict payExtras pid
  match entry.get? "value", entry.get? "budget" with
  | some text, _ => float.positive text
  | none, some text => float.positive text
  | none, none => .ok false

def getPayTypeFromTrade (float : FloatText) (payExtras : String) :
    Except Exn (Bool × Bool) := do
  let budgetPay ← payValuePositive float payExtras etsBudget
  let coinPay ← payValuePositive float payExtras etsXiaolucoin
  pure (budgetPay, coinPay)

/-- Numerals such as `46` and `46.05`; other texts raise. -/
def decimalCents (text : String) : Option Int :=
  let digits := fun cs : List Char =>
    if cs ≠ [] ∧ cs.all Char.isDigit then
      some (cs.foldl (fun n c => 10 * n + ((c.toNat : Int) - 48)) 0)
    else none
  match splitChars (fun c => c = '.') text.toList with
  | [whole] => (digits whole).map fun n => 100 * n
  | [whole, [tenth]] =>
      (digits whole).bind fun n => (digits [tenth]).map fun t => 100 * n + 10 * t
  | [whole, [tenth, hundredth]] =>
      (digits whole).bind fun n => (digits [tenth, hundredth]).map fun t => 100 * n + t
  | _ => none

def decimalText : FloatText where
  positive text :=
    match decimalCents text with
    | some n => .ok (0 < n)
    | none => .error (.valueError "could not convert string to float")
  cents text :=
    match decimalCents text with
    | some n => .ok n
    | none => .error (.valueError "could not convert string to float")

example : calcExtraBudget decimalText "pid:2:couponid:12/13,pid:3:budget:46.05" etsBudget =
    .ok 4605 := by decide

end ShopManager.Pay.Trade
