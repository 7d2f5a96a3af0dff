import ShopManager.Library.Key
import ShopManager.Outware.Delivery.Model

/-!
# Codes of orders outside

A code goes out with the prefix of the account before it.  On the way back every leading character
that the prefix contains is taken off, and not the prefix.
-/

namespace ShopManager.Outware.Delivery

open Library Library.Tx
open Outware.OutwareOrder (formatOrderCode)

variable {account : Account} {code code' : String}

structure MapsBack (account : Account) (codes : Set String) : Prop where
  injective : Set.InjOn (formatOrderCode account) codes
  parses : ∀ code ∈ codes, parseOrderCode account (formatOrderCode account code) = code
  finds : ∀ code ∈ codes, ∀ (s : DeliveryDb) (package : OutwarePackage), ∀ po ∈ s.packageOrders,
    code.toNat? = some po.pid → package.packageOrderCode = formatOrderCode account code →
      (OutwarePackage.mallPackage account package).run s = (.ok po, s)
  idempotent : ∀ code, formatOrderCode account (formatOrderCode account code) =
    formatOrderCode account code

def Apart (account : Account) (code : String) : Prop :=
  ∀ c ∈ code.toList.head?, c ∉ account.orderPrefix.toList

def Unprefixed (account : Account) (code : String) : Prop :=
  ¬ account.orderPrefix.toList <+: code.toList

theorem formatOrderCode_unprefixed (h : Unprefixed account code) :
    formatOrderCode account code = account.orderPrefix ++ code := by
  unfold formatOrderCode
  rw [if_neg fun hbegins => h <| List.isPrefixOf_iff_prefix.mp hbegins]

theorem formatOrderCode_begins (account : Account) (code : String) :
    account.orderPrefix.toList <+: (formatOrderCode account code).toList := by
  unfold formatOrderCode
  split
  · next hbegins => exact List.isPrefixOf_iff_prefix.mp hbegins
  · rw [String.toList_append]
    exact List.prefix_append _ _

theorem formatOrderCode_idempotent (account : Account) (code : String) :
    formatOrderCode account (formatOrderCode account code) = formatOrderCode account code := by
  have hbegins := formatOrderCode_begins account code
  conv_lhs => unfold formatOrderCode
  exact if_pos <| List.isPrefixOf_iff_prefix.mpr hbegins

theorem formatOrderCode_inj (h : Unprefixed account code) (h' : Unprefixed account code')
    (heq : formatOrderCode account code = formatOrderCode account code') : code = code' := by
  rw [formatOrderCode_unprefixed h, formatOrderCode_unprefixed h'] at heq
  exact (Key.append_left_inj _).mp heq

theorem parseOrderCode_append (account : Account) (code : String) :
    (parseOrderCode account (account.orderPrefix ++ code)).toList =
      code.toList.dropWhile fun c => account.orderPrefix.toList.contains c := by
  unfold parseOrderCode
  rw [String.toList_ofList, String.toList_append, List.dropWhile_append_of_pos]
  intro c hc
  exact List.contains_iff_mem.mpr hc

theorem parseOrderCode_formatOrderCode (h : Unprefixed account code) :
    parseOrderCode account (formatOrderCode account code) = code ↔ Apart account code := by
  rw [formatOrderCode_unprefixed h, ← String.toList_inj, parseOrderCode_append]
  unfold Apart
  cases code.toList with
  | nil => exact iff_of_true rfl fun c hc => nomatch hc
  | cons c cs =>
    rw [List.dropWhile_cons, List.head?_cons]
    by_cases hc : account.orderPrefix.toList.contains c = true
    · rw [if_pos hc]
      refine iff_of_false (fun heq => ?_) fun hapart => ?_
      · have hle := (List.dropWhile_sublist (l := cs)
          fun c => account.orderPrefix.toList.contains c).length_le
        rw [heq, List.length_cons] at hle
        exact Nat.not_succ_le_self _ hle
      · exact hapart c rfl (List.contains_iff_mem.mp hc)
    · rw [if_neg hc]
      refine iff_of_true rfl fun c' hc' hmem => hc ?_
      rw [Option.some.inj hc']
      exact List.contains_iff_mem.mpr hmem

theorem mallPackage_finds {s : DeliveryDb} {package : OutwarePackage} {po : PackageOrder}
    (hpo : po ∈ s.packageOrders)
    (hcode : (parseOrderCode account package.packageOrderCode).toNat? = some po.pid) :
    (OutwarePackage.mallPackage account package).run s = (.ok po, s) := by
  unfold OutwarePackage.mallPackage
  rw [hcode]
  exact getOr_some (Table.get?_eq_some.mpr ⟨hpo, rfl⟩)

/-- Codes without the prefix map back exactly where it does not contain their first
characters. -/
theorem maps_back_iff (account : Account) (codes : Set String)
    (hcodes : ∀ code ∈ codes, Unprefixed account code) :
    MapsBack account codes ↔ ∀ code ∈ codes, Apart account code := by
  constructor
  · intro h code hcode
    exact (parseOrderCode_formatOrderCode (hcodes code hcode)).mp (h.parses code hcode)
  · intro h
    refine ⟨fun code hcode code' hcode' heq => ?_, fun code hcode => ?_,
      fun code hcode s package po hpo hnumber hpackage => ?_, formatOrderCode_idempotent account⟩
    · exact formatOrderCode_inj (hcodes code hcode) (hcodes code' hcode') heq
    · exact (parseOrderCode_formatOrderCode (hcodes code hcode)).mpr (h code hcode)
    · refine mallPackage_finds hpo ?_
      rw [hpackage, (parseOrderCode_formatOrderCode (hcodes code hcode)).mpr (h code hcode)]
      exact hnumber

theorem maps_back_digits : MapsBack ⟨"test_", []⟩ {code | code = "160801" ∨ code = "27"} := by
  refine (maps_back_iff ⟨"test_", []⟩ {code | code = "160801" ∨ code = "27"} ?_).mpr ?_
  · rintro code (rfl | rfl)
    · unfold Unprefixed
      decide
    · unfold Unprefixed
      decide
  · rintro code (rfl | rfl)
    · rintro c ⟨⟩
      decide
    · rintro c ⟨⟩
      decide

theorem maps_back_fails : ¬ MapsBack ⟨"xlmm_", []⟩ {code | code = "xd160801"} := by
  intro h
  exact absurd (h.parses "xd160801" rfl) (by decide)

end ShopManager.Outware.Delivery
