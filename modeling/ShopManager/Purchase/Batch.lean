import Mathlib.Data.Nat.Digits.Lemmas

/-!
# Batch numbers of purchase orders

A count is written with the letters for 1 to 26, in base 26: only the first
digit can be 26, and `0` is both the digit nought and the padding.  Read with
base 27, such a number grows with the count.
-/

namespace ShopManager.Purchase

def alphabet : List Char := "0ABCDEFGHIJKLMNOPQRSTUVWXYZ".toList

def number2char (number : Nat) : Char := alphabet.getD (number % 27) '0'

def charList (number : Nat) : List Nat :=
  if 26 < number then number % 26 :: charList (number / 26) else [number]

def rjust (width : Nat) (fill : Char) (s : List Char) : String :=
  String.ofList (List.replicate (width - s.length) fill ++ s)

def parseNumberToChar (number : Nat) : String :=
  rjust 4 '0' ((charList number).reverse.map number2char)

def genBatchNo (orderCount : Nat) : String := parseNumberToChar orderCount

theorem number2char_lt : ∀ b < 27, ∀ a < b, number2char a < number2char b := by
  decide +kernel

theorem charList_lt (number : Nat) : ∀ d ∈ charList number, d < 27 := by
  induction number using charList.induct with
  | case1 number hlt ih =>
    rw [charList, if_pos hlt]
    simp only [List.forall_mem_cons]
    exact ⟨by omega, ih⟩
  | case2 number hle =>
    rw [charList, if_neg hle]
    simp
    omega

def spread (number : Nat) : Nat := Nat.ofDigits 27 (charList number)

theorem spread_of_lt {number : Nat} (h : 26 < number) :
    spread number = number % 26 + 27 * spread (number / 26) := by
  rw [spread, charList, if_pos h, Nat.ofDigits_cons]
  rfl

theorem spread_of_le {number : Nat} (h : number ≤ 26) : spread number = number := by
  rw [spread, charList, if_neg (by omega)]
  simp

theorem spread_lt {a b : Nat} (h : a < b) : spread a < spread b := by
  induction b using Nat.strongRecOn generalizing a with
  | ind b ih =>
    by_cases hb : 26 < b
    · rw [spread_of_lt hb]
      by_cases ha : 26 < a
      · rw [spread_of_lt ha]
        rcases Nat.lt_or_ge (a / 26) (b / 26) with hlt | hge
        · have hspread := ih (b / 26) (by omega) hlt
          omega
        · have hsame : a / 26 = b / 26 := by omega
          rw [hsame]
          omega
      · have hspread := ih (b / 26) (by omega) (a := 0) (by omega)
        rw [spread_of_le (Nat.zero_le _)] at hspread
        rw [spread_of_le (by omega)]
        omega
    · rw [spread_of_le (by omega), spread_of_le (by omega)]
      exact h

def padded (number : Nat) : List Nat :=
  charList number ++ List.replicate (4 - (charList number).length) 0

theorem toList_parse (number : Nat) :
    (parseNumberToChar number).toList = (padded number).reverse.map number2char := by
  simp only [parseNumberToChar, rjust, padded, String.toList_ofList, List.reverse_append,
    List.reverse_replicate, List.map_append, List.map_replicate, List.length_map,
    List.length_reverse]
  rfl

theorem padded_lt (number : Nat) : ∀ d ∈ padded number, d < 27 := by
  intro d hd
  rcases List.mem_append.1 hd with hd | hd
  · exact charList_lt number d hd
  · rw [List.eq_of_mem_replicate hd]
    omega

@[simp] theorem ofDigits_padded (number : Nat) :
    Nat.ofDigits 27 (padded number) = spread number := by
  rw [padded, Nat.ofDigits_append_replicate_zero, spread]

theorem map_number2char_lt {l l' : List Nat} (hlength : l.length = l'.length)
    (hl : ∀ d ∈ l, d < 27) (hl' : ∀ d ∈ l', d < 27)
    (h : Nat.ofDigits 27 l.reverse < Nat.ofDigits 27 l'.reverse) :
    l.map number2char < l'.map number2char := by
  induction l generalizing l' with
  | nil =>
    obtain rfl : l' = [] := List.length_eq_zero_iff.1 hlength.symm
    simp at h
  | cons d l ih =>
    cases l' with
    | nil => simp at hlength
    | cons d' l' =>
      have hlength' : l.length = l'.length := by simpa using hlength
      rw [List.forall_mem_cons] at hl hl'
      rw [List.map_cons, List.map_cons, List.cons_lt_cons_iff]
      simp only [List.reverse_cons, Nat.ofDigits_append, List.length_reverse,
        Nat.ofDigits_singleton, hlength'] at h
      rcases Nat.lt_trichotomy d d' with hlt | rfl | hgt
      · exact Or.inl (number2char_lt d' hl'.1 d hlt)
      · exact Or.inr ⟨rfl, ih hlength' hl.2 hl'.2 (by omega)⟩
      · have hbound : Nat.ofDigits 27 l'.reverse < 27 ^ l'.length := by
          have hlt := Nat.ofDigits_lt_base_pow_length (b := 27) (l := l'.reverse)
            (by omega) (by simpa using hl'.2)
          simpa using hlt
        have hmul : 27 ^ l'.length * (d' + 1) ≤ 27 ^ l'.length * d :=
          Nat.mul_le_mul_left _ hgt
        rw [Nat.mul_add] at hmul
        omega

theorem parse_lt {a b : Nat} (h : a < b)
    (hlength : (padded a).length = (padded b).length) :
    parseNumberToChar a < parseNumberToChar b := by
  rw [String.lt_iff, toList_parse, toList_parse]
  apply map_number2char_lt
  · simpa using hlength
  · simpa using padded_lt a
  · simpa using padded_lt b
  · simpa using spread_lt h

theorem length_parse (number : Nat) :
    (parseNumberToChar number).length = (padded number).length := by
  rw [← String.length_toList, toList_parse]
  simp

theorem length_padded {number : Nat} (h : (parseNumberToChar number).length ≤ 4) :
    (padded number).length = 4 := by
  rw [length_parse] at h
  simp only [padded, List.length_append, List.length_replicate] at h ⊢
  omega

/-- Batch numbers of different counts differ, and up to four letters they stand
in the order of the counts. -/
theorem batch_numbers_ordered {a b : Nat} (h : a < b) :
    parseNumberToChar a ≠ parseNumberToChar b ∧
      ((parseNumberToChar a).length ≤ 4 → (parseNumberToChar b).length ≤ 4 →
        parseNumberToChar a < parseNumberToChar b) := by
  constructor
  · intro heq
    have hlength : (padded a).length = (padded b).length := by
      rw [← length_parse, ← length_parse, heq]
    have hlt := parse_lt h hlength
    rw [heq] at hlt
    exact String.lt_irrefl _ hlt
  · intro ha hb
    exact parse_lt h (by rw [length_padded ha, length_padded hb])

theorem batch_numbers_ordered_carry :
    parseNumberToChar 26 ≠ parseNumberToChar 27 ∧
      parseNumberToChar 26 < parseNumberToChar 27 := by
  obtain ⟨hne, hlt⟩ := batch_numbers_ordered (a := 26) (b := 27) (by decide)
  exact ⟨hne, hlt (by decide +kernel) (by decide +kernel)⟩

end ShopManager.Purchase
