import Mathlib.Algebra.Ring.Nat
import ShopManager.Library.Key

/-!
# Texts and their parts

Splitting a text at a character, joining parts with it, and the numbers among the parts.
-/

namespace ShopManager.Library.Text

open Key (Free)

variable {c : Char} {parts : List String} {text : String}

def split (c : Char) (text : String) : List String := (text.toList.splitOn c).map String.ofList

def join (c : Char) (parts : List String) : String :=
  String.ofList ([c].intercalate (parts.map String.toList))

theorem toList_join (c : Char) (parts : List String) :
    (join c parts).toList = [c].intercalate (parts.map String.toList) := String.toList_ofList

theorem map_ofList_toList (parts : List String) :
    (parts.map String.toList).map String.ofList = parts := by
  rw [List.map_map]
  conv_rhs => rw [← List.map_id parts]
  exact List.map_congr_left fun _ _ => String.ofList_toList

theorem split_join (hfree : ∀ part ∈ parts, Free c part) (hparts : parts ≠ []) :
    split c (join c parts) = parts := by
  unfold split
  rw [toList_join, List.splitOn_intercalate, map_ofList_toList]
  · intro l hl
    obtain ⟨part, hpart, rfl⟩ := List.mem_map.mp hl
    exact hfree part hpart
  · exact fun h => hparts (List.map_eq_nil_iff.mp h)

theorem length_join (c : Char) : ∀ (parts : List String), parts ≠ [] →
    (join c parts).length + 1 = (parts.map fun part => part.length + 1).sum := by
  intro parts
  induction parts with
  | nil => exact fun h => absurd rfl h
  | cons part parts ih =>
    intro _
    rw [← String.length_toList, toList_join, List.map_cons, List.map_cons, List.sum_cons]
    cases parts with
    | nil => simp [String.length_toList]
    | cons part' parts =>
      have hrest := ih (List.cons_ne_nil _ _)
      rw [← String.length_toList, toList_join] at hrest
      rw [List.map_cons, List.intercalate_cons_cons, ← List.map_cons, ← hrest]
      simp only [List.length_append, List.length_singleton, String.length_toList]
      omega

theorem split_append (c : Char) (x y : String) :
    split c (x ++ String.singleton c ++ y) = split c x ++ split c y := by
  unfold split
  rw [String.toList_append, String.toList_append, String.toList_singleton, List.append_assoc,
    List.singleton_append, List.splitOn_append_cons_self, List.map_append]

theorem split_free (hfree : Free c text) : split c text = [text] := by
  unfold split
  rw [List.splitOn_eq_singleton hfree]
  simp

/-- `text.split(c)[-1]` -/
def lastPart (c : Char) (text : String) : String := (split c text).getLastD ""

theorem lastPart_free (hfree : Free c text) : lastPart c text = text := by
  unfold lastPart
  rw [split_free hfree]
  rfl

theorem lastPart_append (x : String) (hfree : Free c text) :
    lastPart c (x ++ String.singleton c ++ text) = text := by
  unfold lastPart
  rw [split_append, split_free hfree, List.getLastD_concat]

def strip (c : Char) (text : String) : String :=
  String.ofList (((text.toList.dropWhile (· = c)).reverse.dropWhile (· = c)).reverse)

theorem strip_of_ends (hhead : text.toList.head? ≠ some c) (hlast : text.toList.getLast? ≠ some c) :
    strip c text = text := by
  have hdrop : ∀ {l : List Char}, l.head? ≠ some c → l.dropWhile (· = c) = l := by
    intro l hl
    cases l with
    | nil => rfl
    | cons a l =>
      refine List.dropWhile_cons_of_neg ?_
      simpa using hl
  unfold strip
  rw [hdrop hhead, hdrop (by rwa [List.head?_reverse]), List.reverse_reverse, String.ofList_toList]

/-- `text.isdigit()` -/
def isDigits (text : String) : Bool := text ≠ "" && text.toList.all Char.isDigit

/-- `int(text)` of digits. -/
def number (text : String) : ℕ := Nat.ofDigitChars 10 text.toList 0

theorem toList_toString (n : ℕ) : (toString n).toList = Nat.toDigits 10 n := Nat.toList_repr

theorem isDigits_toString (n : ℕ) : isDigits (toString n) = true := by
  unfold isDigits
  rw [toList_toString, Bool.and_eq_true]
  constructor
  · refine decide_eq_true fun h => ?_
    have hnil := congrArg String.toList h
    rw [toList_toString] at hnil
    exact Nat.toDigits_ne_nil hnil
  · exact List.all_eq_true.mpr fun c hc => Nat.isDigit_of_mem_toDigits (by decide) (by decide) hc

theorem number_toString (n : ℕ) : number (toString n) = n := by
  unfold number
  rw [toList_toString]
  exact Nat.ofDigitChars_ten_toDigits

/-- The numbers among the parts. -/
def numbers (parts : List String) : List ℕ := (parts.filter fun part => isDigits part).map number

theorem numbers_append (parts parts' : List String) :
    numbers (parts ++ parts') = numbers parts ++ numbers parts' := by
  unfold numbers
  rw [List.filter_append, List.map_append]

theorem numbers_toString (ns : List ℕ) : numbers (ns.map toString) = ns := by
  unfold numbers
  rw [List.filter_eq_self.mpr, List.map_map]
  · conv_rhs => rw [← List.map_id ns]
    exact List.map_congr_left fun n _ => number_toString n
  · intro part hpart
    obtain ⟨n, -, rfl⟩ := List.mem_map.mp hpart
    exact isDigits_toString n

end ShopManager.Library.Text
