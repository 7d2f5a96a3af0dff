import Mathlib.Data.List.Basic

/-!
# Keys made of fields

A unique key is often the text of some fields with a separator between them.
Where no field but the last contains its separator, the key determines the
fields.
-/

namespace ShopManager.Library.Key

theorem append_cons_inj {α : Type} {c : α} {a a' b b' : List α} (ha : c ∉ a)
    (ha' : c ∉ a') (h : a ++ c :: b = a' ++ c :: b') : a = a' ∧ b = b' := by
  induction a generalizing a' with
  | nil =>
    cases a' with
    | nil => exact ⟨rfl, by simpa using h⟩
    | cons x a' =>
      have hx : c = x := by simpa using (List.cons.inj h).1
      exact absurd (by simp [hx]) ha'
  | cons x a ih =>
    cases a' with
    | nil =>
      have hx : x = c := by simpa using (List.cons.inj h).1
      exact absurd (by simp [hx]) ha
    | cons y a' =>
      obtain ⟨hxy, htail⟩ := List.cons.inj h
      have hrest := ih (fun hc => ha (List.mem_cons_of_mem x hc))
        (fun hc => ha' (List.mem_cons_of_mem y hc)) htail
      exact ⟨by rw [hxy, hrest.1], hrest.2⟩

/-- The text of a field that does not contain the separator. -/
def Free (c : Char) (field : String) : Prop := c ∉ field.toList

instance (c : Char) (field : String) : Decidable (Free c field) :=
  inferInstanceAs (Decidable (c ∉ field.toList))

theorem free_toString {c : Char} (hc : c.isDigit = false) (n : Nat) :
    Free c (toString n) := by
  intro hmem
  have hdigits : c ∈ Nat.toDigits 10 n := by
    rw [← Nat.toList_repr]
    exact hmem
  have hdigit := Nat.isDigit_of_mem_toDigits (by decide) (by decide) hdigits
  rw [hc] at hdigit
  exact absurd hdigit (by decide)

theorem toString_inj {m n : Nat} : toString m = toString n ↔ m = n := by
  constructor
  · intro h
    have hlist : (Nat.repr m).toList = (Nat.repr n).toList := congrArg String.toList h
    rw [Nat.toList_repr, Nat.toList_repr] at hlist
    rw [← Nat.ofDigitChars_ten_toDigits (n := m), hlist, Nat.ofDigitChars_ten_toDigits]
  · rintro rfl
    rfl

theorem field_inj (sep : String) {c : Char} {x x' y y' : String} (hsep : sep.toList = [c])
    (hx : Free c x) (hx' : Free c x') :
    x ++ (sep ++ y) = x' ++ (sep ++ y') ↔ x = x' ∧ y = y' := by
  constructor
  · intro h
    have hlist := congrArg String.toList h
    simp only [String.toList_append, hsep, List.singleton_append] at hlist
    obtain ⟨h1, h2⟩ := append_cons_inj hx hx' hlist
    exact ⟨String.toList_inj.1 h1, String.toList_inj.1 h2⟩
  · rintro ⟨rfl, rfl⟩
    rfl

theorem last_inj (sep : String) {c : Char} {x x' y y' : String} (hsep : sep.toList = [c])
    (hy : Free c y) (hy' : Free c y') :
    x ++ (sep ++ y) = x' ++ (sep ++ y') ↔ x = x' ∧ y = y' := by
  constructor
  · intro h
    have hlist := congrArg (List.reverse ∘ String.toList) h
    simp only [Function.comp_apply, String.toList_append, hsep, List.reverse_append,
      List.singleton_append, List.reverse_cons, List.append_assoc] at hlist
    have hfree : c ∉ y.toList.reverse := fun hc => hy (List.mem_reverse.mp hc)
    have hfree' : c ∉ y'.toList.reverse := fun hc => hy' (List.mem_reverse.mp hc)
    obtain ⟨h1, h2⟩ := append_cons_inj hfree hfree' hlist
    exact ⟨String.toList_inj.1 (List.reverse_inj.mp h2), String.toList_inj.1 (List.reverse_inj.mp h1)⟩
  · rintro ⟨rfl, rfl⟩
    rfl

theorem append_left_inj (x : String) {y y' : String} : x ++ y = x ++ y' ↔ y = y' := by
  constructor
  · intro h
    have hlist := congrArg String.toList h
    simp only [String.toList_append] at hlist
    exact String.toList_inj.1 (List.append_cancel_left hlist)
  · rintro rfl
    rfl

end ShopManager.Library.Key
