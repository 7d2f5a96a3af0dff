import Mathlib.Logic.Function.Basic

/-!
# A cache in front of a store

A cache is coherent with a store if it holds nothing but what the store has under the same key.
-/

namespace ShopManager.Library.Cache

variable {κ α : Type} [DecidableEq κ]

def Coherent (cache store : κ → Option α) : Prop :=
  ∀ key a, cache key = some a → store key = some a

def remember (cache : κ → Option α) (key : κ) (a : α) : κ → Option α :=
  Function.update cache key (some a)

def forget (cache : κ → Option α) (keys : List κ) : κ → Option α :=
  fun key => if key ∈ keys then none else cache key

theorem remember_self (cache : κ → Option α) (key : κ) (a : α) :
    remember cache key a key = some a := Function.update_self ..

theorem remember_of_ne {cache : κ → Option α} {key other : κ} (h : other ≠ key) (a : α) :
    remember cache key a other = cache other := Function.update_of_ne h ..

theorem coherent_empty (store : κ → Option α) : Coherent (fun _ => none) store := by
  intro key a h
  exact absurd h (by simp)

theorem forget_eq_some {cache : κ → Option α} {keys : List κ} {key : κ} {a : α} :
    forget cache keys key = some a ↔ key ∉ keys ∧ cache key = some a := by
  unfold forget
  split
  · next hmem => simp [hmem]
  · next hmem => simp [hmem]

theorem coherent_remember_iff {cache store : κ → Option α} (h : Coherent cache store) {key : κ}
    {a : α} : Coherent (remember cache key a) store ↔ store key = some a := by
  constructor
  · intro hremember
    exact hremember key a (remember_self cache key a)
  · intro hstore other b hb
    by_cases heq : other = key
    · subst heq
      rw [remember_self] at hb
      rw [hstore, hb]
    · rw [remember_of_ne heq] at hb
      exact h other b hb

theorem coherent_forget_iff {cache store : κ → Option α} {keys : List κ} :
    Coherent (forget cache keys) store ↔
      ∀ key a, cache key = some a → key ∉ keys → store key = some a := by
  constructor
  · intro h key a hcached hkey
    exact h key a (forget_eq_some.mpr ⟨hkey, hcached⟩)
  · intro h key a hcached
    obtain ⟨hkey, hcached⟩ := forget_eq_some.mp hcached
    exact h key a hcached hkey

theorem Coherent.foldl_remember {store : κ → Option α} {key : α → κ} :
    ∀ {rows : List α} {cache : κ → Option α}, Coherent cache store →
      (∀ a ∈ rows, store (key a) = some a) →
      Coherent (rows.foldl (fun cache a => remember cache (key a) a) cache) store := by
  intro rows
  induction rows with
  | nil => exact fun h _ => h
  | cons a rows ih =>
    intro cache h hrows
    refine ih ((coherent_remember_iff h).mpr (hrows a List.mem_cons_self)) ?_
    exact fun b hb => hrows b (List.mem_cons_of_mem a hb)

theorem foldl_remember_isSome {key : α → κ} {rows : List α} {k : κ} :
    ∀ {cache : κ → Option α}, (cache k).isSome ∨ (∃ a ∈ rows, key a = k) →
      (rows.foldl (fun cache a => remember cache (key a) a) cache k).isSome := by
  induction rows with
  | nil =>
    rintro cache (h | ⟨a, ha, _⟩)
    · exact h
    · exact absurd ha List.not_mem_nil
  | cons a rows ih =>
    intro cache h
    refine ih ?_
    by_cases heq : k = key a
    · left
      dsimp only
      rw [heq, remember_self]
      rfl
    · rcases h with h | ⟨b, hb, hkey⟩
      · left
        dsimp only
        rw [remember_of_ne heq]
        exact h
      · rcases List.mem_cons.mp hb with rfl | hb
        · exact absurd hkey.symm heq
        · exact Or.inr ⟨b, hb, hkey⟩

end ShopManager.Library.Cache
