import Mathlib.Algebra.Group.Pi.Lemmas
import Mathlib.Algebra.Order.BigOperators.Group.List
import Mathlib.Data.List.Dedup
import Mathlib.Tactic.Abel

/-!
# Tables with an integer primary key

Rows stand in the order of their keys, so `first` is the row with the least
key and a key belongs to one row.  A saved object replaces the row with its
key; a new row gets the next key.
-/

namespace ShopManager.Library

/-- A row type with its primary key. -/
class Row (α : Type) where
  pk : α → Nat
  withPk : Nat → α → α
  pk_withPk : ∀ n a, pk (withPk n a) = n := by intros; rfl
  withPk_pk : ∀ a, withPk (pk a) a = a := by intros; rfl

attribute [simp] Row.pk_withPk Row.withPk_pk

structure Table (α : Type) [Row α] where
  rows : List α
  sorted : (rows.map Row.pk).Pairwise (· < ·)

namespace Table

variable {α κ M : Type} [Row α]

def empty : Table α := ⟨[], List.Pairwise.nil⟩

instance : Inhabited (Table α) := ⟨empty⟩

instance : Membership α (Table α) := ⟨fun t a => a ∈ t.rows⟩

variable {t : Table α} {a : α}

theorem mem_def : a ∈ t ↔ a ∈ t.rows := Iff.rfl

@[simp] theorem rows_empty : (empty : Table α).rows = [] := rfl

/-- The next value of the auto-increment key. -/
def nextId (t : Table α) : Nat := (t.rows.map Row.pk).foldr max 0 + 1

theorem pk_lt_nextId (ha : a ∈ t) : Row.pk a < t.nextId := by
  have hmem : Row.pk a ∈ t.rows.map Row.pk := List.mem_map_of_mem ha
  have hle : ∀ l : List Nat, ∀ n ∈ l, n ≤ l.foldr max 0 := by
    intro l
    induction l with
    | nil => simp
    | cons m l ih =>
      intro n hn
      rcases List.mem_cons.1 hn with rfl | hn
      · exact le_max_left _ _
      · exact (ih n hn).trans (le_max_right _ _)
  exact Nat.lt_succ_of_le (hle _ _ hmem)

theorem nextId_le_of_forall {n : Nat} (h : ∀ a ∈ t, Row.pk a ≤ n) :
    t.nextId ≤ n + 1 := by
  have hle : ∀ l : List Nat, (∀ m ∈ l, m ≤ n) → l.foldr max 0 ≤ n := by
    intro l
    induction l with
    | nil => exact fun _ => Nat.zero_le n
    | cons m l ih =>
      intro hl
      rw [List.forall_mem_cons] at hl
      exact max_le hl.1 (ih hl.2)
  refine Nat.succ_le_succ (hle _ fun m hm => ?_)
  obtain ⟨a, ha, rfl⟩ := List.mem_map.1 hm
  exact h a ha

variable {b : α}

theorem pk_le_of_getLast? (hlast : t.rows.getLast? = some a)
    (hb : b ∈ t) : Row.pk b ≤ Row.pk a := by
  obtain ⟨before, hrows⟩ := List.getLast?_eq_some_iff.mp hlast
  have hsorted := t.sorted
  rw [mem_def, hrows] at hb
  rw [hrows, List.map_append, List.pairwise_append] at hsorted
  rcases List.mem_append.mp hb with hb | hb
  · exact (hsorted.2.2 _ (List.mem_map_of_mem hb) (Row.pk a) (by simp)).le
  · rw [List.mem_singleton.mp hb]

/-- The row that an insert of `a` stores. -/
def stored (t : Table α) (a : α) : α := Row.withPk t.nextId a

@[simp] theorem pk_stored (t : Table α) (a : α) :
    Row.pk (t.stored a) = t.nextId := Row.pk_withPk _ _

def insert (t : Table α) (a : α) : Table α where
  rows := t.rows ++ [t.stored a]
  sorted := by
    rw [List.map_append, List.pairwise_append]
    refine ⟨t.sorted, by simp, ?_⟩
    intro n hn m hm
    obtain ⟨b, hb, rfl⟩ := List.mem_map.1 hn
    simp only [List.map_cons, List.map_nil, List.mem_singleton] at hm
    rw [hm, pk_stored]
    exact pk_lt_nextId hb

/-- Replace every row that satisfies `p` by its image under `f`; the key of a
row never changes. -/
def update (t : Table α) (p : α → Bool) (f : α → α) : Table α where
  rows := t.rows.map fun r => if p r then Row.withPk (Row.pk r) (f r) else r
  sorted := by
    have hpk : (t.rows.map fun r =>
        if p r then Row.withPk (Row.pk r) (f r) else r).map Row.pk =
        t.rows.map Row.pk := by
      rw [List.map_map]
      apply List.map_congr_left
      intro r _
      by_cases h : p r <;> simp [h]
    rw [hpk]
    exact t.sorted

/-- `save` of an object that was read from the table. -/
def save (t : Table α) (a : α) : Table α :=
  t.update (fun r => Row.pk r = Row.pk a) fun _ => a

def filter (t : Table α) (p : α → Bool) : List α := t.rows.filter p

def first (t : Table α) (p : α → Bool) : Option α := t.rows.find? p

def get? (t : Table α) (n : Nat) : Option α := t.first fun r => Row.pk r = n

theorem pk_inj (ha : a ∈ t) (hb : b ∈ t) (h : Row.pk a = Row.pk b) : a = b := by
  have hnodup : (t.rows.map Row.pk).Nodup := t.sorted.imp ne_of_lt
  exact List.inj_on_of_nodup_map hnodup ha hb h

variable {p : α → Bool}

theorem mem_of_first (h : t.first p = some a) :
    a ∈ t := List.mem_of_find?_eq_some h

theorem first_spec (h : t.first p = some a) :
    p a = true := List.find?_some h

theorem first_eq_none :
    t.first p = none ↔ ∀ a ∈ t, p a = false := by
  simp [first, List.find?_eq_none, mem_def]

theorem get?_eq_some {n : Nat} :
    t.get? n = some a ↔ a ∈ t ∧ Row.pk a = n := by
  constructor
  · intro h
    exact ⟨mem_of_first h, by simpa using first_spec h⟩
  · rintro ⟨hmem, rfl⟩
    cases hget : t.get? (Row.pk a) with
    | none =>
      have h := first_eq_none.1 hget a hmem
      simp at h
    | some b =>
      have hb : Row.pk b = Row.pk a := by simpa using first_spec hget
      rw [pk_inj (mem_of_first hget) hmem hb]

theorem nodup_rows (t : Table α) : t.rows.Nodup := by
  have hnodup : (t.rows.map Row.pk).Nodup := t.sorted.imp ne_of_lt
  exact hnodup.of_map _

theorem nodup_pk_filter (t : Table α) (p : α → Bool) : ((t.filter p).map Row.pk).Nodup := by
  have hnodup : (t.rows.map Row.pk).Nodup := t.sorted.imp ne_of_lt
  exact (List.filter_sublist.map Row.pk).nodup hnodup

theorem filter_eq_singleton (ha : a ∈ t)
    (hpa : p a = true) (honly : ∀ b ∈ t, p b = true → b = a) : t.filter p = [a] := by
  have hmem : a ∈ t.filter p := List.mem_filter.2 ⟨ha, hpa⟩
  have hall : ∀ b ∈ t.filter p, b = a := by
    intro b hb
    obtain ⟨hbt, hpb⟩ := List.mem_filter.1 hb
    exact honly b hbt hpb
  have hreplicate := List.eq_replicate_of_mem hall
  have hnodup : (t.filter p).Nodup := t.nodup_rows.filter _
  rw [hreplicate, List.nodup_replicate] at hnodup
  have hpos : 0 < (t.filter p).length := List.length_pos_of_mem hmem
  have hlen : (t.filter p).length = 1 := by omega
  rw [hreplicate, hlen]
  rfl

@[simp] theorem mem_insert :
    b ∈ t.insert a ↔ b ∈ t ∨ b = t.stored a := by
  simp [mem_def, insert]

theorem nextId_lt_insert (t : Table α) (a : α) : t.nextId < (t.insert a).nextId := by
  have hmem : t.stored a ∈ t.insert a := mem_insert.2 (.inr rfl)
  simpa using pk_lt_nextId hmem

theorem mem_update {f : α → α} :
    b ∈ t.update p f ↔
      (∃ r ∈ t, p r = true ∧ b = Row.withPk (Row.pk r) (f r)) ∨
        (b ∈ t ∧ p b = false) := by
  simp only [mem_def, update, List.mem_map]
  constructor
  · rintro ⟨r, hr, rfl⟩
    by_cases h : p r
    · exact Or.inl ⟨r, hr, h, by simp [h]⟩
    · exact Or.inr ⟨by simpa [h] using hr, by simp [h]⟩
  · rintro (⟨r, hr, hp, rfl⟩ | ⟨hb, hp⟩)
    · exact ⟨r, hr, by simp [hp]⟩
    · exact ⟨b, hb, by simp [hp]⟩

theorem exists_of_mem_update {f : α → α} (h : b ∈ t.update p f) :
    ∃ r ∈ t, b = if p r then Row.withPk (Row.pk r) (f r) else r := by
  rcases mem_update.1 h with ⟨r, hr, hp, rfl⟩ | ⟨hb, hp⟩
  · exact ⟨r, hr, by rw [if_pos hp]⟩
  · exact ⟨b, hb, by rw [hp]; rfl⟩

theorem mem_update_of_mem {f : α → α} {r : α} (h : r ∈ t) :
    (if p r then Row.withPk (Row.pk r) (f r) else r) ∈ t.update p f := by
  rw [mem_def, update]
  exact List.mem_map.2 ⟨r, h, rfl⟩

theorem mem_save (h : b ∈ t.save a) :
    b = a ∨ (b ∈ t ∧ Row.pk b ≠ Row.pk a) := by
  rcases mem_update.1 h with ⟨r, _, hp, rfl⟩ | ⟨hb, hp⟩
  · left
    have hpk : Row.pk r = Row.pk a := by simpa using hp
    rw [hpk, Row.withPk_pk]
  · exact Or.inr ⟨hb, by simpa using hp⟩

theorem mem_save_self (hb : b ∈ t) (hpk : Row.pk b = Row.pk a) :
    a ∈ t.save a := by
  have htwice := Row.withPk_pk a
  rw [← hpk] at htwice
  exact mem_update.2 (.inl ⟨b, hb, by simp [hpk], htwice.symm⟩)

theorem mem_save_iff {c : α} (hb : b ∈ t) (hpk : Row.pk b = Row.pk a) :
    c ∈ t.save a ↔ c = a ∨ (c ∈ t ∧ Row.pk c ≠ Row.pk a) := by
  constructor
  · exact mem_save
  · rintro (rfl | ⟨hc, hne⟩)
    · exact mem_save_self hb hpk
    · exact mem_update.2 (.inr ⟨hc, by simpa using hne⟩)

theorem exists_pk_save {n : Nat} (a : α) (h : ∃ b ∈ t, Row.pk b = n) :
    ∃ b ∈ t.save a, Row.pk b = n := by
  obtain ⟨b, hb, hpk⟩ := h
  by_cases heq : Row.pk b = Row.pk a
  · exact ⟨a, mem_save_self hb heq, heq.symm.trans hpk⟩
  · exact ⟨b, mem_update.2 (.inr ⟨hb, by simpa using heq⟩), hpk⟩

theorem ext_rows {t' : Table α} (h : t.rows = t'.rows) : t = t' := by
  cases t
  cases t'
  cases h
  rfl

theorem save_of_mem (ha : a ∈ t) : t.save a = t := by
  apply ext_rows
  unfold save update
  conv_rhs => rw [← List.map_id t.rows]
  apply List.map_congr_left
  intro r hr
  split
  · rename_i h
    have hpk : Row.pk r = Row.pk a := of_decide_eq_true h
    rw [pk_inj hr ha hpk, Row.withPk_pk]
    rfl
  · rfl

theorem save_save (h : Row.pk a = Row.pk b) :
    (t.save a).save b = t.save b := by
  apply ext_rows
  unfold save update
  refine List.map_map.trans (List.map_congr_left fun r _ => ?_)
  simp only [Function.comp_apply, decide_eq_true_eq]
  by_cases hr : Row.pk r = Row.pk a
  · rw [if_pos hr, Row.pk_withPk, if_pos (hr.trans h), if_pos (hr.trans h)]
  · rw [if_neg hr]

theorem update_eq_save (hb : b ∈ t) (f : α → α) :
    t.update (fun r => Row.pk r = Row.pk b) f = t.save (Row.withPk (Row.pk b) (f b)) := by
  apply ext_rows
  unfold save update
  apply List.map_congr_left
  intro r hr
  by_cases h : Row.pk r = Row.pk b
  · have htwice := Row.withPk_pk (Row.withPk (Row.pk b) (f b))
    rw [Row.pk_withPk] at htwice
    simp [pk_inj hr hb h, htwice]
  · simp [h]

theorem map_rows_update {f : α → α} {g : α → κ}
    (h : ∀ r ∈ t, p r = true → g (Row.withPk (Row.pk r) (f r)) = g r) :
    (t.update p f).rows.map g = t.rows.map g := by
  unfold update
  rw [List.map_map]
  apply List.map_congr_left
  intro r hr
  simp only [Function.comp_apply]
  split
  · rename_i hp
    exact h r hr hp
  · rfl

theorem map_rows_save (hb : b ∈ t) (hpk : Row.pk b = Row.pk a)
    {g : α → κ} (hg : g a = g b) : (t.save a).rows.map g = t.rows.map g := by
  apply map_rows_update
  intro r hr hp
  have heq : Row.pk r = Row.pk a := of_decide_eq_true hp
  have hrow : r = b := pk_inj hr hb (heq.trans hpk.symm)
  rw [hrow, hpk, Row.withPk_pk, hg]

theorem map_rows_save_of_keys {t' : Table α} {g : α → κ}
    (hg : ∀ a b, g a = g b → Row.pk a = Row.pk b) (h : t.rows.map g = t'.rows.map g)
    (hb : b ∈ t') (hab : g a = g b) : (t.save a).rows.map g = t'.rows.map g := by
  have hkey : g b ∈ t.rows.map g := by
    rw [h]
    exact List.mem_map_of_mem hb
  obtain ⟨c, hc, hcb⟩ := List.mem_map.1 hkey
  have hca : g c = g a := hcb.trans hab.symm
  rw [map_rows_save (b := c) hc (hg c a hca) hca.symm, h]

theorem map_get?_of_keys {t' : Table α} {g : α → κ} {f : κ → Nat}
    (hg : ∀ a, f (g a) = Row.pk a) (h : t.rows.map g = t'.rows.map g) (n : Nat) :
    (t.get? n).map g = (t'.get? n).map g := by
  have hfind := congrArg (List.find? fun k => f k = n) h
  simp only [List.find?_map, Function.comp_def, hg] at hfind
  exact hfind

theorem map_rows_insert (t : Table α) (a : α) (g : α → κ) :
    (t.insert a).rows.map g = t.rows.map g ++ [g (t.stored a)] := by
  simp [insert]

theorem first_update {q : α → Bool} {f : α → α}
    (hq : ∀ a, p a = true → q (Row.withPk (Row.pk a) (f a)) = q a) :
    (t.update p f).first q =
      (t.first q).map fun a => if p a then Row.withPk (Row.pk a) (f a) else a := by
  simp only [first, update, List.find?_map]
  have hcomp : (q ∘ fun r => if p r then Row.withPk (Row.pk r) (f r) else r) = q := by
    funext a
    by_cases h : p a = true
    · simp only [Function.comp_apply, if_pos h, hq a h]
    · simp only [Function.comp_apply, if_neg h]
  rw [hcomp]

theorem get?_update (t : Table α) (n m : Nat) (f : α → α) :
    (t.update (fun r => Row.pk r = n) f).get? m =
      if m = n then (t.get? n).map fun a => Row.withPk n (f a) else t.get? m := by
  rw [get?, first_update (by intro a _; rw [Row.pk_withPk])]
  by_cases hm : m = n
  · subst hm
    rw [if_pos rfl]
    apply Option.map_congr
    intro a ha
    have hpk : Row.pk a = m := by simpa using first_spec ha
    simp only [hpk, decide_true, if_true]
  · rw [if_neg hm, get?]
    cases hfirst : t.first fun r => decide (Row.pk r = m) with
    | none => rfl
    | some a =>
      have hpk : Row.pk a = m := by simpa using first_spec hfirst
      have hne : ¬ decide (Row.pk a = n) = true := by
        rw [hpk]
        simpa using hm
      simp only [Option.map_some, if_neg hne]

theorem first_insert (t : Table α) (a : α) (q : α → Bool) :
    (t.insert a).first q =
      (t.first q).or (if q (t.stored a) then some (t.stored a) else none) := by
  simp only [first, insert, List.find?_append]
  by_cases h : q (t.stored a) = true <;> simp [h]

theorem get?_save (t : Table α) (a : α) (m : Nat) :
    (t.save a).get? m = if m = Row.pk a then (t.get? m).map fun _ => a else t.get? m := by
  rw [save, get?_update]
  by_cases hm : m = Row.pk a
  · rw [if_pos hm, if_pos hm, hm, Row.withPk_pk]
  · rw [if_neg hm, if_neg hm]

theorem get?_insert (t : Table α) (a : α) (m : Nat) :
    (t.insert a).get? m = if m = t.nextId then some (t.stored a) else t.get? m := by
  rw [get?, first_insert]
  by_cases hm : m = t.nextId
  · have hnone : (t.first fun r => decide (Row.pk r = m)) = none := by
      apply first_eq_none.2
      intro r hr
      have hlt := pk_lt_nextId hr
      simp only [decide_eq_false_iff_not]
      omega
    rw [hnone, Option.none_or, if_pos hm, if_pos (by simp [hm])]
  · have hstored : ¬ decide (Row.pk (t.stored a) = m) = true := by simpa using Ne.symm hm
    rw [if_neg hstored, if_neg hm, Option.or_none]
    rfl

/-- A query that holds of the old row exactly if it holds of the saved one finds
the same rows, the saved one in its new form. -/
theorem first_save (hb : b ∈ t) (hpk : Row.pk b = Row.pk a) {q : α → Bool} (hq : q a = q b) :
    (t.save a).first q = (t.first q).map fun r => if Row.pk r = Row.pk a then a else r := by
  have key : ∀ l : List α, (∀ r ∈ l, r ∈ t) →
      (l.map fun r => if Row.pk r = Row.pk a then Row.withPk (Row.pk r) a else r).find? q =
        (l.find? q).map fun r => if Row.pk r = Row.pk a then a else r := by
    intro l
    induction l with
    | nil => intro _; rfl
    | cons r l ih =>
      intro hl
      have htail := ih fun r' hr' => hl r' (List.mem_cons_of_mem _ hr')
      by_cases hr : Row.pk r = Row.pk a
      · have heq : r = b := pk_inj (hl r (by simp)) hb (hr.trans hpk.symm)
        rw [List.map_cons, if_pos hr, hr, Row.withPk_pk, List.find?_cons, List.find?_cons,
          hq, ← heq, htail]
        cases hqr : q r with
        | true => simp [hr]
        | false => rfl
      · rw [List.map_cons, if_neg hr, List.find?_cons, List.find?_cons, htail]
        cases hqr : q r with
        | true => simp [hr]
        | false => rfl
  simpa [first, save, update] using key t.rows fun r hr => hr

theorem first_save_self (hpk : Row.pk b = Row.pk a) {q : α → Bool}
    (hq : q a = true) (h : t.first q = some b) : (t.save a).first q = some a := by
  have hqb : q a = q b := by rw [hq, first_spec h]
  rw [first_save (mem_of_first h) hpk hqb, h, Option.map_some, if_pos hpk]

theorem first_save_other (hb : b ∈ t) (hpk : Row.pk b = Row.pk a)
    {q : α → Bool} (hqa : q a = false) (hqb : q b = false) :
    (t.save a).first q = t.first q := by
  rw [first_save hb hpk (hqa.trans hqb.symm)]
  cases hfirst : t.first q with
  | none => rfl
  | some r =>
    have hr : Row.pk r ≠ Row.pk a := by
      intro h
      have heq : r = b := pk_inj (mem_of_first hfirst) hb (h.trans hpk.symm)
      have hqr := first_spec hfirst
      rw [heq, hqb] at hqr
      exact absurd hqr (by decide)
    rw [Option.map_some, if_neg hr]

theorem filter_save_of_not (hb : b ∈ t)
    (hpk : Row.pk b = Row.pk a) (hold : p b = false) (hnew : p a = false) :
    (t.save a).filter p = t.filter p := by
  have key : ∀ l : List α, (∀ r ∈ l, Row.pk r = Row.pk a → p r = false) →
      (l.map fun r => if Row.pk r = Row.pk a then Row.withPk (Row.pk r) a else r).filter p =
        l.filter p := by
    intro l
    induction l with
    | nil => simp
    | cons r l ih =>
      intro hall
      have hrest := ih fun r' hr' => hall r' (List.mem_cons_of_mem r hr')
      by_cases hr : Row.pk r = Row.pk a
      · have hself : Row.withPk (Row.pk r) a = a := by rw [hr, Row.withPk_pk]
        have hgone : p r = false := hall r (List.mem_cons_self ..) hr
        simp only [List.map_cons, if_pos hr, hself, List.filter_cons, hnew, hgone]
        exact hrest
      · simp only [List.map_cons, if_neg hr, List.filter_cons, hrest]
  have hall : ∀ r ∈ t.rows, Row.pk r = Row.pk a → p r = false := by
    intro r hr heq
    rw [pk_inj (t := t) hr hb (heq.trans hpk.symm)]
    exact hold
  simpa [filter, save, update] using key t.rows hall

theorem filter_new {t' : Table α} {new : List α} (h : t'.rows = t.rows ++ new) :
    (t'.filter fun a => t.get? (Row.pk a) = none) = new := by
  have hsorted := t'.sorted
  rw [h, List.map_append, List.pairwise_append] at hsorted
  have hold : (t.rows.filter fun a => t.get? (Row.pk a) = none) = [] := by
    rw [List.filter_eq_nil_iff]
    intro a ha
    simp [get?_eq_some.2 ⟨ha, rfl⟩]
  have hnew : (new.filter fun a => t.get? (Row.pk a) = none) = new := by
    rw [List.filter_eq_self]
    intro a ha
    refine decide_eq_true (first_eq_none.2 fun b hb => decide_eq_false ?_)
    exact ne_of_lt (hsorted.2.2 _ (List.mem_map_of_mem hb) _ (List.mem_map_of_mem ha))
  unfold filter
  rw [h, List.filter_append, hold, hnew, List.nil_append]

/-! ## Sums over the rows -/

section Sums

variable [AddCommGroup M]

/-- The total weight of the rows. -/
def sum (t : Table α) (w : α → M) : M := (t.rows.map w).sum

@[simp] theorem sum_empty (w : α → M) : (empty : Table α).sum w = 0 := rfl

@[simp] theorem sum_insert (t : Table α) (a : α) (w : α → M) :
    (t.insert a).sum w = t.sum w + w (t.stored a) := by
  simp [sum, insert]

theorem sum_save (hb : b ∈ t) (hpk : Row.pk b = Row.pk a)
    (w : α → M) : (t.save a).sum w = t.sum w - w b + w a := by
  have key : ∀ l : List α, (l.map Row.pk).Nodup → b ∈ l →
      ((l.map fun r => if Row.pk r = Row.pk a then Row.withPk (Row.pk r) a else r).map
        w).sum = (l.map w).sum - w b + w a := by
    intro l
    induction l with
    | nil => simp
    | cons r l ih =>
      intro hnodup hmem
      rw [List.map_cons, List.nodup_cons] at hnodup
      rcases List.mem_cons.1 hmem with rfl | hmem
      · -- the remaining rows carry other keys and stay as they are
        have hrest : (l.map fun r =>
            if Row.pk r = Row.pk a then Row.withPk (Row.pk r) a else r) = l := by
          conv_rhs => rw [← List.map_id l]
          apply List.map_congr_left
          intro r hr
          have hne : Row.pk r ≠ Row.pk a := by
            intro h
            exact hnodup.1 (List.mem_map.2 ⟨r, hr, by rw [h, hpk]⟩)
          simp [hne]
        simp only [List.map_cons, List.sum_cons, hrest, hpk, if_true,
          Row.withPk_pk]
        abel
      · have hne : Row.pk r ≠ Row.pk a := by
          intro h
          exact hnodup.1 (List.mem_map.2 ⟨b, hmem, by rw [h, hpk]⟩)
        simp only [List.map_cons, List.sum_cons, if_neg hne, ih hnodup.2 hmem]
        abel
  have hnodup : (t.rows.map Row.pk).Nodup := t.sorted.imp ne_of_lt
  have h := key t.rows hnodup hb
  simpa [sum, save, update] using h

theorem sum_save_of_eq (hb : b ∈ t) (hpk : Row.pk b = Row.pk a)
    {w : α → M} (h : w a = w b) : (t.save a).sum w = t.sum w := by
  rw [sum_save hb hpk, h]
  abel

theorem sum_eq_zero {w : α → M} (h : ∀ a ∈ t, w a = 0) :
    t.sum w = 0 := by
  apply List.sum_eq_zero
  intro x hx
  obtain ⟨a, ha, rfl⟩ := List.mem_map.1 hx
  exact h a ha

theorem sum_congr {w w' : α → M} (h : ∀ a ∈ t, w a = w' a) :
    t.sum w = t.sum w' := by
  unfold sum
  rw [List.map_congr_left h]

theorem sum_le_sum [PartialOrder M] [IsOrderedAddMonoid M] {w w' : α → M}
    (h : ∀ a ∈ t, w a ≤ w' a) : t.sum w ≤ t.sum w' :=
  List.sum_le_sum h

theorem sum_add (t : Table α) (w w' : α → M) :
    t.sum (fun a => w a + w' a) = t.sum w + t.sum w' := by
  unfold sum
  induction t.rows with
  | nil => simp
  | cons r l ih =>
    simp only [List.map_cons, List.sum_cons, ih]
    abel

theorem sum_filter (t : Table α) (p : α → Bool) (w : α → M) :
    ((t.filter p).map w).sum = t.sum fun a => if p a then w a else 0 := by
  unfold sum filter
  induction t.rows with
  | nil => rfl
  | cons r l ih => by_cases h : p r <;> simp [h, ih]

theorem sum_update (t : Table α) (p : α → Bool) (f : α → α) (w : α → M) :
    (t.update p f).sum w = t.sum fun a => if p a then w (Row.withPk (Row.pk a) (f a)) else w a := by
  unfold sum update
  rw [List.map_map]
  congr 1
  apply List.map_congr_left
  intro a _
  simp only [Function.comp_apply]
  split <;> rfl

theorem sum_single (hb : b ∈ t) (v : M) :
    (t.sum fun a => if Row.pk a = Row.pk b then v else 0) = v := by
  have key : ∀ l : List α, (l.map Row.pk).Nodup →
      (l.map fun a => if Row.pk a = Row.pk b then v else 0).sum =
        if Row.pk b ∈ l.map Row.pk then v else 0 := by
    intro l
    induction l with
    | nil => simp
    | cons a l ih =>
      intro hnodup
      rw [List.map_cons, List.nodup_cons] at hnodup
      rw [List.map_cons, List.sum_cons, ih hnodup.2, List.map_cons]
      by_cases h : Row.pk a = Row.pk b
      · rw [h] at hnodup
        rw [if_pos h, if_neg hnodup.1, if_pos (by simp [h]), add_zero]
      · rw [if_neg h, zero_add]
        simp [Ne.symm h]
  have hnodup : (t.rows.map Row.pk).Nodup := t.sorted.imp ne_of_lt
  unfold sum
  rw [key t.rows hnodup, if_pos (List.mem_map_of_mem hb)]

theorem length_filter_save (hb : b ∈ t) (hpk : Row.pk b = Row.pk a) (p : α → Bool) :
    (((t.save a).filter p).length : Int) =
      (t.filter p).length - (if p b then 1 else 0) + if p a then 1 else 0 := by
  have hlength : ∀ t : Table α, ((t.filter p).length : Int) = t.sum fun a => if p a then 1 else 0 := by
    intro t
    rw [← sum_filter t p fun _ => (1 : Int)]
    simp
  rw [hlength, hlength, sum_save hb hpk]

theorem sum_apply {ι : Type} (t : Table α) (w : α → ι → M) (column : ι) :
    t.sum w column = t.sum fun a => w a column := by
  have h := map_list_sum (Pi.evalAddMonoidHom (fun _ : ι => M) column) (t.rows.map w)
  rw [List.map_map] at h
  exact h

end Sums

section Groups

variable {β : Type} [AddCommGroup M] [DecidableEq κ]

private theorem sum_indicator (k : κ) (v : M) :
    ∀ groups : List κ, groups.Nodup →
      (groups.map fun g => if k = g then v else 0).sum =
        if k ∈ groups then v else 0 := by
  intro groups
  induction groups with
  | nil => simp
  | cons g groups ih =>
    intro hnodup
    rw [List.nodup_cons] at hnodup
    rw [List.map_cons, List.sum_cons, ih hnodup.2]
    by_cases h : k = g
    · subst h
      simp [hnodup.1]
    · simp [h]

/-- The totals of the groups in `groups` add up to the total over the rows of
these groups. -/
theorem sum_groups (key : β → κ) (w : β → M) {groups : List κ}
    (hnodup : groups.Nodup) :
    ∀ rows : List β,
      (groups.map fun g => ((rows.filter fun r => key r = g).map w).sum).sum =
        ((rows.filter fun r => key r ∈ groups).map w).sum := by
  intro rows
  induction rows with
  | nil => simp
  | cons r rows ih =>
    have hhead : ∀ g, (((r :: rows).filter fun r => key r = g).map w).sum =
        (if key r = g then w r else 0) +
          ((rows.filter fun r => key r = g).map w).sum := by
      intro g
      by_cases h : key r = g <;> simp [h]
    simp only [hhead]
    rw [List.sum_map_add, ih, sum_indicator (key r) (w r) groups hnodup]
    by_cases h : key r ∈ groups <;> simp [h]

end Groups

end Table

end ShopManager.Library
