import Mathlib.Data.Finset.Card

/-!
# Search in passes

A search that knows some nodes takes the new ones among those it is given, and follows several
kinds of links from them, one kind after the other, with what it has come to know in between.
-/

namespace ShopManager.Library.Search

open Relation

variable {α : Type} [DecidableEq α]

/-- Links of one kind, with the query that follows them. -/
structure Pass (α : Type) where
  rel : α → α → Prop
  next : List α → List α
  mem_next : ∀ {l b}, b ∈ next l ↔ ∃ a ∈ l, rel a b

/-- The loop over what is given, which keeps the new nodes. -/
def fresh : List α → List α → List α
  | [], _ => []
  | a :: l, known => if a ∈ known then fresh l known else a :: fresh l (a :: known)

theorem mem_fresh {a : α} {l known : List α} : a ∈ fresh l known ↔ a ∈ l ∧ a ∉ known := by
  induction l generalizing known with
  | nil => simp [fresh]
  | cons b l ih =>
    unfold fresh
    by_cases hb : b ∈ known
    · rw [if_pos hb, ih, List.mem_cons]
      constructor
      · rintro ⟨hmem, hnot⟩
        exact ⟨Or.inr hmem, hnot⟩
      · rintro ⟨rfl | hmem, hnot⟩
        · exact absurd hb hnot
        · exact ⟨hmem, hnot⟩
    · rw [if_neg hb]
      simp only [List.mem_cons, ih]
      constructor
      · rintro (rfl | ⟨hmem, hnot⟩)
        · exact ⟨Or.inl rfl, hb⟩
        · exact ⟨Or.inr hmem, fun h => hnot (Or.inr h)⟩
      · rintro ⟨heq | hmem, hnot⟩
        · exact Or.inl heq
        · by_cases heq : a = b
          · exact Or.inl heq
          · exact Or.inr ⟨hmem, fun h => h.elim heq hnot⟩

theorem nodup_fresh (l known : List α) : (fresh l known).Nodup := by
  induction l generalizing known with
  | nil => exact List.nodup_nil
  | cons a l ih =>
    unfold fresh
    by_cases ha : a ∈ known
    · rw [if_pos ha]
      exact ih known
    · rw [if_neg ha, List.nodup_cons]
      exact ⟨fun h => (mem_fresh.mp h).2 (List.mem_cons_self ..), ih _⟩

/-- What is known after the search, unless it has to go deeper than it may. -/
def search (passes : List (Pass α)) : ℕ → List α → List α → Option (List α)
  | 0, _, _ => none
  | depth + 1, l, known =>
      if fresh l known = [] then some known
      else passes.foldlM (fun mid pass => search passes depth (pass.next (fresh l known)) mid)
        (known ++ fresh l known)

variable {passes : List (Pass α)} {a b : α} {depth : ℕ} {l known found : List α}

/-- A link of any kind. -/
def Linked (passes : List (Pass α)) (a b : α) : Prop := ∃ pass ∈ passes, pass.rel a b

/-- What a search leaves behind. -/
structure Searched (passes : List (Pass α)) (l known found : List α) : Prop where
  keeps : known ⊆ found
  covers : l ⊆ found
  nodup : known.Nodup → found.Nodup
  reached : ∀ b ∈ found, b ∉ known → ∃ a ∈ l, ReflTransGen (Linked passes) a b
  closed : ∀ a ∈ found, a ∉ known → ∀ b, Linked passes a b → b ∈ found

/-- The passes from the new nodes, as far as they have come. -/
structure Passed (passes done : List (Pass α)) (new known found : List α) : Prop where
  keeps : known ++ new ⊆ found
  nodup : (known ++ new).Nodup → found.Nodup
  reached : ∀ b ∈ found, b ∉ known → ∃ a ∈ new, ReflTransGen (Linked passes) a b
  covers : ∀ pass ∈ done, pass.next new ⊆ found
  closed : ∀ a ∈ found, a ∉ known ++ new → ∀ b, Linked passes a b → b ∈ found

omit [DecidableEq α] in
theorem Passed.start (passes : List (Pass α)) (new known : List α) :
    Passed passes [] new known (known ++ new) where
  keeps := List.Subset.refl _
  nodup := id
  reached b hb hnot := by
    rcases List.mem_append.mp hb with hknown | hnew
    · exact absurd hknown hnot
    · exact ⟨b, hnew, .refl⟩
  covers := List.forall_mem_nil _
  closed _ ha hnot := absurd ha hnot

omit [DecidableEq α] in
theorem Passed.step {done : List (Pass α)} {new found' : List α} {pass : Pass α}
    (h : Passed passes done new known found) (hpass : pass ∈ passes)
    (hsearched : Searched passes (pass.next new) found found') :
    Passed passes (done ++ [pass]) new known found' where
  keeps := List.Subset.trans h.keeps hsearched.keeps
  nodup hnodup := hsearched.nodup (h.nodup hnodup)
  reached b hb hnot := by
    by_cases hfound : b ∈ found
    · exact h.reached b hfound hnot
    · obtain ⟨c, hc, hreach⟩ := hsearched.reached b hb hfound
      obtain ⟨a, ha, hlink⟩ := pass.mem_next.mp hc
      exact ⟨a, ha, .head ⟨pass, hpass, hlink⟩ hreach⟩
  covers p hp := by
    rcases List.mem_append.mp hp with hdone | hlast
    · exact List.Subset.trans (h.covers p hdone) hsearched.keeps
    · rw [List.mem_singleton.mp hlast]
      exact hsearched.covers
  closed a ha hnot b hlink := by
    by_cases hfound : a ∈ found
    · exact hsearched.keeps (h.closed a hfound hnot b hlink)
    · exact hsearched.closed a ha hfound b hlink

theorem Passed.searched (h : Passed passes passes (fresh l known) known found) :
    Searched passes l known found where
  keeps _ hb := h.keeps (List.mem_append_left _ hb)
  covers b hb := by
    by_cases hknown : b ∈ known
    · exact h.keeps (List.mem_append_left _ hknown)
    · exact h.keeps (List.mem_append_right _ (mem_fresh.mpr ⟨hb, hknown⟩))
  nodup hnodup := by
    refine h.nodup (List.nodup_append.mpr ⟨hnodup, nodup_fresh l known, ?_⟩)
    rintro a ha _ hb rfl
    exact (mem_fresh.mp hb).2 ha
  reached b hb hnot := by
    obtain ⟨a, ha, hreach⟩ := h.reached b hb hnot
    exact ⟨a, (mem_fresh.mp ha).1, hreach⟩
  closed a ha hnot b hlink := by
    by_cases hnew : a ∈ fresh l known
    · obtain ⟨pass, hpass, hrel⟩ := hlink
      exact h.covers pass hpass (pass.mem_next.mpr ⟨a, hnew, hrel⟩)
    · refine h.closed a ha ?_ b hlink
      exact fun hmem => (List.mem_append.mp hmem).elim hnot hnew

theorem Searched.of_fresh (h : fresh l known = []) : Searched passes l known known where
  keeps := List.Subset.refl _
  covers b hb := by
    by_contra hnot
    have hmem : b ∈ fresh l known := mem_fresh.mpr ⟨hb, hnot⟩
    rw [h] at hmem
    exact List.not_mem_nil hmem
  nodup := id
  reached _ hb hnot := absurd hb hnot
  closed _ ha hnot := absurd ha hnot

theorem searched_of_search : ∀ {depth : ℕ} {l known found : List α},
    search passes depth l known = some found → Searched passes l known found := by
  intro depth
  induction depth with
  | zero => exact fun h => nomatch h
  | succ depth ih =>
    intro l known found h
    unfold search at h
    by_cases hfresh : fresh l known = []
    · rw [if_pos hfresh] at h
      obtain rfl := Option.some.inj h
      exact Searched.of_fresh hfresh
    · rw [if_neg hfresh] at h
      -- the passes that are done and those to come make up the list
      have hpasses : ∀ (todo done : List (Pass α)) (mid : List α), done ++ todo = passes →
          Passed passes done (fresh l known) known mid →
            todo.foldlM (fun mid pass =>
              search passes depth (pass.next (fresh l known)) mid) mid = some found →
              Passed passes passes (fresh l known) known found := by
        intro todo
        induction todo with
        | nil =>
          rintro done mid hlist hdone hrun
          obtain rfl := Option.some.inj hrun
          rw [List.append_nil] at hlist
          rwa [hlist] at hdone
        | cons pass todo ihtodo =>
          intro done mid hlist hdone hrun
          rw [List.foldlM_cons] at hrun
          obtain ⟨mid', hsearch, hrest⟩ := Option.bind_eq_some_iff.mp hrun
          have hmem : pass ∈ passes := by
            rw [← hlist]
            exact List.mem_append_right _ (List.mem_cons_self ..)
          refine ihtodo (done ++ [pass]) mid' ?_ (hdone.step hmem (ih hsearch)) hrest
          rw [List.append_assoc]
          exact hlist
      exact (hpasses passes [] _ rfl (Passed.start passes _ known) h).searched

omit [DecidableEq α] in
theorem Searched.mem_iff (h : Searched passes l [] found) :
    b ∈ found ↔ ∃ a ∈ l, ReflTransGen (Linked passes) a b := by
  constructor
  · exact fun hb => h.reached b hb List.not_mem_nil
  · rintro ⟨a, ha, hreach⟩
    induction hreach with
    | refl => exact h.covers ha
    | tail _ hlink ih => exact h.closed _ ih List.not_mem_nil _ hlink

/-! ## How deep a search goes -/

/-- The nodes that may still be new. -/
def unknown (nodes l known : List α) : Finset α := (nodes ++ l).toFinset \ known.toFinset

theorem mem_unknown {nodes : List α} :
    a ∈ unknown nodes l known ↔ (a ∈ nodes ∨ a ∈ l) ∧ a ∉ known := by
  unfold unknown
  rw [Finset.mem_sdiff, List.mem_toFinset, List.mem_toFinset, List.mem_append]

theorem card_unknown_lt {nodes new mid : List α} (hnew : fresh l known ≠ [])
    (hnodes : new ⊆ nodes) (hmid : known ++ fresh l known ⊆ mid) :
    (unknown nodes new mid).card < (unknown nodes l known).card := by
  obtain ⟨a, ha⟩ := List.exists_mem_of_ne_nil _ hnew
  refine Finset.card_lt_card (Finset.ssubset_iff_of_subset ?_ |>.mpr ⟨a, ?_, ?_⟩)
  · intro b hb
    obtain ⟨hmem, hnot⟩ := mem_unknown.mp hb
    refine mem_unknown.mpr ⟨Or.inl (hmem.elim id fun h => hnodes h), fun hknown => hnot ?_⟩
    exact hmid (List.mem_append_left _ hknown)
  · obtain ⟨hmem, hnot⟩ := mem_fresh.mp ha
    exact mem_unknown.mpr ⟨Or.inr hmem, hnot⟩
  · exact fun h => (mem_unknown.mp h).2 (hmid (List.mem_append_right _ ha))

theorem search_isSome {nodes : List α} (hnodes : ∀ pass ∈ passes, ∀ l, pass.next l ⊆ nodes) :
    ∀ {depth : ℕ} (l known : List α), (unknown nodes l known).card < depth →
      (search passes depth l known).isSome = true := by
  intro depth
  induction depth with
  | zero => exact fun _ _ h => absurd h (Nat.not_lt_zero _)
  | succ depth ih =>
    intro l known hdepth
    unfold search
    by_cases hfresh : fresh l known = []
    · rw [if_pos hfresh]
      rfl
    · rw [if_neg hfresh]
      have hpasses : ∀ (todo : List (Pass α)) (mid : List α), todo ⊆ passes →
          known ++ fresh l known ⊆ mid → (todo.foldlM (fun mid pass =>
            search passes depth (pass.next (fresh l known)) mid) mid).isSome = true := by
        intro todo
        induction todo with
        | nil => exact fun _ _ _ => rfl
        | cons pass todo ihtodo =>
          intro mid htodo hmid
          rw [List.foldlM_cons]
          obtain ⟨hpass, hrest⟩ := List.cons_subset.mp htodo
          have hlt := card_unknown_lt hfresh (hnodes pass hpass (fresh l known)) hmid
          obtain ⟨mid', hsearch⟩ := Option.isSome_iff_exists.mp
            (ih (pass.next (fresh l known)) mid (by omega))
          rw [hsearch]
          exact ihtodo mid' hrest 
            (List.Subset.trans hmid (searched_of_search hsearch).keeps)
      exact hpasses passes _ (List.Subset.refl _) (List.Subset.refl _)

end ShopManager.Library.Search
