import Mathlib.Data.List.Nodup

/-!
# Outlines

Rows that name the row above them by its key are written down as a tree, from a key downwards.
Where the rows have ranks, one more than that of the row above, each row under the key is written
once.
-/

namespace ShopManager.Library.Outline

inductive Node (α : Type) where
  | mk (item : α) (childs : List (Node α))

variable {α κ : Type} {rows : List α} {up key : α → κ} {k : κ} {a b d : α} {fuel : ℕ}

mutual

/-- The items of a tree, each with the key above it. -/
def Node.entries (key : α → κ) (k : κ) : Node α → List (κ × α)
  | .mk item childs => (k, item) :: entries key (key item) childs

def entries (key : α → κ) (k : κ) : List (Node α) → List (κ × α)
  | [] => []
  | node :: nodes => Node.entries key k node ++ entries key k nodes

end

section Build

variable [DecidableEq κ]

/-- The trees of the rows under a key, as far down as the fuel lasts. -/
def build (rows : List α) (up key : α → κ) : ℕ → κ → Option (List (Node α))
  | 0, _ => none
  | fuel + 1, k => (rows.filter fun a => up a = k).mapM fun a =>
      (build rows up key fuel (key a)).map (Node.mk a)

/-- The rows under a key, in the order of the trees. -/
def listing (rows : List α) (up key : α → κ) : ℕ → κ → List (κ × α)
  | 0, _ => []
  | fuel + 1, k => (rows.filter fun a => up a = k).flatMap fun a =>
      (k, a) :: listing rows up key fuel (key a)

/-- `d` is under the key `k`. -/
inductive Under (rows : List α) (up key : α → κ) : κ → α → Prop where
  | here {k : κ} {d : α} (hd : d ∈ rows) (hup : up d = k) : Under rows up key k d
  | deeper {k : κ} {a d : α} (ha : a ∈ rows) (hup : up a = k) (h : Under rows up key (key a) d) :
      Under rows up key k d

theorem mapM_eq_some_cons {β : Type} {f : α → Option β} {as : List α} {bs : List β} :
    (a :: as).mapM f = some bs ↔ ∃ b bs', f a = some b ∧ as.mapM f = some bs' ∧ bs = b :: bs' := by
  rw [List.mapM_cons]
  cases f a with
  | none => simp
  | some b =>
    cases as.mapM f with
    | none => simp
    | some bs' => simp [eq_comm]

theorem mapM_isSome_iff {β : Type} {f : α → Option β} {as : List α} :
    (as.mapM f).isSome ↔ ∀ a ∈ as, (f a).isSome := by
  induction as with
  | nil => simp
  | cons a as ih =>
    rw [List.mapM_cons, List.forall_mem_cons, ← ih]
    cases f a with
    | none => simp
    | some b =>
      cases as.mapM f with
      | none => simp
      | some bs => simp

theorem entries_build {nodes : List (Node α)} (h : build rows up key fuel k = some nodes) :
    entries key k nodes = listing rows up key fuel k := by
  induction fuel generalizing k nodes with
  | zero => exact absurd h (by simp [build])
  | succ fuel ih =>
    unfold build at h
    unfold listing
    generalize (rows.filter fun a => up a = k) = childs at h ⊢
    induction childs generalizing nodes with
    | nil =>
      rw [List.mapM_nil] at h
      rw [← Option.some.inj h]
      rfl
    | cons a childs ihchilds =>
      obtain ⟨node, nodes', hnode, hnodes, rfl⟩ := mapM_eq_some_cons.mp h
      obtain ⟨below, hbelow, rfl⟩ := Option.map_eq_some_iff.mp hnode
      rw [entries, Node.entries, ih hbelow, ihchilds hnodes, List.flatMap_cons]

omit [DecidableEq κ] in
theorem mem_of_under (h : Under rows up key k d) : d ∈ rows := by
  induction h with
  | here hd _ => exact hd
  | deeper _ _ _ ih => exact ih

omit [DecidableEq κ] in
theorem Under.child (h : Under rows up key k a) (hd : d ∈ rows) (hup : up d = key a) :
    Under rows up key k d := by
  induction h with
  | here ha hupa => exact .deeper ha hupa (.here hd hup)
  | deeper hb hupb _ ih => exact .deeper hb hupb (ih hup)

theorem under_of_mem_listing {x : κ} (h : (x, d) ∈ listing rows up key fuel k) :
    x = up d ∧ Under rows up key k d := by
  induction fuel generalizing k with
  | zero => exact absurd h List.not_mem_nil
  | succ fuel ih =>
    unfold listing at h
    obtain ⟨a, hchild, hmem⟩ := List.mem_flatMap.mp h
    obtain ⟨ha, hup⟩ := List.mem_filter.mp hchild
    rcases List.mem_cons.mp hmem with heq | hmem
    · obtain ⟨rfl, rfl⟩ := Prod.mk.inj heq
      exact ⟨(of_decide_eq_true hup).symm, .here ha (of_decide_eq_true hup)⟩
    · obtain ⟨hx, hunder⟩ := ih hmem
      exact ⟨hx, .deeper ha (of_decide_eq_true hup) hunder⟩

theorem mem_listing_of_under (hunder : Under rows up key k d)
    (h : (build rows up key fuel k).isSome) : (up d, d) ∈ listing rows up key fuel k := by
  induction hunder generalizing fuel with
  | here hd hup =>
    cases fuel with
    | zero => exact absurd h (by simp [build])
    | succ fuel =>
      unfold listing
      refine List.mem_flatMap.mpr ⟨_, List.mem_filter.mpr ⟨hd, ?_⟩, ?_⟩
      · exact decide_eq_true hup
      · rw [hup]
        exact List.mem_cons_self
  | deeper ha hup _ ih =>
    cases fuel with
    | zero => exact absurd h (by simp [build])
    | succ fuel =>
      unfold build at h
      have hmem : _ ∈ rows.filter fun a => up a = _ :=
        List.mem_filter.mpr ⟨ha, decide_eq_true hup⟩
      have hbelow := mapM_isSome_iff.mp h _ hmem
      rw [Option.isSome_map] at hbelow
      unfold listing
      exact List.mem_flatMap.mpr ⟨_, hmem, List.mem_cons_of_mem _ (ih hbelow)⟩

theorem mem_listing_iff {x : κ} (h : (build rows up key fuel k).isSome) :
    (x, d) ∈ listing rows up key fuel k ↔ x = up d ∧ Under rows up key k d := by
  constructor
  · exact under_of_mem_listing
  · rintro ⟨rfl, hunder⟩
    exact mem_listing_of_under hunder h

end Build

/-! ## Ranks -/

/-- Keys are different, and each row has one rank more than the row above it. -/
structure Ranked (rows : List α) (up key : α → κ) (rank : α → ℕ) : Prop where
  keys : ∀ a ∈ rows, ∀ b ∈ rows, key a = key b → a = b
  step : ∀ a ∈ rows, ∀ b ∈ rows, up b = key a → rank b = rank a + 1
  level : ∀ a ∈ rows, ∀ b ∈ rows, up a = up b → rank a = rank b

variable {rank : α → ℕ}

theorem under_key_cases (h : Under rows up key (key a) d) (ha : a ∈ rows) :
    ∃ p ∈ rows, up d = key p ∧ (p = a ∨ Under rows up key (key a) p) := by
  generalize hk : key a = k at h
  induction h generalizing a with
  | here _ hup => exact ⟨a, ha, hup.trans hk.symm, Or.inl rfl⟩
  | deeper hb hup _ ih =>
    obtain ⟨p, hp, hupd, rfl | hunder⟩ := ih hb rfl
    · exact ⟨p, hp, hupd, Or.inr (.here hp hup)⟩
    · exact ⟨p, hp, hupd, Or.inr (.deeper hb hup hunder)⟩

theorem Ranked.lt_of_under (h : Ranked rows up key rank) (hunder : Under rows up key (key a) d)
    (ha : a ∈ rows) : rank a < rank d := by
  generalize hk : key a = k at hunder
  induction hunder generalizing a with
  | here hd hup =>
    rw [h.step a ha _ hd (hup.trans hk.symm)]
    exact Nat.lt_succ_self _
  | deeper hb hup _ ih =>
    have hstep := h.step a ha _ hb (hup.trans hk.symm)
    have hlt := ih hb rfl
    omega

theorem Ranked.eq_of_under (h : Ranked rows up key rank) (ha : a ∈ rows) (hb : b ∈ rows)
    (hrank : rank a = rank b) (hunder : Under rows up key (key a) d)
    (hunder' : Under rows up key (key b) d) : a = b := by
  induction hn : rank d using Nat.strongRecOn generalizing d with
  | _ n ih =>
    obtain ⟨p, hp, hup, hpa⟩ := under_key_cases hunder ha
    obtain ⟨q, hq, hup', hqb⟩ := under_key_cases hunder' hb
    have hpq : p = q := h.keys p hp q hq (hup.symm.trans hup')
    subst hpq
    have hlt : rank p < n := by
      have hstep := h.step p hp d (mem_of_under hunder) hup
      omega
    rcases hpa with rfl | hpa
    · rcases hqb with rfl | hqb
      · rfl
      · exact absurd (h.lt_of_under hqb hb) (by omega)
    · rcases hqb with rfl | hqb
      · exact absurd (h.lt_of_under hpa ha) (by omega)
      · exact ih (rank p) hlt hpa hqb rfl

variable [DecidableEq κ]

theorem Ranked.nodup_listing (h : Ranked rows up key rank) (hrows : rows.Nodup) :
    ((listing rows up key fuel k).map Prod.snd).Nodup := by
  induction fuel generalizing k with
  | zero => exact List.nodup_nil
  | succ fuel ih =>
    unfold listing
    rw [List.map_flatMap, List.nodup_flatMap]
    have hunder : ∀ {a d : α}, d ∈ (listing rows up key fuel (key a)).map Prod.snd →
        Under rows up key (key a) d := by
      intro a d hd
      obtain ⟨entry, hentry, rfl⟩ := List.mem_map.mp hd
      exact (under_of_mem_listing hentry).2
    constructor
    · intro a ha
      rw [List.map_cons, List.nodup_cons]
      refine ⟨fun hmem => ?_, ih⟩
      exact absurd (h.lt_of_under (hunder hmem) (List.mem_filter.mp ha).1) (Nat.lt_irrefl _)
    · refine List.Nodup.pairwise_of_forall_ne (hrows.filter _) ?_
      intro a ha b hb hne d hda hdb
      obtain ⟨ha, hupa⟩ := List.mem_filter.mp ha
      obtain ⟨hb, hupb⟩ := List.mem_filter.mp hb
      have hrank := h.level a ha b hb
        ((of_decide_eq_true hupa).trans (of_decide_eq_true hupb).symm)
      dsimp only at hda hdb
      rw [List.map_cons] at hda hdb
      rcases List.mem_cons.mp hda with rfl | hda
      · rcases List.mem_cons.mp hdb with rfl | hdb
        · exact hne rfl
        · exact absurd (h.lt_of_under (hunder hdb) hb) (by omega)
      · rcases List.mem_cons.mp hdb with rfl | hdb
        · exact absurd (h.lt_of_under (hunder hda) ha) (by omega)
        · exact hne (h.eq_of_under ha hb hrank (hunder hda) (hunder hdb))

theorem Ranked.build_isSome (h : Ranked rows up key rank) {most : ℕ}
    (hmost : ∀ a ∈ rows, rank a ≤ most) (hpos : 0 < fuel)
    (hfuel : ∀ a ∈ rows, up a = k → most + 1 < rank a + fuel) :
    (build rows up key fuel k).isSome := by
  induction fuel generalizing k with
  | zero => exact absurd hpos (Nat.lt_irrefl 0)
  | succ fuel ih =>
    unfold build
    refine mapM_isSome_iff.mpr fun a ha => ?_
    obtain ⟨ha, hup⟩ := List.mem_filter.mp ha
    have hlt := hfuel a ha (of_decide_eq_true hup)
    have hle := hmost a ha
    rw [Option.isSome_map]
    refine ih (by omega) fun b hb hupb => ?_
    rw [h.step a ha b hb hupb]
    omega

theorem build_mono {nodes : List (Node α)} (h : build rows up key fuel k = some nodes) :
    build rows up key (fuel + 1) k = some nodes := by
  induction fuel generalizing k nodes with
  | zero => exact absurd h (by simp [build])
  | succ fuel ih =>
    unfold build at h ⊢
    generalize (rows.filter fun a => up a = k) = childs at h ⊢
    induction childs generalizing nodes with
    | nil => exact h
    | cons a childs ihchilds =>
      obtain ⟨node, nodes', hnode, hnodes, rfl⟩ := mapM_eq_some_cons.mp h
      obtain ⟨below, hbelow, rfl⟩ := Option.map_eq_some_iff.mp hnode
      refine mapM_eq_some_cons.mpr ⟨_, nodes', ?_, ihchilds hnodes, rfl⟩
      rw [ih hbelow]
      rfl

theorem build_of_le {nodes : List (Node α)} {fuel' : ℕ} (hle : fuel ≤ fuel')
    (h : build rows up key fuel k = some nodes) : build rows up key fuel' k = some nodes := by
  obtain ⟨extra, rfl⟩ := Nat.exists_eq_add_of_le hle
  induction extra with
  | zero => exact h
  | succ extra ih => exact build_mono (ih (Nat.le_add_right fuel extra))

end ShopManager.Library.Outline
