import ShopManager.Category.Place

/-!
# The tree of categories

The tree is complete if every category has its ancestors, its grade and `cid` are those of its
place, and the readers find it there.  It is so exactly if all categories are placed, and not
deeper than the search for the root goes.
-/

namespace ShopManager.Category

open Library Library.Text

/-! ## Ancestors -/

/-- The ancestors of a category, from its parent up to a root. -/
inductive Line (s : CategoryDb) : SaleCategory → List SaleCategory → Prop where
  | root {c : SaleCategory} (hroot : c.parentCid = rootId) : Line s c []
  | child {c p : SaleCategory} {ancestors : List SaleCategory} (hroot : c.parentCid ≠ rootId)
      (hp : p ∈ s.rows) (hnames : p.cid = c.parentCid) (h : Line s p ancestors) :
      Line s c (p :: ancestors)

def Shown (s : CategoryDb) (c : SaleCategory) : Prop :=
  ∃ ancestors, Line s c ancestors ∧ c.status = .normal ∧ ∀ a ∈ ancestors, a.status = .normal

/-- The `cid` that a category with these ancestors has. -/
def cidIn (c : SaleCategory) : List SaleCategory → String
  | [] => own c
  | p :: _ => p.cid ++ "-" ++ own c

/-- The tree of the normal categories is built within some depth of calls, and has every category
that is shown once, under its parent. -/
def Outlined (s : CategoryDb) : Prop :=
  ∃ nodes depth,
    (∀ depth', depth ≤ depth' →
      getSalecategoryJsonData (getNormalCategorys s) depth' = some nodes) ∧
    ((Outline.entries Values.cid rootId nodes).map Prod.snd).Nodup ∧
    ∀ parentCid values, (parentCid, values) ∈ Outline.entries Values.cid rootId nodes ↔
      ∃ c ∈ s.rows, Shown s c ∧ values = c.values ∧ parentCid = c.parentCid

structure Complete (s : CategoryDb) : Prop where
  grade : ∀ c ∈ s.rows, ∃ ancestors, Line s c ancestors ∧ c.grade = 1 + ancestors.length
  cid : ∀ c ∈ s.rows, ∀ ancestors, Line s c ancestors → c.cid = cidIn c ancestors
  distinct : (s.rows.rows.map SaleCategory.cid).Nodup
  json : Outlined s
  firstgrade : ∀ c ∈ s.rows, ∀ ancestors, Line s c ancestors →
    getFirstgradeCategory s c = some (ancestors.getLastD c)

variable {s : CategoryDb} {c : SaleCategory} {ancestors : List SaleCategory}

theorem Line.unique (hstored : Stored s) {ancestors' : List SaleCategory} (h : Line s c ancestors)
    (h' : Line s c ancestors') : ancestors = ancestors' := by
  induction h generalizing ancestors' with
  | root hroot =>
    cases h' with
    | root _ => rfl
    | child hroot' _ _ _ => exact absurd hroot hroot'
  | child hroot hp hnames _ ih =>
    cases h' with
    | root hroot' => exact absurd hroot' hroot
    | child _ hp' hnames' hline =>
      cases hstored.distinct _ hp _ hp' (hnames.trans hnames'.symm)
      rw [ih hline]

theorem climb_eq (hstored : Stored s) (hroot : s.byCid rootId = none)
    {p : SaleCategory} (h : Line s p ancestors) :
    ∀ turns, climb s turns p =
      if ancestors.length < turns then some (ancestors.getLastD p) else none := by
  induction h with
  | root hparent =>
    intro turns
    cases turns with
    | zero => rfl
    | succ turns =>
      unfold climb
      rw [hparent, hroot, List.length_nil, if_pos (Nat.zero_lt_succ turns)]
      rfl
  | child _ hp hnames _ ih =>
    intro turns
    cases turns with
    | zero => rfl
    | succ turns =>
      unfold climb
      rw [← hnames, hstored.byCid_eq hp]
      dsimp only
      rw [ih turns, List.length_cons, List.getLastD_cons]
      simp only [Nat.add_lt_add_iff_right]

theorem firstgrade_eq (hstored : Stored s) (hroot : s.byCid rootId = none) (h : Line s c ancestors)
    (hgrade : c.grade = 1 + ancestors.length) :
    getFirstgradeCategory s c =
      if c.grade ≤ deepest then some (ancestors.getLastD c) else none := by
  unfold getFirstgradeCategory
  cases h with
  | root _ =>
    have hfirst : c.grade = firstGrade := hgrade
    rw [if_pos hfirst, if_pos (hfirst.trans_le (by decide))]
    rfl
  | child hparent hp hnames hline =>
    rw [List.length_cons] at hgrade
    have hfirst : c.grade ≠ firstGrade := by
      unfold firstGrade
      omega
    rw [if_neg hfirst, ← hnames, hstored.byCid_eq hp]
    dsimp only
    rw [climb_eq hstored hroot hline, List.getLastD_cons]
    unfold deepest
    by_cases hlt : c.grade ≤ 11
    · rw [if_pos hlt, if_pos (by omega)]
    · rw [if_neg hlt, if_neg (by omega)]

theorem Grown.line (h : Grown s) :
    ∀ c ∈ s.rows, ∃ ancestors, Line s c ancestors ∧ c.grade = 1 + ancestors.length := by
  intro c hc
  induction hn : c.grade using Nat.strongRecOn generalizing c with
  | ind n ih =>
    cases h.placed c hc with
    | root hroot hgrade _ => exact ⟨[], .root hroot, hn ▸ hgrade⟩
    | below hroot p hp =>
      have hgrade := hp.grade
      obtain ⟨ancestors, hline, hlength⟩ := ih p.grade (by omega) p hp.mem rfl
      refine ⟨p :: ancestors, .child hroot hp.mem hp.names hline, ?_⟩
      rw [List.length_cons]
      omega

theorem Grown.cid_eq (hstored : Stored s) (h : Grown s)
    (hc : c ∈ s.rows) (hline : Line s c ancestors) :
    c.cid = cidIn c ancestors := by
  cases h.placed c hc with
  | root hroot _ hcid =>
    cases hline with
    | root _ => exact hcid
    | child hroot' _ _ _ => exact absurd hroot hroot'
  | below hroot p hp =>
    cases hline with
    | root hroot' => exact absurd hroot' hroot
    | child _ hp' hnames _ =>
      cases hstored.distinct _ hp.mem _ hp' (hp.names.trans hnames.symm)
      exact hp.cid

theorem Grown.byCid_root (hstored : Stored s) (h : Grown s) :
    s.byCid rootId = none :=
  Category.byCid_root hstored fun c hc => (h.placed c hc).named

def districts (s : CategoryDb) : List Values :=
  (sorted (getNormalCategorys s)).map SaleCategory.values

theorem mem_sorted {categories : List SaleCategory} :
    c ∈ sorted categories ↔ c ∈ categories :=
  (List.mergeSort_perm categories _).mem_iff

theorem mem_districts {v : Values} :
    v ∈ districts s ↔ ∃ c ∈ s.rows, c.status = .normal ∧ c.values = v := by
  unfold districts getNormalCategorys
  rw [List.mem_map]
  constructor
  · rintro ⟨c, hc, rfl⟩
    obtain ⟨hmem, hnormal⟩ := List.mem_filter.mp (mem_sorted.mp hc)
    exact ⟨c, hmem, of_decide_eq_true hnormal, rfl⟩
  · rintro ⟨c, hc, hnormal, rfl⟩
    exact ⟨c, mem_sorted.mpr (List.mem_filter.mpr ⟨hc, decide_eq_true hnormal⟩), rfl⟩

theorem nodup_districts (hstored : Stored s) : (districts s).Nodup := by
  unfold districts
  have hnodup : (sorted (getNormalCategorys s)).Nodup :=
    (List.mergeSort_perm _ _).nodup_iff.mpr (s.rows.nodup_rows.filter _)
  refine hnodup.map_on fun a ha b hb heq => ?_
  exact hstored.distinct a (List.mem_filter.mp (mem_sorted.mp ha)).1 b
    (List.mem_filter.mp (mem_sorted.mp hb)).1 (congrArg Values.cid heq)

theorem Grown.ranked (hstored : Stored s) (h : Grown s) :
    Outline.Ranked (districts s) Values.parentCid Values.cid Values.grade where
  keys := by
    intro v hv w hw heq
    obtain ⟨c, hc, _, rfl⟩ := mem_districts.mp hv
    obtain ⟨d, hd, _, rfl⟩ := mem_districts.mp hw
    rw [hstored.distinct c hc d hd heq]
  step := by
    intro v hv w hw heq
    obtain ⟨c, hc, _, rfl⟩ := mem_districts.mp hv
    obtain ⟨d, hd, _, rfl⟩ := mem_districts.mp hw
    have hnames : d.parentCid = c.cid := heq
    cases h.placed d hd with
    | root hroot _ _ =>
      exact absurd (hnames.symm.trans hroot) ((h.placed c hc).named.ne_root (hstored.ids c hc))
    | below _ p hp =>
      cases hstored.distinct p hp.mem c hc (hp.names.trans hnames)
      exact hp.grade
  level := by
    intro v hv w hw heq
    obtain ⟨c, hc, _, rfl⟩ := mem_districts.mp hv
    obtain ⟨d, hd, _, rfl⟩ := mem_districts.mp hw
    have hnames : c.parentCid = d.parentCid := heq
    change c.grade = d.grade
    cases h.placed c hc with
    | root hroot hgrade _ =>
      cases h.placed d hd with
      | root _ hgrade' _ => rw [hgrade, hgrade']
      | below hroot' _ _ => exact absurd (hnames.symm.trans hroot) hroot'
    | below hroot p hp =>
      cases h.placed d hd with
      | root hroot' _ _ => exact absurd (hnames.trans hroot') hroot
      | below _ q hq =>
        cases hstored.distinct p hp.mem q hq.mem
          (hp.names.trans (hnames.trans hq.names.symm))
        rw [hp.grade, hq.grade]

theorem shown_child (hstored : Stored s) (h : Grown s)
    (hc : c ∈ s.rows) (hnormal : c.status = .normal)
    (habove : c.parentCid = rootId ∨ ∃ p ∈ s.rows, Shown s p ∧ p.cid = c.parentCid) :
    Shown s c := by
  rcases habove with hroot | ⟨p, hp, ⟨ancestors, hline, hnormal', hancestors⟩, hnames⟩
  · exact ⟨[], .root hroot, hnormal, fun a ha => absurd ha List.not_mem_nil⟩
  · have hroot : c.parentCid ≠ rootId := by
      rw [← hnames]
      exact (h.placed p hp).named.ne_root (hstored.ids p hp)
    refine ⟨p :: ancestors, .child hroot hp hnames hline, hnormal, ?_⟩
    exact List.forall_mem_cons.mpr ⟨hnormal', hancestors⟩

theorem shown_of_under (hstored : Stored s) (h : Grown s) {k : String}
    {v : Values} (hunder : Outline.Under (districts s) Values.parentCid Values.cid k v)
    (hk : k = rootId ∨ ∃ p ∈ s.rows, Shown s p ∧ p.cid = k) :
    ∃ c ∈ s.rows, Shown s c ∧ c.values = v := by
  induction hunder with
  | here hv hup =>
    obtain ⟨c, hc, hnormal, rfl⟩ := mem_districts.mp hv
    have hparent : c.parentCid = _ := hup
    rw [← hparent] at hk
    exact ⟨c, hc, shown_child hstored h hc hnormal hk, rfl⟩
  | deeper hv hup _ ih =>
    obtain ⟨c, hc, hnormal, rfl⟩ := mem_districts.mp hv
    have hparent : c.parentCid = _ := hup
    rw [← hparent] at hk
    exact ih (Or.inr ⟨c, hc, shown_child hstored h hc hnormal hk, rfl⟩)

theorem under_of_line (hline : Line s c ancestors) (hc : c ∈ s.rows) (hnormal : c.status = .normal)
    (hancestors : ∀ a ∈ ancestors, a.status = .normal) :
    Outline.Under (districts s) Values.parentCid Values.cid rootId c.values := by
  induction hline with
  | root hroot => exact .here (mem_districts.mpr ⟨_, hc, hnormal, rfl⟩) hroot
  | child _ hp hnames _ ih =>
    obtain ⟨hnormal', hancestors⟩ := List.forall_mem_cons.mp hancestors
    exact (ih hp hnormal' hancestors).child (mem_districts.mpr ⟨_, hc, hnormal, rfl⟩) hnames.symm

theorem Grown.outlined (hstored : Stored s) (h : Grown s) : Outlined s := by
  have hranked := h.ranked hstored
  have hbuilt : (Outline.build (districts s) Values.parentCid Values.cid (deepest + 1)
      rootId).isSome := by
    have hmost : ∀ v ∈ districts s, v.grade ≤ deepest := by
      intro v hv
      obtain ⟨c, hc, _, rfl⟩ := mem_districts.mp hv
      exact h.depth c hc
    refine hranked.build_isSome hmost (Nat.succ_pos _) fun v hv _ => ?_
    obtain ⟨c, hc, _, rfl⟩ := mem_districts.mp hv
    have hpos : 0 < c.values.grade := h.grade_pos hc
    omega
  obtain ⟨nodes, hnodes⟩ := Option.isSome_iff_exists.mp hbuilt
  refine ⟨nodes, deepest + 1, fun depth' hle => Outline.build_of_le hle hnodes, ?_, ?_⟩
  · rw [Outline.entries_build hnodes]
    exact hranked.nodup_listing (nodup_districts hstored)
  · intro parentCid v
    rw [Outline.entries_build hnodes, Outline.mem_listing_iff hbuilt]
    constructor
    · rintro ⟨rfl, hunder⟩
      obtain ⟨c, hc, hshown, rfl⟩ := shown_of_under hstored h hunder (Or.inl rfl)
      exact ⟨c, hc, hshown, rfl, rfl⟩
    · rintro ⟨c, hc, ⟨ancestors, hline, hnormal, hancestors⟩, rfl, rfl⟩
      exact ⟨rfl, under_of_line hline hc hnormal hancestors⟩

theorem Grown.complete (hstored : Stored s) (h : Grown s) : Complete s where
  grade := h.line
  cid c hc ancestors hline := h.cid_eq hstored hc hline
  distinct := s.rows.nodup_rows.map_on fun a ha b hb heq => hstored.distinct a ha b hb heq
  json := h.outlined hstored
  firstgrade c hc ancestors hline := by
    obtain ⟨ancestors', hline', hgrade⟩ := h.line c hc
    cases hline.unique hstored hline'
    rw [firstgrade_eq hstored (h.byCid_root hstored) hline hgrade, if_pos (h.depth c hc)]

theorem Complete.named (h : Complete s) (hc : c ∈ s.rows) :
    Named c := by
  obtain ⟨ancestors, hline, _⟩ := h.grade c hc
  have hcid := h.cid c hc ancestors hline
  cases ancestors with
  | nil => exact Or.inl hcid
  | cons p ancestors => exact Or.inr ⟨p.cid, hcid⟩

theorem Complete.placed (hstored : Stored s) (h : Complete s) (hc : c ∈ s.rows) : Placed s c := by
  obtain ⟨ancestors, hline, hgrade⟩ := h.grade c hc
  have hcid := h.cid c hc ancestors hline
  cases hline with
  | root hroot => exact .root hroot hgrade hcid
  | child hroot hp hnames hline =>
    obtain ⟨ancestors', hline', hgrade'⟩ := h.grade _ hp
    cases hline.unique hstored hline'
    refine .below hroot _ ⟨hp, hnames, ?_, hcid⟩
    rw [List.length_cons] at hgrade
    omega

theorem complete_iff_grown (hstored : Stored s) : Complete s ↔ Grown s := by
  constructor
  · intro h
    refine ⟨fun c hc => h.placed hstored hc, fun c hc => ?_⟩
    obtain ⟨ancestors, hline, hgrade⟩ := h.grade c hc
    have hfirst := h.firstgrade c hc ancestors hline
    rw [firstgrade_eq hstored (byCid_root hstored fun d hd => h.named hd) hline hgrade] at hfirst
    by_contra hdeep
    rw [if_neg hdeep] at hfirst
    exact absurd hfirst (by simp)
  · exact fun h => h.complete hstored

end ShopManager.Category
