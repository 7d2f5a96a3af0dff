import ShopManager.Category.Model

/-!
# The place of a category

A category is placed if its `cid` and its grade are those that its parent gives it.  Saving a
category places it anew; what names it as parent is not touched.
-/

namespace ShopManager.Category

open Library Library.Tx Library.Text Library.Execution

/-! ## What the table keeps -/

structure Stored (s : CategoryDb) : Prop where
  ids : ∀ c ∈ s.rows, 0 < c.id
  lengths : ∀ c ∈ s.rows, c.cid.length ≤ cidLength
  distinct : ∀ a ∈ s.rows, ∀ b ∈ s.rows, a.cid = b.cid → a = b

def cut (cid : String) : String :=
  if cid.length ≤ cidLength then cid else String.ofList (cid.toList.take cidLength)

/-- The database does not take the `cid`: it is too long, or another category has it. -/
def Refused (s : CategoryDb) (cid : String) (id : Nat) : Prop :=
  (s.strict = true ∧ cidLength < cid.length) ∨ Taken s (cut cid) id

instance (s : CategoryDb) (cid : String) (id : Nat) : Decidable (Refused s cid id) :=
  inferInstanceAs (Decidable (_ ∨ _))

theorem cut_of_le {cid : String} (h : cid.length ≤ cidLength) : cut cid = cid := if_pos h

theorem length_cut (cid : String) : (cut cid).length ≤ cidLength := by
  unfold cut
  split
  · assumption
  · rw [← String.length_toList, String.toList_ofList, List.length_take]
    exact Nat.min_le_left _ _

theorem le_of_cut_eq {cid : String} (h : cut cid = cid) : cid.length ≤ cidLength :=
  h ▸ length_cut cid

theorem column_eq (strict : Bool) (cid : String) :
    column strict cid =
      if strict = true ∧ cidLength < cid.length then .error .dataError else .ok (cut cid) := by
  unfold column cut
  by_cases hlen : cid.length ≤ cidLength
  · rw [if_pos hlen, if_neg (by omega), if_pos hlen]
  · rw [if_neg hlen, if_neg hlen]
    cases strict with
    | false => rfl
    | true => simp [Nat.lt_of_not_le hlen]

theorem update_exec (self : SaleCategory) (s : CategoryDb) :
    ((update self).run s).2 =
      if Refused s self.cid self.id then s
      else { s with rows := s.rows.save { self with cid := cut self.cid } } := by
  unfold update
  rw [gets_bind_run, ofExcept_bind_run, id_eq, column_eq]
  by_cases hstrict : s.strict = true ∧ cidLength < self.cid.length
  · rw [if_pos hstrict, if_pos (show Refused s self.cid self.id from Or.inl hstrict)]
  · rw [if_neg hstrict]
    dsimp only
    rw [raiseIf_bind_run]
    by_cases htaken : Taken s (cut self.cid) self.id
    · rw [if_pos htaken, if_pos (show Refused s self.cid self.id from Or.inr htaken)]
    · have hrefused : ¬ Refused s self.cid self.id := not_or.mpr ⟨hstrict, htaken⟩
      rw [if_neg htaken, if_neg hrefused]
      rfl

theorem insert_exec (self : SaleCategory) (s : CategoryDb) :
    ((insert self).run s).2 =
      if Refused s self.cid s.rows.nextId then s
      else { s with rows := s.rows.insert { self with cid := cut self.cid } } := by
  unfold insert
  rw [gets_bind_run, ofExcept_bind_run, id_eq, column_eq]
  by_cases hstrict : s.strict = true ∧ cidLength < self.cid.length
  · rw [if_pos hstrict, if_pos (show Refused s self.cid s.rows.nextId from Or.inl hstrict)]
  · rw [if_neg hstrict]
    dsimp only
    rw [raiseIf_bind_run]
    by_cases htaken : Taken s (cut self.cid) s.rows.nextId
    · rw [if_pos htaken, if_pos (show Refused s self.cid s.rows.nextId from Or.inr htaken)]
    · have hrefused : ¬ Refused s self.cid s.rows.nextId := not_or.mpr ⟨hstrict, htaken⟩
      rw [if_neg htaken, if_neg hrefused]
      rfl

variable {s : CategoryDb}

theorem Stored.write {s' : CategoryDb} (h : Stored s) {r : SaleCategory} (hid : 0 < r.id)
    (hcid : ∃ cid, r.cid = cut cid) (htaken : ¬ Taken s r.cid r.id)
    (hrows : ∀ c ∈ s'.rows, c = r ∨ (c ∈ s.rows ∧ c.id ≠ r.id)) : Stored s' where
  ids c hc := by
    rcases hrows c hc with rfl | ⟨hmem, _⟩
    · exact hid
    · exact h.ids c hmem
  lengths c hc := by
    rcases hrows c hc with rfl | ⟨hmem, _⟩
    · obtain ⟨cid, hcid⟩ := hcid
      exact hcid ▸ length_cut cid
    · exact h.lengths c hmem
  distinct a ha b hb heq := by
    rcases hrows a ha with rfl | ⟨hmem, hne⟩
    · rcases hrows b hb with rfl | ⟨hmem', hne'⟩
      · rfl
      · exact absurd ⟨b, hmem', heq.symm, hne'⟩ htaken
    · rcases hrows b hb with rfl | ⟨hmem', _⟩
      · exact absurd ⟨a, hmem, heq, hne⟩ htaken
      · exact h.distinct a hmem b hmem' heq

theorem stored_update (h : Stored s) {self : SaleCategory} (hid : 0 < self.id) :
    Stored ((update self).run s).2 := by
  rw [update_exec]
  split
  · exact h
  · next hrefused =>
      refine h.write (r := { self with cid := cut self.cid }) hid ⟨self.cid, rfl⟩ ?_ ?_
      · exact (not_or.mp hrefused).2
      · exact fun c hc => Table.mem_save hc

theorem stored_insert (h : Stored s) (self : SaleCategory) :
    Stored ((insert self).run s).2 := by
  rw [insert_exec]
  split
  · exact h
  · next hrefused =>
      refine h.write (r := s.rows.stored { self with cid := cut self.cid }) ?_ ⟨self.cid, rfl⟩
        ?_ ?_
      · exact Nat.succ_pos _
      · exact (not_or.mp hrefused).2
      · intro c hc
        rcases Table.mem_insert.mp hc with hmem | rfl
        · exact Or.inr ⟨hmem, Nat.ne_of_lt (Table.pk_lt_nextId hmem)⟩
        · exact Or.inl rfl

/-- The last part of a `cid`: the default `cid` of the category. -/
def own (c : SaleCategory) : String := toString c.id

structure BelowParent (s : CategoryDb) (c : SaleCategory) (p : SaleCategory) : Prop where
  mem : p ∈ s.rows
  names : p.cid = c.parentCid
  grade : c.grade = p.grade + 1
  cid : c.cid = p.cid ++ "-" ++ own c

/-- The grade and the `cid` are those of the place that `parent_cid` names. -/
inductive Placed (s : CategoryDb) (c : SaleCategory) : Prop where
  | root (hroot : c.parentCid = rootId) (hgrade : c.grade = firstGrade) (hcid : c.cid = own c)
  | below (hroot : c.parentCid ≠ rootId) (p : SaleCategory) (h : BelowParent s c p)

/-- As far down as the loop of `get_firstgrade_category` climbs up. -/
def deepest : Nat := 11

structure Grown (s : CategoryDb) : Prop where
  placed : ∀ c ∈ s.rows, Placed s c
  depth : ∀ c ∈ s.rows, c.grade ≤ deepest

theorem free_own (c : SaleCategory) : Key.Free '-' (own c) := Key.free_toString (by decide) c.id

theorem dash_eq : "-" = String.singleton '-' := rfl

/-- A `cid` that ends with the own part of its category. -/
def Named (c : SaleCategory) : Prop := c.cid = own c ∨ ∃ x, c.cid = x ++ "-" ++ own c

variable {c : SaleCategory}

theorem Placed.named (h : Placed s c) : Named c := by
  cases h with
  | root _ _ hcid => exact Or.inl hcid
  | below _ p h => exact Or.inr ⟨p.cid, h.cid⟩

theorem Named.lastPart (h : Named c) : lastPart '-' c.cid = own c := by
  rcases h with h | ⟨x, h⟩
  · rw [h, lastPart_free (free_own c)]
  · rw [h, dash_eq, lastPart_append x (free_own c)]

theorem Named.id_eq {a b : SaleCategory} (ha : Named a) (hb : Named b) (h : a.cid = b.cid) :
    a.id = b.id := by
  have hown : own a = own b := by rw [← ha.lastPart, h, hb.lastPart]
  exact Key.toString_inj.mp hown

theorem Named.ne_root (h : Named c) (hid : 0 < c.id) : c.cid ≠ rootId := by
  intro hroot
  have hlast := h.lastPart
  rw [hroot, show Text.lastPart '-' rootId = toString 0 from by decide] at hlast
  exact absurd (Key.toString_inj.mp hlast) (by omega)

theorem own_ne_empty (c : SaleCategory) : (own c).toList ≠ [] := by
  unfold own
  rw [toList_toString]
  exact Nat.toDigits_ne_nil

theorem Named.getLast_ne (h : Named c) : c.cid.toList.getLast? ≠ some '-' := by
  have hown : (own c).toList.getLast? ≠ some '-' :=
    fun hlast => free_own c (List.mem_of_getLast? hlast)
  rcases h with h | ⟨x, h⟩
  · rw [h]
    exact hown
  · rw [h, String.toList_append, List.getLast?_append_of_ne_nil _ (own_ne_empty c)]
    exact hown

theorem head_append_of_ne_nil {x y : List Char} (h : x ≠ []) : (x ++ y).head? = x.head? := by
  cases x with
  | nil => exact absurd rfl h
  | cons a x => rfl

theorem Grown.head_ne (h : Grown s) :
    ∀ c ∈ s.rows, c.cid.toList ≠ [] ∧ c.cid.toList.head? ≠ some '-' := by
  intro c hc
  induction hn : c.grade using Nat.strongRecOn generalizing c with
  | ind n ih =>
    cases h.placed c hc with
    | root _ _ hcid =>
      rw [hcid]
      exact ⟨own_ne_empty c, fun hhead => free_own c (List.mem_of_head? hhead)⟩
    | below _ p hp =>
      have hgrade := hp.grade
      obtain ⟨hne, hhead⟩ := ih p.grade (by omega) p hp.mem rfl
      rw [hp.cid, String.toList_append, String.toList_append, List.append_assoc]
      refine ⟨fun hnil => hne (List.append_eq_nil_iff.mp hnil).1, ?_⟩
      rw [head_append_of_ne_nil hne]
      exact hhead

theorem Grown.cidBelow_eq (h : Grown s) {p : SaleCategory} (hp : p ∈ s.rows)
    (part : String) : cidBelow p part = p.cid ++ "-" ++ part := by
  unfold cidBelow
  rw [strip_of_ends (h.head_ne p hp).2 (h.placed p hp).named.getLast_ne]

theorem Grown.grade_pos (h : Grown s) (hc : c ∈ s.rows) :
    0 < c.grade := by
  cases h.placed c hc with
  | root _ hgrade _ =>
    rw [hgrade]
    exact Nat.one_pos
  | below _ p hp =>
    rw [hp.grade]
    exact Nat.succ_pos _

theorem byCid_eq_some {cid : String} (h : s.byCid cid = some c) :
    c ∈ s.rows ∧ c.cid = cid := by
  have hcid := Table.first_spec h
  exact ⟨Table.mem_of_first h, of_decide_eq_true hcid⟩

theorem Stored.byCid_eq (h : Stored s) (hc : c ∈ s.rows) :
    s.byCid c.cid = some c := by
  cases hfound : s.byCid c.cid with
  | none =>
    have hnone := Table.first_eq_none.mp hfound c hc
    exact absurd rfl (of_decide_eq_false hnone)
  | some d =>
    obtain ⟨hmem, hcid⟩ := byCid_eq_some hfound
    rw [h.distinct d hmem c hc hcid]

theorem byCid_root (hstored : Stored s) (hnamed : ∀ c ∈ s.rows, Named c) :
    s.byCid rootId = none := by
  cases hfound : s.byCid rootId with
  | none => rfl
  | some d =>
    obtain ⟨hmem, hcid⟩ := byCid_eq_some hfound
    exact absurd hcid ((hnamed d hmem).ne_root (hstored.ids d hmem))

theorem Placed.mono {s' : CategoryDb} (h : Placed s c)
    (hparent : ∀ p ∈ s.rows, p.cid = c.parentCid →
      ∃ p' ∈ s'.rows, p'.cid = p.cid ∧ p'.grade = p.grade) : Placed s' c := by
  cases h with
  | root hroot hgrade hcid => exact .root hroot hgrade hcid
  | below hroot p hp =>
    obtain ⟨p', hmem, hcid, hgrade⟩ := hparent p hp.mem hp.names
    refine .below hroot p' ⟨hmem, hcid.trans hp.names, ?_, ?_⟩
    · rw [hgrade]
      exact hp.grade
    · rw [hcid]
      exact hp.cid

structure SamePlace (a b : SaleCategory) : Prop where
  id : a.id = b.id
  cid : a.cid = b.cid
  parentCid : a.parentCid = b.parentCid
  grade : a.grade = b.grade

theorem Placed.of_same {a b : SaleCategory} (h : Placed s b)
    (hsame : SamePlace a b) : Placed s a := by
  have hown : own a = own b := congrArg toString hsame.id
  cases h with
  | root hroot hgrade hcid =>
    refine .root (hsame.parentCid.trans hroot) (hsame.grade.trans hgrade) ?_
    rw [hsame.cid, hcid, hown]
  | below hroot p hp =>
    refine .below (by rw [hsame.parentCid]; exact hroot) p ⟨hp.mem, ?_, ?_, ?_⟩
    · rw [hsame.parentCid, hp.names]
    · rw [hsame.grade, hp.grade]
    · rw [hsame.cid, hp.cid, hown]

def CategoryDb.saved (s : CategoryDb) (r : SaleCategory) : CategoryDb :=
  { s with rows := s.rows.save r }

theorem mem_saved {r d : SaleCategory} (hc : c ∈ s.rows) (hid : c.id = r.id) :
    d ∈ (s.saved r).rows ↔ d = r ∨ (d ∈ s.rows ∧ d.id ≠ r.id) :=
  Table.mem_save_iff hc hid

theorem Grown.saved_same (h : Grown s) {r : SaleCategory} (hc : c ∈ s.rows)
    (hsame : SamePlace r c) : Grown (s.saved r) := by
  have hmem : ∀ {d : SaleCategory}, d ∈ (s.saved r).rows ↔ d = r ∨ (d ∈ s.rows ∧ d.id ≠ r.id) :=
    mem_saved hc hsame.id.symm
  have hparents : ∀ p ∈ s.rows, ∃ p' ∈ (s.saved r).rows, p'.cid = p.cid ∧ p'.grade = p.grade := by
    intro p hp
    by_cases hid : p.id = r.id
    · have hpc : p = c := Table.pk_inj hp hc (hid.trans hsame.id)
      exact ⟨r, hmem.mpr (Or.inl rfl), by rw [hsame.cid, hpc], by rw [hsame.grade, hpc]⟩
    · exact ⟨p, hmem.mpr (Or.inr ⟨hp, hid⟩), rfl, rfl⟩
  constructor
  · intro d hd
    rcases hmem.mp hd with rfl | ⟨hd, _⟩
    · exact ((h.placed c hc).of_same hsame).mono fun p hp _ => hparents p hp
    · exact (h.placed d hd).mono fun p hp _ => hparents p hp
  · intro d hd
    rcases hmem.mp hd with rfl | ⟨hd, _⟩
    · rw [hsame.grade]
      exact h.depth c hc
    · exact h.depth d hd

/-- No category names `c` as its parent. -/
def Childless (s : CategoryDb) (c : SaleCategory) : Prop :=
  ∀ d ∈ s.rows.rows, d.parentCid ≠ c.cid

instance (s : CategoryDb) (c : SaleCategory) : Decidable (Childless s c) :=
  inferInstanceAs (Decidable (∀ d ∈ s.rows.rows, _))

theorem Grown.saved_below (h : Grown s) {r p : SaleCategory} (hc : c ∈ s.rows)
    (hid : r.id = c.id) (hchildless : Childless s c) (hroot : r.parentCid ≠ rootId)
    (hp : BelowParent s r p) (hpc : p.id ≠ c.id) (hdepth : p.grade < deepest) :
    Grown (s.saved r) := by
  have hmem : ∀ {d : SaleCategory}, d ∈ (s.saved r).rows ↔ d = r ∨ (d ∈ s.rows ∧ d.id ≠ r.id) :=
    mem_saved hc hid.symm
  constructor
  · intro d hd
    rcases hmem.mp hd with rfl | ⟨hd, _⟩
    · have hpmem : p ∈ (s.saved d).rows := hmem.mpr (Or.inr ⟨hp.mem, hid ▸ hpc⟩)
      exact .below hroot p { hp with mem := hpmem }
    · refine (h.placed d hd).mono fun q hq hnames => ⟨q, hmem.mpr (Or.inr ⟨hq, ?_⟩), rfl, rfl⟩
      intro hqid
      have hqc : q = c := Table.pk_inj hq hc (hqid.trans hid)
      exact hchildless d hd (by rw [← hnames, hqc])
  · intro d hd
    rcases hmem.mp hd with rfl | ⟨hd, _⟩
    · rw [hp.grade]
      exact hdepth
    · exact h.depth d hd

end ShopManager.Category
