import ShopManager.Category.Complete

/-!
# Which moves keep the tree

A save places one category anew.  That repairs the tree if nothing names the category by the
`cid` it had, and if the new place is one that `save` writes: below another category.
-/

namespace ShopManager.Category

open Library Library.Tx Library.Text Library.Execution

/-! ## The condition -/

/-- The `cid` of the category with the key `id` below `p`. -/
def cidUnder (p : SaleCategory) (id : Nat) : String := p.cid ++ "-" ++ toString id

/-- A new category is refused, or its `cid` is not cut off and the loop climbs up from it. -/
def CreateFits (s : CategoryDb) (parentCid : String) : Prop :=
  if parentCid = rootId then
    Refused s (toString s.rows.nextId) s.rows.nextId ∨
      (toString s.rows.nextId).length ≤ cidLength
  else
    ∀ p ∈ s.byCid parentCid, Refused s (cidUnder p s.rows.nextId) s.rows.nextId ∨
      (p.grade < deepest ∧ (cidUnder p s.rows.nextId).length ≤ cidLength)

/-- A category that gets another parent has no children, and does not become a root. -/
def MoveFits (s : CategoryDb) (id : Nat) (parentCid : String) : Prop :=
  ∀ c ∈ s.rows.get? id, parentCid = c.parentCid ∨
    (parentCid ≠ rootId ∧ ∀ p ∈ s.byCid parentCid, Refused s (cidUnder p c.id) c.id ∨
      (p.id ≠ c.id ∧ Childless s c ∧ p.grade < deepest ∧
        (cidUnder p c.id).length ≤ cidLength))

def Fits (s : CategoryDb) : CategoryOp → Prop
  | .create parentCid _ _ _ _ => CreateFits s parentCid
  | .move id parentCid => MoveFits s id parentCid
  | _ => True

theorem repaired_exec (self : SaleCategory) (f : SaleCategory → CategoryTx Unit) (s : CategoryDb) :
    ((self.repaired >>= f).run s).2 =
      if self.parentCid = rootId then ((f self).run s).2
      else
        match s.byCid self.parentCid with
        | none => s
        | some p => ((f { self with
            grade := p.grade + 1
            cid := cidBelow p (lastPart '-' self.cid) }).run s).2 := by
  unfold SaleCategory.repaired
  by_cases hroot : self.parentCid = rootId
  · rw [if_neg (not_not.mpr hroot), if_pos hroot, pure_bind_run]
  · rw [if_pos hroot, if_neg hroot, bind_bind, getOr_bind_run]
    cases s.byCid self.parentCid with
    | none => rfl
    | some p => rfl

variable {s : CategoryDb}

theorem stored_repaired (hstored : Stored s) (self : SaleCategory)
    {f : SaleCategory → CategoryTx Unit}
    (hf : ∀ r : SaleCategory, r.id = self.id → Stored ((f r).run s).2) :
    Stored ((self.repaired >>= f).run s).2 := by
  rw [repaired_exec]
  split
  · exact hf self rfl
  · split
    · exact hstored
    · exact hf _ rfl

variable {c : SaleCategory}

theorem stored_save (hstored : Stored s) {self : SaleCategory}
    (hc : c ∈ s.rows) (hid : self.id = c.id) : Stored ((self.save).run s).2 := by
  unfold SaleCategory.save
  refine stored_repaired hstored self fun r hr => stored_update hstored ?_
  rw [hr, hid]
  exact hstored.ids c hc

theorem stored_edit (hstored : Stored s) (id : Nat)
    (edit : SaleCategory → SaleCategory) (hedit : ∀ c, (edit c).id = c.id) :
    Stored (((getOr .doesNotExist fun s : CategoryDb => s.rows.get? id) >>=
      fun self => (edit self).save : CategoryTx Unit).run s).2 := by
  rw [getOr_bind_run]
  cases hget : s.rows.get? id with
  | none => exact hstored
  | some c => exact stored_save hstored (Table.get?_eq_some.mp hget).1 (hedit c)

theorem stored_exec (hstored : Stored s) (op : CategoryOp) :
    Stored (op.exec s) := by
  cases op with
  | create parentCid name catPic sortOrder status =>
    unfold CategoryOp.exec CategoryOp.call
    rw [gets_bind_run]
    exact stored_repaired hstored _ fun r _ => stored_insert hstored r
  | rename id name => exact stored_edit hstored id _ fun _ => rfl
  | setInvalid id => exact stored_edit hstored id _ fun _ => rfl
  | move id parentCid => exact stored_edit hstored id _ fun _ => rfl

theorem not_refused (hstored : Stored s) (hc : c ∈ s.rows) :
    ¬ Refused s c.cid c.id := by
  rintro (⟨_, hlong⟩ | ⟨other, hother, hcid, hne⟩)
  · exact absurd (hstored.lengths c hc) (by omega)
  · rw [cut_of_le (hstored.lengths c hc)] at hcid
    rw [hstored.distinct other hother c hc hcid] at hne
    exact hne rfl

variable {r : SaleCategory}

theorem grown_update_same (hstored : Stored s) (h : Grown s)
    (hc : c ∈ s.rows) (hsame : SamePlace r c) :
    Grown ((update r).run s).2 := by
  have hrefused : ¬ Refused s r.cid r.id := by
    rw [hsame.cid, hsame.id]
    exact not_refused hstored hc
  have hcut : cut r.cid = r.cid := by
    rw [hsame.cid]
    exact cut_of_le (hstored.lengths c hc)
  rw [update_exec, if_neg hrefused, hcut]
  exact h.saved_same hc hsame

theorem grown_save_same (hstored : Stored s) (h : Grown s)
    {self : SaleCategory} (hc : c ∈ s.rows) (hsame : SamePlace self c) :
    Grown ((self.save).run s).2 := by
  unfold SaleCategory.save
  rw [repaired_exec]
  cases h.placed c hc with
  | root hroot _ _ =>
    rw [if_pos (hsame.parentCid.trans hroot)]
    exact grown_update_same hstored h hc hsame
  | below hroot p hp =>
    have hfound : s.byCid self.parentCid = some p := by
      rw [hsame.parentCid, ← hp.names]
      exact hstored.byCid_eq hp.mem
    rw [if_neg (by rw [hsame.parentCid]; exact hroot), hfound]
    refine grown_update_same hstored h hc ⟨hsame.id, ?_, hsame.parentCid, hp.grade.symm⟩
    rw [hsame.cid, (h.placed c hc).named.lastPart, h.cidBelow_eq hp.mem, hp.cid]

/-- A category as it is stored below `p`. -/
structure WrittenBelow (s : CategoryDb) (c p r : SaleCategory) : Prop where
  id : r.id = c.id
  mem : p ∈ s.rows
  names : r.parentCid = p.cid
  grade : r.grade = p.grade + 1
  cid : r.cid = cut (cidUnder p c.id)

theorem not_names_saved (h : Grown s) (hc : c ∈ s.rows)
    (hid : r.id = c.id) (h' : Grown (s.saved r)) (hcid : r.cid ≠ c.cid) {q : SaleCategory}
    (hq : q ∈ (s.saved r).rows) : q.cid ≠ c.cid := by
  intro heq
  have hqc := (h'.placed q hq).named.id_eq (h.placed c hc).named heq
  rcases (mem_saved hc hid.symm).mp hq with rfl | ⟨_, hne⟩
  · exact hcid heq
  · exact hne (hqc.trans hid.symm)

theorem length_cidUnder (p : SaleCategory) (id : Nat) :
    (cidUnder p id).length = p.cid.length + 1 + (toString id).length := by
  unfold cidUnder
  rw [String.length_append, String.length_append]
  rfl

theorem Placed.names_of_cid {p : SaleCategory} (h : Placed s c)
    (hcid : c.cid = cidUnder p c.id) : c.parentCid = p.cid := by
  cases h with
  | root _ _ hroot =>
    have hlength := congrArg String.length (hroot.symm.trans hcid)
    rw [length_cidUnder] at hlength
    have hown : (own c).length = (toString c.id).length := rfl
    omega
  | below _ q hq =>
    have heq := hq.cid.symm.trans hcid
    unfold cidUnder at heq
    rw [String.append_assoc, String.append_assoc] at heq
    rw [← hq.names]
    exact ((Key.last_inj "-" rfl (free_own c) (free_own c)).mp heq).1

theorem grown_saved_iff (hstored : Stored s) (h : Grown s) {p : SaleCategory}
    (hc : c ∈ s.rows) (hmoved : c.parentCid ≠ p.cid) (hr : WrittenBelow s c p r) :
    Grown (s.saved r) ↔
      p.id ≠ c.id ∧ Childless s c ∧ p.grade < deepest ∧ (cidUnder p c.id).length ≤ cidLength := by
  have hroot : r.parentCid ≠ rootId := by
    rw [hr.names]
    exact (h.placed p hr.mem).named.ne_root (hstored.ids p hr.mem)
  constructor
  · intro h'
    have hmem : r ∈ (s.saved r).rows := (mem_saved hc hr.id.symm).mpr (Or.inl rfl)
    have hcut : cut (cidUnder p c.id) = cidUnder p c.id := by
      cases h'.placed r hmem with
      | root hroot' _ _ => exact absurd hroot' hroot
      | below _ q hq =>
        rw [← hr.cid, hq.cid, hq.names, hr.names]
        unfold own cidUnder
        rw [hr.id]
    have hcid : r.cid ≠ c.cid := by
      intro heq
      refine hmoved ((h.placed c hc).names_of_cid ?_)
      rw [← heq, hr.cid, hcut]
    have hgone : ∀ {q : SaleCategory}, q ∈ (s.saved r).rows → q.cid ≠ c.cid := fun hq =>
      not_names_saved h hc hr.id h' hcid hq
    refine ⟨?_, ?_, ?_, le_of_cut_eq hcut⟩
    · -- below itself its parent is nowhere
      intro hpc
      have hpc : p = c := Table.pk_inj hr.mem hc hpc
      cases h'.placed r hmem with
      | root hroot' _ _ => exact hroot hroot'
      | below _ q hq => exact hgone hq.mem (hq.names.trans (hr.names.trans (by rw [hpc])))
    · -- a child that stays names a `cid` that is gone
      intro d hd hnames
      have hdroot : d.parentCid ≠ rootId := by
        rw [hnames]
        exact (h.placed c hc).named.ne_root (hstored.ids c hc)
      have hdc : d.id ≠ c.id := by
        intro hid
        have hdc : d = c := Table.pk_inj hd hc hid
        rw [hdc] at hnames hdroot
        cases h.placed c hc with
        | root hroot' _ _ => exact hdroot hroot'
        | below _ q hq =>
          have hgrade := hq.grade
          rw [hstored.distinct q hq.mem c hc (hq.names.trans hnames)] at hgrade
          omega
      have hd' : d ∈ (s.saved r).rows :=
        (mem_saved hc hr.id.symm).mpr (Or.inr ⟨hd, by rw [hr.id]; exact hdc⟩)
      cases h'.placed d hd' with
      | root hroot' _ _ => exact hdroot hroot'
      | below _ q hq => exact hgone hq.mem (hq.names.trans hnames)
    · have hdepth := h'.depth r hmem
      rw [hr.grade] at hdepth
      exact hdepth
  · rintro ⟨hpc, hchildless, hdepth, hlength⟩
    refine h.saved_below hc hr.id hchildless hroot ⟨hr.mem, hr.names.symm, hr.grade, ?_⟩ hpc hdepth
    rw [hr.cid, cut_of_le hlength]
    unfold own
    rw [hr.id]
    rfl

/-! ## Each operation -/

theorem grown_rename (hstored : Stored s) (h : Grown s) (id : Nat)
    (edit : SaleCategory → SaleCategory) (hedit : ∀ c, SamePlace (edit c) c) :
    Grown (((getOr .doesNotExist fun s : CategoryDb => s.rows.get? id) >>=
      fun self => (edit self).save : CategoryTx Unit).run s).2 := by
  rw [getOr_bind_run]
  cases hget : s.rows.get? id with
  | none => exact h
  | some c => exact grown_save_same hstored h (Table.get?_eq_some.mp hget).1 (hedit c)

theorem grown_move_iff (hstored : Stored s) (h : Grown s) (id : Nat) (parentCid : String) :
    Grown (CategoryOp.exec (.move id parentCid) s) ↔ MoveFits s id parentCid := by
  unfold CategoryOp.exec CategoryOp.call MoveFits
  rw [getOr_bind_run]
  cases hget : s.rows.get? id with
  | none => exact ⟨fun _ c hc => absurd hc (by simp), fun _ => h⟩
  | some c =>
    have hc := (Table.get?_eq_some.mp hget).1
    simp only [Option.mem_def, Option.some.injEq, forall_eq']
    by_cases hsame : parentCid = c.parentCid
    · have hplace : SamePlace { c with parentCid := parentCid } c := ⟨rfl, rfl, hsame, rfl⟩
      exact ⟨fun _ => Or.inl hsame, fun _ => grown_save_same hstored h hc hplace⟩
    · rw [or_iff_right hsame]
      unfold SaleCategory.save
      rw [repaired_exec]
      by_cases hroot : parentCid = rootId
      · -- a category that becomes a root keeps the grade it had below its parent
        rw [if_pos hroot]
        refine ⟨fun h' => ?_, fun hfits => absurd hroot hfits.1⟩
        have hrefused : ¬ Refused s c.cid c.id := not_refused hstored hc
        have hcut : cut c.cid = c.cid := cut_of_le (hstored.lengths c hc)
        rw [update_exec] at h'
        dsimp only at h'
        rw [if_neg hrefused, hcut] at h'
        change Grown (s.saved { c with parentCid := parentCid }) at h'
        cases h.placed c hc with
        | root hroot' _ _ => exact absurd (hroot.trans hroot'.symm) hsame
        | below _ p hp =>
          have hmem : { c with parentCid := parentCid } ∈
              (s.saved { c with parentCid := parentCid }).rows :=
            (mem_saved (r := { c with parentCid := parentCid }) hc rfl).mpr (Or.inl rfl)
          have hpos := h.grade_pos hp.mem
          have hgrade := hp.grade
          cases h'.placed _ hmem with
          | root _ hgrade' _ =>
            have hfirst : c.grade = 1 := hgrade'
            omega
          | below hne _ _ => exact absurd hroot hne
      · rw [if_neg hroot]
        dsimp only
        cases hfound : s.byCid parentCid with
        | none => exact ⟨fun _ => ⟨hroot, fun p hp => absurd hp (by simp)⟩, fun _ => h⟩
        | some p =>
          obtain ⟨hp, hcid⟩ := byCid_eq_some hfound
          dsimp only
          simp only [Option.some.injEq, forall_eq']
          rw [and_iff_right hroot, (h.placed c hc).named.lastPart, h.cidBelow_eq hp,
            update_exec]
          dsimp only
          change Grown (if Refused s (cidUnder p c.id) c.id then s else _) ↔ _
          by_cases hrefused : Refused s (cidUnder p c.id) c.id
          · rw [if_pos hrefused]
            exact ⟨fun _ => Or.inl hrefused, fun _ => h⟩
          · rw [if_neg hrefused, or_iff_right hrefused]
            have hmoved : c.parentCid ≠ p.cid := by
              rw [hcid]
              exact Ne.symm hsame
            refine grown_saved_iff (r := { c with
              parentCid := parentCid
              grade := p.grade + 1
              cid := cut (cidUnder p c.id) }) hstored h hc hmoved ?_
            exact ⟨rfl, hp, hcid.symm, rfl, rfl⟩

theorem defaultSalecategoryCid_eq (s : CategoryDb) :
    defaultSalecategoryCid s = toString s.rows.nextId := by
  unfold defaultSalecategoryCid
  cases hlast : s.rows.rows.getLast? with
  | none =>
    rw [List.getLast?_eq_none_iff] at hlast
    unfold Table.nextId
    rw [hlast]
    rfl
  | some sc =>
    have hmem : sc ∈ s.rows := List.mem_of_getLast? hlast
    have hlt : sc.id < s.rows.nextId := Table.pk_lt_nextId hmem
    have hle : ∀ c ∈ s.rows, c.id ≤ sc.id := fun c hc => Table.pk_le_of_getLast? hlast hc
    have hmax := Table.nextId_le_of_forall hle
    dsimp only
    rw [Nat.le_antisymm hmax hlt]

def CategoryDb.inserted (s : CategoryDb) (r : SaleCategory) : CategoryDb :=
  { s with rows := s.rows.insert r }

theorem grown_inserted_iff (h : Grown s) (r : SaleCategory) :
    Grown (s.inserted r) ↔
      Placed (s.inserted r) (s.rows.stored r) ∧ r.grade ≤ deepest := by
  have hmem : ∀ {d : SaleCategory},
      d ∈ (s.inserted r).rows ↔ d ∈ s.rows ∨ d = s.rows.stored r := Table.mem_insert
  constructor
  · intro h'
    have hnew := hmem.mpr (Or.inr rfl)
    have hdepth : (s.rows.stored r).grade ≤ deepest := h'.depth _ hnew
    exact ⟨h'.placed _ hnew, hdepth⟩
  · rintro ⟨hplaced, hdepth⟩
    constructor
    · intro d hd
      rcases hmem.mp hd with hd | rfl
      · exact (h.placed d hd).mono fun p hp _ => ⟨p, hmem.mpr (Or.inl hp), rfl, rfl⟩
      · exact hplaced
    · intro d hd
      rcases hmem.mp hd with hd | rfl
      · exact h.depth d hd
      · exact hdepth

theorem grown_new_root_iff (h : Grown s)
    (hroot : r.parentCid = rootId) (hgrade : r.grade = firstGrade)
    (hcid : r.cid = cut (toString s.rows.nextId)) :
    Grown (s.inserted r) ↔ (toString s.rows.nextId).length ≤ cidLength := by
  rw [grown_inserted_iff h]
  constructor
  · rintro ⟨hplaced, _⟩
    cases hplaced with
    | root _ _ hown => exact le_of_cut_eq (hcid.symm.trans hown)
    | below hne _ _ => exact absurd hroot hne
  · intro hlength
    refine ⟨.root hroot hgrade ?_, hgrade.trans_le (by decide)⟩
    exact hcid.trans (cut_of_le hlength)

theorem grown_new_below_iff (hstored : Stored s) (h : Grown s)
    {p : SaleCategory} (hp : p ∈ s.rows) (hnames : r.parentCid = p.cid)
    (hgrade : r.grade = p.grade + 1) (hcid : r.cid = cut (cidUnder p s.rows.nextId)) :
    Grown (s.inserted r) ↔
      p.grade < deepest ∧ (cidUnder p s.rows.nextId).length ≤ cidLength := by
  have hroot : r.parentCid ≠ rootId := by
    rw [hnames]
    exact (h.placed p hp).named.ne_root (hstored.ids p hp)
  rw [grown_inserted_iff h, and_comm]
  refine and_congr (by rw [hgrade]; exact Nat.succ_le_iff) ?_
  constructor
  · intro hplaced
    cases hplaced with
    | root hroot' _ _ => exact absurd hroot' hroot
    | below _ q hq =>
      have hq' : r.cid = q.cid ++ "-" ++ toString s.rows.nextId := hq.cid
      have hqnames : q.cid = r.parentCid := hq.names
      refine le_of_cut_eq (hcid.symm.trans ?_)
      rw [hq', hqnames, hnames]
      rfl
  · intro hlength
    have hmem : p ∈ (s.inserted r).rows := Table.mem_insert.mpr (Or.inl hp)
    exact .below hroot p ⟨hmem, hnames.symm, hgrade, hcid.trans (cut_of_le hlength)⟩

theorem grown_create_iff (hstored : Stored s) (h : Grown s)
    (parentCid name catPic : String) (sortOrder : Int) (status : CatStatus) :
    Grown (CategoryOp.exec (.create parentCid name catPic sortOrder status) s) ↔
      CreateFits s parentCid := by
  unfold CategoryOp.exec CategoryOp.call CreateFits
  rw [gets_bind_run, repaired_exec, defaultSalecategoryCid_eq]
  have hparent : (SaleCategory.new (toString s.rows.nextId) parentCid name catPic sortOrder
    status).parentCid = parentCid := rfl
  by_cases hroot : parentCid = rootId
  · rw [if_pos (hparent.trans hroot), if_pos hroot, insert_exec]
    change Grown (if Refused s (toString s.rows.nextId) s.rows.nextId then s else _) ↔ _
    by_cases hrefused : Refused s (toString s.rows.nextId) s.rows.nextId
    · rw [if_pos hrefused]
      exact ⟨fun _ => Or.inl hrefused, fun _ => h⟩
    · rw [if_neg hrefused, or_iff_right hrefused]
      refine grown_new_root_iff (r := { SaleCategory.new (toString s.rows.nextId) parentCid name
        catPic sortOrder status with cid := cut (toString s.rows.nextId) }) h hroot rfl rfl
  · rw [if_neg (by rw [hparent]; exact hroot), if_neg hroot, hparent]
    cases hfound : s.byCid parentCid with
    | none => exact ⟨fun _ p hp => absurd hp (by simp), fun _ => h⟩
    | some p =>
      obtain ⟨hp, hcid⟩ := byCid_eq_some hfound
      dsimp only
      simp only [Option.mem_def, Option.some.injEq, forall_eq']
      have hpart : lastPart '-' (SaleCategory.new (toString s.rows.nextId) parentCid name catPic
          sortOrder status).cid = toString s.rows.nextId :=
        lastPart_free (Key.free_toString (by decide) _)
      rw [hpart, h.cidBelow_eq hp, insert_exec]
      change Grown (if Refused s (cidUnder p s.rows.nextId) s.rows.nextId then s else _) ↔ _
      by_cases hrefused : Refused s (cidUnder p s.rows.nextId) s.rows.nextId
      · rw [if_pos hrefused]
        exact ⟨fun _ => Or.inl hrefused, fun _ => h⟩
      · rw [if_neg hrefused, or_iff_right hrefused]
        refine grown_new_below_iff (r := { SaleCategory.new (toString s.rows.nextId) parentCid
          name catPic sortOrder status with
          grade := p.grade + 1
          cid := cut (cidUnder p s.rows.nextId) }) hstored h hp hcid.symm rfl rfl

theorem grown_exec_iff (hstored : Stored s) (h : Grown s) (op : CategoryOp) :
    Grown (op.exec s) ↔ Fits s op := by
  cases op with
  | create parentCid name catPic sortOrder status =>
    exact grown_create_iff hstored h parentCid name catPic sortOrder status
  | rename id name =>
    refine ⟨fun _ => trivial, fun _ => ?_⟩
    exact grown_rename hstored h id (fun c => { c with name := name }) fun _ =>
      ⟨rfl, rfl, rfl, rfl⟩
  | setInvalid id =>
    refine ⟨fun _ => trivial, fun _ => ?_⟩
    exact grown_rename hstored h id (fun c => { c with status := .delete }) fun _ =>
      ⟨rfl, rfl, rfl, rfl⟩
  | move id parentCid => exact grown_move_iff hstored h id parentCid

theorem stored_start (strict : Bool) : Stored (.start strict) where
  ids _ hc := absurd hc List.not_mem_nil
  lengths _ hc := absurd hc List.not_mem_nil
  distinct _ ha := absurd ha List.not_mem_nil

theorem grown_start (strict : Bool) : Grown (.start strict) where
  placed _ hc := absurd hc List.not_mem_nil
  depth _ hc := absurd hc List.not_mem_nil

/-- From an empty table, the tree stays complete exactly if every create and every move fits. -/
theorem tree_iff (strict : Bool) (ops : List CategoryOp) :
    Throughout CategoryOp.exec Complete ops (.start strict) ↔
      Guarded CategoryOp.exec Fits ops (.start strict) := by
  have hstep : ∀ s op, Stored s → Complete s → (Complete (CategoryOp.exec op s) ↔ Fits s op) := by
    intro s op hstored hcomplete
    rw [complete_iff_grown (stored_exec hstored op)]
    exact grown_exec_iff hstored ((complete_iff_grown hstored).mp hcomplete) op
  have halways : ∀ s op, Stored s → Stored (CategoryOp.exec op s) := fun _ op h => stored_exec h op
  exact throughout_iff_guarded halways hstep ops (.start strict)
    (stored_start strict) ((grown_start strict).complete (stored_start strict))

def movedWithChild : List CategoryOp :=
  [.create "0" "clothes" "" 0 .normal, .create "0" "toys" "" 0 .normal,
    .create "1" "shirts" "" 0 .normal, .move 1 "2"]

/-- The child names a `cid` that its parent no longer has. -/
theorem tree_fails : ¬ Throughout CategoryOp.exec Complete movedWithChild (.start true) := by
  intro h
  have halways : ∀ s op, Stored s → Stored (CategoryOp.exec op s) := fun _ op h => stored_exec h op
  have hstored : Stored (run CategoryOp.exec movedWithChild (.start true)) :=
    (throughout_of_step halways movedWithChild (.start true) (stored_start true)).last
  have hgrown := (complete_iff_grown hstored).mp h.last
  obtain ⟨c, hc, hroot, horphan⟩ : ∃ c ∈ (run CategoryOp.exec movedWithChild (.start true)).rows.rows,
      c.parentCid ≠ rootId ∧ ∀ p ∈ (run CategoryOp.exec movedWithChild (.start true)).rows.rows,
        p.cid ≠ c.parentCid := by
    decide +kernel
  cases hgrown.placed c hc with
  | root hroot' _ _ => exact hroot hroot'
  | below _ p hp => exact horphan p hp.mem hp.names

end ShopManager.Category
