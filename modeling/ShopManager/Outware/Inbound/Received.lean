import Mathlib.Algebra.Group.Prod
import ShopManager.Outware.Inbound.Model

/-!
# The lines of a notification

A line finds its row of the inbound or makes one, whose key may be taken.  The stock of a
SKU grows by the sum of its lines, however many of them there are.
-/

namespace ShopManager.Outware.Inbound

open Library Library.Tx

variable {μ : Type}

/-! ## The rows of the lines -/

namespace OutwareInboundSku

def ident (row : OutwareInboundSku) : Nat × String × String × String :=
  (row.outwareInbound, row.skuCode, row.batchNo, row.uniKey)

def identOf (inbound : Nat) (line : Line) : Nat × String × String × String :=
  (inbound, line.skuCode, line.batchNo, generateUnikey inbound line)

def Known (inbound : Nat) (line : Line) (s : InboundDb μ) : Prop :=
  identOf inbound line ∈ s.inboundSkus.rows.map ident

def Taken (inbound : Nat) (line : Line) (s : InboundDb μ) : Prop :=
  generateUnikey inbound line ∈ s.inboundSkus.rows.map uniKey

def Storable (inbound : Nat) (lines : List Line) (s : InboundDb μ) : Prop :=
  ∀ line ∈ lines, Known inbound line s ∨
    (¬ Taken inbound line s ∧ ∀ other ∈ lines,
      generateUnikey inbound other = generateUnikey inbound line →
        identOf inbound other = identOf inbound line)

variable {inbound : Nat}

theorem matches_iff {line : Line} {row : OutwareInboundSku} :
    Matches inbound line row ↔ ident row = identOf inbound line := by
  simp [Matches, ident, identOf]

theorem Known.taken {line : Line} {s : InboundDb μ}
    (h : Known inbound line s) : Taken inbound line s := by
  obtain ⟨row, hrow, hident⟩ := List.mem_map.1 h
  have hkey : row.uniKey = generateUnikey inbound line := (matches_iff.2 hident).2.2.2
  exact List.mem_map.2 ⟨row, hrow, hkey⟩

def Stores (inbound : Nat) (line : Line) (s s' : InboundDb μ) : Prop :=
  (∃ t, s' = { s with inboundSkus := t }) ∧
    (∀ other, Known inbound other s' ↔
      Known inbound other s ∨ identOf inbound other = identOf inbound line) ∧
    ∀ other, Taken inbound other s' ↔
      Taken inbound other s ∨ generateUnikey inbound other = generateUnikey inbound line

theorem pull_stores {line : Line} {s : InboundDb μ}
    (h : Known inbound line s ∨ ¬ Taken inbound line s) :
    ∃ s', (pull inbound line).run s = (.ok (), s') ∧ Stores inbound line s s' := by
  unfold pull
  rw [gets_bind_run]
  cases hfirst : s.inboundSkus.first fun row => Matches inbound line row with
  | some row =>
    have hspec := Table.first_spec hfirst
    have hident : ident row = identOf inbound line := matches_iff.1 (of_decide_eq_true hspec)
    have hrow : row ∈ s.inboundSkus := Table.mem_of_first hfirst
    have hknown : Known inbound line s := List.mem_map.2 ⟨row, hrow, hident⟩
    refine ⟨_, rfl, ⟨_, rfl⟩, ?_, ?_⟩
    · intro other
      unfold Known
      dsimp only
      rw [Table.map_rows_save hrow]
      · constructor
        · exact Or.inl
        · rintro (h | h)
          · exact h
          · rw [h]
            exact hknown
      · rfl
      · rfl
    · intro other
      unfold Taken
      dsimp only
      rw [Table.map_rows_save hrow]
      · constructor
        · exact Or.inl
        · rintro (h | h)
          · exact h
          · rw [h]
            exact hknown.taken
      · rfl
      · rfl
  | none =>
    have hunknown : ¬ Known inbound line s := by
      intro hknown
      obtain ⟨row, hrow, hident⟩ := List.mem_map.1 hknown
      exact of_decide_eq_false (Table.first_eq_none.1 hfirst row hrow) (matches_iff.2 hident)
    have hfree : ¬ Taken inbound line s := h.resolve_left hunknown
    have hany : ¬ (s.inboundSkus.rows.any fun row =>
        row.uniKey = generateUnikey inbound line) = true := by
      intro hany
      obtain ⟨row, hrow, hkey⟩ := List.any_eq_true.1 hany
      exact hfree (List.mem_map.2 ⟨row, hrow, of_decide_eq_true hkey⟩)
    dsimp only
    rw [gets_bind_run, raiseIf_bind_run, if_neg hany]
    refine ⟨_, rfl, ⟨_, rfl⟩, ?_, ?_⟩
    · intro other
      unfold Known
      rw [Table.map_rows_insert, List.mem_append, List.mem_singleton]
      exact Iff.rfl
    · intro other
      unfold Taken
      rw [Table.map_rows_insert, List.mem_append, List.mem_singleton]
      exact Iff.rfl

theorem pull_raises {line : Line} {s s' : InboundDb μ} {u : Unit}
    (h : (pull inbound line).run s = (.ok u, s')) :
    Known inbound line s ∨ ¬ Taken inbound line s := by
  unfold pull at h
  rw [gets_bind_run] at h
  cases hfirst : s.inboundSkus.first fun row => Matches inbound line row with
  | some row =>
    left
    have hspec := Table.first_spec hfirst
    have hident : ident row = identOf inbound line := matches_iff.1 (of_decide_eq_true hspec)
    exact List.mem_map.2 ⟨row, Table.mem_of_first hfirst, hident⟩
  | none =>
    right
    intro htaken
    obtain ⟨row, hrow, hkey⟩ := List.mem_map.1 htaken
    have hany : (s.inboundSkus.rows.any fun row =>
        row.uniKey = generateUnikey inbound line) = true :=
      List.any_eq_true.2 ⟨row, hrow, decide_eq_true hkey⟩
    rw [hfirst] at h
    dsimp only at h
    rw [gets_bind_run, raiseIf_bind_run, if_pos hany] at h
    cases h

theorem storable_cons {line : Line} {lines : List Line} {s s' : InboundDb μ}
    (h : Stores inbound line s s') :
    Storable inbound (line :: lines) s ↔
      (Known inbound line s ∨ ¬ Taken inbound line s) ∧ Storable inbound lines s' := by
  obtain ⟨-, hknown, htaken⟩ := h
  constructor
  · intro hall
    refine ⟨(hall line (List.mem_cons_self ..)).imp (fun hk => hk) And.left, ?_⟩
    intro other hother
    rcases hall other (List.mem_cons_of_mem _ hother) with hk | ⟨hfree, halone⟩
    · exact .inl ((hknown other).2 (.inl hk))
    · by_cases hkey : generateUnikey inbound line = generateUnikey inbound other
      · have hident := halone line (List.mem_cons_self ..) hkey
        exact .inl ((hknown other).2 (.inr hident.symm))
      · refine .inr ⟨?_, ?_⟩
        · rw [htaken]
          rintro (ht | ht)
          · exact hfree ht
          · exact hkey ht.symm
        · intro third hthird hsame
          exact halone third (List.mem_cons_of_mem _ hthird) hsame
  · rintro ⟨hline, hall⟩
    -- a line after the first whose key is the first's has the first's pair as well
    have hsame : ¬ Taken inbound line s → ∀ other ∈ lines,
        generateUnikey inbound other = generateUnikey inbound line →
          identOf inbound other = identOf inbound line := by
      intro hfree other hother hkey
      have htaken' : Taken inbound other s' := (htaken other).2 (.inr hkey)
      have hother' : Known inbound other s' :=
        (hall other hother).resolve_right fun hr => hr.1 htaken'
      rcases (hknown other).1 hother' with hk | hident
      · have hsome := hk.taken
        unfold Taken at hsome hfree
        rw [hkey] at hsome
        exact absurd hsome hfree
      · exact hident
    intro other hother
    rcases List.mem_cons.1 hother with rfl | hother
    · refine hline.imp (fun hk => hk) fun hfree => ⟨hfree, ?_⟩
      intro third hthird hkey
      rcases List.mem_cons.1 hthird with rfl | hthird
      · rfl
      · exact hsame hfree third hthird hkey
    · rcases hall other hother with hk | ⟨hfree, halone⟩
      · rcases (hknown other).1 hk with hk | hident
        · exact .inl hk
        · have hkey : generateUnikey inbound other = generateUnikey inbound line :=
            congrArg (fun ident => ident.2.2.2) hident
          refine hline.imp (fun hk => ?_) fun hfree => ⟨?_, ?_⟩
          · unfold Known at hk ⊢
            rw [hident]
            exact hk
          · unfold Taken at hfree ⊢
            rw [hkey]
            exact hfree
          · intro third hthird hthirdKey
            rw [hident]
            rcases List.mem_cons.1 hthird with rfl | hthird
            · rfl
            · exact hsame hfree third hthird (hthirdKey.trans hkey)
      · rw [htaken, not_or] at hfree
        refine .inr ⟨hfree.1, ?_⟩
        intro third hthird hkey
        rcases List.mem_cons.1 hthird with rfl | hthird
        · exact absurd hkey.symm hfree.2
        · exact halone third hthird hkey

theorem pullAll_of_storable :
    ∀ {lines : List Line} {s : InboundDb μ}, Storable inbound lines s →
      ∃ t, (forEach lines (pull inbound)).run s = (.ok (), { s with inboundSkus := t }) := by
  intro lines
  induction lines with
  | nil =>
    intro s _
    exact ⟨s.inboundSkus, rfl⟩
  | cons line lines ih =>
    intro s h
    have hline : Known inbound line s ∨ ¬ Taken inbound line s :=
      (h line (List.mem_cons_self ..)).imp (fun hk => hk) And.left
    obtain ⟨s', hrun, hstores⟩ := pull_stores hline
    obtain ⟨t, hrest⟩ := ih ((storable_cons hstores).1 h).2
    obtain ⟨⟨t', rfl⟩, -⟩ := hstores
    exact ⟨t, (bind_ok hrun).trans hrest⟩

theorem storable_of_pullAll :
    ∀ {lines : List Line} {s s' : InboundDb μ} {u : Unit},
      (forEach lines (pull inbound)).run s = (.ok u, s') → Storable inbound lines s := by
  intro lines
  induction lines with
  | nil =>
    intro s s' u _ line hline
    cases hline
  | cons line lines ih =>
    intro s s' u h
    rw [forEach_cons, bind_eq_ok] at h
    obtain ⟨_, s1, hpull, hrest⟩ := h
    have hline := pull_raises hpull
    obtain ⟨s2, hrun, hstores⟩ := pull_stores hline
    obtain rfl : s1 = s2 := congrArg Prod.snd (hpull.symm.trans hrun)
    exact (storable_cons hstores).2 ⟨hline, ih hrest⟩

end OutwareInboundSku

def Line.qty (line : Line) : Int × Int := (line.pullGoodQty, line.pullBadQty)

def skuQty (skuCode : String) (lines : List Line) : Int × Int :=
  (lines.map fun line => if line.skuCode = skuCode then line.qty else 0).sum

def pushed (skuCode : String) (s : InboundDb μ) : Int × Int :=
  s.skuStocks.sum fun stock =>
    if stock.skuCode = skuCode then (stock.pushSkuGoodQty, stock.pushSkuBadQty) else 0

namespace OutwareSkuStock

theorem push_run (line : Line) (s : InboundDb μ) :
    ∃ t, (push line).run s = (.ok (), { s with skuStocks := t }) ∧
      ∀ skuCode, pushed skuCode { s with skuStocks := t } =
        pushed skuCode s + if line.skuCode = skuCode then line.qty else 0 := by
  unfold push
  rw [gets_bind_run]
  cases hfind : find line.skuCode s with
  | some stock =>
    have hmem : stock ∈ s.skuStocks := Table.mem_of_first hfind
    have hspec := Table.first_spec hfind
    have hcode : stock.skuCode = line.skuCode := of_decide_eq_true hspec
    refine ⟨_, rfl, ?_⟩
    intro skuCode
    unfold pushed Line.qty
    dsimp only
    rw [Table.sum_save hmem, hcode]
    · by_cases h : line.skuCode = skuCode
      · simp only [if_pos h]
        ext <;> simp <;> omega
      · simp only [if_neg h]
        ext <;> simp
    · rfl
  | none =>
    refine ⟨_, rfl, ?_⟩
    intro skuCode
    unfold pushed
    rw [Table.sum_insert]
    rfl

theorem pushAll_run : ∀ (lines : List Line) (s : InboundDb μ),
    ∃ t, (forEach lines push).run s = (.ok (), { s with skuStocks := t }) ∧
      ∀ skuCode, pushed skuCode { s with skuStocks := t } =
        pushed skuCode s + skuQty skuCode lines := by
  intro lines
  induction lines with
  | nil =>
    intro s
    exact ⟨s.skuStocks, rfl, fun skuCode => (add_zero _).symm⟩
  | cons line lines ih =>
    intro s
    obtain ⟨t, hline, hfirst⟩ := push_run line s
    obtain ⟨t', hlines, hrest⟩ := ih { s with skuStocks := t }
    refine ⟨t', (bind_ok hline).trans hlines, ?_⟩
    intro skuCode
    rw [hrest, hfirst, add_assoc]
    rfl

end OutwareSkuStock

end ShopManager.Outware.Inbound
