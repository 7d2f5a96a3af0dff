import ShopManager.Coupon.Transfer.Model
import ShopManager.Library.Trail

/-!
# The chain of a delivery

The loop that climbs from a mama to the one above counts its rounds only where it finds
a valid relationship, and stops after ten of them.
-/

namespace ShopManager.Coupon

open Library

namespace Referals

structure ShipState where
  toMamaId : Nat
  chain : List Nat
  cCount : Nat

namespace ShipState

def round (referals : Referals) (s : ShipState) : ShipState :=
  match referals.validUpper s.toMamaId with
  | none => s
  | some upper => ⟨upper, upper :: s.chain, s.cCount + 1⟩

/-- Where the loop ends; the count is looked at behind a round, and starts below ten. -/
def Done (fromMama : Nat) (s : ShipState) : Prop := s.toMamaId = fromMama ∨ 10 ≤ s.cCount

end ShipState

/-- The loop returns the chain after finitely many rounds. -/
inductive Returns (referals : Referals) (fromMama : Nat) : ShipState → List Nat → Prop
  | stop {s : ShipState} (h : s.Done fromMama) : Returns referals fromMama s s.chain
  | round {s : ShipState} {chain : List Nat} (h : ¬ s.Done fromMama)
      (hrest : Returns referals fromMama (s.round referals) chain) :
      Returns referals fromMama s chain

variable {referals : Referals} {fromMama toMama : Nat} {chain r : List Nat}

theorem shipLoop_of_returns {s : ShipState} (h : Returns referals fromMama s r) :
    referals.shipLoop fromMama (10 - s.cCount) s.toMamaId s.chain = some r := by
  induction h with
  | @stop s hdone =>
    rcases hdone with hfrom | hcount
    · cases 10 - s.cCount with
      | zero => rfl
      | succ hops => rw [shipLoop, if_pos hfrom]
    · rw [Nat.sub_eq_zero_of_le hcount, shipLoop]
  | @round s chain hnot _ ih =>
    unfold ShipState.Done at hnot
    unfold ShipState.round at ih
    cases hupper : referals.validUpper s.toMamaId with
    | none =>
      rw [hupper] at ih
      exact ih
    | some upper =>
      rw [hupper] at ih
      obtain ⟨hops, hhops⟩ : ∃ hops, 10 - s.cCount = hops + 1 := ⟨9 - s.cCount, by omega⟩
      simp only [show 10 - (s.cCount + 1) = hops by omega] at ih
      rw [hhops, shipLoop, if_neg (by omega), hupper]
      exact ih

theorem returns_of_shipLoop {hops cCount : Nat} (hhops : hops = 10 - cCount)
    (h : referals.shipLoop fromMama hops toMama chain = some r) :
    Returns referals fromMama ⟨toMama, chain, cCount⟩ r := by
  induction hops generalizing toMama chain cCount with
  | zero =>
    obtain rfl : chain = r := by simpa [shipLoop] using h
    exact Returns.stop (Or.inr (by simp only; omega))
  | succ hops ih =>
    rw [shipLoop] at h
    split at h
    · obtain rfl : chain = r := by simpa using h
      exact Returns.stop (Or.inl (by assumption))
    · rename_i hne
      refine Returns.round (by simp only [ShipState.Done]; omega) ?_
      cases hupper : referals.validUpper toMama with
      | none => simp [hupper] at h
      | some upper =>
        rw [hupper] at h
        simp only [ShipState.round, hupper]
        exact ih (by omega) h

/-- The loop ends exactly where `getShipChain` has a chain. -/
theorem returns_iff :
    Returns referals fromMama ⟨toMama, [], 0⟩ r ↔ referals.getShipChain toMama fromMama = some r :=
  ⟨shipLoop_of_returns, returns_of_shipLoop rfl⟩

/-! ## Trails of valid relationships -/

def ValidUp (referals : Referals) (lower upper : Nat) : Prop := referals.validUpper lower = some upper

def Ancestor (referals : Referals) (fromMama toMama : Nat) : Prop :=
  ∃ trail, trail ≠ [] ∧ Trail referals.ValidUp fromMama trail toMama

/-- All mamas from `fromMama` down to the parent of `toMama`. -/
structure WholePath (referals : Referals) (fromMama toMama : Nat) (chain : List Nat) : Prop where
  trail : Trail referals.ValidUp fromMama chain toMama
  nonempty : chain ≠ []
  once : fromMama ∉ chain.tail

/-- The call ends, with the whole path below an ancestor and otherwise with a chain that
does not lead to `fromMama`. -/
def ChainLaw (referals : Referals) (fromMama toMama : Nat) : Prop :=
  ∃ chain, Returns referals fromMama ⟨toMama, [], 0⟩ chain ∧
    (Ancestor referals fromMama toMama → WholePath referals fromMama toMama chain) ∧
    (¬ Ancestor referals fromMama toMama → chain.head? ≠ some fromMama)

/-- An ancestor is another mama at most ten steps above; where there is none, the mamas
are the same or ten steps lead upwards. -/
def Fits (referals : Referals) (fromMama toMama : Nat) : Prop :=
  (toMama ≠ fromMama ∧
      ∃ trail, Trail referals.ValidUp fromMama trail toMama ∧ trail.length ≤ 10) ∨
    (¬ Ancestor referals fromMama toMama ∧
      (toMama = fromMama ∨
        ∃ top trail, Trail referals.ValidUp top trail toMama ∧ trail.length = 10))

theorem eq_of_trail_nil (h : Trail referals.ValidUp fromMama [] toMama) : toMama = fromMama := by
  generalize htrail : ([] : List Nat) = trail at h
  cases h with
  | start => rfl
  | down => simp at htrail

theorem Trail.head {top a : Nat} {trail : List Nat} (h : Trail referals.ValidUp top trail toMama)
    (ha : trail.head? = some a) : a = top := by
  induction h with
  | start => simp at ha
  | @down trail holder lower h _ ih =>
    cases trail with
    | nil =>
      rw [← eq_of_trail_nil h]
      simpa using ha.symm
    | cons b trail => exact ih (by simpa using ha)

theorem not_mem_tail {trail : List Nat} {upper : Nat} (h : fromMama ∉ trail.tail)
    (hupper : upper = fromMama → trail = []) : fromMama ∉ (trail ++ [upper]).tail := by
  cases trail with
  | nil => simp
  | cons a trail =>
    have hne : fromMama ≠ upper := fun heq => absurd (hupper heq.symm) (by simp)
    simpa [hne] using h

/-- What the loop returns is a trail that leads to `fromMama` or has used up the rounds. -/
theorem shipLoop_trail {hops : Nat} (h : referals.shipLoop fromMama hops toMama chain = some r) :
    ∃ top trail, r = trail ++ chain ∧ Trail referals.ValidUp top trail toMama ∧
      trail.length ≤ hops ∧ (top = fromMama ∨ trail.length = hops) ∧
      (toMama = fromMama → trail = []) := by
  induction hops generalizing toMama chain with
  | zero =>
    obtain rfl : chain = r := by simpa [shipLoop] using h
    exact ⟨toMama, [], rfl, Trail.start, le_refl _, Or.inr rfl, fun _ => rfl⟩
  | succ hops ih =>
    rw [shipLoop] at h
    split at h
    · rename_i heq
      obtain rfl : chain = r := by simpa using h
      exact ⟨toMama, [], rfl, Trail.start, by simp, Or.inl heq, fun _ => rfl⟩
    · rename_i hne
      cases hupper : referals.validUpper toMama with
      | none => simp [hupper] at h
      | some upper =>
        rw [hupper] at h
        obtain ⟨top, trail, hr, htrail, hlength, hend, _⟩ := ih h
        refine ⟨top, trail ++ [upper], by simp [hr], htrail.down hupper, ?_, ?_, ?_⟩
        · simp only [List.length_append, List.length_singleton]
          omega
        · simp only [List.length_append, List.length_singleton]
          omega
        · exact fun heq => absurd heq hne

/-- A trail of enough steps makes the loop return, one from `fromMama` with a trail to her. -/
theorem shipLoop_of_trail (chain : List Nat) {hops top : Nat} {trail : List Nat}
    (h : Trail referals.ValidUp top trail toMama) (hlength : trail.length ≤ hops)
    (hend : top = fromMama ∨ trail.length = hops) :
    ∃ r, referals.shipLoop fromMama hops toMama chain = some (r ++ chain) ∧
      (top = fromMama → Trail referals.ValidUp fromMama r toMama ∧ fromMama ∉ r.tail ∧
        (toMama = fromMama → r = [])) := by
  induction h generalizing hops chain with
  | start =>
    refine ⟨[], ?_, ?_⟩
    · cases hops with
      | zero => rfl
      | succ hops =>
        rw [shipLoop, if_pos (hend.resolve_right (by simp))]
        rfl
    · rintro rfl
      exact ⟨Trail.start, by simp, fun _ => rfl⟩
  | @down trail holder lower h hup ih =>
    simp only [List.length_append, List.length_singleton] at hlength hend
    obtain ⟨hops, rfl⟩ : ∃ n, hops = n + 1 := ⟨hops - 1, by omega⟩
    rw [shipLoop]
    by_cases heq : lower = fromMama
    · rw [if_pos heq]
      refine ⟨[], rfl, fun _ => ⟨?_, by simp, fun _ => rfl⟩⟩
      rw [heq]
      exact Trail.start
    · rw [if_neg heq, show referals.validUpper lower = some holder from hup]
      have hrest : trail.length ≤ hops := by omega
      obtain ⟨r, hrun, hr⟩ := ih (holder :: chain) hrest (by omega)
      refine ⟨r ++ [holder], by simp [hrun], fun htop => ?_⟩
      obtain ⟨htrail, honce, hnil⟩ := hr htop
      exact ⟨htrail.down hup, not_mem_tail honce hnil, fun h => absurd h heq⟩

/-- The chain is as promised exactly when the ten rounds reach an ancestor, or run out
above a mama who is none. -/
theorem ship_chain_iff (referals : Referals) (fromMama toMama : Nat) :
    ChainLaw referals fromMama toMama ↔ Fits referals fromMama toMama := by
  simp only [ChainLaw, returns_iff, getShipChain]
  constructor
  · rintro ⟨chain, hrun, hpath, _⟩
    obtain ⟨top, trail, hchain, htrail, hlength, hend, hsame⟩ := shipLoop_trail hrun
    obtain rfl : chain = trail := by simpa using hchain
    by_cases hancestor : Ancestor referals fromMama toMama
    · have hwhole := hpath hancestor
      exact Or.inl ⟨fun heq => hwhole.nonempty (hsame heq), chain, hwhole.trail, hlength⟩
    · refine Or.inr ⟨hancestor, ?_⟩
      rcases hend with rfl | hend
      · have hnil : chain = [] := by
          by_contra hne
          exact hancestor ⟨chain, hne, htrail⟩
        rw [hnil] at htrail
        exact Or.inl (eq_of_trail_nil htrail)
      · exact Or.inr ⟨top, chain, htrail, hend⟩
  · rintro (⟨hne, trail, htrail, hlength⟩ | ⟨hancestor, hfits⟩)
    · obtain ⟨r, hrun, hr⟩ := shipLoop_of_trail [] htrail hlength (Or.inl rfl)
      obtain ⟨htrail', honce, _⟩ := hr rfl
      have hnonempty : ∀ l, Trail referals.ValidUp fromMama l toMama → l ≠ [] := by
        rintro l hl rfl
        exact hne (eq_of_trail_nil hl)
      rw [List.append_nil] at hrun
      refine ⟨r, hrun, fun _ => ⟨htrail', hnonempty r htrail', honce⟩, fun hnot => ?_⟩
      exact absurd ⟨trail, hnonempty trail htrail, htrail⟩ hnot
    · obtain ⟨top, trail, htrail, hlength, hend⟩ : ∃ top trail,
          Trail referals.ValidUp top trail toMama ∧ trail.length ≤ 10 ∧
            (top = fromMama ∨ trail.length = 10) := by
        rcases hfits with rfl | ⟨top, trail, htrail, hlength⟩
        · exact ⟨toMama, [], Trail.start, by simp, Or.inl rfl⟩
        · exact ⟨top, trail, htrail, by omega, Or.inr hlength⟩
      obtain ⟨r, hrun, _⟩ := shipLoop_of_trail [] htrail hlength hend
      refine ⟨r ++ [], hrun, fun h => absurd h hancestor, fun _ hhead => ?_⟩
      obtain ⟨top', trail', hr, htrail', _⟩ := shipLoop_trail hrun
      rw [hr, List.append_nil] at hhead
      obtain rfl := Trail.head htrail' hhead
      exact hancestor ⟨trail', by rintro rfl; simp at hhead, htrail'⟩

theorem ship_chain_endless :
    ∃ (referals : Referals) (fromMama toMama : Nat), ¬ ChainLaw referals fromMama toMama := by
  refine ⟨fun _ => none, 2, 1, ?_⟩
  rintro ⟨chain, hreturns, _⟩
  exact absurd (returns_iff.1 hreturns) (by simp [getShipChain, shipLoop, validUpper])

end Referals

end ShopManager.Coupon
