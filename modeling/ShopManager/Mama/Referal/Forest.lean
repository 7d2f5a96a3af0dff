import ShopManager.Library.Execution
import ShopManager.Library.Forest
import ShopManager.Mama.Referal.Model

/-!
# The relation is a forest with its grandmas

Every operation leaves the relation alone or attaches one mama to another.  A mama
attached below herself closes a cycle, and one who has recommended others takes them
along without their grandma.
-/

namespace ShopManager.Mama.Referal

open Library Library.Tx Library.Execution Library.Forest ReferalRelationship

/-! ## Operations -/

inductive ReferalOp where
  | createByPotential (today : Date) (potential : PotentialMama)
  | update (toMama : Nat) (potential : PotentialMama)
  | changeMama (toMama upperMamaId : Nat) (isElite : Bool)
  | newElite (today : Date) (customer : Customer) (toMama : Nat) (so : SaleOrder)
  deriving Repr

namespace ReferalOp

def program : ReferalOp → ReferalTx Unit
  | createByPotential today potential => createRelationshipByPotential today potential
  | update toMama potential => do
      let _ ← updateReferalRelationship toMama potential
      pure ()
  | changeMama toMama upperMamaId isElite => do
      let _ ← changeReferalMama toMama upperMamaId isElite
      pure ()
  | newElite today customer toMama so => createNewEliteMama today customer toMama so

def exec (op : ReferalOp) (s : ReferalDb) : ReferalDb := (op.program.run s).2

end ReferalOp

namespace ReferalDb

def parentOf (s : ReferalDb) (mamaId : Nat) : Option Nat :=
  (s.relationships mamaId).map ReferalRelationship.referalFromMamaId

/-- No mama is her own ancestor, and each relationship has the grandma that the
relationship of its mama says. -/
structure IsForest (s : ReferalDb) : Prop where
  acyclic : Acyclic s.parentOf
  grandmas : ∀ mamaId ship, s.relationships mamaId = some ship →
    ship.referalFromGrandmaId = s.upperOf ship.referalFromMamaId

/-- `toMama` may be attached to `upper`: `upper` is not below her, and the mamas she
recommended keep their grandma. -/
structure CanAttach (s : ReferalDb) (toMama upper : Nat) : Prop where
  notBelow : ¬ Above s.parentOf upper toMama
  childless : ∀ mamaId, s.parentOf mamaId = some toMama → s.upperOf toMama = upper

/-- `s'` is `s` with `toMama` attached to `upper` under the written `grandma`. -/
def Attached (s s' : ReferalDb) (toMama upper grandma : Nat) : Prop :=
  ∃ ship : ReferalRelationship, ship.referalFromMamaId = upper ∧
    ship.referalFromGrandmaId = grandma ∧
      s'.relationships = Function.update s.relationships toMama (some ship)

variable {s s' : ReferalDb} {toMama upper grandma mamaId : Nat}

theorem upperOf_eq_of_parentOf (h : s.parentOf mamaId = some upper) :
    s.upperOf mamaId = upper := by
  show (s.parentOf mamaId).getD 0 = upper
  rw [h]
  rfl

namespace Attached

variable (h : Attached s s' toMama upper grandma)

include h

theorem parentOf : s'.parentOf = graft s.parentOf toMama upper := by
  obtain ⟨ship, hfrom, _, hrelationships⟩ := h
  funext mamaId
  rw [ReferalDb.parentOf, hrelationships]
  by_cases hm : mamaId = toMama
  · subst hm
    rw [Function.update_self, graft_self, Option.map_some, hfrom]
  · rw [Function.update_of_ne hm, graft_of_ne hm]
    rfl

theorem upperOf_self : s'.upperOf toMama = upper := by
  apply upperOf_eq_of_parentOf
  rw [h.parentOf, graft_self]

theorem upperOf_of_ne (hm : mamaId ≠ toMama) : s'.upperOf mamaId = s.upperOf mamaId := by
  show (s'.parentOf mamaId).getD 0 = (s.parentOf mamaId).getD 0
  rw [h.parentOf, graft_of_ne hm]

theorem isForest_iff (hs : s.IsForest) :
    s'.IsForest ↔ s.CanAttach toMama upper ∧ grandma = s.upperOf upper := by
  have hgraft : Acyclic s'.parentOf ↔ ¬ Above s.parentOf upper toMama := by
    rw [h.parentOf]
    exact acyclic_graft hs.acyclic
  obtain ⟨ship, hfrom, hgrandma, hrelationships⟩ := id h
  constructor
  · intro hs'
    have hbelow := hgraft.1 hs'.acyclic
    have hne : upper ≠ toMama := by
      rintro rfl
      exact hbelow Relation.ReflTransGen.refl
    refine ⟨⟨hbelow, ?_⟩, ?_⟩
    · intro child hchild
      have hc : child ≠ toMama := by
        rintro rfl
        exact hs.acyclic.not_above hchild Relation.ReflTransGen.refl
      obtain ⟨row, hrow, hrowfrom⟩ := Option.map_eq_some_iff.1 hchild
      have hold := hs.grandmas child row hrow
      have hnew := hs'.grandmas child row (by rw [hrelationships, Function.update_of_ne hc, hrow])
      rw [hrowfrom] at hold hnew
      rw [← hold, hnew, h.upperOf_self]
    · have hself := hs'.grandmas toMama ship (by rw [hrelationships, Function.update_self])
      rw [← hgrandma, hself, hfrom, h.upperOf_of_ne hne]
  · rintro ⟨⟨hbelow, hchildless⟩, hright⟩
    refine ⟨hgraft.2 hbelow, ?_⟩
    intro mamaId row hrow
    rw [hrelationships] at hrow
    have hne : upper ≠ toMama := by
      rintro rfl
      exact hbelow Relation.ReflTransGen.refl
    by_cases hm : mamaId = toMama
    · subst hm
      rw [Function.update_self] at hrow
      have hship : ship = row := Option.some.inj hrow
      rw [← hship, hgrandma, hfrom, h.upperOf_of_ne hne, hright]
    · rw [Function.update_of_ne hm] at hrow
      have hold := hs.grandmas mamaId row hrow
      by_cases hup : row.referalFromMamaId = toMama
      · have hchild : s.parentOf mamaId = some toMama := by
          rw [ReferalDb.parentOf, hrow, Option.map_some, hup]
        rw [hold, hup, hchildless mamaId hchild, h.upperOf_self]
      · rw [hold, h.upperOf_of_ne hup]

end Attached

end ReferalDb

/-! ## What an operation leaves behind -/

section Steps

variable {s : ReferalDb}

theorem updateMamaFans_relationships (toMama : Nat) (ship : ReferalRelationship) :
    Keeps (fun s s' => s'.relationships = s.relationships) (updateMamaFans toMama ship) := by
  intro s
  unfold updateMamaFans
  rw [gets_bind_run]
  cases s.mamas toMama with
  | none => rfl
  | some mama =>
    rw [getOr_bind_run]
    cases mama.customer with
    | none => rfl
    | some customer =>
      simp only [gets_bind_run]
      cases s.fans customer.id with
      | some fan => rfl
      | none =>
        cases (s.mamas ship.referalFromMamaId).bind XiaoluMama.customer with
        | none => rfl
        | some fromCustomer => rfl

variable {ship : ReferalRelationship}

theorem insert_taken {toMama : Nat} (h : (s.relationships toMama).isSome) :
    ((ReferalRelationship.insert toMama ship).run s).2 = s := by
  unfold ReferalRelationship.insert
  rw [gets_bind_run, raiseIf_bind_run, if_pos h]

theorem insert_free {toMama : Nat} (h : s.relationships toMama = none) :
    ((ReferalRelationship.insert toMama ship).run s).2.relationships =
      Function.update s.relationships toMama (some ship) := by
  have hfree : ¬ (s.relationships toMama).isSome = true := by simp [h]
  unfold ReferalRelationship.insert
  rw [gets_bind_run, raiseIf_bind_run, if_neg hfree, modify_bind_run]
  exact updateMamaFans_relationships toMama ship _

variable {potential : PotentialMama}

theorem create_attaches (today : Date) (h : s.relationships potential.potentialMama = none) :
    s.Attached ((createRelationshipByPotential today potential).run s).2
      potential.potentialMama potential.referalMama (s.upperOf potential.referalMama) := by
  unfold createRelationshipByPotential
  rw [gets_bind_run]
  exact ⟨_, rfl, rfl, insert_free h⟩

theorem create_taken (today : Date) (h : (s.relationships potential.potentialMama).isSome) :
    ((createRelationshipByPotential today potential).run s).2 = s := by
  unfold createRelationshipByPotential
  rw [gets_bind_run]
  exact insert_taken h

theorem update_refused {toMama : Nat}
    (h : s.relationships toMama = some ship) (hrefuses : ship.refuses potential = true) :
    ((updateReferalRelationship toMama potential).run s).2 = s := by
  unfold updateReferalRelationship
  rw [getOr_bind_run, h]
  dsimp only
  rw [if_pos hrefuses, pure_run]

theorem update_attaches {toMama : Nat}
    (h : s.relationships toMama = some ship) (hrefuses : ¬ ship.refuses potential = true) :
    s.Attached ((updateReferalRelationship toMama potential).run s).2 toMama
      potential.referalMama
      (if ship.referalFromMamaId = potential.referalMama then ship.referalFromGrandmaId
        else s.upperOf potential.referalMama) := by
  refine ⟨ship.updated s potential, ?_, ?_, ?_⟩
  · unfold updated
    by_cases hfrom : ship.referalFromMamaId = potential.referalMama
    · simp [hfrom]
    · simp [hfrom]
  · unfold updated
    by_cases hfrom : ship.referalFromMamaId = potential.referalMama
    · simp [hfrom]
    · simp [hfrom]
  · unfold updateReferalRelationship
    rw [getOr_bind_run, h]
    dsimp only
    rw [if_neg hrefuses, gets_bind_run, modify_bind_run]
    rfl

theorem change_attaches {toMama : Nat} (upperMamaId : Nat)
    (isElite : Bool) (h : s.relationships toMama = some ship) :
    s.Attached ((changeReferalMama toMama upperMamaId isElite).run s).2 toMama upperMamaId
      (s.validUpperOf upperMamaId) := by
  refine ⟨ship.changed s upperMamaId isElite, ?_, ?_, ?_⟩
  · unfold changed
    dsimp only
    split <;> rfl
  · unfold changed
    dsimp only
    split <;> rfl
  · unfold changeReferalMama
    rw [getOr_bind_run, h]
    rfl

theorem newElite_attaches (today : Date) {customer : Customer} {toMamaId upperMamaId : Nat}
    {so : SaleOrder} {toMama : XiaoluMama} (h : s.mamas toMamaId = some toMama)
    (hsettled : ¬ toMama.isSettled = true)
    (hupper : eliteUpper s customer toMamaId so = some upperMamaId) :
    s.Attached ((createNewEliteMama today customer toMamaId so).run s).2 toMamaId upperMamaId
      (eliteGrandma s upperMamaId) := by
  have hgrandma : ∀ mama, eliteGrandma (s.setMama toMamaId mama) upperMamaId =
      eliteGrandma s upperMamaId := by
    intro mama
    have hsome : ((s.setMama toMamaId mama).mamas upperMamaId).isSome =
        (s.mamas upperMamaId).isSome := by
      show (Function.update s.mamas toMamaId (some mama) upperMamaId).isSome = _
      by_cases hm : upperMamaId = toMamaId
      · rw [hm, Function.update_self, h]
        rfl
      · rw [Function.update_of_ne hm]
    unfold eliteGrandma
    rw [hsome]
    rfl
  unfold createNewEliteMama
  rw [getOr_bind_run, h]
  dsimp only
  rw [if_neg hsettled, getOr_bind_run, hupper]
  dsimp only
  rw [gets_bind_run, modify_bind_run, gets_bind_run, hgrandma]
  cases hship : s.relationships toMamaId with
  | some ship => exact ⟨_, rfl, rfl, rfl⟩
  | none => exact ⟨_, rfl, rfl, insert_free hship⟩

theorem newElite_settled (today : Date) {customer : Customer} {toMamaId : Nat} {so : SaleOrder}
    {toMama : XiaoluMama} (h : s.mamas toMamaId = some toMama)
    (hsettled : toMama.isSettled = true) :
    ((createNewEliteMama today customer toMamaId so).run s).2 = s := by
  unfold createNewEliteMama
  rw [getOr_bind_run, h]
  dsimp only
  rw [if_pos hsettled, pure_run]

theorem newElite_unlinked (today : Date) {customer : Customer} {toMamaId : Nat} {so : SaleOrder}
    {toMama : XiaoluMama} (h : s.mamas toMamaId = some toMama)
    (hsettled : ¬ toMama.isSettled = true) (hupper : eliteUpper s customer toMamaId so = none) :
    ((createNewEliteMama today customer toMamaId so).run s).2 = s := by
  unfold createNewEliteMama
  rw [getOr_bind_run, h]
  dsimp only
  rw [if_neg hsettled, getOr_bind_run, hupper]

end Steps

/-! ## The operations that keep the law -/

namespace ReferalDb

variable {s : ReferalDb} {toMama upper : Nat}

theorem validUpperOf_eq_iff : s.validUpperOf upper = s.upperOf upper ↔
    ∀ ship, s.relationships upper = some ship → ship.status = .invalid →
      ship.referalFromMamaId = 0 := by
  unfold validUpperOf upperOf
  cases h : s.relationships upper with
  | none => simp
  | some ship =>
    cases hstatus : ship.status with
    | valid => simp [Option.filter, hstatus]
    | invalid =>
      simp only [Option.filter, hstatus]
      constructor
      · rintro hzero _ ⟨⟩ _
        exact hzero.symm
      · intro hzero
        exact (hzero ship rfl hstatus).symm

theorem eliteGrandma_eq_iff : eliteGrandma s upper = s.upperOf upper ↔
    (s.mamas upper = none → s.upperOf upper = 0) := by
  unfold eliteGrandma
  cases h : s.mamas upper with
  | none => simp [eq_comm]
  | some mama => simp

theorem canAttach_of_leaf (hleaf : ∀ mamaId, s.parentOf mamaId ≠ some toMama)
    (hne : upper ≠ toMama) : s.CanAttach toMama upper where
  notBelow habove := by
    rcases Relation.ReflTransGen.cases_tail habove with heq | ⟨mamaId, _, hlast⟩
    · exact hne heq.symm
    · exact hleaf mamaId hlast
  childless mamaId hchild := absurd hchild (hleaf mamaId)

end ReferalDb

namespace ReferalOp

/-- The operation attaches nobody, or attaches a mama who may be attached, under a mama
whose own relationship the lookup of the grandma finds. -/
def Sound (s : ReferalDb) : ReferalOp → Prop
  | createByPotential _ potential =>
      s.relationships potential.potentialMama = none →
        s.CanAttach potential.potentialMama potential.referalMama
  | update toMama potential =>
      ∀ ship, s.relationships toMama = some ship → ship.refuses potential = false →
        s.CanAttach toMama potential.referalMama
  | changeMama toMama upper _ =>
      (s.relationships toMama).isSome → s.CanAttach toMama upper ∧
        ∀ ship, s.relationships upper = some ship → ship.status = .invalid →
          ship.referalFromMamaId = 0
  | newElite _ customer toMama so =>
      ∀ mama upper, s.mamas toMama = some mama → mama.isSettled = false →
        eliteUpper s customer toMama so = some upper →
          s.CanAttach toMama upper ∧ (s.mamas upper = none → s.upperOf upper = 0)

variable {s : ReferalDb}

theorem create_isForest_iff (hs : s.IsForest) (today : Date) (potential : PotentialMama) :
    ((createByPotential today potential).exec s).IsForest ↔
      (createByPotential today potential).Sound s := by
  show ((createRelationshipByPotential today potential).run s).2.IsForest ↔ _
  simp only [Sound]
  cases h : s.relationships potential.potentialMama with
  | some ship =>
    rw [create_taken today (by rw [h]; rfl)]
    simpa using hs
  | none =>
    rw [(create_attaches today h).isForest_iff hs]
    simp

theorem update_isForest_iff (hs : s.IsForest) (toMama : Nat) (potential : PotentialMama) :
    ((update toMama potential).exec s).IsForest ↔ (update toMama potential).Sound s := by
  have hexec : (update toMama potential).exec s =
      ((updateReferalRelationship toMama potential).run s).2 := by
    show ((updateReferalRelationship toMama potential >>= fun _ => pure ()).run s).2 = _
    rw [bind_pure_run]
  rw [hexec]
  simp only [Sound]
  cases h : s.relationships toMama with
  | none =>
    unfold updateReferalRelationship
    rw [getOr_bind_run, h]
    simpa using hs
  | some ship =>
    by_cases hrefuses : ship.refuses potential = true
    · rw [update_refused h hrefuses]
      simp [hs, hrefuses]
    · have hgrandma : (if ship.referalFromMamaId = potential.referalMama then
          ship.referalFromGrandmaId else s.upperOf potential.referalMama) =
            s.upperOf potential.referalMama := by
        split
        · rename_i hfrom
          rw [hs.grandmas toMama ship h, hfrom]
        · rfl
      rw [(update_attaches h hrefuses).isForest_iff hs]
      simp [hgrandma, hrefuses]

theorem changeMama_isForest_iff (hs : s.IsForest) (toMama upper : Nat) (isElite : Bool) :
    ((changeMama toMama upper isElite).exec s).IsForest ↔
      (changeMama toMama upper isElite).Sound s := by
  have hexec : (changeMama toMama upper isElite).exec s =
      ((changeReferalMama toMama upper isElite).run s).2 := by
    show ((changeReferalMama toMama upper isElite >>= fun _ => pure ()).run s).2 = _
    rw [bind_pure_run]
  rw [hexec]
  simp only [Sound]
  cases h : s.relationships toMama with
  | none =>
    unfold changeReferalMama
    rw [getOr_bind_run, h]
    simpa using hs
  | some ship =>
    rw [(change_attaches upper isElite h).isForest_iff hs, ReferalDb.validUpperOf_eq_iff]
    simp

theorem newElite_isForest_iff (hs : s.IsForest) (today : Date) (customer : Customer)
    (toMamaId : Nat) (so : SaleOrder) :
    ((newElite today customer toMamaId so).exec s).IsForest ↔
      (newElite today customer toMamaId so).Sound s := by
  show ((createNewEliteMama today customer toMamaId so).run s).2.IsForest ↔ _
  simp only [Sound]
  cases h : s.mamas toMamaId with
  | none =>
    unfold createNewEliteMama
    rw [getOr_bind_run, h]
    simpa using hs
  | some toMama =>
    by_cases hsettled : toMama.isSettled = true
    · rw [newElite_settled today h hsettled]
      refine ⟨fun _ mama upper hmama hopen => ?_, fun _ => hs⟩
      rw [← Option.some.inj hmama, hsettled] at hopen
      cases hopen
    · cases hupper : eliteUpper s customer toMamaId so with
      | none =>
        rw [newElite_unlinked today h hsettled hupper]
        simp [hs]
      | some upper =>
        rw [(newElite_attaches today h hsettled hupper).isForest_iff hs,
          ReferalDb.eliteGrandma_eq_iff]
        simp [hsettled]

theorem exec_isForest_iff (hs : s.IsForest) (op : ReferalOp) :
    (op.exec s).IsForest ↔ op.Sound s := by
  cases op with
  | createByPotential today potential => exact create_isForest_iff hs today potential
  | update toMama potential => exact update_isForest_iff hs toMama potential
  | changeMama toMama upper isElite => exact changeMama_isForest_iff hs toMama upper isElite
  | newElite today customer toMama so => exact newElite_isForest_iff hs today customer toMama so

end ReferalOp

/-- In every run from a forest the relation is a forest with its grandmas throughout,
exactly when every operation of the run is sound. -/
theorem referal_forest_iff (ops : List ReferalOp) (s : ReferalDb) (hs : s.IsForest) :
    Throughout ReferalOp.exec ReferalDb.IsForest ops s ↔
      Guarded ReferalOp.exec (fun s op => op.Sound s) ops s := by
  have halways : ∀ (s : ReferalDb) (op : ReferalOp), True → True := fun _ _ h => h
  have hstep : ∀ (s : ReferalDb) (op : ReferalOp), True → s.IsForest →
      ((op.exec s).IsForest ↔ op.Sound s) :=
    fun _ op _ hforest => ReferalOp.exec_isForest_iff hforest op
  exact throughout_iff_guarded halways hstep ops s trivial hs

def noReferals : ReferalDb where
  relationships _ := none
  mamas mamaId := some
    { lastRenewType := .trial
      chargeStatus := .uncharge
      status := .effect
      referalFrom := .unset
      customer := some { id := mamaId, nick := "", thumbnail := "" } }
  fans _ := none

theorem noReferals_isForest : noReferals.IsForest where
  acyclic := acyclic_none
  grandmas _ _ h := absurd h (by simp [noReferals])

/-- `mamaId` joins through `upper`. -/
def joins (mamaId upper : Nat) : ReferalOp :=
  .createByPotential { isoformat := "2017-05-01" }
    { potentialMama := mamaId
      referalMama := upper
      nick := ""
      thumbnail := ""
      lastRenewType := .full
      oid := some "xo1"
      cashoutId := none }

/-- `mamaId` joins through a link of `upper`. -/
def joinsByLink (mamaId upper : Nat) : ReferalOp :=
  .newElite { isoformat := "2017-05-02" } { id := mamaId, nick := "", thumbnail := "" } mamaId
    { oid := "xo2", modelId := 94, mmLinkid := some (.text (some upper)) }

theorem referal_forest_sample :
    Throughout ReferalOp.exec ReferalDb.IsForest
      [joins 2 1, joinsByLink 3 2, .changeMama 3 1 true] noReferals := by
  apply (referal_forest_iff _ _ noReferals_isForest).2
  have hone : (ReferalOp.exec (joins 2 1) noReferals).parentOf =
      graft noReferals.parentOf 2 1 :=
    (create_attaches (s := noReferals) _ rfl).parentOf
  have htwo : (ReferalOp.exec (joinsByLink 3 2) (ReferalOp.exec (joins 2 1) noReferals)).parentOf =
      graft (graft noReferals.parentOf 2 1) 3 2 := by
    rw [← hone]
    exact (newElite_attaches (s := ReferalOp.exec (joins 2 1) noReferals) _ rfl
      (by decide) rfl).parentOf
  refine ⟨?_, ?_, ?_, trivial⟩
  · intro _
    apply ReferalDb.canAttach_of_leaf
    · intro mamaId
      simp [ReferalDb.parentOf, noReferals]
    · decide
  · intro mama upper _ _ hupper
    have hlinked : some 2 = some upper := hupper
    obtain rfl := Option.some.inj hlinked
    refine ⟨?_, fun hnone => absurd hnone (by decide)⟩
    apply ReferalDb.canAttach_of_leaf
    · intro mamaId
      rw [hone]
      unfold graft Function.update
      split <;> simp [ReferalDb.parentOf, noReferals]
    · decide
  · intro _
    refine ⟨?_, ?_⟩
    · apply ReferalDb.canAttach_of_leaf
      · intro mamaId
        rw [htwo]
        unfold graft Function.update
        split
        · simp
        · split <;> simp [ReferalDb.parentOf, noReferals]
      · decide
    · intro ship hship
      have hnone : (ReferalOp.exec (joinsByLink 3 2)
          (ReferalOp.exec (joins 2 1) noReferals)).relationships 1 = none := rfl
      rw [hnone] at hship
      cases hship

/-- The mama in the middle goes to another one, and the one below her keeps the old
grandma; and two mamas who join through each other are each above herself. -/
theorem referal_forest_fails :
    ¬ Throughout ReferalOp.exec ReferalDb.IsForest
        [joins 2 1, joins 3 2, .changeMama 2 4 true] noReferals ∧
      ¬ Acyclic (run ReferalOp.exec [joins 2 1, joins 1 2] noReferals).parentOf := by
  constructor
  · intro h
    have hgrandma := h.last.grandmas 3 _ rfl
    exact absurd hgrandma (by decide)
  · intro h
    have hup : Up (run ReferalOp.exec [joins 2 1, joins 1 2] noReferals).parentOf 1 2 := rfl
    have hdown : Up (run ReferalOp.exec [joins 2 1, joins 1 2] noReferals).parentOf 2 1 := rfl
    exact h 1 (Relation.TransGen.tail (Relation.TransGen.single hup) hdown)

end ShopManager.Mama.Referal
