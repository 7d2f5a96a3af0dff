import Mathlib.Data.List.Infix

/-!
# Executions

A system takes one operation after another.  `run exec ops s` is the state that
a finite sequence of operations reaches, and `Guarded` says that a condition on
the state before a step and on the operation holds at every step.  The rules
turn what one step does into what a whole run does.
-/

namespace ShopManager.Library.Execution

variable {σ ω : Type} {exec : ω → σ → σ}

/-- The state reached from `s` by the operations in turn. -/
def run (exec : ω → σ → σ) (ops : List ω) (s : σ) : σ :=
  ops.foldl (fun s op => exec op s) s

@[simp] theorem run_nil (s : σ) : run exec [] s = s := rfl

@[simp] theorem run_cons (op : ω) (ops : List ω) (s : σ) :
    run exec (op :: ops) s = run exec ops (exec op s) := rfl

theorem run_append (ops ops' : List ω) (s : σ) :
    run exec (ops ++ ops') s = run exec ops' (run exec ops s) :=
  List.foldl_append

/-- `I` holds of every state that the run passes through. -/
def Throughout (exec : ω → σ → σ) (I : σ → Prop) (ops : List ω) (s : σ) : Prop :=
  ∀ done, done <+: ops → I (run exec done s)

/-- Every operation of the run meets `guard` in the state it is applied to. -/
def Guarded (exec : ω → σ → σ) (guard : σ → ω → Prop) : List ω → σ → Prop
  | [], _ => True
  | op :: ops, s => guard s op ∧ Guarded exec guard ops (exec op s)

instance Guarded.decidable {guard : σ → ω → Prop} [∀ s op, Decidable (guard s op)] :
    ∀ ops s, Decidable (Guarded exec guard ops s)
  | [], _ => isTrue trivial
  | op :: ops, s =>
      have : Decidable (Guarded exec guard ops (exec op s)) :=
        Guarded.decidable ops (exec op s)
      inferInstanceAs (Decidable (guard s op ∧ Guarded exec guard ops (exec op s)))

theorem Guarded.mono {guard guard' : σ → ω → Prop} (h : ∀ s op, guard s op → guard' s op) :
    ∀ {ops : List ω} {s : σ}, Guarded exec guard ops s → Guarded exec guard' ops s := by
  intro ops
  induction ops with
  | nil =>
    intro s _
    trivial
  | cons op ops ih =>
    rintro s ⟨hop, hrest⟩
    exact ⟨h s op hop, ih hrest⟩

theorem guarded_of_forall {guard : σ → ω → Prop} (h : ∀ s op, guard s op) :
    ∀ (ops : List ω) (s : σ), Guarded exec guard ops s := by
  intro ops
  induction ops with
  | nil =>
    intro s
    trivial
  | cons op ops ih =>
    intro s
    exact ⟨h s op, ih _⟩

theorem guarded_const {guard : ω → Prop} {ops : List ω} {s : σ} :
    Guarded exec (fun _ op => guard op) ops s ↔ ∀ op ∈ ops, guard op := by
  induction ops generalizing s with
  | nil => exact ⟨fun _ op hop => absurd hop List.not_mem_nil, fun _ => trivial⟩
  | cons op ops ih =>
    rw [List.forall_mem_cons]
    exact and_congr Iff.rfl ih

theorem Throughout.cons {I : σ → Prop} {op : ω} {ops : List ω} {s : σ} :
    Throughout exec I (op :: ops) s ↔ I s ∧ Throughout exec I ops (exec op s) := by
  constructor
  · intro h
    refine ⟨h [] List.nil_prefix, ?_⟩
    intro done hdone
    have hcons : op :: done <+: op :: ops := List.cons_prefix_cons.2 ⟨rfl, hdone⟩
    simpa using h (op :: done) hcons
  · rintro ⟨hs, h⟩ done hdone
    rcases List.prefix_cons_iff.1 hdone with rfl | ⟨done', rfl, hdone'⟩
    · exact hs
    · simpa using h done' hdone'

theorem Throughout.nil {I : σ → Prop} {s : σ} : Throughout exec I [] s ↔ I s := by
  constructor
  · intro h
    exact h [] List.nil_prefix
  · intro h done hdone
    rw [List.prefix_nil.1 hdone]
    exact h

theorem Throughout.last {I : σ → Prop} {ops : List ω} {s : σ}
    (h : Throughout exec I ops s) : I (run exec ops s) :=
  h ops List.prefix_rfl

theorem throughout_of_step {I : σ → Prop} (hstep : ∀ s op, I s → I (exec op s)) :
    ∀ (ops : List ω) (s : σ), I s → Throughout exec I ops s := by
  intro ops
  induction ops with
  | nil =>
    intro s hs
    exact Throughout.nil.2 hs
  | cons op ops ih =>
    intro s hs
    exact Throughout.cons.2 ⟨hs, ih _ (hstep s op hs)⟩

/-- A condition that each step keeps exactly when its guard holds is kept by a
run exactly when the run is guarded.  `Always` is what the steps keep without
a guard. -/
theorem throughout_iff_guarded {Always I : σ → Prop} {guard : σ → ω → Prop}
    (halways : ∀ s op, Always s → Always (exec op s))
    (hstep : ∀ s op, Always s → I s → (I (exec op s) ↔ guard s op)) :
    ∀ (ops : List ω) (s : σ), Always s → I s →
      (Throughout exec I ops s ↔ Guarded exec guard ops s) := by
  intro ops
  induction ops with
  | nil =>
    intro s _ hs
    exact ⟨fun _ => trivial, fun _ => Throughout.nil.2 hs⟩
  | cons op ops ih =>
    intro s ha hs
    rw [Throughout.cons]
    constructor
    · rintro ⟨_, h⟩
      have hnext : I (exec op s) := h [] List.nil_prefix
      exact ⟨(hstep s op ha hs).1 hnext, (ih _ (halways s op ha) hnext).1 h⟩
    · rintro ⟨hg, h⟩
      have hnext : I (exec op s) := (hstep s op ha hs).2 hg
      exact ⟨hs, (ih _ (halways s op ha) hnext).2 h⟩

theorem throughout_of_guarded {I : σ → Prop} {guard : σ → ω → Prop}
    (hstep : ∀ s op, I s → guard s op → I (exec op s)) :
    ∀ (ops : List ω) (s : σ), I s → Guarded exec guard ops s →
      Throughout exec I ops s := by
  intro ops
  induction ops with
  | nil =>
    intro s hs _
    exact Throughout.nil.2 hs
  | cons op ops ih =>
    rintro s hs ⟨hg, h⟩
    exact Throughout.cons.2 ⟨hs, ih _ (hstep s op hs hg) h⟩

/-- Two conditions that agree on the states in `I`, which the second keeps. -/
theorem guarded_iff_guarded {I : σ → Prop} {guard guard' : σ → ω → Prop}
    (hiff : ∀ s op, I s → (guard s op ↔ guard' s op))
    (hkeeps : ∀ s op, I s → guard' s op → I (exec op s)) :
    ∀ (ops : List ω) (s : σ), I s →
      (Guarded exec guard ops s ↔ Guarded exec guard' ops s) := by
  intro ops
  induction ops with
  | nil =>
    intro s _
    exact Iff.rfl
  | cons op ops ih =>
    intro s hs
    constructor
    · rintro ⟨hop, hrest⟩
      have hguard : guard' s op := (hiff s op hs).1 hop
      exact ⟨hguard, (ih _ (hkeeps s op hs hguard)).1 hrest⟩
    · rintro ⟨hop, hrest⟩
      exact ⟨(hiff s op hs).2 hop, (ih _ (hkeeps s op hs hop)).2 hrest⟩

/-- Steps that meet the first condition from states in `I` meet the second one, and end in
`I`. -/
theorem guarded_of_guarded {I : σ → Prop} {guard law : σ → ω → Prop}
    (hstep : ∀ s op, I s → guard s op → law s op)
    (hinv : ∀ s op, I s → guard s op → I (exec op s)) :
    ∀ (ops : List ω) (s : σ), I s → Guarded exec guard ops s → Guarded exec law ops s := by
  intro ops
  induction ops with
  | nil =>
    intro s _ _
    trivial
  | cons op ops ih =>
    rintro s hs ⟨hg, h⟩
    exact ⟨hstep s op hs hg, ih _ (hinv s op hs hg) h⟩

theorem Guarded.append {guard : σ → ω → Prop} {ops ops' : List ω} {s : σ}
    (h : Guarded exec guard (ops ++ ops') s) :
    Guarded exec guard ops s ∧ Guarded exec guard ops' (run exec ops s) := by
  induction ops generalizing s with
  | nil => exact ⟨trivial, h⟩
  | cons op ops ih =>
    obtain ⟨hop, hrest⟩ := h
    obtain ⟨hops, hops'⟩ := ih hrest
    exact ⟨⟨hop, hops⟩, hops'⟩

theorem Guarded.reaches {guard : σ → ω → Prop} {I goal : σ → Prop} {distance : σ → ℕ}
    (hstep : ∀ s op, I s → ¬ goal s → guard s op →
      goal (exec op s) ∨ (I (exec op s) ∧ distance (exec op s) < distance s)) :
    ∀ {ops : List ω} {s : σ}, I s → Guarded exec guard ops s → distance s < ops.length →
      ∃ before, before <+: ops ∧ goal (run exec before s) := by
  intro ops
  induction ops with
  | nil => exact fun _ _ hlt => absurd hlt (Nat.not_lt_zero _)
  | cons op ops ih =>
    rintro s hs ⟨hop, hrest⟩ hlt
    by_cases hgoal : goal s
    · exact ⟨[], List.nil_prefix, hgoal⟩
    rcases hstep s op hs hgoal hop with hdone | ⟨hnext, hnearer⟩
    · exact ⟨[op], (List.prefix_cons_inj op).mpr List.nil_prefix, hdone⟩
    · rw [List.length_cons] at hlt
      obtain ⟨before, hbefore, hreached⟩ := ih hnext hrest (by omega)
      exact ⟨op :: before, (List.prefix_cons_inj op).mpr hbefore, hreached⟩

/-- Every step of the run relates its two states by `R`. -/
def Stepwise (exec : ω → σ → σ) (R : σ → σ → Prop) : List ω → σ → Prop :=
  Guarded exec fun s op => R s (exec op s)

theorem stepwise_iff_guarded {Always : σ → Prop} {R : σ → σ → Prop} {guard : σ → ω → Prop}
    (halways : ∀ s op, Always s → Always (exec op s))
    (hstep : ∀ s op, Always s → (R s (exec op s) ↔ guard s op)) :
    ∀ (ops : List ω) (s : σ), Always s →
      (Stepwise exec R ops s ↔ Guarded exec guard ops s) := by
  intro ops
  induction ops with
  | nil =>
    intro s _
    exact Iff.rfl
  | cons op ops ih =>
    intro s hs
    exact and_congr (hstep s op hs) (ih (exec op s) (halways s op hs))

/-- Guarded steps from states in `I` obey the law and end in `I`. -/
theorem stepwise_of_guarded {I : σ → Prop} {R : σ → σ → Prop} {guard : σ → ω → Prop}
    (hstep : ∀ s op, I s → guard s op → R s (exec op s))
    (hinv : ∀ s op, I s → guard s op → I (exec op s)) :
    ∀ (ops : List ω) (s : σ), I s → Guarded exec guard ops s → Stepwise exec R ops s :=
  guarded_of_guarded hstep hinv

end ShopManager.Library.Execution
