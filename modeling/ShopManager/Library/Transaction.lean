import Mathlib.Tactic.Common

/-!
# Database programs

A request handler reads and writes a store, may raise, and may guard a part of
its work by an atomic block that a raised exception rolls back.  `Tx σ ε α` is
that shape: what has been written before an exception stays written unless an
`atomic` block encloses it.  The rules below run a program, bound what it does
to the store, and carry an invariant through it.
-/

namespace ShopManager.Library

/-- A program over the store `σ` that ends in a value or in an exception, and
in both cases in a store. -/
structure Tx (σ ε α : Type) where
  run : σ → Except ε α × σ

namespace Tx

variable {σ τ ε α β : Type}

protected def pure (a : α) : Tx σ ε α := ⟨fun s => (.ok a, s)⟩

protected def bind (m : Tx σ ε α) (f : α → Tx σ ε β) : Tx σ ε β := ⟨fun s =>
  match m.run s with
  | (.ok a, s') => (f a).run s'
  | (.error e, s') => (.error e, s')⟩

instance : Monad (Tx σ ε) where
  pure := Tx.pure
  bind := Tx.bind

def raise (e : ε) : Tx σ ε α := ⟨fun s => (.error e, s)⟩

/-- A query: the store is read and left alone. -/
def gets (f : σ → α) : Tx σ ε α := ⟨fun s => (.ok (f s), s)⟩

def modify (f : σ → σ) : Tx σ ε Unit := ⟨fun s => (.ok (), f s)⟩

def raiseIf (p : Prop) [Decidable p] (e : ε) : Tx σ ε Unit :=
  if p then raise e else pure ()

def ofExcept : Except ε α → Tx σ ε α
  | .ok a => pure a
  | .error e => raise e

/-- `objects.get`: the row, or the exception for a missing one. -/
def getOr (e : ε) (f : σ → Option α) : Tx σ ε α := ⟨fun s =>
  match f s with
  | some a => (.ok a, s)
  | none => (.error e, s)⟩

/-- `with transaction.atomic()`: an exception that leaves the block undoes
every write made inside it. -/
def atomic (m : Tx σ ε α) : Tx σ ε α := ⟨fun s =>
  match m.run s with
  | (.ok a, s') => (.ok a, s')
  | (.error e, _) => (.error e, s)⟩

def tryCatch (m : Tx σ ε α) (handler : ε → Tx σ ε α) : Tx σ ε α := ⟨fun s =>
  match m.run s with
  | (.ok a, s') => (.ok a, s')
  | (.error e, s') => (handler e).run s'⟩

/-- Run a program of one part of the store on the whole of it. -/
def zoom (part : σ → τ) (put : τ → σ → σ) (m : Tx τ ε α) : Tx σ ε α := ⟨fun s =>
  ((m.run (part s)).1, put (m.run (part s)).2 s)⟩

def forEach : List α → (α → Tx σ ε Unit) → Tx σ ε Unit
  | [], _ => pure ()
  | a :: as, body => do
      body a
      forEach as body

/-! ## Running the primitives -/

@[simp] theorem pure_run (a : α) (s : σ) :
    (pure a : Tx σ ε α).run s = (.ok a, s) := rfl

theorem bind_run (m : Tx σ ε α) (f : α → Tx σ ε β) (s : σ) :
    (m >>= f).run s = match m.run s with
      | (.ok a, s') => (f a).run s'
      | (.error e, s') => (.error e, s') := rfl

theorem bind_ok {m : Tx σ ε α} {f : α → Tx σ ε β} {s s' : σ} {a : α}
    (h : m.run s = (.ok a, s')) : (m >>= f).run s = (f a).run s' := by
  rw [bind_run, h]

theorem bind_error {m : Tx σ ε α} {f : α → Tx σ ε β} {s s' : σ} {e : ε}
    (h : m.run s = (.error e, s')) : (m >>= f).run s = (.error e, s') := by
  rw [bind_run, h]

theorem bind_bind {γ : Type} (m : Tx σ ε α) (f : α → Tx σ ε β) (g : β → Tx σ ε γ) :
    m >>= f >>= g = m >>= fun a => f a >>= g := by
  refine congrArg Tx.mk (funext fun s => ?_)
  rw [bind_run]
  change _ = (m >>= fun a => f a >>= g).run s
  rw [bind_run]
  cases hrun : m.run s with
  | mk res s' => cases res <;> rfl

@[simp] theorem pure_bind_run (a : α) (f : α → Tx σ ε β) (s : σ) :
    (pure a >>= f).run s = (f a).run s := rfl

theorem bind_pure_run (m : Tx σ ε α) (g : α → β) (s : σ) :
    (m >>= fun a => pure (g a)).run s = ((m.run s).1.map g, (m.run s).2) := by
  rw [bind_run]
  cases hrun : m.run s with
  | mk res s' => cases res <;> rfl

@[simp] theorem gets_run (f : σ → α) (s : σ) :
    (gets f : Tx σ ε α).run s = (.ok (f s), s) := rfl

@[simp] theorem gets_bind_run (g : σ → α) (f : α → Tx σ ε β) (s : σ) :
    (gets g >>= f).run s = (f (g s)).run s := rfl

@[simp] theorem modify_run (f : σ → σ) (s : σ) :
    (modify f : Tx σ ε Unit).run s = (.ok (), f s) := rfl

@[simp] theorem modify_bind_run (g : σ → σ) (f : Unit → Tx σ ε β) (s : σ) :
    (modify g >>= f).run s = (f ()).run (g s) := rfl

@[simp] theorem raise_run (e : ε) (s : σ) :
    (raise e : Tx σ ε α).run s = (.error e, s) := rfl

@[simp] theorem raise_bind_run (e : ε) (f : α → Tx σ ε β) (s : σ) :
    (raise e >>= f).run s = (.error e, s) := rfl

@[simp] theorem raiseIf_run (p : Prop) [Decidable p] (e : ε) (s : σ) :
    (raiseIf p e : Tx σ ε Unit).run s =
      if p then (.error e, s) else (.ok (), s) := by
  unfold raiseIf
  split <;> rfl

theorem raiseIf_bind_run (p : Prop) [Decidable p] (e : ε) (f : Unit → Tx σ ε β)
    (s : σ) :
    (raiseIf p e >>= f).run s = if p then (.error e, s) else (f ()).run s := by
  rw [bind_run, raiseIf_run]
  by_cases h : p
  · simp only [if_pos h]
  · simp only [if_neg h]

theorem ofExcept_bind_run (r : Except ε α) (f : α → Tx σ ε β) (s : σ) :
    (ofExcept r >>= f).run s = match r with
      | .ok a => (f a).run s
      | .error e => (.error e, s) := by
  cases r <;> rfl

theorem getOr_bind_run (e : ε) (f : σ → Option α) (k : α → Tx σ ε β) (s : σ) :
    (getOr e f >>= k).run s = match f s with
      | some a => (k a).run s
      | none => (.error e, s) := by
  simp only [bind_run, getOr]
  cases f s <;> rfl

theorem getOr_some {e : ε} {f : σ → Option α} {s : σ} {a : α} (h : f s = some a) :
    (getOr e f : Tx σ ε α).run s = (.ok a, s) := by
  simp only [getOr, h]

theorem getOr_none {e : ε} {f : σ → Option α} {s : σ} (h : f s = none) :
    (getOr e f : Tx σ ε α).run s = (.error e, s) := by
  simp only [getOr, h]

theorem atomic_ok {m : Tx σ ε α} {s s' : σ} {a : α} (h : m.run s = (.ok a, s')) :
    (atomic m).run s = (.ok a, s') := by
  simp only [atomic, h]

theorem atomic_error {m : Tx σ ε α} {s s' : σ} {e : ε}
    (h : m.run s = (.error e, s')) : (atomic m).run s = (.error e, s) := by
  simp only [atomic, h]

@[simp] theorem zoom_snd (part : σ → τ) (put : τ → σ → σ) (m : Tx τ ε α) (s : σ) :
    ((zoom part put m).run s).2 = put (m.run (part s)).2 s := rfl

theorem tryCatch_ok {m : Tx σ ε α} {handler : ε → Tx σ ε α} {s s' : σ} {a : α}
    (h : m.run s = (.ok a, s')) : (tryCatch m handler).run s = (.ok a, s') := by
  simp only [tryCatch, h]

theorem tryCatch_error {m : Tx σ ε α} {handler : ε → Tx σ ε α} {s s' : σ} {e : ε}
    (h : m.run s = (.error e, s')) :
    (tryCatch m handler).run s = (handler e).run s' := by
  simp only [tryCatch, h]

theorem atomic_raise {m : Tx σ ε α} {s : σ} {e : ε} (h : m.run s = (.error e, s)) :
    (atomic m).run s = (.error e, s) := atomic_error h

theorem atomic_of_raises {m : Tx σ ε α} {s : σ} (a : α)
    (h : ∃ e s', m.run s = (.error e, s')) :
    ∃ r, r ≠ .ok a ∧ (atomic m).run s = (r, s) := by
  obtain ⟨e, s', hrun⟩ := h
  exact ⟨.error e, by simp, atomic_error hrun⟩

theorem zoom_bind_run (part : σ → τ) (put : τ → σ → σ) (m : Tx τ ε α)
    (f : α → Tx σ ε β) (s : σ) :
    (zoom part put m >>= f).run s = match m.run (part s) with
      | (.ok a, s') => (f a).run (put s' s)
      | (.error e, s') => (.error e, put s' s) := by
  simp only [bind_run, zoom]
  cases m.run (part s) with
  | mk res s' => cases res <;> rfl

@[simp] theorem forEach_nil (body : α → Tx σ ε Unit) (s : σ) :
    (forEach [] body).run s = (.ok (), s) := rfl

theorem forEach_cons (a : α) (as : List α) (body : α → Tx σ ε Unit) :
    forEach (a :: as) body = (body a >>= fun _ => forEach as body) := rfl

/-! ## Successful runs -/

theorem bind_eq_ok {m : Tx σ ε α} {f : α → Tx σ ε β} {s s' : σ} {b : β} :
    (m >>= f).run s = (.ok b, s') ↔
      ∃ a t, m.run s = (.ok a, t) ∧ (f a).run t = (.ok b, s') := by
  rw [bind_run]
  cases hrun : m.run s with
  | mk res t =>
    cases res with
    | ok a =>
      constructor
      · intro h
        exact ⟨a, t, rfl, h⟩
      · rintro ⟨a', t', heq, h⟩
        simp only [Prod.mk.injEq, Except.ok.injEq] at heq
        rw [heq.1, heq.2]
        exact h
    | error e =>
      constructor
      · intro h
        simp at h
      · rintro ⟨a', t', heq, -⟩
        simp at heq

theorem pure_eq_ok {a b : α} {s s' : σ} :
    (pure a : Tx σ ε α).run s = (.ok b, s') ↔ a = b ∧ s = s' := by
  simp

theorem getOr_eq_ok {e : ε} {f : σ → Option α} {a : α} {s s' : σ} :
    (getOr e f).run s = (.ok a, s') ↔ f s = some a ∧ s = s' := by
  cases hf : f s with
  | none =>
    rw [getOr_none hf]
    simp
  | some b =>
    rw [getOr_some hf]
    simp

theorem raiseIf_eq_ok {p : Prop} [Decidable p] {e : ε} {u : Unit} {s s' : σ} :
    (raiseIf p e).run s = (.ok u, s') ↔ ¬ p ∧ s = s' := by
  rw [raiseIf_run]
  by_cases h : p <;> simp [h]

theorem ofExcept_eq_ok {r : Except ε α} {a : α} {s s' : σ} :
    (ofExcept r).run s = (.ok a, s') ↔ r = .ok a ∧ s = s' := by
  cases r <;> simp [ofExcept]

theorem getOr_bind_eq_ok {e : ε} {f : σ → Option α} {k : α → Tx σ ε β} {s s' : σ} {b : β} :
    (getOr e f >>= k).run s = (.ok b, s') ↔
      ∃ a, f s = some a ∧ (k a).run s = (.ok b, s') := by
  rw [bind_eq_ok]
  simp only [getOr_eq_ok, and_assoc, exists_and_left, exists_eq_left']

theorem raiseIf_bind_eq_ok {p : Prop} [Decidable p] {e : ε} {k : Unit → Tx σ ε β} {s s' : σ}
    {b : β} : (raiseIf p e >>= k).run s = (.ok b, s') ↔ ¬ p ∧ (k ()).run s = (.ok b, s') := by
  rw [raiseIf_bind_run]
  by_cases h : p <;> simp [h]

theorem ofExcept_bind_eq_ok {r : Except ε α} {k : α → Tx σ ε β} {s s' : σ} {b : β} :
    (ofExcept r >>= k).run s = (.ok b, s') ↔ ∃ a, r = .ok a ∧ (k a).run s = (.ok b, s') := by
  cases r <;> simp [ofExcept_bind_run]

theorem zoom_eq_ok {part : σ → τ} {put : τ → σ → σ} {m : Tx τ ε α} {a : α} {s s' : σ} :
    (zoom part put m).run s = (.ok a, s') ↔
      ∃ t, m.run (part s) = (.ok a, t) ∧ put t s = s' := by
  unfold zoom
  cases hrun : m.run (part s) with
  | mk res t => simp [hrun]

theorem atomic_eq_ok {m : Tx σ ε α} {a : α} {s s' : σ} :
    (atomic m).run s = (.ok a, s') ↔ m.run s = (.ok a, s') := by
  unfold atomic
  cases hrun : m.run s with
  | mk res t => cases res <;> simp [hrun]

theorem atomic_cases (m : Tx σ ε α) (s : σ) :
    (∃ a s', m.run s = (.ok a, s') ∧ (atomic m).run s = (.ok a, s')) ∨
      ((atomic m).run s).2 = s := by
  cases hrun : m.run s with
  | mk res s' =>
    cases res with
    | ok a => exact Or.inl ⟨a, s', rfl, atomic_ok hrun⟩
    | error e =>
      right
      rw [atomic_error hrun]

theorem forEach_ok {J : σ → Prop} {as : List α} {body : α → Tx σ ε Unit}
    (hbody : ∀ a ∈ as, ∀ s s', J s → (body a).run s = (.ok (), s') → J s') :
    ∀ {s s' : σ}, J s → (forEach as body).run s = (.ok (), s') → J s' := by
  induction as with
  | nil =>
    intro s s' hs h
    obtain ⟨-, rfl⟩ := pure_eq_ok.1 h
    exact hs
  | cons a as ih =>
    intro s s' hs h
    rw [forEach_cons] at h
    obtain ⟨⟨⟩, t, hfirst, hrest⟩ := bind_eq_ok.1 h
    have ht : J t := hbody a (List.mem_cons_self ..) s t hs hfirst
    exact ih (fun b hb => hbody b (List.mem_cons_of_mem a hb)) ht hrest

/-! ## Frames

`Keeps R m` bounds what `m` can do to the store by a relation, whatever it
returns.  With `R` reflexive and transitive it passes through every
combinator, so a frame condition is checked only at the writes. -/

def Keeps (R : σ → σ → Prop) (m : Tx σ ε α) : Prop := ∀ s, R s (m.run s).2

namespace Keeps

variable {R : σ → σ → Prop} {m : Tx σ ε α}

theorem of_run (hm : Keeps R m) {s s' : σ} {r : Except ε α} (h : m.run s = (r, s')) :
    R s s' := by
  have hend := hm s
  rw [h] at hend
  exact hend

theorem pure (hrefl : ∀ s, R s s) (a : α) : Keeps R (pure a : Tx σ ε α) :=
  fun s => hrefl s

theorem raise (hrefl : ∀ s, R s s) (e : ε) : Keeps R (raise e : Tx σ ε α) :=
  fun s => hrefl s

theorem gets (hrefl : ∀ s, R s s) (f : σ → α) : Keeps R (gets f : Tx σ ε α) :=
  fun s => hrefl s

theorem raiseIf (hrefl : ∀ s, R s s) (p : Prop) [Decidable p] (e : ε) :
    Keeps R (raiseIf p e : Tx σ ε Unit) := by
  intro s
  rw [raiseIf_run]
  split <;> exact hrefl s

theorem getOr (hrefl : ∀ s, R s s) (e : ε) (f : σ → Option α) :
    Keeps R (getOr e f : Tx σ ε α) := by
  intro s
  cases h : f s with
  | some a =>
    rw [getOr_some h]
    exact hrefl s
  | none =>
    rw [getOr_none h]
    exact hrefl s

theorem ofExcept (hrefl : ∀ s, R s s) (r : Except ε α) :
    Keeps R (ofExcept r : Tx σ ε α) := by
  cases r with
  | ok a => exact pure hrefl a
  | error e => exact raise hrefl e

theorem modify {f : σ → σ} (h : ∀ s, R s (f s)) :
    Keeps R (modify f : Tx σ ε Unit) := h

theorem bind (htrans : ∀ a b c, R a b → R b c → R a c) {f : α → Tx σ ε β}
    (hm : Keeps R m) (hf : ∀ a, Keeps R (f a)) : Keeps R (m >>= f) := by
  intro s
  have h := hm s
  rw [bind_run]
  cases hrun : m.run s with
  | mk res s' =>
    rw [hrun] at h
    cases res with
    | ok a => exact htrans _ _ _ h (hf a s')
    | error e => exact h

theorem atomic (hrefl : ∀ s, R s s) (hm : Keeps R m) : Keeps R (Tx.atomic m) := by
  intro s
  have h := hm s
  cases hrun : m.run s with
  | mk res s' =>
    rw [hrun] at h
    cases res with
    | ok a =>
      rw [atomic_ok hrun]
      exact h
    | error e =>
      rw [atomic_error hrun]
      exact hrefl s

theorem ite (p : Prop) [Decidable p] {m' : Tx σ ε α} (hm : Keeps R m)
    (hm' : Keeps R m') : Keeps R (if p then m else m') := by
  split
  · exact hm
  · exact hm'

theorem forEach (hrefl : ∀ s, R s s) (htrans : ∀ a b c, R a b → R b c → R a c)
    {body : α → Tx σ ε Unit} (hbody : ∀ a, Keeps R (body a)) :
    ∀ as : List α, Keeps R (Tx.forEach as body)
  | [] => fun s => hrefl s
  | a :: as => bind htrans (hbody a) fun _ => forEach hrefl htrans hbody as

end Keeps

/-! ## Invariants

`Preserves I m` says that a program which starts in `I` ends in `I`, whether it
returns or raises.  Unlike a frame, a query inside it may be looked at in the
state in which it is made. -/

def Preserves (I : σ → Prop) (m : Tx σ ε α) : Prop := ∀ s, I s → I (m.run s).2

namespace Preserves

variable {I : σ → Prop} {m : Tx σ ε α}

theorem of_keeps {R : σ → σ → Prop} (hm : Keeps R m) (h : ∀ s s', R s s' → I s → I s') :
    Preserves I m := fun s hs => h _ _ (hm s) hs

theorem of_eq (h : ∀ s, (m.run s).2 = s) : Preserves I m := by
  intro s hs
  rw [h s]
  exact hs

theorem of_run (hm : Preserves I m) {s s' : σ} {r : Except ε α} (hs : I s)
    (h : m.run s = (r, s')) : I s' := by
  have hend := hm s hs
  rw [h] at hend
  exact hend

theorem pure (a : α) : Preserves I (pure a : Tx σ ε α) := fun _ hs => hs

theorem raise (e : ε) : Preserves I (raise e : Tx σ ε α) := fun _ hs => hs

theorem modify {f : σ → σ} (h : ∀ s, I s → I (f s)) :
    Preserves I (modify f : Tx σ ε Unit) := h

theorem after {f : α → Tx σ ε β} {s : σ} (h : I (m.run s).2) (hf : ∀ a, Preserves I (f a)) :
    I ((m >>= f).run s).2 := by
  rw [bind_run]
  cases hrun : m.run s with
  | mk res s' =>
    rw [hrun] at h
    cases res with
    | ok a => exact hf a s' h
    | error e => exact h

theorem bind {f : α → Tx σ ε β} (hm : Preserves I m) (hf : ∀ a, Preserves I (f a)) :
    Preserves I (m >>= f) := fun s hs => after (hm s hs) hf

theorem gets_bind {g : σ → α} {f : α → Tx σ ε β}
    (h : ∀ s, I s → I ((f (g s)).run s).2) : Preserves I (Tx.gets g >>= f) := h

theorem getOr_bind {e : ε} {g : σ → Option α} {f : α → Tx σ ε β}
    (h : ∀ s a, I s → g s = some a → I ((f a).run s).2) :
    Preserves I (Tx.getOr e g >>= f) := by
  intro s hs
  rw [getOr_bind_run]
  cases hg : g s with
  | none => exact hs
  | some a => exact h s a hs hg

theorem raiseIf_bind {p : Prop} [Decidable p] {e : ε} {f : Unit → Tx σ ε β}
    (h : ¬ p → Preserves I (f ())) : Preserves I (Tx.raiseIf p e >>= f) := by
  intro s hs
  rw [raiseIf_bind_run]
  split
  · exact hs
  · rename_i hp
    exact h hp s hs

theorem ofExcept_bind {r : Except ε α} {f : α → Tx σ ε β}
    (h : ∀ a, r = .ok a → Preserves I (f a)) : Preserves I (Tx.ofExcept r >>= f) := by
  intro s hs
  rw [ofExcept_bind_run]
  cases hr : r with
  | ok a => exact h a hr s hs
  | error e => exact hs

theorem atomic (hm : Preserves I m) : Preserves I (Tx.atomic m) := by
  intro s hs
  have h := hm s hs
  cases hrun : m.run s with
  | mk res s' =>
    rw [hrun] at h
    cases res with
    | ok a =>
      rw [atomic_ok hrun]
      exact h
    | error e =>
      rw [atomic_error hrun]
      exact hs

theorem atomic_ok (h : ∀ s a s', I s → m.run s = (.ok a, s') → I s') :
    Preserves I (Tx.atomic m) := by
  intro s hs
  cases hrun : m.run s with
  | mk res s' =>
    cases res with
    | ok a =>
      rw [Tx.atomic_ok hrun]
      exact h s a s' hs hrun
    | error e =>
      rw [atomic_error hrun]
      exact hs

theorem ite {p : Prop} [Decidable p] {m' : Tx σ ε α} (hm : p → Preserves I m)
    (hm' : ¬ p → Preserves I m') : Preserves I (if p then m else m') := by
  split
  · rename_i hp
    exact hm hp
  · rename_i hp
    exact hm' hp

theorem tryCatch {handler : ε → Tx σ ε α} (hm : Preserves I m)
    (hhandler : ∀ e, Preserves I (handler e)) : Preserves I (Tx.tryCatch m handler) := by
  intro s hs
  have h := hm s hs
  cases hrun : m.run s with
  | mk res s' =>
    rw [hrun] at h
    cases res with
    | ok a =>
      rw [tryCatch_ok hrun]
      exact h
    | error e =>
      rw [tryCatch_error hrun]
      exact hhandler e s' h

theorem bind_into {J : σ → Prop} {f : α → Tx σ ε β} (hm : Preserves J m)
    (hraise : ∀ s, J s → I s) (hf : ∀ a s, J s → I ((f a).run s).2) {s : σ} (hs : J s) :
    I ((m >>= f).run s).2 := by
  have h := hm s hs
  rw [bind_run]
  cases hrun : m.run s with
  | mk res s' =>
    rw [hrun] at h
    cases res with
    | ok a => exact hf a s' h
    | error e => exact hraise s' h

theorem tryCatch_into {J : σ → Prop} {handler : ε → Tx σ ε α} (hm : Preserves J m)
    (hreturn : ∀ s, J s → I s) (hhandler : ∀ e s, J s → I ((handler e).run s).2) {s : σ}
    (hs : J s) : I ((Tx.tryCatch m handler).run s).2 := by
  have h := hm s hs
  cases hrun : m.run s with
  | mk res s' =>
    rw [hrun] at h
    cases res with
    | ok a =>
      rw [tryCatch_ok hrun]
      exact hreturn s' h
    | error e =>
      rw [tryCatch_error hrun]
      exact hhandler e s' h

theorem forEach {as : List α} {body : α → Tx σ ε Unit}
    (h : ∀ a ∈ as, Preserves I (body a)) : Preserves I (Tx.forEach as body) := by
  induction as with
  | nil => exact pure ()
  | cons a as ih =>
    rw [forEach_cons]
    refine bind (h a (List.mem_cons_self ..)) fun _ => ih ?_
    intro a' ha'
    exact h a' (List.mem_cons_of_mem _ ha')

theorem zoom {part : σ → τ} {put : τ → σ → σ} {J : τ → Prop} {m : Tx τ ε α}
    (hin : ∀ s, I s → J (part s)) (hm : Preserves J m) (hout : ∀ s t, I s → J t → I (put t s)) :
    Preserves I (Tx.zoom part put m) :=
  fun s hs => hout s _ hs (hm _ (hin s hs))

end Preserves

/-! ## Ends

`Ends E m s Q` says how `m` ends from `s`: it returns in `Q`, or the exception that it
raises is in `E`. -/

def Ends (E : ε → Prop) (m : Tx σ ε α) (s : σ) (Q : α → σ → Prop) : Prop :=
  match m.run s with
  | (.ok a, s') => Q a s'
  | (.error e, _) => E e

namespace Ends

variable {E : ε → Prop} {m : Tx σ ε α} {s : σ} {Q : α → σ → Prop}

theorem returns (h : Ends E m s Q) {a : α} {s' : σ} (hrun : m.run s = (.ok a, s')) : Q a s' := by
  unfold Ends at h
  rw [hrun] at h
  exact h

theorem runs (h : Ends (fun _ => False) m s Q) : ∃ a s', m.run s = (.ok a, s') ∧ Q a s' := by
  unfold Ends at h
  cases hrun : m.run s with
  | mk res s' =>
    rw [hrun] at h
    cases res with
    | ok a => exact ⟨a, s', rfl, h⟩
    | error e => exact h.elim

theorem pure {a : α} (h : Q a s) : Ends E (pure a : Tx σ ε α) s Q := h

theorem modify {f : σ → σ} {Q : Unit → σ → Prop} (h : Q () (f s)) :
    Ends E (modify f : Tx σ ε Unit) s Q := h

theorem mono {Q' : α → σ → Prop} (hm : Ends E m s Q) (h : ∀ a s', Q a s' → Q' a s') :
    Ends E m s Q' := by
  unfold Ends at *
  cases hrun : m.run s with
  | mk res s' =>
    rw [hrun] at hm
    cases res with
    | ok a => exact h a s' hm
    | error e => exact hm

theorem and_snd {I : σ → Prop} (hm : Ends E m s Q) (h : I (m.run s).2) :
    Ends E m s fun a s' => Q a s' ∧ I s' := by
  unfold Ends at *
  cases hrun : m.run s with
  | mk res s' =>
    rw [hrun] at hm h
    cases res with
    | ok a => exact ⟨hm, h⟩
    | error e => exact hm

theorem of_run {m' : Tx σ ε α} (hrun : m.run s = m'.run s) (h : Ends E m' s Q) :
    Ends E m s Q := by
  unfold Ends at *
  rw [hrun]
  exact h

theorem bind {f : α → Tx σ ε β} {Q : β → σ → Prop}
    (hm : Ends E m s fun a s' => Ends E (f a) s' Q) : Ends E (m >>= f) s Q := by
  unfold Ends at *
  rw [Tx.bind_run]
  cases hrun : m.run s with
  | mk res s' =>
    rw [hrun] at hm
    cases res with
    | ok a => exact hm
    | error e => exact hm

theorem bind_run {f : α → Tx σ ε β} {Q : β → σ → Prop} {a : α} {s' : σ}
    (hrun : m.run s = (.ok a, s')) (h : Ends E (f a) s' Q) : Ends E (m >>= f) s Q := by
  apply bind
  unfold Ends at *
  rw [hrun]
  exact h

theorem gets_bind {g : σ → α} {f : α → Tx σ ε β} {Q : β → σ → Prop}
    (h : Ends E (f (g s)) s Q) : Ends E (Tx.gets g >>= f) s Q := h

theorem getOr {e : ε} {g : σ → Option α} (he : E e) (h : ∀ a, g s = some a → Q a s) :
    Ends E (Tx.getOr e g) s Q := by
  unfold Ends
  cases hg : g s with
  | none =>
    rw [getOr_none hg]
    exact he
  | some a =>
    rw [getOr_some hg]
    exact h a hg

theorem getOr_bind {e : ε} {g : σ → Option α} {f : α → Tx σ ε β} {Q : β → σ → Prop}
    (he : E e) (h : ∀ a, g s = some a → Ends E (f a) s Q) :
    Ends E (Tx.getOr e g >>= f) s Q := bind (getOr he h)

theorem raiseIf_bind {p : Prop} [Decidable p] {e : ε} {f : Unit → Tx σ ε β}
    {Q : β → σ → Prop} (he : p → E e) (h : ¬ p → Ends E (f ()) s Q) :
    Ends E (Tx.raiseIf p e >>= f) s Q := by
  apply bind
  unfold Ends
  rw [raiseIf_run]
  by_cases hp : p
  · rw [if_pos hp]
    exact he hp
  · rw [if_neg hp]
    exact h hp

theorem atomic (hm : Ends E m s Q) : Ends E (Tx.atomic m) s Q := by
  unfold Ends at *
  cases hrun : m.run s with
  | mk res s' =>
    rw [hrun] at hm
    cases res with
    | ok a =>
      rw [atomic_ok hrun]
      exact hm
    | error e =>
      rw [atomic_error hrun]
      exact hm

theorem ite {p : Prop} [Decidable p] {m' : Tx σ ε α} (hm : p → Ends E m s Q)
    (hm' : ¬ p → Ends E m' s Q) : Ends E (if p then m else m') s Q := by
  split
  · next hp => exact hm hp
  · next hp => exact hm' hp

/-- `J` is about what is left of the list. -/
theorem forEach {J : List α → σ → Prop} {body : α → Tx σ ε Unit}
    (hbody : ∀ a as s, J (a :: as) s → Ends E (body a) s fun _ s' => J as s') :
    ∀ {as : List α} {s : σ}, J as s → Ends E (Tx.forEach as body) s fun _ s' => J [] s' := by
  intro as
  induction as with
  | nil =>
    intro s hs
    exact hs
  | cons a as ih =>
    intro s hs
    rw [forEach_cons]
    exact bind (mono (hbody a as s hs) fun _ _ => ih)

end Ends

end Tx

end ShopManager.Library
