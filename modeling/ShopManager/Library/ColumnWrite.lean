import Mathlib.Tactic.Abel

/-!
# Saving a whole row

An object is loaded from a row, some of its columns are assigned an increment
that the database evaluates, and the object is saved: the other columns are
written back with the values that were loaded.  Two requests that do this at
the same time are safe exactly when neither writes back a column that the
other one moves.
-/

namespace ShopManager.Library

/-- What a saved object says about a column: a value, or an increment
`F('column') + delta` of whatever the row holds when it is written. -/
inductive Assign (V : Type) where
  | value (v : V)
  | F (delta : V)
  deriving DecidableEq

abbrev RowObject (ι V : Type) := ι → Assign V

variable {ι V : Type} [AddCommGroup V]

namespace Assign

def eval (current : V) : Assign V → V
  | value v => v
  | F delta => current + delta

@[simp] theorem eval_value (current v : V) : eval current (value v) = v := rfl

@[simp] theorem eval_F (current delta : V) :
    eval current (F delta) = current + delta := rfl

end Assign

namespace RowObject

/-- The object that a query returns for the row. -/
def load (row : ι → V) : RowObject ι V := fun column => .value (row column)

/-- The row after `UPDATE` with all columns of the object. -/
def store (obj : RowObject ι V) (row : ι → V) : ι → V :=
  fun column => (obj column).eval (row column)

def assignF [DecidableEq ι] (obj : RowObject ι V) (column : ι) (delta : V) :
    RowObject ι V :=
  Function.update obj column (.F delta)

/-- Increments for some of the columns. -/
def assign (change : ι → Option V) (obj : RowObject ι V) : RowObject ι V :=
  fun column => match change column with
    | some delta => .F delta
    | none => obj column

/-- What the assigned increments add to each column. -/
def moved (change : ι → Option V) : ι → V := fun column => (change column).getD 0

theorem store_assign_load (change : ι → Option V) (row : ι → V) :
    store (assign change (load row)) row = row + moved change := by
  funext column
  cases h : change column with
  | none => simp [store, assign, load, moved, h]
  | some delta => simp [store, assign, moved, h]

end RowObject

namespace ColumnWrite

open RowObject

/-- The two requests. -/
inductive Side where
  | left
  | right
  deriving DecidableEq

inductive Local (ι V : Type) where
  | ready
  | loaded (obj : RowObject ι V)
  | finished

structure State (ι V : Type) where
  row : ι → V
  pc : Side → Local ι V

/-- A request that assigns to its loaded object, or one that does not touch the
row. -/
abbrev Request (ι V : Type) := Option (RowObject ι V → RowObject ι V)

def start (requests : Side → Request ι V) (row : ι → V) : State ι V where
  row := row
  pc := fun side => if (requests side).isSome then .ready else .finished

/-- The next database step of one side. -/
def step (requests : Side → Request ι V) (side : Side) (s : State ι V) : State ι V :=
  match s.pc side, requests side with
  | .ready, some compute =>
      { s with pc := Function.update s.pc side (.loaded (compute (load s.row))) }
  | .loaded obj, _ =>
      { row := store obj s.row, pc := Function.update s.pc side .finished }
  | _, _ => s

def interleave (requests : Side → Request ι V) (schedule : List Side) (row : ι → V) :
    State ι V :=
  schedule.foldl (fun s side => step requests side s) (start requests row)

def Local.isFinished : Local ι V → Bool
  | finished => true
  | _ => false

def Finished (s : State ι V) : Prop := ∀ side, (s.pc side).isFinished = true

/-- The left request to its end, then the right one. -/
def serial : List Side := [.left, .left, .right, .right]

/-- Every schedule that lets both requests end leaves the row of the serial
run. -/
def Safe (requests : Side → Request ι V) : Prop :=
  ∀ row schedule, Finished (interleave requests schedule row) →
    (interleave requests schedule row).row = (interleave requests serial row).row

def other : Side → Side
  | .left => .right
  | .right => .left

/-- What a request adds to the row when it runs alone. -/
def movedBy (change : Option (ι → Option V)) : ι → V := change.elim 0 moved

/-- What a side has added to the row so far. -/
def added (changes : Side → Option (ι → Option V)) (s : State ι V) (side : Side) :
    ι → V :=
  if (s.pc side).isFinished then movedBy (changes side) else 0

/-- Neither side writes back a column that the other one moves. -/
def Compatible (changes : Side → Option (ι → Option V)) : Prop :=
  ∀ side change, changes side = some change →
    ∀ column, change column = none → movedBy (changes (other side)) column = 0

section

variable {requests : Side → Request ι V} {changes : Side → Option (ι → Option V)}

/-- The requests assign the increments given by `changes`. -/
def Assigns (requests : Side → Request ι V)
    (changes : Side → Option (ι → Option V)) : Prop :=
  ∀ side, requests side = (changes side).map assign

/-- While the requests run, the row holds the increments of the finished ones
and every loaded object is as good as one loaded at the start. -/
structure Tracks (changes : Side → Option (ι → Option V)) (row : ι → V)
    (s : State ι V) : Prop where
  row_eq : s.row = row + added changes s .left + added changes s .right
  loaded : ∀ side obj, s.pc side = .loaded obj →
    ∃ change, changes side = some change ∧ obj = assign change (load row)

variable {s : State ι V} {side : Side}

theorem added_of_not_finished (h : (s.pc side).isFinished = false) : added changes s side = 0 := by
  simp [added, h]

theorem added_of_finished (h : (s.pc side).isFinished = true) :
    added changes s side = movedBy (changes side) := by
  simp [added, h]

variable {row : ι → V}

theorem added_update_other {pc : Local ι V} :
    added changes ⟨row, Function.update s.pc side pc⟩ (other side) =
      added changes s (other side) := by
  cases side <;> rfl

theorem added_update_self {pc : Local ι V} :
    added changes ⟨row, Function.update s.pc side pc⟩ side =
      if pc.isFinished then movedBy (changes side) else 0 := by
  simp [added]

theorem added_other_eq_zero (hcomp : Compatible changes) (s : State ι V)
    {change : ι → Option V} (hside : changes side = some change)
    {column : ι} (hcol : change column = none) :
    added changes s (other side) column = 0 := by
  unfold added
  split
  · exact hcomp side change hside column hcol
  · rfl

theorem added_start (hassign : Assigns requests changes) (row : ι → V)
    (side : Side) : added changes (start requests row) side = 0 := by
  have h := hassign side
  cases hchange : changes side with
  | none => simp [added, start, h, hchange, movedBy]
  | some change => simp [added, start, h, hchange, Local.isFinished]

theorem tracks_start (hassign : Assigns requests changes) (row : ι → V) :
    Tracks changes row (start requests row) := by
  constructor
  · rw [added_start hassign, added_start hassign, add_zero, add_zero]
    rfl
  · intro side obj h
    simp only [start] at h
    split at h <;> cases h

theorem row_eq_iff (side : Side) :
    s.row = row + added changes s .left + added changes s .right ↔
      s.row = row + added changes s side + added changes s (other side) := by
  cases side
  · rfl
  · rw [add_right_comm]
    rfl

/-- A load: the columns that will be written back still hold their first
values. -/
theorem tracks_load (hcomp : Compatible changes) (h : Tracks changes row s) {change : ι → Option V}
    (hside : changes side = some change) (hpc : s.pc side = .ready) :
    Tracks changes row { s with
      pc := Function.update s.pc side (.loaded (assign change (load s.row))) } := by
  have hrow := (row_eq_iff side).1 h.row_eq
  have hown : added changes s side = 0 :=
    added_of_not_finished (by rw [hpc]; rfl)
  rw [hown, add_zero] at hrow
  constructor
  · rw [row_eq_iff side, added_update_other, added_update_self]
    simpa [Local.isFinished] using hrow
  · intro side' obj hloaded
    by_cases heq : side' = side
    · subst heq
      simp only [Function.update_self, Local.loaded.injEq] at hloaded
      refine ⟨change, hside, ?_⟩
      rw [← hloaded]
      funext column
      cases hcol : change column with
      | some delta => simp [assign, hcol]
      | none =>
        have hzero := added_other_eq_zero hcomp s hside hcol
        simp [assign, hcol, load, hrow, hzero]
    · simp only [Function.update_of_ne heq] at hloaded
      exact h.loaded side' obj hloaded

theorem tracks_store (hcomp : Compatible changes) (h : Tracks changes row s) {obj : RowObject ι V}
    (hpc : s.pc side = .loaded obj) :
    Tracks changes row
      { row := store obj s.row, pc := Function.update s.pc side .finished } := by
  obtain ⟨change, hside, rfl⟩ := h.loaded side _ hpc
  have hrow := (row_eq_iff side).1 h.row_eq
  have hown : added changes s side = 0 :=
    added_of_not_finished (by rw [hpc]; rfl)
  rw [hown, add_zero] at hrow
  constructor
  · rw [row_eq_iff side, added_update_other, added_update_self]
    funext column
    cases hcol : change column with
    | some delta =>
      simp only [store, assign, hcol, Assign.eval_F, Local.isFinished, if_true,
        movedBy, hside, Option.elim_some, moved, hrow, Pi.add_apply,
        Option.getD_some]
      abel
    | none =>
      have hzero := added_other_eq_zero hcomp s hside hcol
      simp [store, assign, load, movedBy, hside, moved, hcol, hzero,
        Local.isFinished]
  · intro side' obj hloaded
    by_cases heq : side' = side
    · subst heq
      simp at hloaded
    · simp only [Function.update_of_ne heq] at hloaded
      exact h.loaded side' obj hloaded

theorem tracks_step (hassign : Assigns requests changes) (hcomp : Compatible changes)
    (h : Tracks changes row s) (side : Side) :
    Tracks changes row (step requests side s) := by
  unfold step
  split
  · next compute hpc hreq =>
    have hchange := hassign side
    rw [hreq] at hchange
    obtain ⟨change, hside, rfl⟩ := Option.map_eq_some_iff.1 hchange.symm
    exact tracks_load hcomp h hside hpc
  · next obj hpc => exact tracks_store hcomp h hpc
  · exact h

theorem tracks_interleave (hassign : Assigns requests changes)
    (hcomp : Compatible changes) (row : ι → V) (schedule : List Side) :
    Tracks changes row (interleave requests schedule row) := by
  have hrun : ∀ (schedule : List Side) (s : State ι V), Tracks changes row s →
      Tracks changes row (schedule.foldl (fun s side => step requests side s) s) := by
    intro schedule
    induction schedule with
    | nil => exact fun s hs => hs
    | cons side schedule ih =>
      intro s hs
      exact ih _ (tracks_step hassign hcomp hs side)
  exact hrun schedule _ (tracks_start hassign row)

/-- When both requests have ended, compatible ones have added their increments
and nothing else. -/
theorem row_of_finished (hassign : Assigns requests changes)
    (hcomp : Compatible changes) {schedule : List Side}
    (hfin : Finished (interleave requests schedule row)) :
    (interleave requests schedule row).row =
      row + movedBy (changes .left) + movedBy (changes .right) := by
  have h := (tracks_interleave hassign hcomp row schedule).row_eq
  rw [added_of_finished (hfin .left), added_of_finished (hfin .right)] at h
  exact h

theorem serial_row (hassign : Assigns requests changes) (row : ι → V) :
    Finished (interleave requests serial row) ∧
      (interleave requests serial row).row =
        row + movedBy (changes .left) + movedBy (changes .right) := by
  have hleft := hassign .left
  have hright := hassign .right
  cases hl : changes .left <;> cases hr : changes .right <;>
    rw [hl] at hleft <;> rw [hr] at hright <;> constructor
  all_goals
    first
    | intro side
      cases side <;>
        simp [interleave, serial, start, step, hleft, hright, Local.isFinished]
    | simp [interleave, serial, start, step, hleft, hright, movedBy,
        store_assign_load]

/-- One side loads, the other one runs to its end, and the first side saves:
what the first side writes back undoes the other one. -/
theorem overtaken_row {change change' : ι → Option V} (hside : requests side = some (assign change))
    (hother : requests (other side) = some (assign change')) (row : ι → V) :
    Finished (interleave requests [side, other side, other side, side] row) ∧
      (interleave requests [side, other side, other side, side] row).row =
        store (assign change (load row)) (store (assign change' (load row)) row) := by
  cases side
  all_goals
    simp only [other] at hother
    constructor
    · intro side
      cases side <;> simp [interleave, start, step, other, hside, hother,
        Local.isFinished]
    · simp [interleave, start, step, other, hside, hother]

/-- Two requests are safe exactly when neither writes back a column that the
other one moves. -/
theorem safe_iff_compatible (hassign : Assigns requests changes) :
    Safe requests ↔ Compatible changes := by
  constructor
  · intro hsafe side change hside column hcol
    cases hchange : changes (other side) with
    | none => rfl
    | some change' =>
      have hreq : requests side = some (assign change) := by
        rw [hassign side, hside]
        rfl
      have hreq' : requests (other side) = some (assign change') := by
        rw [hassign (other side), hchange]
        rfl
      obtain ⟨hfin, hrow⟩ := overtaken_row hreq hreq' (0 : ι → V)
      have heq := hsafe 0 _ hfin
      rw [hrow, (serial_row hassign 0).2] at heq
      have hcolumn := congrFun heq column
      cases side
      all_goals
        simp only [other] at hchange
        simpa [store, assign, load, movedBy, hside, hchange, moved, hcol] using
          hcolumn.symm
  · intro hcomp row schedule hfin
    rw [row_of_finished hassign hcomp hfin, (serial_row hassign row).2]

end

end ColumnWrite

end ShopManager.Library
