import Mathlib.Algebra.Order.Ring.Int

/-!
# Days, years and weeks

Days of the Gregorian calendar, counted so that day 1 is the first of January of year 1, a Monday.
A week of a year is named by the year and by its number from the first Monday of the year on; the
days before that Monday are week 0.
-/

namespace ShopManager.Library.Calendar

/-! ## Years -/

/-- The first of January. -/
def newYear (year : ℤ) : ℤ :=
  365 * (year - 1) + (year - 1) / 4 - (year - 1) / 100 + (year - 1) / 400 + 1

/-- The year of a day: that of its place in a cycle of 400 years, or one beside it. -/
def yearOf (day : ℤ) : ℤ :=
  let year := (day - 1) * 400 / 146097 + 1
  if day < newYear year then year - 1
  else if newYear (year + 1) ≤ day then year + 1
  else year

theorem newYear_yearOf_le (day : ℤ) : newYear (yearOf day) ≤ day := by
  unfold yearOf
  dsimp only
  split
  · unfold newYear
    omega
  · split
    · assumption
    · omega

/-- Monday is 0. -/
def weekday (day : ℤ) : ℤ := (day - 1) % 7

def monday (day : ℤ) : ℤ := day - weekday day

theorem monday_le (day : ℤ) : monday day ≤ day := by
  unfold monday weekday
  omega

theorem lt_monday (day : ℤ) : day < monday day + 7 := by
  unfold monday weekday
  omega

theorem weekday_monday (day : ℤ) : weekday (monday day) = 0 := by
  unfold monday weekday
  omega

/-- A year and a week of it, as `%Y-%W` shows them. -/
structure YearWeek where
  year : ℤ
  week : ℤ
  deriving DecidableEq, Repr

instance : LT YearWeek where
  lt a b := a.year < b.year ∨ (a.year = b.year ∧ a.week < b.week)

instance (a b : YearWeek) : Decidable (a < b) :=
  inferInstanceAs (Decidable (_ ∨ (_ ∧ _)))

/-- `day.strftime('%Y-%W')`. -/
def yearWeek (day : ℤ) : YearWeek where
  year := yearOf day
  week := (day - newYear (yearOf day) + 7 - weekday day) / 7

/-- `strptime` of a week and a weekday of it, Monday being 0. -/
def dayOf (name : YearWeek) (dayOfWeek : ℤ) : ℤ :=
  let firstWeekday := weekday (newYear name.year)
  if name.week = 0 then newYear name.year + dayOfWeek - firstWeekday
  else newYear name.year + (7 - firstWeekday) % 7 + 7 * (name.week - 1) + dayOfWeek

theorem dayOf_yearWeek (day dayOfWeek : ℤ) :
    dayOf (yearWeek day) dayOfWeek = monday day + dayOfWeek := by
  have hle := newYear_yearOf_le day
  unfold dayOf yearWeek monday weekday
  dsimp only
  generalize newYear (yearOf day) = first at hle ⊢
  split
  · omega
  · omega

theorem yearWeek_eq_iff {day day' : ℤ} :
    yearWeek day = yearWeek day' ↔ monday day = monday day' ∧ yearOf day = yearOf day' := by
  constructor
  · intro h
    have hweek := congrArg (dayOf · 0) h
    rw [dayOf_yearWeek, dayOf_yearWeek] at hweek
    exact ⟨by omega, congrArg YearWeek.year h⟩
  · rintro ⟨hweek, hyear⟩
    unfold yearWeek
    rw [hyear]
    congr 1
    unfold monday at hweek
    have hsub : day - newYear (yearOf day') + 7 - weekday day =
        day' - newYear (yearOf day') + 7 - weekday day' := by omega
    rw [hsub]

end ShopManager.Library.Calendar
