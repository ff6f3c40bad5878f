import Mathlib.Data.Nat.Init
import Mathlib.Logic.ExistsUnique
import Mathlib.Tactic.SplitIfs
import Weave.Time.Moment

namespace Weave

namespace Date

/-! The calendar is walked day by day: a date is followed by the earliest later date,
whose number is the next one. -/

/-- One day on, into the next month after the last day of a month and into the next year
after the last month. -/
def next (date : Date) : Date :=
  if date.day < monthLength date.year date.month then
    { date with day := date.day + 1 }
  else if date.month < 12 then ⟨date.year, date.month + 1, 1⟩
  else ⟨date.year + 1, 1, 1⟩

/-- A date with a next day in its month, the last day of a month but the last, and the
last day of a year. -/
theorem Valid.next_cases {date : Date} (hdate : date.Valid) :
    (date.day < monthLength date.year date.month ∧
      date.next = ⟨date.year, date.month, date.day + 1⟩) ∨
    (date.day = monthLength date.year date.month ∧ date.month < 12 ∧
      date.next = ⟨date.year, date.month + 1, 1⟩) ∨
    (date.day = monthLength date.year date.month ∧ date.month = 12 ∧
      date.next = ⟨date.year + 1, 1, 1⟩) := by
  have hmonth := hdate.month_le
  have hday := hdate.day_le
  unfold next
  split
  · next hless => exact .inl ⟨hless, rfl⟩
  · next hlast =>
      have hend : date.day = monthLength date.year date.month := by omega
      split
      · next hmore => exact .inr (.inl ⟨hend, hmore, rfl⟩)
      · next hfinal => exact .inr (.inr ⟨hend, by omega, rfl⟩)

theorem one_le_monthLength (year month : Nat) : 1 ≤ monthLength year month := by
  unfold monthLength
  split
  case h_1 => split <;> decide
  all_goals decide

theorem Valid.next {date : Date} (hdate : date.Valid) : date.next.Valid := by
  have hyear := hdate.year_pos
  have hmonth := hdate.month_pos
  have hlast := hdate.month_le
  rcases hdate.next_cases with ⟨hless, hnext⟩ | ⟨-, hmore, hnext⟩ | ⟨-, -, hnext⟩
  · rw [hnext]
    exact ⟨hyear, hmonth, hlast, by simp, hless⟩
  · rw [hnext]
    exact ⟨hyear, by simp, hmore, by simp, one_le_monthLength _ _⟩
  · rw [hnext]
    exact ⟨by simp, by simp, by simp, by simp, one_le_monthLength _ _⟩

def Weekday.next : Weekday → Weekday
  | .monday => .tuesday
  | .tuesday => .wednesday
  | .wednesday => .thursday
  | .thursday => .friday
  | .friday => .saturday
  | .saturday => .sunday
  | .sunday => .monday

end Date

namespace Moment

end Moment

end Weave
