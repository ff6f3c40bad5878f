import Weave.Text.Radix

namespace Weave

/-- A date of the proleptic Gregorian calendar; months and days count from one. -/
structure Date where
  year : Nat
  month : Nat
  day : Nat
  deriving DecidableEq, Repr

namespace Date

def isLeap (year : Nat) : Bool :=
  year % 4 == 0 && (year % 100 != 0 || year % 400 == 0)

def monthLength (year month : Nat) : Nat :=
  match month with
  | 2 => if isLeap year then 29 else 28
  | 4 | 6 | 9 | 11 => 30
  | _ => 31

structure Valid (date : Date) : Prop where
  year_pos : 1 ≤ date.year
  month_pos : 1 ≤ date.month
  month_le : date.month ≤ 12
  day_pos : 1 ≤ date.day
  day_le : date.day ≤ monthLength date.year date.month

/-! Days are numbered from 1 January of year 1, which has number 1 and is a
Monday. -/

def daysBeforeYear (year : Nat) : Nat :=
  let past := year - 1
  past * 365 + past / 4 - past / 100 + past / 400

def daysBeforeMonth (year : Nat) : Nat → Nat
  | 0 | 1 => 0
  | month + 1 => daysBeforeMonth year month + monthLength year month

def dayNumber (date : Date) : Nat :=
  daysBeforeYear date.year + daysBeforeMonth date.year date.month + date.day

inductive Weekday
  | monday
  | tuesday
  | wednesday
  | thursday
  | friday
  | saturday
  | sunday
  deriving DecidableEq, Repr

def Weekday.ofIndex (index : Nat) : Weekday :=
  match index % 7 with
  | 0 => .monday
  | 1 => .tuesday
  | 2 => .wednesday
  | 3 => .thursday
  | 4 => .friday
  | 5 => .saturday
  | _ => .sunday

def Weekday.short : Weekday → Text
  | .monday => ['M', 'o', 'n']
  | .tuesday => ['T', 'u', 'e']
  | .wednesday => ['W', 'e', 'd']
  | .thursday => ['T', 'h', 'u']
  | .friday => ['F', 'r', 'i']
  | .saturday => ['S', 'a', 't']
  | .sunday => ['S', 'u', 'n']

def weekday (date : Date) : Weekday :=
  .ofIndex (date.dayNumber + 6)

def shortMonth (month : Nat) : Text :=
  match month with
  | 1 => ['J', 'a', 'n']
  | 2 => ['F', 'e', 'b']
  | 3 => ['M', 'a', 'r']
  | 4 => ['A', 'p', 'r']
  | 5 => ['M', 'a', 'y']
  | 6 => ['J', 'u', 'n']
  | 7 => ['J', 'u', 'l']
  | 8 => ['A', 'u', 'g']
  | 9 => ['S', 'e', 'p']
  | 10 => ['O', 'c', 't']
  | 11 => ['N', 'o', 'v']
  | _ => ['D', 'e', 'c']

example : (Date.mk 2026 10 17).weekday = .saturday := by decide

end Date

end Weave
