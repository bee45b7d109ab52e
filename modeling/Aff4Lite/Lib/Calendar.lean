import Mathlib

/-!
# The Gregorian calendar

Dates that exist, the day after a date, and the number of a day. Years are integers and the
calendar is proleptic; months count from 0 and days of the month from 1.
-/

set_option autoImplicit false

namespace Aff4Lite.Lib

def isLeap (year : Int) : Prop := year % 4 = 0 ∧ (year % 100 ≠ 0 ∨ year % 400 = 0)

instance (year : Int) : Decidable (isLeap year) := by
  unfold isLeap
  infer_instance

def daysInMonth (year : Int) (month : Nat) : Nat :=
  if month = 1 then if isLeap year then 29 else 28
  else if month ∈ [3, 5, 8, 10] then 30
  else 31

def daysInYear (year : Int) : Nat := if isLeap year then 366 else 365

@[ext] structure Date where
  year : Int
  month : Nat
  day : Nat
  month_lt : month < 12
  day_pos : 0 < day
  day_le : day ≤ daysInMonth year month
  deriving DecidableEq

theorem daysInMonth_pos (year : Int) (month : Nat) : 0 < daysInMonth year month := by
  unfold daysInMonth
  split
  · split <;> decide
  · split <;> decide

namespace Date

/-- The first of January. -/
def newYear (year : Int) : Date where
  year := year
  month := 0
  day := 1
  month_lt := by decide
  day_pos := Nat.one_pos
  day_le := daysInMonth_pos _ _

/-- The day after a date. -/
def next (date : Date) : Date :=
  if inside : date.day < daysInMonth date.year date.month then
    { date with
      day := date.day + 1
      day_pos := Nat.succ_pos _
      day_le := inside }
  else if later : date.month < 11 then
    { year := date.year
      month := date.month + 1
      day := 1
      month_lt := Nat.succ_lt_succ later
      day_pos := Nat.one_pos
      day_le := daysInMonth_pos _ _ }
  else newYear (date.year + 1)

/-! ## Day numbers -/

def daysBeforeMonth (year : Int) : Nat → Nat
  | 0 => 0
  | month + 1 => daysBeforeMonth year month + daysInMonth year month

/-- The days from the first day of the year 1 to the first day of `year`. -/
def daysBeforeYear (year : Int) : Int :=
  365 * (year - 1) + (year - 1) / 4 - (year - 1) / 100 + (year - 1) / 400

def dayNumber (date : Date) : Int :=
  daysBeforeYear date.year + daysBeforeMonth date.year date.month + (date.day - 1)

theorem daysBeforeYear_succ (year : Int) :
    daysBeforeYear (year + 1) = daysBeforeYear year + daysInYear year := by
  unfold daysBeforeYear daysInYear
  by_cases leap : isLeap year
  · rw [if_pos leap]
    unfold isLeap at leap
    omega
  · rw [if_neg leap]
    unfold isLeap at leap
    omega

theorem daysBeforeMonth_twelve (year : Int) : daysBeforeMonth year 12 = daysInYear year := by
  by_cases leap : isLeap year <;> simp [daysBeforeMonth, daysInMonth, daysInYear, leap]

theorem dayNumber_next (date : Date) : date.next.dayNumber = date.dayNumber + 1 := by
  have inside := date.day_le
  unfold next
  split
  · unfold dayNumber
    dsimp only
    omega
  · rename_i last
    split
    · unfold dayNumber
      dsimp only [daysBeforeMonth]
      omega
    · have december : date.month = 11 := by
        have below := date.month_lt
        omega
      have whole : daysBeforeMonth date.year 11 + daysInMonth date.year 11 =
          daysInYear date.year := daysBeforeMonth_twelve date.year
      have succ := daysBeforeYear_succ date.year
      have start : daysBeforeMonth (date.year + 1) 0 = 0 := rfl
      rw [december] at inside last
      unfold dayNumber
      rw [december]
      dsimp only [newYear]
      omega

theorem dayNumber_iterate (date : Date) (count : Nat) :
    (next^[count] date).dayNumber = date.dayNumber + count := by
  induction count with
  | zero => simp
  | succ count ih =>
      rw [Function.iterate_succ_apply', dayNumber_next, ih]
      omega

theorem daysBeforeYear_lt {year later : Int} (earlier : year < later) :
    daysBeforeYear year + daysInYear year ≤ daysBeforeYear later := by
  rw [← daysBeforeYear_succ]
  unfold daysBeforeYear
  omega

theorem daysBeforeMonth_lt (year : Int) {month later : Nat} (earlier : month < later) :
    daysBeforeMonth year month + daysInMonth year month ≤ daysBeforeMonth year later := by
  induction later with
  | zero => exact absurd earlier (Nat.not_lt_zero _)
  | succ later ih =>
      rw [daysBeforeMonth]
      rcases Nat.lt_succ_iff_lt_or_eq.mp earlier with before | rfl
      · have grown := ih before
        omega
      · exact le_rfl

theorem dayNumber_lt_year (date : Date) :
    daysBeforeYear date.year ≤ date.dayNumber ∧
      date.dayNumber < daysBeforeYear date.year + daysInYear date.year := by
  have whole := daysBeforeMonth_twelve date.year
  have below := daysBeforeMonth_lt date.year date.month_lt
  have inside := date.day_le
  have positive := date.day_pos
  unfold dayNumber
  omega

theorem dayNumber_injective : Function.Injective dayNumber := by
  intro date other same
  have dateYear := date.dayNumber_lt_year
  have otherYear := other.dayNumber_lt_year
  have years : date.year = other.year := by
    rcases lt_trichotomy date.year other.year with before | equal | after
    · have apart := daysBeforeYear_lt before
      omega
    · exact equal
    · have apart := daysBeforeYear_lt after
      omega
  have dateDay := date.day_le
  have otherDay := other.day_le
  have datePositive := date.day_pos
  have otherPositive := other.day_pos
  unfold dayNumber at same
  rw [years] at same dateDay
  have months : date.month = other.month := by
    rcases lt_trichotomy date.month other.month with before | equal | after
    · have apart := daysBeforeMonth_lt other.year before
      omega
    · exact equal
    · have apart := daysBeforeMonth_lt other.year after
      omega
  rw [months] at same
  ext
  · exact years
  · exact months
  · omega

/-- The days from one date to a later one, counted one by one. -/
theorem iterate_next_eq_iff {date later : Date} {count : Nat} :
    next^[count] date = later ↔ later.dayNumber = date.dayNumber + count := by
  rw [← dayNumber_iterate]
  exact ⟨fun same => same ▸ rfl, fun same => dayNumber_injective same.symm⟩

end Date

/-- A time of day, with room for a leap second. -/
structure DateTime where
  date : Date
  hour : Nat
  minute : Nat
  second : Nat
  hour_lt : hour < 24
  minute_lt : minute < 60
  second_le : second ≤ 60

namespace DateTime

def secondOfDay (time : DateTime) : Nat := 3600 * time.hour + 60 * time.minute + time.second

/-- The minutes since the calendar begins. -/
def minutes (time : DateTime) : Int :=
  1440 * time.date.dayNumber + 60 * time.hour + time.minute

/-- The seconds since the calendar begins. -/
def seconds (time : DateTime) : Int := 60 * time.minutes + time.second

end DateTime

end Aff4Lite.Lib
