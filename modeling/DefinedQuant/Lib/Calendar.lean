import Mathlib.Data.Int.Notation
import Mathlib.Data.Nat.Notation
import Mathlib.Order.Nat
import Mathlib.Tactic.Cases
import Mathlib.Tactic.SplitIfs

/-!
# The Gregorian calendar and moments of the day

Dates of the years 1 to 9999, the number of a date in the calendar, and the dates before and behind
it. A moment is a date with a time of the day down to microseconds; its instant counts microseconds,
and moving a moment by less than a day moves its instant by as much.
-/

namespace Calendar

/-- The days of a month. -/
def daysInMonth (year month : ℕ) : ℕ :=
  if month ∈ [4, 6, 9, 11] then 30
  else if month = 2 then
    if year % 4 = 0 ∧ (year % 100 ≠ 0 ∨ year % 400 = 0) then 29 else 28
  else 31

/-- A date of the proleptic calendar, as far as `datetime` goes. -/
structure Date where
  year : ℕ
  month : ℕ
  day : ℕ
  year_pos : 1 ≤ year
  year_le : year ≤ 9999
  month_pos : 1 ≤ month
  month_le : month ≤ 12
  day_pos : 1 ≤ day
  day_le : day ≤ daysInMonth year month
  deriving DecidableEq

theorem Date.ext_iff_fields {d e : Date} :
    d = e ↔ d.year = e.year ∧ d.month = e.month ∧ d.day = e.day := by
  constructor
  · rintro rfl
    exact ⟨rfl, rfl, rfl⟩
  · obtain ⟨_, _, _⟩ := d
    obtain ⟨_, _, _⟩ := e
    rintro ⟨rfl, rfl, rfl⟩
    rfl

theorem daysInMonth_bounds (year month : ℕ) : 28 ≤ daysInMonth year month ∧
    daysInMonth year month ≤ 31 := by
  unfold daysInMonth
  split_ifs <;> omega

/-! ## Counting days -/

/-- The days of a year before a month. -/
def daysBeforeMonth (year : ℕ) : ℕ → ℕ
  | 0 => 0
  | 1 => 0
  | month + 2 => daysBeforeMonth year (month + 1) + daysInMonth year (month + 1)

/-- The days before a year, counted from the year 0. -/
def daysBeforeYear : ℕ → ℕ
  | 0 => 0
  | year + 1 => daysBeforeYear year + daysBeforeMonth year 13

/-- The number of a date. -/
def Date.ordinal (d : Date) : ℕ := daysBeforeYear d.year + daysBeforeMonth d.year d.month + d.day

theorem daysBeforeMonth_mono (year : ℕ) {m n : ℕ} (h : m ≤ n) :
    daysBeforeMonth year m ≤ daysBeforeMonth year n := by
  induction h with
  | refl => exact Nat.le_refl _
  | @step k _ ih =>
      refine ih.trans ?_
      cases k with
      | zero => exact Nat.le_refl _
      | succ k => exact Nat.le_add_right _ _

theorem daysBeforeYear_mono {y z : ℕ} (h : y ≤ z) : daysBeforeYear y ≤ daysBeforeYear z := by
  induction h with
  | refl => exact Nat.le_refl _
  | step _ ih => exact ih.trans (Nat.le_add_right _ _)

/-- A date lies within its month. -/
theorem Date.day_within (d : Date) : daysBeforeMonth d.year d.month + d.day
    ≤ daysBeforeMonth d.year (d.month + 1) := by
  have hDay := d.day_le
  have hPos := d.month_pos
  obtain ⟨k, hk⟩ : ∃ k, d.month = k + 1 := ⟨d.month - 1, by omega⟩
  rw [hk] at hDay ⊢
  rw [daysBeforeMonth]
  omega

/-- And its month within its year. -/
theorem Date.month_within (d : Date) : daysBeforeMonth d.year d.month + d.day
    ≤ daysBeforeMonth d.year 13 :=
  d.day_within.trans (daysBeforeMonth_mono _ (by have := d.month_le; omega))

theorem ordinal_lt_of_year {d e : Date} (h : d.year < e.year) : d.ordinal < e.ordinal := by
  have hMonth := d.month_within
  have hYear : daysBeforeYear (d.year + 1) ≤ daysBeforeYear e.year := daysBeforeYear_mono h
  have hPos := e.day_pos
  rw [daysBeforeYear] at hYear
  unfold Date.ordinal
  omega

theorem ordinal_lt_of_month {d e : Date} (hYear : d.year = e.year) (h : d.month < e.month) :
    d.ordinal < e.ordinal := by
  have hDay := d.day_within
  have hMonth : daysBeforeMonth d.year (d.month + 1) ≤ daysBeforeMonth d.year e.month :=
    daysBeforeMonth_mono _ h
  have hPos := e.day_pos
  unfold Date.ordinal
  rw [← hYear]
  omega

/-- Dates of one number are one date. -/
theorem ordinal_injective {d e : Date} (h : d.ordinal = e.ordinal) : d = e := by
  have hYear : d.year = e.year := by
    by_contra hNe
    rcases Nat.lt_or_gt_of_ne hNe with hLt | hGt
    · exact absurd h (ordinal_lt_of_year hLt).ne
    · exact absurd h (ordinal_lt_of_year hGt).ne'
  have hMonth : d.month = e.month := by
    by_contra hNe
    rcases Nat.lt_or_gt_of_ne hNe with hLt | hGt
    · exact absurd h (ordinal_lt_of_month hYear hLt).ne
    · exact absurd h (ordinal_lt_of_month hYear.symm hGt).ne'
  refine Date.ext_iff_fields.2 ⟨hYear, hMonth, ?_⟩
  unfold Date.ordinal at h
  rw [hYear, hMonth] at h
  omega

/-! ## The next and the previous date -/

theorem daysInMonth_pos (year month : ℕ) : 1 ≤ daysInMonth year month :=
  (by decide : 1 ≤ 28).trans (daysInMonth_bounds year month).1

/-- The date behind, unless the calendar ends. -/
def Date.next (d : Date) : Option Date :=
  if hDay : d.day < daysInMonth d.year d.month then
    some { d with day := d.day + 1, day_pos := Nat.le_add_left _ _, day_le := hDay }
  else if hMonth : d.month < 12 then
    some { d with month := d.month + 1, day := 1, month_pos := Nat.le_add_left _ _, month_le :=
      hMonth,
                  day_pos := Nat.le_refl 1, day_le := daysInMonth_pos _ _ }
  else if hYear : d.year < 9999 then
    some { year := d.year + 1, month := 1, day := 1, year_pos := Nat.le_add_left _ _, year_le :=
      hYear,
           month_pos := Nat.le_refl 1, month_le := by decide, day_pos := Nat.le_refl 1,
           day_le := daysInMonth_pos _ _ }
  else none

/-- The date before, unless the calendar begins. -/
def Date.prev (d : Date) : Option Date :=
  if hDay : 1 < d.day then
    some { d with day := d.day - 1, day_pos := by omega, day_le := (Nat.sub_le _ _).trans d.day_le }
  else if hMonth : 1 < d.month then
    some { d with month := d.month - 1, day := daysInMonth d.year (d.month - 1), month_pos := by omega,
                  month_le := (Nat.sub_le _ _).trans d.month_le, day_pos := daysInMonth_pos _ _,
                  day_le := Nat.le_refl _ }
  else if hYear : 1 < d.year then
    some { year := d.year - 1, month := 12, day := 31, year_pos := by omega,
           year_le := (Nat.sub_le _ _).trans d.year_le, month_pos := by decide, month_le := by decide,
           day_pos := by decide, day_le := by simp [daysInMonth] }
  else none

theorem daysBeforeMonth_succ {year month : ℕ} (h : 1 ≤ month) :
    daysBeforeMonth year (month + 1) = daysBeforeMonth year month + daysInMonth year month := by
  obtain ⟨k, rfl⟩ : ∃ k, month = k + 1 := ⟨month - 1, by omega⟩
  rfl

theorem ordinal_next {d e : Date} (h : d.next = some e) : e.ordinal = d.ordinal + 1 := by
  have hPos := d.month_pos
  have hMonthLe := d.month_le
  have hDayLe := d.day_le
  unfold Date.next at h
  split_ifs at h with hDay hMonth hYear
  · cases h
    unfold Date.ordinal
    simp only
    omega
  · cases h
    have hSucc := @daysBeforeMonth_succ d.year _ hPos
    unfold Date.ordinal
    simp only
    omega
  · cases h
    have hTwelve : d.month = 12 := by omega
    have hSucc := @daysBeforeMonth_succ d.year _ hPos
    have hFirst : daysBeforeMonth (d.year + 1) 1 = 0 := rfl
    rw [hTwelve] at hSucc hDayLe hDay
    change daysBeforeMonth d.year 13 = _ at hSucc
    unfold Date.ordinal
    simp only [daysBeforeYear, hFirst, hTwelve]
    omega

theorem ordinal_prev {d e : Date} (h : d.prev = some e) : e.ordinal + 1 = d.ordinal := by
  have hMonthPos := d.month_pos
  have hDayPos := d.day_pos
  unfold Date.prev at h
  split_ifs at h with hDay hMonth hYear
  · cases h
    unfold Date.ordinal
    simp only
    omega
  · cases h
    have hSucc := @daysBeforeMonth_succ d.year (d.month - 1) (by omega)
    rw [Nat.sub_add_cancel hMonthPos] at hSucc
    unfold Date.ordinal
    simp only
    omega
  · cases h
    have hOne : d.month = 1 := by omega
    have hSucc := @daysBeforeMonth_succ (d.year - 1) 12 (by decide)
    have hDecember : daysInMonth (d.year - 1) 12 = 31 := by simp [daysInMonth]
    have hFirst : daysBeforeMonth d.year 1 = 0 := rfl
    change daysBeforeMonth (d.year - 1) 13 = _ at hSucc
    rw [hDecember] at hSucc
    obtain ⟨y, hy⟩ : ∃ y, d.year = y + 1 := ⟨d.year - 1, by omega⟩
    rw [hy, Nat.add_sub_cancel] at hSucc
    rw [hy] at hFirst
    unfold Date.ordinal
    simp only [hOne, hFirst, hy, Nat.add_sub_cancel, daysBeforeYear]
    omega

/-- Nothing lies behind the last date. -/
theorem ordinal_le_of_next {d : Date} (h : d.next = none) (e : Date) : e.ordinal ≤ d.ordinal := by
  unfold Date.next at h
  split_ifs at h with hDay hMonth hYear
  have hYearLe := e.year_le
  have hMonthLe := e.month_le
  rcases Nat.lt_or_ge e.year d.year with hLt | hGe
  · exact (ordinal_lt_of_year hLt).le
  · have hSame : e.year = d.year := by have := d.year_le; omega
    rcases Nat.lt_or_ge e.month d.month with hLt | hGe
    · exact (ordinal_lt_of_month hSame hLt).le
    · have hMonthSame : e.month = d.month := by have := d.month_le; omega
      have hDayLe := e.day_le
      unfold Date.ordinal
      rw [hSame, hMonthSame] at hDayLe ⊢
      omega

/-- Nothing lies before the first date. -/
theorem ordinal_le_of_prev {d : Date} (h : d.prev = none) (e : Date) : d.ordinal ≤ e.ordinal := by
  unfold Date.prev at h
  split_ifs at h with hDay hMonth hYear
  have hYearPos := e.year_pos
  have hMonthPos := e.month_pos
  have hDayPos := e.day_pos
  rcases Nat.lt_or_ge d.year e.year with hLt | hGe
  · exact (ordinal_lt_of_year hLt).le
  · have hSame : d.year = e.year := by have := d.year_pos; omega
    rcases Nat.lt_or_ge d.month e.month with hLt | hGe
    · exact (ordinal_lt_of_month hSame hLt).le
    · have hMonthSame : d.month = e.month := by have := d.month_pos; omega
      have := d.day_pos
      unfold Date.ordinal
      rw [hSame, hMonthSame]
      omega

/-! ## Moments -/

/-- A date with a time of the day. -/
structure Moment where
  date : Date
  minutes : ℕ
  second : ℕ
  microsecond : ℕ
  minutes_lt : minutes < 1440
  second_lt : second < 60
  microsecond_lt : microsecond < 1000000
  deriving DecidableEq

namespace Moment

/-- The hour of the day. -/
def hour (m : Moment) : ℕ := m.minutes / 60

/-- The minute of the hour. -/
def minute (m : Moment) : ℕ := m.minutes % 60

/-- The microseconds that a moment counts. -/
def instant (m : Moment) : ℤ :=
  ((m.date.ordinal * 1440 + m.minutes) * 60 + m.second) * 1000000 + m.microsecond

theorem instant_injective {m n : Moment} (h : m.instant = n.instant) : m = n := by
  have hm := m.minutes_lt
  have hn := n.minutes_lt
  have hms := m.second_lt
  have hns := n.second_lt
  have hmu := m.microsecond_lt
  have hnu := n.microsecond_lt
  unfold instant at h
  have hMinutes : m.date.ordinal * 1440 + m.minutes = n.date.ordinal * 1440 + n.minutes := by omega
  have hDate : m.date = n.date := ordinal_injective (by omega)
  have hFields : m.minutes = n.minutes ∧ m.second = n.second ∧ m.microsecond = n.microsecond :=
    by omega
  obtain ⟨_, _, _, _⟩ := m
  obtain ⟨_, _, _, _⟩ := n
  obtain ⟨rfl, rfl, rfl⟩ := hFields
  cases hDate
  rfl

/-- The moment that is a number of minutes earlier, for less than a day. -/
def minusMinutes (m : Moment) (offset : ℤ) : Option Moment :=
  let total : ℤ := m.minutes - offset
  if hLow : total < 0 then
    if hDay : (total + 1440).toNat < 1440 then
      m.date.prev.map (fun date => { m with date, minutes := (total + 1440).toNat, minutes_lt :=
        hDay })
    else none
  else if hHigh : total < 1440 then
    some { m with minutes := total.toNat, minutes_lt := by omega }
  else if hDay : (total - 1440).toNat < 1440 then
    m.date.next.map (fun date => { m with date, minutes := (total - 1440).toNat, minutes_lt :=
      hDay })
  else none

theorem instant_minusMinutes {m n : Moment} {offset : ℤ} (hLow : -1440 < offset)
    (hHigh : offset < 1440)
    (h : m.minusMinutes offset = some n) : n.instant = m.instant - offset * 60000000 := by
  have hm := m.minutes_lt
  unfold minusMinutes at h
  dsimp only at h
  split_ifs at h with hBefore hDay hWithin hDay
  · obtain ⟨date, hDate, rfl⟩ := Option.map_eq_some_iff.1 h
    have hOrdinal := ordinal_prev hDate
    unfold instant
    simp only
    omega
  · cases h
    unfold instant
    simp only
    omega
  · obtain ⟨date, hDate, rfl⟩ := Option.map_eq_some_iff.1 h
    have hOrdinal := ordinal_next hDate
    unfold instant
    simp only
    omega

/-- Moving a moment fails only where the calendar has no moment. -/
theorem minusMinutes_eq_none {m : Moment} {offset : ℤ} (hLow : -1440 < offset)
    (hHigh : offset < 1440) (h : m.minusMinutes offset = none) (n : Moment) :
    n.instant ≠ m.instant - offset * 60000000 := by
  have hm := m.minutes_lt
  have hn := n.minutes_lt
  have hms := m.second_lt
  have hns := n.second_lt
  have hmu := m.microsecond_lt
  have hnu := n.microsecond_lt
  unfold minusMinutes at h
  dsimp only at h
  intro hEq
  unfold instant at hEq
  split_ifs at h with hBefore hDay hWithin hDay
  · rw [Option.map_eq_none_iff] at h
    have hFirst := ordinal_le_of_prev h n.date
    omega
  · omega
  · rw [Option.map_eq_none_iff] at h
    have hLast := ordinal_le_of_next h n.date
    omega
  · omega

end Moment

end Calendar
